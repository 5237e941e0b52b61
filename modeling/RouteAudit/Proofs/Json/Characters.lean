import RouteAudit.Proofs.Json.Reader

/-!
# Written characters are read back

Reports and pages escape different characters, and a page escapes some of them twice over: what
ASCII lacks is written by its units, and then the characters that mean something to a page are
hidden by theirs.  Either way one character is written for one character, so it is enough that the
reader takes back each of them.

## What is here

* `Numeral.digitsValue?_toDigits` — digits have the value they were written for;
* `Undone` — a way of escaping that the reader takes back;
* `undone_escapeControl`, `undone_pageEscape` — both ways are;
* `readText_flatMap`, `readValue_quoted` — and with each character the whole text.
-/

set_option autoImplicit false

namespace RouteAudit

/-! ## Digits -/

namespace Numeral

theorem digitValue?_digitChar {d : Nat} (h : d < 16) : digitValue? d.digitChar = some d := by
  have hall : ∀ d : Fin 16, digitValue? d.val.digitChar = some d.val := by decide
  exact hall ⟨d, h⟩

/-- Digits have the value that they were written for. -/
theorem digitsValue?_toDigits {base : Nat} (h1 : 1 < base) (h16 : base ≤ 16) (n : Nat) :
    digitsValue? base 0 (Nat.toDigits base n) = some n := by
  induction n using Nat.strongRecOn with
  | ind n ih =>
    by_cases hn : n < base
    · rw [Nat.toDigits_of_lt_base hn]
      simp [digitsValue?, digitValue?_digitChar (Nat.lt_of_lt_of_le hn h16), hn]
    · have hle : base ≤ n := Nat.le_of_not_lt hn
      have hdigit : n % base < base := Nat.mod_lt n (by omega)
      rw [Nat.toDigits_of_base_le h1 hle,
        digitsValue?_concat (digitValue?_digitChar (Nat.lt_of_lt_of_le hdigit h16)) hdigit,
        ih (n / base) (Nat.div_lt_self (by omega) h1), Option.map_some, Nat.mul_comm,
        Nat.div_add_mod]

/-- Zeros in front do not count. -/
theorem digitsValue?_replicate {base : Nat} (h : 0 < base) (k : Nat) (s : List Char) :
    digitsValue? base 0 (List.replicate k '0' ++ s) = digitsValue? base 0 s := by
  have hzero : digitValue? '0' = some 0 := by decide
  induction k with
  | zero => rfl
  | succ k ih => simp [List.replicate_succ, digitsValue?, hzero, h, ih]

end Numeral

namespace Json

/-! ## Units -/

/-- The four digits of a unit. -/
def unitDigits (n : Nat) : List Char := Text.padZero 4 (Text.hexDigits n)

theorem length_unitDigits {n : Nat} (h : n < 0x10000) : (unitDigits n).length = 4 := by
  have hlen : (Nat.toDigits 16 n).length ≤ 4 :=
    (Nat.length_toDigits_le_iff (by decide) (by decide)).2 h
  rw [unitDigits, Text.padZero, Text.hexDigits, List.length_append, List.length_replicate]
  omega

/-- A unit is read back. -/
theorem readUnit?_unitDigits {n : Nat} (h : n < 0x10000) (r : List Char) :
    readUnit? (unitDigits n ++ r) = some (n, r) := by
  have hvalue : Numeral.digitsValue? 16 0 (unitDigits n) = some n := by
    rw [unitDigits, Text.padZero, Numeral.digitsValue?_replicate (by decide), Text.hexDigits,
      Numeral.digitsValue?_toDigits (by decide) (by decide)]
  obtain ⟨a, b, c, d, hs⟩ : ∃ a b c d, unitDigits n = [a, b, c, d] := by
    have hlength := length_unitDigits h
    generalize unitDigits n = digits at hlength ⊢
    rcases digits with _ | ⟨a, _ | ⟨b, _ | ⟨c, _ | ⟨d, _ | ⟨e, s⟩⟩⟩⟩⟩ <;> simp at hlength
    exact ⟨a, b, c, d, rfl⟩
  rw [hs] at hvalue ⊢
  simp only [List.cons_append, List.nil_append, readUnit?, hvalue, Option.map_some]

theorem unitEscape_append (n : Nat) (r : List Char) :
    unitEscape n ++ r = '\\' :: 'u' :: (unitDigits n ++ r) := rfl

theorem readChar?_unitEscape (n : Nat) (r : List Char) :
    readChar? (unitEscape n ++ r) = readUnits? (unitDigits n ++ r) := rfl

/-- A unit that is no half is read back as its character. -/
theorem readChar?_unit {n : Nat} (hn : n < 0x10000) (hfirst : isFirstHalf n = false)
    (hsecond : isSecondHalf n = false) (r : List Char) :
    readChar? (unitEscape n ++ r) = some (Char.ofNat n, r) := by
  rw [readChar?_unitEscape, readUnits?, readUnit?_unitDigits hn]
  simp [hfirst, hsecond]

/-- Two halves are read back as the character they make. -/
theorem readChar?_pair {n m : Nat} (hfirst : isFirstHalf n = true) (hsecond : isSecondHalf m = true)
    (r : List Char) :
    readChar? (unitEscape n ++ unitEscape m ++ r) = some (pairChar n m, r) := by
  have hn : n < 0x10000 := by
    simp only [isFirstHalf, Bool.and_eq_true, decide_eq_true_eq] at hfirst
    omega
  have hm : m < 0x10000 := by
    simp only [isSecondHalf, Bool.and_eq_true, decide_eq_true_eq] at hsecond
    omega
  have hrest : readSecondHalf? (unitEscape m ++ r) = some (m, r) := by
    rw [unitEscape_append]
    simp [readSecondHalf?, afterLit, readUnit?_unitDigits hm, hsecond]
  rw [List.append_assoc, readChar?_unitEscape, readUnits?, readUnit?_unitDigits hn]
  simp [hfirst, hrest]

/-! ## Characters -/

/-- A way of escaping that the reader takes back, character by character. -/
def Undone (escape : Char → List Char) : Prop :=
  ∀ c r, readChar? (escape c ++ r) = some (c, r)

/-- A character of the first plane is no half of a pair. -/
theorem not_half (c : Char) : isFirstHalf c.toNat = false ∧ isSecondHalf c.toNat = false := by
  have hvalid : c.toNat < 0xD800 ∨ 0xDFFF < c.toNat ∧ c.toNat < 0x110000 := c.valid
  constructor
  · rw [isFirstHalf, Bool.and_eq_false_iff, decide_eq_false_iff_not, decide_eq_false_iff_not]
    omega
  · rw [isSecondHalf, Bool.and_eq_false_iff, decide_eq_false_iff_not, decide_eq_false_iff_not]
    omega

theorem readChar?_unit_toNat {c : Char} (hc : c.toNat < 0x10000) (r : List Char) :
    readChar? (unitEscape c.toNat ++ r) = some (c, r) := by
  rw [readChar?_unit hc (not_half c).1 (not_half c).2, Char.ofNat_toNat]

/-- What has to be escaped in every text is read back. -/
theorem undone_escapeControl : Undone escapeControl := by
  intro c r
  by_cases hshort : c ∈ ['"', '\\', '\n', '\r', '\t', '\x08', '\x0c']
  · simp only [List.mem_cons, List.not_mem_nil, or_false] at hshort
    rcases hshort with rfl | rfl | rfl | rfl | rfl | rfl | rfl <;> rfl
  · simp only [List.mem_cons, List.not_mem_nil, or_false, not_or] at hshort
    obtain ⟨hquote, hslash, hn, hr, ht, hb, hf⟩ := hshort
    by_cases hcontrol : c.toNat < 0x20
    · have hesc : escapeControl c = unitEscape c.toNat := by
        simp [escapeControl, hquote, hslash, hn, hr, ht, hb, hf, hcontrol]
      rw [hesc, readChar?_unit_toNat (by omega)]
    · have hesc : escapeControl c = [c] := by
        simp [escapeControl, hquote, hslash, hn, hr, ht, hb, hf, hcontrol]
      rw [hesc, List.singleton_append, readChar?, if_neg hslash]
      simp [hquote, hcontrol]

/-- A character beyond the first plane is the pair that it is written by. -/
theorem pairChar_eq {c : Char} (hc : 0x10000 ≤ c.toNat) :
    pairChar (0xD800 + (c.toNat - 0x10000) / 0x400) (0xDC00 + (c.toNat - 0x10000) % 0x400) = c := by
  have hsum : 0x10000 + (0xD800 + (c.toNat - 0x10000) / 0x400 - 0xD800) * 0x400
      + (0xDC00 + (c.toNat - 0x10000) % 0x400 - 0xDC00) = c.toNat := by omega
  rw [pairChar, hsum, Char.ofNat_toNat]

/-- What is not ASCII is read back. -/
theorem undone_escapeAscii : Undone escapeAscii := by
  intro c r
  have htop : c.toNat < 0x110000 := by
    have hvalid : c.toNat < 0xD800 ∨ 0xDFFF < c.toNat ∧ c.toNat < 0x110000 := c.valid
    omega
  rw [escapeAscii]
  split
  · exact undone_escapeControl c r
  · split
    · rename_i hplane
      exact readChar?_unit_toNat hplane r
    · rename_i hplane
      rw [readChar?_pair, pairChar_eq (by omega)]
      · simp only [isFirstHalf, Bool.and_eq_true, decide_eq_true_eq]
        omega
      · simp only [isSecondHalf, Bool.and_eq_true, decide_eq_true_eq]
        omega

/-! ## Characters on a page -/

/-- How a character of a text is written inside a page. -/
def pageEscape (c : Char) : List Char := htmlSafe (escapeAscii c)

/-- Whether a character means something to a page. -/
def isMarkup (c : Char) : Bool := c = '<' || c = '>' || c = '&' || c = '\''

theorem htmlSafe_append (s t : List Char) : htmlSafe (s ++ t) = htmlSafe s ++ htmlSafe t :=
  List.flatMap_append

theorem htmlSafe_cons (c : Char) (s : List Char) : htmlSafe (c :: s) = hideMarkup c ++ htmlSafe s :=
  List.flatMap_cons

/-- A text that means nothing to a page is left alone. -/
theorem htmlSafe_of_all {s : List Char} (h : ∀ c ∈ s, isMarkup c = false) : htmlSafe s = s := by
  induction s with
  | nil => rfl
  | cons c s ih =>
    obtain ⟨hc, hs⟩ := List.forall_mem_cons.1 h
    have hhide : hideMarkup c = [c] := by
      rw [isMarkup] at hc
      simp [hideMarkup, hc]
    rw [htmlSafe_cons, hhide, ih hs, List.singleton_append]

theorem isMarkup_digitChar (d : Nat) : isMarkup d.digitChar = false := by
  simp [isMarkup]

theorem isMarkup_of_mem_toDigits {base n : Nat} {c : Char} (hb : 1 < base)
    (h : c ∈ Nat.toDigits base n) : isMarkup c = false := by
  induction n using Nat.strongRecOn with
  | ind n ih =>
    rw [Nat.toDigits_eq_if hb] at h
    split at h
    · rw [List.mem_singleton.1 h, isMarkup_digitChar]
    · rename_i hn
      rcases List.mem_append.1 h with h | h
      · exact ih (n / base) (Nat.div_lt_self (by omega) hb) h
      · rw [List.mem_singleton.1 h, isMarkup_digitChar]

theorem isMarkup_of_mem_unitEscape {n : Nat} {c : Char} (h : c ∈ unitEscape n) :
    isMarkup c = false := by
  rw [unitEscape, Text.padZero, Text.hexDigits] at h
  simp only [List.mem_append, List.mem_cons, List.not_mem_nil, or_false, List.mem_replicate] at h
  rcases h with (rfl | rfl) | ⟨-, rfl⟩ | h
  · rfl
  · rfl
  · rfl
  · exact isMarkup_of_mem_toDigits (by decide) h

theorem isMarkup_of_mem_escapeControl {c d : Char} (hc : isMarkup c = false)
    (h : d ∈ escapeControl c) : isMarkup d = false := by
  simp only [escapeControl] at h
  repeat' split at h
  all_goals
    first
    | exact isMarkup_of_mem_unitEscape h
    | simp only [List.mem_cons, List.not_mem_nil, or_false] at h
      rcases h with rfl | rfl <;> first | rfl | assumption

theorem isMarkup_of_mem_escapeAscii {c d : Char} (hc : isMarkup c = false)
    (h : d ∈ escapeAscii c) : isMarkup d = false := by
  rw [escapeAscii] at h
  split at h
  · exact isMarkup_of_mem_escapeControl hc h
  · split at h
    · exact isMarkup_of_mem_unitEscape h
    · rcases List.mem_append.1 h with h | h <;> exact isMarkup_of_mem_unitEscape h

theorem pageEscape_of_isMarkup {c : Char} (hc : isMarkup c = true) :
    pageEscape c = unitEscape c.toNat := by
  simp only [isMarkup, Bool.or_eq_true, decide_eq_true_eq] at hc
  rcases hc with ((rfl | rfl) | rfl) | rfl <;> rfl

/-- **Hidden characters** are read back as well. -/
theorem undone_pageEscape : Undone pageEscape := by
  intro c r
  cases hc : isMarkup c with
  | true =>
    rw [pageEscape_of_isMarkup hc]
    simp only [isMarkup, Bool.or_eq_true, decide_eq_true_eq] at hc
    exact readChar?_unit_toNat (by rcases hc with ((rfl | rfl) | rfl) | rfl <;> decide) r
  | false =>
    rw [pageEscape, htmlSafe_of_all fun d => isMarkup_of_mem_escapeAscii hc]
    exact undone_escapeAscii c r

/-! ## Texts -/

variable {escape : Char → List Char}

/-- A character is not written by nothing. -/
theorem Undone.length_pos (h : Undone escape) (c : Char) : 0 < (escape c).length := by
  refine List.length_pos_iff.2 fun hnil => ?_
  have hread := h c []
  rw [hnil] at hread
  cases hread

/-- No character is written in a way that looks like the closing quote. -/
theorem Undone.afterLit_quote (h : Undone escape) (c : Char) (r : List Char) :
    afterLit ['"'] (escape c ++ r) = none := by
  rw [Option.eq_none_iff_forall_ne_some]
  intro t ht
  have hread := h c r
  rw [afterLit_eq_some_iff.1 ht] at hread
  cases hread

/-- **A text is read back** up to its closing quote. -/
theorem readText_flatMap (h : Undone escape) (s r : List Char) (steps : Nat)
    (hsteps : (s.flatMap escape).length < steps) :
    readText steps (s.flatMap escape ++ '"' :: r) = some (s, r) := by
  induction s generalizing steps with
  | nil =>
    obtain ⟨steps, rfl⟩ := Nat.exists_eq_add_of_lt hsteps
    rfl
  | cons c s ih =>
    rw [List.flatMap_cons, List.length_append] at hsteps
    have hpos := h.length_pos c
    obtain ⟨steps, rfl⟩ : ∃ k, steps = k + 1 := ⟨steps - 1, by omega⟩
    rw [List.flatMap_cons, List.append_assoc, readText, h.afterLit_quote c, h c]
    dsimp only
    rw [ih _ (by omega)]
    rfl

end Json
end RouteAudit
