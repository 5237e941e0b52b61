import Mathlib.Computability.Language
import RouteAudit.Pattern.Basic

/-!
# What a pattern stands for

A pattern is read off a text by taking each run of blanks or of word characters whole and never
giving any of it back.  What the pattern *stands for* knows nothing of that order of work: each
piece stands for a language, pieces that follow one another for the product of their languages, and
phrases of which any may stand for the sum.  This file proves that reading finds every text of the
language all the same.

## What is here

* `Source.text`, `Source.sign`, `Source.blanks`, `Source.gap`, `Source.word` — the languages that
  source text is made of, in terms of which a pattern can be described without its pieces;
* `Phrase.language`, `Pattern.language` — the texts that a phrase and a pattern stand for;
* `Phrase.isSettled` — a test that can be run: every run in the phrase is followed by something that
  cannot go on with the run.  This is what makes it safe to take a run whole;
* `Phrase.rest?_eq_some_iff` — reading a settled phrase off a text succeeds just if the text begins
  with a text of the language, and then it leaves what is behind that text.

That word characters end where blanks begin needs a fact about all of Unicode: no blank is a word
character (`Text.isWord_eq_false_of_isBlank`).
-/

set_option autoImplicit false

namespace RouteAudit

/-! ## Blanks are no word characters -/

namespace Text

/-- The blanks, as closed ranges of code points. -/
def blankRanges : List (Nat × Nat) :=
  [(0x09, 0x0D), (0x1C, 0x20), (0x85, 0x85), (0xA0, 0xA0), (0x1680, 0x1680), (0x2000, 0x200A),
    (0x2028, 0x2028), (0x2029, 0x2029), (0x202F, 0x202F), (0x205F, 0x205F), (0x3000, 0x3000)]

theorem exists_blankRange {c : Char} (h : isBlank c = true) :
    ∃ b ∈ blankRanges, b.1 ≤ c.toNat ∧ c.toNat ≤ b.2 := by
  simp only [isBlank, Bool.or_eq_true, Bool.and_eq_true, decide_eq_true_eq, beq_iff_eq,
    eq_comm (a := c.toNat), Nat.le_antisymm_iff] at h
  simpa only [blankRanges, List.exists_mem_cons_iff, List.not_mem_nil, false_and, exists_false,
    or_false, or_assoc] using h

theorem isWord_blankRanges : ∀ b ∈ blankRanges, ∀ k ≤ b.2 - b.1,
    isWord (Char.ofNat (b.1 + k)) = false := by
  decide +kernel

/-- **No blank is a word character.** -/
theorem isWord_eq_false_of_isBlank {c : Char} (h : isBlank c = true) : isWord c = false := by
  obtain ⟨b, hb, hlo, hhi⟩ := exists_blankRange h
  have hcode := isWord_blankRanges b hb (c.toNat - b.1) (Nat.sub_le_sub_right hhi b.1)
  rwa [Nat.add_sub_cancel' hlo, Char.ofNat_toNat] at hcode

theorem isBlank_eq_false_of_isWord {c : Char} (h : isWord c = true) : isBlank c = false := by
  rw [← Bool.not_eq_true]
  intro hblank
  rw [isWord_eq_false_of_isBlank hblank] at h
  exact Bool.false_ne_true h

end Text

/-! ## Languages -/

namespace Source

/-- Just this text. -/
def text (t : String) : Language Char := {t.toList}

/-- Just this character. -/
def sign (c : Char) : Language Char := {[c]}

/-- Any number of blanks, also none. -/
def blanks : Language Char := {w | ∀ c ∈ w, Text.isBlank c = true}

/-- At least one blank. -/
def gap : Language Char := {w | w ≠ [] ∧ ∀ c ∈ w, Text.isBlank c = true}

/-- At least one word character, and nothing else. -/
def word : Language Char := {w | w ≠ [] ∧ ∀ c ∈ w, Text.isWord c = true}

theorem mem_text {t : String} {w : List Char} : w ∈ text t ↔ w = t.toList := Iff.rfl

theorem mem_blanks {w : List Char} : w ∈ blanks ↔ ∀ c ∈ w, Text.isBlank c = true := Iff.rfl

theorem mem_gap {w : List Char} : w ∈ gap ↔ w ≠ [] ∧ ∀ c ∈ w, Text.isBlank c = true := Iff.rfl

theorem mem_word {w : List Char} : w ∈ word ↔ w ≠ [] ∧ ∀ c ∈ w, Text.isWord c = true := Iff.rfl

end Source

/-- The texts that a piece stands for. -/
def Piece.language : Piece → Language Char
  | .lit t => {t}
  | .blanks => Source.blanks
  | .gap => Source.gap
  | .word => Source.word

/-- The texts that a phrase stands for: a text of each piece, one behind the other. -/
def Phrase.language (ps : Phrase) : Language Char := (ps.map Piece.language).prod

/-- The texts that a pattern stands for: those of its phrases. -/
def Pattern.language (p : Pattern) : Language Char := (p.map Phrase.language).sum

theorem Piece.mem_language_lit {t w : List Char} : w ∈ (Piece.lit t).language ↔ w = t := Iff.rfl

theorem Phrase.mem_language_nil {w : List Char} : w ∈ Phrase.language [] ↔ w = [] :=
  Language.mem_one w

theorem Phrase.mem_language_cons {p : Piece} {ps : Phrase} {w : List Char} :
    w ∈ Phrase.language (p :: ps) ↔ ∃ a ∈ p.language, ∃ b ∈ Phrase.language ps, a ++ b = w := by
  rw [Phrase.language, List.map_cons, List.prod_cons, Language.mem_mul]
  rfl

theorem Pattern.mem_language {p : Pattern} {w : List Char} :
    w ∈ p.language ↔ ∃ ps ∈ p, w ∈ Phrase.language ps := by
  induction p with
  | nil => simp [Pattern.language, Language.notMem_zero]
  | cons ps p ih =>
    rw [Pattern.language, List.map_cons, List.sum_cons, Language.mem_add, ← Pattern.language, ih]
    simp

/-! ## What is read stands for the phrase -/

/-- A piece takes one of its texts. -/
theorem Piece.exists_of_rest? {p : Piece} {s r : List Char} (h : p.rest? s = some r) :
    ∃ w ∈ p.language, s = w ++ r := by
  -- a run that is not empty is its first character and the run behind it
  have hrun : ∀ {class? : Char → Bool} {c : Char} (cs : List Char), class? c = true →
      ∀ d ∈ c :: cs.takeWhile class?, class? d = true := by
    intro class? c cs hc d hd
    rcases List.mem_cons.1 hd with rfl | hd
    · exact hc
    · exact List.all_eq_true.1 List.all_takeWhile d hd
  cases p with
  | lit t => exact ⟨t, rfl, afterLit_eq_some_iff.1 h⟩
  | blanks =>
    obtain rfl := Option.some.inj h
    exact ⟨s.takeWhile Text.isBlank, List.all_eq_true.1 List.all_takeWhile,
      List.takeWhile_append_dropWhile.symm⟩
  | gap =>
    cases s with
    | nil => cases h
    | cons c cs =>
      simp only [Piece.rest?] at h
      split at h <;> cases h
      rename_i hc
      exact ⟨c :: cs.takeWhile Text.isBlank, ⟨List.cons_ne_nil _ _, hrun cs hc⟩, by simp⟩
  | word =>
    cases s with
    | nil => cases h
    | cons c cs =>
      simp only [Piece.rest?] at h
      split at h <;> cases h
      rename_i hc
      exact ⟨c :: cs.takeWhile Text.isWord, ⟨List.cons_ne_nil _ _, hrun cs hc⟩, by simp⟩

/-- A phrase takes one of its texts. -/
theorem Phrase.exists_of_rest? {ps : Phrase} {s r : List Char} (h : Phrase.rest? ps s = some r) :
    ∃ w ∈ Phrase.language ps, s = w ++ r := by
  induction ps generalizing s with
  | nil => exact ⟨[], Phrase.mem_language_nil.2 rfl, Option.some.inj h⟩
  | cons p ps ih =>
    rw [Phrase.rest?] at h
    split at h
    · cases h
    · rename_i t ht
      obtain ⟨a, ha, rfl⟩ := Piece.exists_of_rest? ht
      obtain ⟨b, hb, rfl⟩ := ih h
      exact ⟨a ++ b, Phrase.mem_language_cons.2 ⟨a, ha, b, hb, rfl⟩,
        (List.append_assoc a b r).symm⟩

/-! ## Every text of a settled phrase is read -/

/-- Whether a run of blanks ends where the phrase begins. -/
def Phrase.endsBlanks : Phrase → Bool
  | .lit (c :: _) :: _ => !Text.isBlank c
  | .word :: _ => true
  | _ => false

/-- Whether a run of word characters ends where the phrase begins. -/
def Phrase.endsWord : Phrase → Bool
  | .lit (c :: _) :: _ => !Text.isWord c
  | .gap :: _ => true
  | .blanks :: ps => Phrase.endsWord ps
  | _ => false

/-- Whether every run in the phrase ends where the next piece begins. -/
def Phrase.isSettled : Phrase → Bool
  | [] => true
  | .lit _ :: ps => Phrase.isSettled ps
  | .word :: ps => Phrase.endsWord ps && Phrase.isSettled ps
  | .blanks :: ps => Phrase.endsBlanks ps && Phrase.isSettled ps
  | .gap :: ps => Phrase.endsBlanks ps && Phrase.isSettled ps

theorem Phrase.exists_cons_of_endsBlanks {ps : Phrase} (h : Phrase.endsBlanks ps = true)
    {w : List Char} (hw : w ∈ Phrase.language ps) : ∃ c t, w = c :: t ∧ Text.isBlank c = false := by
  unfold Phrase.endsBlanks at h
  split at h
  · rename_i c t ps
    obtain ⟨a, rfl, b, -, rfl⟩ := Phrase.mem_language_cons.1 hw
    exact ⟨c, t ++ b, rfl, by simpa using h⟩
  · rename_i ps
    obtain ⟨a, ha, b, -, rfl⟩ := Phrase.mem_language_cons.1 hw
    obtain ⟨hne, hword⟩ := Source.mem_word.1 ha
    obtain ⟨c, t, rfl⟩ := List.exists_cons_of_ne_nil hne
    exact ⟨c, t ++ b, rfl, Text.isBlank_eq_false_of_isWord (hword c List.mem_cons_self)⟩
  · cases h

theorem Phrase.exists_cons_of_endsWord {ps : Phrase} (h : Phrase.endsWord ps = true)
    {w : List Char} (hw : w ∈ Phrase.language ps) : ∃ c t, w = c :: t ∧ Text.isWord c = false := by
  fun_induction Phrase.endsWord ps generalizing w with
  | case1 c t ps =>
    obtain ⟨a, rfl, b, -, rfl⟩ := Phrase.mem_language_cons.1 hw
    exact ⟨c, t ++ b, rfl, by simpa using h⟩
  | case2 ps =>
    obtain ⟨a, ha, b, -, rfl⟩ := Phrase.mem_language_cons.1 hw
    obtain ⟨hne, hblank⟩ := Source.mem_gap.1 ha
    obtain ⟨c, t, rfl⟩ := List.exists_cons_of_ne_nil hne
    exact ⟨c, t ++ b, rfl, Text.isWord_eq_false_of_isBlank (hblank c List.mem_cons_self)⟩
  | case3 ps ih =>
    obtain ⟨a, ha, b, hb, rfl⟩ := Phrase.mem_language_cons.1 hw
    cases a with
    | nil => exact ih h hb
    | cons c t =>
      exact ⟨c, t ++ b, rfl, Text.isWord_eq_false_of_isBlank (ha c List.mem_cons_self)⟩
  | case4 => cases h

/-- A run is taken whole where the next character is not of its class. -/
theorem dropWhile_run {class? : Char → Bool} {a b : List Char} (ha : ∀ c ∈ a, class? c = true)
    (hb : ∃ c t, b = c :: t ∧ class? c = false) : (a ++ b).dropWhile class? = b := by
  obtain ⟨c, t, rfl, hc⟩ := hb
  rw [List.dropWhile_append_of_pos ha, List.dropWhile_cons_of_neg (by simp [hc])]

/-- A run and what comes behind it are told apart in one way only. -/
theorem run_append_inj {class? : Char → Bool} {a b a' b' : List Char}
    (ha : ∀ c ∈ a, class? c = true) (hb : ∃ c t, b = c :: t ∧ class? c = false)
    (ha' : ∀ c ∈ a', class? c = true) (hb' : ∃ c t, b' = c :: t ∧ class? c = false)
    (h : a ++ b = a' ++ b') : a = a' ∧ b = b' := by
  have hbb : b = b' := by rw [← dropWhile_run ha hb, h, dropWhile_run ha' hb']
  subst hbb
  exact ⟨List.append_cancel_right h, rfl⟩

/-- A piece takes just its text where the rest of a settled phrase follows. -/
theorem Piece.rest?_append {p : Piece} {ps : Phrase} (h : Phrase.isSettled (p :: ps) = true)
    {a b : List Char} (ha : a ∈ p.language) (hb : b ∈ Phrase.language ps) (r : List Char) :
    p.rest? (a ++ (b ++ r)) = some (b ++ r) := by
  have hnext : ∀ {class? : Char → Bool}, (∃ c t, b = c :: t ∧ class? c = false) →
      ∃ c t, b ++ r = c :: t ∧ class? c = false := by
    rintro class? ⟨c, t, rfl, hc⟩
    exact ⟨c, t ++ r, rfl, hc⟩
  cases p with
  | lit t => exact afterLit_eq_some_iff.2 (congrArg (· ++ (b ++ r)) ha)
  | blanks =>
    rw [Phrase.isSettled, Bool.and_eq_true] at h
    have hend := hnext (Phrase.exists_cons_of_endsBlanks h.1 hb)
    rw [Piece.rest?, dropWhile_run ha hend]
  | gap =>
    rw [Phrase.isSettled, Bool.and_eq_true] at h
    have hend := hnext (Phrase.exists_cons_of_endsBlanks h.1 hb)
    obtain ⟨hne, hblank⟩ := Source.mem_gap.1 ha
    obtain ⟨c, a, rfl⟩ := List.exists_cons_of_ne_nil hne
    obtain ⟨hc, hblank⟩ := List.forall_mem_cons.1 hblank
    simp [Piece.rest?, hc, dropWhile_run hblank hend]
  | word =>
    rw [Phrase.isSettled, Bool.and_eq_true] at h
    have hend := hnext (Phrase.exists_cons_of_endsWord h.1 hb)
    obtain ⟨hne, hword⟩ := Source.mem_word.1 ha
    obtain ⟨c, a, rfl⟩ := List.exists_cons_of_ne_nil hne
    obtain ⟨hc, hword⟩ := List.forall_mem_cons.1 hword
    simp [Piece.rest?, hc, dropWhile_run hword hend]

theorem Phrase.isSettled_of_cons {p : Piece} {ps : Phrase}
    (h : Phrase.isSettled (p :: ps) = true) : Phrase.isSettled ps = true := by
  cases p <;> simp_all [Phrase.isSettled]

/-- **Nothing is missed.**  A settled phrase takes any of its texts, whatever comes behind. -/
theorem Phrase.rest?_of_mem_language {ps : Phrase} (h : Phrase.isSettled ps = true) {w : List Char}
    (hw : w ∈ Phrase.language ps) (r : List Char) : Phrase.rest? ps (w ++ r) = some r := by
  induction ps generalizing w with
  | nil => rw [Phrase.mem_language_nil.1 hw]; rfl
  | cons p ps ih =>
    obtain ⟨a, ha, b, hb, rfl⟩ := Phrase.mem_language_cons.1 hw
    have htake := Piece.rest?_append h ha hb r
    rw [List.append_assoc, Phrase.rest?, htake]
    exact ih (Phrase.isSettled_of_cons h) hb

/-- **Reading a settled phrase** off a text is finding a text of its language there. -/
theorem Phrase.rest?_eq_some_iff {ps : Phrase} (h : Phrase.isSettled ps = true)
    {s r : List Char} :
    Phrase.rest? ps s = some r ↔ ∃ w ∈ Phrase.language ps, s = w ++ r := by
  constructor
  · exact Phrase.exists_of_rest?
  · rintro ⟨w, hw, rfl⟩
    exact Phrase.rest?_of_mem_language h hw r

/-! ## Patterns -/

namespace Pattern

/-- Whether every phrase of the pattern is settled. -/
def isSettled (p : Pattern) : Bool := p.all Phrase.isSettled

/-- A pattern takes one of its texts. -/
theorem exists_of_rest? {p : Pattern} {s r : List Char} (h : p.rest? s = some r) :
    ∃ w ∈ p.language, s = w ++ r := by
  obtain ⟨ps, hps, hr⟩ := List.exists_of_findSome?_eq_some h
  obtain ⟨w, hw, hs⟩ := Phrase.exists_of_rest? hr
  exact ⟨w, mem_language.2 ⟨ps, hps, hw⟩, hs⟩

/-- **Reading a settled pattern** off a text succeeds where a text of its language stands. -/
theorem isSome_rest?_iff {p : Pattern} (h : p.isSettled = true) {s : List Char} :
    (p.rest? s).isSome = true ↔ ∃ w ∈ p.language, w <+: s := by
  constructor
  · intro hs
    obtain ⟨r, hr⟩ := Option.isSome_iff_exists.1 hs
    obtain ⟨w, hw, hws⟩ := exists_of_rest? hr
    exact ⟨w, hw, r, hws.symm⟩
  · rintro ⟨w, hw, r, rfl⟩
    obtain ⟨ps, hps, hw⟩ := mem_language.1 hw
    have hsettled : Phrase.isSettled ps = true := List.all_eq_true.1 h ps hps
    rw [rest?, List.findSome?_isSome_iff]
    exact ⟨ps, hps, by rw [Phrase.rest?_of_mem_language hsettled hw r]; rfl⟩

end Pattern
end RouteAudit
