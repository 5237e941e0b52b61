import RouteAudit.Proofs.Pattern.Places
import RouteAudit.Text.Utf8

/-!
# ASCII words in bytes

A file need not be UTF-8, and what is read from broken bytes is a guess.  What is looked for in it
consists of ASCII words, and about those nothing is guessed.  An ASCII byte always stands for
itself: it ends whatever came before it, and it is never taken into a character of several bytes.
The other way round, no other byte brings an ASCII character about: neither the replacement
character nor a character of several bytes is one.  So a word is in the text of a file just as often
as its bytes are in the file, wherever the bytes around it are broken.

The second half needs to know what the reader can hold in the middle of a character, and that is
`Unfinished.Sound`: every character that can come of it is one, and not an ASCII character.

## What is here

* `Unfinished.Sound`, `readByte_of_lt`, `readByte_of_le` — what the reader can hold, and one step of
  it;
* `decodeFrom_of_lt`, `high_of_decodeFrom` — the text of bytes that begin with an ASCII byte, and of
  bytes that do not;
* `ascii`, `bytePlaces` — the bytes of a word, and how many places there are at which they begin;
* `Pattern.places_readText`, `Pattern.occurs_readText` — a word begins in a text at as many places
  as its bytes do in the file.
-/

set_option autoImplicit false

namespace RouteAudit
namespace Text

/-! ## The reader -/

namespace Unfinished

/-- How many codes `n` more bytes can tell apart. -/
def room : Nat → Nat
  | 0 => 1
  | n + 1 => 64 * room n

/-- The least code that the character can get. -/
def least (p : Unfinished) : Nat := (p.code * 64 + (p.low - 0x80)) * room (p.owed - 1)

/-- One more than the greatest code that it can get. -/
def bound (p : Unfinished) : Nat := (p.code * 64 + (p.high - 0x80) + 1) * room (p.owed - 1)

/-- Whatever comes next, if it continues the character, it makes one of it that is not ASCII. -/
structure Sound (p : Unfinished) : Prop where
  owed : p.owed = 1 ∨ p.owed = 2 ∨ p.owed = 3
  low : 0x80 ≤ p.low
  high : p.high ≤ 0xBF
  least : 0x80 ≤ p.least
  /-- No surrogate and nothing beyond the last character. -/
  scalar : p.bound ≤ 0xD800 ∨ 0xE000 ≤ p.least ∧ p.bound ≤ 0x110000

/-- The character that results from one more byte. -/
def next (p : Unfinished) (b : Nat) : Unfinished :=
  ⟨p.code * 64 + (b - 0x80), p.owed - 1, 0x80, 0xBF⟩

/-- What is still possible after one more byte was possible before it. -/
theorem Sound.next {p : Unfinished} (h : p.Sound) (howed : ¬p.owed ≤ 1) {b : Nat}
    (hlow : p.low ≤ b) (hhigh : b ≤ p.high) : (p.next b).Sound := by
  have h80 := h.low
  have hroom : room (p.owed - 1) = 64 * room (p.owed - 1 - 1) := by
    obtain ⟨n, hn⟩ : ∃ n, p.owed - 1 = n + 1 := ⟨p.owed - 2, by omega⟩
    rw [hn, room, Nat.add_sub_cancel]
  have hleast : p.least ≤ (p.next b).least := by
    rw [Unfinished.least, hroom, ← Nat.mul_assoc]
    refine Nat.mul_le_mul_right _ ?_
    dsimp only [Unfinished.next]
    omega
  have hbound : (p.next b).bound ≤ p.bound := by
    rw [Unfinished.bound, Unfinished.bound, hroom, ← Nat.mul_assoc]
    refine Nat.mul_le_mul_right _ ?_
    dsimp only [Unfinished.next]
    omega
  refine ⟨?_, Nat.le_refl _, Nat.le_refl _, Nat.le_trans h.least hleast, ?_⟩
  · have howeds := h.owed
    dsimp only [Unfinished.next]
    omega
  · exact h.scalar.imp (Nat.le_trans hbound)
      (.imp (Nat.le_trans · hleast) (Nat.le_trans hbound))

end Unfinished

/-- Whether the reader can hold this. -/
def CanHold (held : Option Unfinished) : Prop := ∀ p, held = some p → p.Sound

theorem canHold_none : CanHold none := nofun

theorem canHold_some {p : Unfinished} : CanHold (some p) ↔ p.Sound :=
  ⟨fun h => h p rfl, fun h _ hp => Option.some.inj hp ▸ h⟩

/-- What is read of a character that is broken off. -/
def brokenOff (held : Option Unfinished) : List Char := if held.isSome then [replacement] else []

/-- Not an ASCII character. -/
def IsHigh (c : Char) : Prop := 0x80 ≤ c.toNat

theorem isHigh_replacement : IsHigh replacement := by
  rw [IsHigh]
  decide

theorem isHigh_of_mem_brokenOff {held : Option Unfinished} {c : Char} (h : c ∈ brokenOff held) :
    IsHigh c := by
  rw [brokenOff] at h
  split at h
  · rw [List.mem_singleton.1 h]
    exact isHigh_replacement
  · cases h

theorem toNat_ofNat {n : Nat} (h : n.isValidChar) : (Char.ofNat n).toNat = n := by
  rw [Char.ofNat, dif_pos h]
  rfl

theorem toNat_ofNat_of_lt {n : Nat} (h : n < 0x80) : (Char.ofNat n).toNat = n :=
  toNat_ofNat (.inl (by omega))

/-- **An ASCII byte** breaks off what is held and stands for itself. -/
theorem readByte_of_lt {held : Option Unfinished} (hheld : CanHold held) {b : Nat} (hb : b < 0x80) :
    readByte held b = (brokenOff held ++ [Char.ofNat b], none) := by
  have hfirst : firstByte b = ([Char.ofNat b], none) := by rw [firstByte, if_pos hb]
  cases held with
  | none => exact hfirst
  | some p =>
    have hlow := (canHold_some.1 hheld).low
    rw [readByte, if_neg (by omega), hfirst]
    rfl

/-- What a step of the reader gives when no ASCII byte is read. -/
structure HighStep (step : List Char × Option Unfinished) : Prop where
  high : ∀ c ∈ step.1, IsHigh c
  held : CanHold step.2
  /-- Something is read, or something is held. -/
  some : step.1 = [] → step.2.isSome = true

theorem highStep_of_sound {p : Unfinished} (h : p.Sound) : HighStep ([], some p) :=
  ⟨nofun, canHold_some.2 h, fun _ => rfl⟩

theorem highStep_of_high {c : Char} (h : IsHigh c) : HighStep ([c], none) :=
  ⟨List.forall_mem_singleton.2 h, canHold_none, nofun⟩

/-- A byte that begins a character of several bytes, or none. -/
theorem highStep_firstByte {b : Nat} (hb : 0x80 ≤ b) : HighStep (firstByte b) := by
  have hsound : ∀ p : Unfinished, (p.owed = 1 ∨ p.owed = 2 ∨ p.owed = 3) →
      0x80 ≤ p.low → p.high ≤ 0xBF → 0x80 ≤ p.least →
      (p.bound ≤ 0xD800 ∨ 0xE000 ≤ p.least ∧ p.bound ≤ 0x110000) →
      HighStep ([], some p) := fun p h₁ h₂ h₃ h₄ h₅ => highStep_of_sound ⟨h₁, h₂, h₃, h₄, h₅⟩
  rw [firstByte, if_neg (by omega)]
  split
  · exact highStep_of_high isHigh_replacement
  · repeat' split
    all_goals
      first
      | exact highStep_of_high isHigh_replacement
      | apply hsound <;> simp [Unfinished.least, Unfinished.bound, Unfinished.room] <;> omega

/-- A byte that continues a character ends it or leaves it unfinished. -/
theorem highStep_continue {p : Unfinished} (h : p.Sound) {b : Nat} (hlow : p.low ≤ b)
    (hhigh : b ≤ p.high) : HighStep (readByte (some p) b) := by
  rw [readByte, if_pos ⟨hlow, hhigh⟩]
  dsimp only
  split
  next howed =>
    have hone : p.owed - 1 = 0 := by omega
    have hleast := h.least
    have hscalar := h.scalar
    rw [Unfinished.least, hone, Unfinished.room, Nat.mul_one] at hleast hscalar
    rw [Unfinished.bound, hone, Unfinished.room, Nat.mul_one] at hscalar
    have h80 := h.low
    refine highStep_of_high ?_
    rw [IsHigh, toNat_ofNat]
    · omega
    · rw [Nat.isValidChar]
      omega
  next howed => exact highStep_of_sound (h.next howed hlow hhigh)

/-- **Any other byte** brings no ASCII character about. -/
theorem readByte_of_le {held : Option Unfinished} (hheld : CanHold held) {b : Nat} (hb : 0x80 ≤ b) :
    HighStep (readByte held b) := by
  cases held with
  | none => exact highStep_firstByte hb
  | some p =>
    by_cases hrange : p.low ≤ b ∧ b ≤ p.high
    · exact highStep_continue (canHold_some.1 hheld) hrange.1 hrange.2
    · obtain ⟨hhigh, hnext, -⟩ := highStep_firstByte hb
      rw [readByte, if_neg hrange]
      exact ⟨List.forall_mem_cons.2 ⟨isHigh_replacement, hhigh⟩, hnext,
        fun h => absurd h (List.cons_ne_nil _ _)⟩

/-! ## The text -/

/-- The text of bytes that begin with an ASCII byte. -/
theorem decodeFrom_of_lt {held : Option Unfinished} (hheld : CanHold held) {b : UInt8}
    (hb : b.toNat < 0x80) (bs : List UInt8) :
    decodeFrom held (b :: bs) = brokenOff held ++ decodeFrom none (b :: bs) := by
  simp only [decodeFrom, readByte_of_lt hheld hb, readByte_of_lt canHold_none hb, List.append_assoc]
  rfl

/-- The text of bytes that do not, or that follow the beginning of a character. -/
theorem high_of_decodeFrom {held : Option Unfinished} (hheld : CanHold held) {bs : List UInt8}
    (h : held.isSome = true ∨ ∃ b bs', bs = b :: bs' ∧ 0x80 ≤ b.toNat) :
    ∃ c cs, decodeFrom held bs = c :: cs ∧ IsHigh c := by
  induction bs generalizing held with
  | nil =>
    have hsome : held.isSome = true := h.resolve_right (by rintro ⟨_, _, h, -⟩; cases h)
    exact ⟨replacement, [], by rw [decodeFrom, if_pos hsome], isHigh_replacement⟩
  | cons b bs ih =>
    by_cases hb : b.toNat < 0x80
    · have hsome : held.isSome = true := by
        refine h.resolve_right ?_
        rintro ⟨b', bs', hbs, hb'⟩
        obtain ⟨rfl, -⟩ := List.cons.inj hbs
        omega
      refine ⟨replacement, decodeFrom none (b :: bs), ?_, isHigh_replacement⟩
      rw [decodeFrom_of_lt hheld hb, brokenOff, if_pos hsome]
      rfl
    · obtain ⟨hhigh, hnext, hsome⟩ := readByte_of_le hheld (Nat.not_lt.1 hb)
      rw [decodeFrom]
      dsimp only
      cases hstep : (readByte held b.toNat).1 with
      | nil => exact ih hnext (.inl (hsome hstep))
      | cons c cs =>
        exact ⟨c, cs ++ decodeFrom (readByte held b.toNat).2 bs, rfl,
          hhigh c (hstep ▸ List.mem_cons_self)⟩

/-! ## Words -/

/-- A word of ASCII characters, none of which ends a line. -/
def IsPlain (w : List Char) : Prop := w ≠ [] ∧ ∀ c ∈ w, c.toNat < 0x80 ∧ c ≠ '\r' ∧ c ≠ '\n'

/-- The same as a test that can be run. -/
def isPlain (w : List Char) : Bool :=
  !w.isEmpty && w.all fun c => decide (c.toNat < 0x80) && c != '\r' && c != '\n'

theorem isPlain_iff {w : List Char} : isPlain w = true ↔ IsPlain w := by
  simp [isPlain, IsPlain, and_assoc]

instance (w : List Char) : Decidable (IsPlain w) := decidable_of_iff _ isPlain_iff

/-- The byte of an ASCII character. -/
def asciiByte (c : Char) : UInt8 := UInt8.ofNat c.toNat

/-- The bytes of a text of ASCII characters. -/
def ascii (w : String) : List UInt8 := w.toList.map asciiByte

/-- How many positions of `b` there are at which the bytes `w` begin. -/
def bytePlaces (w b : List UInt8) : Nat :=
  ((List.range b.length).filter fun k => w.isPrefixOf (b.drop k)).length

theorem bytePlaces_cons (w : List UInt8) (x : UInt8) (b : List UInt8) :
    bytePlaces w (x :: b) = (if w.isPrefixOf (x :: b) then 1 else 0) + bytePlaces w b := by
  rw [bytePlaces, bytePlaces, List.length_cons, List.range_succ_eq_map, List.filter_cons,
    List.filter_map, List.drop_zero]
  split
  all_goals
    simp only [List.length_cons, List.length_map, Function.comp_def, List.drop_succ_cons]
    omega

/-- Bytes begin somewhere just if they are somewhere. -/
theorem bytePlaces_pos_iff {w b : List UInt8} (hw : w ≠ []) : 0 < bytePlaces w b ↔ w <:+: b := by
  rw [bytePlaces, List.length_pos_iff_exists_mem]
  constructor
  · rintro ⟨k, hk⟩
    obtain ⟨r, hr⟩ := List.isPrefixOf_iff_prefix.1 (List.mem_filter.1 hk).2
    exact ⟨b.take k, r, by rw [List.append_assoc, hr, List.take_append_drop]⟩
  · rintro ⟨u, r, rfl⟩
    refine ⟨u.length, List.mem_filter.2 ⟨List.mem_range.2 ?_, List.isPrefixOf_iff_prefix.2 ?_⟩⟩
    · have := List.length_pos_iff.2 hw
      simp only [List.length_append]
      omega
    · rw [List.append_assoc, List.drop_left]
      exact List.prefix_append w r

theorem asciiByte_eq_iff {c : Char} (hc : c.toNat < 0x80) {b : UInt8} (hb : b.toNat < 0x80) :
    asciiByte c = b ↔ c = Char.ofNat b.toNat := by
  rw [asciiByte, ← UInt8.toNat_inj, UInt8.toNat_ofNat', Nat.mod_eq_of_lt (by omega)]
  constructor
  · rintro h
    rw [← h, Char.ofNat_toNat]
  · rintro rfl
    exact toNat_ofNat_of_lt hb

theorem asciiByte_ne {c : Char} (hc : c.toNat < 0x80) {b : UInt8} (hb : 0x80 ≤ b.toNat) :
    asciiByte c ≠ b := by
  rintro rfl
  rw [asciiByte, UInt8.toNat_ofNat'] at hb
  omega

/-- **A word begins a text** just if its bytes begin the bytes. -/
theorem prefix_decode_iff {w : List Char} (hw : ∀ c ∈ w, c.toNat < 0x80) {bs : List UInt8} :
    w <+: decodeFrom none bs ↔ w.map asciiByte <+: bs := by
  induction w generalizing bs with
  | nil => exact iff_of_true List.nil_prefix List.nil_prefix
  | cons c w ih =>
    obtain ⟨hc, hw⟩ := List.forall_mem_cons.1 hw
    rw [List.map_cons]
    cases bs with
    | nil => exact iff_of_false (by simp [decodeFrom]) (by simp)
    | cons b bs =>
      rw [List.cons_prefix_cons]
      by_cases hb : b.toNat < 0x80
      · have htext : decodeFrom none (b :: bs) = Char.ofNat b.toNat :: decodeFrom none bs :=
          decode_ascii bs hb
        rw [htext, List.cons_prefix_cons, ih hw, asciiByte_eq_iff hc hb]
      · have hb' : 0x80 ≤ b.toNat := Nat.not_lt.1 hb
        obtain ⟨d, ds, htext, hd⟩ := high_of_decodeFrom canHold_none (.inr ⟨b, bs, rfl, hb'⟩)
        refine iff_of_false ?_ fun h => asciiByte_ne hc hb' h.1
        rw [htext, List.cons_prefix_cons]
        rintro ⟨rfl, -⟩
        exact absurd hd (Nat.not_le.2 hc)

theorem prefix_unifyNewlines_iff {w : List Char} (hw : ∀ c ∈ w, c ≠ '\r' ∧ c ≠ '\n')
    {s : List Char} : w <+: unifyNewlines s ↔ w <+: s := by
  induction w generalizing s with
  | nil => exact iff_of_true List.nil_prefix List.nil_prefix
  | cons c w ih =>
    obtain ⟨⟨hr, hn⟩, hw⟩ := List.forall_mem_cons.1 hw
    fun_cases unifyNewlines s with
    | case1 => exact Iff.rfl
    | case2 => simp [hr, hn]
    | case3 d hd => exact Iff.rfl
    | case4 => simp [hr, hn]
    | case5 => simp [hr, hn]
    | case6 d e ds hd => rw [List.cons_prefix_cons, List.cons_prefix_cons, ih hw]

end Text

namespace Pattern

open Text

theorem begins_lit (w : String) (s : List Char) : (lit w).begins s = w.toList.isPrefixOf s := by
  rw [Bool.eq_iff_iff, List.isPrefixOf_iff_prefix]
  constructor
  · intro h
    obtain ⟨r, hr⟩ := Option.isSome_iff_exists.1 (begins_word h)
    exact ⟨r, (afterLit_eq_some_iff.1 hr).symm⟩
  · rintro ⟨r, rfl⟩
    rw [begins, lit, rest?_singleton, Phrase.rest?, Piece.rest?, afterLit_eq_some_iff.2 rfl]
    rfl

theorem begins_lit_iff {w : String} {s : List Char} :
    (lit w).begins s = true ↔ w.toList <+: s := by
  rw [begins_lit, List.isPrefixOf_iff_prefix]

/-- **Occurring** is having a place. -/
theorem occurs_iff_places_pos {p : Pattern} {s : List Char} :
    p.occurs s = true ↔ 0 < p.places s := by
  induction s with
  | nil =>
    rw [occurs, find?, Option.isSome_map, ← begins, places]
    cases p.begins [] <;> simp
  | cons c cs ih =>
    rw [places]
    cases hb : p.begins (c :: cs) with
    | true => exact iff_of_true (occurs_iff.2 ⟨[], c :: cs, rfl, hb⟩) (by rw [if_pos rfl]; omega)
    | false =>
      rw [occurs, find?_cons_of_begins hb, Option.isSome_map, ← occurs, ih]
      simp

variable {w : String}

theorem places_lit_nil (hw : IsPlain w.toList) : (lit w).places [] = 0 := by
  rw [places, if_neg]
  rw [begins_lit_iff, List.prefix_nil]
  exact hw.1

/-- A word begins nowhere among characters that are not ASCII. -/
theorem places_lit_append (hw : IsPlain w.toList) {m : List Char} (hm : ∀ c ∈ m, IsHigh c)
    (r : List Char) : (lit w).places (m ++ r) = (lit w).places r := by
  refine places_append fun u v huv hv => ?_
  obtain ⟨c, v, rfl⟩ := List.exists_cons_of_ne_nil hv
  obtain ⟨a, w', ha⟩ := List.exists_cons_of_ne_nil hw.1
  have hc : IsHigh c := hm c (huv ▸ List.mem_append_right u List.mem_cons_self)
  have hlow := (hw.2 a (ha ▸ List.mem_cons_self)).1
  rw [← Bool.not_eq_true, begins_lit_iff, ha, List.cons_append, List.cons_prefix_cons]
  rintro ⟨rfl, -⟩
  exact absurd hc (Nat.not_le.2 hlow)

/-- What is read of the bytes has the word where the bytes have its bytes. -/
theorem places_decodeFrom (hw : IsPlain w.toList) {held : Option Unfinished} (hheld : CanHold held)
    (bs : List UInt8) : (lit w).places (decodeFrom held bs) = bytePlaces (ascii w) bs := by
  have hplain : ∀ c ∈ w.toList, c.toNat < 0x80 := fun c hc => (hw.2 c hc).1
  induction bs generalizing held with
  | nil =>
    rw [show decodeFrom held [] = brokenOff held ++ [] by rw [List.append_nil]; rfl,
      places_lit_append hw (fun _ => isHigh_of_mem_brokenOff), places_lit_nil hw]
    rfl
  | cons b bs ih =>
    rw [bytePlaces_cons]
    by_cases hb : b.toNat < 0x80
    · have htext : decodeFrom none (b :: bs) = Char.ofNat b.toNat :: decodeFrom none bs :=
        decode_ascii bs hb
      have hbegins : (lit w).begins (decodeFrom none (b :: bs)) =
          (ascii w).isPrefixOf (b :: bs) := by
        rw [begins_lit, Bool.eq_iff_iff, List.isPrefixOf_iff_prefix, List.isPrefixOf_iff_prefix,
          prefix_decode_iff hplain, ascii]
      rw [decodeFrom_of_lt hheld hb, places_lit_append hw (fun _ => isHigh_of_mem_brokenOff),
        ← hbegins, htext, places, ih canHold_none]
    · have hb' : 0x80 ≤ b.toNat := Nat.not_lt.1 hb
      obtain ⟨hhigh, hnext, -⟩ := readByte_of_le hheld hb'
      have hno : ¬(ascii w).isPrefixOf (b :: bs) = true := by
        obtain ⟨a, w', ha⟩ := List.exists_cons_of_ne_nil hw.1
        rw [List.isPrefixOf_iff_prefix, ascii, ha, List.map_cons, List.cons_prefix_cons]
        exact fun h => asciiByte_ne (hplain a (ha ▸ List.mem_cons_self)) hb' h.1
      rw [if_neg hno, Nat.zero_add, decodeFrom]
      exact (places_lit_append hw hhigh _).trans (ih hnext)

/-- Line ends are no part of a word. -/
theorem places_unifyNewlines (hw : IsPlain w.toList) (s : List Char) :
    (lit w).places (unifyNewlines s) = (lit w).places s := by
  have hplain : ∀ c ∈ w.toList, c ≠ '\r' ∧ c ≠ '\n' := fun c hc => (hw.2 c hc).2
  have hbegins : ∀ s, (lit w).begins (unifyNewlines s) = (lit w).begins s := by
    intro s
    rw [Bool.eq_iff_iff, begins_lit_iff, begins_lit_iff, prefix_unifyNewlines_iff hplain]
  have hskip : ∀ c s, c = '\r' ∨ c = '\n' → (lit w).places (c :: s) = (lit w).places s := by
    intro c s hc
    obtain ⟨a, w', ha⟩ := List.exists_cons_of_ne_nil hw.1
    have haplain := hplain a (ha ▸ List.mem_cons_self)
    rw [places, if_neg, Nat.zero_add]
    rw [begins_lit_iff, ha, List.cons_prefix_cons]
    rintro ⟨rfl, -⟩
    exact hc.elim haplain.1 haplain.2
  fun_induction unifyNewlines s with
  | case1 => rfl
  | case2 => rw [hskip _ _ (.inr rfl), hskip _ _ (.inl rfl)]
  | case3 => rfl
  | case4 cs ih => rw [hskip _ _ (.inr rfl), hskip _ _ (.inl rfl), hskip _ _ (.inr rfl), ih]
  | case5 d cs hd ih => rw [hskip _ _ (.inr rfl), hskip _ _ (.inl rfl), ih]
  | case6 c d cs hc ih =>
    have h := hbegins (c :: d :: cs)
    rw [unifyNewlines, if_neg hc] at h
    rw [places, h, ih, ← places]

/-- **ASCII words in bytes.**  A word begins in the text of a file at as many places as its bytes
do in the file. -/
theorem places_readText (hw : IsPlain w.toList) (bs : List UInt8) :
    (lit w).places (readText bs) = bytePlaces (ascii w) bs := by
  rw [readText, places_unifyNewlines hw, decode, places_decodeFrom hw canHold_none]

/-- A word is in the text of a file just if its bytes are in the file. -/
theorem occurs_readText (hw : IsPlain w.toList) {bs : List UInt8} :
    (lit w).occurs (readText bs) = true ↔ ascii w <:+: bs := by
  rw [occurs_iff_places_pos, places_readText hw, bytePlaces_pos_iff]
  rw [ascii]
  exact mt List.map_eq_nil_iff.1 hw.1

end Pattern
end RouteAudit
