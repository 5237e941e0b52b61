import Mathlib.Data.Set.Card
import RouteAudit.Proofs.Pattern.Places

/-!
# Searching is finding words of a language

`Pattern.find?` and `Pattern.count` go through a text from left to right and read the pattern off
it again and again.  This file says what they find without any reading: in terms of the language
that the pattern stands for and of the places of the text at which a word of it begins.

## What is here

* `Source.BeginsAt` — a word of a language begins at a place of a text;
* `Source.placesOf` — how many such places there are;
* `Source.IsFirst` — an occurrence before which no word begins;
* `Source.BeginsAt.infix_of_lt` — a word that begins before a character ends before it, if the words
  of the language cannot run across it;
* `Pattern.isFirst_of_find?`, `Pattern.occurs_iff_language` — a settled pattern is found just if a
  word of its language is somewhere in the text, and then the first one is found;
* `Pattern.count_eq_placesOf` — a settled pattern whose occurrences do not overlap is counted once
  at every place where a word of its language begins;
* `Pattern.occurs_append`, `Pattern.count_le_append`, `Pattern.find?_append` — what is found in a
  text is found in a longer one, and the first occurrence stays the first.
-/

set_option autoImplicit false

namespace RouteAudit
namespace Source

variable {L : Language Char} {s : List Char} {c : Char} {i : Nat}

/-! ## Places -/

/-- A word of the language begins at the place `i` of the text. -/
def BeginsAt (L : Language Char) (s : List Char) (i : Nat) : Prop :=
  ∃ pre w post, s = pre ++ (w ++ post) ∧ pre.length = i ∧ w ∈ L

theorem beginsAt_zero_iff : BeginsAt L s 0 ↔ ∃ w ∈ L, w <+: s := by
  constructor
  · rintro ⟨pre, w, post, rfl, hpre, hw⟩
    rw [List.length_eq_zero_iff.1 hpre]
    exact ⟨w, hw, List.prefix_append w post⟩
  · rintro ⟨w, hw, post, rfl⟩
    exact ⟨[], w, post, rfl, rfl, hw⟩

theorem beginsAt_succ_iff : BeginsAt L (c :: s) (i + 1) ↔ BeginsAt L s i := by
  constructor
  · rintro ⟨pre, w, post, hs, hpre, hw⟩
    obtain ⟨d, pre, rfl⟩ := List.exists_cons_of_length_eq_add_one hpre
    exact ⟨pre, w, post, (List.cons.inj hs).2, by simpa using hpre, hw⟩
  · rintro ⟨pre, w, post, rfl, hpre, hw⟩
    exact ⟨c :: pre, w, post, rfl, by simp [hpre], hw⟩

/-- No word begins behind the end. -/
theorem BeginsAt.le_length (h : BeginsAt L s i) : i ≤ s.length := by
  obtain ⟨pre, w, post, rfl, rfl, -⟩ := h
  simp

theorem finite_beginsAt (L : Language Char) (s : List Char) : {i | BeginsAt L s i}.Finite :=
  (Set.finite_le_nat s.length).subset fun _ h => h.le_length

/-- A text has a word of the language in it just if one begins at some place. -/
theorem exists_beginsAt_iff : (∃ i, BeginsAt L s i) ↔ ∃ w ∈ L, w <:+: s := by
  constructor
  · rintro ⟨_, pre, w, post, rfl, -, hw⟩
    exact ⟨w, hw, pre, post, by simp⟩
  · rintro ⟨w, hw, pre, post, rfl⟩
    exact ⟨pre.length, pre, w, post, by simp, rfl, hw⟩

/-- How many places of the text there are at which a word of the language begins. -/
noncomputable def placesOf (L : Language Char) (s : List Char) : Nat := {i | BeginsAt L s i}.ncard

theorem ncard_beginsAt_succ : {i | BeginsAt L (c :: s) i ∧ i ≠ 0}.ncard = placesOf L s := by
  have himage : {i | BeginsAt L (c :: s) i ∧ i ≠ 0} = Nat.succ '' {i | BeginsAt L s i} := by
    ext i
    cases i with
    | zero => simp
    | succ i => simp [beginsAt_succ_iff]
  rw [himage, Set.ncard_image_of_injective _ Nat.succ_injective, placesOf]

theorem placesOf_cons_of_beginsAt (h : BeginsAt L (c :: s) 0) :
    placesOf L (c :: s) = 1 + placesOf L s := by
  have hsplit : {i | BeginsAt L (c :: s) i} =
      insert 0 {i | BeginsAt L (c :: s) i ∧ i ≠ 0} := by
    ext i
    cases i with
    | zero => simp [h]
    | succ i => simp
  have hfinite : {i | BeginsAt L (c :: s) i ∧ i ≠ 0}.Finite :=
    (finite_beginsAt L (c :: s)).subset fun _ hi => hi.1
  rw [placesOf, hsplit, Set.ncard_insert_of_notMem (by simp) hfinite, ncard_beginsAt_succ,
    Nat.add_comm]

theorem placesOf_cons_of_not_beginsAt (h : ¬BeginsAt L (c :: s) 0) :
    placesOf L (c :: s) = placesOf L s := by
  have hsplit : {i | BeginsAt L (c :: s) i} = {i | BeginsAt L (c :: s) i ∧ i ≠ 0} := by
    ext i
    cases i with
    | zero => simp [h]
    | succ i => simp
  rw [placesOf, hsplit, ncard_beginsAt_succ]

theorem placesOf_nil (h : [] ∉ L) : placesOf L [] = 0 := by
  have hempty : {i | BeginsAt L [] i} = ∅ := by
    ext i
    simp only [Set.mem_ofPred_eq, Set.mem_empty_iff_false, iff_false]
    rintro ⟨pre, w, post, hs, -, hw⟩
    have hw' : w = [] := by simp_all
    exact h (hw' ▸ hw)
  rw [placesOf, hempty, Set.ncard_empty]

/-- A word begins where it began, whatever comes behind the text. -/
theorem BeginsAt.append (h : BeginsAt L s i) (t : List Char) : BeginsAt L (s ++ t) i := by
  obtain ⟨pre, w, post, rfl, hpre, hw⟩ := h
  exact ⟨pre, w, post ++ t, by simp, hpre, hw⟩

theorem placesOf_le_append (L : Language Char) (s t : List Char) :
    placesOf L s ≤ placesOf L (s ++ t) :=
  Set.ncard_le_ncard (fun _ h => BeginsAt.append h t) (finite_beginsAt L (s ++ t))

/-! ## The first word -/

/-- The occurrence is a word of the language in the text, and no word begins before it. -/
structure IsFirst (L : Language Char) (s : List Char) (hit : Pattern.Hit) : Prop where
  split : s = hit.before ++ (hit.text ++ hit.after)
  mem : hit.text ∈ L
  first : ∀ i < hit.before.length, ¬BeginsAt L s i

theorem IsFirst.beginsAt {hit : Pattern.Hit} (h : IsFirst L s hit) :
    BeginsAt L s hit.before.length :=
  ⟨hit.before, hit.text, hit.after, h.split, rfl, h.mem⟩

theorem IsFirst.length_le {hit : Pattern.Hit} (h : IsFirst L s hit) (hi : BeginsAt L s i) :
    hit.before.length ≤ i :=
  Nat.not_lt.1 fun hlt => h.first i hlt hi

/-! ## Words that cannot run across a character -/

/-- A text in which a character does not occur ends before it. -/
theorem prefix_of_not_mem {w v t : List Char} {c : Char} (hc : c ∉ w) (h : w <+: v ++ c :: t) :
    w <+: v := by
  rcases Nat.lt_or_ge v.length w.length with hlt | hle
  · have hlong : v ++ [c] <+: w :=
      List.prefix_of_prefix_length_le ⟨t, by simp⟩ h (by simpa using hlt)
    have hmem : c ∈ w := hlong.subset (by simp)
    exact absurd hmem hc
  · exact List.prefix_of_prefix_length_le h (List.prefix_append v _) hle

/-- **A word that begins before a character ends before it**, if the words of the language have the
character in front only. -/
theorem BeginsAt.infix_of_lt {pre t : List Char}
    (h : BeginsAt L (pre ++ c :: t) i) (hi : i < pre.length) (hL : ∀ w ∈ L, c ∉ w.tail) :
    ∃ w ∈ L, w <:+: pre := by
  obtain ⟨x, w, y, hs, rfl, hw⟩ := h
  refine ⟨w, hw, ?_⟩
  have hx : x <+: pre :=
    List.prefix_of_prefix_length_le ⟨w ++ y, hs.symm⟩ (List.prefix_append pre _) (Nat.le_of_lt hi)
  obtain ⟨v, rfl⟩ := hx
  have hwy : w ++ y = v ++ c :: t := by
    rw [List.append_assoc] at hs
    exact (List.append_cancel_left hs).symm
  cases w with
  | nil => exact List.nil_infix
  | cons a w =>
    -- there is a character before `c`, and the word begins with it
    cases v with
    | nil => simp at hi
    | cons d v =>
      obtain ⟨rfl, hrest⟩ := List.cons.inj hwy
      have hprefix : w <+: v := prefix_of_not_mem (hL _ hw) ⟨y, hrest⟩
      have hword : a :: w <+: a :: v := List.cons_prefix_cons.2 ⟨rfl, hprefix⟩
      exact hword.isInfix.trans (List.suffix_append x (a :: v)).isInfix

end Source

/-! ## What a search finds -/

namespace Pattern

open Source

variable {p : Pattern} {s : List Char}

theorem begins_iff_beginsAt (hp : p.isSettled = true) :
    p.begins s = true ↔ BeginsAt p.language s 0 := by
  rw [begins, isSome_rest?_iff hp, beginsAt_zero_iff]

/-- **Occurring** is having a word of the language. -/
theorem occurs_iff_language (hp : p.isSettled = true) :
    p.occurs s = true ↔ ∃ w ∈ p.language, w <:+: s := by
  rw [occurs_iff]
  constructor
  · rintro ⟨u, v, rfl, hv⟩
    obtain ⟨w, hw, hprefix⟩ := (isSome_rest?_iff hp).1 hv
    exact ⟨w, hw, hprefix.isInfix.trans (List.suffix_append u v).isInfix⟩
  · rintro ⟨w, hw, u, v, rfl⟩
    refine ⟨u, w ++ v, List.append_assoc u w v, (isSome_rest?_iff hp).2 ?_⟩
    exact ⟨w, hw, List.prefix_append w v⟩

/-- **The first word is found**, if any is. -/
theorem isFirst_of_find? (hp : p.isSettled = true) {hit : Hit} (h : p.find? s = some hit) :
    IsFirst p.language s hit := by
  induction s generalizing hit with
  | nil =>
    obtain ⟨r, hr, rfl⟩ := Option.map_eq_some_iff.1 h
    obtain ⟨w, hw, hnil⟩ := exists_of_rest? hr
    obtain ⟨rfl, rfl⟩ := List.append_eq_nil_iff.1 hnil.symm
    exact ⟨rfl, hw, fun i hi => absurd hi (Nat.not_lt_zero i)⟩
  | cons c cs ih =>
    rw [find?] at h
    split at h
    · rename_i r hr
      obtain rfl := Option.some.inj h
      obtain ⟨w, hw, hs⟩ := exists_of_rest? hr
      have htake : (c :: cs).take ((c :: cs).length - r.length) = w := by simp [hs]
      rw [htake]
      exact ⟨hs, hw, fun i hi => absurd hi (Nat.not_lt_zero i)⟩
    · rename_i hnone
      obtain ⟨hit, hhit, rfl⟩ := Option.map_eq_some_iff.1 h
      have hfirst := ih hhit
      refine ⟨congrArg (c :: ·) hfirst.split, hfirst.mem, fun i hi hb => ?_⟩
      cases i with
      | zero =>
        have hsome := (begins_iff_beginsAt hp).2 hb
        rw [begins, hnone] at hsome
        cases hsome
      | succ i => exact hfirst.first i (by simpa using hi) (beginsAt_succ_iff.1 hb)

/-- What begins somewhere is found. -/
theorem exists_isFirst (hp : p.isSettled = true) {i : Nat} (h : BeginsAt p.language s i) :
    ∃ hit, p.find? s = some hit ∧ IsFirst p.language s hit := by
  have hocc : p.occurs s = true := (occurs_iff_language hp).2 (exists_beginsAt_iff.1 ⟨i, h⟩)
  obtain ⟨hit, hhit⟩ := Option.isSome_iff_exists.1 hocc
  exact ⟨hit, hhit, isFirst_of_find? hp hhit⟩

theorem places_eq_placesOf (hp : p.isSettled = true) (hnil : p.begins [] = false) :
    p.places s = placesOf p.language s := by
  induction s with
  | nil =>
    have hempty : [] ∉ p.language := by
      intro hmem
      have hb : p.begins [] = true := (isSome_rest?_iff hp).2 ⟨[], hmem, List.prefix_refl []⟩
      rw [hnil] at hb
      cases hb
    rw [placesOf_nil hempty, places, hnil]
    rfl
  | cons c cs ih =>
    rw [places, ih]
    by_cases hb : p.begins (c :: cs) = true
    · rw [if_pos hb, placesOf_cons_of_beginsAt ((begins_iff_beginsAt hp).1 hb)]
    · rw [if_neg hb, placesOf_cons_of_not_beginsAt (mt (begins_iff_beginsAt hp).2 hb),
        Nat.zero_add]

/-- **Every place is counted once**, if occurrences do not overlap. -/
theorem count_eq_placesOf (hp : p.isSettled = true) (hapart : p.Apart) (s : List Char) :
    p.count s = placesOf p.language s := by
  rw [count_eq_places hapart, places_eq_placesOf hp hapart.nil]

/-! ## More text behind -/

/-- What occurs in a text occurs in a longer one. -/
theorem occurs_append (hp : p.isSettled = true) (h : p.occurs s = true) (t : List Char) :
    p.occurs (s ++ t) = true := by
  rw [occurs_iff_language hp] at h ⊢
  obtain ⟨w, hw, hinfix⟩ := h
  exact ⟨w, hw, hinfix.trans (List.prefix_append s t).isInfix⟩

/-- A longer text has no fewer occurrences. -/
theorem count_le_append (hp : p.isSettled = true) (hapart : p.Apart) (s t : List Char) :
    p.count s ≤ p.count (s ++ t) := by
  rw [count_eq_placesOf hp hapart, count_eq_placesOf hp hapart]
  exact placesOf_le_append p.language s t

section
variable {ps : Phrase}

/-- No word of a phrase begins inside another one, if its occurrences do not overlap. -/
theorem Apart.not_beginsAt (hps : Phrase.isSettled ps = true) (hapart : Apart [ps])
    {x w y : List Char} (hw : w ∈ language [ps]) {i : Nat} (hlo : x.length < i)
    (hhi : i < x.length + w.length) : ¬BeginsAt (language [ps]) (x ++ (w ++ y)) i := by
  rintro ⟨pre, v, post, hs, rfl, hv⟩
  have hsettled : isSettled [ps] = true := by simp [isSettled, hps]
  have hword : w ∈ Phrase.language ps := by simpa [mem_language] using hw
  have hrest : rest? [ps] (w ++ y) = some y := by
    rw [rest?_singleton, Phrase.rest?_of_mem_language hps hword]
  obtain ⟨c, m, hcm, hinside⟩ := hapart.inside hrest
  obtain rfl : w = c :: m := List.append_cancel_right hcm
  -- the second word begins behind the first character of the first one, and before its end
  obtain ⟨u, rfl⟩ : x ++ [c] <+: pre :=
    List.prefix_of_prefix_length_le ⟨m ++ y, by simp⟩ ⟨v ++ post, hs.symm⟩ (by simpa using hlo)
  have hmy : m ++ y = u ++ (v ++ post) := by simpa using hs
  obtain ⟨z, rfl⟩ : u <+: m :=
    List.prefix_of_prefix_length_le ⟨v ++ post, hmy.symm⟩ (List.prefix_append m y) (by
      simp only [List.length_append, List.length_cons, List.length_nil] at hhi
      omega)
  have hz : z ≠ [] := by
    rintro rfl
    simp only [List.length_append, List.length_cons, List.length_nil] at hhi
    omega
  have hzy : z ++ y = v ++ post := by simpa using hmy
  have hbegins : begins [ps] (z ++ y) = true :=
    (begins_iff_beginsAt hsettled).2 (beginsAt_zero_iff.2 ⟨v, hv, post, hzy.symm⟩)
  rw [hinside u z rfl hz] at hbegins
  cases hbegins

/-- **The first occurrence stays the first one**, whatever comes behind the text.  A word that began
before it and ended in the new text would run across it. -/
theorem find?_append (hps : Phrase.isSettled ps = true) (hapart : Apart [ps]) {hit : Hit}
    (h : find? [ps] s = some hit) (t : List Char) :
    find? [ps] (s ++ t) = some { hit with after := hit.after ++ t } := by
  have hsettled : isSettled [ps] = true := by simp [isSettled, hps]
  have hfirst := isFirst_of_find? hsettled h
  have hhere := hfirst.beginsAt.append t
  obtain ⟨new, hnew, hnewFirst⟩ := exists_isFirst hsettled hhere
  have hle : new.before.length ≤ hit.before.length := hnewFirst.length_le hhere
  have hge : hit.before.length ≤ new.before.length := by
    refine Nat.not_lt.1 fun hlt => ?_
    rw [hnewFirst.split] at hhere
    have hend : new.before.length + new.text.length ≤ hit.before.length :=
      Nat.not_lt.1 fun hhi => Apart.not_beginsAt hps hapart hnewFirst.mem hlt hhi hhere
    have hs : hit.before.length ≤ s.length := hfirst.beginsAt.le_length
    obtain ⟨post, hpost⟩ : new.before ++ new.text <+: s :=
      List.prefix_of_prefix_length_le ⟨new.after, by rw [hnewFirst.split]; simp⟩
        (List.prefix_append s t) (by simp only [List.length_append]; omega)
    exact hfirst.first _ hlt ⟨new.before, new.text, post, by simp [← hpost], rfl, hnewFirst.mem⟩
  have hsplit : hit.before ++ (hit.text ++ (hit.after ++ t)) =
      new.before ++ (new.text ++ new.after) := by
    rw [← hnewFirst.split]
    conv_rhs => rw [hfirst.split]
    simp
  obtain ⟨hbefore, hrest⟩ := List.append_inj hsplit (Nat.le_antisymm hge hle)
  have hafter : ∀ w ∈ language [ps], ∀ r, Phrase.rest? ps (w ++ r) = some r := by
    intro w hw r
    exact Phrase.rest?_of_mem_language hps (by simpa [mem_language] using hw) r
  have heq : hit.after ++ t = new.after := by
    have hsome := hafter _ hfirst.mem (hit.after ++ t)
    rw [hrest, hafter _ hnewFirst.mem] at hsome
    exact (Option.some.inj hsome).symm
  have htext : hit.text = new.text := by
    rw [heq] at hrest
    exact List.append_cancel_right hrest
  rw [hnew, hbefore, heq, htext]

end

/-! ## Fixed texts -/

theorem isSettled_lit (t : String) : (lit t).isSettled = true := rfl

theorem isSettled_anyOf (ts : List String) : (anyOf ts).isSettled = true := by
  simp [isSettled, anyOf, Phrase.isSettled]

theorem language_lit (t : String) : (lit t).language = Source.text t := by
  simp [language, lit, Phrase.language, Piece.language, Source.text]

theorem mem_language_anyOf {ts : List String} {w : List Char} :
    w ∈ (anyOf ts).language ↔ ∃ t ∈ ts, w = t.toList := by
  rw [mem_language, anyOf]
  simp [Phrase.language, Piece.mem_language_lit]

/-- A fixed text is found just if it is in the text. -/
theorem occurs_lit_iff {t : String} : (lit t).occurs s = true ↔ t.toList <:+: s := by
  rw [occurs_iff_language (isSettled_lit t), language_lit]
  simp [Source.mem_text]

end Pattern
end RouteAudit
