import RouteAudit.Proofs.Pattern.Language

/-!
# Where patterns begin

Counting looks for each occurrence of a pattern behind the one before, so it could pass over an
occurrence that begins inside another one.  For a pattern none of whose occurrences can begin inside
another, the count is the number of places where the pattern begins, and then counts of two patterns
can be compared place by place.

## What is here

* `isFreeOf` — a test whether a word can begin anywhere in a text, whatever comes behind the text.
  It can be run, and it goes through appending (`isFreeOf_append`), so a text that is put together
  from parts is tested part by part;
* `Pattern.begins`, `Pattern.places` — whether a pattern begins here, and how many places there are
  where it does;
* `Pattern.SilentIn` — the pattern begins nowhere in a text, which again is shown part by part;
* `Pattern.Apart` — occurrences of the pattern do not overlap; `Pattern.apart_of_silent` shows it
  from the texts that the pattern stands for, and `Pattern.apart_of_word` for a phrase that begins
  with a word which cannot begin again in what follows;
* `Pattern.count_eq_places` — for such a pattern every place is counted.
-/

set_option autoImplicit false

namespace RouteAudit

/-! ## Texts in which a word cannot begin -/

/-- Whether two texts differ at a place that both have. -/
def differ : List Char → List Char → Bool
  | a :: s, b :: t => a != b || differ s t
  | _, _ => false

/-- Whether a word begins nowhere in a text, whatever comes behind the text. -/
def isFreeOf (w : List Char) : List Char → Bool
  | [] => true
  | c :: s => differ w (c :: s) && isFreeOf w s

theorem differ_append {w s : List Char} (h : differ w s = true) (t : List Char) :
    differ w (s ++ t) = true := by
  induction w generalizing s with
  | nil => simp [differ] at h
  | cons a w ih =>
    cases s with
    | nil => simp [differ] at h
    | cons b s =>
      simp only [differ, List.cons_append, Bool.or_eq_true] at h ⊢
      exact h.imp_right ih

theorem afterLit_of_differ {w s : List Char} (h : differ w s = true) : afterLit w s = none := by
  induction w generalizing s with
  | nil => simp [differ] at h
  | cons a w ih =>
    cases s with
    | nil => simp [differ] at h
    | cons b s =>
      simp only [differ, Bool.or_eq_true, bne_iff_ne] at h
      rw [afterLit]
      split
      · rename_i hab
        exact ih (h.resolve_left fun hne => hne hab)
      · rfl

/-- **Parts.**  A word that begins in no part of a text begins nowhere in it. -/
theorem isFreeOf_append {w s t : List Char} (hs : isFreeOf w s = true) (ht : isFreeOf w t = true) :
    isFreeOf w (s ++ t) = true := by
  induction s with
  | nil => exact ht
  | cons c s ih =>
    rw [isFreeOf, Bool.and_eq_true] at hs
    rw [List.cons_append, isFreeOf, Bool.and_eq_true]
    exact ⟨differ_append hs.1 t, ih hs.2⟩

theorem isFreeOf_flatMap {α : Type} {w : List Char} {f : α → List Char} {xs : List α}
    (h : ∀ x ∈ xs, isFreeOf w (f x) = true) : isFreeOf w (xs.flatMap f) = true := by
  induction xs with
  | nil => rfl
  | cons x xs ih =>
    obtain ⟨hx, hxs⟩ := List.forall_mem_cons.1 h
    exact isFreeOf_append hx (ih hxs)

/-- A word cannot begin where its first character is not. -/
theorem isFreeOf_of_not_mem {a : Char} {s : List Char} (h : a ∉ s) (w : List Char) :
    isFreeOf (a :: w) s = true := by
  induction s with
  | nil => rfl
  | cons c s ih =>
    obtain ⟨hc, hs⟩ := not_or.1 (mt List.mem_cons.2 h)
    rw [isFreeOf, Bool.and_eq_true, differ, Bool.or_eq_true, bne_iff_ne]
    exact ⟨.inl hc, ih hs⟩

theorem afterLit_of_isFreeOf {w u v : List Char} (h : isFreeOf w (u ++ v) = true) (hv : v ≠ [])
    (t : List Char) : afterLit w (v ++ t) = none := by
  induction u with
  | nil =>
    obtain ⟨c, v, rfl⟩ := List.exists_cons_of_ne_nil hv
    rw [List.nil_append, isFreeOf, Bool.and_eq_true] at h
    exact afterLit_of_differ (differ_append h.1 t)
  | cons c u ih =>
    rw [List.cons_append, isFreeOf, Bool.and_eq_true] at h
    exact ih h.2

/-! ## Places -/

namespace Pattern

/-- Whether the pattern begins at the front of a text. -/
def begins (p : Pattern) (s : List Char) : Bool := (p.rest? s).isSome

/-- How many places of a text there are at which the pattern begins. -/
def places (p : Pattern) : List Char → Nat
  | [] => if p.begins [] then 1 else 0
  | c :: cs => (if p.begins (c :: cs) then 1 else 0) + places p cs

theorem find?_cons_of_begins {p : Pattern} {c : Char} {cs : List Char}
    (h : p.begins (c :: cs) = false) :
    p.find? (c :: cs) = (p.find? cs).map fun hit => { hit with before := c :: hit.before } := by
  rw [begins, Option.isSome_eq_false_iff, Option.isNone_iff_eq_none] at h
  rw [find?, h]

/-- **Occurring** is beginning somewhere. -/
theorem occurs_iff {p : Pattern} {s : List Char} :
    p.occurs s = true ↔ ∃ u v, s = u ++ v ∧ p.begins v = true := by
  induction s with
  | nil =>
    rw [occurs, find?, Option.isSome_map]
    constructor
    · exact fun h => ⟨[], [], rfl, h⟩
    · rintro ⟨u, v, huv, hv⟩
      rwa [(List.append_eq_nil_iff.1 huv.symm).2] at hv
  | cons c cs ih =>
    cases hb : p.begins (c :: cs) with
    | true =>
      have hocc : p.occurs (c :: cs) = true := by
        obtain ⟨r, hr⟩ := Option.isSome_iff_exists.1 hb
        rw [occurs, find?, hr]
        rfl
      exact ⟨fun _ => ⟨[], c :: cs, rfl, hb⟩, fun _ => hocc⟩
    | false =>
      rw [occurs, find?_cons_of_begins hb, Option.isSome_map, ← occurs, ih]
      constructor
      · rintro ⟨u, v, rfl, hv⟩
        exact ⟨c :: u, v, rfl, hv⟩
      · rintro ⟨u, v, huv, hv⟩
        cases u with
        | nil => rw [← huv.trans (List.nil_append v), hb] at hv; cases hv
        | cons d u => exact ⟨u, v, (List.cons.inj huv).2, hv⟩

/-- What begins wherever `p` begins occurs wherever `p` occurs. -/
theorem occurs_of_begins {p q : Pattern} (h : ∀ s, p.begins s = true → q.begins s = true)
    {s : List Char} (hp : p.occurs s = true) : q.occurs s = true := by
  obtain ⟨u, v, rfl, hv⟩ := occurs_iff.1 hp
  exact occurs_iff.2 ⟨u, v, rfl, h v hv⟩

theorem places_le_of_begins {p q : Pattern} (h : ∀ s, p.begins s = true → q.begins s = true)
    (s : List Char) : p.places s ≤ q.places s := by
  have hone : ∀ v, (if p.begins v then 1 else 0) ≤ if q.begins v then 1 else 0 := by
    intro v
    split
    · rename_i hp
      simp [h v hp]
    · exact Nat.zero_le _
  induction s with
  | nil => exact hone []
  | cons c cs ih => exact Nat.add_le_add (hone (c :: cs)) ih

/-- What is counted occurs. -/
theorem occurs_of_count_pos {p : Pattern} {s : List Char} (h : 0 < p.count s) :
    p.occurs s = true := by
  have key : ∀ (s : List Char) (skip : Nat), 0 < p.countFrom skip s → p.occurs s = true := by
    intro s
    induction s with
    | nil => intro skip h; simp [countFrom] at h
    | cons c cs ih =>
      intro skip h
      cases skip with
      | succ skip => exact occurs_cons_of_occurs (ih skip h)
      | zero =>
        cases hr : p.rest? (c :: cs) with
        | some r => simp [occurs, find?, hr]
        | none =>
          rw [countFrom, hr] at h
          exact occurs_cons_of_occurs (ih 0 h)
  exact key s 0 h

/-! ## Occurrences that do not overlap -/

/-- No occurrence of the pattern is empty or has another one beginning inside it. -/
structure Apart (p : Pattern) : Prop where
  nil : p.begins [] = false
  /-- The text of an occurrence, and that nothing begins behind its first character. -/
  inside : ∀ {s r : List Char}, p.rest? s = some r → ∃ c m, s = c :: (m ++ r) ∧
    ∀ u v, m = u ++ v → v ≠ [] → p.begins (v ++ r) = false

theorem countFrom_length (p : Pattern) (m r : List Char) :
    p.countFrom m.length (m ++ r) = p.countFrom 0 r := by
  induction m with
  | nil => rfl
  | cons c m ih => exact ih

/-- Where nothing begins there is no place. -/
theorem places_append {p : Pattern} {m r : List Char}
    (h : ∀ u v, m = u ++ v → v ≠ [] → p.begins (v ++ r) = false) :
    p.places (m ++ r) = p.places r := by
  induction m with
  | nil => rfl
  | cons c m ih =>
    have hc : p.begins (c :: (m ++ r)) = false := h [] (c :: m) rfl (List.cons_ne_nil c m)
    rw [List.cons_append, places, hc, if_neg Bool.false_ne_true, Nat.zero_add]
    exact ih fun u v huv hv => h (c :: u) v (congrArg (c :: ·) huv) hv

/-- **Every place is counted**, if occurrences do not overlap. -/
theorem count_eq_places {p : Pattern} (hp : p.Apart) (s : List Char) : p.count s = p.places s := by
  -- what is counted from behind an occurrence is a shorter text, so the length goes down
  induction hn : s.length using Nat.strongRecOn generalizing s with
  | ind n ih =>
    subst hn
    cases s with
    | nil => rw [count, countFrom, places, hp.nil]; rfl
    | cons c cs =>
      cases hr : p.rest? (c :: cs) with
      | none =>
        have hb : p.begins (c :: cs) = false := by rw [begins, hr]; rfl
        rw [count, countFrom, hr, places, hb, if_neg Bool.false_ne_true, Nat.zero_add]
        exact ih cs.length (Nat.lt_succ_self _) cs rfl
      | some r =>
        have hb : p.begins (c :: cs) = true := by rw [begins, hr]; rfl
        obtain ⟨d, m, hs, hinside⟩ := hp.inside hr
        obtain ⟨rfl, rfl⟩ := List.cons.inj hs
        have hskip : (m ++ r).length - r.length = m.length := by simp
        have hrest : p.countFrom 0 r = p.places r :=
          ih r.length (by simp only [List.length_cons, List.length_append]; omega) r rfl
        rw [count, countFrom, hr, places, hb, if_pos rfl, places_append hinside]
        dsimp only
        rw [hskip, countFrom_length, hrest]

end Pattern

/-! ## Phrases that begin with a word -/

/-- Whether a word can begin in no text that the piece stands for. -/
def Piece.isFreeOf (w : List Char) : Piece → Bool
  | .lit t => RouteAudit.isFreeOf w t
  | .blanks => w.head?.any fun a => !Text.isBlank a
  | .gap => w.head?.any fun a => !Text.isBlank a
  | .word => w.head?.any fun a => !Text.isWord a

/-- A word begins nowhere among characters of a class that its first character is not in. -/
theorem isFreeOf_of_all {class? : Char → Bool} {w s : List Char}
    (hw : (w.head?.any fun a => !class? a) = true) (hs : s.all class? = true) :
    isFreeOf w s = true := by
  cases w with
  | nil => simp at hw
  | cons a w =>
    refine isFreeOf_of_not_mem (fun ha => ?_) w
    rw [List.head?_cons, Option.any_some, List.all_eq_true.1 hs a ha] at hw
    exact Bool.false_ne_true hw

/-- A word cannot begin in a text of a piece that is free of it. -/
theorem Piece.isFreeOf_of_mem {w : List Char} {p : Piece} (hp : p.isFreeOf w = true)
    {m : List Char} (hm : m ∈ p.language) : RouteAudit.isFreeOf w m = true := by
  cases p with
  | lit t =>
    rw [Piece.mem_language_lit.1 hm]
    exact hp
  | blanks => exact isFreeOf_of_all hp (List.all_eq_true.2 (Source.mem_blanks.1 hm))
  | gap => exact isFreeOf_of_all hp (List.all_eq_true.2 (Source.mem_gap.1 hm).2)
  | word => exact isFreeOf_of_all hp (List.all_eq_true.2 (Source.mem_word.1 hm).2)

/-- A word cannot begin in a text of a phrase whose pieces are free of it. -/
theorem Phrase.isFreeOf_of_mem {w : List Char} {ps : Phrase}
    (hps : ps.all (Piece.isFreeOf w) = true) {m : List Char} (hm : m ∈ Phrase.language ps) :
    RouteAudit.isFreeOf w m = true := by
  induction ps generalizing m with
  | nil =>
    rw [Phrase.mem_language_nil.1 hm]
    rfl
  | cons p ps ih =>
    rw [List.all_cons, Bool.and_eq_true] at hps
    obtain ⟨a, ha, b, hb, rfl⟩ := Phrase.mem_language_cons.1 hm
    exact isFreeOf_append (Piece.isFreeOf_of_mem hps.1 ha) (ih hps.2 hb)

/-- More pieces are taken behind the first ones. -/
theorem Phrase.rest?_append (ps qs : Phrase) (s : List Char) :
    Phrase.rest? (ps ++ qs) s = (Phrase.rest? ps s).bind (Phrase.rest? qs) := by
  induction ps generalizing s with
  | nil => rfl
  | cons p ps ih =>
    rw [List.cons_append, Phrase.rest?, Phrase.rest?]
    cases p.rest? s with
    | none => rfl
    | some r => exact ih r

namespace Pattern

theorem rest?_singleton (ps : Phrase) (s : List Char) :
    rest? [ps] s = Phrase.rest? ps s := by
  rw [rest?, List.findSome?_cons]
  cases Phrase.rest? ps s <;> rfl

/-- A phrase begins where it begins with more behind it. -/
theorem begins_of_append (ps qs : Phrase) {s : List Char} (h : begins [ps ++ qs] s = true) :
    begins [ps] s = true := by
  rw [begins, rest?_singleton] at h ⊢
  rw [Phrase.rest?_append] at h
  cases hr : Phrase.rest? ps s with
  | none => rw [hr] at h; cases h
  | some r => rfl

/-- Where a phrase begins with a word, the word is there. -/
theorem begins_word {w : List Char} {ps : Phrase} {s : List Char}
    (h : begins [.lit w :: ps] s = true) : (afterLit w s).isSome = true := by
  have hw : begins [[.lit w]] s = true := begins_of_append [.lit w] ps h
  rw [begins, rest?_singleton, Phrase.rest?] at hw
  rw [← Piece.rest?]
  cases hr : (Piece.lit w).rest? s with
  | none => rw [hr] at hw; cases hw
  | some r => rfl

/-! ## Patterns that are silent in a text -/

/-- The pattern begins at no place of `m`, when `r` comes behind it. -/
def SilentIn (p : Pattern) (m r : List Char) : Prop :=
  ∀ u v, m = u ++ v → v ≠ [] → p.begins (v ++ r) = false

/-- **Parts.**  A pattern that is silent in each part of a text is silent in the text. -/
theorem SilentIn.append {p : Pattern} {m n r : List Char} (hm : p.SilentIn m (n ++ r))
    (hn : p.SilentIn n r) : p.SilentIn (m ++ n) r := by
  intro u v huv hv
  rcases List.append_eq_append_iff.1 huv with ⟨x, -, hx⟩ | ⟨x, hx, rfl⟩
  · exact hn x v hx hv
  · by_cases hne : x = []
    · subst hne
      exact hn [] n rfl hv
    · rw [List.append_assoc]
      exact hm u x hx hne

/-- Every phrase of the pattern begins with one of the words. -/
def OpensWith (p : Pattern) (words : List (List Char)) : Prop :=
  ∀ ps ∈ p, ∃ w ∈ words, ∃ qs, ps = .lit w :: qs

/-- A pattern is silent where none of the words can begin that its phrases begin with. -/
theorem OpensWith.silentIn {p : Pattern} {words : List (List Char)} (hp : p.OpensWith words)
    {m : List Char} (hm : ∀ w ∈ words, isFreeOf w m = true) (r : List Char) : p.SilentIn m r := by
  intro u v huv hv
  rw [← Bool.not_eq_true]
  intro hb
  rw [begins, rest?, List.findSome?_isSome_iff] at hb
  obtain ⟨ps, hps, hsome⟩ := hb
  obtain ⟨w, hw, qs, rfl⟩ := hp ps hps
  have hbegins : begins [.lit w :: qs] (v ++ r) = true := by rwa [begins, rest?_singleton]
  have hword := begins_word hbegins
  have hfree : isFreeOf w (u ++ v) = true := huv ▸ hm w hw
  rw [afterLit_of_isFreeOf hfree hv] at hword
  cases hword

/-- Occurrences do not overlap if the pattern is silent behind the first character of each of its
texts. -/
theorem apart_of_silent {p : Pattern}
    (h : ∀ w ∈ p.language, ∃ c m, w = c :: m ∧ ∀ r, p.SilentIn m r) : p.Apart := by
  refine ⟨?_, fun {s r} hr => ?_⟩
  · rw [← Bool.not_eq_true]
    intro hb
    obtain ⟨r, hr⟩ := Option.isSome_iff_exists.1 hb
    obtain ⟨w, hw, hnil⟩ := exists_of_rest? hr
    obtain ⟨c, m, rfl, -⟩ := h w hw
    cases hnil
  · obtain ⟨w, hw, rfl⟩ := exists_of_rest? hr
    obtain ⟨c, m, rfl, hm⟩ := h w hw
    exact ⟨c, m, rfl, hm r⟩

/-- A pattern is silent behind the first character of a phrase that begins with a word, if none of
the words that its phrases begin with can begin there. -/
theorem OpensWith.exists_silentIn {p : Pattern} {words : List (List Char)} (hp : p.OpensWith words)
    {a : Char} {w : List Char} {ps : Phrase} (hw : ∀ x ∈ words, isFreeOf x w = true)
    (hps : ∀ x ∈ words, ps.all (Piece.isFreeOf x) = true) {t : List Char}
    (ht : t ∈ Phrase.language (.lit (a :: w) :: ps)) :
    ∃ c m, t = c :: m ∧ ∀ r, p.SilentIn m r := by
  obtain ⟨_, rfl, b, hb, rfl⟩ := Phrase.mem_language_cons.1 ht
  refine ⟨a, w ++ b, rfl, hp.silentIn fun x hx => ?_⟩
  exact isFreeOf_append (hw x hx) (Phrase.isFreeOf_of_mem (hps x hx) hb)

/-- **A word that does not come again.**  Occurrences of a phrase that begins with a word do not
overlap if the word can begin nowhere behind its own first character. -/
theorem apart_of_word {a : Char} {w : List Char} {ps : Phrase}
    (hw : isFreeOf (a :: w) w = true) (hps : ps.all (Piece.isFreeOf (a :: w)) = true) :
    Apart [.lit (a :: w) :: ps] := by
  have hopens : OpensWith [.lit (a :: w) :: ps] [a :: w] := by
    intro qs hqs
    exact ⟨a :: w, List.mem_singleton_self _, ps, List.mem_singleton.1 hqs⟩
  refine apart_of_silent fun t ht => ?_
  obtain ⟨qs, hqs, ht⟩ := mem_language.1 ht
  rw [List.mem_singleton.1 hqs] at ht
  refine hopens.exists_silentIn ?_ ?_ ht
  · simpa using hw
  · simpa using hps

/-- **The first occurrence of a word** is where it stands behind a text in which it cannot begin. -/
theorem find?_lit {w : String} {s : List Char} (hw : w.toList ≠ [])
    (hs : isFreeOf w.toList s = true) (t : List Char) :
    (lit w).find? (s ++ (w.toList ++ t)) = some ⟨s, w.toList, t⟩ := by
  have hrest : ∀ v, rest? (lit w) v = afterLit w.toList v := by
    intro v
    rw [lit, rest?_singleton, Phrase.rest?, Piece.rest?]
    cases afterLit w.toList v <;> rfl
  induction s with
  | nil =>
    obtain ⟨c, cs, hc⟩ := List.exists_cons_of_ne_nil hw
    have hr : afterLit w.toList (w.toList ++ t) = some t := afterLit_eq_some_iff.2 rfl
    rw [hc] at hr hrest ⊢
    have htake : (c :: cs ++ t).take ((c :: cs ++ t).length - t.length) = c :: cs := by
      rw [List.length_append, Nat.add_sub_cancel, List.take_left]
    rw [List.nil_append, List.cons_append, find?, hrest, ← List.cons_append, hr]
    dsimp only
    rw [htake]
  | cons c s ih =>
    have hnone : afterLit w.toList (c :: s ++ (w.toList ++ t)) = none :=
      afterLit_of_isFreeOf (u := []) hs (List.cons_ne_nil c s) _
    rw [isFreeOf, Bool.and_eq_true] at hs
    rw [List.cons_append] at hnone
    rw [List.cons_append, find?, hrest, hnone, ih hs.2]
    rfl

end Pattern
end RouteAudit
