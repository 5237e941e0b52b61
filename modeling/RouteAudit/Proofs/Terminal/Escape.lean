import RouteAudit.Terminal.Markup

/-!
# Escaped text in a markup

A text that is escaped gets backslashes in front of whatever looks like a tag in it.  Here is why
that is enough: read as markup, an escaped text has the same parts as the text itself, each tag with
an odd number of backslashes, which makes it a text.  What follows the escaped text may not end a
tag that the text has only begun, and backslashes at the end of the text belong to what follows.

## What is here

* `IsInside` — the inside of a tag; `pieces_tag`, `pieces_cons` and `pieces_induction` — a markup is
  read tag by tag and character by character;
* `Piece.slashed` — a part with other backslashes in front of its tag, and `respell`, the text of
  such parts;
* `pieces_respell_append` — a respelled text has the parts it was respelled to;
* `exists_escape` — an escaped text is a respelled one with backslashes behind it;
* `Piece.isLiteral` — a part that is printed as a text, and `exists_pieces_escape`, that all parts
  of an escaped text are.
-/

set_option autoImplicit false

namespace RouteAudit
namespace Terminal

/-! ## Reading tag by tag -/

/-- The inside of a tag: a first character that a tag may have, and no bracket behind it. -/
def IsInside : List Char → Prop
  | [] => False
  | c :: cs => startsTag c = true ∧ ']' ∉ cs ∧ '[' ∉ cs

/-- No tag begins with a bracket or a backslash. -/
theorem ne_of_startsTag {c : Char} (h : startsTag c = true) : c ≠ '[' ∧ c ≠ ']' ∧ c ≠ '\\' := by
  refine ⟨?_, ?_, ?_⟩ <;> rintro rfl <;> revert h <;> decide

theorem tagEnd?_append {s : List Char} (h : ']' ∉ s ∧ '[' ∉ s) (t : List Char) :
    tagEnd? (s ++ ']' :: t) = some s := by
  induction s with
  | nil => rfl
  | cons c s ih =>
    simp only [List.mem_cons, not_or] at h
    rw [List.cons_append, tagEnd?, if_neg (Ne.symm h.1.1), if_neg (Ne.symm h.2.1),
      ih ⟨h.1.2, h.2.2⟩]
    rfl

theorem not_mem_of_tagEnd? {s t : List Char} (h : tagEnd? s = some t) : ']' ∉ t ∧ '[' ∉ t := by
  induction s generalizing t with
  | nil => cases h
  | cons c s ih =>
    rw [tagEnd?] at h
    split at h
    · cases h
      simp
    · split at h
      · cases h
      · rename_i hclose hopen
        obtain ⟨u, hu, rfl⟩ := Option.map_eq_some_iff.1 h
        simp only [List.mem_cons, not_or]
        exact ⟨⟨Ne.symm hclose, (ih hu).1⟩, ⟨Ne.symm hopen, (ih hu).2⟩⟩

theorem tagHere?_append {inside : List Char} (h : IsInside inside) (t : List Char) :
    tagHere? ('[' :: (inside ++ ']' :: t)) = some inside := by
  cases inside with
  | nil => exact h.elim
  | cons c cs =>
    obtain ⟨hc, hcs⟩ := h
    rw [List.cons_append, tagHere?, if_pos hc, tagEnd?_append hcs]
    rfl

/-- **A tag is there** where a bracket, its inside and the closing bracket are. -/
theorem tagHere?_eq_some {s inside : List Char} (h : tagHere? s = some inside) :
    IsInside inside ∧ ∃ t, s = '[' :: (inside ++ ']' :: t) := by
  match s with
  | [] => cases h
  | [c] => simp [tagHere?] at h
  | b :: c :: cs =>
    by_cases hb : b = '['
    · subst hb
      rw [tagHere?] at h
      split at h
      · rename_i hc
        obtain ⟨u, hu, rfl⟩ := Option.map_eq_some_iff.1 h
        obtain ⟨t, rfl⟩ := tagEnd?_eq_some hu
        exact ⟨⟨hc, not_mem_of_tagEnd? hu⟩, t, rfl⟩
      · cases h
    · simp [tagHere?, hb] at h

/-- Backslashes. -/
def slashes (n : Nat) : List Char := List.replicate n '\\'

theorem leadingSlashes_slashes (n : Nat) {s : List Char} (h : s.head? ≠ some '\\') :
    leadingSlashes (slashes n ++ s) = n := by
  induction n with
  | zero =>
    cases s with
    | nil => rfl
    | cons c s =>
      have hc : c ≠ '\\' := by simpa using h
      rw [slashes, List.replicate_zero, List.nil_append, leadingSlashes, if_neg hc]
  | succ n ih =>
    rw [slashes, List.replicate_succ, List.cons_append, leadingSlashes, if_pos rfl]
    exact congrArg (· + 1) ih

theorem eq_slashes_append (s : List Char) :
    s = slashes (leadingSlashes s) ++ s.drop (leadingSlashes s) := by
  induction s with
  | nil => rfl
  | cons c s ih =>
    rw [leadingSlashes]
    split
    · rename_i hc
      subst hc
      rw [List.drop_succ_cons, slashes, List.replicate_succ, List.cons_append]
      exact congrArg ('\\' :: ·) ih
    · rfl

theorem slashedTag?_slashes (n : Nat) {inside : List Char} (h : IsInside inside) (t : List Char) :
    slashedTag? (slashes n ++ '[' :: (inside ++ ']' :: t)) = some (n, inside) := by
  have hn : leadingSlashes (slashes n ++ '[' :: (inside ++ ']' :: t)) = n :=
    leadingSlashes_slashes n (by simp)
  have hdrop : (slashes n ++ '[' :: (inside ++ ']' :: t)).drop n = '[' :: (inside ++ ']' :: t) := by
    simp [slashes]
  rw [slashedTag?, hn, hdrop, tagHere?_append h]
  rfl

theorem slashedTag?_eq_some {s inside : List Char} {n : Nat}
    (h : slashedTag? s = some (n, inside)) :
    IsInside inside ∧ ∃ t, s = slashes n ++ '[' :: (inside ++ ']' :: t) := by
  obtain ⟨u, hu, heq⟩ := Option.map_eq_some_iff.1 h
  cases heq
  obtain ⟨hinside, t, ht⟩ := tagHere?_eq_some hu
  exact ⟨hinside, t, by rw [← ht]; exact eq_slashes_append s⟩

/-- A backslash in front changes nothing about there being a tag. -/
theorem slashedTag?_slash (s : List Char) :
    slashedTag? ('\\' :: s) = none ↔ slashedTag? s = none := by
  simp only [slashedTag?, leadingSlashes, if_pos, List.drop_succ_cons, Option.map_eq_none_iff]

theorem slashedTag?_of_ne {c : Char} (hopen : c ≠ '[') (hslash : c ≠ '\\') (s : List Char) :
    slashedTag? (c :: s) = none := by
  simp only [slashedTag?, leadingSlashes, if_neg hslash, List.drop_zero, Option.map_eq_none_iff]
  cases h : tagHere? (c :: s) with
  | none => rfl
  | some inside =>
    obtain ⟨-, t, ht⟩ := tagHere?_eq_some h
    exact absurd (List.cons.inj ht).1 hopen

theorem piecesFrom_length (s t : List Char) : piecesFrom s.length (s ++ t) = pieces t := by
  induction s with
  | nil => rfl
  | cons c s ih => exact ih

/-- A tag is one part. -/
theorem pieces_tag (n : Nat) {inside : List Char} (h : IsInside inside) (t : List Char) :
    pieces (slashes n ++ '[' :: (inside ++ ']' :: t)) = .tag n inside :: pieces t := by
  have htag := slashedTag?_slashes n h t
  obtain ⟨c, cs, hs⟩ : ∃ c cs, slashes n ++ '[' :: (inside ++ [']']) = c :: cs :=
    List.exists_cons_of_ne_nil (by simp)
  have hsplit : slashes n ++ '[' :: (inside ++ ']' :: t) = c :: (cs ++ t) := by
    have := congrArg (· ++ t) hs
    simpa using this
  have hlen : n + inside.length + 1 = cs.length := by
    have := congrArg List.length hs
    simp only [slashes, List.length_append, List.length_replicate, List.length_cons,
      List.length_nil] at this
    omega
  rw [hsplit] at htag ⊢
  rw [pieces, piecesFrom, htag]
  dsimp only
  rw [hlen, piecesFrom_length]

/-- A character that begins no tag is one part. -/
theorem pieces_cons {c : Char} {s : List Char} (h : slashedTag? (c :: s) = none) :
    pieces (c :: s) = .char c :: pieces s := by
  rw [pieces, piecesFrom, h]
  rfl

/-- **A markup is read** tag by tag and character by character. -/
theorem pieces_induction {motive : List Char → Prop} (nil : motive [])
    (tag : ∀ n inside t, IsInside inside → motive t →
      motive (slashes n ++ '[' :: (inside ++ ']' :: t)))
    (char : ∀ c s, slashedTag? (c :: s) = none → motive s → motive (c :: s)) (s : List Char) :
    motive s := by
  induction hn : s.length using Nat.strongRecOn generalizing s with
  | ind n ih =>
    subst hn
    cases s with
    | nil => exact nil
    | cons c s =>
      cases h : slashedTag? (c :: s) with
      | none => exact char c s h (ih s.length (Nat.lt_succ_self _) s rfl)
      | some found =>
        obtain ⟨k, inside⟩ := found
        obtain ⟨hinside, t, ht⟩ := slashedTag?_eq_some h
        rw [ht]
        refine tag k inside t hinside (ih t.length ?_ t rfl)
        rw [ht]
        simp only [List.length_append, List.length_cons]
        omega

/-! ## Other backslashes -/

/-- A part with other backslashes in front of its tag. -/
def Piece.slashed (f : Nat → Nat) : Piece → Piece
  | .char c => .char c
  | .tag n inside => .tag (f n) inside

/-- A text with other backslashes in front of its tags. -/
def respell (f : Nat → Nat) (s : List Char) : List Char :=
  ((pieces s).map (Piece.slashed f)).flatMap Piece.text

section
variable {f : Nat → Nat}

theorem respell_tag (n : Nat) {inside : List Char} (h : IsInside inside) (t : List Char) :
    respell f (slashes n ++ '[' :: (inside ++ ']' :: t)) =
      slashes (f n) ++ '[' :: (inside ++ ']' :: respell f t) := by
  rw [respell, pieces_tag n h, List.map_cons, List.flatMap_cons, ← respell]
  simp [Piece.slashed, Piece.text, slashes]

theorem respell_cons {c : Char} {s : List Char} (h : slashedTag? (c :: s) = none) :
    respell f (c :: s) = c :: respell f s := by
  rw [respell, pieces_cons h]
  rfl

/-- Without other backslashes a text is left alone. -/
theorem respell_id (s : List Char) : respell id s = s := by
  induction s using pieces_induction with
  | nil => rfl
  | tag n inside t hinside ih => rw [respell_tag n hinside, ih, id]
  | char c s h ih => rw [respell_cons h, ih]

/-- Backslashes end no tag. -/
theorem tagEnd?_slashes (n : Nat) {s : List Char} (h : tagEnd? s = none) :
    tagEnd? (slashes n ++ s) = none := by
  induction n with
  | zero => exact h
  | succ n ih =>
    rw [slashes, List.replicate_succ, List.cons_append, tagEnd?, if_neg (by decide),
      if_neg (by decide)]
    exact Option.map_eq_none_iff.2 ih

/-- A tag that is only begun in front of a text is not ended by its respelling. -/
theorem tagEnd?_respell {s r : List Char} (hs : tagEnd? s = none) (hr : tagEnd? r = none) :
    tagEnd? (respell f s ++ r) = none := by
  induction s using pieces_induction with
  | nil => exact hr
  | tag n inside t hinside _ =>
    rw [respell_tag n hinside, List.append_assoc]
    exact tagEnd?_slashes _ rfl
  | char c s h ih =>
    rw [tagEnd?] at hs
    rw [respell_cons h, List.cons_append, tagEnd?]
    split at hs
    · cases hs
    · rename_i hclose
      rw [if_neg hclose]
      split
      · rfl
      · rename_i hopen
        rw [if_neg hopen, Option.map_eq_none_iff] at hs
        rw [ih hs]
        rfl

theorem head?_respell {s : List Char} (h : slashedTag? s ≠ none) (r : List Char) :
    ∃ c t, respell f s ++ r = c :: t ∧ startsTag c = false := by
  cases hs : slashedTag? s with
  | none => exact absurd hs h
  | some found =>
    obtain ⟨n, inside⟩ := found
    obtain ⟨hinside, t, rfl⟩ := slashedTag?_eq_some hs
    rw [respell_tag n hinside]
    cases hf : f n with
    | zero => exact ⟨'[', _, rfl, by decide⟩
    | succ k => exact ⟨'\\', _, rfl, by decide⟩

theorem slashedTag?_open {s : List Char} : slashedTag? ('[' :: s) = none ↔
    ∀ c t, s = c :: t → startsTag c = true → tagEnd? t = none := by
  have hzero : leadingSlashes ('[' :: s) = 0 := rfl
  simp only [slashedTag?, hzero, List.drop_zero, Option.map_eq_none_iff]
  cases s with
  | nil => simp [tagHere?]
  | cons c s =>
    cases hc : startsTag c with
    | false => simp [tagHere?, hc]
    | true => simp [tagHere?, hc]

theorem tagEnd?_of_cons {c : Char} {s : List Char} (hc : startsTag c = true)
    (h : tagEnd? (c :: s) = none) : tagEnd? s = none := by
  obtain ⟨hopen, hclose, -⟩ := ne_of_startsTag hc
  rw [tagEnd?, if_neg hclose, if_neg hopen] at h
  exact Option.map_eq_none_iff.1 h

/-- A text without a tag at its front has none there when it is respelled, unless it ends in
backslashes. -/
theorem slashedTag?_respell {s r : List Char} (hs : slashedTag? s = none) (hne : s ≠ [])
    (hlast : s.getLast? ≠ some '\\') (hr : tagEnd? r = none) :
    slashedTag? (respell f s ++ r) = none := by
  induction s with
  | nil => exact absurd rfl hne
  | cons c s ih =>
    rw [respell_cons hs, List.cons_append]
    by_cases hc : c = '\\'
    · subst hc
      rw [slashedTag?_slash] at hs ⊢
      have hs0 : s ≠ [] := by
        rintro rfl
        exact hlast rfl
      exact ih hs hs0 (by rwa [List.getLast?_cons_of_ne_nil hs0] at hlast)
    · by_cases hopen : c = '['
      · subst hopen
        rw [slashedTag?_open] at hs ⊢
        intro d t hd hstart
        cases s with
        | nil =>
          rw [show r = d :: t from hd] at hr
          exact tagEnd?_of_cons hstart hr
        | cons e s =>
          cases he : slashedTag? (e :: s) with
          | none =>
            rw [respell_cons he, List.cons_append, List.cons.injEq] at hd
            obtain ⟨rfl, rfl⟩ := hd
            exact tagEnd?_respell (hs e s rfl hstart) hr
          | some found =>
            obtain ⟨c, u, hu, hc⟩ := head?_respell (f := f) (by rw [he]; simp) r
            rw [hu, List.cons.injEq] at hd
            rw [hd.1, hstart] at hc
            cases hc
      · exact slashedTag?_of_ne hopen hc _

/-- **A respelled text has the parts it was respelled to**, unless it ends in backslashes, and in
front of a text that ends no tag. -/
theorem pieces_respell_append {s r : List Char} (hlast : s.getLast? ≠ some '\\')
    (hr : tagEnd? r = none) :
    pieces (respell f s ++ r) = (pieces s).map (Piece.slashed f) ++ pieces r := by
  induction s using pieces_induction with
  | nil => rfl
  | tag n inside t hinside ih =>
    have hsplit : slashes n ++ '[' :: (inside ++ ']' :: t) =
        slashes n ++ '[' :: (inside ++ [']']) ++ t := by simp
    have ht : t.getLast? ≠ some '\\' := by
      intro ht
      rw [hsplit, List.getLast?_append, ht] at hlast
      exact hlast rfl
    rw [respell_tag n hinside, pieces_tag n hinside, List.append_assoc, List.cons_append,
      List.append_assoc, List.cons_append, pieces_tag (f n) hinside, ih ht]
    rfl
  | char c s h ih =>
    have hfree : slashedTag? (c :: (respell f s ++ r)) = none := by
      rw [← List.cons_append, ← respell_cons h]
      exact slashedTag?_respell h (List.cons_ne_nil c s) hlast hr
    have hs : s.getLast? ≠ some '\\' := by
      intro hs
      rw [List.getLast?_cons, hs] at hlast
      exact hlast rfl
    rw [respell_cons h, pieces_cons h, List.cons_append, pieces_cons hfree, ih hs]
    rfl

end

/-- Texts one behind the other have their parts one behind the other, if the first does not end in a
backslash and the second ends no tag. -/
theorem pieces_append {s r : List Char} (hlast : s.getLast? ≠ some '\\') (hr : tagEnd? r = none) :
    pieces (s ++ r) = pieces s ++ pieces r := by
  have h := pieces_respell_append (f := id) hlast hr
  have hid : Piece.slashed id = id := by
    funext p
    cases p <;> rfl
  rw [respell_id, hid, List.map_id] at h
  exact h

/-! ## Escaping -/

/-- How many backslashes an escaped tag has. -/
def escapeSlashes (n : Nat) : Nat := 2 * n + 1

theorem flatMap_escaped (s : List Char) :
    (pieces s).flatMap Piece.escaped = respell escapeSlashes s := by
  rw [respell, List.flatMap_map]
  refine congrArg (fun g => List.flatMap g (pieces s)) (funext fun p => ?_)
  cases p <;> rfl

theorem pieces_slashes (n : Nat) : pieces (slashes n) = (slashes n).map .char :=
  pieces_of_not_mem (by simp [slashes])

theorem tagEnd?_of_not_mem {s : List Char} (h : ']' ∉ s) : tagEnd? s = none := by
  cases ht : tagEnd? s with
  | none => rfl
  | some t =>
    obtain ⟨rest, rfl⟩ := tagEnd?_eq_some ht
    exact absurd (by simp) h

/-- Backslashes at the end stay as they are. -/
theorem respell_append_slashes {f : Nat → Nat} {s : List Char} (hlast : s.getLast? ≠ some '\\')
    (n : Nat) : respell f (s ++ slashes n) = respell f s ++ slashes n := by
  have hchars : ((slashes n).map (fun c => (Piece.char c).slashed f)).flatMap Piece.text =
      slashes n := by
    rw [List.flatMap_map]
    exact List.flatMap_singleton' (slashes n)
  rw [respell, pieces_append hlast (tagEnd?_of_not_mem (by simp [slashes])), pieces_slashes,
    List.map_append, List.map_map, List.flatMap_append, ← respell]
  exact congrArg (respell f s ++ ·) hchars

theorem exists_append_slashes (s : List Char) :
    ∃ t n, s = t ++ slashes n ∧ t.getLast? ≠ some '\\' := by
  have hsplit := congrArg List.reverse (eq_slashes_append s.reverse)
  rw [List.reverse_reverse, List.reverse_append, slashes, List.reverse_replicate] at hsplit
  refine ⟨_, leadingSlashes s.reverse, hsplit, ?_⟩
  rw [List.getLast?_reverse]
  generalize s.reverse = r
  induction r with
  | nil => simp
  | cons c r ih =>
    rw [leadingSlashes]
    split
    · exact ih
    · rename_i hc
      simpa using hc

theorem closeSlash_eq (s : List Char) : closeSlash s = s ∨ closeSlash s = s ++ slashes 1 := by
  rw [closeSlash]
  split
  · exact .inr rfl
  · split
    · exact .inl rfl
    · exact .inr rfl
  · exact .inl rfl

/-- **An escaped text** is a respelled one with backslashes behind it. -/
theorem exists_escape (s : List Char) :
    ∃ t n, escape s = respell escapeSlashes t ++ slashes n ∧ t.getLast? ≠ some '\\' := by
  obtain ⟨t, n, rfl, ht⟩ := exists_append_slashes s
  rw [escape, flatMap_escaped, respell_append_slashes ht]
  rcases closeSlash_eq (respell escapeSlashes t ++ slashes n) with h | h
  · exact ⟨t, n, h, ht⟩
  · refine ⟨t, n + 1, ?_, ht⟩
    rw [h, List.append_assoc, slashes, slashes, slashes, List.replicate_append_replicate]

/-! ## Parts that are texts -/

/-- Whether a part is printed as a text: a character, or a tag with an odd number of backslashes. -/
def Piece.isLiteral : Piece → Bool
  | .char _ => true
  | .tag n _ => n % 2 == 1

/-- With the backslashes of an escaped text every part is literal. -/
theorem all_isLiteral_slashed (ps : List Piece) :
    (ps.map (Piece.slashed escapeSlashes)).all Piece.isLiteral = true := by
  rw [List.all_map, List.all_eq_true]
  intro p _
  cases p with
  | char c => rfl
  | tag n inside =>
    simp only [Function.comp_apply, Piece.slashed, Piece.isLiteral, escapeSlashes, beq_iff_eq]
    omega

/-- **An escaped text is a text.**  In front of a text that ends no tag, its parts are literal, but
for backslashes at its end, which belong to what follows. -/
theorem exists_pieces_escape (s : List Char) : ∃ ps n, ps.all Piece.isLiteral = true ∧
    ∀ r, tagEnd? r = none → pieces (escape s ++ r) = ps ++ pieces (slashes n ++ r) := by
  obtain ⟨t, n, hescape, ht⟩ := exists_escape s
  refine ⟨(pieces t).map (Piece.slashed escapeSlashes), n, all_isLiteral_slashed _,
    fun r hr => ?_⟩
  rw [hescape, List.append_assoc, pieces_respell_append ht (tagEnd?_slashes n hr)]

end Terminal
end RouteAudit
