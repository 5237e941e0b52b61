import Mathlib.Data.List.DropRight
import RouteAudit.Pattern.Imports
import RouteAudit.Proofs.Pattern.Search

/-!
# Import statements are read back

Reading an import statement leaves three choices open: how many blanks belong to the front, where
the text behind `import` ends, and where the module name ends.  Both what is imported and the name
of the module may have `import` and `from` in them, so it is not plain that the choices which are
tried first are the right ones.

They are, because of the quotation marks.  What is imported has none, so the first one of a
statement opens the name of the module, and the `from` in front of it is the only one that has
nothing but blanks between itself and a quotation mark (`specifierFrom?_eq_none`).  Every attempt to
end the text behind `import` earlier fails at that.

## What is here

* `Source.specifier`, `Source.importOf` — the languages of import statements;
* `Segment`, `document` — a text that is made of import statements and of other text;
* `importHere?_of_mem` — a statement is read, with the name of its module;
* `importHere?_eq_some` — what is read is a statement;
* `Lists` — names of import statements that stand in a text one behind the other;
* `imports_exact` — the imports of a document are those of its statements, and the imports of any
  text stand in it.
-/

set_option autoImplicit false

namespace RouteAudit

/-! ## Languages -/

namespace Source

/-- A quotation mark. -/
def quote : Language Char := {w | ∃ q, isQuote q = true ∧ w = [q]}

/-- The name of a module: a text without quotation marks. -/
def moduleName : Language Char := {w | w ≠ [] ∧ ∀ c ∈ w, isQuote c = false}

/-- Any text on one line. -/
def line : Language Char := {w | '\n' ∉ w}

/-- What is imported: a text on one line without quotation marks that does not begin with a
blank. -/
def clause : Language Char :=
  {w | (∃ c t, w = c :: t ∧ Text.isBlank c = false) ∧ ∀ c ∈ w, c ≠ '\n' ∧ isQuote c = false}

/-- Where something is imported from: the name of a module between quotation marks. -/
def specifier (name : List Char) : Language Char :=
  gap * text "from" * gap * quote * {name} * quote

/-- A statement that imports something from the module of this name. -/
def importOf (imported : Language Char) (name : List Char) : Language Char :=
  text "import" * gap * imported * specifier name

theorem mem_specifier {name w : List Char} : w ∈ specifier name ↔
    ∃ g ∈ gap, ∃ h ∈ gap, ∃ q q', isQuote q = true ∧ isQuote q' = true ∧
      w = g ++ ("from".toList ++ (h ++ q :: (name ++ [q']))) := by
  simp only [specifier, Language.mem_mul, mem_text]
  constructor
  · rintro ⟨_, ⟨_, ⟨_, ⟨_, ⟨g, hg, _, rfl, rfl⟩, h, hh, rfl⟩, _, ⟨q, hq, rfl⟩, rfl⟩, _, rfl, rfl⟩, _,
      ⟨q', hq', rfl⟩, rfl⟩
    exact ⟨g, hg, h, hh, q, q', hq, hq', by simp⟩
  · rintro ⟨g, hg, h, hh, q, q', hq, hq', rfl⟩
    exact ⟨_, ⟨_, ⟨_, ⟨_, ⟨g, hg, _, rfl, rfl⟩, h, hh, rfl⟩, _, ⟨q, hq, rfl⟩, rfl⟩, _, rfl, rfl⟩, _,
      ⟨q', hq', rfl⟩, by simp⟩

theorem mem_importOf {imported : Language Char} {name w : List Char} :
    w ∈ importOf imported name ↔ ∃ g ∈ gap, ∃ c ∈ imported, ∃ x ∈ specifier name,
      w = "import".toList ++ (g ++ (c ++ x)) := by
  simp only [importOf, Language.mem_mul, mem_text]
  constructor
  · rintro ⟨_, ⟨_, ⟨_, rfl, g, hg, rfl⟩, c, hc, rfl⟩, x, hx, rfl⟩
    exact ⟨g, hg, c, hc, x, hx, by simp⟩
  · rintro ⟨g, hg, c, hc, x, hx, rfl⟩
    exact ⟨_, ⟨_, ⟨_, rfl, g, hg, rfl⟩, c, hc, rfl⟩, x, hx, by simp⟩

end Source

open Source (gap specifier importOf moduleName clause mem_gap mem_specifier mem_importOf)

theorem isBlank_of_isQuote {q : Char} (h : isQuote q = true) : Text.isBlank q = false := by
  rw [isQuote, Bool.or_eq_true, beq_iff_eq, beq_iff_eq] at h
  rcases h with rfl | rfl <;> decide

theorem isQuote_of_isBlank {c : Char} (h : Text.isBlank c = true) : isQuote c = false := by
  cases hq : isQuote c with
  | false => rfl
  | true => rw [isBlank_of_isQuote hq] at h; cases h

/-- Blanks are taken whole in front of something else. -/
theorem Piece.rest?_gap {g b : List Char} (hg : g ∈ Source.gap)
    (hb : ∃ c t, b = c :: t ∧ Text.isBlank c = false) : Piece.gap.rest? (g ++ b) = some b := by
  obtain ⟨hne, hblank⟩ := mem_gap.1 hg
  obtain ⟨c, g, rfl⟩ := List.exists_cons_of_ne_nil hne
  obtain ⟨hc, hblank⟩ := List.forall_mem_cons.1 hblank
  simp [Piece.rest?, hc, dropWhile_run hblank hb]

/-! ## Where something is imported from -/

/-- **A name between quotation marks** is read just if it is there. -/
theorem quotedName?_eq_some_iff {s name after : List Char} :
    quotedName? s = some (name, after) ↔ name ∈ moduleName ∧ ∃ q q',
      isQuote q = true ∧ isQuote q' = true ∧ s = q :: (name ++ q' :: after) := by
  constructor
  · intro h
    cases s with
    | nil => cases h
    | cons q s =>
      have hne := quotedName?_ne_nil h
      simp only [quotedName?] at h
      split at h
      · rename_i hq
        split at h
        · cases h
        · cases h
        · rename_i q' after' hdrop _
          obtain ⟨rfl, rfl⟩ := Prod.mk.inj (Option.some.inj h)
          have hname : ∀ c ∈ s.takeWhile (fun c => !isQuote c), isQuote c = false := by
            intro c hc
            simpa using List.all_eq_true.1 List.all_takeWhile c hc
          have hq' : isQuote q' = true := by
            have hrest : s.dropWhile (fun c => !isQuote c) ≠ [] := by rw [hdrop]; exact List.cons_ne_nil _ _
            simpa [hdrop] using List.head_dropWhile_not (fun c => !isQuote c) hrest
          refine ⟨⟨hne, hname⟩, q, q', hq, hq', ?_⟩
          rw [← hdrop, List.takeWhile_append_dropWhile]
      · cases h
  · rintro ⟨⟨hne, hname⟩, q, q', hq, hq', rfl⟩
    have hrun : ∀ c ∈ name, (!isQuote c) = true := fun c hc => by simp [hname c hc]
    have htake : (name ++ q' :: after).takeWhile (fun c => !isQuote c) = name := by
      rw [List.takeWhile_append_of_pos hrun, List.takeWhile_cons_of_neg (by simp [hq']),
        List.append_nil]
    have hdrop : (name ++ q' :: after).dropWhile (fun c => !isQuote c) = q' :: after :=
      dropWhile_run hrun ⟨q', after, rfl, by simp [hq']⟩
    obtain ⟨c, cs, rfl⟩ := List.exists_cons_of_ne_nil hne
    simp only [quotedName?, hq, if_true, htake, hdrop]

theorem specifierFrom?_of_mem {name w : List Char} (hname : name ∈ moduleName)
    (hw : w ∈ specifier name) (after : List Char) :
    specifierFrom? (w ++ after) = some (name, after) := by
  obtain ⟨g, hg, h, hh, q, q', hq, hq', rfl⟩ := mem_specifier.1 hw
  have hquoted : quotedName? (q :: (name ++ q' :: after)) = some (name, after) :=
    quotedName?_eq_some_iff.2 ⟨hname, q, q', hq, hq', rfl⟩
  have hfront : Piece.gap.rest? (g ++ ("from".toList ++ (h ++ q :: (name ++ q' :: after)))) =
      some ("from".toList ++ (h ++ q :: (name ++ q' :: after))) :=
    Piece.rest?_gap hg ⟨'f', _, rfl, by decide⟩
  have hword : (Piece.lit "from".toList).rest? ("from".toList ++ (h ++ q :: (name ++ q' :: after))) =
      some (h ++ q :: (name ++ q' :: after)) := afterLit_eq_some_iff.2 rfl
  have hback : Piece.gap.rest? (h ++ q :: (name ++ q' :: after)) =
      some (q :: (name ++ q' :: after)) := Piece.rest?_gap hh ⟨q, _, rfl, isBlank_of_isQuote hq⟩
  simp only [List.append_assoc, List.cons_append, List.nil_append]
  simp only [specifierFrom?, Phrase.rest?, hfront, hword, hback, hquoted]

theorem specifierFrom?_eq_some {s name after : List Char}
    (h : specifierFrom? s = some (name, after)) :
    name ∈ moduleName ∧ ∃ w ∈ specifier name, s = w ++ after := by
  rw [specifierFrom?] at h
  split at h
  · cases h
  · rename_i r hr
    obtain ⟨w, hw, rfl⟩ := Phrase.exists_of_rest? hr
    obtain ⟨g, hg, _, hx, rfl⟩ := Phrase.mem_language_cons.1 hw
    obtain ⟨_, rfl, _, hy, rfl⟩ := Phrase.mem_language_cons.1 hx
    obtain ⟨b, hb, _, hz, rfl⟩ := Phrase.mem_language_cons.1 hy
    rw [Phrase.mem_language_nil.1 hz]
    obtain ⟨hname, q, q', hq, hq', rfl⟩ := quotedName?_eq_some_iff.1 h
    refine ⟨hname, _, mem_specifier.2 ⟨g, hg, b, hb, q, q', hq, hq', rfl⟩, ?_⟩
    simp

/-- Texts without quotation marks are the same in front of the first quotation mark. -/
theorem eq_of_append_quote {a b x y : List Char} {q p : Char} (ha : ∀ c ∈ a, isQuote c = false)
    (hb : ∀ c ∈ b, isQuote c = false) (hq : isQuote q = true) (hp : isQuote p = true)
    (h : a ++ q :: x = b ++ p :: y) : a = b := by
  have hrun : ∀ {s : List Char}, (∀ c ∈ s, isQuote c = false) →
      ∀ c ∈ s, (fun c => !isQuote c) c = true := by
    intro s hs c hc
    simp [hs c hc]
  have hend : ∀ {q : Char}, isQuote q = true → ∀ x : List Char,
      ∃ c t, q :: x = c :: t ∧ (fun c => !isQuote c) c = false := by
    intro q hq x
    exact ⟨q, x, rfl, by simp [hq]⟩
  exact (run_append_inj (hrun ha) (hend hq x) (hrun hb) (hend hp y) h).1

/-- Texts are the same in front of the last `from` that has only blanks behind it. -/
theorem eq_of_from_append {a b g h : List Char} (hg : g ∈ gap) (hh : h ∈ gap)
    (e : a ++ ("from".toList ++ g) = b ++ ("from".toList ++ h)) : a = b := by
  have hblank : ∀ {g}, g ∈ gap → ∀ c ∈ g.reverse, Text.isBlank c = true := by
    intro g hg c hc
    exact (mem_gap.1 hg).2 c (List.mem_reverse.1 hc)
  have hend : ∀ a : List Char,
      ∃ c t, "from".toList.reverse ++ a.reverse = c :: t ∧ Text.isBlank c = false :=
    fun a => ⟨'m', _, rfl, by decide⟩
  have hreverse := congrArg List.reverse e
  simp only [List.reverse_append, List.append_assoc] at hreverse
  have hrest := (run_append_inj (hblank hg) (hend a) (hblank hh) (hend b) hreverse).2
  exact List.reverse_injective (List.append_cancel_left hrest)

theorem isQuote_of_mem_gap {g : List Char} (hg : g ∈ gap) : ∀ c ∈ g, isQuote c = false :=
  fun c hc => isQuote_of_isBlank ((mem_gap.1 hg).2 c hc)

/-- **The last `from` counts.**  In front of the place where something is imported from, a text
without quotation marks keeps it from being read, unless the text is blank. -/
theorem specifierFrom?_eq_none {name w v : List Char} (hw : w ∈ specifier name)
    (hquote : ∀ c ∈ v, isQuote c = false) (hblank : ∃ c ∈ v, Text.isBlank c = false)
    (after : List Char) : specifierFrom? (v ++ (w ++ after)) = none := by
  cases hs : specifierFrom? (v ++ (w ++ after)) with
  | none => rfl
  | some found =>
    obtain ⟨name', after'⟩ := found
    obtain ⟨-, w', hw', hsplit⟩ := specifierFrom?_eq_some hs
    obtain ⟨g, hg, h, hh, q, q', hq, -, rfl⟩ := mem_specifier.1 hw
    obtain ⟨g', hg', h', hh', p, p', hp, -, rfl⟩ := mem_specifier.1 hw'
    have hfrom : ∀ c ∈ "from".toList, isQuote c = false := by simp [isQuote]
    -- both ways of reading agree up to the first quotation mark
    have hfront : v ++ g ++ ("from".toList ++ h) = g' ++ ("from".toList ++ h') := by
      refine eq_of_append_quote (x := name ++ q' :: after) (y := name' ++ p' :: after')
        ?_ ?_ hq hp (by simpa using hsplit)
      · simpa only [List.forall_mem_append] using
          ⟨⟨hquote, isQuote_of_mem_gap hg⟩, hfrom, isQuote_of_mem_gap hh⟩
      · simpa only [List.forall_mem_append] using
          ⟨isQuote_of_mem_gap hg', hfrom, isQuote_of_mem_gap hh'⟩
    -- and from there back to the `from`, so the text would be blank
    have hv : v ++ g = g' := eq_of_from_append hh hh' hfront
    obtain ⟨c, hc, hcblank⟩ := hblank
    have htrue : Text.isBlank c = true :=
      (mem_gap.1 hg').2 c (hv ▸ List.mem_append_left g hc)
    rw [htrue] at hcblank
    cases hcblank

/-! ## One statement -/

section

-- Otherwise the equations of the next function are looked for inside this one.
attribute [local irreducible] specifierFrom?

theorem clauseThenSpecifier?_nil : clauseThenSpecifier? [] = specifierFrom? [] := rfl

theorem clauseThenSpecifier?_cons (c : Char) (cs : List Char) : clauseThenSpecifier? (c :: cs) =
    match specifierFrom? (c :: cs) with
    | some found => some found
    | none => if c = '\n' then none else clauseThenSpecifier? cs := rfl

end

/-- What is imported from here is read first. -/
theorem clauseThenSpecifier?_of_specifierFrom? {s : List Char} {found : List Char × List Char}
    (h : specifierFrom? s = some found) : clauseThenSpecifier? s = some found := by
  cases s with
  | nil => rw [clauseThenSpecifier?_nil, h]
  | cons c cs => rw [clauseThenSpecifier?_cons, h]

/-- **As little as possible** stands in front of the place where something is imported from. -/
theorem clauseThenSpecifier?_append {name w u : List Char} (hname : name ∈ moduleName)
    (hw : w ∈ specifier name) (hu : ∀ c ∈ u, c ≠ '\n' ∧ isQuote c = false)
    (hlast : ∀ c ∈ u.getLast?, Text.isBlank c = false) (after : List Char) :
    clauseThenSpecifier? (u ++ (w ++ after)) = some (name, after) := by
  induction u with
  | nil => exact clauseThenSpecifier?_of_specifierFrom? (specifierFrom?_of_mem hname hw after)
  | cons c u ih =>
    obtain ⟨hc, hu'⟩ := List.forall_mem_cons.1 hu
    have hblank : ∃ d ∈ c :: u, Text.isBlank d = false := by
      have hmem := List.getLast_mem (List.cons_ne_nil c u)
      exact ⟨_, hmem, hlast _ (List.getLast?_eq_some_getLast (List.cons_ne_nil c u))⟩
    have hnone := specifierFrom?_eq_none hw (fun d hd => (hu d hd).2) hblank after
    have hlast' : ∀ d ∈ u.getLast?, Text.isBlank d = false := by
      intro d hd
      refine hlast d ?_
      have hne : u ≠ [] := by rintro rfl; cases hd
      rwa [List.getLast?_cons_of_ne_nil hne]
    rw [List.cons_append] at hnone
    rw [List.cons_append, clauseThenSpecifier?_cons, hnone]
    dsimp only
    rw [if_neg hc.1]
    exact ih hu' hlast'

/-- A text is some text that does not end in a blank, and blanks. -/
theorem exists_append_blanks (s : List Char) :
    ∃ u b, s = u ++ b ∧ (∀ c ∈ b, Text.isBlank c = true) ∧
      ∀ c ∈ u.getLast?, Text.isBlank c = false := by
  refine ⟨s.rdropWhile Text.isBlank, s.rtakeWhile Text.isBlank,
    (List.rdropWhile_append_rtakeWhile ..).symm, fun c hc => List.mem_rtakeWhile_imp hc,
    fun c hc => ?_⟩
  obtain ⟨hne, rfl⟩ := List.mem_getLast?_eq_getLast hc
  simpa using List.rdropWhile_last_not Text.isBlank s hne

/-- **A statement is read**, whatever comes behind it. -/
theorem importHere?_of_mem {name w : List Char} (hname : name ∈ moduleName)
    (hw : w ∈ importOf clause name) (after : List Char) :
    importHere? (w ++ after) = some (name, after) := by
  obtain ⟨g, hg, c, hc, x, hx, rfl⟩ := mem_importOf.1 hw
  obtain ⟨hfront, hline⟩ := hc
  obtain ⟨hne, hblank⟩ := mem_gap.1 hg
  have hword : afterLit "import".toList ("import".toList ++ (g ++ (c ++ x)) ++ after) =
      some (g ++ (c ++ (x ++ after))) := afterLit_eq_some_iff.2 (by simp)
  have hrun : ((g ++ (c ++ (x ++ after))).takeWhile Text.isBlank) = g := by
    obtain ⟨d, t, rfl, hd⟩ := hfront
    rw [List.takeWhile_append_of_pos hblank, List.cons_append,
      List.takeWhile_cons_of_neg (by simp [hd]), List.append_nil]
  -- the blanks at the end of what is imported belong to what follows
  have hclause : clauseThenSpecifier? (c ++ (x ++ after)) = some (name, after) := by
    obtain ⟨u, b, rfl, hb, hlast⟩ := exists_append_blanks c
    have hx' : b ++ x ∈ specifier name := by
      obtain ⟨k, hk, l, hl, q, q', hq, hq', rfl⟩ := mem_specifier.1 hx
      refine mem_specifier.2 ⟨b ++ k, ?_, l, hl, q, q', hq, hq', by simp⟩
      refine mem_gap.2 ⟨by simp [(mem_gap.1 hk).1], fun d hd => ?_⟩
      exact (List.mem_append.1 hd).elim (hb d) ((mem_gap.1 hk).2 d)
    have h := clauseThenSpecifier?_append hname hx'
      (fun d hd => hline d (List.mem_append_left b hd)) hlast after
    simpa using h
  obtain ⟨k, hk⟩ := Nat.exists_eq_add_one_of_ne_zero (mt List.length_eq_zero_iff.1 hne)
  have hdrop : (g ++ (c ++ (x ++ after))).drop (k + 1) = c ++ (x ++ after) := by
    rw [← hk, List.drop_left]
  rw [importHere?, hword]
  dsimp only
  rw [hrun, hk, afterImportBlanks?, hdrop, hclause]

theorem clauseThenSpecifier?_eq_some {s name after : List Char}
    (h : clauseThenSpecifier? s = some (name, after)) :
    name ∈ moduleName ∧ ∃ u ∈ Source.line, ∃ w ∈ specifier name, s = u ++ (w ++ after) := by
  induction s with
  | nil =>
    obtain ⟨hname, w, hw, hs⟩ := specifierFrom?_eq_some (clauseThenSpecifier?_nil ▸ h)
    exact ⟨hname, [], List.not_mem_nil, w, hw, hs⟩
  | cons c cs ih =>
    rw [clauseThenSpecifier?_cons] at h
    split at h
    · rename_i found hfound
      obtain rfl := Option.some.inj h
      obtain ⟨hname, w, hw, hs⟩ := specifierFrom?_eq_some hfound
      exact ⟨hname, [], List.not_mem_nil, w, hw, hs⟩
    · split at h
      · cases h
      · rename_i hc
        obtain ⟨hname, u, hu, w, hw, rfl⟩ := ih h
        refine ⟨hname, c :: u, ?_, w, hw, rfl⟩
        exact fun hmem => (List.mem_cons.1 hmem).elim (fun he => hc he.symm) hu

theorem afterImportBlanks?_eq_some {s name after : List Char} {k : Nat}
    (hk : k ≤ (s.takeWhile Text.isBlank).length)
    (h : afterImportBlanks? s k = some (name, after)) :
    ∃ g ∈ gap, ∃ r, s = g ++ r ∧ clauseThenSpecifier? r = some (name, after) := by
  induction k with
  | zero => cases h
  | succ k ih =>
    rw [afterImportBlanks?] at h
    split at h
    · rename_i found hfound
      obtain rfl := Option.some.inj h
      refine ⟨s.take (k + 1), mem_gap.2 ⟨?_, fun c hc => ?_⟩, _,
        (List.take_append_drop (k + 1) s).symm, hfound⟩
      · have hpos : 0 < s.length := by
          have hle : (s.takeWhile Text.isBlank).length ≤ s.length :=
            (List.takeWhile_sublist Text.isBlank).length_le
          omega
        rw [Ne, List.take_eq_nil_iff, not_or]
        exact ⟨Nat.succ_ne_zero k, List.length_pos_iff.1 hpos⟩
      · have hfront : s.take (k + 1) <+: s.takeWhile Text.isBlank :=
          List.prefix_of_prefix_length_le (List.take_prefix _ _) (List.takeWhile_prefix _)
            (Nat.le_trans (List.length_take_le _ _) hk)
        exact List.all_eq_true.1 List.all_takeWhile c (hfront.subset hc)
    · exact ih (Nat.le_of_succ_le hk) h

/-- **What is read is a statement.** -/
theorem importHere?_eq_some {s name after : List Char} (h : importHere? s = some (name, after)) :
    name ∈ moduleName ∧ ∃ w ∈ importOf Source.line name, s = w ++ after := by
  rw [importHere?] at h
  split at h
  · cases h
  · rename_i r hr
    obtain rfl := afterLit_eq_some_iff.1 hr
    obtain ⟨g, hg, r, rfl, hclause⟩ := afterImportBlanks?_eq_some (Nat.le_refl _) h
    obtain ⟨hname, u, hu, w, hw, rfl⟩ := clauseThenSpecifier?_eq_some hclause
    exact ⟨hname, _, mem_importOf.2 ⟨g, hg, u, hu, w, hw, rfl⟩, by simp⟩

/-! ## All statements of a text -/

theorem importsFrom_eq (skip : Nat) (s : List Char) : importsFrom skip s = imports (s.drop skip) := by
  induction s generalizing skip with
  | nil => cases skip <;> rfl
  | cons c cs ih =>
    cases skip with
    | zero => rfl
    | succ skip => exact ih skip

theorem ne_nil_of_mem_importOf {imported : Language Char} {name w : List Char}
    (h : w ∈ importOf imported name) : w ≠ [] := by
  obtain ⟨g, -, c, -, x, -, rfl⟩ := mem_importOf.1 h
  simp

/-- The search goes on behind a statement. -/
theorem imports_append {w name after : List Char} (hne : w ≠ [])
    (h : importHere? (w ++ after) = some (name, after)) :
    imports (w ++ after) = name :: imports after := by
  obtain ⟨c, w, rfl⟩ := List.exists_cons_of_ne_nil hne
  have hskip : (w ++ after).length - after.length = w.length := by simp
  rw [List.cons_append] at h ⊢
  rw [imports, importsFrom, h]
  dsimp only
  rw [hskip, importsFrom_eq, List.drop_left]

/-- Where no statement begins, the search goes on with the next character. -/
theorem imports_cons_of_none {c : Char} {cs : List Char} (h : importHere? (c :: cs) = none) :
    imports (c :: cs) = imports cs := by
  rw [imports, importsFrom, h]
  rfl

/-- **Other text** on lines of its own imports nothing. -/
theorem imports_other {v : List Char} (h : ¬"import".toList <:+: v) (t : List Char) :
    imports (v ++ '\n' :: t) = imports t := by
  have hnone : ∀ u x, v = u ++ x → importHere? (x ++ '\n' :: t) = none := by
    rintro u x rfl
    have hword : afterLit "import".toList (x ++ '\n' :: t) = none := by
      cases hr : afterLit "import".toList (x ++ '\n' :: t) with
      | none => rfl
      | some r =>
        have hfront : "import".toList <+: x :=
          Source.prefix_of_not_mem (c := '\n') (by decide) ⟨r, (afterLit_eq_some_iff.1 hr).symm⟩
        have hinside : "import".toList <:+: u ++ x :=
          List.IsInfix.trans hfront.isInfix (List.suffix_append u x).isInfix
        exact absurd hinside h
    rw [importHere?, hword]
  clear h
  induction v with
  | nil => exact imports_cons_of_none (hnone [] [] rfl)
  | cons c v ih =>
    have hhere : importHere? (c :: (v ++ '\n' :: t)) = none := hnone [] (c :: v) rfl
    rw [List.cons_append, imports_cons_of_none hhere]
    exact ih fun u x hv => hnone (c :: u) x (congrArg (c :: ·) hv)

/-- A part of a document: an import statement, or a text in which nothing is imported. -/
inductive Segment where
  | statement (text name : List Char) (isName : name ∈ moduleName)
    (isStatement : text ∈ importOf clause name)
  | other (text : List Char) (silent : ¬"import".toList <:+: text)

namespace Segment

def text : Segment → List Char
  | .statement text _ _ _ => text
  | .other text _ => text

/-- The module that is imported. -/
def name? : Segment → Option (List Char)
  | .statement _ name _ _ => some name
  | .other _ _ => none

end Segment

/-- The text of some parts, each on lines of its own. -/
def document (parts : List Segment) : List Char := parts.flatMap fun part => part.text ++ ['\n']

/-- **The imports of a document** are those of its statements, in their order. -/
theorem imports_document (parts : List Segment) :
    imports (document parts) = parts.filterMap Segment.name? := by
  induction parts with
  | nil => rfl
  | cons part parts ih =>
    have hnext : document (part :: parts) = part.text ++ '\n' :: document parts := by
      simp [document]
    rw [hnext]
    cases part with
    | statement text name isName isStatement =>
      have hread := imports_append (ne_nil_of_mem_importOf isStatement)
        (importHere?_of_mem isName isStatement ('\n' :: document parts))
      have hrest : imports ('\n' :: document parts) = imports (document parts) :=
        imports_other (v := []) (by decide) _
      rw [Segment.text, hread, hrest, ih]
      rfl
    | other text silent =>
      rw [Segment.text, imports_other silent, ih]
      rfl

/-- The names are those of modules, each in an import statement of the text, one statement behind
the other. -/
inductive Lists : List Char → List (List Char) → Prop
  | none (s : List Char) : Lists s []
  | next (pre : List Char) {w rest name : List Char} {names : List (List Char)}
      (isName : name ∈ moduleName) (isStatement : w ∈ importOf Source.line name)
      (others : Lists rest names) : Lists (pre ++ (w ++ rest)) (name :: names)

theorem Lists.cons {s : List Char} {names : List (List Char)} (h : Lists s names) (c : Char) :
    Lists (c :: s) names := by
  cases h with
  | none => exact .none _
  | next pre isName isStatement others => exact .next (c :: pre) isName isStatement others

/-- **The imports of any text stand in it.** -/
theorem lists_imports (s : List Char) : Lists s (imports s) := by
  -- behind a statement the text is shorter, so the length goes down
  induction hn : s.length using Nat.strongRecOn generalizing s with
  | ind n ih =>
    subst hn
    cases s with
    | nil => exact .none []
    | cons c cs =>
      cases hhere : importHere? (c :: cs) with
      | none =>
        rw [imports_cons_of_none hhere]
        exact (ih cs.length (Nat.lt_succ_self _) cs rfl).cons c
      | some found =>
        obtain ⟨name, after⟩ := found
        obtain ⟨hname, w, hw, hs⟩ := importHere?_eq_some hhere
        have hne := ne_nil_of_mem_importOf hw
        rw [hs] at hhere ⊢
        rw [imports_append hne hhere]
        have hlt : after.length < (w ++ after).length := by
          have hpos := List.length_pos_iff.2 hne
          rw [List.length_append]
          omega
        exact .next [] hname hw (ih after.length (hs ▸ hlt) after rfl)

/-- **Import statements are read back.**  The imports of a document are those of its statements in
their order, and the imports of any text whatever are names in import statements that stand in it
one behind the other. -/
theorem imports_exact :
    (∀ parts : List Segment, imports (document parts) = parts.filterMap Segment.name?) ∧
    ∀ s : List Char, Lists s (imports s) :=
  ⟨imports_document, lists_imports⟩

/-- A statement on two lines, with a `from` in what is imported. -/
theorem mem_importOf_hard :
    "import from x from\n \"import'".toList ∈ importOf clause "import".toList := by
  have hblank : ∀ c ∈ [' '], Text.isBlank c = true := List.forall_mem_singleton.2 rfl
  have hblanks : ∀ c ∈ ['\n', ' '], Text.isBlank c = true := List.forall_mem_cons.2 ⟨rfl, hblank⟩
  have hclause : "from x".toList ∈ clause := ⟨⟨'f', _, rfl, by decide⟩, by simp [isQuote]⟩
  have hspecifier : " from\n \"import'".toList ∈ specifier "import".toList :=
    mem_specifier.2 ⟨[' '], ⟨by decide, hblank⟩, ['\n', ' '], ⟨by decide, hblanks⟩, '"', '\'', rfl,
      rfl, rfl⟩
  exact mem_importOf.2 ⟨[' '], ⟨by decide, hblank⟩, _, hclause, _, hspecifier, rfl⟩

/-- A document in which `import` is broken over two lines, and a module has that name. -/
def hardDocument : List Segment :=
  [.other "imp".toList (by decide), .other "ort x from 'y'".toList (by decide),
    .statement _ "import".toList ⟨by decide, by simp [isQuote]⟩ mem_importOf_hard]

theorem imports_exact_hardDocument :
    document hardDocument = "imp\nort x from 'y'\nimport from x from\n \"import'\n".toList ∧
      imports (document hardDocument) = ["import".toList] :=
  ⟨rfl, imports_exact.1 hardDocument⟩

end RouteAudit
