import RouteAudit.Proofs.FileTree.Sound

/-!
# The texts of paths

Reports name files by the texts of their paths, and a directory is remembered by its text.  So it
matters that a text says which path it is the text of.  This holds for *normal* paths, whose parts
lead somewhere and have no slash in them, and those are the paths that are ever made:

* `Text.splitAt_intercalate` — splitting undoes joining, where no piece has the separator in it;
* `Path.normal_ofString`, `Path.ofString_text` — reading a text gives a normal path, and reading the
  text of a normal path gives the path;
* `FileTree.resolve_eq_ok_iff`, `FileTree.resolve_eq_error_iff` — when a path can be resolved, and
  what is wrong otherwise;
* `FileTree.real_of_resolve` — a path that was resolved is normal, starts at the root and never
  leads up.
-/

set_option autoImplicit false

namespace RouteAudit

/-! ## Splitting and joining -/

namespace Text

variable {d : Char} {w : List Char}

theorem splitAt_of_not_mem (h : d ∉ w) : splitAt (· == d) w = [w] := by
  induction w with
  | nil => rfl
  | cons c w ih =>
    obtain ⟨hc, hw⟩ := not_or.1 (mt List.mem_cons.2 h)
    rw [splitAt, if_neg (by simpa using Ne.symm hc), ih hw]

/-- The first piece ends where the separator first is. -/
theorem splitAt_append_cons (h : d ∉ w) (s : List Char) :
    splitAt (· == d) (w ++ d :: s) = w :: splitAt (· == d) s := by
  induction w with
  | nil => rw [List.nil_append, splitAt, if_pos (by simp)]
  | cons c w ih =>
    obtain ⟨hc, hw⟩ := not_or.1 (mt List.mem_cons.2 h)
    rw [List.cons_append, splitAt, if_neg (by simpa using Ne.symm hc), ih hw]

/-- **Splitting undoes joining.** -/
theorem splitAt_intercalate {ws : List (List Char)} (hne : ws ≠ []) (h : ∀ v ∈ ws, d ∉ v) :
    splitAt (· == d) ([d].intercalate ws) = ws := by
  obtain ⟨w, ws, rfl⟩ := List.exists_cons_of_ne_nil hne
  induction ws generalizing w with
  | nil =>
    rw [List.intercalate_singleton]
    exact splitAt_of_not_mem (h w List.mem_cons_self)
  | cons v ws ih =>
    obtain ⟨hw, hrest⟩ := List.forall_mem_cons.1 h
    have hjoin : [d].intercalate (w :: v :: ws) = w ++ d :: [d].intercalate (v :: ws) := by
      simp [List.intercalate_cons_cons]
    rw [hjoin, splitAt_append_cons hw, ih v (List.cons_ne_nil v ws) hrest]

/-- No piece has the separator in it. -/
theorem not_mem_of_mem_splitAt {s : List Char} (h : w ∈ splitAt (· == d) s) : d ∉ w := by
  induction s generalizing w with
  | nil =>
    rw [splitAt, List.mem_singleton] at h
    simp [h]
  | cons c s ih =>
    rw [splitAt] at h
    split at h
    · rcases List.mem_cons.1 h with rfl | h
      · exact List.not_mem_nil
      · exact ih h
    · rename_i hc
      obtain ⟨v, vs, hv⟩ := List.exists_cons_of_ne_nil (splitAt_ne_nil (· == d) s)
      rw [hv] at h ih
      rcases List.mem_cons.1 h with rfl | h
      · rw [List.mem_cons, not_or]
        exact ⟨fun he => hc (by simp [he]), ih List.mem_cons_self⟩
      · exact ih (List.mem_cons_of_mem v h)

end Text

/-! ## Normal paths -/

namespace Path

/-- Whether a part has no slash in it. -/
def IsPiece (part : String) : Prop := '/' ∉ part.toList

/-- Every part leads somewhere and has no slash in it. -/
def Normal (p : Path) : Prop := ∀ part ∈ p.parts, isProper part = true ∧ IsPiece part

theorem isPiece_of_mem_rawParts {s part : String} (h : part ∈ rawParts s) : IsPiece part := by
  obtain ⟨w, hw, rfl⟩ := List.mem_map.1 h
  rw [IsPiece, String.toList_ofList]
  exact Text.not_mem_of_mem_splitAt hw

theorem normal_ofString (s : String) : (ofString s).Normal := by
  intro part h
  obtain ⟨hraw, hproper⟩ := List.mem_filter.1 h
  exact ⟨hproper, isPiece_of_mem_rawParts hraw⟩

theorem rawParts_intercalate {parts : List String} (hne : parts ≠ [])
    (h : ∀ part ∈ parts, IsPiece part) : rawParts ("/".intercalate parts) = parts := by
  have hpieces : ∀ w ∈ parts.map String.toList, '/' ∉ w := by
    intro w hw
    obtain ⟨part, hpart, rfl⟩ := List.mem_map.1 hw
    exact h part hpart
  have hsplit := Text.splitAt_intercalate (by simpa using hne) hpieces
  rw [rawParts, String.toList_intercalate]
  exact (congrArg (List.map String.ofList) hsplit).trans (by simp)

/-- A slash at the beginning of a text adds no part that leads anywhere. -/
theorem filter_rawParts_slash (s : String) :
    (rawParts ("/" ++ s)).filter isProper = (rawParts s).filter isProper := by
  have hraw : rawParts ("/" ++ s) = "" :: rawParts s := by
    rw [rawParts, String.toList_append]
    rfl
  rw [hraw, List.filter_cons_of_neg (by decide)]

/-- The text between the slashes of a normal path is nothing or does not begin with a slash. -/
theorem head_ne_slash {p : Path} (h : p.Normal) {c : Char} {cs : List Char}
    (hc : ("/".intercalate p.parts).toList = c :: cs) : c ≠ '/' := by
  obtain ⟨anchor, parts⟩ := p
  cases parts with
  | nil => simp at hc
  | cons part rest =>
    obtain ⟨hproper, hpiece⟩ := h part List.mem_cons_self
    -- the first character is the first one of the first part, which has one
    obtain ⟨b, bs, hb⟩ : ∃ b bs, part.toList = b :: bs := by
      refine List.exists_cons_of_ne_nil fun hnil => ?_
      rw [String.toList_eq_nil_iff] at hnil
      simp [isProper, hnil] at hproper
    have hhead : c = b := by
      cases rest <;> simp [hb] at hc <;> exact hc.1.symm
    rw [hhead]
    rintro rfl
    exact hpiece (by simp [hb])

theorem anchorOf_of_ne {c : Char} (hc : c ≠ '/') (cs : List Char) :
    anchorOf (c :: cs) = .here := by
  unfold anchorOf
  split <;> simp_all

theorem anchorOf_root {s : List Char} (h : ∀ c cs, s = c :: cs → c ≠ '/') :
    anchorOf ('/' :: s) = .root := by
  cases s with
  | nil => rfl
  | cons c cs =>
    have hc := h c cs rfl
    unfold anchorOf
    split <;> simp_all

theorem anchorOf_doubleRoot {s : List Char} (h : ∀ c cs, s = c :: cs → c ≠ '/') :
    anchorOf ('/' :: '/' :: s) = .doubleRoot := by
  cases s with
  | nil => rfl
  | cons c cs => rw [anchorOf, if_neg (h c cs rfl)]

/-- The parts that lead somewhere in the text between the slashes. -/
theorem filter_rawParts {p : Path} (h : p.Normal) :
    (rawParts ("/".intercalate p.parts)).filter isProper = p.parts := by
  by_cases hne : p.parts = []
  · rw [hne]
    decide
  · rw [rawParts_intercalate hne fun part hpart => (h part hpart).2]
    exact List.filter_eq_self.2 fun part hpart => (h part hpart).1

theorem ofString_eq {s : String} {anchor : Anchor} {parts : List String}
    (ha : anchorOf s.toList = anchor) (hp : (rawParts s).filter isProper = parts) :
    ofString s = ⟨anchor, parts⟩ := by
  rw [ofString, ha, hp]

/-- **The text of a normal path says which path it is.** -/
theorem ofString_text {p : Path} (h : p.Normal) : ofString p.text = p := by
  have hhead : ∀ c cs, ("/".intercalate p.parts).toList = c :: cs → c ≠ '/' :=
    fun c cs => head_ne_slash h
  have hparts := filter_rawParts h
  obtain ⟨anchor, parts⟩ := p
  cases anchor with
  | here =>
    cases parts with
    | nil => decide
    | cons part rest =>
      have hanchor : anchorOf ("/".intercalate (part :: rest)).toList = .here := by
        cases hs : ("/".intercalate (part :: rest)).toList with
        | nil => rfl
        | cons c cs => exact anchorOf_of_ne (hhead c cs hs) cs
      exact ofString_eq hanchor hparts
  | root =>
    have hraw : (rawParts ("/" ++ "/".intercalate parts)).filter isProper = parts := by
      rw [filter_rawParts_slash]
      exact hparts
    have hanchor : anchorOf ("/" ++ "/".intercalate parts).toList = .root := by
      rw [String.toList_append]
      exact anchorOf_root hhead
    exact ofString_eq hanchor hraw
  | doubleRoot =>
    have hsplit : "//" ++ "/".intercalate parts = "/" ++ ("/" ++ "/".intercalate parts) := by
      rw [← String.append_assoc]
      rfl
    have hraw : (rawParts ("//" ++ "/".intercalate parts)).filter isProper = parts := by
      rw [hsplit, filter_rawParts_slash, filter_rawParts_slash]
      exact hparts
    have hanchor : anchorOf ("//" ++ "/".intercalate parts).toList = .doubleRoot := by
      rw [String.toList_append]
      exact anchorOf_doubleRoot hhead
    exact ofString_eq hanchor hraw

theorem eq_of_text_eq {p q : Path} (hp : p.Normal) (hq : q.Normal) (h : p.text = q.text) :
    p = q := by
  rw [← ofString_text hp, h, ofString_text hq]

end Path

/-! ## Paths that were resolved -/

namespace FileTree

theorem isPiece_of_mem_append {place parts : List String}
    (hplace : ∀ part ∈ place, Path.IsPiece part) (hparts : ∀ part ∈ parts, Path.IsPiece part) :
    ∀ part ∈ place ++ parts, Path.IsPiece part := by
  intro part h
  rcases List.mem_append.1 h with h | h
  · exact hplace part h
  · exact hparts part h

theorem isPiece_of_mem_joinRest {place rest : List String}
    (hplace : ∀ part ∈ place, Path.IsPiece part) (hrest : ∀ part ∈ rest, Path.IsPiece part) :
    ∀ part ∈ joinRest place rest, Path.IsPiece part := by
  unfold joinRest
  split
  · exact hrest
  · exact isPiece_of_mem_append hplace hrest

/-- Whether a way of replacing links never brings a slash into a part. -/
def KeepsPieces (way : List String → List String → Real) : Prop :=
  ∀ place parts, (∀ part ∈ place, Path.IsPiece part) → (∀ part ∈ parts, Path.IsPiece part) →
    ∀ part ∈ (way place parts).place, Path.IsPiece part

/-- Replacing links takes its parts from the path and from the texts of links. -/
theorem keepsPieces_unlink {root : Node}
    {jump : List String → List String → List String → Real}
    (hj : ∀ link, KeepsPieces (jump link)) (seen : List (List String)) :
    KeepsPieces (unlink root jump seen) := by
  intro place parts hplace hparts
  induction parts generalizing place with
  | nil => exact hplace
  | cons part rest ih =>
    obtain ⟨hpart, hrest⟩ := List.forall_mem_cons.1 hparts
    have hnext : ∀ q ∈ place ++ [part], Path.IsPiece q :=
      isPiece_of_mem_append hplace (List.forall_mem_singleton.2 hpart)
    rw [unlink]
    split
    · exact ih place hplace hrest
    · split
      · exact ih _ (fun q hq => hplace q (List.dropLast_subset _ hq)) hrest
      · dsimp only
        split
        · rename_i target _
          have hfrom : ∀ q ∈ (if (Path.ofString target).anchor = .here then place else []),
              Path.IsPiece q := by
            split
            · exact hplace
            · exact fun q hq => absurd hq List.not_mem_nil
          generalize (if (Path.ofString target).anchor = .here then place else []) = origin at hfrom
          have hreal := hj (place ++ [part]) origin (Path.rawParts target) hfrom
            fun q => Path.isPiece_of_mem_rawParts
          split
          · exact isPiece_of_mem_joinRest hnext hrest
          · split
            · exact isPiece_of_mem_joinRest hreal hrest
            · exact ih _ hreal hrest
        · exact ih _ hnext hrest

theorem keepsPieces_unlinkWithin (root : Node) (depth : Nat) (seen : List (List String)) :
    KeepsPieces (unlinkWithin root depth seen) := by
  induction depth generalizing seen with
  | zero => exact keepsPieces_unlink (fun _ _ _ => isPiece_of_mem_append) []
  | succ depth ih => exact keepsPieces_unlink (fun link => ih (link :: seen)) seen

/-- What is left of a place leads on, and comes from the place. -/
theorem mem_collapse {parts : List String} :
    ∀ part ∈ collapse parts, part ∈ parts ∧ Path.isProper part = true ∧ part ≠ ".." := by
  -- the invariant is what is said of the result, for what is kept so far
  refine List.foldlRecOn (motive := fun kept : List String =>
    ∀ part ∈ kept, part ∈ parts ∧ Path.isProper part = true ∧ part ≠ "..") parts _ ?_ ?_
  · exact fun part h => absurd h List.not_mem_nil
  · intro kept ih p hp part h
    split at h
    · exact ih part h
    · rename_i hproper
      split at h
      · exact ih part (List.dropLast_subset _ h)
      · rename_i hup
        rcases List.mem_append.1 h with h | h
        · exact ih part h
        · rw [List.mem_singleton.1 h]
          exact ⟨hp, by simpa using hproper, hup⟩

/-- A normal path from the root that never leads up. -/
structure IsReal (p : Path) : Prop where
  anchor : p.anchor = .root
  normal : p.Normal
  noUp : ".." ∉ p.parts

theorem isReal_realPath {t : FileTree} (ht : t.Sound) {p : Path} (hp : p.Normal) :
    IsReal (t.realPath p) := by
  refine ⟨rfl, fun part h => ?_, fun h => (mem_collapse _ h).2.2 rfl⟩
  obtain ⟨hmem, hproper, -⟩ := mem_collapse _ h
  refine ⟨hproper, keepsPieces_unlinkWithin _ _ _ _ _ (fun q hq => ?_)
    (fun q hq => (hp q hq).2) part hmem⟩
  exact (isEntryName_iff.1 (ht.start p.anchor q hq)).2.2.1

/-- **Resolving a path** gives its form without links, unless that goes around. -/
theorem resolve_eq_ok_iff {t : FileTree} {p base : Path} :
    t.resolve p = .ok base ↔ p.hasNull = false ∧ (p.anchor = .here → t.hasCwd = true) ∧
      t.stat (t.realPath p) ≠ .error .tooManyLinks ∧ t.realPath p = base := by
  rw [resolve]
  by_cases hnull : p.hasNull = true
  · simp [hnull]
  · by_cases hgone : p.anchor = .here ∧ t.hasCwd = false
    · simp [hnull, hgone]
    · have hpresent : p.anchor = .here → t.hasCwd = true := by simpa using hgone
      rw [if_neg hnull, if_neg hgone]
      dsimp only
      split
      · rename_i haround
        simp [haround]
      · rename_i haround
        constructor
        · rintro ⟨⟩
          exact ⟨Bool.eq_false_iff.2 hnull, hpresent, haround, rfl⟩
        · rintro ⟨-, -, -, rfl⟩
          rfl

theorem real_of_resolve {t : FileTree} (ht : t.Sound) {p base : Path} (hp : p.Normal)
    (h : t.resolve p = .ok base) : IsReal base := by
  obtain ⟨-, -, -, rfl⟩ := resolve_eq_ok_iff.1 h
  exact isReal_realPath ht hp

end FileTree
end RouteAudit
