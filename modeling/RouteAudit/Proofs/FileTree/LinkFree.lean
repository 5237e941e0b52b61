import RouteAudit.Proofs.FileTree.Written

/-!
# Trees without links

In a tree without links a path is gone along by its text alone: a part leads on to its name, and two
points lead back.  So where a path leads does not depend on the tree, only whether there is
something.  Resolving a path does not look at the tree beyond the working directory, and a path that
was resolved leads to the place that it spells.  Changes bring no links, and so a file that is written appears at the
place that its path spells and at no other.

## What is here

* `Node.LinkFree`, `Node.fileAt?` — no links, and the bytes of the file at a place;
* `FileTree.place_of_find`, `FileTree.realPath_of_linkFree` — where a path leads, and its form
  without links;
* `FileTree.resolve_of_grown` — a path is resolved as before in a tree that has grown;
* `FileTree.stat_real_iff` — what is at a path that was resolved;
* `FileTree.MoreDirs.linkFree`, `FileTree.Writes` — what changes do to such a tree.
-/

set_option autoImplicit false

namespace RouteAudit

namespace Node

/-- The node is no link, and there is none below it. -/
def LinkFree (n : Node) : Prop := ∀ place target, n.at? place ≠ some (.link target)

theorem linkFree_of_linkCount {n : Node} (h : n.linkCount = 0) : n.LinkFree := by
  intro place target hlink
  have hmem := mem_linkPlaces hlink
  rw [List.length_eq_zero_iff.1 ((length_linkPlaces n).trans h)] at hmem
  cases hmem

/-- Whatever lies below a node without links has no links. -/
theorem LinkFree.of_at? {n m : Node} (h : n.LinkFree) {place : List String}
    (hm : n.at? place = some m) : m.LinkFree := by
  intro below target hlink
  refine h (place ++ below) target ?_
  rw [at?_append, hm, Option.bind_some, hlink]

theorem linkFree_file (bytes : List UInt8) : (file bytes).LinkFree :=
  linkFree_of_linkCount rfl

theorem linkFree_emptyDir : (dir []).LinkFree := linkFree_of_linkCount rfl

/-- Putting a node without links brings no links. -/
theorem LinkFree.put {root n : Node} (h : root.LinkFree) (hn : n.LinkFree) {place : List String}
    (hplace : IsPlace root place) : (Node.put n root place).LinkFree := by
  intro other target hlink
  by_cases hother : place <+: other
  · obtain ⟨back, rfl⟩ := hother
    rw [at?_append, at?_put_self hplace] at hlink
    exact hn back target hlink
  · have hbare : ((Node.put n root place).at? other).map bare = (root.at? other).map bare :=
      bare_at?_put hother n
    rw [hlink, eq_comm, Option.map_some, Option.map_eq_some_iff] at hbare
    obtain ⟨m, hm, hbare⟩ := hbare
    cases m with
    | file b => cases hbare
    | dir es => cases hbare
    | link text => exact h other text hm

/-- The bytes of a file. -/
def bytes? : Node → Option (List UInt8)
  | .file bytes => some bytes
  | _ => none

theorem bytes?_eq_some_iff {n : Node} {bytes : List UInt8} :
    n.bytes? = some bytes ↔ n = .file bytes := by
  cases n <;> simp [bytes?]

/-- The bytes of the file at a place. -/
def fileAt? (n : Node) (place : List String) : Option (List UInt8) := (n.at? place).bind bytes?

theorem fileAt?_eq_some_iff {n : Node} {place : List String} {bytes : List UInt8} :
    n.fileAt? place = some bytes ↔ n.at? place = some (.file bytes) := by
  simp only [fileAt?, Option.bind_eq_some_iff, bytes?_eq_some_iff, exists_eq_right]

theorem fileAt?_append (n : Node) (place names : List String) :
    n.fileAt? (place ++ names) = (n.at? place).bind fun m => m.fileAt? names := by
  simp only [fileAt?, at?_append, Option.bind_assoc]

/-- The names of a place at which there is something are good. -/
theorem isEntryName_of_at? {n m : Node} (hn : n.isSound = true) {place : List String}
    (h : n.at? place = some m) : ∀ name ∈ place, isEntryName name = true := by
  induction place generalizing n with
  | nil => exact List.forall_mem_nil _
  | cons name rest ih =>
    cases n with
    | file bytes => cases h
    | link target => cases h
    | dir es =>
      rw [at?_dir_cons] at h
      obtain ⟨k, hk, hrest⟩ := Option.bind_eq_some_iff.1 h
      have hmem := mem_of_entry?_eq_some hk
      exact List.forall_mem_cons.2
        ⟨isEntryName_of_mem hn hmem, ih (isSound_of_mem hn hmem) hrest⟩

end Node

namespace FileTree

variable {t u : FileTree} {p : Path} {root : Node}

/-! ## Going along a path -/

theorem exists_follow (root : Node) (purpose : Purpose) (links : Nat) :
    ∃ jump, followWithin root purpose links = follow root purpose jump := by
  cases links with
  | zero => exact ⟨_, rfl⟩
  | succ links => exact ⟨_, rfl⟩

/-- Following a path ends at the place that it spells, or in a fault other than too many links. -/
theorem follow_of_linkFree (h : root.LinkFree)
    (jump : List String → List String → Except PathFault Target) (place parts : List String) :
    (∃ target, follow root .look jump place parts = .ok target ∧
      target.place = parts.foldl stepAlong place) ∨
    ∃ e, follow root .look jump place parts = .error e ∧ e ≠ .tooManyLinks := by
  induction parts generalizing place with
  | nil =>
    rw [follow]
    split
    · exact .inl ⟨_, rfl, rfl⟩
    · exact .inr ⟨_, rfl, by decide⟩
  | cons part rest ih =>
    rw [follow_look_cons, List.foldl_cons]
    cases hplace : root.at? place with
    | none => exact .inr ⟨_, rfl, by decide⟩
    | some n =>
      cases n with
      | file bytes => exact .inr ⟨_, rfl, by decide⟩
      | link target => exact .inr ⟨_, rfl, by decide⟩
      | dir es =>
        dsimp only
        rw [stepAlong]
        split
        · exact ih place
        · split
          · exact ih place.dropLast
          · split
            · exact .inr ⟨_, rfl, by decide⟩
            · cases hentry : Node.entry? es part with
              | none =>
                dsimp only
                split
                · rename_i hrest
                  rw [List.isEmpty_iff.1 hrest]
                  exact .inl ⟨_, rfl, rfl⟩
                · exact .inr ⟨_, rfl, by decide⟩
              | some m =>
                cases m with
                | file bytes => exact ih (place ++ [part])
                | dir below => exact ih (place ++ [part])
                | link target =>
                  exact absurd ((Node.at?_concat hplace part).trans hentry) (h _ target)

/-- **A path leads to the place that it spells.** -/
theorem place_of_find (h : t.root.LinkFree) {target : Target}
    (hfind : t.find .look p = .ok target) :
    target.place = p.parts.foldl stepAlong (t.start p.anchor) := by
  obtain ⟨jump, hjump⟩ := exists_follow t.root .look maxLinks
  rw [find] at hfind
  split at hfind
  · cases hfind
  · split at hfind
    · cases hfind
    · rw [hjump] at hfind
      rcases follow_of_linkFree h jump (t.start p.anchor) p.parts with
        ⟨found, hfound, hplace⟩ | ⟨e, he, -⟩
      · cases hfound.symm.trans hfind
        exact hplace
      · cases he.symm.trans hfind

theorem find_ne_tooManyLinks (h : t.root.LinkFree) (p : Path) :
    t.find .look p ≠ .error .tooManyLinks := by
  intro hfind
  obtain ⟨jump, hjump⟩ := exists_follow t.root .look maxLinks
  rw [find] at hfind
  split at hfind
  · cases hfind
  · split at hfind
    · cases hfind
    · rw [hjump] at hfind
      rcases follow_of_linkFree h jump (t.start p.anchor) p.parts with
        ⟨found, hfound, -⟩ | ⟨e, he, hne⟩
      · cases hfound.symm.trans hfind
      · exact hne (Except.error.inj (he.symm.trans hfind))

theorem stat_ne_tooManyLinks (h : t.root.LinkFree) (p : Path) :
    t.stat p ≠ .error .tooManyLinks := by
  intro hstat
  rw [stat] at hstat
  split at hstat <;> cases hstat
  exact find_ne_tooManyLinks h p ‹_›

theorem follow_up (h : root.LinkFree)
    {jump : List String → List String → Except PathFault Target} {place init : List String}
    {target : Target} (hfollow : follow root .look jump place (init ++ [".."]) = .ok target) :
    ∃ q es, target = .node q (.dir es) := by
  induction init generalizing place with
  | nil =>
    rw [List.nil_append, follow_look_cons] at hfollow
    split at hfollow
    · rename_i es hplace
      rw [if_neg (by decide), if_pos rfl, follow] at hfollow
      obtain ⟨back, hback⟩ := List.dropLast_prefix place
      obtain ⟨es', hdir⟩ := exists_dir_of_append (hback ▸ hplace)
      rw [hdir] at hfollow
      cases hfollow
      exact ⟨_, _, rfl⟩
    · cases hfollow
    · cases hfollow
  | cons part rest ih =>
    rw [List.cons_append, follow_look_cons] at hfollow
    split at hfollow
    · rename_i es hplace
      split at hfollow
      · exact ih hfollow
      · split at hfollow
        · exact ih hfollow
        · split at hfollow
          · cases hfollow
          · split at hfollow
            · rw [if_neg (by simp)] at hfollow
              cases hfollow
            · rename_i text hentry
              exact absurd ((Node.at?_concat hplace part).trans hentry) (h _ text)
            · exact ih hfollow
    · cases hfollow
    · cases hfollow

/-- What two points lead to is a directory. -/
theorem find_up (h : t.root.LinkFree) {init : List String} (hparts : p.parts = init ++ [".."])
    {target : Target} (hfind : t.find .look p = .ok target) :
    ∃ q es, target = .node q (.dir es) := by
  obtain ⟨jump, hjump⟩ := exists_follow t.root .look maxLinks
  rw [find] at hfind
  split at hfind
  · cases hfind
  · split at hfind
    · cases hfind
    · rw [hjump, hparts] at hfind
      exact follow_up h hfind

/-! ## Resolving a path -/

theorem unlink_of_linkFree (h : root.LinkFree)
    (jump : List String → List String → List String → Real) (seen : List (List String))
    (place parts : List String) :
    unlink root jump seen place parts = ⟨parts.foldl stepAlong place, false⟩ := by
  induction parts generalizing place with
  | nil => rfl
  | cons part rest ih =>
    rw [unlink, List.foldl_cons, stepAlong]
    split
    · exact ih place
    · split
      · exact ih place.dropLast
      · dsimp only
        split
        · rename_i target hlink
          exact absurd hlink (h _ target)
        · exact ih (place ++ [part])

/-- The path that a path spells, seen from the root. -/
def spelled (t : FileTree) (p : Path) : Path :=
  ⟨.root, collapse (p.parts.foldl stepAlong (t.start p.anchor))⟩

theorem realPath_of_linkFree (h : t.root.LinkFree) (p : Path) : t.realPath p = t.spelled p := by
  rw [realPath, unlinkWithin, unlink_of_linkFree h]
  rfl

/-- A tree that has grown still has its working directory. -/
theorem hasCwd_of_grown (hcwd : u.cwd = t.cwd) (h : Grown t.root u.root) (ht : t.hasCwd = true) :
    u.hasCwd = true := by
  rw [hasCwd] at ht ⊢
  split at ht
  · rename_i es hdir
    obtain ⟨es', hdir'⟩ := h.dir t.cwd es hdir
    rw [hcwd, hdir']
  · cases ht

/-- **A path is resolved as before** in a tree that has grown, since that does not look at the tree
beyond the working directory. -/
theorem resolve_of_grown (hfree : t.root.LinkFree) (hfree' : u.root.LinkFree)
    (hcwd : u.cwd = t.cwd) (h : Grown t.root u.root) {base : Path}
    (hbase : t.resolve p = .ok base) : u.resolve p = .ok base := by
  obtain ⟨hnull, hhere, -, hreal⟩ := resolve_eq_ok_iff.1 hbase
  have hstart : u.start p.anchor = t.start p.anchor := by
    cases p.anchor <;> simp only [start, hcwd]
  have hreal' : u.realPath p = base := by
    rw [← hreal, realPath_of_linkFree hfree, realPath_of_linkFree hfree', spelled, spelled, hstart]
  refine resolve_eq_ok_iff.2 ⟨hnull, fun hp => hasCwd_of_grown hcwd h (hhere hp), ?_, hreal'⟩
  exact stat_ne_tooManyLinks hfree' _

/-! ## Paths that were resolved -/

theorem IsReal.stepAlong (hp : IsReal p) : p.parts.foldl stepAlong [] = p.parts :=
  (foldl_stepAlong (fun name hname => ⟨(hp.normal name hname).1,
    fun hup => hp.noUp (hup ▸ hname)⟩) []).trans (List.nil_append _)

/-- **A path that was resolved leads to the place that it spells.** -/
theorem stat_real_iff (ht : t.Sound) (hfree : t.root.LinkFree) (hp : IsReal p) {n : Node} :
    t.stat p = .ok n ↔ t.root.at? p.parts = some n ∧ p.text.utf8ByteSize ≤ maxPath := by
  have hpath : p = ⟨.root, p.parts⟩ := by
    rw [← hp.anchor]
  constructor
  · intro h
    rw [stat] at h
    split at h <;> cases h
    rename_i place hfind
    have hplace : place = p.parts := by
      have h := place_of_find hfree hfind
      rwa [hp.anchor, Target.place, show t.start .root = [] from rfl, hp.stepAlong] at h
    refine ⟨hplace ▸ at?_of_find hfind, Nat.not_lt.1 fun hlong => ?_⟩
    rw [find, if_pos hlong] at hfind
    split at hfind <;> cases hfind
  · rintro ⟨hn, hshort⟩
    have hlink : ∀ target, n ≠ .link target := by
      rintro target rfl
      exact hfree _ _ hn
    rw [hpath, stat_place hn (.inr hlink) (Node.isEntryName_of_at? ht.root hn), ← hpath,
      if_neg (Nat.not_lt.2 hshort)]

/-! ## Changes -/

theorem MoreDirs.linkFree (h : MoreDirs t u) (hfree : t.root.LinkFree) : u.root.LinkFree := by
  induction h with
  | refl => exact hfree
  | putAt _ hq ih => exact ih.put Node.linkFree_emptyDir hq.2

theorem MoreDirs.cwd_eq (h : MoreDirs t u) : u.cwd = t.cwd := by
  induction h with
  | refl => rfl
  | putAt _ _ ih => exact ih

theorem MoreDirs.grown (h : MoreDirs t u) : Grown t.root u.root := by
  induction h with
  | refl => exact .refl t.root
  | putAt _ hq ih => exact ih.trans (grown_putAt_dir hq)

theorem SameFiles.fileAt? (h : SameFiles t u) (place : List String) :
    u.root.fileAt? place = t.root.fileAt? place := by
  refine Option.ext fun bytes => ?_
  rw [Node.fileAt?_eq_some_iff, Node.fileAt?_eq_some_iff, h place bytes]

theorem Overlay.fileAt?_of_ne {root' : Node} {q : List String} {bytes : List UInt8}
    (h : Overlay root root' q bytes) {place : List String} (hne : place ≠ q) :
    root'.fileAt? place = root.fileAt? place := by
  have hbytes : ∀ n : Option Node, n.bind Node.bytes? = (n.map Node.bare).bind Node.bytes? := by
    rintro (_ | n)
    · rfl
    · cases n <;> rfl
  rw [Node.fileAt?, hbytes, h.bare_of_ne hne, ← hbytes, Node.fileAt?]

/-- The second tree is the first one with a file written at a place, in a tree without links. -/
structure Writes (t u : FileTree) (q : List String) (bytes : List UInt8) : Prop where
  linkFree : u.root.LinkFree
  cwd : u.cwd = t.cwd
  grown : Grown t.root u.root
  self : u.root.fileAt? q = some bytes
  others : ∀ place, place ≠ q → u.root.fileAt? place = t.root.fileAt? place

/-- **A file that is written** appears at the place that its path spells and at no other. -/
theorem writes_of_write (h : t.root.LinkFree) (hparts : p.parts ≠ []) {bytes : List UInt8}
    (hwrite : t.write p bytes = .ok u) :
    Writes t u (p.parts.foldl stepAlong (t.start p.anchor)) bytes ∧
      ∀ init, p.parts ≠ init ++ [".."] := by
  obtain ⟨target, hfind, hdir, rfl⟩ := exists_target_of_write hwrite
  refine ⟨?_, fun init hup => ?_⟩
  · have hoverlay := overlay_putAt hfind hdir hparts bytes
    rw [← place_of_find h hfind]
    exact ⟨h.put (Node.linkFree_file bytes) (isPlace_of_find hfind), rfl, hoverlay.grown,
      Node.fileAt?_eq_some_iff.2 hoverlay.self, fun place => hoverlay.fileAt?_of_ne⟩
  · obtain ⟨q, es, rfl⟩ := find_up h hup hfind
    exact hdir q es rfl

/-- Planting a file writes it after directories were made. -/
theorem exists_write_of_plant {bytes : List UInt8} (h : t.plant p (.file bytes) = (u, none)) :
    ∃ v, MoreDirs t v ∧ v.write p bytes = .ok u := by
  have hmore := moreDirs_ensureDirsOf p.anchor p.parent.parts.reverse t
  rw [plant.eq_def] at h
  dsimp only at h
  generalize ensureDirsOf p.anchor p.parent.parts.reverse t = made at h hmore
  obtain ⟨v, fault⟩ := made
  cases fault with
  | some f => cases h
  | none =>
    dsimp only at h
    split at h <;> cases h
    exact ⟨v, hmore, by assumption⟩

end FileTree
end RouteAudit
