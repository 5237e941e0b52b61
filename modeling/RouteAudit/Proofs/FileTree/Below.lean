import RouteAudit.Proofs.FileTree.LinkFree
import RouteAudit.Proofs.FileTree.RouteFiles

/-!
# The files below a directory without links

Where there are no links below a directory, a walk has nothing to follow, and what it finds can be
told from the node of the directory alone: a route file is found if it is there, if no directory on
the way to it is left out, and if the paths of those directories are short enough to be listed.  So
two trees in which the same route files are to be found this way are walked alike, whatever else is
in them, and the walk of a tree with one more route file comes upon one more.

## What is here

* `FileTree.fileBelow?` — the bytes of the file to which some names lead from a directory;
* `IsRouteWay`, `Path.Fits` — what a walk asks of names, and of the lengths of paths;
* `FileTree.yields_iff_of_linkFree`, `FileTree.read_of_yields` — which route files are found, and
  what is read of them;
* `FileTree.yields_congr`, `FileTree.read_congr` — files that are the same in two trees;
* `FileTree.fileBelow?_real` — the files below a path that was resolved, in a tree without links;
* `FileTree.routeFiles_insert` — the walk of a tree with one more route file.
-/

set_option autoImplicit false

namespace RouteAudit

/-- The names lead to a route file over directories that are not left out. -/
structure IsRouteWay (ds : List String) (name : String) : Prop where
  way : ∀ d ∈ ds, isSkipped d = false
  named : isRouteFile name = true

/-- The paths of the directories on the way can be asked for. -/
def Path.Fits : Path → List String → Prop
  | _, [] => True
  | p, d :: ds => (p.child d).text.utf8ByteSize ≤ FileTree.maxPath ∧ (p.child d).Fits ds

namespace FileTree

variable {t u : FileTree} {p : Path} {ds : List String} {name : String}

/-- There are no links below the path. -/
def LinkFreeBelow (t : FileTree) (p : Path) : Prop := ∀ n, t.stat p = .ok n → n.LinkFree

/-- The bytes of the file to which some names lead from a path, over directories. -/
def fileBelow? (t : FileTree) (p : Path) (names : List String) : Option (List UInt8) :=
  match t.stat p with
  | .ok n => n.fileAt? names
  | .error _ => none

theorem fileBelow?_of_stat {n : Node} (h : t.stat p = .ok n) (names : List String) :
    t.fileBelow? p names = n.fileAt? names := by
  rw [fileBelow?, h]

/-! ## One directory further -/

theorem stat_of_list {es : List (String × Node)} (h : t.list p = .ok es) :
    t.stat p = .ok (.dir es) := by
  rw [list] at h
  split at h <;> cases h
  assumption

theorem list_of_stat {es : List (String × Node)} (h : t.stat p = .ok (.dir es)) :
    t.list p = .ok es := by
  rw [list, h]

section Child

variable {es es' : List (String × Node)} {d : String}

/-- An entry that is listed is one name below the directory. -/
theorem at?_of_mem_list {n : Node} (ht : t.Sound) (hl : t.list p = .ok es) (hd : (d, n) ∈ es) :
    (Node.dir es).at? [d] = some n := by
  rw [Node.at?_dir_cons, (Node.entry?_eq_some_iff (areSound_of_list ht hl)).2 hd]
  rfl

theorem fileBelow?_child (ht : t.Sound) (hl : t.list p = .ok es) (hd : (d, .dir es') ∈ es)
    (hl' : t.list (p.child d) = .ok es') (names : List String) :
    t.fileBelow? p (d :: names) = t.fileBelow? (p.child d) names := by
  rw [fileBelow?_of_stat (stat_of_list hl), fileBelow?_of_stat (stat_of_list hl'),
    ← List.singleton_append, Node.fileAt?_append, at?_of_mem_list ht hl hd]
  rfl

theorem LinkFreeBelow.child (h : t.LinkFreeBelow p) (ht : t.Sound) (hl : t.list p = .ok es)
    (hd : (d, .dir es') ∈ es) (hl' : t.list (p.child d) = .ok es') :
    t.LinkFreeBelow (p.child d) := by
  intro n hn
  cases (stat_of_list hl').symm.trans hn
  exact (h _ (stat_of_list hl)).of_at? (at?_of_mem_list ht hl hd)

/-- A file that names lead to over a directory is below the directory. -/
theorem exists_dir_of_fileBelow? {next : String} {names : List String}
    (h : (t.fileBelow? p (d :: next :: names)).isSome = true) :
    ∃ es es', t.list p = .ok es ∧ (d, .dir es') ∈ es := by
  obtain ⟨bytes, hbytes⟩ := Option.isSome_iff_exists.1 h
  rw [fileBelow?] at hbytes
  split at hbytes
  · rename_i n hn
    rw [Node.fileAt?_eq_some_iff] at hbytes
    cases n with
    | file b => cases hbytes
    | link target => cases hbytes
    | dir es =>
      rw [Node.at?_dir_cons] at hbytes
      obtain ⟨m, hm, hbelow⟩ := Option.bind_eq_some_iff.1 hbytes
      cases m with
      | file b => cases hbelow
      | link target => cases hbelow
      | dir es' => exact ⟨es, es', list_of_stat hn, Node.mem_of_entry?_eq_some hm⟩
  · cases hbytes

end Child

/-! ## What a walk finds and reads -/

/-- The file under a name in a directory. -/
theorem shows_false_iff (ht : t.Sound) (hfree : t.LinkFreeBelow p) :
    t.Shows p name false ↔ (t.fileBelow? p [name]).isSome = true := by
  rw [Option.isSome_iff_exists]
  constructor
  · rintro ⟨es, n, hl, hmem, hdir⟩
    have hat := at?_of_mem_list ht hl hmem
    rw [fileBelow?_of_stat (stat_of_list hl)]
    cases n with
    | file bytes => exact ⟨bytes, Node.fileAt?_eq_some_iff.2 hat⟩
    | dir es' => cases hdir
    | link target => exact absurd hat (hfree _ (stat_of_list hl) [name] target)
  · rintro ⟨bytes, h⟩
    rw [fileBelow?] at h
    split at h
    · rename_i n hn
      rw [Node.fileAt?_eq_some_iff] at h
      cases n with
      | file b => cases h
      | link target => cases h
      | dir es =>
        rw [Node.at?_dir_cons] at h
        obtain ⟨m, hm, hfile⟩ := Option.bind_eq_some_iff.1 h
        cases hfile
        exact ⟨es, _, list_of_stat hn, Node.mem_of_entry?_eq_some hm, rfl⟩
    · cases h

/-- **What a walk finds** where there are no links. -/
theorem yields_iff_of_linkFree (ht : t.Sound) (hfree : t.LinkFreeBelow p) :
    t.Yields p ds name ↔
      IsRouteWay ds name ∧ p.Fits ds ∧ (t.fileBelow? p (ds ++ [name])).isSome = true := by
  induction ds generalizing p with
  | nil =>
    rw [yields_nil_iff, shows_false_iff ht hfree]
    constructor
    · exact fun ⟨hfile, hnamed⟩ => ⟨⟨List.forall_mem_nil _, hnamed⟩, trivial, hfile⟩
    · exact fun ⟨hway, _, hfile⟩ => ⟨hfile, hway.named⟩
  | cons d ds ih =>
    rw [yields_cons_iff]
    constructor
    · rintro ⟨⟨es, n, hl, hmem, hdir⟩, hd, hy⟩
      obtain ⟨es', rfl⟩ := Node.isDir_eq_true_iff.1 hdir
      -- the directory was listed, so its path is short enough
      have hchild := list_child ht hl hmem
      have hshort : (p.child d).text.utf8ByteSize ≤ maxPath := by
        refine Nat.not_lt.1 fun hlong => ?_
        obtain ⟨es'', hl''⟩ := hy.listed
        rw [hchild, if_pos hlong] at hl''
        cases hl''
      rw [if_neg (Nat.not_lt.2 hshort)] at hchild
      obtain ⟨hway, hfits, hfile⟩ := (ih (hfree.child ht hl hmem hchild)).1 hy
      refine ⟨⟨List.forall_mem_cons.2 ⟨hd, hway.way⟩, hway.named⟩, ⟨hshort, hfits⟩, ?_⟩
      rwa [List.cons_append, fileBelow?_child ht hl hmem hchild]
    · rintro ⟨hway, ⟨hshort, hfits⟩, hfile⟩
      obtain ⟨hd, hds⟩ := List.forall_mem_cons.1 hway.way
      obtain ⟨next, names, hnames⟩ := List.exists_cons_of_ne_nil (show ds ++ [name] ≠ [] by simp)
      obtain ⟨es, es', hl, hmem⟩ : ∃ es es', t.list p = .ok es ∧ (d, .dir es') ∈ es := by
        rw [List.cons_append, hnames] at hfile
        exact exists_dir_of_fileBelow? hfile
      have hchild := list_child ht hl hmem
      rw [if_neg (Nat.not_lt.2 hshort)] at hchild
      rw [List.cons_append, fileBelow?_child ht hl hmem hchild] at hfile
      exact ⟨⟨es, _, hl, hmem, rfl⟩, hd,
        (ih (hfree.child ht hl hmem hchild)).2 ⟨⟨hds, hway.named⟩, hfits, hfile⟩⟩

/-- **What is read of a file that a walk finds**: its bytes, unless its path is too long. -/
theorem read_of_yields (ht : t.Sound) (hy : t.Yields p ds name) {bytes : List UInt8}
    (hfile : t.fileBelow? p (ds ++ [name]) = some bytes) :
    t.read (p.below (ds ++ [name])) =
      if maxPath < (p.below (ds ++ [name])).text.utf8ByteSize then
        .error ⟨.nameTooLong, p.below (ds ++ [name]), none⟩
      else .ok bytes := by
  induction ds generalizing p with
  | nil =>
    obtain ⟨⟨es, n, hl, hmem, -⟩, -⟩ := yields_nil_iff.1 hy
    have hs := areSound_of_list ht hl
    have hentry := (Node.entry?_eq_some_iff hs).2 hmem
    obtain rfl : n = .file bytes := by
      rw [List.nil_append, fileBelow?_of_stat (stat_of_list hl), Node.fileAt?_eq_some_iff,
        at?_of_mem_list ht hl hmem] at hfile
      exact Option.some.inj hfile
    obtain ⟨q, hq⟩ := list_eq_ok_iff.1 hl
    have hfind := find_child hq (Node.isEntryName_of_mem hs hmem) hentry fun _ => by simp
    rw [List.nil_append, Path.below_cons, Path.below_nil, read, stat, hfind]
    by_cases hlong : maxPath < (p.child name).text.utf8ByteSize
    · rw [if_pos hlong, if_pos hlong]
    · rw [if_neg hlong, if_neg hlong]
  | cons d ds ih =>
    obtain ⟨⟨es, n, hl, hmem, hdir⟩, -, hy⟩ := yields_cons_iff.1 hy
    obtain ⟨es', rfl⟩ := Node.isDir_eq_true_iff.1 hdir
    have hchild : t.list (p.child d) = .ok es' := by
      have hchild := list_child ht hl hmem
      split at hchild
      · obtain ⟨es'', hl''⟩ := hy.listed
        cases hchild.symm.trans hl''
      · exact hchild
    rw [List.cons_append, fileBelow?_child ht hl hmem hchild] at hfile
    rw [List.cons_append, Path.below_cons]
    exact ih hy hfile

section TwoTrees

variable (ht : t.Sound) (hu : u.Sound) (hfree : t.LinkFreeBelow p) (hfree' : u.LinkFreeBelow p)
  (h : IsRouteWay ds name → u.fileBelow? p (ds ++ [name]) = t.fileBelow? p (ds ++ [name]))

include ht hu hfree hfree' h

/-- A file that is the same in two trees is found in both or in neither. -/
theorem yields_congr : u.Yields p ds name ↔ t.Yields p ds name := by
  rw [yields_iff_of_linkFree ht hfree, yields_iff_of_linkFree hu hfree']
  refine and_congr_right fun hway => ?_
  rw [h hway]

/-- A file that is the same in two trees is read alike, if it is found. -/
theorem read_congr (hy : t.Yields p ds name) :
    u.read (p.below (ds ++ [name])) = t.read (p.below (ds ++ [name])) := by
  obtain ⟨hway, -, hsome⟩ := (yields_iff_of_linkFree ht hfree).1 hy
  obtain ⟨bytes, hbytes⟩ := Option.isSome_iff_exists.1 hsome
  have hy' := (yields_congr ht hu hfree hfree' h).2 hy
  rw [read_of_yields ht hy hbytes, read_of_yields hu hy' ((h hway).trans hbytes)]

end TwoTrees

/-- In a tree without links, what is below a path that was resolved is below the place that it
spells. -/
theorem fileBelow?_real (ht : t.Sound) (hfree : t.root.LinkFree) (hp : IsReal p)
    (names : List String) :
    t.fileBelow? p names =
      if maxPath < p.text.utf8ByteSize then none else t.root.fileAt? (p.parts ++ names) := by
  have hstat := fun n => stat_real_iff ht hfree hp (n := n)
  rw [fileBelow?, Node.fileAt?_append]
  cases hn : t.stat p with
  | ok n =>
    obtain ⟨hat, hshort⟩ := (hstat n).1 hn
    rw [hat, if_neg (Nat.not_lt.2 hshort)]
    rfl
  | error e =>
    dsimp only
    split
    · rfl
    · rename_i hshort
      cases hat : t.root.at? p.parts with
      | none => rfl
      | some n =>
        rw [(hstat n).2 ⟨hat, Nat.not_lt.1 hshort⟩] at hn
        cases hn

theorem linkFreeBelow_of_linkFree (hfree : t.root.LinkFree) (p : Path) : t.LinkFreeBelow p := by
  intro n hn
  rw [stat] at hn
  split at hn <;> cases hn
  rename_i hfind
  exact hfree.of_at? (at?_of_find hfind)

/-! ## One more file -/

/-- **A walk of a tree with one more route file** comes upon it somewhere on the way, and is the
same otherwise. -/
theorem routeFiles_insert (ht : t.Sound) (hu : u.Sound) {new : Path}
    (hnew : new ∉ t.routeFiles p)
    (h : ∀ q, q ∈ u.routeFiles p ↔ q ∈ t.routeFiles p ∨ q = new) :
    ∃ front back, t.routeFiles p = front ++ back ∧ u.routeFiles p = front ++ new :: back := by
  obtain ⟨front, back, hsplit⟩ := List.append_of_mem ((h new).2 (.inr rfl))
  refine ⟨front, back, ?_, hsplit⟩
  have hu' := pairwise_routeFiles hu p
  rw [hsplit] at hu' h
  have hsub : (front ++ back).Sublist (front ++ new :: back) :=
    (List.Sublist.refl front).append (List.sublist_cons_self new back)
  refine eq_of_ascending (pairwise_routeFiles ht p) (hu'.sublist hsub) fun q => ?_
  have hne : q ∈ front ++ back → q ≠ new := by
    rintro hq rfl
    have hnd := nodup_routeFiles hu p
    rw [hsplit, List.perm_middle.nodup_iff, List.nodup_cons] at hnd
    exact hnd.1 hq
  constructor
  · intro hq
    have hmem := (h q).2 (.inl hq)
    have hq' : q ≠ new := fun he => hnew (he ▸ hq)
    simpa [hq'] using hmem
  · exact fun hq => ((h q).1 (hsub.subset hq)).resolve_right (hne hq)

end FileTree
end RouteAudit
