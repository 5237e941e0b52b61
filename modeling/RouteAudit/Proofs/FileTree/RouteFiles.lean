import RouteAudit.FileTree.Walk
import RouteAudit.Proofs.FileTree.Alike

/-!
# Which route files a walk finds

`FileTree.Yields` says without any walking when a file below a start is to be found: the start and
every directory on the way can be listed, the directories on the way are real ones whose names are
not left out, and the last of them shows an entry with the name of a route file that is no
directory.  The name of the start itself does not matter.

The walk finds exactly those files, each once, in the order of their paths
(`FileTree.routeFiles_exact`).  Files and directories are interleaved on the way, but their names
differ, so the order of the entries of each directory carries over to the whole walk.  The order is
determined by the paths alone, and so trees that differ only in how directories are listed are
walked alike.

The walk is a recursion over nodes that lists each directory by its path.  `FileTree.routeFiles_eq`
turns it into a recursion over paths, and `FileTree.pathInduction` is the induction that goes
with it.
-/

set_option autoImplicit false

namespace RouteAudit

/-! ## Entries in the order of their names -/

theorem mem_inNameOrder {α : Type} {e : String × α} {es : List (String × α)} :
    e ∈ inNameOrder es ↔ e ∈ es :=
  List.mem_mergeSort

/-- Only the names matter for the order. -/
theorem inNameOrder_map {α β : Type} (f : String × α → β) (es : List (String × α)) :
    inNameOrder (es.map fun e => (e.1, f e)) = (inNameOrder es).map fun e => (e.1, f e) := by
  rw [inNameOrder, inNameOrder, List.map_mergeSort]
  exact fun _ _ _ _ => rfl

/-- Entries of different names are in strict order. -/
theorem pairwise_inNameOrder {α : Type} {es : List (String × α)}
    (hnd : (es.map Prod.fst).Nodup) : (inNameOrder es).Pairwise fun a b => a.1 < b.1 := by
  have hle : (inNameOrder es).Pairwise fun a b => decide (a.1 ≤ b.1) = true := by
    refine List.pairwise_mergeSort (fun a b c hab hbc => ?_) (fun a b => ?_) es
    · rw [decide_eq_true_eq] at hab hbc ⊢
      exact String.le_trans hab hbc
    · rw [Bool.or_eq_true, decide_eq_true_eq, decide_eq_true_eq]
      exact String.le_total a.1 b.1
  have hne : (inNameOrder es).Pairwise fun a b => a.1 ≠ b.1 :=
    List.pairwise_map.1 (((inNameOrder_perm es).map Prod.fst).nodup_iff.2 hnd)
  refine (hle.and hne).imp fun ⟨h, hn⟩ => ?_
  rw [decide_eq_true_eq] at h
  exact String.not_le.1 fun h' => hn (String.le_antisymm h h')

/-! ## The walk as a recursion over paths -/

theorem Node.visits_eq_map (t : FileTree) (here : Path) (es : List (String × Node)) :
    visits t here es = es.map fun e => (e.1, visit t here e.1 e.2) := by
  induction es with
  | nil => rfl
  | cons e es ih => rw [visits, ih, List.map_cons]

theorem Node.flatMap_visits (t : FileTree) (here : Path) (es : List (String × Node)) :
    (inNameOrder (visits t here es)).flatMap Prod.snd =
      (inNameOrder es).flatMap fun e => visit t here e.1 e.2 := by
  rw [visits_eq_map, inNameOrder_map (fun e => visit t here e.1 e.2), List.flatMap_map]

namespace FileTree

variable {t : FileTree}

/-- Going into a directory that was listed as an entry is walking from its path. -/
theorem visit_dir (ht : t.Sound) {p : Path} {es es' : List (String × Node)} {d : String}
    (hl : t.list p = .ok es) (hd : (d, .dir es') ∈ es) (hs : isSkipped d = false) :
    Node.visit t p d (.dir es') = t.walk (p.child d) := by
  rw [Node.visit, walk, list_child ht hl hd, if_neg (by simp [hs])]
  by_cases hlong : maxPath < (p.child d).text.utf8ByteSize
  · rw [if_pos hlong]
  · rw [if_neg hlong]

theorem visit_of_not_dir {n : Node} (h : n.isDir = false) (p : Path) (name : String) :
    Node.visit t p name n = if isRouteFile name then [.routeFile (p.child name)] else [] := by
  cases n with
  | file bytes => rw [Node.visit]; simp
  | link target => rw [Node.visit]; simp
  | dir es => simp [Node.isDir] at h

/-- The route files at an entry of the directory `p`, and below it. -/
def entryRouteFiles (t : FileTree) (p : Path) (e : String × Node) : List Path :=
  if e.2.isDir then if isSkipped e.1 then [] else t.routeFiles (p.child e.1)
  else if isRouteFile e.1 then [p.child e.1] else []

theorem routeFiles_of_error {p : Path} {f : FileFault} (h : t.list p = .error f) :
    t.routeFiles p = [] := by
  rw [routeFiles, walk, h]
  rfl

/-- **The route files below a directory** are those of its entries in the order of their names. -/
theorem routeFiles_eq (ht : t.Sound) {p : Path} {es : List (String × Node)}
    (h : t.list p = .ok es) :
    t.routeFiles p = (inNameOrder es).flatMap (t.entryRouteFiles p) := by
  rw [routeFiles, walk, h]
  dsimp only
  rw [Node.flatMap_visits, List.filterMap_flatMap, List.flatMap_def, List.flatMap_def]
  refine congrArg List.flatten (List.map_congr_left fun e he => ?_)
  obtain ⟨name, n⟩ := e
  rw [entryRouteFiles]
  by_cases hdir : n.isDir = true
  · obtain ⟨es', rfl⟩ := Node.isDir_eq_true_iff.1 hdir
    rw [if_pos hdir]
    by_cases hs : isSkipped name = true
    · rw [Node.visit, if_pos hs, if_pos hs]
      rfl
    · rw [if_neg hs, visit_dir ht h (mem_inNameOrder.1 he) (by simpa using hs), routeFiles]
  · rw [if_neg hdir, visit_of_not_dir (by simpa using hdir)]
    split <;> rfl

/-- **Induction along paths**: from the directories that a directory shows to itself. -/
theorem pathInduction (ht : t.Sound) {P : Path → Prop}
    (closed : ∀ p f, t.list p = .error f → P p)
    (listed : ∀ p es, t.list p = .ok es → (∀ d es', (d, .dir es') ∈ es → P (p.child d)) → P p)
    (p : Path) : P p := by
  -- the induction is on the directory that the path leads to
  have key : ∀ n : Node, ∀ p es, n = .dir es → t.list p = .ok es → P p := by
    intro n
    induction n using Node.inductionOn with
    | file bytes => intro p es h; cases h
    | link target => intro p es h; cases h
    | dir entries ih =>
      rintro p _ ⟨⟩ hl
      refine listed p entries hl fun d es' hd => ?_
      have hc := list_child ht hl hd
      split at hc
      · exact closed _ _ hc
      · exact ih d _ hd _ _ rfl hc
  cases hl : t.list p with
  | error f => exact closed p f hl
  | ok es => exact key _ p es rfl hl

end FileTree

/-! ## Which files are to be found -/

/-- The path of what some names lead to from a directory. -/
def Path.below (p : Path) (names : List String) : Path := { p with parts := p.parts ++ names }

theorem Path.below_nil (p : Path) : p.below [] = p := by simp [below]

theorem Path.below_cons (p : Path) (name : String) (names : List String) :
    p.below (name :: names) = (p.child name).below names := by simp [below, child]

namespace FileTree

/-- The file `name` in the directory to which `ds` leads from the start is to be found. -/
structure Yields (t : FileTree) (start : Path) (ds : List String) (name : String) : Prop where
  /-- The start can be listed. -/
  listed : t.CanList start
  /-- Every directory on the way is a real one, can be listed and is not left out. -/
  way : ∀ us d, us ++ [d] <+: ds →
    t.Shows (start.below us) d true ∧ t.CanList (start.below (us ++ [d])) ∧ isSkipped d = false
  /-- The last directory has the file, which is no directory itself. -/
  entry : t.Shows (start.below ds) name false
  /-- It is named as a route file. -/
  named : isRouteFile name = true

variable {t : FileTree}

theorem yields_nil_iff {p : Path} {name : String} :
    t.Yields p [] name ↔ t.Shows p name false ∧ isRouteFile name = true := by
  constructor
  · intro h
    exact ⟨by simpa [Path.below_nil] using h.entry, h.named⟩
  · rintro ⟨hs, hn⟩
    obtain ⟨es, n, hl, hmem, hdir⟩ := hs
    refine ⟨⟨es, hl⟩, fun us d h => ?_, ?_, hn⟩
    · simp at h
    · rw [Path.below_nil]
      exact ⟨es, n, hl, hmem, hdir⟩

/-- What is to be found behind a directory on the way is to be found from that directory. -/
theorem yields_cons_iff {p : Path} {d : String} {ds : List String} {name : String} :
    t.Yields p (d :: ds) name ↔
      t.Shows p d true ∧ isSkipped d = false ∧ t.Yields (p.child d) ds name := by
  constructor
  · intro h
    obtain ⟨hs, hc, hk⟩ := h.way [] d (by simp)
    rw [Path.below_nil] at hs
    rw [List.nil_append, Path.below_cons, Path.below_nil] at hc
    refine ⟨hs, hk, hc, fun us e he => ?_, ?_, h.named⟩
    · have hw := h.way (d :: us) e (by simpa using he)
      simpa only [List.cons_append, Path.below_cons] using hw
    · simpa only [Path.below_cons] using h.entry
  · rintro ⟨hs, hk, h⟩
    obtain ⟨es, n, hl, hmem, hdir⟩ := hs
    refine ⟨⟨es, hl⟩, fun us e he => ?_, ?_, h.named⟩
    · cases us with
      | nil =>
        obtain ⟨rfl, -⟩ : e = d ∧ [] <+: ds := by simpa using he
        rw [Path.below_nil, List.nil_append, Path.below_cons, Path.below_nil]
        exact ⟨⟨es, n, hl, hmem, hdir⟩, h.listed, hk⟩
      | cons u us =>
        obtain ⟨rfl, hus⟩ : u = d ∧ us ++ [e] <+: ds := by simpa using he
        simpa only [List.cons_append, Path.below_cons] using h.way us e hus
    · simpa only [Path.below_cons] using h.entry

theorem mem_entryRouteFiles_iff {p q : Path} {e : String × Node} :
    q ∈ t.entryRouteFiles p e ↔
      (e.2.isDir = true ∧ isSkipped e.1 = false ∧ q ∈ t.routeFiles (p.child e.1)) ∨
      (e.2.isDir = false ∧ isRouteFile e.1 = true ∧ q = p.child e.1) := by
  rw [entryRouteFiles]
  cases e.2.isDir <;> cases isSkipped e.1 <;> cases isRouteFile e.1 <;> simp

/-- **Soundness and completeness of the walk.** -/
theorem mem_routeFiles_iff (ht : t.Sound) (p q : Path) :
    q ∈ t.routeFiles p ↔ ∃ ds name, q = p.below (ds ++ [name]) ∧ t.Yields p ds name := by
  induction p using pathInduction ht with
  | closed p f hf =>
    rw [routeFiles_of_error hf]
    refine ⟨fun h => absurd h List.not_mem_nil, ?_⟩
    rintro ⟨ds, name, -, h⟩
    obtain ⟨es, hl⟩ := h.listed
    rw [hf] at hl
    cases hl
  | listed p es hl ih =>
    rw [routeFiles_eq ht hl, List.mem_flatMap]
    constructor
    · rintro ⟨⟨name, n⟩, hmem, hq⟩
      rw [mem_inNameOrder] at hmem
      rcases mem_entryRouteFiles_iff.1 hq with ⟨hdir, hk, hq⟩ | ⟨hdir, hn, rfl⟩
      · obtain ⟨es', rfl⟩ := Node.isDir_eq_true_iff.1 hdir
        obtain ⟨ds, file, rfl, hy⟩ := (ih name es' hmem).1 hq
        exact ⟨name :: ds, file, by rw [List.cons_append, Path.below_cons],
          yields_cons_iff.2 ⟨⟨es, _, hl, hmem, hdir⟩, hk, hy⟩⟩
      · exact ⟨[], name, by rw [List.nil_append, Path.below_cons, Path.below_nil],
          yields_nil_iff.2 ⟨⟨es, n, hl, hmem, hdir⟩, hn⟩⟩
    · rintro ⟨ds, name, rfl, hy⟩
      cases ds with
      | nil =>
        obtain ⟨⟨es', n, hl', hmem, hdir⟩, hn⟩ := yields_nil_iff.1 hy
        cases hl.symm.trans hl'
        refine ⟨(name, n), mem_inNameOrder.2 hmem, mem_entryRouteFiles_iff.2 (.inr ⟨hdir, hn, ?_⟩)⟩
        rw [List.nil_append, Path.below_cons, Path.below_nil]
      | cons d ds =>
        obtain ⟨⟨es', n, hl', hmem, hdir⟩, hk, hy⟩ := yields_cons_iff.1 hy
        cases hl.symm.trans hl'
        obtain ⟨es'', rfl⟩ := Node.isDir_eq_true_iff.1 hdir
        refine ⟨(d, .dir es''), mem_inNameOrder.2 hmem,
          mem_entryRouteFiles_iff.2 (.inl ⟨hdir, hk, (ih d es'' hmem).2 ⟨ds, name, ?_, hy⟩⟩)⟩
        rw [List.cons_append, Path.below_cons]

/-! ## The order of the walk -/

/-- The route files at an entry begin with its name, seen from the directory. -/
theorem parts_of_mem_entryRouteFiles (ht : t.Sound) {p q : Path} {e : String × Node}
    (h : q ∈ t.entryRouteFiles p e) : ∃ rest, q.parts = p.parts ++ e.1 :: rest := by
  rcases mem_entryRouteFiles_iff.1 h with ⟨-, -, hq⟩ | ⟨-, -, rfl⟩
  · obtain ⟨ds, name, rfl, -⟩ := (mem_routeFiles_iff ht _ _).1 hq
    exact ⟨ds ++ [name], by simp [Path.below, Path.child]⟩
  · exact ⟨[], rfl⟩

/-- **The walk goes up**: paths are compared part by part, and parts character by character. -/
theorem pairwise_routeFiles (ht : t.Sound) (p : Path) :
    (t.routeFiles p).Pairwise fun q r => q.parts < r.parts := by
  induction p using pathInduction ht with
  | closed p f hf =>
    rw [routeFiles_of_error hf]
    exact List.Pairwise.nil
  | listed p es hl ih =>
    rw [routeFiles_eq ht hl, List.pairwise_flatMap]
    constructor
    · rintro ⟨name, n⟩ hmem
      rw [mem_inNameOrder] at hmem
      rw [entryRouteFiles]
      split
      · rename_i hdir
        obtain ⟨es', rfl⟩ := Node.isDir_eq_true_iff.1 hdir
        split
        · exact List.Pairwise.nil
        · exact ih name es' hmem
      · split
        · exact List.pairwise_singleton _ _
        · exact List.Pairwise.nil
    · -- two entries are told apart by their names, whatever lies below them
      refine (pairwise_inNameOrder (Node.areSound_iff.1 (areSound_of_list ht hl)).2).imp ?_
      intro a b hab q hq r hr
      obtain ⟨us, hus⟩ := parts_of_mem_entryRouteFiles ht hq
      obtain ⟨vs, hvs⟩ := parts_of_mem_entryRouteFiles ht hr
      rw [hus, hvs]
      exact List.append_left_lt (List.cons_lt_cons_iff.2 (.inl hab))

theorem nodup_of_ascending {ps : List Path} (h : ps.Pairwise fun q r => q.parts < r.parts) :
    ps.Nodup := by
  refine h.imp fun hlt he => ?_
  rw [he] at hlt
  exact List.lt_irrefl _ hlt

/-- Paths that go up are told by which of them there are. -/
theorem eq_of_ascending {ps qs : List Path} (hps : ps.Pairwise fun q r => q.parts < r.parts)
    (hqs : qs.Pairwise fun q r => q.parts < r.parts) (h : ∀ q, q ∈ ps ↔ q ∈ qs) : ps = qs := by
  have hperm :=
    (List.perm_ext_iff_of_nodup (nodup_of_ascending hps) (nodup_of_ascending hqs)).2 h
  refine hperm.eq_of_pairwise (fun q r _ _ hqr hrq => ?_) hps hqs
  exact absurd (List.lt_trans hqr hrq) (List.lt_irrefl _)

theorem nodup_routeFiles (ht : t.Sound) (p : Path) : (t.routeFiles p).Nodup :=
  nodup_of_ascending (pairwise_routeFiles ht p)

theorem Alike.yields {u : FileTree} (h : Alike t u) (ht : t.Sound) {p : Path} {ds : List String}
    {name : String} (hy : t.Yields p ds name) : u.Yields p ds name := by
  refine ⟨h.canList hy.listed, fun us d hd => ?_, h.shows ht hy.entry, hy.named⟩
  obtain ⟨hs, hc, hk⟩ := hy.way us d hd
  exact ⟨h.shows ht hs, h.canList hc, hk⟩

/-- The route files do not depend on the order in which directories are listed. -/
theorem Alike.routeFiles_eq {u : FileTree} (h : Alike t u) (ht : t.Sound) (hu : u.Sound)
    (p : Path) : u.routeFiles p = t.routeFiles p := by
  have hmem : ∀ q, q ∈ u.routeFiles p ↔ q ∈ t.routeFiles p := by
    intro q
    rw [mem_routeFiles_iff hu, mem_routeFiles_iff ht]
    constructor
    · rintro ⟨ds, name, hq, hy⟩
      exact ⟨ds, name, hq, h.symm.yields hu hy⟩
    · rintro ⟨ds, name, hq, hy⟩
      exact ⟨ds, name, hq, h.yields ht hy⟩
  exact eq_of_ascending (pairwise_routeFiles hu p) (pairwise_routeFiles ht p) hmem

/-- **What a walk finds.**  It finds the files that are to be found and no others, each once, in
the order of their paths, whatever the order in which directories are listed. -/
theorem routeFiles_exact (ht : t.Sound) (start : Path) :
    (∀ q, q ∈ t.routeFiles start ↔
      ∃ ds name, q = start.below (ds ++ [name]) ∧ t.Yields start ds name) ∧
    (t.routeFiles start).Nodup ∧
    (t.routeFiles start).Pairwise (fun q r => q.parts < r.parts) ∧
    ∀ u : FileTree, u.Sound → t.Alike u → u.routeFiles start = t.routeFiles start :=
  ⟨mem_routeFiles_iff ht start, nodup_routeFiles ht start, pairwise_routeFiles ht start,
    fun _ hu h => h.routeFiles_eq ht hu start⟩

/-- The entries of a small project: a route file before the directory `app`, which a link leads
around to, and a directory that is left out. -/
def sampleEntries : List (String × Node) :=
  [("routes.ts", .file []), ("app", .dir [("up", .link ".."), ("routes.js", .link "up/app")]),
    ("node_modules", .dir [("routes.ts", .file [])])]

theorem areSound_sampleEntries : Node.areSound sampleEntries = true := by decide

/-- A walk of a small project, listed in two ways: it comes upon a link that leads in a circle. -/
theorem routeFiles_exact_sample :
    (⟨.dir sampleEntries, []⟩ : FileTree).Sound ∧
    ⟨.root, ["app", "routes.js"]⟩ ∈ (⟨.dir sampleEntries, []⟩ : FileTree).routeFiles ⟨.root, []⟩ ∧
    (⟨.dir sampleEntries.reverse, []⟩ : FileTree).routeFiles ⟨.root, []⟩ =
      (⟨.dir sampleEntries, []⟩ : FileTree).routeFiles ⟨.root, []⟩ := by
  have ht : (⟨.dir sampleEntries, []⟩ : FileTree).Sound := ⟨areSound_sampleEntries, by simp⟩
  have hu : (⟨.dir sampleEntries.reverse, []⟩ : FileTree).Sound := ⟨by decide, by simp⟩
  obtain ⟨hmem, -, -, hlisted⟩ := routeFiles_exact ht ⟨.root, []⟩
  refine ⟨ht, (hmem _).2 ⟨["app"], "routes.js", rfl, ?_⟩,
    hlisted _ hu (alike_of_perm areSound_sampleEntries (List.reverse_perm _).symm [])⟩
  refine yields_cons_iff.2 ⟨⟨_, _, rfl, List.mem_cons_of_mem _ List.mem_cons_self, rfl⟩, by decide,
    yields_nil_iff.2 ⟨⟨_, _, rfl, List.mem_cons_of_mem _ List.mem_cons_self, rfl⟩, by decide⟩⟩

end FileTree
end RouteAudit
