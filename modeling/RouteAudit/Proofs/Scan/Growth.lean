import RouteAudit.Proofs.FileTree.Below
import RouteAudit.Proofs.Scan.DirtyFiles
import RouteAudit.Proofs.Scan.Modes

/-!
# One more route file

A file that is added to a project comes up somewhere in the middle of the walk and moves everything
behind it.  All the same the analysis only grows: what the new file brings is put in at one place of
every list, nothing else changes, no count goes down, and what is said about the project as a whole
is said still.  The last two need an argument of their own, because recommendations about the
project depend on counts that have to be exceeded, and a library is in use when some file shows it.

## What is here

* `Inserted` — a list with members put in at one place;
* `Analysis.GrowsInto` — an analysis and the one with a file more;
* `Analysis.growsInto_account` — the accounts of two projects, one of which has a file more;
* `FileTree.GainsOnly`, `FileTree.inserted_readFiles` — trees of which the second may have a route
  file more, and what is read of them;
* `FileTree.gainsOnly_plant` — adding a file to a tree without links gives such a tree;
* `scan_grows` — so the analysis grows.
-/

set_option autoImplicit false

namespace RouteAudit

/-! ## Lists -/

/-- The second list is the first one with some members put in at one place, of which `P` holds. -/
def Inserted {α : Type} (P : α → Prop) (xs ys : List α) : Prop :=
  ∃ front added back, xs = front ++ back ∧ ys = front ++ added ++ back ∧ ∀ x ∈ added, P x

namespace Inserted

variable {α β : Type} {P : α → Prop} {Q : β → Prop} {xs ys : List α}

theorem refl (P : α → Prop) (xs : List α) : Inserted P xs xs :=
  ⟨xs, [], [], by simp, by simp, List.forall_mem_nil P⟩

theorem sublist (h : Inserted P xs ys) : xs.Sublist ys := by
  obtain ⟨front, added, back, rfl, rfl, -⟩ := h
  exact (List.sublist_append_left front added).append_right back

theorem flatMap (h : Inserted P xs ys) (f : α → List β) (hf : ∀ x, P x → ∀ y ∈ f x, Q y) :
    Inserted Q (xs.flatMap f) (ys.flatMap f) := by
  obtain ⟨front, added, back, rfl, rfl, hadded⟩ := h
  refine ⟨front.flatMap f, added.flatMap f, back.flatMap f, List.flatMap_append, ?_, ?_⟩
  · rw [List.flatMap_append, List.flatMap_append]
  · intro y hy
    obtain ⟨x, hx, hxy⟩ := List.mem_flatMap.1 hy
    exact hf x (hadded x hx) y hxy

theorem map (h : Inserted P xs ys) (f : α → β) (hf : ∀ x, P x → Q (f x)) :
    Inserted Q (xs.map f) (ys.map f) := by
  rw [List.map_eq_flatMap, List.map_eq_flatMap]
  exact h.flatMap _ fun x hx y hy => List.mem_singleton.1 hy ▸ hf x hx

end Inserted

namespace Analysis

/-! ## Analyses -/

/-- The second analysis is the first one with a file more. -/
structure GrowsInto (a : Analysis) (file : String) (b : Analysis) : Prop where
  files : Inserted (· = file) a.files b.files
  issues : Inserted (fun i => i.file = file) a.issues b.issues
  summaries : Inserted (fun s => s.file = file) a.summaries b.summaries
  /-- The recommendations that are about a file. -/
  recommendations : Inserted (fun r => r.file = some file)
    (a.recommendations.filter fun r => r.file.isSome)
    (b.recommendations.filter fun r => r.file.isSome)
  /-- The recommendations about the project. -/
  ofProject : (a.recommendations.filter fun r => r.file.isNone).Sublist
    (b.recommendations.filter fun r => r.file.isNone)
  total : a.stats.total ≤ b.stats.total
  analyzed : a.stats.analyzed ≤ b.stats.analyzed
  withIssues : a.stats.withIssues ≤ b.stats.withIssues
  byKind : ∀ kind, countIn kind a.byKind ≤ countIn kind b.byKind
  bySeverity : ∀ severity, countIn severity a.bySeverity ≤ countIn severity b.bySeverity
  dependencies : ∀ d ∈ a.dependencies, d.detected = true → d ∈ b.dependencies

theorem countIn_bySeverity (a : Analysis) (s : Severity) :
    countIn s a.bySeverity = a.countOf s := by
  cases s <;> simp [countIn, bySeverity, Severity.all]

theorem countOf_le {a b : Analysis} (h : a.issues.Sublist b.issues) (s : Severity) :
    a.countOf s ≤ b.countOf s := (h.filter _).length_le

/-- What is said when a condition holds is said when a weaker one holds. -/
theorem ite_sublist {α : Type} {c c' : Prop} [Decidable c] [Decidable c'] (h : c → c')
    (x : α) : (if c then [x] else []).Sublist (if c' then [x] else []) := by
  by_cases hc : c
  · rw [if_pos hc, if_pos (h hc)]
  · rw [if_neg hc]
    exact List.nil_sublist _

/-- **Recommendations about the project** stay when there are more issues and summaries. -/
theorem globalRecommendations_sublist {a b : Analysis} (hissues : a.issues.Sublist b.issues)
    (hsummaries : a.summaries.Sublist b.summaries) :
    a.globalRecommendations.Sublist b.globalRecommendations := by
  have hcount := countOf_le hissues
  rw [globalRecommendations, globalRecommendations]
  refine ((ite_sublist (fun h => ?_) _).append (ite_sublist (fun h => ?_) _)).append
    (ite_sublist (fun h => ?_) _)
  · exact Nat.lt_of_lt_of_le h (hcount .high)
  · exact Nat.lt_of_lt_of_le h (hcount .medium)
  · exact ⟨Nat.lt_of_lt_of_le h.1 hsummaries.length_le,
      Nat.lt_of_lt_of_le h.2 (hsummaries.filter _).length_le⟩

theorem mem_detect_of_subset {table : Table} {summaries summaries' : List RouteSummary}
    (h : summaries ⊆ summaries') {d : Dependency} (hd : d ∈ table.detect summaries)
    (hdetected : d.detected = true) : d ∈ table.detect summaries' := by
  obtain ⟨e, he, rfl⟩ := List.mem_map.1 hd
  obtain ⟨s, hs, hholds⟩ := List.any_eq_true.1 hdetected
  refine List.mem_map.2 ⟨e, he, ?_⟩
  rw [List.any_eq_true.2 ⟨s, hs, hholds⟩, List.any_eq_true.2 ⟨s, h hs, hholds⟩]

section Accounts

variable (o : ScanOptions) (base : String) {found found' : Nat} {read read' : List Subject}
  {file : String}

theorem recommendations_account (found : Nat) (read : List Subject) :
    (account o base found read).recommendations =
      (read.flatMap fun s => (runRules s).recommendations) ++
        if o.extended then (account o base found read).globalRecommendations else [] := rfl

theorem dependencies_account (found : Nat) (read : List Subject) :
    (account o base found read).dependencies =
      if o.extended then o.table.detect (account o base found read).summaries else [] := rfl

/-- No recommendation about the project names a file. -/
theorem isNone_file_of_mem {a : Analysis} {r : Recommendation} {extended : Bool}
    (h : r ∈ if extended then a.globalRecommendations else []) : r.file.isNone = true := by
  split at h
  · rw [file_of_mem_globalRecommendations h]
    rfl
  · cases h

/-- The recommendations of an account that are about a file are those of the rules. -/
theorem filter_isSome_account (found : Nat) (read : List Subject) :
    (account o base found read).recommendations.filter (fun r => r.file.isSome) =
      read.flatMap fun s => (runRules s).recommendations := by
  rw [recommendations_account, List.filter_append,
    List.filter_eq_self.2 fun r hr => isSome_file_of_mem hr, List.filter_eq_nil_iff.2,
    List.append_nil]
  intro r hr
  simpa using isNone_file_of_mem hr

/-- The other ones are those about the project. -/
theorem filter_isNone_account (found : Nat) (read : List Subject) :
    (account o base found read).recommendations.filter (fun r => r.file.isNone) =
      if o.extended then (account o base found read).globalRecommendations else [] := by
  rw [recommendations_account, List.filter_append, List.filter_eq_nil_iff.2, List.nil_append,
    List.filter_eq_self.2 fun r hr => isNone_file_of_mem hr]
  intro r hr
  simpa [Option.isSome_iff_ne_none] using isSome_file_of_mem hr

/-- **A project with a file more** has an account that is grown. -/
theorem growsInto_account (hfound : found ≤ found')
    (h : Inserted (fun s => s.file = file) read read') (time : String) :
    (account o base found read).GrowsInto file
      (account { o with timestamp := time } base found' read') := by
  have hissues : Inserted (fun i => i.file = file) (account o base found read).issues
      (account { o with timestamp := time } base found' read').issues :=
    h.flatMap _ fun s hs i hi => (file_of_mem_issues_runRules hi).trans hs
  have hsummaries : Inserted (fun s => s.file = file) (account o base found read).summaries
      (account { o with timestamp := time } base found' read').summaries := by
    dsimp only [account]
    split
    · exact h.map _ fun s hs => hs
    · exact .refl _ _
  refine
    { files := h.map _ fun s hs => hs
      issues := hissues
      summaries := hsummaries
      recommendations := ?_
      ofProject := ?_
      total := Int.ofNat_le.2 hfound
      analyzed := Int.ofNat_le.2 h.sublist.length_le
      withIssues := Int.ofNat_le.2 (h.sublist.filter _).length_le
      byKind := fun kind => ?_
      bySeverity := fun severity => ?_
      dependencies := ?_ }
  · rw [filter_isSome_account, filter_isSome_account]
    exact h.flatMap _ fun s hs r hr => hs ▸ file_of_mem_recommendations_runRules hr
  · rw [filter_isNone_account, filter_isNone_account]
    dsimp only
    split
    · exact globalRecommendations_sublist hissues.sublist hsummaries.sublist
    · exact List.Sublist.refl _
  · rw [countIn_byKind, countIn_byKind]
    exact (hissues.sublist.map _).count_le _
  · rw [countIn_bySeverity, countIn_bySeverity]
    exact countOf_le hissues.sublist severity
  · intro d hd hdetected
    rw [dependencies_account] at hd ⊢
    dsimp only
    split at hd
    · rename_i hx
      rw [if_pos hx]
      exact mem_detect_of_subset hsummaries.sublist.subset hd hdetected
    · cases hd

end Accounts

end Analysis

namespace FileTree

variable {t u : FileTree} {base : Path} {ds : List String} {name : String}

/-! ## Trees -/

/-- The route files below a directory are the same in both trees, but for one that only the second
tree may have. -/
structure GainsOnly (t u : FileTree) (base : Path) (ds : List String) (name : String) : Prop where
  way : IsRouteWay ds name
  new : t.fileBelow? base (ds ++ [name]) = none
  others : ∀ es other, IsRouteWay es other → es ++ [other] ≠ ds ++ [name] →
    u.fileBelow? base (es ++ [other]) = t.fileBelow? base (es ++ [other])

namespace GainsOnly

theorem below_inj {names names' : List String} (h : base.below names = base.below names') :
    names = names' :=
  List.append_cancel_left (congrArg Path.parts h)

/-- A file that the walk of the first tree finds is not the new one. -/
theorem ne_new (h : GainsOnly t u base ds name) (ht : t.Sound) (hfree : t.LinkFreeBelow base)
    {es : List String} {other : String} (hy : t.Yields base es other) :
    es ++ [other] ≠ ds ++ [name] := by
  intro heq
  have hfile := ((yields_iff_of_linkFree ht hfree).1 hy).2.2
  rw [heq, h.new] at hfile
  cases hfile

/-- The walk of the second tree may come upon the new file, and is the same otherwise. -/
theorem inserted_routeFiles (h : GainsOnly t u base ds name) (ht : t.Sound) (hu : u.Sound)
    (hfree : t.LinkFreeBelow base) (hfree' : u.LinkFreeBelow base) :
    Inserted (· = base.below (ds ++ [name])) (t.routeFiles base) (u.routeFiles base) := by
  have hnew : base.below (ds ++ [name]) ∉ t.routeFiles base := by
    intro hmem
    obtain ⟨es, other, heq, hy⟩ := (mem_routeFiles_iff ht base _).1 hmem
    exact h.ne_new ht hfree hy (below_inj heq).symm
  have hmem : ∀ q, q ≠ base.below (ds ++ [name]) →
      (q ∈ u.routeFiles base ↔ q ∈ t.routeFiles base) := by
    intro q hq
    rw [mem_routeFiles_iff hu, mem_routeFiles_iff ht]
    refine exists_congr fun es => exists_congr fun other => and_congr_right fun heq => ?_
    have hne : es ++ [other] ≠ ds ++ [name] := fun hsame => hq (by rw [heq, hsame])
    exact yields_congr ht hu hfree hfree' fun hway => h.others es other hway hne
  by_cases hthere : base.below (ds ++ [name]) ∈ u.routeFiles base
  · obtain ⟨front, back, hfront, hback⟩ := routeFiles_insert ht hu hnew fun q => by
      by_cases hq : q = base.below (ds ++ [name])
      · exact iff_of_true (hq ▸ hthere) (.inr hq)
      · rw [hmem q hq, or_iff_left hq]
    exact ⟨front, [base.below (ds ++ [name])], back, hfront, by simp [hback], by simp⟩
  · have hsame : u.routeFiles base = t.routeFiles base := by
      refine eq_of_ascending (pairwise_routeFiles hu base) (pairwise_routeFiles ht base)
        fun q => ?_
      by_cases hq : q = base.below (ds ++ [name])
      · exact iff_of_false (hq ▸ hthere) (hq ▸ hnew)
      · exact hmem q hq
    rw [hsame]
    exact .refl _ _

/-- What is read of a file that was there before stays the same. -/
theorem subject?_eq (h : GainsOnly t u base ds name) (ht : t.Sound) (hu : u.Sound)
    (hfree : t.LinkFreeBelow base) (hfree' : u.LinkFreeBelow base) (extended : Bool) {q : Path}
    (hq : q ∈ t.routeFiles base) :
    u.subject? base.text extended q = t.subject? base.text extended q := by
  obtain ⟨es, other, rfl, hy⟩ := (mem_routeFiles_iff ht base q).1 hq
  have hne := h.ne_new ht hfree hy
  rw [subject?, subject?,
    read_congr ht hu hfree hfree' (fun hway => h.others es other hway hne) hy]

/-- **What is read of both trees** differs by the new file. -/
theorem inserted_readFiles (h : GainsOnly t u base ds name) (ht : t.Sound) (hu : u.Sound)
    (hfree : t.LinkFreeBelow base) (hfree' : u.LinkFreeBelow base) (hbase : base.Normal)
    (extended : Bool) :
    Inserted (fun s => s.file = (Path.mk .here (ds ++ [name])).text) (t.readFiles extended base)
      (u.readFiles extended base) := by
  obtain ⟨front, added, back, hold, hnew, hadded⟩ := h.inserted_routeFiles ht hu hfree hfree'
  have hsame : ∀ qs, qs ⊆ front ++ back →
      qs.filterMap (u.subject? base.text extended) =
        qs.filterMap (t.subject? base.text extended) := fun qs hqs =>
    List.filterMap_congr fun q hq => h.subject?_eq ht hu hfree hfree' extended (hold ▸ hqs hq)
  refine ⟨front.filterMap (t.subject? base.text extended),
    added.filterMap (u.subject? base.text extended),
    back.filterMap (t.subject? base.text extended), ?_, ?_, fun s hs => ?_⟩
  · rw [readFiles, hold, List.filterMap_append]
  · rw [readFiles, hnew, List.filterMap_append, List.filterMap_append,
      hsame front (List.subset_append_left front back),
      hsame back (List.subset_append_right front back)]
  · obtain ⟨q, hq, hs⟩ := List.mem_filterMap.1 hs
    rw [file_of_subject? hs, hadded q hq, shownPath_below hbase]

end GainsOnly

/-- **Adding a file** to a tree without links gives a tree without links that has the same route
files, but for that one. -/
theorem gainsOnly_plant (ht : t.Sound) (hfree : t.root.LinkFree) (hbase : IsReal base)
    (hway : IsRouteWay ds name) (hnames : ∀ part ∈ ds ++ [name], isEntryName part = true)
    (hnone : t.root.at? (base.parts ++ (ds ++ [name])) = none) {bytes : List UInt8}
    (hplant : t.plant (base.below (ds ++ [name])) (.file bytes) = (u, none)) :
    u.Sound ∧ u.root.LinkFree ∧ u.cwd = t.cwd ∧ Grown t.root u.root ∧
      u.root.at? (base.parts ++ (ds ++ [name])) = some (.file bytes) ∧
      GainsOnly t u base ds name := by
  have hreal : IsReal (base.below (ds ++ [name])) := by
    refine ⟨hbase.anchor, fun part hpart => ?_, fun hup => ?_⟩
    · rcases List.mem_append.1 hpart with hpart | hpart
      · exact hbase.normal part hpart
      · obtain ⟨hproper, -, hslash, -⟩ := isEntryName_iff.1 (hnames part hpart)
        exact ⟨hproper, hslash⟩
    · rcases List.mem_append.1 hup with hup | hup
      · exact hbase.noUp hup
      · exact (isEntryName_iff.1 (hnames _ hup)).2.1 rfl
  have hsound : u.Sound := by
    have hs := ht.plant hreal.normal (.file bytes)
    rwa [hplant] at hs
  obtain ⟨v, hmore, hwrite⟩ := exists_write_of_plant hplant
  have hparts : (base.below (ds ++ [name])).parts ≠ [] := by simp [Path.below]
  obtain ⟨hwrites, -⟩ := writes_of_write (hmore.linkFree hfree) hparts hwrite
  -- the path spells the place that the names lead to from the directory
  rw [hreal.anchor, show v.start .root = [] from rfl, hreal.stepAlong] at hwrites
  refine ⟨hsound, hwrites.linkFree, hwrites.cwd.trans hmore.cwd_eq,
    hmore.grown.trans hwrites.grown, Node.fileAt?_eq_some_iff.1 hwrites.self, hway, ?_, ?_⟩
  · rw [fileBelow?_real ht hfree hbase, Node.fileAt?, hnone]
    split <;> rfl
  · intro es other _ hne
    rw [fileBelow?_real ht hfree hbase, fileBelow?_real hsound hwrites.linkFree hbase,
      hwrites.others _ fun heq => hne (List.append_cancel_left heq), hmore.sameFiles.fileAt?]

end FileTree

/-- Trees of which the second may have a route file more are analysed alike, but for that file. -/
theorem scan_of_gainsOnly {t u : FileTree} (ht : t.Sound) (hu : u.Sound)
    {start start' base : Path} (hnormal : start.Normal) (hstart : t.resolve start = .ok base)
    (hstart' : u.resolve start' = .ok base) (hfree : t.LinkFreeBelow base)
    (hfree' : u.LinkFreeBelow base) {ds : List String} {name : String}
    (h : t.GainsOnly u base ds name) (o : ScanOptions) (time : String) :
    ∃ a b log log', scan o t start = .ok (a, log) ∧
      scan { o with timestamp := time } u start' = .ok (b, log') ∧
      a.GrowsInto (Path.mk .here (ds ++ [name])).text b := by
  obtain ⟨log, hscan⟩ := scan_of_resolve_ok o hstart
  obtain ⟨log', hscan'⟩ := scan_of_resolve_ok { o with timestamp := time } hstart'
  have hbase := FileTree.real_of_resolve ht hnormal hstart
  have hfound := (h.inserted_routeFiles ht hu hfree hfree').sublist.length_le
  exact ⟨_, _, log, log', hscan, hscan', Analysis.growsInto_account o base.text hfound
    (h.inserted_readFiles ht hu hfree hfree' hbase.normal o.extended) time⟩

/-- **An analysis only grows** when a route file is added to a project without links, in whatever
directory that is not left out and whatever is in the file: first for any two trees that have the
same route files but for one, and then for the tree in which a file was planted. -/
theorem scan_grows :
    (∀ (o : ScanOptions) (time : String) (t u : FileTree) (start start' base : Path)
      (ds : List String) (name : String),
      t.Sound → u.Sound → start.Normal → t.resolve start = .ok base →
      u.resolve start' = .ok base → t.LinkFreeBelow base → u.LinkFreeBelow base →
      t.GainsOnly u base ds name →
      ∃ a b log log', scan o t start = .ok (a, log) ∧
        scan { o with timestamp := time } u start' = .ok (b, log') ∧
        a.GrowsInto (Path.mk .here (ds ++ [name])).text b) ∧
    ∀ (o : ScanOptions) (time : String) (t u : FileTree) (start base : Path) (ds : List String)
      (name : String) (bytes : List UInt8),
      t.Sound → t.root.LinkFree → start.Normal → t.resolve start = .ok base →
      IsRouteWay ds name → (∀ part ∈ ds ++ [name], isEntryName part = true) →
      t.root.at? (base.parts ++ (ds ++ [name])) = none →
      t.plant (base.below (ds ++ [name])) (.file bytes) = (u, none) →
      u.root.at? (base.parts ++ (ds ++ [name])) = some (.file bytes) ∧
      ∃ a b log log', scan o t start = .ok (a, log) ∧
        scan { o with timestamp := time } u start = .ok (b, log') ∧
        a.GrowsInto (Path.mk .here (ds ++ [name])).text b := by
  constructor
  · intro o time t u start start' base ds name ht hu hnormal hstart hstart' hfree hfree' h
    exact scan_of_gainsOnly ht hu hnormal hstart hstart' hfree hfree' h o time
  · intro o time t u start base ds name bytes ht hfree hnormal hstart hway hnames hnone hplant
    obtain ⟨hu, hfree', hcwd, hgrown, hthere, hgains⟩ := FileTree.gainsOnly_plant ht hfree
      (FileTree.real_of_resolve ht hnormal hstart) hway hnames hnone hplant
    have hstart' : u.resolve start = .ok base :=
      FileTree.resolve_of_grown hfree hfree' hcwd hgrown hstart
    exact ⟨hthere, scan_of_gainsOnly ht hu hnormal hstart hstart'
      (FileTree.linkFreeBelow_of_linkFree hfree base)
      (FileTree.linkFreeBelow_of_linkFree hfree' base) hgains o time⟩

/-- A project with a route file in a directory. -/
def smallProject : FileTree where
  root := .dir [("src", .dir [("main.routes.ts", .file "debugger".toUTF8.toList)])]

/-- The project with a file that the walk comes upon first. -/
def grownProject : FileTree :=
  (smallProject.plant ⟨.root, ["src", "app", "routes.ts"]⟩ (.file [0xFF])).1

theorem scan_grows_smallProject :
    (∃ a b log log', scan { timestamp := "" } smallProject ⟨.root, ["src"]⟩ = .ok (a, log) ∧
      scan { timestamp := "" } grownProject ⟨.root, ["src"]⟩ = .ok (b, log') ∧
      a.GrowsInto "app/routes.ts" b) ∧
    ∃ a b log log',
      scan { extended := true, timestamp := "" } smallProject ⟨.root, ["src"]⟩ = .ok (a, log) ∧
      scan { extended := true, timestamp := "" } grownProject ⟨.root, ["src"]⟩ = .ok (b, log') ∧
      a.GrowsInto "app/routes.ts" b := by
  have ht : smallProject.Sound := ⟨by decide +kernel, fun _ h => absurd h List.not_mem_nil⟩
  have hfree : smallProject.root.LinkFree := Node.linkFree_of_linkCount rfl
  have hnormal : (Path.mk .root ["src"]).Normal := by
    unfold Path.Normal Path.IsPiece
    decide +kernel
  have hway : IsRouteWay ["app"] "routes.ts" := ⟨by decide, by decide⟩
  have hplant : smallProject.plant ⟨.root, ["src", "app", "routes.ts"]⟩ (.file [0xFF]) =
      (grownProject, none) := Prod.ext rfl rfl
  have hreal : FileTree.IsReal ⟨.root, ["src"]⟩ := FileTree.real_of_resolve ht hnormal rfl
  obtain ⟨hu, hfree', -, -, -, hgains⟩ :=
    FileTree.gainsOnly_plant ht hfree hreal hway (by decide +kernel) rfl hplant
  exact ⟨scan_grows.1 { timestamp := "" } "" smallProject grownProject _ _ _ _ _ ht hu hnormal rfl
      rfl (FileTree.linkFreeBelow_of_linkFree hfree _)
      (FileTree.linkFreeBelow_of_linkFree hfree' _) hgains,
    (scan_grows.2 { extended := true, timestamp := "" } "" smallProject grownProject
      ⟨.root, ["src"]⟩ ⟨.root, ["src"]⟩ ["app"] "routes.ts" [0xFF] ht hfree hnormal rfl hway
      (by decide +kernel) rfl hplant).2⟩

end RouteAudit
