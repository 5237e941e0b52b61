import RouteAudit.Scan

/-!
# What an analysis says about a project

An analysis grows file by file: every step updates counts and appends to lists, and a file that
cannot be read leaves early.  Here the same is said in one piece, as a function of how many files
were found and which of them could be read.

* `Analysis.grow` — an analysis with more files; every step is one of these (`take_eq`), and steps
  add up (`grow_grow`), so that a whole walk is one too (`takeAll_eq`);
* `Analysis.account` — the analysis of a project, each part of it for itself;
* `scan_eq_account` — analysing a project gives its account, and a file that cannot be read changes
  nothing in it but the number of files that were found.
-/

set_option autoImplicit false

namespace RouteAudit

/-- The file at a path as the rules see it, if it can be read. -/
def FileTree.subject? (t : FileTree) (base : String) (extended : Bool) (p : Path) :
    Option Subject :=
  match t.read p with
  | .ok bytes => some { content := Text.readText bytes, file := shownPath base p, extended }
  | .error _ => none

/-- Whether a rule finds an issue in the file. -/
def Subject.isDirty (s : Subject) : Bool := !(runRules s).issues.isEmpty

namespace Analysis

/-- The analysis with more files: so many were found, and these could be read. -/
def grow (a : Analysis) (found : Nat) (read : List Subject) : Analysis :=
  { a with
    stats :=
      { total := a.stats.total + found
        analyzed := a.stats.analyzed + read.length
        withIssues := a.stats.withIssues + (read.filter Subject.isDirty).length }
    files := a.files ++ read.map Subject.file
    issues := a.issues ++ read.flatMap fun s => (runRules s).issues
    recommendations := a.recommendations ++ read.flatMap fun s => (runRules s).recommendations
    summaries :=
      if a.extended then a.summaries ++ read.map fun s => summarize s.content s.file
      else a.summaries }

@[simp] theorem basePath_grow (a : Analysis) (found : Nat) (read : List Subject) :
    (a.grow found read).basePath = a.basePath := rfl

@[simp] theorem extended_grow (a : Analysis) (found : Nat) (read : List Subject) :
    (a.grow found read).extended = a.extended := rfl

theorem grow_nil (a : Analysis) : a.grow 0 [] = a := by
  simp [Analysis.grow]

/-- Files that come in two parts come one part behind the other. -/
theorem grow_grow (a : Analysis) (m n : Nat) (xs ys : List Subject) :
    (a.grow m xs).grow n ys = a.grow (m + n) (xs ++ ys) := by
  simp only [Analysis.grow, List.map_append, List.flatMap_append, List.filter_append,
    List.length_append, List.append_assoc, Analysis.mk.injEq, Stats.mk.injEq, true_and, and_true]
  refine ⟨⟨by omega, by omega, by omega⟩, ?_⟩
  split <;> simp

/-! ## One step -/

theorem countFound_eq (a : Analysis) : a.countFound = a.grow 1 [] := by
  simp [countFound, Analysis.grow]

/-- A file that was read is taken in with all that is found in it. -/
theorem addFile_eq (a : Analysis) (content : List Char) (file : String) :
    a.addFile content file = a.grow 0 [{ content, file, extended := a.extended }] := by
  simp only [addFile, Analysis.grow, List.flatMap_cons, List.flatMap_nil,
    List.append_nil, List.map_cons, List.map_nil, List.length_singleton, Analysis.mk.injEq,
    Stats.mk.injEq, true_and, and_true]
  refine ⟨by simp, by simp, ?_⟩
  cases h : (runRules { content, file, extended := a.extended }).issues <;>
    simp [Subject.isDirty, h]

theorem takeFile_eq (a : Analysis) (t : FileTree) (p : Path) :
    (a.takeFile t p).1 = a.grow 0 (t.subject? a.basePath a.extended p).toList := by
  rw [takeFile, FileTree.subject?]
  cases t.read p with
  | ok bytes => exact addFile_eq a _ _
  | error f => exact (grow_nil a).symm

/-- **One step of a scan.** -/
theorem take_eq (a : Analysis) (t : FileTree) (s : Sighting) :
    (a.take t s).1 = a.grow s.routeFile?.toList.length
      (s.routeFile?.toList.filterMap (t.subject? a.basePath a.extended)) := by
  cases s with
  | routeFile p =>
    rw [take, takeFile_eq, countFound_eq, grow_grow]
    cases h : t.subject? a.basePath a.extended p <;>
      simp [Sighting.routeFile?, Analysis.grow, h]
  | unlisted f => exact (grow_nil a).symm

/-! ## A whole walk -/

theorem fst_takeAll_cons (a : Analysis) (t : FileTree) (s : Sighting) (rest : List Sighting) :
    (a.takeAll t (s :: rest)).1 = ((a.take t s).1.takeAll t rest).1 := rfl

/-- **A whole scan** is its steps added up. -/
theorem takeAll_eq (a : Analysis) (t : FileTree) (seen : List Sighting) :
    (a.takeAll t seen).1 = a.grow (seen.filterMap Sighting.routeFile?).length
      ((seen.filterMap Sighting.routeFile?).filterMap (t.subject? a.basePath a.extended)) := by
  induction seen generalizing a with
  | nil => exact (grow_nil a).symm
  | cons s rest ih =>
    have hcons : (s :: rest).filterMap Sighting.routeFile? =
        s.routeFile?.toList ++ rest.filterMap Sighting.routeFile? := by
      cases s <;> rfl
    rw [fst_takeAll_cons, ih, take_eq, grow_grow, basePath_grow, extended_grow, hcons,
      List.length_append, List.filterMap_append]

/-- The analysis of a project with its directory, the number of files that were found in it, and
those that could be read. -/
def account (o : ScanOptions) (base : String) (found : Nat) (read : List Subject) : Analysis :=
  let issues := read.flatMap fun s => (runRules s).issues
  let summaries := if o.extended then read.map fun s => summarize s.content s.file else []
  { basePath := base
    extended := o.extended
    stats :=
      { total := found
        analyzed := read.length
        withIssues := (read.filter Subject.isDirty).length }
    issues
    recommendations :=
      (read.flatMap fun s => (runRules s).recommendations) ++
        if o.extended then
          globalRecommendations { basePath := base, timestamp := o.timestamp, issues, summaries }
        else []
    dependencies := if o.extended then o.table.detect summaries else []
    summaries
    files := read.map Subject.file
    timestamp := o.timestamp }

/-- Completing an analysis that was begun empty gives the account of its files. -/
theorem finalize_grow (o : ScanOptions) (base : String) (found : Nat) (read : List Subject) :
    (grow { basePath := base, extended := o.extended, timestamp := o.timestamp } found
      read).finalize o.table = account o base found read := by
  cases hx : o.extended with
  | false => simp [finalize, grow, account, hx]
  | true =>
    simp only [finalize, grow, account, hx, if_true, List.nil_append, Int.zero_add]
    rfl

/-- **A file that cannot be read** is counted as found and changes nothing else, wherever it comes
up. -/
theorem takeAll_of_unread (a : Analysis) {t : FileTree} {p : Path} {f : FileFault}
    (h : t.read p = .error f) (before after : List Sighting) :
    (a.takeAll t (before ++ .routeFile p :: after)).1 =
      (a.takeAll t (before ++ after)).1.countFound := by
  have hnone : t.subject? a.basePath a.extended p = none := by rw [FileTree.subject?, h]
  have hp : Sighting.routeFile? (.routeFile p) = some p := rfl
  rw [countFound_eq, takeAll_eq, takeAll_eq, grow_grow, List.filterMap_append,
    List.filterMap_append, List.filterMap_cons_some hp, List.filterMap_append,
    List.filterMap_append, List.filterMap_cons_none hnone, List.append_nil]
  simp only [List.length_append, List.length_cons, Nat.add_assoc]

end Analysis

/-- The files of a project that could be read. -/
def FileTree.readFiles (t : FileTree) (extended : Bool) (base : Path) : List Subject :=
  (t.routeFiles base).filterMap (t.subject? base.text extended)

/-- The analysis of a project is completed from one walk through its directory. -/
theorem fst_scan (o : ScanOptions) (t : FileTree) (start : Path) :
    (scan o t start).map Prod.fst =
      (t.resolve start).map fun base =>
        Analysis.account o base.text (t.routeFiles base).length (t.readFiles o.extended base) := by
  rw [scan]
  cases t.resolve start with
  | error f => rfl
  | ok base =>
    simp only [bind, Except.bind, pure, Except.pure, Except.map, Except.ok.injEq]
    rw [Analysis.takeAll_eq, Analysis.finalize_grow]
    rfl

theorem scan_of_resolve_ok (o : ScanOptions) {t : FileTree} {start base : Path}
    (h : t.resolve start = .ok base) :
    ∃ log, scan o t start =
      .ok (Analysis.account o base.text (t.routeFiles base).length (t.readFiles o.extended base),
        log) := by
  have hfst := fst_scan o t start
  cases hs : scan o t start with
  | error f => simp [hs, h, Except.map] at hfst
  | ok result =>
    simp only [hs, h, Except.map, Except.ok.injEq] at hfst
    exact ⟨result.2, by rw [← hfst]⟩

theorem scan_of_resolve_error (o : ScanOptions) {t : FileTree} {start : Path}
    {f : FileTree.ResolveFault} (h : t.resolve start = .error f) :
    scan o t start = .error f := by
  rw [scan, h]
  rfl

/-- **Analysing a project gives its account**, unless its path cannot be resolved, and a file that
cannot be read adds to the number of files that were found and to nothing else. -/
theorem scan_eq_account (o : ScanOptions) (t : FileTree) (start : Path) :
    (scan o t start).map Prod.fst =
      (t.resolve start).map (fun base =>
        Analysis.account o base.text (t.routeFiles base).length (t.readFiles o.extended base)) ∧
    ∀ (a : Analysis) (p : Path) (f : FileFault) (before after : List Sighting),
      t.read p = .error f →
      (a.takeAll t (before ++ .routeFile p :: after)).1 =
        (a.takeAll t (before ++ after)).1.countFound :=
  ⟨fst_scan o t start, fun a _ _ before after h => a.takeAll_of_unread h before after⟩

/-- A project with a route file and a link to itself that is named as one. -/
def circularProject : FileTree where
  root := .dir [("app.routes.ts", .file []), ("old.routes.ts", .link "old.routes.ts")]

/-- The link cannot be read, so it only counts as found. -/
theorem scan_eq_account_circularProject :
    circularProject.read ⟨.root, ["old.routes.ts"]⟩ =
      .error ⟨.tooManyLinks, ⟨.root, ["old.routes.ts"]⟩, none⟩ ∧
    ∀ (a : Analysis) (before after : List Sighting),
      (a.takeAll circularProject
          (before ++ .routeFile ⟨.root, ["old.routes.ts"]⟩ :: after)).1 =
        (a.takeAll circularProject (before ++ after)).1.countFound :=
  ⟨rfl, fun a before after =>
    (scan_eq_account { timestamp := "" } circularProject ⟨.root, []⟩).2 a _ _ before after rfl⟩

end RouteAudit
