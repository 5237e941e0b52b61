import RouteAudit.Proofs.FileTree.PathText
import RouteAudit.Proofs.FileTree.RouteFiles
import RouteAudit.Proofs.Rule.Findings
import RouteAudit.Proofs.Scan.Account
import RouteAudit.Report.Console

/-!
# Two ways to count the files with issues

An analysis counts a file when a rule finds an issue in it, and a report counts the names of files
among the issues, each once.  The two numbers agree because no name comes up twice: the walk finds
no path twice, a path is shown as the way to it from the directory of the project, and different
ways have different texts.

* `FileTree.IsWay` — the names on the way from a directory to a file that is found below it;
* `FileTree.shownPath_below` — how a file that is found is shown;
* `eraseDups_files` — the names of files among the issues, where no two files have one name;
* `Analysis.Coherent` — what holds of an analysis beside its account;
* `scan_coherent` — analysing a project gives a coherent analysis.
-/

set_option autoImplicit false

namespace RouteAudit

/-! ## How files are shown -/

namespace FileTree

/-- The names on a way down from a directory: there is one at least. -/
structure IsWay (names : List String) : Prop where
  nonempty : names ≠ []
  good : ∀ name ∈ names, isEntryName name = true

variable {names : List String}

theorem IsWay.normal (h : IsWay names) : (Path.mk .here names).Normal := by
  intro name hname
  obtain ⟨hproper, -, hpiece, -⟩ := isEntryName_iff.1 (h.good name hname)
  exact ⟨hproper, hpiece⟩

theorem IsWay.noUp (h : IsWay names) : ".." ∉ names := fun hup =>
  (isEntryName_iff.1 (h.good _ hup)).2.1 rfl

theorem Yields.isWay {t : FileTree} (ht : t.Sound) {start : Path} {ds : List String}
    {name : String} (h : t.Yields start ds name) : IsWay (ds ++ [name]) := by
  refine ⟨by simp, fun d hd => ?_⟩
  rcases List.mem_append.1 hd with hd | hd
  · obtain ⟨us, vs, rfl⟩ := List.append_of_mem hd
    exact (h.way us d ⟨vs, by simp⟩).1.isEntryName ht
  · rw [List.mem_singleton.1 hd]
    exact h.entry.isEntryName ht

theorem exists_isWay {t : FileTree} (ht : t.Sound) {base p : Path} (h : p ∈ t.routeFiles base) :
    ∃ names, p = base.below names ∧ IsWay names := by
  obtain ⟨ds, name, hp, hy⟩ := (mem_routeFiles_iff ht base p).1 h
  exact ⟨ds ++ [name], hp, hy.isWay ht⟩

theorem relativeTo?_below {base : Path} (hb : base.Normal) (names : List String) :
    (base.below names).relativeTo? (Path.ofString base.text) = some ⟨.here, names⟩ := by
  rw [Path.ofString_text hb]
  exact Path.relativeTo?_append base.anchor base.parts names

/-- A path below the directory of the project is shown as the way to it. -/
theorem shownPath_below {base : Path} (hb : base.Normal) (names : List String) :
    shownPath base.text (base.below names) = (Path.mk .here names).text := by
  rw [shownPath, relativeTo?_below hb]

/-- **No two files that are found are shown alike.** -/
theorem eq_of_shownPath_eq {t : FileTree} (ht : t.Sound) {base : Path} (hb : base.Normal)
    {p q : Path} (hp : p ∈ t.routeFiles base) (hq : q ∈ t.routeFiles base)
    (h : shownPath base.text p = shownPath base.text q) : p = q := by
  obtain ⟨us, rfl, hus⟩ := exists_isWay ht hp
  obtain ⟨vs, rfl, hvs⟩ := exists_isWay ht hq
  rw [shownPath_below hb, shownPath_below hb] at h
  have hway : Path.mk .here us = Path.mk .here vs := Path.eq_of_text_eq hus.normal hvs.normal h
  rw [(Path.mk.inj hway).2]

theorem file_of_subject? {t : FileTree} {base : String} {extended : Bool} {p : Path} {s : Subject}
    (h : t.subject? base extended p = some s) : s.file = shownPath base p := by
  rw [subject?] at h
  split at h <;> cases h
  rfl

/-- The names of the files that could be read are different. -/
theorem nodup_files {t : FileTree} (ht : t.Sound) {base : Path} (hb : base.Normal)
    (extended : Bool) : ((t.readFiles extended base).map Subject.file).Nodup := by
  rw [readFiles, List.Nodup, List.pairwise_map, List.pairwise_filterMap]
  refine (nodup_routeFiles ht base).imp_of_mem fun hp hq hne r hr s hs he => ?_
  rw [file_of_subject? hr, file_of_subject? hs] at he
  exact hne (eq_of_shownPath_eq ht hb hp hq he)

end FileTree

/-! ## Files among issues -/

/-- The issues of one file name it as often as there are issues. -/
theorem eraseDups_file (s : Subject) :
    ((runRules s).issues.map Issue.file).eraseDups = if s.isDirty then [s.file] else [] := by
  have hfile : ∀ i ∈ (runRules s).issues, i.file = s.file := fun i =>
    file_of_mem_issues_runRules
  rw [Subject.isDirty]
  cases hi : (runRules s).issues with
  | nil => rfl
  | cons i is =>
    rw [hi] at hfile
    have hrest : (is.map Issue.file).filter (fun f => !f == s.file) = [] := by
      rw [List.filter_eq_nil_iff]
      rintro _ hf
      obtain ⟨j, hj, rfl⟩ := List.mem_map.1 hf
      simp [hfile j (List.mem_cons_of_mem i hj)]
    rw [List.map_cons, hfile i List.mem_cons_self, List.eraseDups_cons, hrest]
    rfl

/-- **The files among the issues**, each once, are the files with an issue. -/
theorem eraseDups_files {read : List Subject} (hnd : (read.map Subject.file).Nodup) :
    ((read.flatMap fun s => (runRules s).issues).map Issue.file).eraseDups =
      (read.filter Subject.isDirty).map Subject.file := by
  induction read with
  | nil => rfl
  | cons s rest ih =>
    obtain ⟨hnew, hnd⟩ := List.nodup_cons.1 hnd
    -- no issue of a later file names this one, so nothing of what follows is dropped
    have hapart : ((rest.flatMap fun r => (runRules r).issues).map Issue.file).removeAll
        ((runRules s).issues.map Issue.file) =
          (rest.flatMap fun r => (runRules r).issues).map Issue.file := by
      refine List.filter_eq_self.2 fun f hf => ?_
      obtain ⟨i, hi, rfl⟩ := List.mem_map.1 hf
      obtain ⟨r, hr, hi⟩ := List.mem_flatMap.1 hi
      simp only [List.elem_eq_mem, Bool.not_eq_true', decide_eq_false_iff_not]
      intro hs
      obtain ⟨j, hj, hij⟩ := List.mem_map.1 hs
      rw [file_of_mem_issues_runRules hj, file_of_mem_issues_runRules hi] at hij
      exact hnew (List.mem_map.2 ⟨r, hr, hij.symm⟩)
    rw [List.flatMap_cons, List.map_append, List.eraseDups_append, hapart, ih hnd, eraseDups_file]
    cases hs : s.isDirty <;> simp [hs]

/-! ## Coherent analyses -/

/-- The member of an object under a key. -/
def Json.member? (key : String) : Json → Option Json
  | .obj members => members.lookup key
  | _ => none

namespace Analysis

/-- The counts of an analysis agree with its lists, and its files are among those that a walk has
found. -/
structure Coherent (a : Analysis) (found : List Path) : Prop where
  /-- Files are counted once, whichever way they are counted. -/
  withIssues : a.stats.withIssues = a.dirtyFiles.length
  /-- No file is listed twice. -/
  nodup : a.files.Nodup
  /-- A file is listed as the way down to it, and the way leads to a path that was found. -/
  way : ∀ f ∈ a.files, (Path.ofString f).anchor = .here ∧ (Path.ofString f).parts ≠ [] ∧
    ".." ∉ (Path.ofString f).parts ∧ (Path.ofString a.basePath).join (Path.ofString f) ∈ found
  /-- Whatever was found can be seen from the directory of the project. -/
  below : ∀ p ∈ found, (p.relativeTo? (Path.ofString a.basePath)).isSome = true
  /-- Every issue is about a file that is listed. -/
  listed : ∀ i ∈ a.issues, i.file ∈ a.files
  withIssues_le : a.stats.withIssues ≤ a.stats.analyzed
  analyzed_le : a.stats.analyzed ≤ a.stats.total

/-- Wherever a report tells how many files have issues, it tells `n`. -/
structure Tells (a : Analysis) (n : Nat) : Prop where
  /-- A line at the beginning of the results on a terminal. -/
  line : ∀ (s : Report.Screen) (verbose : Bool),
    s.print ("Files with issues: " ++ toString n).toList ∈ s.resultParts a verbose
  /-- A line at their end, if there are issues. -/
  conclusion : ∀ (s : Report.Screen) (verbose : Bool), a.issues ≠ [] →
    s.print ("\n📈 SUMMARY: Found " ++ toString a.issues.length ++ " issues across " ++ toString n
      ++ " files").toList ∈ s.resultParts a verbose
  /-- A member of the summary in a report as data. -/
  member : ∀ report, a.json = .ok report →
    (report.member? "summary").bind (Json.member? "filesWithIssues") = some (.int n)

theorem summary_of_json {a : Analysis} {report : Json} (h : a.json = .ok report) :
    report.member? "summary" = some a.summary := by
  rw [json] at h
  cases hx : a.extended with
  | false =>
    simp only [hx, Bool.false_eq_true, if_false, pure_bind] at h
    cases h
    rfl
  | true =>
    rw [hx, if_pos rfl] at h
    cases hd : Dependency.jsonByName a.dependencies with
    | error f => simp [hd, bind, Except.bind] at h
    | ok dependencies =>
      simp only [hd, bind, Except.bind, pure, Except.pure] at h
      cases h
      rfl

theorem Coherent.tells {a : Analysis} {found : List Path} (h : a.Coherent found) :
    a.Tells a.dirtyFiles.length := by
  refine ⟨fun s verbose => ?_, fun s verbose hne => ?_, fun report hr => ?_⟩
  · have hline : s.print ("Files with issues: " ++ toString a.stats.withIssues).toList ∈
        s.resultParts a verbose := by
      simp only [Report.Screen.resultParts, List.mem_append, List.mem_cons, true_or, or_true]
    rw [h.withIssues] at hline
    exact hline
  · have hempty : a.issues.isEmpty = false := by simpa using hne
    simp only [Report.Screen.resultParts, Report.Screen.conclusion, hempty, Bool.false_eq_true,
      if_false, List.mem_append, List.mem_cons, true_or, or_true]
  · rw [summary_of_json hr, summary, h.withIssues]
    rfl

/-- **The account of a project is coherent.** -/
theorem coherent_account (o : ScanOptions) {t : FileTree} (ht : t.Sound) {base : Path}
    (hb : base.Normal) :
    Coherent (account o base.text (t.routeFiles base).length (t.readFiles o.extended base))
      (t.routeFiles base) := by
  have hnd := FileTree.nodup_files ht hb o.extended
  refine ⟨?_, hnd, fun f hf => ?_, fun p hp => ?_, fun i hi => ?_, ?_, ?_⟩
  · simp only [account, dirtyFiles]
    rw [eraseDups_files hnd, List.length_map]
  · obtain ⟨s, hs, rfl⟩ := List.mem_map.1 hf
    obtain ⟨p, hp, hps⟩ := List.mem_filterMap.1 hs
    obtain ⟨names, rfl, hway⟩ := FileTree.exists_isWay ht hp
    rw [FileTree.file_of_subject? hps, FileTree.shownPath_below hb, Path.ofString_text hway.normal]
    refine ⟨rfl, hway.nonempty, hway.noUp, ?_⟩
    simp only [account]
    rw [Path.ofString_text hb]
    exact hp
  · obtain ⟨names, rfl, -⟩ := FileTree.exists_isWay ht hp
    simp only [account]
    rw [FileTree.relativeTo?_below hb]
    rfl
  · obtain ⟨s, hs, hi⟩ := List.mem_flatMap.1 hi
    rw [file_of_mem_issues_runRules hi]
    exact List.mem_map_of_mem hs
  · simp only [account]
    exact_mod_cast List.length_filter_le Subject.isDirty (t.readFiles o.extended base)
  · simp only [account]
    exact_mod_cast List.length_filterMap_le _ (t.routeFiles base)

end Analysis

/-- **Files with issues are counted alike everywhere.**  Analysing a directory whose path can be
resolved gives a coherent analysis, and every report of it tells the same number of files. -/
theorem scan_coherent (o : ScanOptions) {t : FileTree} (ht : t.Sound) {directory : String}
    {base : Path} (h : t.resolve (Path.ofString directory) = .ok base) :
    ∃ a log, scan o t (Path.ofString directory) = .ok (a, log) ∧
      a.Coherent (t.routeFiles base) ∧ a.Tells a.dirtyFiles.length := by
  have hreal := FileTree.real_of_resolve ht (Path.normal_ofString directory) h
  obtain ⟨log, hscan⟩ := scan_of_resolve_ok o h
  have hcoherent := Analysis.coherent_account o ht hreal.normal
  exact ⟨_, log, hscan, hcoherent, hcoherent.tells⟩

/-- A project that is entered over a link. -/
def linkedProject : FileTree where
  root := .dir [("here", .link "work/app/"),
    ("work", .dir [("app", .dir [("routes.ts", .file []), ("node_modules", .dir [])])])]

/-- The project is analysed where the link leads. -/
theorem scan_coherent_linkedProject :
    ∃ a log, scan { timestamp := "" } linkedProject (Path.ofString "./here") = .ok (a, log) ∧
      a.Coherent (linkedProject.routeFiles ⟨.root, ["work", "app"]⟩) ∧
      a.Tells a.dirtyFiles.length :=
  scan_coherent _ ⟨by decide, by simp [linkedProject]⟩ rfl

end RouteAudit
