import RouteAudit.Proofs.Rule.Findings
import RouteAudit.Proofs.Scan.Account

/-!
# The plain and the extended analysis of one project

The mode of an analysis goes to every rule and to the completion of the analysis, and it decides
what is kept of each file.  All the same the two modes agree on everything that both report: the
plain analysis has the counts, the files and the issues of the extended one, and its recommendations
are those of the extended one that are about a file and not about the wrapper that loads modules
(`scan_modes`).  The recommendations about the project come last in the extended analysis.
-/

set_option autoImplicit false

namespace RouteAudit

/-- The file as the extended mode sees it. -/
def Subject.toExtended (s : Subject) : Subject := { s with extended := true }

theorem FileTree.subject?_extended (t : FileTree) (base : String) (p : Path) :
    t.subject? base true p = (t.subject? base false p).map Subject.toExtended := by
  rw [subject?, subject?]
  cases t.read p <;> rfl

theorem FileTree.readFiles_extended (t : FileTree) (base : Path) :
    t.readFiles true base = (t.readFiles false base).map Subject.toExtended := by
  have h : t.subject? base.text true =
      fun p => (t.subject? base.text false p).map Subject.toExtended :=
    funext fun p => subject?_extended t base.text p
  rw [readFiles, readFiles, List.map_filterMap, h]

theorem FileTree.extended_of_mem_readFiles {t : FileTree} {extended : Bool} {base : Path}
    {s : Subject} (h : s ∈ t.readFiles extended base) : s.extended = extended := by
  obtain ⟨p, -, hp⟩ := List.mem_filterMap.1 h
  rw [subject?] at hp
  split at hp <;> cases hp
  rfl

theorem issues_toExtended (s : Subject) :
    (runRules s.toExtended).issues = (runRules s).issues :=
  issues_runRules_mode s true

theorem isDirty_comp_toExtended : Subject.isDirty ∘ Subject.toExtended = Subject.isDirty := by
  funext s
  simp only [Function.comp_apply, Subject.isDirty, issues_toExtended]

/-- What a file that is looked at plainly gives to recommend. -/
theorem recommendations_of_plain {s : Subject} (h : s.extended = false) :
    (runRules s).recommendations =
      (runRules s.toExtended).recommendations.filter Recommendation.isPlain := by
  have hs : s = { s with extended := false } := by rw [← h]
  rw [hs]
  exact recommendations_runRules_plain s

namespace Analysis

/-- The plain analysis `a` and the extended analysis `b` agree on what both report. -/
structure PlainOf (a b : Analysis) : Prop where
  stats : a.stats = b.stats
  files : a.files = b.files
  issues : a.issues = b.issues
  dirtyFiles : a.dirtyFiles = b.dirtyFiles
  summary : a.summary = b.summary
  /-- The plain analysis recommends what is plain, in the same order. -/
  recommendations : a.recommendations = b.recommendations.filter Recommendation.isPlain
  /-- The recommendations about the project come last. -/
  globalLast : ∃ ofFiles ofProject, b.recommendations = ofFiles ++ ofProject ∧
    (∀ r ∈ ofFiles, r.file.isSome = true) ∧ ∀ r ∈ ofProject, r.file = none

/-- The numbers of an analysis are taken from its counts and its issues. -/
theorem summary_congr {a b : Analysis} (hs : a.stats = b.stats) (hi : a.issues = b.issues) :
    a.summary = b.summary := by
  simp only [summary, byKind, bySeverity, countOf, issuesOf, hs, hi]

/-- No recommendation about the project is plain. -/
theorem filter_globalRecommendations (a : Analysis) :
    a.globalRecommendations.filter Recommendation.isPlain = [] := by
  rw [List.filter_eq_nil_iff]
  intro r hr
  simp [Recommendation.isPlain, file_of_mem_globalRecommendations hr]

/-- Every recommendation that the rules make is about a file. -/
theorem isSome_file_of_mem {read : List Subject} {rec : Recommendation}
    (h : rec ∈ read.flatMap fun s => (runRules s).recommendations) : rec.file.isSome = true := by
  obtain ⟨s, -, hrec⟩ := List.mem_flatMap.1 h
  rw [file_of_mem_recommendations_runRules hrec]
  rfl

section Accounts

variable (table table' : Table) (time time' base : String) (found : Nat) (read : List Subject)

theorem stats_account_modes :
    (account ⟨false, table, time⟩ base found read).stats =
      (account ⟨true, table', time'⟩ base found (read.map Subject.toExtended)).stats := by
  simp only [account, List.length_map, List.filter_map, isDirty_comp_toExtended]

theorem issues_account_modes :
    (account ⟨false, table, time⟩ base found read).issues =
      (account ⟨true, table', time'⟩ base found (read.map Subject.toExtended)).issues := by
  simp only [account, List.flatMap_map, issues_toExtended]

variable {read}

theorem recommendations_account_modes (hread : ∀ s ∈ read, s.extended = false) :
    (account ⟨false, table, time⟩ base found read).recommendations =
      (account ⟨true, table', time'⟩ base found
        (read.map Subject.toExtended)).recommendations.filter Recommendation.isPlain := by
  have hmap : ∀ s ∈ read, (runRules s).recommendations =
      (runRules s.toExtended).recommendations.filter Recommendation.isPlain := fun s hs =>
    recommendations_of_plain (hread s hs)
  simp only [account, if_true, if_false, List.append_nil, List.filter_append,
    filter_globalRecommendations, List.flatMap_map, List.filter_flatMap, Bool.false_eq_true]
  rw [List.flatMap_def, List.flatMap_def, List.map_congr_left hmap]

/-- **The accounts of one project in both modes.** -/
theorem plainOf_account (hread : ∀ s ∈ read, s.extended = false) :
    PlainOf (account ⟨false, table, time⟩ base found read)
      (account ⟨true, table', time'⟩ base found (read.map Subject.toExtended)) := by
  have hstats := stats_account_modes table table' time time' base found read
  have hissues := issues_account_modes table table' time time' base found read
  refine ⟨hstats, ?_, hissues, by rw [dirtyFiles, hissues, dirtyFiles],
    summary_congr hstats hissues, recommendations_account_modes _ _ _ _ _ _ hread, ?_⟩
  · simp only [account, List.map_map]
    rfl
  · exact ⟨_, _, rfl, fun r hr => isSome_file_of_mem hr,
      fun r hr => file_of_mem_globalRecommendations hr⟩

end Accounts

end Analysis

/-- **The two modes agree.**  Either the path of the project cannot be resolved in either mode, or
both give an analysis and the plain one is the plain part of the extended one. -/
theorem scan_modes (table table' : Table) (time time' : String) (t : FileTree) (start : Path) :
    (∃ f, scan ⟨false, table, time⟩ t start = .error f ∧
      scan ⟨true, table', time'⟩ t start = .error f) ∨
    ∃ a log b log', scan ⟨false, table, time⟩ t start = .ok (a, log) ∧
      scan ⟨true, table', time'⟩ t start = .ok (b, log') ∧ a.PlainOf b := by
  cases h : t.resolve start with
  | error f => exact .inl ⟨f, scan_of_resolve_error _ h, scan_of_resolve_error _ h⟩
  | ok base =>
    obtain ⟨log, ha⟩ := scan_of_resolve_ok ⟨false, table, time⟩ h
    obtain ⟨log', hb⟩ := scan_of_resolve_ok ⟨true, table', time'⟩ h
    refine .inr ⟨_, log, _, log', ha, hb, ?_⟩
    rw [FileTree.readFiles_extended]
    exact Analysis.plainOf_account _ _ _ _ _ _ fun s hs => FileTree.extended_of_mem_readFiles hs

end RouteAudit
