import RouteAudit.Proofs.Rule.Findings
import RouteAudit.Proofs.Scan.Account

/-!
# An analysis under any calls

A scan takes in the files of one walk, each once, and completes the analysis at the end.  Nothing
keeps a caller from doing otherwise: from taking in a file again, or one that lies elsewhere, from
completing an analysis in between, or twice.  The files may change meanwhile.  Here is what holds of
an analysis all the same, after every call.

## What is here

* `Call`, `Analysis.call`, `Analysis.calls` — one call, and calls one behind the other;
* `Analysis.Balanced` — the counts of an analysis fit its lists, and whatever it says about a file
  is about a file in its list;
* `Analysis.Follows` — what one call may change;
* `Balanced.call`, `follows_call` — one step, and `calls_balanced`, the whole run.
-/

set_option autoImplicit false

namespace RouteAudit

/-- Something that is done to an analysis. -/
inductive Call where
  /-- The file at a path is taken in, from the files as they are by then. -/
  | file (t : FileTree) (p : Path)
  /-- The analysis is completed with a table. -/
  | complete (table : Table)

namespace Analysis

/-- An analysis after a call. -/
def call (a : Analysis) : Call → Analysis
  | .file t p => (a.takeFile t p).1
  | .complete table => a.finalize table

/-- An analysis after calls, one behind the other. -/
def calls (a : Analysis) (cs : List Call) : Analysis := cs.foldl call a

/-- An analysis that has taken in nothing yet. -/
def fresh (basePath : String) (extended : Bool) (timestamp : String) : Analysis :=
  { basePath, extended, timestamp }

/-- The counts of an analysis fit its lists. -/
structure Balanced (a : Analysis) : Prop where
  analyzed : a.stats.analyzed = a.files.length
  withIssues_le : a.stats.withIssues ≤ a.stats.analyzed
  /-- A file that was taken in twice counts twice, and is named once. -/
  dirty_le : a.dirtyFiles.length ≤ a.stats.withIssues
  issues : ∀ i ∈ a.issues, i.file ∈ a.files
  recommendations : ∀ r ∈ a.recommendations, ∀ f, r.file = some f → f ∈ a.files
  /-- An extended analysis has one summary for each file, in the order of the files. -/
  summaries : a.extended = true →
    a.summaries.length = a.stats.analyzed ∧ a.summaries.map RouteSummary.file = a.files
  /-- Another one has neither summaries nor libraries. -/
  plain : a.extended = false → a.summaries = [] ∧ a.dependencies = []

/-- The analysis `b` is of the same project as `a`, and its lists begin with those of `a`. -/
structure ContinuedBy (a b : Analysis) : Prop where
  basePath : b.basePath = a.basePath
  extended : b.extended = a.extended
  timestamp : b.timestamp = a.timestamp
  issues : a.issues <+: b.issues
  recommendations : a.recommendations <+: b.recommendations
  files : a.files <+: b.files
  summaries : a.summaries <+: b.summaries

/-- The analysis `b` is what a call makes of `a`. -/
structure Follows (a : Analysis) (c : Call) (b : Analysis) : Prop where
  continued : a.ContinuedBy b
  /-- A file that can be read is taken in, and is not counted as found. -/
  taken : ∀ t p bytes, c = .file t p → t.read p = .ok bytes →
    b = a.grow 0 [{ content := Text.readText bytes, file := shownPath a.basePath p,
                    extended := a.extended }]
  /-- One that cannot be read leaves everything as it was. -/
  unread : ∀ t p f, c = .file t p → t.read p = .error f → b = a
  /-- Completing an extended analysis replaces its libraries and adds recommendations about the
  project as it is by then, and that is all. -/
  completed : ∀ table, c = .complete table → a.extended = true →
    b = { a with
      dependencies := table.detect a.summaries
      recommendations := a.recommendations ++ a.globalRecommendations }
  /-- There is nothing to complete in another one. -/
  kept : ∀ table, c = .complete table → a.extended = false → b = a

/-! ## One call -/

/-- Taking in a file adds it with all that is found in it, or changes nothing. -/
theorem call_file (a : Analysis) (t : FileTree) (p : Path) :
    (∃ content, a.call (.file t p) = a.addFile content (shownPath a.basePath p)) ∨
      a.call (.file t p) = a := by
  rw [call, takeFile]
  cases t.read p with
  | ok bytes => exact .inl ⟨_, rfl⟩
  | error f => exact .inr rfl

theorem finalize_of_extended {a : Analysis} (h : a.extended = true) (table : Table) :
    a.finalize table =
      { a with
        dependencies := table.detect a.summaries
        recommendations := a.recommendations ++ a.globalRecommendations } := by
  rw [finalize, if_pos h]

theorem finalize_of_plain {a : Analysis} (h : a.extended = false) (table : Table) :
    a.finalize table = a := by
  rw [finalize, h]
  rfl

/-- A list that names one file at most names it once when its repetitions are dropped. -/
theorem length_eraseDups_le_one {files : List String} (file : String)
    (h : ∀ f ∈ files, f = file) : files.eraseDups.length ≤ 1 := by
  cases files with
  | nil => exact Nat.zero_le 1
  | cons f rest =>
    have hrest : rest.filter (fun g => !g == f) = [] := by
      refine List.filter_eq_nil_iff.2 fun g hg => ?_
      have hgf : g = f := (h g (List.mem_cons_of_mem f hg)).trans (h f List.mem_cons_self).symm
      simp [hgf]
    rw [List.eraseDups_cons, hrest]
    exact Nat.le_refl 1

/-- One more file adds a name to those with issues only if it is counted as one of them. -/
theorem length_dirtyFiles_addFile (a : Analysis) (content : List Char) (file : String) :
    ((a.addFile content file).dirtyFiles.length : Int) - a.dirtyFiles.length ≤
      (a.addFile content file).stats.withIssues - a.stats.withIssues := by
  simp only [dirtyFiles, addFile, List.map_append, List.eraseDups_append, List.length_append]
  split
  · rename_i hnone
    rw [List.isEmpty_iff.1 hnone]
    simp [List.removeAll]
  · -- all its issues name this file, whichever of them are new
    have hnew : (((runRules { content, file, extended := a.extended }).issues.map
        Issue.file).removeAll (a.issues.map Issue.file)).eraseDups.length ≤ 1 := by
      refine length_eraseDups_le_one file fun f hf => ?_
      obtain ⟨i, hi, rfl⟩ := List.mem_map.1 (List.mem_filter.1 hf).1
      exact file_of_mem_issues_runRules hi
    omega

theorem Balanced.addFile {a : Analysis} (h : a.Balanced) (content : List Char) (file : String) :
    (a.addFile content file).Balanced where
  analyzed := by
    simp only [Analysis.addFile, List.length_append, List.length_singleton, h.analyzed]
    omega
  withIssues_le := by
    have hle := h.withIssues_le
    simp only [Analysis.addFile]
    split <;> omega
  dirty_le := by
    have hle := h.dirty_le
    have hmore := a.length_dirtyFiles_addFile content file
    omega
  issues i hi := by
    rw [files_addFile, List.mem_append, List.mem_singleton]
    rcases List.mem_append.1 hi with hi | hi
    · exact .inl (h.issues i hi)
    · exact .inr (file_of_mem_issues_runRules hi)
  recommendations r hr f hf := by
    rw [files_addFile, List.mem_append, List.mem_singleton]
    rcases List.mem_append.1 hr with hr | hr
    · exact .inl (h.recommendations r hr f hf)
    · rw [file_of_mem_recommendations_runRules hr] at hf
      exact .inr (Option.some.inj hf).symm
  summaries hx := by
    obtain ⟨hlength, hfiles⟩ := h.summaries hx
    have hx : a.extended = true := hx
    simp only [Analysis.addFile, hx, if_true, List.length_append, List.length_singleton,
      List.map_append, List.map_singleton, hfiles]
    exact ⟨by omega, rfl⟩
  plain hx := by
    have hx : a.extended = false := hx
    simp only [Analysis.addFile, hx, Bool.false_eq_true, if_false]
    exact h.plain hx

/-- Completing an analysis leaves its counts and files alone, and what it recommends is about no
file. -/
theorem Balanced.finalize {a : Analysis} (h : a.Balanced) (table : Table) :
    (a.finalize table).Balanced := by
  cases hx : a.extended with
  | false =>
    rw [finalize_of_plain hx]
    exact h
  | true =>
    rw [finalize_of_extended hx]
    refine ⟨h.analyzed, h.withIssues_le, h.dirty_le, h.issues, fun r hr f hf => ?_, h.summaries,
      fun hplain => ?_⟩
    · rcases List.mem_append.1 hr with hr | hr
      · exact h.recommendations r hr f hf
      · rw [file_of_mem_globalRecommendations hr] at hf
        cases hf
    · rw [hx] at hplain
      cases hplain

/-- **One call keeps the balance.** -/
theorem Balanced.call {a : Analysis} (h : a.Balanced) (c : Call) : (a.call c).Balanced := by
  cases c with
  | file t p =>
    rcases a.call_file t p with ⟨content, hadd⟩ | hsame
    · rw [hadd]
      exact h.addFile content _
    · rw [hsame]
      exact h
  | complete table => exact h.finalize table

theorem ContinuedBy.refl (a : Analysis) : a.ContinuedBy a :=
  ⟨rfl, rfl, rfl, List.prefix_rfl, List.prefix_rfl, List.prefix_rfl, List.prefix_rfl⟩

theorem continuedBy_addFile (a : Analysis) (content : List Char) (file : String) :
    a.ContinuedBy (a.addFile content file) := by
  refine ⟨rfl, rfl, rfl, List.prefix_append _ _, List.prefix_append _ _, List.prefix_append _ _, ?_⟩
  simp only [addFile]
  split
  · exact List.prefix_append _ _
  · exact List.prefix_rfl

theorem continuedBy_finalize (a : Analysis) (table : Table) :
    a.ContinuedBy (a.finalize table) := by
  cases hx : a.extended with
  | false =>
    rw [finalize_of_plain hx]
    exact .refl a
  | true =>
    rw [finalize_of_extended hx]
    exact ⟨rfl, rfl, rfl, List.prefix_rfl, List.prefix_append _ _, List.prefix_rfl,
      List.prefix_rfl⟩

/-- **One call** adds to the ends of lists, and to none of them if there is nothing to add. -/
theorem follows_call (a : Analysis) (c : Call) : a.Follows c (a.call c) := by
  cases c with
  | file t p =>
    refine ⟨?_, ?_, ?_, nofun, nofun⟩
    · rcases a.call_file t p with ⟨content, hadd⟩ | hsame
      · rw [hadd]
        exact a.continuedBy_addFile content _
      · rw [hsame]
        exact .refl a
    · rintro _ _ bytes ⟨⟩ hread
      rw [call, takeFile, hread]
      exact a.addFile_eq _ _
    · rintro _ _ f ⟨⟩ hread
      rw [call, takeFile, hread]
  | complete table =>
    refine ⟨a.continuedBy_finalize table, ?_, ?_, ?_, ?_⟩
    · rintro _ _ _ ⟨⟩
    · rintro _ _ _ ⟨⟩
    · rintro _ ⟨⟩ hx
      exact finalize_of_extended hx table
    · rintro _ ⟨⟩ hx
      exact finalize_of_plain hx table

/-! ## Calls one behind the other -/

theorem balanced_fresh (basePath : String) (extended : Bool) (timestamp : String) :
    (fresh basePath extended timestamp).Balanced :=
  ⟨rfl, Int.le_refl 0, Int.le_refl 0, by simp [fresh], by simp [fresh], fun _ => ⟨rfl, rfl⟩,
    fun _ => ⟨rfl, rfl⟩⟩

theorem calls_concat (a : Analysis) (cs : List Call) (c : Call) :
    a.calls (cs ++ [c]) = (a.calls cs).call c := by
  rw [calls, List.foldl_append]
  rfl

theorem Balanced.calls {a : Analysis} (h : a.Balanced) (cs : List Call) :
    (a.calls cs).Balanced :=
  List.foldlRecOn (motive := Balanced) cs Analysis.call h fun _ hb c _ => hb.call c

/-- **An analysis stays balanced**, whatever is done to it, in whatever order and however often, and
every call only continues what was there. -/
theorem calls_balanced (basePath : String) (extended : Bool) (timestamp : String)
    (cs : List Call) :
    ((fresh basePath extended timestamp).calls cs).Balanced ∧
      ∀ c, ((fresh basePath extended timestamp).calls cs).Follows c
        ((fresh basePath extended timestamp).calls (cs ++ [c])) := by
  refine ⟨(balanced_fresh basePath extended timestamp).calls cs, fun c => ?_⟩
  rw [calls_concat]
  exact follows_call _ c

end Analysis
end RouteAudit
