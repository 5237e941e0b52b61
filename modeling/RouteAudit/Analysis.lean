import RouteAudit.Dependency
import RouteAudit.Rule
import RouteAudit.Tally

/-!
# Analyses

An `Analysis` collects what the rules find in the files of a project, file after file.  An extended
one, made for the debug report, also keeps a summary of each file, and `finalize` adds to it the
libraries in use and what to do about the project as a whole.

* `Analysis.addFile` — takes in one file;
* `Analysis.byKind`, `Analysis.bySeverity`, `Analysis.dirtyFiles` — views of its issues;
* `Analysis.globalRecommendations`, `Analysis.finalize`;
* `Analysis.json` — the whole of it as a report.
-/

set_option autoImplicit false

namespace RouteAudit

/-- How many files there were. -/
structure Stats where
  /-- Files that were found. -/
  total : Int := 0
  /-- Files that could be read. -/
  analyzed : Int := 0
  /-- Files in which a rule found an issue. -/
  withIssues : Int := 0
  deriving DecidableEq, Repr

/-- What was found in a project. -/
structure Analysis where
  /-- The directory of the project. -/
  basePath : String
  /-- Whether the debug report is to be made from it. -/
  extended : Bool := false
  stats : Stats := {}
  issues : List Issue := []
  recommendations : List Recommendation := []
  dependencies : List Dependency := []
  summaries : List RouteSummary := []
  /-- The files that could be read, as shown in a report. -/
  files : List String := []
  /-- When the analysis was made. -/
  timestamp : String

namespace Analysis

/-! ## Views of the issues -/

/-- How many issues there are of each kind, in the order in which the kinds come up. -/
def byKind (a : Analysis) : List (IssueKind × Nat) := tally (a.issues.map Issue.kind)

/-- The issues of a severity. -/
def issuesOf (a : Analysis) (s : Severity) : List Issue := a.issues.filter (·.severity = s)

/-- How many issues there are of a severity. -/
def countOf (a : Analysis) (s : Severity) : Nat := (a.issuesOf s).length

/-- How many issues there are of each severity. -/
def bySeverity (a : Analysis) : List (Severity × Nat) :=
  Severity.all.map fun s => (s, a.countOf s)

/-- The files with an issue, each once, in the order in which they come up. -/
def dirtyFiles (a : Analysis) : List String := (a.issues.map Issue.file).eraseDups

/-- The counts by kind are those of the issues. -/
theorem countIn_byKind (a : Analysis) (k : IssueKind) :
    countIn k a.byKind = (a.issues.map Issue.kind).count k := countIn_tally k _

/-! ## Building an analysis -/

/-- Takes in one file that could be read. -/
def addFile (a : Analysis) (content : List Char) (file : String) : Analysis :=
  let found := runRules { content, file, extended := a.extended }
  { a with
    stats :=
      { a.stats with
        analyzed := a.stats.analyzed + 1
        withIssues := a.stats.withIssues + (if found.issues.isEmpty then 0 else 1) }
    files := a.files ++ [file]
    issues := a.issues ++ found.issues
    recommendations := a.recommendations ++ found.recommendations
    summaries := if a.extended then a.summaries ++ [summarize content file] else a.summaries }

/-- Every file that is taken in is listed. -/
theorem files_addFile (a : Analysis) (content : List Char) (file : String) :
    (a.addFile content file).files = a.files ++ [file] := rfl

/-- More medium issues than this call for a new structure. -/
def mediumThreshold : Nat := 3

/-- More route files than this are many. -/
def fileThreshold : Nat := 10

/-- More files than this with routes that are not memoized are many. -/
def unmemoizedThreshold : Nat := 5

/-- What to do about the project as a whole. -/
def globalRecommendations (a : Analysis) : List Recommendation :=
  (if 0 < a.countOf .high then
    [{ message := "Address high-severity issues immediately to prevent route unmounting"
       priority := some .high
       action := some "Review dynamic route generation and context placement patterns" }]
  else [])
  ++ (if mediumThreshold < a.countOf .medium then
    [{ message := "Multiple medium-severity issues detected"
       priority := some .medium
       action := some "Consider refactoring route structure for better stability" }]
  else [])
  ++ (if fileThreshold < a.summaries.length
      ∧ unmemoizedThreshold < (a.summaries.filter (·.hasUnmemoizedRoutes)).length then
    [{ message := "Large number of unmemoized routes detected"
       priority := some .medium
       action := some "Implement useMemo wrapping for route arrays across the application" }]
  else [])

/-- No recommendation about the whole project names a file. -/
theorem file_of_mem_globalRecommendations {a : Analysis} {r : Recommendation}
    (h : r ∈ a.globalRecommendations) : r.file = none := by
  simp only [globalRecommendations, List.mem_append] at h
  rcases h with (h | h) | h <;> split at h <;> simp at h <;> simp [h]

/-- Completes an extended analysis once every file has been taken in. -/
def finalize (a : Analysis) (table : Table) : Analysis :=
  if a.extended then
    { a with
      dependencies := table.detect a.summaries
      recommendations := a.recommendations ++ a.globalRecommendations }
  else a

end Analysis

/-! ## Reports as data -/

/-- A member that is left out when there is nothing to say. -/
def optionalMember {α : Type} (key : String) (f : α → Json) : Option α → List (String × Json)
  | some a => [(key, f a)]
  | none => []

/-- An issue in a report. -/
def Issue.json (i : Issue) : Json :=
  .obj ([("type", .str i.kind.name), ("severity", .str i.severity.name), ("file", .str i.file),
      ("message", .str i.message)]
    ++ optionalMember "pattern" .str i.pattern ++ optionalMember "count" .int i.count
    ++ optionalMember "fix" .str i.fix)

/-- A recommendation in a report. -/
def Recommendation.json (r : Recommendation) : Json :=
  .obj (optionalMember "file" .str r.file
    ++ optionalMember "priority" (fun s : Severity => .str s.name) r.priority
    ++ [("message", .str r.message)] ++ optionalMember "action" .str r.action)

/-- A summary in a report. -/
def RouteSummary.json (s : RouteSummary) : Json :=
  .obj [("file", .str s.file), ("hasActivityContext", .bool s.hasActivityContext),
    ("hasBlockedNavigation", .bool s.hasBlockedNavigation),
    ("hasMultipleQueryClients", .bool s.hasMultipleQueryClients),
    ("hasUnmemoizedRoutes", .bool s.hasUnmemoizedRoutes),
    ("hasReactRouter", .bool s.hasReactRouter),
    ("hasShellComponents", .bool s.hasShellComponents), ("componentCount", .int s.componentCount),
    ("imports", .arr (s.imports.map .str))]

namespace Analysis

/-- The numbers of an analysis. -/
def summary (a : Analysis) : Json :=
  .obj [("filesAnalyzed", .int a.stats.analyzed), ("filesWithIssues", .int a.stats.withIssues),
    ("totalIssues", .int a.issues.length),
    ("issuesByType", .obj (a.byKind.map fun e => (e.1.name, .int e.2))),
    ("issuesBySeverity", .obj (a.bySeverity.map fun e => (e.1.name, .int e.2)))]

/-- The issues of an analysis in a report. -/
def issuesJson (a : Analysis) : Json := .arr (a.issues.map Issue.json)

/-- The recommendations of an analysis in a report. -/
def recommendationsJson (a : Analysis) : Json := .arr (a.recommendations.map Recommendation.json)

/-- The summaries of an analysis in a report. -/
def summariesJson (a : Analysis) : Json := .arr (a.summaries.map RouteSummary.json)

/-- The whole of an analysis as a report. -/
def json (a : Analysis) : Except Yaml.ReportFault Json := do
  let extra ←
    if a.extended then do
      let dependencies ← Dependency.jsonByName a.dependencies
      pure [("dependencies", dependencies), ("routeConfigs", a.summariesJson)]
    else pure []
  return .obj ([("summary", a.summary), ("issues", a.issuesJson),
      ("recommendations", a.recommendationsJson)]
    ++ extra ++ [("timestamp", .str a.timestamp), ("basePath", .str a.basePath)])

/-- The report of an analysis as text. -/
def jsonText (a : Analysis) : Except Yaml.ReportFault String := a.json.map Json.pretty

/-- The data that a page carries. -/
def debugData (a : Analysis) : Except Yaml.ReportFault Json := do
  let dependencies ← if a.extended then Dependency.jsonByName a.dependencies else pure (.obj [])
  return .obj [("issues", a.issuesJson), ("recommendations", a.recommendationsJson),
    ("dependencies", dependencies),
    ("routeConfigs", if a.extended then a.summariesJson else .arr []), ("summary", a.summary)]

end Analysis
end RouteAudit
