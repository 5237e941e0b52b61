import RouteAudit.Finding
import RouteAudit.Pattern.Catalog

/-!
# Rules

A rule looks at the text of one file and says what it finds.  No rule knows of the others, so a
file can collect findings from all of them, and `runRules` puts them one behind the other in the
order of `Rule.all`.  The *extended* mode, which the debug report uses, adds one recommendation that
the plain analysis leaves out.
-/

set_option autoImplicit false

namespace RouteAudit

/-- The rules. -/
inductive Rule where
  | dynamicRoutes
  | queryClient
  | contextPlacement
  | blockedNavigation
  | activityContext
  | memoization
  | asyncWrapper
  | shellHooks
  | performance
  deriving DecidableEq, Repr

/-- The file a rule looks at, and how. -/
structure Subject where
  /-- The text of the file. -/
  content : List Char
  /-- The file, as shown in a report. -/
  file : String
  /-- Whether to say everything there is to say. -/
  extended : Bool := false

namespace Rule

/-- The rules, in the order in which their findings are reported. -/
def all : List Rule :=
  [.dynamicRoutes, .queryClient, .contextPlacement, .blockedNavigation, .activityContext,
    .memoization, .asyncWrapper, .shellHooks, .performance]

/-- Every rule is in the list of all of them. -/
theorem mem_all (r : Rule) : r ∈ all := by cases r <;> simp [all]

/-- The kind of issue that a rule reports. -/
def kind : Rule → IssueKind
  | .dynamicRoutes => .dynamicRoutes
  | .queryClient => .queryClient
  | .contextPlacement => .contextPlacement
  | .blockedNavigation => .blockedNavigation
  | .activityContext => .activityContext
  | .memoization => .missingMemo
  | .asyncWrapper => .asyncWrappers
  | .shellHooks => .shellHooks
  | .performance => .performance

/-- How bad the issues of a rule are. -/
def severity : Rule → Severity
  | .dynamicRoutes => .high
  | .queryClient => .medium
  | .contextPlacement => .high
  | .blockedNavigation => .medium
  | .activityContext => .medium
  | .memoization => .low
  | .asyncWrapper => .medium
  | .shellHooks => .medium
  | .performance => .low

/-- What to do about the issues of a rule. -/
def fix : Rule → String
  | .dynamicRoutes => "Wrap routes array in useMemo to prevent recreation"
  | .queryClient => "Move QueryClient creation to module level or share instance"
  | .contextPlacement => "Move context provider below shell routing but above module routes"
  | .blockedNavigation => "Review BlockedNavigation placement and when conditions"
  | .activityContext => "Review ActivityContext usage for potential navigation interference"
  | .memoization => "Consider memoizing expensive calculations with useMemo/useCallback"
  | .asyncWrapper => "Consolidate AsyncWrapper usage to prevent conflicts"
  | .shellHooks => "Wrap shell hooks with useMemo/useCallback for stability"
  | .performance => "Optimize performance by addressing this pattern"

/-- An issue of the rule in the file. -/
def issue (r : Rule) (s : Subject) (message : String) : Issue where
  kind := r.kind
  severity := r.severity
  file := s.file
  message := message
  fix := some r.fix

/-- The recommendation to mend the rule's issues in the file. -/
def recommendation (r : Rule) (s : Subject) : Recommendation where
  message := r.fix
  file := some s.file

/-- Findings of one issue, with its recommendation if that is wanted. -/
def report (r : Rule) (s : Subject) (i : Issue) (recommended : Bool) : Findings where
  issues := [i]
  recommendations := if recommended then [r.recommendation s] else []

/-- Routes that are made by mapping over an array.  The issue shows the text that does it. -/
def checkDynamicRoutes (s : Subject) : Findings :=
  match Catalog.routesDestructured.find? s.content with
  | none => {}
  | some hit =>
    let i := Rule.dynamicRoutes.issue s "Dynamic route generation detected - may cause unmounts"
    Rule.dynamicRoutes.report s { i with pattern := some (String.ofList hit.text) }
      !(Catalog.useMemo.occurs s.content)

/-- Query clients that are created in the file. -/
def checkQueryClient (s : Subject) : Findings :=
  match Catalog.newQueryClientCall.count s.content with
  | 0 => {}
  | n + 1 =>
    let i := Rule.queryClient.issue s "QueryClient created in route file - may cause state loss"
    Rule.queryClient.report s { i with count := some (n + 1 : Nat) } true

/-- A context whose first mention comes before the first opening tag of the routes. -/
def checkContextPlacement (s : Subject) : Findings :=
  match Catalog.contextMarker.find? s.content, Catalog.routesTag.find? s.content with
  | some context, some routes =>
    if context.before.length < routes.before.length then
      Rule.contextPlacement.report s
        (Rule.contextPlacement.issue s
          "Context may be placed above Routes - could cause unmounts") true
    else {}
  | _, _ => {}

/-- The component that intercepts navigation. -/
def checkBlockedNavigation (s : Subject) : Findings :=
  if Catalog.blockedNavigation.occurs s.content then
    Rule.blockedNavigation.report s
      (Rule.blockedNavigation.issue s
        "BlockedNavigation component found - may interfere with routing") true
  else {}

/-- The context that tracks navigation. -/
def checkActivityContext (s : Subject) : Findings :=
  if Catalog.activityContext.occurs s.content then
    Rule.activityContext.report s
      (Rule.activityContext.issue s "ActivityContext found - may track navigation changes") true
  else {}

/-- Calls that go over a collection in a file that keeps nothing between renders. -/
def checkMemoization (s : Subject) : Findings :=
  if Catalog.iterationCall.occurs s.content
      && !(Catalog.useMemo.occurs s.content || Catalog.useCallback.occurs s.content) then
    Rule.memoization.report s
      (Rule.memoization.issue s "Expensive calculations detected without memoization") true
  else {}

/-- More than one mention of the wrapper.  Only the extended mode recommends anything. -/
def checkAsyncWrapper (s : Subject) : Findings :=
  let n := Catalog.asyncWrapper.count s.content
  if n ≤ 1 then {}
  else
    let i := Rule.asyncWrapper.issue s "Multiple AsyncWrapper instances detected"
    Rule.asyncWrapper.report s { i with count := some n } s.extended

/-- The shell's hook in a file that does not use both memoization hooks. -/
def checkShellHooks (s : Subject) : Findings :=
  if Catalog.modulePathResolver.occurs s.content
      && !(Catalog.useMemo.occurs s.content && Catalog.useCallback.occurs s.content) then
    Rule.shellHooks.report s
      (Rule.shellHooks.issue s "Shell hooks used without proper memoization") false
  else {}

/-- One issue for each smell that is present. -/
def checkPerformance (s : Subject) : Findings where
  issues := (Catalog.smells.filter fun smell => smell.1.occurs s.content).map fun smell =>
    Rule.performance.issue s smell.2

/-- What a rule finds in a file. -/
def check : Rule → Subject → Findings
  | .dynamicRoutes => checkDynamicRoutes
  | .queryClient => checkQueryClient
  | .contextPlacement => checkContextPlacement
  | .blockedNavigation => checkBlockedNavigation
  | .activityContext => checkActivityContext
  | .memoization => checkMemoization
  | .asyncWrapper => checkAsyncWrapper
  | .shellHooks => checkShellHooks
  | .performance => checkPerformance

end Rule

/-- What all rules find in a file, in the order of the rules. -/
def runRules (s : Subject) : Findings :=
  Rule.all.foldr (fun r rest => r.check s ++ rest) {}

/-- The issues of a file are the issues of the rules, one behind the other. -/
theorem issues_runRules (s : Subject) :
    (runRules s).issues = Rule.all.flatMap fun r => (r.check s).issues := by
  simp [runRules, Rule.all]

/-- The recommendations of a file are those of the rules, one behind the other. -/
theorem recommendations_runRules (s : Subject) :
    (runRules s).recommendations = Rule.all.flatMap fun r => (r.check s).recommendations := by
  simp [runRules, Rule.all]

end RouteAudit
