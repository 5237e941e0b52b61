/-!
# Findings

What a rule says about a file: an `Issue`, which names something that can make a route component
remount, and a `Recommendation`, which says what to do about it.  A recommendation may also be
about the whole project, and then it names no file.
-/

set_option autoImplicit false

namespace RouteAudit

/-- How bad an issue is. -/
inductive Severity where
  | high
  | medium
  | low
  deriving DecidableEq, Repr, Inhabited

namespace Severity

/-- The severities, worst first. -/
def all : List Severity := [.high, .medium, .low]

/-- The name of a severity in a report. -/
def name : Severity → String
  | .high => "high"
  | .medium => "medium"
  | .low => "low"

/-- The severity of a name. -/
def ofName? (s : String) : Option Severity := all.find? (·.name == s)

/-- Every severity is in the list of all of them. -/
theorem mem_all (s : Severity) : s ∈ all := by cases s <;> simp [all]

/-- A severity is found by its name. -/
@[simp] theorem ofName?_name (s : Severity) : ofName? s.name = some s := by cases s <;> rfl

end Severity

/-- The kinds of issue. -/
inductive IssueKind where
  | dynamicRoutes
  | queryClient
  | contextPlacement
  | blockedNavigation
  | activityContext
  | missingMemo
  | asyncWrappers
  | shellHooks
  | performance
  deriving DecidableEq, Repr, Inhabited

namespace IssueKind

/-- The kinds, in the order in which the rules look for them. -/
def all : List IssueKind :=
  [.dynamicRoutes, .queryClient, .contextPlacement, .blockedNavigation, .activityContext,
    .missingMemo, .asyncWrappers, .shellHooks, .performance]

/-- The name of a kind in a report. -/
def name : IssueKind → String
  | .dynamicRoutes => "dynamic-route-generation"
  | .queryClient => "query-client-creation"
  | .contextPlacement => "context-placement"
  | .blockedNavigation => "blocked-navigation"
  | .activityContext => "activity-context"
  | .missingMemo => "missing-memoization"
  | .asyncWrappers => "multiple-async-wrappers"
  | .shellHooks => "unmemoized-shell-hooks"
  | .performance => "performance-issue"

/-- The kind of a name. -/
def ofName? (s : String) : Option IssueKind := all.find? (·.name == s)

/-- A kind is found by its name. -/
@[simp] theorem ofName?_name (k : IssueKind) : ofName? k.name = some k := by cases k <;> decide

end IssueKind

/-- Something in one file that can make a route component remount. -/
structure Issue where
  /-- What it is. -/
  kind : IssueKind
  /-- How bad it is. -/
  severity : Severity
  /-- The file, as shown in a report. -/
  file : String
  /-- A sentence about it. -/
  message : String
  /-- The text that gave it away. -/
  pattern : Option String := none
  /-- How many times it was seen. -/
  count : Option Int := none
  /-- How to mend it. -/
  fix : Option String := none
  deriving DecidableEq, Repr

/-- What to do, in one file or in the whole project. -/
structure Recommendation where
  /-- What to do. -/
  message : String
  /-- The file it is about; none for the whole project. -/
  file : Option String := none
  /-- How soon. -/
  priority : Option Severity := none
  /-- A first step. -/
  action : Option String := none
  deriving DecidableEq, Repr

/-- What the rules found in one file. -/
structure Findings where
  /-- The issues, in the order of the rules. -/
  issues : List Issue := []
  /-- The recommendations, in the order of the rules. -/
  recommendations : List Recommendation := []
  deriving DecidableEq, Repr

namespace Findings

/-- Findings one behind the other. -/
def append (a b : Findings) : Findings :=
  ⟨a.issues ++ b.issues, a.recommendations ++ b.recommendations⟩

instance : Append Findings := ⟨append⟩

@[simp] theorem issues_append (a b : Findings) : (a ++ b).issues = a.issues ++ b.issues := rfl

@[simp] theorem recommendations_append (a b : Findings) :
    (a ++ b).recommendations = a.recommendations ++ b.recommendations := rfl

end Findings
end RouteAudit
