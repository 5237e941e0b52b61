import RouteAudit.Finding
import RouteAudit.Pattern.Catalog
import RouteAudit.Pattern.Imports
import RouteAudit.Text.Lower

/-!
# Route files

A route file is a script whose name speaks of routes.  `isRouteFile` decides that from the name
alone.  `RouteSummary` describes the structure of a route file, taken from its text and not from
what the rules found, and `Diagnosis` says which causes of remounting the summary shows.
-/

set_option autoImplicit false

namespace RouteAudit

/-! ## Names -/

/-- Whether `s` ends with `t`. -/
def endsWith (s t : List Char) : Bool := (afterLit t.reverse s.reverse).isSome

/-- **Ending with a text.** -/
theorem endsWith_iff {s t : List Char} : endsWith s t = true ↔ ∃ u, s = u ++ t := by
  simp only [endsWith, Option.isSome_iff_exists, afterLit_eq_some_iff]
  constructor
  · rintro ⟨r, hr⟩
    exact ⟨r.reverse, by simpa using congrArg List.reverse hr⟩
  · rintro ⟨u, rfl⟩
    exact ⟨u.reverse, by simp⟩

/-- Whether `route` is in the name, in any mix of cases. -/
def saysRoute (name : List Char) : Bool := (Pattern.lit "route").occurs (name.map Text.foldChar)

/-- Whether the name is that of a routes module. -/
def isRoutesModule (name : List Char) : Bool :=
  endsWith name "Routes.ts".toList || endsWith name "Routes.tsx".toList

/-- Whether the name speaks of routes: it has `route` in it, or it is that of a routes module. -/
def namedLikeRoute (name : List Char) : Bool := saysRoute name || isRoutesModule name

/-- The extensions of scripts. -/
def scriptExtensions : List String := [".ts", ".tsx", ".js", ".jsx"]

/-- Whether the name is that of a script. -/
def isScript (name : List Char) : Bool := scriptExtensions.any fun e => endsWith name e.toList

/-- Whether a file with this name is a route file. -/
def isRouteFile (name : String) : Bool := namedLikeRoute name.toList && isScript name.toList

/-- Directories whose files are not the project's own. -/
def skippedDirectories : List String :=
  ["node_modules", ".git", "dist", "build", "coverage", ".next"]

/-- Whether a directory with this name is left out. -/
def isSkipped (name : String) : Bool := skippedDirectories.contains name

/-! ## Summaries -/

/-- The structure of a route file. -/
structure RouteSummary where
  /-- The file, as shown in a report. -/
  file : String
  hasActivityContext : Bool := false
  hasBlockedNavigation : Bool := false
  hasMultipleQueryClients : Bool := false
  hasUnmemoizedRoutes : Bool := false
  hasReactRouter : Bool := false
  hasShellComponents : Bool := false
  /-- How many components the file declares. -/
  componentCount : Int := 0
  /-- The modules that the file imports, in order. -/
  imports : List String := []
  deriving DecidableEq, Repr

/-- The summary of a route file. -/
def summarize (content : List Char) (file : String) : RouteSummary where
  file := file
  hasActivityContext := Catalog.activityContext.occurs content
  hasBlockedNavigation := Catalog.blockedNavigation.occurs content
  hasMultipleQueryClients := 1 < Catalog.newQueryClient.count content
  hasUnmemoizedRoutes := Catalog.routesMap.occurs content && !Catalog.useMemo.occurs content
  hasReactRouter := Catalog.routerUsage.occurs content
  hasShellComponents := Catalog.shellUsage.occurs content
  componentCount := Catalog.componentDeclaration.count content
  imports := (imports content).map String.ofList

/-! ## Diagnosis -/

/-- The causes of remounting in one route file, each with what to do about it. -/
structure Diagnosis where
  /-- The file, as shown in a report. -/
  file : String
  /-- The causes, each paired with its remedy. -/
  causes : List (String × String) := []
  /-- How bad it is. -/
  severity : Severity := .low
  deriving DecidableEq, Repr

namespace Diagnosis

/-- What is wrong. -/
def problems (d : Diagnosis) : List String := d.causes.map Prod.fst

/-- What to do, one remedy for each problem. -/
def remedies (d : Diagnosis) : List String := d.causes.map Prod.snd

end Diagnosis

/-- The causes that a summary shows.  Several query clients make a file bad and routes that are not
memoized make it middling; the second has the last word when both hold. -/
def diagnose (s : RouteSummary) : Diagnosis where
  file := s.file
  causes :=
    (if s.hasActivityContext then
      [("ActivityContext tracking navigation changes",
        "Move ActivityContext below module routing level")] else [])
    ++ (if s.hasBlockedNavigation then
      [("BlockedNavigation intercepting navigation",
        "Check BlockedNavigation placement and when conditions")] else [])
    ++ (if s.hasMultipleQueryClients then
      [("Multiple QueryClient instances detected",
        "Share single QueryClient instance across routes")] else [])
    ++ (if s.hasUnmemoizedRoutes then
      [("Route array recreated on each render",
        "Wrap routes in useMemo with stable dependencies")] else [])
  severity :=
    if s.hasUnmemoizedRoutes then .medium
    else if s.hasMultipleQueryClients then .high
    else .low

end RouteAudit
