import RouteAudit.Pattern.Basic

/-!
# The patterns that the rules look for

Everything is matched as text: a word inside a comment or a string counts like any other.
-/

set_option autoImplicit false

namespace RouteAudit
namespace Catalog

/-- The hook that keeps a value between renders. -/
def useMemo : Pattern := .lit "useMemo"

/-- The hook that keeps a function between renders. -/
def useCallback : Pattern := .lit "useCallback"

/-- The component that intercepts navigation. -/
def blockedNavigation : Pattern := .lit "BlockedNavigation"

/-- The context that tracks navigation. -/
def activityContext : Pattern := .lit "ActivityContext"

/-- The wrapper that loads a module. -/
def asyncWrapper : Pattern := .lit "AsyncWrapper"

/-- The shell's hook for module paths. -/
def modulePathResolver : Pattern := .lit "useModulePathResolver"

/-- An array of routes that is mapped over. -/
def routesMap : Pattern := .lit "routes.map"

/-- An array of routes that is mapped over, with the path and the component taken apart in the
argument of the function. -/
def routesDestructured : Pattern :=
  [[.lit "routes.map".toList, .blanks, .lit ['('], .blanks, .lit ['('], .blanks, .lit ['{'],
    .blanks, .lit "path".toList, .blanks, .lit [','], .blanks, .lit "Component".toList, .blanks,
    .lit ['}'], .blanks, .lit [')']]]

/-- A query client that is named behind `new`. -/
def newQueryClient : Pattern := [[.lit "new".toList, .gap, .lit "QueryClient".toList]]

/-- A query client that is created. -/
def newQueryClientCall : Pattern :=
  [[.lit "new".toList, .gap, .lit "QueryClient".toList, .blanks, .lit ['(']]]

/-- A context that is made, read or provided. -/
def contextMarker : Pattern := .anyOf ["createContext", "useContext", ".Provider"]

/-- The opening tag of the routes. -/
def routesTag : Pattern := .lit "<Routes>"

/-- A call that goes over a collection. -/
def iterationCall : Pattern := .anyOf [".map(", ".filter(", ".reduce(", ".forEach("]

/-- Use of the router. -/
def routerUsage : Pattern := .anyOf ["react-router", "useNavigate", "useLocation"]

/-- Use of the shell. -/
def shellUsage : Pattern := .anyOf ["Shell", "AsyncWrapper", "useModulePathResolver"]

/-- A function or class that is exported, or a constant that is bound to something in
parentheses. -/
def componentDeclaration : Pattern :=
  [[.lit "export".toList, .gap, .lit "default".toList, .gap, .lit "function".toList],
    [.lit "export".toList, .gap, .lit "function".toList],
    [.lit "export".toList, .gap, .lit "default".toList, .gap, .lit "class".toList],
    [.lit "export".toList, .gap, .lit "class".toList],
    [.lit "const".toList, .gap, .word, .blanks, .lit ['='], .blanks, .lit ['(']]]

/-- Texts that do not belong in production code, each with what to say about it. -/
def smells : List (Pattern × String) :=
  [(.lit "console.log", "Console statements found - remove for production"),
    (.lit "debugger", "Debugger statements found - remove for production"),
    (.lit "JSON.parse(JSON.stringify", "Deep cloning with JSON methods - consider alternatives")]

end Catalog
end RouteAudit
