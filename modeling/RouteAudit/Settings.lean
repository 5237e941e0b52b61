import RouteAudit.FileTree.Path

/-!
# Settings

Where the debug report goes when nothing is said about it: to a place that the environment may name.
-/

set_option autoImplicit false

namespace RouteAudit

/-- The variable of the environment that names the place of the report. -/
def outputVariable : String := "ROUTELINT_OUTPUT"

/-- Where the report goes when the environment does not say. -/
def defaultOutput : Path := ⟨.here, ["docs", "index.html"]⟩

/-- Where the report goes, given the value of the variable.  An empty value counts for none. -/
def outputPath (setting : Option String) : Path :=
  match setting with
  | none => defaultOutput
  | some s => if s = "" then defaultOutput else Path.ofString s

end RouteAudit
