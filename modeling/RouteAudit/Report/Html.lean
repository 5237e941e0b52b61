import RouteAudit.Analysis
import RouteAudit.Report.Monitor
import RouteAudit.Report.Page
import RouteAudit.Report.Style

/-!
# The debug report

A page with everything that an analysis found, in tabs, with the data behind it for the page's own
script.  `page` puts it together; it fails only when a library's fields cannot be shown or have no
form in JSON.
-/

set_option autoImplicit false

namespace RouteAudit
namespace Report

/-- The sign of a severity. -/
def severitySign : Severity → String
  | .high => "❌"
  | .medium => "⚠️"
  | .low => "ℹ️"

/-- Parts that are left out for no text and for the empty one. -/
def whenGiven (s : Option String) (f : String → Page) : Page :=
  match s with
  | some t => if t = "" then [] else f t
  | none => []

/-- One block for each item, or one in their place when there is none. -/
def blocks {α : Type} (items : List α) (block : α → Page) (otherwise : Fragment) : Page :=
  if items.isEmpty then [otherwise] else items.flatMap block

/-- The head of a page. -/
def pageHead : Page := [
  line "<!DOCTYPE html>",
  line "<html lang=\"en\">",
  line "<head>",
  line "    <meta charset=\"UTF-8\">",
  line "    <meta name=\"viewport\" content=\"width=device-width, initial-scale=1.0\">",
  line "    <title>Route Debugger Report</title>",
  line "    <style>",
  .markup styleSheet,
  line "    </style>",
  line "</head>"]

/-- A card with a number. -/
def card (n : Int) (caption : String) : Page := [
  .markup "            <div class=\"summary-card\"><h3>",
  .text (toString n),
  line ("</h3><p>" ++ caption ++ "</p></div>")]

/-- The top of a page: when and of what it was made, and the numbers. -/
def overview (a : Analysis) (generated : String) : Page :=
  [line "    <div class=\"container\">",
    line "        <h1>🔧 Route Debugger Report</h1>",
    .markup "        <p><strong>Generated:</strong> ", .text generated, line "</p>",
    .markup "        <p><strong>Analyzed Path:</strong> <code>", .text a.basePath,
    line "</code></p>",
    line "        <div class=\"summary-grid\">"]
  ++ card a.stats.analyzed "Files Analyzed"
  ++ card a.issues.length "Total Issues"
  ++ card a.stats.withIssues "Files with Issues"
  ++ card (a.countOf .high) "High Severity"
  ++ [line "        </div>", line "    </div>", line ""]

/-- The tabs of a page. -/
def tabs : Page := [
  line "    <div class=\"container\">",
  line "        <div class=\"tabs\">",
  line "            <button class=\"tab active\" data-tab=\"issues\">🚨 Issues</button>",
  line "            <button class=\"tab\" data-tab=\"recommendations\">💡 Recommendations</button>",
  line "            <button class=\"tab\" data-tab=\"dependencies\">📦 Dependencies</button>",
  line "            <button class=\"tab\" data-tab=\"route-files\">🗂 Route Files</button>",
  line "            <button class=\"tab\" data-tab=\"debug\">🛠 Debug Tools</button>",
  line "        </div>",
  line ""]

/-- An issue on a page. -/
def issueBlock (i : Issue) : Page :=
  [line ("            <div class=\"issue " ++ i.severity.name ++ "\">"),
    line "                <div class=\"issue-header\">",
    .markup ("                    <span>" ++ severitySign i.severity ++ " <strong>"),
    .text i.message, line "</strong></span>",
    line ("                    <span class=\"issue-type\">" ++ i.kind.name ++ "</span>"),
    line "                </div>",
    .markup "                <div class=\"issue-file\">📄 ", .text i.file]
  ++ (match i.count with
    | some n => [.markup (" (" ++ toString n ++ " occurrences)")]
    | none => [])
  ++ [line "</div>"]
  ++ whenGiven i.pattern (fun p =>
    [.markup "                <div class=\"code\">", .text p, line "</div>"])
  ++ whenGiven i.fix (fun f =>
    [.markup "                <div class=\"fix-suggestion\">💡 <strong>Fix:</strong> ", .text f,
      line "</div>"])
  ++ [line "            </div>"]

/-- The tab of the issues. -/
def issuesTab (a : Analysis) : Page :=
  [line "        <div id=\"issues\" class=\"tab-content active\">",
    line "            <h2>Issues Found</h2>"]
  ++ blocks a.issues issueBlock
    (line ("            <div class=\"issue low\">✅ No issues detected! "
      ++ "Your routing looks stable.</div>"))
  ++ [line "        </div>", line ""]

/-- A recommendation on a page. -/
def recommendationBlock (r : Recommendation) : Page :=
  [line "            <div class=\"recommendation\">", .markup "                💡 <strong>"]
  ++ (match r.priority with
    | some s => [.markup ("[" ++ s.name.toUpper ++ "] ")]
    | none => [])
  ++ [.text r.message, line "</strong>"]
  ++ whenGiven r.action (fun t => [.markup "<br><em>Action: ", .text t, .markup "</em>"])
  ++ whenGiven r.file (fun t => [.markup "<br><code>", .text t, .markup "</code>"])
  ++ [line "            </div>"]

/-- The tab of the recommendations. -/
def recommendationsTab (a : Analysis) : Page :=
  [line "        <div id=\"recommendations\" class=\"tab-content\">",
    line "            <h2>Recommendations</h2>"]
  ++ blocks a.recommendations recommendationBlock
    (line ("            <div class=\"recommendation\">✅ No specific recommendations at this time."
      ++ "</div>"))
  ++ [line "        </div>", line ""]

/-- The plain text of a value that has one.  `page` refuses an analysis with a value that has
none. -/
def plain (v : Yaml.Value) : String := v.plain?.getD ""

/-- The plain texts of values, with commas between them. -/
def commaList (vs : List Yaml.Value) : String := ", ".intercalate (vs.map plain)

/-- A paragraph with a bold label. -/
def labelled (label : String) (s : String) : Page :=
  [.markup ("<p><strong>" ++ label ++ ":</strong> "), .text s, .markup "</p>"]

/-- The values of a library that a page shows. -/
def shownValues (d : Dependency) : List Yaml.Value :=
  d.name :: (if d.issue.truth then [d.issue] else []) ++ d.components ++ d.patchedComponents

/-- Whether a library can be shown: every value of it has a plain text. -/
def isShowable (d : Dependency) : Bool := (shownValues d).all (·.plain?.isSome)

/-- A library on a page. -/
def dependencyBlock (d : Dependency) : Page :=
  [line ("                <div class=\"dependency" ++ (if d.critical then " critical" else "")
      ++ (if d.detected then "" else " not-detected") ++ "\">"),
    .markup "                    <h4>", .text (plain d.name), line "</h4>",
    .markup "                    <p><strong>Version:</strong> ", .text d.version, line "</p>",
    line ("                    <p><strong>Critical:</strong> "
      ++ (if d.critical then "Yes" else "No") ++ "</p>"),
    line ("                    <p><strong>Detected:</strong> "
      ++ (if d.detected then "✅ Yes" else "❌ No") ++ "</p>")]
  ++ (if d.issue.truth then labelled "Issue" (plain d.issue) else [])
  ++ (if d.components.isEmpty then [] else labelled "Components" (commaList d.components))
  ++ (if d.patchedComponents.isEmpty then []
    else labelled "Shell patches" (commaList d.patchedComponents))
  ++ [line "                </div>"]

/-- The tab of the libraries. -/
def dependenciesTab (a : Analysis) : Page :=
  [line "        <div id=\"dependencies\" class=\"tab-content\">",
    line "            <h2>Dependency Analysis</h2>",
    line "            <div class=\"dependencies\">"]
  ++ blocks a.dependencies dependencyBlock
    (line "                <p>No dependency information collected.</p>")
  ++ [line "            </div>", line "        </div>", line ""]

/-- A cause of remounting and its remedy on a page. -/
def causeLine (cause : String × String) : Page :=
  [.markup "                    <li>", .text cause.1, .markup " → <em>", .text cause.2,
    line "</em></li>"]

/-- A route file on a page. -/
def diagnosisBlock (d : Diagnosis) : Page :=
  [line ("            <div class=\"route-file " ++ d.severity.name ++ "\">"),
    .markup "                <h4>📄 ", .text d.file, line "</h4>"]
  ++ (if d.causes.isEmpty then [line "                <p>✅ No remount causes found.</p>"]
    else
      [line "                <ul>"] ++ d.causes.flatMap causeLine ++ [line "                </ul>"])
  ++ [line "            </div>"]

/-- The tab of the route files. -/
def routeFilesTab (a : Analysis) : Page :=
  [line "        <div id=\"route-files\" class=\"tab-content\">",
    line "            <h2>Route Files</h2>"]
  ++ blocks (a.summaries.map diagnose) diagnosisBlock
    (line "            <p>No route files analyzed.</p>")
  ++ [line "        </div>", line ""]

/-- The tab of the tools. -/
def toolsTab : Page := [
  line "        <div id=\"debug\" class=\"tab-content\">",
  line "            <h2>Interactive Debug Tools</h2>",
  line "            <div class=\"debug-tools\">",
  line "                <h3>🛠 Live Debugging Tools</h3>",
  line ("                <p>Use these tools to debug routing issues in real-time when this page is "
    ++ "loaded in your application.</p>"),
  line ("                <button class=\"debug-button\" data-action=\"start\">Start Route Monitor"
    ++ "</button>"),
  line ("                <button class=\"debug-button\" data-action=\"stop\">Stop Route Monitor"
    ++ "</button>"),
  line ("                <button class=\"debug-button\" data-action=\"analyze\">"
    ++ "Analyze Current Route</button>"),
  line ("                <button class=\"debug-button\" data-action=\"export\">Export Debug Data"
    ++ "</button>"),
  line "                <div id=\"debug-output\"></div>",
  line "            </div>",
  line "        </div>",
  line "    </div>",
  line "",
  line "    <div id=\"monitor\" class=\"monitor\">",
  line "        <div id=\"monitor-content\"></div>",
  line "    </div>",
  line ""]

/-- The body of a page up to its script. -/
def pageBody (a : Analysis) (generated : String) (data : Json) : Page :=
  [line "<body>"] ++ overview a generated ++ tabs ++ issuesTab a ++ recommendationsTab a
    ++ dependenciesTab a ++ routeFilesTab a ++ toolsTab
    ++ [line "    <script>", .markup "        window.routeDebugData = ", .data data, line ";"]

/-- The script of a page and its end. -/
def pageEnd : Page := [
  line "",
  .markup monitorScript,
  line "    </script>",
  line "</body>",
  .markup "</html>"]

/-- The page of an analysis, made at a time.  Its data is collected first, then the libraries are
shown, and the data is written last. -/
def page (a : Analysis) (generated : String) : Except Yaml.ReportFault Page :=
  match a.debugData, a.dependencies.all isShowable with
  | .error (.notComparable v), _ => .error (.notComparable v)
  | _, false => .error .tooManyDigits
  | .error f, true => .error f
  | .ok data, true => .ok (pageHead ++ pageBody a generated data ++ pageEnd)

/-- The text of the page of an analysis. -/
def html (a : Analysis) (generated : String) : Except Yaml.ReportFault String :=
  (page a generated).map fun p => String.ofList p.render

end Report
end RouteAudit
