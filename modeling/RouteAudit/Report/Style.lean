/-!
# The style of a page

The style sheet, as a list of rules.
-/

set_option autoImplicit false

namespace RouteAudit
namespace Report

/-- A rule of a style sheet: what it is about, and how that looks. -/
structure StyleRule where
  selector : String
  declarations : List String

/-- The text of a rule. -/
def StyleRule.text (r : StyleRule) : String :=
  "        " ++ r.selector ++ " \x7b " ++ " ".intercalate (r.declarations.map (· ++ ";"))
    ++ " \x7d\n"

/-- The rules of the style sheet. -/
def styleRules : List StyleRule := [
  ⟨"body",
    ["font-family: 'Segoe UI', Tahoma, Geneva, Verdana, sans-serif", "max-width: 1400px",
      "margin: 0 auto", "padding: 20px", "background: #f5f5f5", "color: #333"]⟩,
  ⟨".container",
    ["background: white", "padding: 30px", "border-radius: 8px",
      "box-shadow: 0 2px 10px rgba(0, 0, 0, 0.1)", "margin-bottom: 20px"]⟩,
  ⟨"h1",
    ["color: #0071b3", "border-bottom: 3px solid #0071b3", "padding-bottom: 10px",
      "margin-bottom: 30px"]⟩,
  ⟨".summary-grid",
    ["display: grid", "grid-template-columns: repeat(auto-fit, minmax(250px, 1fr))", "gap: 20px",
      "margin-bottom: 30px"]⟩,
  ⟨".summary-card",
    ["background: linear-gradient(135deg, #0071b3, #005a8b)", "color: white", "padding: 20px",
      "border-radius: 8px", "text-align: center"]⟩,
  ⟨".summary-card h3", ["margin: 0 0 10px 0", "font-size: 2em"]⟩,
  ⟨".summary-card p", ["margin: 0", "opacity: 0.9"]⟩,
  ⟨".issue", ["padding: 15px", "margin: 15px 0", "border-radius: 6px", "border-left: 5px solid"]⟩,
  ⟨".issue.high", ["background: #ffebee", "border-left-color: #f44336"]⟩,
  ⟨".issue.medium", ["background: #fff8e1", "border-left-color: #ff9800"]⟩,
  ⟨".issue.low", ["background: #e8f5e8", "border-left-color: #4caf50"]⟩,
  ⟨".issue-header",
    ["display: flex", "justify-content: space-between", "align-items: center",
      "margin-bottom: 10px"]⟩,
  ⟨".issue-type",
    ["background: rgba(0, 0, 0, 0.1)", "padding: 4px 8px", "border-radius: 4px",
      "font-size: 0.85em", "font-family: monospace"]⟩,
  ⟨".issue-file", ["font-family: monospace", "color: #666", "font-size: 0.9em"]⟩,
  ⟨".fix-suggestion",
    ["background: #e3f2fd", "border-left: 4px solid #2196f3", "padding: 10px",
      "margin-top: 10px", "border-radius: 4px"]⟩,
  ⟨".recommendation",
    ["background: linear-gradient(135deg, #2196f3, #1976d2)", "color: white", "padding: 15px",
      "margin: 15px 0", "border-radius: 6px"]⟩,
  ⟨".dependencies",
    ["display: grid", "grid-template-columns: repeat(auto-fit, minmax(300px, 1fr))", "gap: 15px"]⟩,
  ⟨".dependency",
    ["background: #f8f9fa", "padding: 15px", "border-radius: 6px",
      "border-left: 4px solid #28a745"]⟩,
  ⟨".dependency.critical", ["border-left-color: #dc3545"]⟩,
  ⟨".dependency.not-detected", ["border-left-color: #ffc107", "opacity: 0.7"]⟩,
  ⟨".route-file",
    ["background: #f8f9fa", "padding: 15px", "margin: 15px 0", "border-radius: 6px",
      "border-left: 4px solid #6c757d"]⟩,
  ⟨".route-file.high", ["border-left-color: #dc3545"]⟩,
  ⟨".route-file.medium", ["border-left-color: #ff9800"]⟩,
  ⟨".tabs", ["display: flex", "margin-bottom: 20px", "border-bottom: 1px solid #ddd"]⟩,
  ⟨".tab",
    ["padding: 12px 24px", "cursor: pointer", "border: none", "background: none",
      "font-size: 1em", "border-bottom: 3px solid transparent"]⟩,
  ⟨".tab.active", ["border-bottom-color: #0071b3", "color: #0071b3", "font-weight: 600"]⟩,
  ⟨".tab-content", ["display: none"]⟩,
  ⟨".tab-content.active", ["display: block"]⟩,
  ⟨".code",
    ["background: #f4f4f4", "padding: 10px", "border-radius: 4px",
      "font-family: 'Courier New', monospace", "font-size: 0.9em", "overflow-x: auto"]⟩,
  ⟨".debug-tools", ["background: #2c3e50", "color: white", "padding: 20px", "border-radius: 8px"]⟩,
  ⟨".debug-button",
    ["background: #3498db", "color: white", "border: none", "padding: 8px 16px",
      "border-radius: 4px", "cursor: pointer", "margin: 5px"]⟩,
  ⟨".debug-button:hover", ["background: #2980b9"]⟩,
  ⟨"#debug-output",
    ["margin-top: 20px", "padding: 15px", "background: rgba(255, 255, 255, 0.1)",
      "border-radius: 4px", "font-family: monospace", "font-size: 12px", "white-space: pre-wrap"]⟩,
  ⟨".monitor",
    ["position: fixed", "top: 20px", "right: 20px", "background: #2c3e50", "color: white",
      "padding: 15px", "border-radius: 6px", "font-family: monospace", "font-size: 12px",
      "z-index: 10000", "max-width: 350px", "max-height: 200px", "overflow-y: auto",
      "display: none"]⟩]

/-- The text of the style sheet. -/
def styleSheet : String := String.join (styleRules.map StyleRule.text)

end Report
end RouteAudit
