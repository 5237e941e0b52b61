import RouteAudit.Analysis
import RouteAudit.Terminal.Highlight
import RouteAudit.Terminal.Markup
import RouteAudit.Terminal.Table

/-!
# The report on a terminal

The header says what is analysed, and the results list the issues by severity, what to do about
them, and what to do next.  Texts from the project are escaped, and their lines are never wrapped.

Main definitions: `Screen.header`, `Screen.results`.
-/

set_option autoImplicit false

namespace RouteAudit
namespace Report

open Terminal (MarkupFault Styled escape styled)

/-- A terminal: its width, and whether it wraps lines by itself. -/
structure Screen where
  width : Nat := 80
  softWrap : Bool := true

/-- Lines with their ends. -/
def endLines (lines : List (List Char)) : List Char := lines.flatMap (· ++ ['\n'])

namespace Screen

/-- The lines of a text as they are shown, if they can be.  On a screen without any cells nothing is
shown at all. -/
def showLines (s : Screen) (lines : List Styled) (view : Styled → List Char) :
    Except MarkupFault (List Char) :=
  if s.width = 0 then .ok []
  else
    match lines.findSome? Styled.fault? with
    | some f => .error (.look f)
    | none => .ok (endLines (lines.map view))

/-- Prints a markup without wrapping it. -/
def printOpen (s : Screen) (markup : List Char) : Except MarkupFault (List Char) :=
  match styled markup with
  | .error f => .error f
  | .ok t => s.showLines t.openLines Styled.text

/-- A text with spans, but no looks, for the parts of it that stand out. -/
def highlighted (t : Styled) : Styled :=
  { t with spans := (Terminal.Highlight.parts t.text).map (fun (a, b) => ⟨a, b, []⟩) ++ t.spans }

/-- Prints a markup. -/
def print (s : Screen) (markup : List Char) : Except MarkupFault (List Char) :=
  if s.softWrap then s.printOpen markup
  else
    match styled markup with
    | .error f => .error f
    | .ok t =>
      s.showLines ((highlighted t).wrapLines s.width .fold .none) fun line =>
        (Terminal.crop s.width line.segments).flatten

/-- Prints parts one behind the other. -/
def printAll : List (Except MarkupFault (List Char)) → Except MarkupFault (List Char)
  | [] => .ok []
  | part :: parts =>
    match part with
    | .error e => .error e
    | .ok text => (printAll parts).map (text ++ ·)

/-- The header of a report. -/
def header (s : Screen) (directory title : String) : Except MarkupFault (List Char) :=
  printAll [
    s.print ("[bold]🔧 ".toList ++ title.toList ++ "[/bold]".toList),
    s.print (List.replicate (title.length + 3) '='),
    s.printOpen ("🎯 Analyzing: [cyan]".toList ++ escape directory.toList ++ "[/cyan]\n".toList)]

/-! ## The table of files -/

/-- The files of an analysis and those of its issues, each once. -/
def tableFiles (a : Analysis) : List String := (a.files ++ a.issues.map Issue.file).eraseDups

/-- How many issues of a severity a file has. -/
def fileCount (a : Analysis) (file : String) (severity : Severity) : Nat :=
  ((a.issuesOf severity).filter (·.file = file)).length

/-- A column of the table with the numbers of a severity. -/
def severityColumn (a : Analysis) (name : String) (severity : Severity) : Terminal.Column where
  justify := .right
  head := name.toList
  cells := (tableFiles a).map fun f => (toString (fileCount a f severity)).toList

/-- The table of files. -/
def fileTable (s : Screen) (a : Analysis) : Except MarkupFault (List Char) := do
  let names ← (tableFiles a).mapM fun f => (styled (escape f.toList)).map Styled.text
  let columns : List Terminal.Column := [
    { justify := .left, head := "File".toList, cells := names },
    severityColumn a "High" .high,
    severityColumn a "Medium" .medium,
    severityColumn a "Low" .low]
  let widths := Terminal.columnWidths (s.width - (columns.length + 1)) columns
  let title := "Files".toList
  let lines := Terminal.tableLines widths columns
  if s.width = 0 then return []
  else if s.softWrap then return endLines (title :: lines.map List.flatten)
  else
    let titles := (Styled.plain title).wrapLines (Terminal.tableWidth widths) .fold .center
    return endLines ((titles.map Styled.segments ++ lines).map fun line =>
      (Terminal.crop s.width line).flatten)

/-! ## Results -/

/-- How a severity is shown: its colour, its heading and its sign. -/
def sectionOf : Severity → String × String × String
  | .high => ("red", "🚨 HIGH SEVERITY ISSUES:", "❌")
  | .medium => ("yellow", "⚠️  MEDIUM SEVERITY ISSUES:", "⚠️ ")
  | .low => ("blue", "🔍 LOW SEVERITY ISSUES:", "ℹ️ ")

/-- The line of an issue. -/
def issueMarkup (sign : String) (i : Issue) : List Char :=
  "  ".toList ++ sign.toList ++ " ".toList ++ escape i.file.toList ++ ": ".toList
    ++ escape i.message.toList

/-- The issues of a severity, with their heading. -/
def section? (s : Screen) (a : Analysis) (severity : Severity) :
    List (Except MarkupFault (List Char)) :=
  match a.issuesOf severity with
  | [] => []
  | issues =>
    let (colour, heading, sign) := sectionOf severity
    s.print ("\n[bold ".toList ++ colour.toList ++ "]".toList ++ heading.toList
        ++ "[/bold ".toList ++ colour.toList ++ "]".toList)
      :: issues.map fun i => s.printOpen (issueMarkup sign i)

/-- The line of a recommendation. -/
def recommendationMarkup (r : Recommendation) : List Char :=
  let place :=
    match r.file with
    | some f => if f = "" then [] else escape f.toList ++ ": ".toList
    | none => []
  "  💡 ".toList ++ place ++ escape r.message.toList

/-- The recommendations, with their heading. -/
def recommendations (s : Screen) (a : Analysis) : List (Except MarkupFault (List Char)) :=
  match a.recommendations with
  | [] => []
  | rs =>
    s.print "\n[bold]💡 RECOMMENDATIONS:[/bold]".toList
      :: rs.map fun r => s.printOpen (recommendationMarkup r)

/-- What to do next. -/
def nextSteps : List String := [
  "Run `routelint debug --html` to generate an interactive report",
  "Use the generated HTML file to debug issues in real-time",
  "Test route stability with the interactive debug tools",
  "Monitor console logs for unmount messages during navigation"]

/-- The numbered list of what to do next. -/
def stepLines (s : Screen) : Nat → List String → List (Except MarkupFault (List Char))
  | _, [] => []
  | n, step :: steps =>
    s.print ((toString n ++ ". ").toList ++ escape step.toList) :: stepLines s (n + 1) steps

/-- The end of a report. -/
def conclusion (s : Screen) (a : Analysis) : List (Except MarkupFault (List Char)) :=
  if a.issues.isEmpty then
    [s.print ("\n[green]✅ No route unmounting issues detected! "
      ++ "Your routing looks stable.[/green]").toList]
  else
    [s.print ("\n📈 SUMMARY: Found " ++ toString a.issues.length ++ " issues across "
        ++ toString a.dirtyFiles.length ++ " files").toList,
      s.print "\n[bold]📋 NEXT STEPS:[/bold]".toList]
    ++ stepLines s 1 nextSteps

/-- The parts of the results of an analysis; a verbose report also has a table of its files. -/
def resultParts (s : Screen) (a : Analysis) (verbose : Bool) :
    List (Except MarkupFault (List Char)) :=
  (if verbose then [s.fileTable a] else [])
    ++ [s.print "\n[bold]📊 Analysis Complete[/bold]".toList,
      s.print ("Files analyzed: " ++ toString a.stats.analyzed).toList,
      s.print ("Files with issues: " ++ toString a.stats.withIssues).toList,
      s.print ("Total issues: " ++ toString a.issues.length).toList]
    ++ Severity.all.flatMap (s.section? a)
    ++ s.recommendations a
    ++ s.conclusion a

/-- The results of an analysis. -/
def results (s : Screen) (a : Analysis) (verbose : Bool) : Except MarkupFault (List Char) :=
  printAll (s.resultParts a verbose)

end Screen
end Report
end RouteAudit
