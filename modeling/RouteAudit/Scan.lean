import RouteAudit.Analysis
import RouteAudit.FileTree.Walk
import RouteAudit.Text.Utf8

/-!
# Analysing a file tree

`scan` walks through a directory and takes in the route files one after the other.  A file that
cannot be read is counted as found and otherwise left out.  What was said on the way is the log.
-/

set_option autoImplicit false

namespace RouteAudit

/-- A path as shown in a report: seen from the directory of the project, if it lies below it. -/
def shownPath (base : String) (p : Path) : String :=
  match p.relativeTo? (Path.ofString base) with
  | some q => q.text
  | none => p.text

namespace Analysis

/-- Takes in the file at a path, if it can be read. -/
def takeFile (a : Analysis) (t : FileTree) (p : Path) : Analysis × List LogLine :=
  match t.read p with
  | .ok bytes =>
    let file := shownPath a.basePath p
    (a.addFile (Text.readText bytes) file, [⟨.debug, LogLine.engine, "Analyzing " ++ file⟩])
  | .error e =>
    (a, [⟨.warning, LogLine.engine, "Error analyzing " ++ p.text ++ ": " ++ e.message⟩])

/-- Counts a file as found. -/
def countFound (a : Analysis) : Analysis :=
  { a with stats := { a.stats with total := a.stats.total + 1 } }

/-- Takes in what a walk came upon. -/
def take (a : Analysis) (t : FileTree) (s : Sighting) : Analysis × List LogLine :=
  match s with
  | .routeFile p => a.countFound.takeFile t p
  | .unlisted _ => (a, s.warning?.toList)

/-- Takes in all that a walk came upon, in order. -/
def takeAll (a : Analysis) (t : FileTree) : List Sighting → Analysis × List LogLine
  | [] => (a, [])
  | s :: rest =>
    let (b, log) := a.take t s
    let (c, more) := b.takeAll t rest
    (c, log ++ more)

end Analysis

/-- How to analyse a project. -/
structure ScanOptions where
  extended : Bool := false
  table : Table := Table.bundled
  timestamp : String

/-- Analyses the project below a path. -/
def scan (o : ScanOptions) (t : FileTree) (start : Path) :
    Except FileTree.ResolveFault (Analysis × List LogLine) := do
  let base ← t.resolve start
  let a : Analysis := { basePath := base.text, extended := o.extended, timestamp := o.timestamp }
  let (a, log) := a.takeAll t (t.walk base)
  return (a.finalize o.table, log)

end RouteAudit
