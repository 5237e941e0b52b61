import RouteAudit.FileTree.Change
import RouteAudit.Log
import RouteAudit.Report.Html

/-!
# Writing the debug report

The report is written to a file, and the directories around the file are made first.  A way that
leads to no file, and a report that has no page, are found before a file is touched.  Bytes that
were begun are written to the end, as `FileTree.write` has it: a full disk in the middle of them
would leave a part of the page.
-/

set_option autoImplicit false

namespace RouteAudit
namespace Report

/-- Why the report could not be written. -/
inductive WriteFault where
  | file (f : FileFault)
  | report (f : Yaml.ReportFault)

/-- A sentence about the fault. -/
def WriteFault.message : WriteFault → String
  | .file f => f.message
  | .report f => f.message

/-- The outcome of writing a report. -/
structure Written where
  tree : FileTree
  log : List LogLine := []
  fault : Option WriteFault := none

/-- Writes the report of an analysis, made at a time, to a path. -/
def write (a : Analysis) (t : FileTree) (p : Path) (generated : String) : Written :=
  match t.makeDirs p.parent with
  | (t, some f) => { tree := t, fault := some (.file f) }
  | (t, none) =>
    match html a generated with
    | .error f => { tree := t, fault := some (.report f) }
    | .ok text =>
      match t.write p text.toUTF8.toList with
      | .error f => { tree := t, fault := some (.file f) }
      | .ok t =>
        { tree := t, log := [⟨.debug, LogLine.html, "Wrote HTML report to " ++ p.text⟩] }

end Report
end RouteAudit
