import RouteAudit.Finding
import RouteAudit.Yaml.Value

/-!
# Kinds and severities by name

Findings that come from outside name their kind and their severity.  A name is any value, and only
the texts of `IssueKind.name` and `Severity.name` are names.
-/

set_option autoImplicit false

namespace RouteAudit

/-- A value that is not the name of what was asked for. -/
inductive NameFault where
  | kind (v : Yaml.Value)
  | severity (v : Yaml.Value)

/-- The text of a value in a message; three dots stand for one that is too long to be written. -/
def NameFault.shown (v : Yaml.Value) : String := v.quoted?.getD "..."

/-- A sentence about the fault. -/
def NameFault.message : NameFault → String
  | .kind v => shown v ++ " is not a valid IssueType"
  | .severity v => shown v ++ " is not a valid Severity"

/-- The kind that a value names. -/
def IssueKind.named (v : Yaml.Value) : Except NameFault IssueKind :=
  match v with
  | .text s =>
    match ofName? s with
    | some k => .ok k
    | none => .error (.kind v)
  | _ => .error (.kind v)

/-- The severity that a value names. -/
def Severity.named (v : Yaml.Value) : Except NameFault Severity :=
  match v with
  | .text s =>
    match ofName? s with
    | some k => .ok k
    | none => .error (.severity v)
  | _ => .error (.severity v)

/-- A kind is named by its name. -/
@[simp] theorem IssueKind.named_name (k : IssueKind) : IssueKind.named (.text k.name) = .ok k := by
  simp [IssueKind.named]

/-- A severity is named by its name. -/
@[simp] theorem Severity.named_name (s : Severity) : Severity.named (.text s.name) = .ok s := by
  simp [Severity.named]

end RouteAudit
