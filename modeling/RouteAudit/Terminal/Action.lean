import RouteAudit.Terminal.Literal

/-!
# Actions

A tag such as `[@press=app.bell(2)]` stands for an action: a name with points in it and perhaps
arguments in parentheses.  Where the tag is closed, its arguments have to be literals.
-/

set_option autoImplicit false

namespace RouteAudit
namespace Terminal

/-- Why an action cannot be read: what was given, the part of it that should be a literal, and why
it is none. -/
structure ActionFault where
  given : String
  part : String
  reason : Literal.Fault
  deriving DecidableEq, Repr

/-- A sentence about the fault. -/
def ActionFault.message (f : ActionFault) : String :=
  if f.reason.isFormal then
    "error parsing " ++ Text.quoted f.part ++ " in " ++ Text.quoted f.given ++ "; "
      ++ f.reason.message
  else "error parsing " ++ Text.quoted f.given ++ "; " ++ f.reason.message

/-- The part of an action that should be a literal: the arguments behind its name, or all of it if
it does not have that form.  An action without arguments has an empty list of them. -/
def actionLiteral (given : List Char) : List Char :=
  let s := Text.trim given
  match s.dropWhile fun c => Text.isWord c || c == '.' with
  | [] => "()".toList
  | '(' :: rest =>
    if rest.getLast? = some ')' && !rest.contains '\n' then '(' :: rest else s
  | _ => s

/-- Why an action cannot be read. -/
def actionFault? (given : List Char) : Option ActionFault :=
  let part := actionLiteral given
  (Literal.fault? (part.dropWhile fun c => c == ' ' || c == '\t')).map fun reason =>
    { given := String.ofList given, part := String.ofList part, reason }

end Terminal
end RouteAudit
