import RouteAudit.Json
import RouteAudit.Yaml.Value

/-!
# Values as JSON

Most values of a table can stand in a report as they are.  Dates, moments, bytes and sets cannot,
nor can a collection that holds itself or an integer with too many digits, and a key of an object
has to be a text, a number, a truth value or null.
-/

set_option autoImplicit false

namespace RouteAudit
namespace Yaml

/-- Why a value cannot stand in a report. -/
inductive ReportFault where
  /-- A value that was to be a key cannot be compared. -/
  | notComparable (v : Value)
  /-- A value has no form in JSON. -/
  | notWritable (v : Value)
  /-- A key has no form in JSON. -/
  | notKey (v : Value)
  /-- A collection holds itself. -/
  | circular
  /-- An integer has too many digits. -/
  | tooManyDigits

namespace Value

/-- What messages about reports call the kind of a value. -/
def shortTypeName : Value → String
  | .date _ => "date"
  | .moment _ => "datetime"
  | v => v.typeName

/-- An integer, unless it has too many digits. -/
def intJson (n : Int) : Except ReportFault Json :=
  match Numeral.intText? n with
  | some _ => .ok (.int n)
  | none => .error .tooManyDigits

/-- A value as the key of an object. -/
def keyText : Value → Except ReportFault String
  | .text s => .ok s
  | .halves ps => .ok (String.ofList (CodePoint.paired ps))
  | .float x => .ok (Json.floatLayout.text x)
  | .nan _ => .ok (Json.floatLayout.text .nan)
  | .bool b => .ok (if b then "true" else "false")
  | .null => .ok "null"
  | .int n =>
    match Numeral.intText? n with
    | some t => .ok t
    | none => .error .tooManyDigits
  | v => .error (.notKey v)

mutual

/-- A value as JSON, inside the collections with the given marks. -/
def jsonIn (marks : List Nat) : Value → Except ReportFault Json
  | .null => .ok .null
  | .bool b => .ok (.bool b)
  | .int n => intJson n
  | .float x => .ok (.float x)
  | .nan _ => .ok (.float .nan)
  | .text s => .ok (.str s)
  | .halves ps => .ok (.str (String.ofList (CodePoint.paired ps)))
  | .list xs => (jsonItemsIn marks xs).map .arr
  | .pair a b =>
    match jsonIn marks a, jsonIn marks b with
    | .ok x, .ok y => .ok (.arr [x, y])
    | .error e, _ => .error e
    | _, .error e => .error e
  | .map es => (jsonMembersIn marks es).map .obj
  | .knot m v => if marks.contains m then .error .circular else jsonIn (m :: marks) v
  | .within _ _ => .error .circular
  | .date d => .error (.notWritable (.date d))
  | .moment m => .error (.notWritable (.moment m))
  | .bytes b => .error (.notWritable (.bytes b))
  | .set xs => .error (.notWritable (.set xs))

/-- The items of a list as JSON. -/
def jsonItemsIn (marks : List Nat) : List Value → Except ReportFault (List Json)
  | [] => .ok []
  | v :: vs =>
    match jsonIn marks v with
    | .error e => .error e
    | .ok j => (jsonItemsIn marks vs).map (j :: ·)

/-- The entries of a map as members of an object. -/
def jsonMembersIn (marks : List Nat) :
    List (Value × Value) → Except ReportFault (List (String × Json))
  | [] => .ok []
  | (k, v) :: es =>
    match keyText k with
    | .error e => .error e
    | .ok t =>
      match jsonIn marks v with
      | .error e => .error e
      | .ok j => (jsonMembersIn marks es).map ((t, j) :: ·)

end

/-- A value as JSON. -/
def json (v : Value) : Except ReportFault Json := jsonIn [] v

/-- Values as JSON. -/
def jsonItems (vs : List Value) : Except ReportFault (List Json) := jsonItemsIn [] vs

/-- A list of texts is an array of strings. -/
theorem jsonItems_text (ts : List String) :
    jsonItems (ts.map .text) = .ok (ts.map .str) := by
  induction ts with
  | nil => rfl
  | cons t ts ih =>
    rw [jsonItems] at ih
    simp [jsonItems, jsonItemsIn, jsonIn, ih, Except.map]

end Value

/-- A sentence about an integer that cannot be written. -/
def digitLimitMessage : String :=
  "Exceeds the limit (4300 digits) for integer string conversion; "
    ++ "use sys.set_int_max_str_digits() to increase the limit"

/-- A sentence about the fault. -/
def ReportFault.message : ReportFault → String
  | .notComparable v => "unhashable type: '" ++ v.typeName ++ "'"
  | .notWritable v => "Object of type " ++ v.shortTypeName ++ " is not JSON serializable"
  | .notKey v =>
    "keys must be str, int, float, bool or None, not " ++ v.shortTypeName
  | .circular => "Circular reference detected"
  | .tooManyDigits => digitLimitMessage

end Yaml
end RouteAudit
