import RouteAudit.Number.Numeral
import RouteAudit.Number.Shortest
import RouteAudit.Text.CodePoint
import RouteAudit.Yaml.Calendar

/-!
# Values of a table

A table is written in a data language whose values are not typed, and a few fields of a dependency
take any value.  `Value` is such a value.  A map keeps its entries in the order in which their keys
first came up.

A list or a map may hold itself.  Such a value is a `knot`: the collection under a mark, with
`within` in the places where the whole comes up again.  `Value.exposed` unties a knot by one turn,
so that the parts of a value are whole values themselves.

* `Value.truth` — whether a value counts as given: null, false, zero and everything empty do not;
* `Value.sameKey` — whether two keys are the same key; numbers are the same when they are equal,
  true and false are the numbers one and zero, and moments are the same when they are one instant;
* `Value.quoted?` — the text of a value in a message, and `Value.plain?` its plain text; an integer
  with too many digits has none.
-/

set_option autoImplicit false

namespace RouteAudit
namespace Yaml

/-- A value. -/
inductive Value where
  | null
  | bool (b : Bool)
  | int (n : Int)
  | float (x : Binary64)
  /-- What is not a number, made once for the mark; it is the same only as itself. -/
  | nan (mark : Nat)
  | text (s : String)
  /-- A text with a half of a pair in it. -/
  | halves (ps : List CodePoint)
  | date (d : Date)
  | moment (m : Moment)
  | bytes (b : List UInt8)
  | list (items : List Value)
  | pair (first second : Value)
  | set (items : List Value)
  | map (entries : List (Value × Value))
  /-- A collection that comes up inside itself. -/
  | knot (mark : Nat) (whole : Value)
  /-- The collection of a mark, inside itself, and whether it is a map. -/
  | within (mark : Nat) (isMap : Bool)
  deriving Inhabited

namespace Value

/-- A text as a value. -/
def ofPoints (ps : List CodePoint) : Value :=
  match CodePoint.chars? ps with
  | some cs => .text (String.ofList cs)
  | none => .halves ps

/-- Whether the value counts as given. -/
def truth : Value → Bool
  | .null => false
  | .bool b => b
  | .int n => n != 0
  | .float x => !x.isZero
  | .nan _ => true
  | .text s => s != ""
  | .halves _ => true
  | .date _ => true
  | .moment _ => true
  | .bytes b => !b.isEmpty
  | .list xs => !xs.isEmpty
  | .pair _ _ => true
  | .set xs => !xs.isEmpty
  | .map es => !es.isEmpty
  | .knot _ v => v.truth
  | .within _ _ => true

/-- What messages call the kind of a value. -/
def typeName : Value → String
  | .null => "NoneType"
  | .bool _ => "bool"
  | .int _ => "int"
  | .float _ => "float"
  | .nan _ => "float"
  | .text _ => "str"
  | .halves _ => "str"
  | .date _ => "datetime.date"
  | .moment _ => "datetime.datetime"
  | .bytes _ => "bytes"
  | .list _ => "list"
  | .pair _ _ => "tuple"
  | .set _ => "set"
  | .map _ => "dict"
  | .knot _ v => v.typeName
  | .within _ isMap => if isMap then "dict" else "list"

/-- The first part of a value that cannot be a key or be looked up: a list, a set or a map. -/
def keyFault? : Value → Option Value
  | .list xs => some (.list xs)
  | .set xs => some (.set xs)
  | .map es => some (.map es)
  | .pair a b => a.keyFault?.or b.keyFault?
  | .knot m v => some (.knot m v)
  | .within m k => some (.within m k)
  | _ => none

/-! ## Knots -/

mutual

/-- The value with `w` for the collection of a mark. -/
def untied (mark : Nat) (w : Value) : Value → Value
  | .within m k => if m = mark then w else .within m k
  | .knot m v => if m = mark then .knot m v else .knot m (untied mark w v)
  | .list xs => .list (untiedItems mark w xs)
  | .pair a b => .pair (untied mark w a) (untied mark w b)
  | .map es => .map (untiedEntries mark w es)
  | v => v

/-- The items with `w` for the collection of a mark. -/
def untiedItems (mark : Nat) (w : Value) : List Value → List Value
  | [] => []
  | v :: vs => untied mark w v :: untiedItems mark w vs

/-- The entries with `w` for the collection of a mark; a key is no collection. -/
def untiedEntries (mark : Nat) (w : Value) : List (Value × Value) → List (Value × Value)
  | [] => []
  | (k, v) :: es => (k, untied mark w v) :: untiedEntries mark w es

end

/-- The value itself, untied by one turn if it is a knot. -/
def exposed : Value → Value
  | .knot m v => untied m (.knot m v) v
  | v => v

/-! ## Keys -/

/-- The integer that a truth value or an integer is. -/
def asInt? : Value → Option Int
  | .bool b => some (if b then 1 else 0)
  | .int n => some n
  | _ => none

/-- Whether two keys are the same key. -/
def sameKey : Value → Value → Bool
  | .null, .null => true
  | .text s, .text t => s == t
  | .halves s, .halves t => s == t
  | .date d, .date e => d == e
  | .moment m, .moment n => m.same n
  | .bytes b, .bytes c => b == c
  | .pair a b, .pair c d => sameKey a c && sameKey b d
  | .nan i, .nan j => i == j
  | .float .nan, .float .nan => true
  | .float x, .float y => x.eqv y
  | .float x, v => v.asInt?.any x.eqInt
  | v, .float x => v.asInt?.any x.eqInt
  | v, w =>
    match v.asInt?, w.asInt? with
    | some a, some b => a == b
    | _, _ => false

/-- Puts an entry into a map: a key that is there keeps its place and takes the new value. -/
def put {α : Type} (es : List (Value × α)) (k : Value) (v : α) : List (Value × α) :=
  match es with
  | [] => [(k, v)]
  | (k', v') :: rest => if sameKey k' k then (k', v) :: rest else (k', v') :: put rest k v

/-- The value of a text key. -/
def field? (es : List (Value × Value)) (k : String) : Option Value :=
  (es.find? fun e => sameKey e.1 (.text k)).map Prod.snd

/-! ## Texts -/

/-- How a floating-point number is written: positional from `0.0001` up to sixteen digits. -/
def floatLayout : Decimal.Layout := ⟨-4, 16, 'e', 2, "inf", "nan"⟩

/-- One byte of a quoted sequence of bytes. -/
def quotedByte (q : Char) (b : UInt8) : List Char :=
  let c := Char.ofNat b.toNat
  if b.toNat < 0x80 then
    if c = q || c = '\\' then ['\\', c]
    else if c = '\n' then ['\\', 'n']
    else if c = '\r' then ['\\', 'r']
    else if c = '\t' then ['\\', 't']
    else if Text.isPrintable c then [c]
    else ['\\', 'x'] ++ Text.padZero 2 (Text.hexDigits b.toNat)
  else ['\\', 'x'] ++ Text.padZero 2 (Text.hexDigits b.toNat)

/-- A sequence of bytes between quotes. -/
def quotedBytes (bs : List UInt8) : String :=
  let q := Text.quoteFor (bs.map fun b => Char.ofNat b.toNat)
  String.ofList ('b' :: q :: bs.flatMap (quotedByte q) ++ [q])

/-- Stands for a collection inside itself. -/
def dots (isMap : Bool) : String := if isMap then "\x7b...\x7d" else "[...]"

/-- Whether the value is a map. -/
def isMap : Value → Bool
  | .map _ => true
  | .knot _ v => v.isMap
  | .within _ k => k
  | _ => false

mutual

/-- The text of a value in a message, inside the collections with the given marks. -/
def quotedIn (marks : List Nat) : Value → Option String
  | .null => some "None"
  | .bool b => some (if b then "True" else "False")
  | .int n => Numeral.intText? n
  | .float x => some (floatLayout.text x)
  | .nan _ => some (floatLayout.text .nan)
  | .text s => some (Text.quoted s)
  | .halves ps => some (String.ofList (CodePoint.quotedAll ps))
  | .date d => some d.quoted
  | .moment m => some m.quoted
  | .bytes b => some (quotedBytes b)
  | .list xs => do return "[" ++ ", ".intercalate (← quotedItems marks xs) ++ "]"
  | .pair a b => do return "(" ++ (← quotedIn marks a) ++ ", " ++ (← quotedIn marks b) ++ ")"
  | .set [] => some "set()"
  | .set (x :: xs) => do
    return "\x7b" ++ ", ".intercalate (← quotedItems marks (x :: xs)) ++ "\x7d"
  | .map es => do return "\x7b" ++ ", ".intercalate (← quotedEntries marks es) ++ "\x7d"
  | .knot m v => if marks.contains m then some (dots v.isMap) else quotedIn (m :: marks) v
  | .within _ k => some (dots k)

/-- The texts of the items of a list. -/
def quotedItems (marks : List Nat) : List Value → Option (List String)
  | [] => some []
  | v :: vs => do return (← quotedIn marks v) :: (← quotedItems marks vs)

/-- The texts of the entries of a map. -/
def quotedEntries (marks : List Nat) : List (Value × Value) → Option (List String)
  | [] => some []
  | (k, v) :: es => do
    return ((← quotedIn marks k) ++ ": " ++ (← quotedIn marks v)) :: (← quotedEntries marks es)

end

/-- The text of a value in a message; none when an integer has too many digits. -/
def quoted? (v : Value) : Option String := quotedIn [] v

/-- The plain text of a value: a text as it is, everything else as in a message, dates and moments
in the form of a calendar. -/
def plain? : Value → Option String
  | .text s => some s
  | .halves ps => some (String.ofList (CodePoint.paired ps))
  | .date d => some d.text
  | .moment m => some m.text
  | v => v.quoted?

/-- The parts of a value that can be gone through: the items of a list, the keys of a map, the
characters of a text. -/
def items? (v : Value) : Option (List Value) :=
  match v.exposed with
  | .list xs => some xs
  | .set xs => some xs
  | .pair a b => some [a, b]
  | .map es => some (es.map Prod.fst)
  | .text s => some (s.toList.map fun c => .text (String.singleton c))
  | .halves ps => some (ps.map fun p => ofPoints [p])
  | .bytes bs => some (bs.map fun b => .int b.toNat)
  | _ => none

/-- The entries of a map. -/
def entries? (v : Value) : Option (List (Value × Value)) :=
  match v.exposed with
  | .map es => some es
  | _ => none

end Value
end Yaml
end RouteAudit
