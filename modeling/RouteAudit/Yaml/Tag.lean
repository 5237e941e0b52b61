import RouteAudit.Yaml.Token

/-!
# Tags

A tag tells what kind of value a node stands for.  It is written out, or it follows from the form of
the node; for a plain scalar it follows from the text.  Which texts are candidates for which kind
is decided by the first character, and the kinds are tried in a fixed order: truth values, floating
point, integers, the merge key, null, moments, the value key, the marks that are kept for later use,
and text when nothing else fits.  One line feed at the end of a text does not count.
-/

set_option autoImplicit false

namespace RouteAudit
namespace Yaml

/-- A kind of value. -/
inductive Tag where
  | null
  | bool
  | int
  | float
  | binary
  | timestamp
  | omap
  | pairs
  | set
  | str
  | seq
  | map
  | merge
  | value
  | other (uri : String)
  deriving DecidableEq, Repr

/-- Where the common tags are defined. -/
def commonTags : String := "tag:yaml.org,2002:"

/-- The tag of a full name. -/
def Tag.ofUri (uri : String) : Tag :=
  if uri == commonTags ++ "null" then .null
  else if uri == commonTags ++ "bool" then .bool
  else if uri == commonTags ++ "int" then .int
  else if uri == commonTags ++ "float" then .float
  else if uri == commonTags ++ "binary" then .binary
  else if uri == commonTags ++ "timestamp" then .timestamp
  else if uri == commonTags ++ "omap" then .omap
  else if uri == commonTags ++ "pairs" then .pairs
  else if uri == commonTags ++ "set" then .set
  else if uri == commonTags ++ "str" then .str
  else if uri == commonTags ++ "seq" then .seq
  else if uri == commonTags ++ "map" then .map
  else if uri == commonTags ++ "merge" then .merge
  else if uri == commonTags ++ "value" then .value
  else .other uri

/-! ## Texts of a kind -/

/-- The text behind a sign, if there is one. -/
def afterSign : List Char → List Char
  | '+' :: cs => cs
  | '-' :: cs => cs
  | cs => cs

/-- Whether `c` is a decimal digit or the low line that may stand between digits. -/
def isDigitOrLow (c : Char) : Bool := c.isDigit || c == '_'

/-- Whether the text is a truth value. -/
def isBoolText (cs : List Char) : Bool :=
  ["yes", "Yes", "YES", "no", "No", "NO", "true", "True", "TRUE", "false", "False", "FALSE",
    "on", "On", "ON", "off", "Off", "OFF"].contains (String.ofList cs)

/-- Whether the text is a list of sexagesimal places behind colons, with `ending` behind them. -/
def isSexagesimal (ending : List Char → Bool) : Nat → List Char → Bool
  | 0, _ => false
  | fuel + 1, ':' :: a :: b :: rest =>
    (a.toNat < '6'.toNat && a.isDigit && b.isDigit
        && (ending rest || isSexagesimal ending fuel rest))
      || (a.isDigit && (ending (b :: rest) || isSexagesimal ending fuel (b :: rest)))
  | _ + 1, [':', a] => a.isDigit && ending []
  | _, _ => false

/-- Whether the text is an exponent with its sign. -/
def isExponent : List Char → Bool
  | e :: s :: d :: ds =>
    (e == 'e' || e == 'E') && (s == '+' || s == '-') && (d :: ds).all Char.isDigit
  | _ => false

/-- Whether the text is a fraction behind its point, with an exponent or without. -/
def isFraction (cs : List Char) : Bool :=
  let rest := cs.dropWhile isDigitOrLow
  rest.isEmpty || isExponent rest

/-- Whether the text is a floating-point number. -/
def isFloatText (cs : List Char) : Bool :=
  let body := afterSign cs
  (match body with
    | d :: _ =>
      d.isDigit
        && (match body.dropWhile isDigitOrLow with
          | '.' :: rest => isFraction rest
          | rest =>
            isSexagesimal
              (fun r => match r with
                | '.' :: fraction => fraction.all isDigitOrLow
                | _ => false)
              (rest.length + 1) rest)
    | [] => false)
  || (match cs with
    | '.' :: d :: rest => d.isDigit && isFraction rest
    | _ => false)
  || [".inf", ".Inf", ".INF"].contains (String.ofList body)
  || [".nan", ".NaN", ".NAN"].contains (String.ofList cs)

/-- Whether the text is an integer. -/
def isIntText (cs : List Char) : Bool :=
  match afterSign cs with
  | '0' :: 'b' :: d :: ds => (d :: ds).all fun c => c == '0' || c == '1' || c == '_'
  | '0' :: 'x' :: d :: ds => (d :: ds).all fun c => (hexValue? c).isSome || c == '_'
  | '0' :: ds => ds.all fun c => ('0' ≤ c && c ≤ '7') || c == '_'
  | d :: ds =>
    d.isDigit
      && (ds.all isDigitOrLow
        || (let rest := ds.dropWhile isDigitOrLow
            isSexagesimal List.isEmpty (rest.length + 1) rest))
  | [] => false

/-- Whether the text is null. -/
def isNullText (cs : List Char) : Bool :=
  ["", "~", "null", "Null", "NULL"].contains (String.ofList cs)

/-! ## Moments -/

/-- The parts of a moment as they are written. -/
structure MomentText where
  year : List Char
  month : List Char
  day : List Char
  clock : Option (List Char × List Char × List Char × List Char) := none
  /-- The sign, the hours and the minutes of an offset; universal time has none of them. -/
  zone : Option (Option (Char × List Char × List Char)) := none

/-- Splits off one or two digits. -/
def oneOrTwo? : List Char → Option (List Char × List Char)
  | a :: b :: rest =>
    if a.isDigit then (if b.isDigit then some ([a, b], rest) else some ([a], b :: rest)) else none
  | [a] => if a.isDigit then some ([a], []) else none
  | [] => none

/-- Splits off exactly two digits. -/
def two? : List Char → Option (List Char × List Char)
  | a :: b :: rest => if a.isDigit && b.isDigit then some ([a, b], rest) else none
  | _ => none

/-- Splits off a given character. -/
def mark? (m : Char) : List Char → Option (List Char)
  | c :: rest => if c == m then some rest else none
  | [] => none

/-- Whether `c` may stand between the parts of a moment. -/
def isMomentGap (c : Char) : Bool := c == ' ' || c == '\t'

/-- Reads the zone at the end of a moment. -/
def zone? (cs : List Char) : Option (Option (Option (Char × List Char × List Char))) :=
  match cs.dropWhile isMomentGap with
  | [] => if cs.isEmpty then some none else none
  | ['Z'] => some (some none)
  | s :: rest =>
    if s == '+' || s == '-' then
      match oneOrTwo? rest with
      | some (h, []) => some (some (some (s, h, [])))
      | some (h, rest) =>
        match (mark? ':' rest).bind two? with
        | some (m, []) => some (some (some (s, h, m)))
        | _ => none
      | none => none
    else none

/-- Reads the time of day and the zone behind it. -/
def clock? (date : MomentText) (cs : List Char) : Option MomentText := do
  let (hour, cs) ← oneOrTwo? cs
  let (minute, cs) ← (← mark? ':' cs) |> two?
  let (second, cs) ← (← mark? ':' cs) |> two?
  let (fraction, cs) :=
    match cs with
    | '.' :: rest => (rest.takeWhile Char.isDigit, rest.dropWhile Char.isDigit)
    | _ => ([], cs)
  let zone ← zone? cs
  return { date with clock := some (hour, minute, second, fraction), zone }

/-- The text without one line feed at its end. -/
def withoutLastFeed (cs : List Char) : List Char :=
  if cs.getLast? = some '\n' then cs.dropLast else cs

/-- Reads a date or a moment.  One line feed at the end does not count. -/
def momentText? (cs : List Char) : Option MomentText := do
  let (y₁, cs) ← two? (withoutLastFeed cs)
  let (y₂, cs) ← two? cs
  let (month, cs) ← (← mark? '-' cs) |> oneOrTwo?
  let (day, cs) ← (← mark? '-' cs) |> oneOrTwo?
  let date : MomentText := { year := y₁ ++ y₂, month, day }
  match cs with
  | [] => return date
  | c :: rest =>
    if c == 'T' || c == 't' then clock? date rest
    else if isMomentGap c then clock? date (rest.dropWhile isMomentGap)
    else none

/-- Whether the text is a date, with two digits for the month and the day, or a moment. -/
def isTimestampText (cs : List Char) : Bool :=
  match momentText? cs with
  | none => false
  | some m => m.clock.isSome || (m.month.length == 2 && m.day.length == 2)

namespace Tag

/-- The tag of the marks that are kept for later use. -/
def reserved : Tag := .other (commonTags ++ "yaml")

/-- The tag of a text without halves of pairs. -/
def ofChars (text : List Char) : Tag :=
  let c := text.headD endMark
  let cs := withoutLastFeed text
  if "yYnNtTfFoO".toList.contains c && isBoolText cs then .bool
  else if (c.isDigit || "-+.".toList.contains c) && isFloatText cs then .float
  else if (c.isDigit || "-+".toList.contains c) && isIntText cs then .int
  else if cs == ['<', '<'] then .merge
  else if (text.isEmpty || "~nN".toList.contains c) && isNullText cs then .null
  else if c.isDigit && isTimestampText cs then .timestamp
  else if cs == ['='] then .value
  else if cs == ['!'] || cs == ['&'] || cs == ['*'] then reserved
  else .str

/-- The tag that follows from the text of a scalar. -/
def ofText (text : List CodePoint) : Tag :=
  match CodePoint.chars? text with
  | some cs => ofChars cs
  | none => .str

end Tag
end Yaml
end RouteAudit
