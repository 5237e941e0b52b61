import RouteAudit.Json
import RouteAudit.Number.Numeral
import RouteAudit.Pattern.Basic

/-!
# Reading JSON

A reader for JSON texts, against which the two ways of writing a value are held.  It knows nothing
of either of them: it takes every text of the format, with any white space between the parts and any
spelling of a character, and also the three words for numbers that are no numbers.

A member that comes up again in an object keeps its place and takes the last value.  A half of a
surrogate pair that stands alone is no character, and a text that names one is not read.

## What is here

* `readChar?` — one character of a quoted text, escaped or not;
* `readNumber?`, `readWord?` — numbers and words;
* `readValue` — a value at the front of a text, with what follows it;
* `Json.read?`, `Json.parse` — the same without a bound, and for a whole text.
-/

set_option autoImplicit false

namespace RouteAudit
namespace Json

/-- White space between the parts of a value. -/
def isSpace (c : Char) : Bool := c = ' ' || c = '\t' || c = '\n' || c = '\r'

/-- The text behind its white space. -/
def skipSpace (s : List Char) : List Char := s.dropWhile isSpace

/-! ## Quoted texts -/

/-- A UTF-16 unit: four digits in base sixteen. -/
def readUnit? : List Char → Option (Nat × List Char)
  | a :: b :: c :: d :: rest => (Numeral.digitsValue? 16 0 [a, b, c, d]).map (·, rest)
  | _ => none

/-- Whether a unit is the first half of a pair. -/
def isFirstHalf (n : Nat) : Bool := 0xD800 ≤ n && n < 0xDC00

/-- Whether a unit is the second half of a pair. -/
def isSecondHalf (n : Nat) : Bool := 0xDC00 ≤ n && n < 0xE000

/-- The character that two halves make. -/
def pairChar (first second : Nat) : Char :=
  Char.ofNat (0x10000 + (first - 0xD800) * 0x400 + (second - 0xDC00))

/-- The second half of a pair, an escape of its own. -/
def readSecondHalf? (s : List Char) : Option (Nat × List Char) :=
  match afterLit ['\\', 'u'] s with
  | none => none
  | some r =>
    match readUnit? r with
    | none => none
    | some (n, r) => if isSecondHalf n then some (n, r) else none

/-- A character by its units, behind the mark of the first one. -/
def readUnits? (s : List Char) : Option (Char × List Char) :=
  match readUnit? s with
  | none => none
  | some (n, r) =>
    if isFirstHalf n then (readSecondHalf? r).map fun (m, r) => (pairChar n m, r)
    else if isSecondHalf n then none
    else some (Char.ofNat n, r)

/-- The character that one behind a backslash stands for. -/
def shortEscape? (c : Char) : Option Char :=
  [('"', '"'), ('\\', '\\'), ('/', '/'), ('b', '\x08'), ('f', '\x0c'), ('n', '\n'), ('r', '\r'),
    ('t', '\t')].lookup c

/-- A character behind a backslash. -/
def readEscape? : List Char → Option (Char × List Char)
  | [] => none
  | e :: r => if e = 'u' then readUnits? r else (shortEscape? e).map (·, r)

/-- One character of a quoted text.  The quote and the controls below the space are none. -/
def readChar? : List Char → Option (Char × List Char)
  | [] => none
  | c :: r =>
    if c = '\\' then readEscape? r
    else if c = '"' || c.toNat < 0x20 then none
    else some (c, r)

/-- A text up to its closing quote, in so many steps at most. -/
def readText : Nat → List Char → Option (List Char × List Char)
  | 0, _ => none
  | steps + 1, s =>
    match afterLit ['"'] s with
    | some r => some ([], r)
    | none =>
      match readChar? s with
      | none => none
      | some (c, r) => (readText steps r).map fun (cs, r) => (c :: cs, r)

/-! ## Numbers and words -/

/-- The digits of an integer without its sign: a zero is alone. -/
def readWhole? : List Char → Option (List Char × List Char)
  | [] => none
  | c :: r =>
    if c = '0' then some (['0'], r)
    else if c.isDigit then some (c :: r.takeWhile Char.isDigit, r.dropWhile Char.isDigit)
    else none

/-- A point with digits behind it, if there is one. -/
def readPlaces (s : List Char) : List Char × List Char :=
  match afterLit ['.'] s with
  | none => ([], s)
  | some r =>
    let places := r.takeWhile Char.isDigit
    if places.isEmpty then ([], s) else ('.' :: places, r.dropWhile Char.isDigit)

/-- The sign of an exponent, if there is one. -/
def readSign : List Char → List Char × List Char
  | '+' :: r => (['+'], r)
  | '-' :: r => (['-'], r)
  | r => ([], r)

/-- An exponent, if there is one. -/
def readExponent : List Char → List Char × List Char
  | [] => ([], [])
  | e :: r =>
    if e = 'e' || e = 'E' then
      let (sign, t) := readSign r
      let digits := t.takeWhile Char.isDigit
      if digits.isEmpty then ([], e :: r)
      else (e :: sign ++ digits, t.dropWhile Char.isDigit)
    else ([], e :: r)

/-- A number without its sign.  One with a point or an exponent is a floating-point number. -/
def readMagnitude? (negative : Bool) (s : List Char) : Option (Json × List Char) :=
  match readWhole? s with
  | none => none
  | some (whole, r) =>
    let (places, r) := readPlaces r
    let (exponent, r) := readExponent r
    if places.isEmpty && exponent.isEmpty then
      (Numeral.natIn? 10 whole).map fun n => (.int (if negative then -(n : Int) else n), r)
    else
      (Numeral.magnitude? negative (whole ++ places ++ exponent)).map fun x => (.float x, r)

/-- A number. -/
def readNumber? (s : List Char) : Option (Json × List Char) :=
  match afterLit ['-'] s with
  | some r => readMagnitude? true r
  | none => readMagnitude? false s

/-- The words that stand for a value. -/
def words : List (String × Json) :=
  [("null", .null), ("true", .bool true), ("false", .bool false), ("NaN", .float .nan),
    ("Infinity", .float (.inf false)), ("-Infinity", .float (.inf true))]

/-- A word that stands for a value. -/
def readWord? (s : List Char) : Option (Json × List Char) :=
  words.findSome? fun (w, j) => (afterLit w.toList s).map (j, ·)

/-! ## Values -/

/-- Gives a member a value: in its place if there is one, else at the end. -/
def setMember (key : String) (v : Json) : List (String × Json) → List (String × Json)
  | [] => [(key, v)]
  | (k, w) :: ms => if k = key then (k, v) :: ms else (k, w) :: setMember key v ms

/-- The members of an object, taken in one after the other. -/
def lastWins (ms : List (String × Json)) : List (String × Json) :=
  ms.foldl (fun acc m => setMember m.1 m.2 acc) []

mutual

/-- A value at the front of a text, behind white space, and what follows it. -/
def readValue : Nat → List Char → Option (Json × List Char)
  | 0, _ => none
  | steps + 1, s =>
    match skipSpace s with
    | '"' :: r => (readText steps r).map fun (cs, r) => (.str (String.ofList cs), r)
    | '[' :: r =>
      match afterLit [']'] (skipSpace r) with
      | some r => some (.arr [], r)
      | none => (readItems steps r).map fun (vs, r) => (.arr vs, r)
    | '{' :: r =>
      match afterLit ['}'] (skipSpace r) with
      | some r => some (.obj [], r)
      | none => (readMembers steps r).map fun (ms, r) => (.obj (lastWins ms), r)
    | r => (readNumber? r).or (readWord? r)

/-- The items of an array up to its end: there is one at least. -/
def readItems : Nat → List Char → Option (List Json × List Char)
  | 0, _ => none
  | steps + 1, s =>
    match readValue steps s with
    | none => none
    | some (v, r) =>
      match skipSpace r with
      | ',' :: r => (readItems steps r).map fun (vs, r) => (v :: vs, r)
      | ']' :: r => some ([v], r)
      | _ => none

/-- The members of an object up to its end: there is one at least. -/
def readMembers : Nat → List Char → Option (List (String × Json) × List Char)
  | 0, _ => none
  | steps + 1, s =>
    match readMember steps s with
    | none => none
    | some (m, r) =>
      match skipSpace r with
      | ',' :: r => (readMembers steps r).map fun (ms, r) => (m :: ms, r)
      | '}' :: r => some ([m], r)
      | _ => none

/-- A key, a colon and a value. -/
def readMember : Nat → List Char → Option ((String × Json) × List Char)
  | 0, _ => none
  | steps + 1, s =>
    match afterLit ['"'] (skipSpace s) with
    | none => none
    | some r =>
      match readText steps r with
      | none => none
      | some (key, r) =>
        match afterLit [':'] (skipSpace r) with
        | none => none
        | some r => (readValue steps r).map fun (v, r) => ((String.ofList key, v), r)

end

/-- The value at the front of a text, and what follows it.  No value has more parts than
characters. -/
def read? (s : List Char) : Option (Json × List Char) := readValue s.length s

/-- The value of a whole text. -/
def parse (s : List Char) : Option Json :=
  match read? s with
  | some (j, r) => if (skipSpace r).isEmpty then some j else none
  | none => none

end Json
end RouteAudit
