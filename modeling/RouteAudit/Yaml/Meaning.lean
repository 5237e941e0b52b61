import RouteAudit.Number.Numeral
import RouteAudit.Text.Base64
import RouteAudit.Text.Lower
import RouteAudit.Yaml.Node
import RouteAudit.Yaml.Value

/-!
# The meaning of a scalar

What value the text of a scalar stands for under a tag.  Low lines between digits do not count, and
numbers with colons are written in base sixty.  A tag that does not fit the text, which only happens
when the tag is written out, is a fault.
-/

set_option autoImplicit false

namespace RouteAudit
namespace Yaml

/-- The value of places in base sixty, the last place first. -/
def sexagesimal : List Int → Int
  | [] => 0
  | d :: ds => d + 60 * sexagesimal ds

/-- The sum of places in base sixty, the last place first, with every step rounded.  `unit` is the
value of the next place, which has to be a floating-point number too. -/
def sexagesimalFloat (sum : Binary64) (unit : Nat) : List Binary64 → Except Fault Binary64
  | [] => .ok sum
  | d :: ds =>
    match Binary64.ofInt unit with
    | .inf _ => .error .tooManyPlaces
    | u => sexagesimalFloat (sum.add (d.mul u)) (unit * 60) ds

/-- The text without its low lines. -/
def withoutLow (ps : List CodePoint) : List CodePoint := ps.filter (· != .char '_')

/-- The pieces of a text between its colons. -/
def places : List CodePoint → List (List CodePoint)
  | [] => [[]]
  | p :: ps =>
    if p = .char ':' then [] :: places ps
    else
      match places ps with
      | [] => [[p]]
      | w :: ws => (p :: w) :: ws

/-- Reads an integer in a base, with the fault that it is none. -/
def intIn (base : Nat) (ps : List CodePoint) : Except Fault Int :=
  match Numeral.intIn base (ps.map CodePoint.toChar) with
  | .ok n => .ok n
  | .error (.tooLong n) => .error (.tooManyDigits n)
  | .error .form => .error (.notInteger base ps)

/-- Reads an integer behind its sign. -/
def unsignedInt (ps : List CodePoint) : Except Fault Int :=
  match ps with
  | [] => .error .emptyNumber
  | [.char '0'] => .ok 0
  | .char '0' :: .char 'b' :: ds => intIn 2 ds
  | .char '0' :: .char 'x' :: ds => intIn 16 ds
  | .char '0' :: _ => intIn 8 ps
  | _ =>
    if ps.contains (.char ':') then do
      let ns ← (places ps).mapM (intIn 10)
      return sexagesimal ns.reverse
    else intIn 10 ps

/-- The value of an integer. -/
def intMeaning (text : List CodePoint) : Except Fault Int :=
  match withoutLow text with
  | [] => .error .emptyNumber
  | .char '-' :: ps => (unsignedInt ps).map (- ·)
  | .char '+' :: ps => unsignedInt ps
  | ps => unsignedInt ps

/-- Reads a floating-point number, with the fault that it is none. -/
def float (ps : List CodePoint) : Except Fault Binary64 :=
  match Numeral.float? (ps.map CodePoint.toChar) with
  | some x => .ok x
  | none => .error (.notFloat ps)

/-- Reads a floating-point number behind its sign.  What is not a number by its own spelling is one
and the same everywhere, and otherwise it belongs to the mark. -/
def unsignedFloat (mark : Nat) (negative : Bool) (ps : List CodePoint) : Except Fault Value :=
  let signed (x : Binary64) : Value :=
    match x with
    | .nan => .nan mark
    | x => .float (if negative then x.neg else x)
  if ps = CodePoint.ofChars ".inf".toList then .ok (signed (.inf false))
  else if ps = CodePoint.ofChars ".nan".toList then .ok (.float .nan)
  else if ps.contains (.char ':') then do
    let xs ← (places ps).mapM float
    return signed (← sexagesimalFloat (.zero false) 1 xs.reverse)
  else (float ps).map signed

/-- The value of a floating-point number. -/
def floatMeaning (mark : Nat) (text : List CodePoint) : Except Fault Value :=
  match Text.lower (withoutLow text) with
  | [] => .error .emptyNumber
  | .char '-' :: ps => unsignedFloat mark true ps
  | .char '+' :: ps => unsignedFloat mark false ps
  | ps => unsignedFloat mark false ps

/-- The value of a truth value. -/
def boolMeaning (text : List CodePoint) : Except Fault Bool :=
  let word := Text.lower text
  let isOneOf (words : List String) : Bool :=
    words.any fun w => word == CodePoint.ofChars w.toList
  if isOneOf ["yes", "true", "on"] then .ok true
  else if isOneOf ["no", "false", "off"] then .ok false
  else .error (.notBool word)

/-- The number that digits stand for. -/
def digitsNat (cs : List Char) : Nat := (Numeral.natIn? 10 cs).getD 0

/-- The millionths of a second that the digits of a fraction stand for. -/
def micros (cs : List Char) : Nat :=
  let ds := cs.take 6
  digitsNat ds * Nat.pow 10 (6 - ds.length)

/-- The value of a date or of a moment. -/
def momentMeaning (text : List CodePoint) : Except Fault Value :=
  match momentText? (text.map CodePoint.toChar) with
  | none => .error .notMoment
  | some t =>
    let year := digitsNat t.year
    let month := digitsNat t.month
    let day := digitsNat t.day
    match t.clock with
    | none =>
      match Date.mk? year month day with
      | .ok d => .ok (.date d)
      | .error e => .error (.calendar e)
    | some (hour, minute, second, fraction) =>
      let offset : Option Int :=
        t.zone.map fun z =>
          match z with
          | none => 0
          | some (s, h, m) =>
            let seconds : Int := digitsNat h * 3600 + digitsNat m * 60
            if s == '-' then -seconds else seconds
      match Moment.mk? year month day (digitsNat hour) (digitsNat minute) (digitsNat second)
          (micros fraction) offset with
      | .ok m => .ok (.moment m)
      | .error e => .error (.calendar e)

/-- The value of a sequence of bytes. -/
def bytesMeaning (text : List CodePoint) : Except Fault Value :=
  let cs := text.map CodePoint.toChar
  if cs.all (·.toNat < 0x80) then
    match Text.base64? cs with
    | some bs => .ok (.bytes bs)
    | none => .error (.malformed "not in base 64")
  else .error (.malformed "not in base 64")

/-- The value of a scalar under a tag; none when the tag is not one for scalars.  `mark` tells the
scalar from all others. -/
def scalarMeaning? (mark : Nat) (tag : Tag) (text : List CodePoint) : Option (Except Fault Value) :=
  match tag with
  | .null => some (.ok .null)
  | .bool => some ((boolMeaning text).map .bool)
  | .int => some ((intMeaning text).map .int)
  | .float => some (floatMeaning mark text)
  | .binary => some (bytesMeaning text)
  | .timestamp => some (momentMeaning text)
  | .str => some (.ok (.ofPoints text))
  | _ => none

end Yaml
end RouteAudit
