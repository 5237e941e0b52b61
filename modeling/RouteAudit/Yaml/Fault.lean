import RouteAudit.Text.CodePoint
import RouteAudit.Yaml.Calendar

/-!
# What can be wrong with a table's text

Most faults are in the form of the text and need no telling apart.  A few come up only when a
scalar is given a meaning that its text does not have.
-/

set_option autoImplicit false

namespace RouteAudit
namespace Yaml

/-- Why a text gives no value. -/
inductive Fault where
  /-- The text is not well formed, or names a value that does not exist. -/
  | malformed (what : String)
  /-- A code point beyond the last one. -/
  | codePoint (number : Nat)
  /-- A scalar that should be a number has no text. -/
  | emptyNumber
  /-- A scalar that should be an integer is none in this base. -/
  | notInteger (base : Nat) (text : List CodePoint)
  /-- An integer is written with too many digits. -/
  | tooManyDigits (digits : Nat)
  /-- A scalar that should be a floating-point number is none. -/
  | notFloat (text : List CodePoint)
  /-- A floating-point number has too many places in base sixty. -/
  | tooManyPlaces
  /-- A scalar that should be a truth value is none. -/
  | notBool (text : List CodePoint)
  /-- A scalar that should be a moment is none. -/
  | notMoment
  /-- A mapping stands where a moment should. -/
  | momentOfMapping
  /-- A date or a time of day that does not exist. -/
  | calendar (fault : CalendarFault)
  deriving DecidableEq, Repr

namespace Fault

/-- Whether the number of a code point is even too large for a word of the machine. -/
def isBeyondWords (number : Nat) : Bool := 0x7FFFFFFF < number

/-- Texts are shown whole, between quotes. -/
def shown (ps : List CodePoint) : String := String.ofList (CodePoint.quotedAll ps)

/-- How much of a text is shown where it should be an integer. -/
def shownLimit : Nat := 200

/-- A sentence about the fault. -/
def message : Fault → String
  | .malformed what => what
  | .codePoint n =>
    if isBeyondWords n then "Python int too large to convert to C int"
    else "chr() arg not in range(0x110000)"
  | .emptyNumber => "string index out of range"
  | .notInteger base t =>
    "invalid literal for int() with base " ++ toString base ++ ": "
      ++ String.ofList ((CodePoint.quotedAll t).take shownLimit)
  | .tooManyDigits n =>
    "Exceeds the limit (4300 digits) for integer string conversion: value has " ++ toString n
      ++ " digits; use sys.set_int_max_str_digits() to increase the limit"
  | .notFloat t => "could not convert string to float: " ++ shown t
  | .tooManyPlaces => "int too large to convert to float"
  | .notBool t => shown t
  | .notMoment => "'NoneType' object has no attribute 'groupdict'"
  | .momentOfMapping => "expected string or bytes-like object, got 'list'"
  | .calendar f => f.message

end Fault
end Yaml
end RouteAudit
