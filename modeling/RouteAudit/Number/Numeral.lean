import RouteAudit.Number.Binary64
import RouteAudit.Text.Digit

/-!
# Numerals

Reading an integer in a base, and a floating-point number in base ten.  Blanks around a numeral and
one sign in front of it are allowed, and the digits may be those of any script.  A numeral in base
two, eight or sixteen may begin with the mark of its base; in any other base there is a limit on the
number of digits, both for reading an integer and for writing one.
-/

set_option autoImplicit false

namespace RouteAudit
namespace Numeral

/-- The value of a digit or of a letter that is used as a digit. -/
def digitValue? (c : Char) : Option Nat :=
  if c.isDigit then some (c.toNat - '0'.toNat)
  else if c.isLower then some (c.toNat - 'a'.toNat + 10)
  else if c.isUpper then some (c.toNat - 'A'.toNat + 10)
  else none

/-- The value of digits in a base, behind digits with the value `acc`. -/
def digitsValue? (base : Nat) : Nat → List Char → Option Nat
  | acc, [] => some acc
  | acc, c :: cs =>
    match digitValue? c with
    | some d => if d < base then digitsValue? base (acc * base + d) cs else none
    | none => none

/-- The value of one digit or more in a base. -/
def natIn? (base : Nat) (cs : List Char) : Option Nat :=
  if cs.isEmpty then none else digitsValue? base 0 cs

/-- The sign in front of a numeral, and what follows it. -/
def sign : List Char → Bool × List Char
  | '-' :: cs => (true, cs)
  | '+' :: cs => (false, cs)
  | cs => (false, cs)

/-- The digits behind the mark of the base. -/
def afterBase (base : Nat) : List Char → List Char
  | '0' :: m :: cs =>
    let lower := m.toLower
    if (base = 2 && lower = 'b') || (base = 8 && lower = 'o') || (base = 16 && lower = 'x') then cs
    else '0' :: m :: cs
  | cs => cs

/-- The most digits that an integer may have where it is read or written in base ten. -/
def digitLimit : Nat := 4300

/-- Why a text is no integer. -/
inductive Fault where
  /-- It does not have the form of one. -/
  | form
  /-- It has too many digits. -/
  | tooLong (digits : Nat)
  deriving DecidableEq, Repr

/-- Whether `c` is a digit in a base. -/
def isDigitIn (base : Nat) (c : Char) : Bool := (digitValue? c).any (· < base)

/-- Reads an integer in a base. -/
def intIn (base : Nat) (text : List Char) : Except Fault Int :=
  let (negative, cs) := sign (Text.plainDigits text)
  let ds := afterBase base cs
  let size := (ds.takeWhile (isDigitIn base)).length
  if !([2, 4, 8, 16, 32].contains base) && digitLimit < size then .error (.tooLong size)
  else
    match natIn? base ds with
    | some n => .ok (if negative then -(n : Int) else n)
    | none => .error .form

/-- The first natural number that has too many digits. -/
def tooLongToWrite : Nat := Nat.pow 10 digitLimit

/-- An integer in base ten, unless it has too many digits. -/
def intText? (n : Int) : Option String :=
  if n.natAbs < tooLongToWrite then some (toString n) else none

/-- The digits read so far in front of the exponent: all of them, and how many of them stand behind
the point. -/
def fraction (cs : List Char) : List Char × Nat × List Char :=
  let whole := cs.takeWhile Char.isDigit
  match cs.dropWhile Char.isDigit with
  | '.' :: rest =>
    let part := rest.takeWhile Char.isDigit
    (whole ++ part, part.length, rest.dropWhile Char.isDigit)
  | rest => (whole, 0, rest)

/-- Reads the exponent at the end of a numeral. -/
def exponent? : List Char → Option Int
  | [] => some 0
  | e :: cs =>
    if e = 'e' || e = 'E' then
      let (negative, ds) := sign cs
      (natIn? 10 ds).map fun n => if negative then -(n : Int) else n
    else none

/-- Reads a floating-point number without its sign. -/
def magnitude? (negative : Bool) (cs : List Char) : Option Binary64 :=
  let word := String.ofList (cs.map Char.toLower)
  if word = "inf" || word = "infinity" then some (.inf negative)
  else if word = "nan" then some .nan
  else
    let (ds, places, rest) := fraction cs
    match natIn? 10 ds, exponent? rest with
    | some m, some e => some (.ofDecimal negative m (e - places))
    | _, _ => none

/-- Reads a floating-point number. -/
def float? (text : List Char) : Option Binary64 :=
  let (negative, cs) := sign (Text.plainDigits text)
  magnitude? negative cs

/-- Digits are read from the left: one more digit counts once, and those before it once more in
the base. -/
theorem digitsValue?_concat {base d : Nat} {c : Char} (hd : digitValue? c = some d) (hb : d < base)
    (cs : List Char) (acc : Nat) :
    digitsValue? base acc (cs ++ [c]) = (digitsValue? base acc cs).map (· * base + d) := by
  induction cs generalizing acc with
  | nil => simp [digitsValue?, hd, hb]
  | cons x xs ih =>
    simp only [List.cons_append, digitsValue?]
    split
    · split
      · exact ih _
      · rfl
    · rfl

end Numeral
end RouteAudit
