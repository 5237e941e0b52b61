import RouteAudit.Number.Binary64

/-!
# The shortest decimal of a floating-point number

The decimal shown for a number has the fewest digits that still read back as that number, and is
the nearest of those to it.  The reals that read back as a number are an interval around it, half
way to each neighbour, with its ends if and only if the mantissa is even.  For one digit, two
digits and so on up to seventeen, the two multiples of a power of ten around the number are tried.

`Decimal.Layout` has the decisions that are not about the value: where the positional form ends
and how an exponent is written.
-/

set_option autoImplicit false

namespace RouteAudit
namespace Decimal

/-- The interval of reals that read back as `m * 2 ^ e`, with all of it multiplied by `4` over the
common denominator `den`: the lower end, the number, the upper end. -/
structure Interval where
  low : Nat
  mid : Nat
  high : Nat
  den : Nat
  closed : Bool

/-- The interval of a finite number that is not zero. -/
def interval (m : Nat) (e : Int) : Interval :=
  let down := if m = Nat.pow 2 52 ∧ -1074 < e then 1 else 2
  let (u, d) := if 0 ≤ e then (Nat.pow 2 e.toNat, 1) else (1, Nat.pow 2 (-e).toNat)
  ⟨(4 * m - down) * u, 4 * m * u, (4 * m + 2) * u, 4 * d, m % 2 == 0⟩

/-- Whether `c * 10 ^ k` lies in the interval. -/
def Interval.holds (i : Interval) (c : Nat) (k : Int) : Bool :=
  let (x, scale) :=
    if 0 ≤ k then (c * Nat.pow 10 k.toNat * i.den, 1) else (c * i.den, Nat.pow 10 (-k).toNat)
  let low := i.low * scale
  let high := i.high * scale
  if i.closed then low ≤ x && x ≤ high else low < x && x < high

/-- The multiple of `10 ^ k` just below the number, and whether the one above is nearer: less than,
equal or greater compares the distance below with the distance above. -/
def Interval.below (i : Interval) (k : Int) : Nat × Ordering :=
  let (num, den) :=
    if 0 ≤ k then (i.mid, i.den * Nat.pow 10 k.toNat) else (i.mid * Nat.pow 10 (-k).toNat, i.den)
  let q := num / den
  (q, compare (2 * (num % den)) den)

/-- The nearest multiple of `10 ^ k` that reads back, if there is one; a tie goes to the even
one. -/
def Interval.candidate? (i : Interval) (k : Int) : Option Nat :=
  let (q, side) := i.below k
  match i.holds q k, i.holds (q + 1) k with
  | false, false => none
  | true, false => some q
  | false, true => some (q + 1)
  | true, true =>
    match side with
    | .lt => some q
    | .gt => some (q + 1)
    | .eq => some (if q % 2 = 0 then q else q + 1)

/-- The least `d` with the number below `10 ^ d`, looked for from `d` downwards. -/
def Interval.magnitude (i : Interval) : Nat → Int → Int
  | 0, d => d
  | fuel + 1, d =>
    let k := d - 1
    let fits :=
      if 0 ≤ k then i.mid < i.den * Nat.pow 10 k.toNat else i.mid * Nat.pow 10 (-k).toNat < i.den
    if fits then magnitude i fuel k else d

/-- Tries one digit, two digits and so on: the digits as a number and the power of ten. -/
def Interval.search (i : Interval) (top : Int) : Nat → Nat → Nat × Int
  | 0, digits => ((i.below (top - digits)).1, top - digits)
  | fuel + 1, digits =>
    match i.candidate? (top - digits) with
    | some c => (c, top - digits)
    | none => search i top fuel (digits + 1)

/-- A number without the zeros at its end, and how many there were. -/
def stripZeros : Nat → Nat → Nat × Nat
  | 0, n => (n, 0)
  | fuel + 1, n =>
    if n ≠ 0 ∧ n % 10 = 0 then
      let (m, z) := stripZeros fuel (n / 10)
      (m, z + 1)
    else (n, 0)

/-- The shortest digits of a finite number that is not zero, and where the point goes: the value
is the digits behind a point, times ten to the second part. -/
def shortest (m : Nat) (e : Int) : List Char × Int :=
  let i := interval m e
  let guess : Int := ((m.log2 : Int) + e) * 30103 / 100000 + 2
  let top := i.magnitude 5 guess
  let (c, k) := i.search top 17 1
  let (c, z) := stripZeros 20 c
  let ds := Nat.toDigits 10 c
  (ds, k + z + ds.length)

/-- How a decimal is written. -/
structure Layout where
  /-- The positional form is used when the point is to the right of this place, -/
  leastPoint : Int
  /-- and not to the right of this one. -/
  greatestPoint : Int
  /-- The mark of an exponent. -/
  mark : Char
  /-- The least number of digits of an exponent. -/
  exponentDigits : Nat
  /-- The texts of an infinity and of what is not a number. -/
  inf : String
  nan : String

/-- The digits of `n`. -/
def digits (n : Nat) : List Char := Nat.toDigits 10 n

/-- An exponent with its sign. -/
def Layout.exponent (l : Layout) (n : Int) : List Char :=
  let ds := digits n.natAbs
  l.mark :: (if n < 0 then '-' else '+')
    :: List.replicate (l.exponentDigits - ds.length) '0' ++ ds

/-- Digits and the place of their point, written out. -/
def Layout.place (l : Layout) (ds : List Char) (point : Int) : List Char :=
  if l.leastPoint < point ∧ point ≤ l.greatestPoint then
    if point ≤ 0 then '0' :: '.' :: List.replicate (-point).toNat '0' ++ ds
    else
      let n := point.toNat
      if ds.length ≤ n then ds ++ List.replicate (n - ds.length) '0' ++ ['.', '0']
      else ds.take n ++ '.' :: ds.drop n
  else
    match ds with
    | [] => []
    | [d] => d :: l.exponent (point - 1)
    | d :: rest => d :: '.' :: rest ++ l.exponent (point - 1)

/-- The text of a number. -/
def Layout.text (l : Layout) : Binary64 → String
  | .nan => l.nan
  | .inf s => if s then "-" ++ l.inf else l.inf
  | .finite s m e =>
    let body :=
      if m = 0 then ['0', '.', '0']
      else
        let (ds, point) := shortest m e
        l.place ds point
    String.ofList (if s then '-' :: body else body)

end Decimal
end RouteAudit
