/-!
# Sets of characters given by ranges

A class of characters in a standard is a long list of ranges of code points.  `CodeRanges` keeps
such a list and `CodeRanges.has` asks whether a character is in it by bisection, so the list has
to be in increasing order with gaps between the ranges.  The tables themselves are in
`Text/Word.lean`, `Text/Printable.lean` and `Text/Cells.lean`.
-/

set_option autoImplicit false

namespace RouteAudit
namespace Text

/-- A set of code points, as closed ranges in increasing order. -/
structure CodeRanges where
  /-- The ranges, each with its first and its last code point. -/
  ranges : Array (Nat × Nat)

namespace CodeRanges

/-- Whether `n` lies in one of the ranges with an index from `lo` up to, not including, `hi`. -/
def bisect (rs : Array (Nat × Nat)) (n lo hi : Nat) : Bool :=
  if lo < hi then
    match rs[(lo + hi) / 2]? with
    | none => false
    | some (first, last) =>
      if n < first then bisect rs n lo ((lo + hi) / 2)
      else if last < n then bisect rs n ((lo + hi) / 2 + 1) hi
      else true
  else false
termination_by hi - lo

/-- Whether the character `c` is in the set. -/
def has (s : CodeRanges) (c : Char) : Bool := bisect s.ranges c.toNat 0 s.ranges.size

end CodeRanges
end Text
end RouteAudit
