/-!
# Blank characters

The blanks that may stand between two parts of a pattern, and that end a word when text is
wrapped: the ASCII controls from tab to carriage return, the four separators below the space, the
space itself and the spaces of Unicode.  The zero-width space U+200B, the byte order mark U+FEFF
and U+180E are not blanks.
-/

set_option autoImplicit false

namespace RouteAudit
namespace Text

/-- Whether `c` is a blank. -/
def isBlank (c : Char) : Bool :=
  let n := c.toNat
  (0x09 ≤ n && n ≤ 0x0D) || (0x1C ≤ n && n ≤ 0x20) || n == 0x85 || n == 0xA0 || n == 0x1680
    || (0x2000 ≤ n && n ≤ 0x200A) || n == 0x2028 || n == 0x2029 || n == 0x202F || n == 0x205F
    || n == 0x3000

/-- Whether `c` ends a line for the purpose of measuring a text: beside the line feed, the other
line and page breaks and the three upper separators. -/
def isLineBreak (c : Char) : Bool :=
  let n := c.toNat
  (0x0A ≤ n && n ≤ 0x0D) || (0x1C ≤ n && n ≤ 0x1E) || n == 0x85 || n == 0x2028 || n == 0x2029

/-- The text without the blanks at its end. -/
def trimRight (s : List Char) : List Char := (s.reverse.dropWhile isBlank).reverse

/-- The text without the blanks at either end. -/
def trim (s : List Char) : List Char := trimRight (s.dropWhile isBlank)

/-- The pieces of a text between the places where `p` holds, the empty ones included. -/
def splitAt (p : Char → Bool) : List Char → List (List Char)
  | [] => [[]]
  | c :: cs =>
    if p c then [] :: splitAt p cs
    else
      match splitAt p cs with
      | [] => [[c]]
      | w :: ws => (c :: w) :: ws

/-- Splitting always gives a piece. -/
theorem splitAt_ne_nil (p : Char → Bool) (s : List Char) : splitAt p s ≠ [] := by
  induction s with
  | nil => simp [splitAt]
  | cons c cs ih =>
    simp only [splitAt]
    split
    · simp
    · split <;> simp

/-- The non-empty runs of characters that are not blank. -/
def words (s : List Char) : List (List Char) := (splitAt isBlank s).filter (· ≠ [])

end Text
end RouteAudit
