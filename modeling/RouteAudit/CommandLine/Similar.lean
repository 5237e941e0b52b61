/-!
# Similar words

A word that is not known may be a known one with a slip.  Two words are compared by the longest
block of characters that they share, then by the longest blocks to the left of it and to the right
of it, and so on.  Of blocks of equal length the one that comes first in the known word is taken,
and then the one that comes first in the other.  Words are similar when at least three fifths of all
their characters are in shared blocks.

`similar` gives the known words that are similar to a word, the best first.
-/

set_option autoImplicit false

namespace RouteAudit
namespace CommandLine

/-- How many characters two texts begin with in common. -/
def commonStart : List Char → List Char → Nat
  | a :: as, b :: bs => if a = b then commonStart as bs + 1 else 0
  | _, _ => 0

/-- A shared block: where it begins in either text, and its length. -/
structure Block where
  left : Nat
  right : Nat
  size : Nat

/-- The longer of two blocks, the first of two that are equally long. -/
def Block.longer (a b : Block) : Block := if a.size < b.size then b else a

/-- The longest block that begins at the start of `a` and somewhere in `b`. -/
def longestAt (i : Nat) (a : List Char) (j : Nat) : List Char → Block
  | [] => ⟨i, j, 0⟩
  | b :: bs => Block.longer ⟨i, j, commonStart a (b :: bs)⟩ (longestAt i a (j + 1) bs)

/-- The longest block that two texts share. -/
def longestBlock (i : Nat) : List Char → List Char → Block
  | [], _ => ⟨i, 0, 0⟩
  | a :: as, b => Block.longer (longestAt i (a :: as) 0 b) (longestBlock (i + 1) as b)

/-- How many characters are in shared blocks.  The first argument bounds the number of blocks in a
row. -/
def sharedCount : Nat → List Char → List Char → Nat
  | 0, _, _ => 0
  | fuel + 1, a, b =>
    let block := longestBlock 0 a b
    if block.size = 0 then 0
    else
      block.size + sharedCount fuel (a.take block.left) (b.take block.right)
        + sharedCount fuel (a.drop (block.left + block.size)) (b.drop (block.right + block.size))

/-- A known word and how similar it is: the shared characters among all. -/
structure Score where
  word : String
  shared : Nat
  total : Nat

/-- How similar a known word is to another. -/
def score (known word : String) : Score where
  word := known
  shared := sharedCount (known.length + 1) known.toList word.toList
  total := known.length + word.length

/-- Whether a score is high enough. -/
def Score.isClose (s : Score) : Bool := 3 * s.total ≤ 10 * s.shared

/-- Whether one score goes before another: the higher one, and of equal ones the later word. -/
def Score.before (a b : Score) : Bool :=
  b.shared * a.total < a.shared * b.total
    || (b.shared * a.total == a.shared * b.total && decide (b.word ≤ a.word))

/-- The known words that are similar to a word, the best first, three at most. -/
def similar (known : List String) (word : String) : List String :=
  (((known.map fun k => score k word).filter Score.isClose).mergeSort Score.before).take 3
    |>.map Score.word

end CommandLine
end RouteAudit
