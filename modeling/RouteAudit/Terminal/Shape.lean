/-!
# Shapes of text

A `Shape` says what a stretch of text looks like, character by character, and *marks* the parts of
it that are of interest.  A shape is tried at a place by backtracking: of two alternatives the first
one counts, a greedy repetition takes as many rounds as it can and a lazy one as few, and what
follows decides how many are left.

* `Shape.follow` — tries a shape at a place, and what comes behind it;
* `Shape.marks` — the marked parts of all stretches of a text that have a shape, from the left and
  each behind the one before.
-/

set_option autoImplicit false

namespace RouteAudit
namespace Terminal

/-- What a stretch of text looks like. -/
inductive Shape where
  /-- One character of a class. -/
  | char (is : Char → Bool)
  /-- One shape behind another. -/
  | seq (a b : Shape)
  /-- The first shape, or else the second. -/
  | either (a b : Shape)
  /-- A shape several times over, at least and at most so many times. -/
  | many (least : Nat) (most : Option Nat) (greedy : Bool) (s : Shape)
  /-- A shape that is of interest. -/
  | mark (s : Shape)
  /-- The place where a word begins or ends (`there`), or one where none does. -/
  | edge (isWord : Char → Bool) (there : Bool)
  /-- A place that is not behind a character of a class. -/
  | notBehind (is : Char → Bool)

/-- A place in a text. -/
structure Place where
  /-- How many characters come before. -/
  index : Nat
  /-- The character in front. -/
  before : Option Char
  /-- The characters from here on. -/
  rest : List Char
  /-- The marked parts so far, last one first: where each begins and where it ends. -/
  marks : List (Nat × Nat) := []

namespace Shape

/-- Tries a step again and again, then `next`.  It is taken at least `least` times, and at most
`fuel` times. -/
def again (step : (Place → Option Place) → Place → Option Place) (greedy : Bool)
    (next : Place → Option Place) : (fuel least : Nat) → Place → Option Place
  | 0, least, p => if least = 0 then next p else none
  | fuel + 1, least, p =>
    let more := step (again step greedy next fuel (least - 1))
    if least ≠ 0 then more p
    else if greedy then (more p).orElse fun _ => next p
    else (next p).orElse fun _ => more p

/-- Tries a shape at a place and `next` behind it: the place where all of it ends. -/
def follow : Shape → (Place → Option Place) → Place → Option Place
  | .char is, next, p =>
    match p.rest with
    | [] => none
    | c :: cs =>
      if is c then next { p with index := p.index + 1, before := some c, rest := cs } else none
  | .seq a b, next, p => follow a (follow b next) p
  | .either a b, next, p => (follow a next p).orElse fun _ => follow b next p
  | .many least most greedy s, next, p =>
    again (follow s) greedy next (most.getD (least + p.rest.length)) least p
  | .mark s, next, p => follow s (fun q => next { q with marks := (p.index, q.index) :: q.marks }) p
  | .edge isWord there, next, p =>
    if (p.before.any isWord != p.rest.head?.any isWord) == there then next p else none
  | .notBehind is, next, p => if p.before.any is then none else next p

/-- The marked parts of the stretches behind the first `skip` characters. -/
def marksFrom (s : Shape) :
    (skip index : Nat) → (before : Option Char) → List Char → List (Nat × Nat)
  | _, _, _, [] => []
  | skip + 1, index, _, c :: cs => marksFrom s skip (index + 1) (some c) cs
  | 0, index, before, c :: cs =>
    match s.follow some { index, before, rest := c :: cs } with
    | some q => q.marks.reverse ++ marksFrom s (q.index - index - 1) (index + 1) (some c) cs
    | none => marksFrom s 0 (index + 1) (some c) cs

/-- The marked parts of all stretches of a text that have a shape.  A shape is expected to take a
character at least. -/
def marks (s : Shape) (text : List Char) : List (Nat × Nat) := marksFrom s 0 0 none text

/-! ## Making shapes -/

/-- A fixed character. -/
def lit (c : Char) : Shape := .char (· == c)

/-- Shapes one behind the other. -/
def all : List Shape → Shape
  | [] => .many 0 (some 0) true (.char fun _ => true)
  | [s] => s
  | s :: ss => .seq s (all ss)

/-- The first of some shapes. -/
def first : List Shape → Shape
  | [] => .char fun _ => false
  | [s] => s
  | s :: ss => .either s (first ss)

/-- A fixed text. -/
def word (t : String) : Shape := all (t.toList.map lit)

/-- A character out of a text. -/
def oneOf (t : String) : Shape := .char t.toList.contains

/-- Any number of a shape, as many as there are. -/
def anyNumber (s : Shape) : Shape := .many 0 none true s

/-- One shape or more, as many as there are. -/
def several (s : Shape) : Shape := .many 1 none true s

/-- A shape that may be missing. -/
def maybe (s : Shape) : Shape := .many 0 (some 1) true s

/-- Between `least` and `most` of a shape. -/
def upTo (least most : Nat) (s : Shape) : Shape := .many least (some most) true s

end Shape
end Terminal
end RouteAudit
