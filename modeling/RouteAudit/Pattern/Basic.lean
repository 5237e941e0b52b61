import RouteAudit.Text.Blank
import RouteAudit.Text.Word

/-!
# Patterns in source text

What the rules look for is a short phrase of source code: fixed words with blanks between them,
such as `new QueryClient (`.  A `Phrase` is a list of pieces that have to follow one another, and a
`Pattern` a list of phrases of which one has to be there.  Each piece takes as much as it can and
never gives any of it back.  For the patterns of this project nothing is missed that way: a run of
blanks or of word characters is always followed by a piece that cannot begin with one of them.

* `Pattern.rest?` — the text after the pattern, when it begins right here;
* `Pattern.find?` — the first place where it begins;
* `Pattern.count` — how many times it occurs, each occurrence counted from behind the one before;
* `Pattern.occurs` — whether it occurs at all.
-/

set_option autoImplicit false

namespace RouteAudit

/-- A piece of a phrase. -/
inductive Piece where
  /-- Exactly this text. -/
  | lit (text : List Char)
  /-- Any number of blanks, also none. -/
  | blanks
  /-- At least one blank. -/
  | gap
  /-- At least one word character. -/
  | word
  deriving DecidableEq, Repr

/-- Pieces that follow one another. -/
abbrev Phrase := List Piece

/-- Phrases of which any may stand. -/
abbrev Pattern := List Phrase

/-- The text behind `p`, when `s` begins with `p`. -/
def afterLit : (p s : List Char) → Option (List Char)
  | [], s => some s
  | _ :: _, [] => none
  | a :: p, b :: s => if a = b then afterLit p s else none

/-- **Beginning with a text.**  `afterLit` finds exactly the texts that begin with `p`. -/
theorem afterLit_eq_some_iff {p s r : List Char} : afterLit p s = some r ↔ s = p ++ r := by
  induction p generalizing s with
  | nil => simp [afterLit, eq_comm]
  | cons a p ih =>
    cases s with
    | nil => simp [afterLit]
    | cons b s =>
      by_cases h : a = b
      · simp [afterLit, h, ih]
      · simp [afterLit, h, Ne.symm h]

/-- The text behind one piece. -/
def Piece.rest? : Piece → List Char → Option (List Char)
  | .lit t, s => afterLit t s
  | .blanks, s => some (s.dropWhile Text.isBlank)
  | .gap, s =>
    match s with
    | [] => none
    | c :: cs => if Text.isBlank c then some (cs.dropWhile Text.isBlank) else none
  | .word, s =>
    match s with
    | [] => none
    | c :: cs => if Text.isWord c then some (cs.dropWhile Text.isWord) else none

/-- The text behind the pieces of a phrase. -/
def Phrase.rest? : Phrase → List Char → Option (List Char)
  | [], s => some s
  | p :: ps, s =>
    match p.rest? s with
    | none => none
    | some r => Phrase.rest? ps r

namespace Pattern

/-- The text behind the first phrase of the pattern that stands at the front of `s`. -/
def rest? (p : Pattern) (s : List Char) : Option (List Char) :=
  p.findSome? (fun phrase => Phrase.rest? phrase s)

/-- An occurrence of a pattern: the text before it, its own text and the text behind it. -/
structure Hit where
  /-- The text before the occurrence. -/
  before : List Char
  /-- The text of the occurrence. -/
  text : List Char
  /-- The text behind the occurrence. -/
  after : List Char
  deriving DecidableEq, Repr

/-- The first place where the pattern begins. -/
def find? (p : Pattern) : List Char → Option Hit
  | [] => (p.rest? []).map fun r => ⟨[], [], r⟩
  | c :: cs =>
    match p.rest? (c :: cs) with
    | some r => some ⟨[], (c :: cs).take ((c :: cs).length - r.length), r⟩
    | none => (find? p cs).map fun h => { h with before := c :: h.before }

/-- Whether the pattern occurs. -/
def occurs (p : Pattern) (s : List Char) : Bool := (p.find? s).isSome

/-- Occurrences of the pattern, the first `skip` characters left out. -/
def countFrom (p : Pattern) : Nat → List Char → Nat
  | _, [] => 0
  | skip + 1, _ :: cs => countFrom p skip cs
  | 0, c :: cs =>
    match p.rest? (c :: cs) with
    | some r => 1 + countFrom p (cs.length - r.length) cs
    | none => countFrom p 0 cs

/-- The number of occurrences of the pattern, each looked for behind the one before. -/
def count (p : Pattern) (s : List Char) : Nat := countFrom p 0 s

/-- The pattern of one fixed text. -/
def lit (t : String) : Pattern := [[.lit t.toList]]

/-- The pattern of several fixed texts. -/
def anyOf (ts : List String) : Pattern := ts.map fun t => [.lit t.toList]

/-- A pattern that occurs nowhere occurs nowhere in the rest of the text either. -/
theorem occurs_cons_of_occurs {p : Pattern} {c : Char} {cs : List Char} (h : p.occurs cs = true) :
    p.occurs (c :: cs) = true := by
  simp only [occurs, find?] at h ⊢
  split
  · rfl
  · simpa using h

end Pattern
end RouteAudit
