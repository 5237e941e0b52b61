import RouteAudit.Terminal.Styled

/-!
# Wrapping text

A text is printed line by line.  Tabs go to the next multiple of eight cells.  A line that is too
wide is broken between words, and the blanks behind a word stay on its line as far as they fit.  A
word that is too wide for a line of its own is folded over several lines, or cut.

`Styled.wrapLines` gives the lines of a text in a width, `Styled.openLines` those of a text that is
not wrapped.
-/

set_option autoImplicit false

namespace RouteAudit
namespace Terminal

/-- What becomes of a word that is too wide for a line. -/
inductive Overflow where
  /-- It goes on in the next line. -/
  | fold
  /-- It ends with three points in one cell. -/
  | ellipsis
  deriving DecidableEq, Repr

/-- Where a line stands in its width. -/
inductive Justify where
  /-- At the left, with nothing behind it. -/
  | none
  | left
  | center
  | right
  deriving DecidableEq, Repr

/-- Blanks. -/
def blanks (n : Nat) : List Char := List.replicate n ' '

/-- The distance of tab stops. -/
def tabSize : Nat := 8

/-- The parts of a line, each with the tab at its end. -/
def tabParts (line : List Char) : List (List Char) :=
  let parts := Text.splitAt (· == '\t') line
  parts.dropLast.map (· ++ ['\t']) ++ (parts.getLast?.filter (· ≠ [])).toList

namespace Styled

/-- A part of a line with `fill` blanks more than the one in the place of its tab. -/
def fillTab (fill : Nat) (t : Styled) : Styled where
  text := t.text.dropLast ++ blanks (fill + 1)
  spans := t.spans.map fun s =>
    if t.text.length ≤ s.stop then { s with stop := s.stop + fill } else s

/-- The parts of a line with blanks for their tabs, from a cell on. -/
def fillTabs (cell : Nat) : List Styled → List Styled
  | [] => []
  | part :: parts =>
    if part.text.getLast? = some '\t' then
      let cell := cell + Text.cellLen (part.text.dropLast ++ [' '])
      let fill := if cell % tabSize = 0 then 0 else tabSize - cell % tabSize
      part.fillTab fill :: fillTabs (cell + fill) parts
    else part :: fillTabs (cell + Text.cellLen part.text) parts

/-- A line with blanks for its tabs. -/
def expandTabs (line : Styled) : Styled :=
  if line.text.contains '\t' then concat (fillTabs 0 (line.cut 0 (tabParts line.text))) else line

end Styled

/-- The words of a line, each with the blanks behind it, the first also with those in front. -/
def wordsWithBlanks : Nat → List Char → List (List Char)
  | 0, _ => []
  | fuel + 1, s =>
    let front := s.takeWhile Text.isBlank
    let s := s.dropWhile Text.isBlank
    let word := s.takeWhile (!Text.isBlank ·)
    let s := s.dropWhile (!Text.isBlank ·)
    if word.isEmpty then []
    else
      let behind := s.takeWhile Text.isBlank
      (front ++ word ++ behind) :: wordsWithBlanks fuel (s.dropWhile Text.isBlank)

/-- The state of breaking a line. -/
structure Breaking where
  /-- The lines that are done, last one first. -/
  done : List (List Char) := []
  /-- The line at hand. -/
  line : List Char := []
  /-- Its cells. -/
  cells : Nat := 0
  /-- How many characters came before. -/
  before : Nat := 0

namespace Breaking

/-- Starts a new line, unless nothing came before. -/
def newLine (b : Breaking) : Breaking :=
  if b.before = 0 then b else { b with done := b.line :: b.done, line := [] }

/-- Adds characters to the line. -/
def add (b : Breaking) (s : List Char) : Breaking :=
  { b with line := b.line ++ s, before := b.before + s.length }

/-- Adds the pieces of a word that is folded, each on a line of its own. -/
def addPieces : List (List Char) → Breaking → Breaking
  | [], b => b
  | [piece], b => { b.newLine.add piece with cells := Text.cellLen piece }
  | piece :: pieces, b => addPieces pieces (b.newLine.add piece)

/-- Adds a word. -/
def addWord (width : Nat) (fold : Bool) (b : Breaking) (word : List Char) : Breaking :=
  let n := Text.cellLen (Text.trimRight word)
  if b.cells + n ≤ width then { b.add word with cells := b.cells + Text.cellLen word }
  else if width < n then
    if fold then addPieces (chopCells width word) b
    else { b.newLine.add word with cells := Text.cellLen word }
  else if b.cells ≠ 0 ∧ b.before ≠ 0 then { b.newLine.add word with cells := Text.cellLen word }
  else b.add word

/-- All lines. -/
def lines (b : Breaking) : List (List Char) := (b.line :: b.done).reverse

end Breaking

/-- Breaks a line between words.  A line of blanks is left as it is. -/
def breakLine (width : Nat) (fold : Bool) (line : List Char) : List (List Char) :=
  match wordsWithBlanks line.length line with
  | [] => [line]
  | ws => (ws.foldl (Breaking.addWord width fold) {}).lines

/-- Takes blanks away at the end of a line, as many as it has characters beyond the width. -/
def dropExcessBlanks (width : Nat) (line : List Char) : List Char :=
  let atEnd := line.length - (Text.trimRight line).length
  line.take (line.length - min atEnd (line.length - width))

/-- Cuts a line that is too wide. -/
def truncate (width : Nat) (o : Overflow) (line : List Char) : List Char :=
  if Text.cellLen line ≤ width then line
  else
    match o with
    | .fold => fitCells width line
    | .ellipsis => fitCells (width - 1) line ++ ['…']

/-- Puts a line in its place. -/
def justify (width : Nat) (o : Overflow) (j : Justify) (line : List Char) : List Char :=
  match j with
  | .none => line
  | .left =>
    let cut := truncate width o line
    cut ++ blanks (width - Text.cellLen line)
  | .center =>
    let line := truncate width o (Text.trimRight line)
    let n := Text.cellLen line
    let front := (width - n) / 2
    blanks front ++ line ++ blanks (width - (front + n))
  | .right =>
    let line := truncate width o (Text.trimRight line)
    blanks (width - Text.cellLen line) ++ line

namespace Styled

/-- The lines of a text as it is given. -/
def lines (t : Styled) : List Styled := t.cut 1 (Text.splitAt (· == '\n') t.text)

/-- A line broken between words. -/
def breakBetweenWords (width : Nat) (fold : Bool) (line : Styled) : List Styled :=
  line.cut 0 (breakLine width fold line.text)

/-- The lines of a text in a width. -/
def wrapLines (width : Nat) (o : Overflow) (j : Justify) (t : Styled) : List Styled :=
  t.lines.flatMap fun line =>
    (line.expandTabs.breakBetweenWords width (o == .fold)).map fun line =>
      let line := line.withText (dropExcessBlanks width line.text)
      line.withText (truncate width o (justify width o j line.text))

/-- The lines of a text that is not wrapped. -/
def openLines (t : Styled) : List Styled := t.lines.map expandTabs

/-- A line without tabs is left alone. -/
theorem expandTabs_of_not_mem {line : Styled} (h : '\t' ∉ line.text) :
    line.expandTabs = line := by
  simp [expandTabs, h]

end Styled
end Terminal
end RouteAudit
