/-!
# A place in a text

The form of a table depends on lines and columns, so its text is read through a `Cursor`, which
knows how far it has come.  Looking beyond the end gives the null character, which no table may
hold.
-/

set_option autoImplicit false

namespace RouteAudit
namespace Yaml

/-- A place in a text. -/
structure Cursor where
  /-- What is still to be read. -/
  rest : List Char
  /-- How many characters have been read. -/
  index : Nat := 0
  /-- The number of the line, from zero. -/
  line : Nat := 0
  /-- The number of the column, from zero. -/
  column : Nat := 0

/-- Stands for the end of the text. -/
def endMark : Char := '\x00'

/-- Whether `c` breaks a line. -/
def isBreak (c : Char) : Bool :=
  c == '\n' || c == '\r' || c == '\x85' || c == '\u2028' || c == '\u2029'

/-- Whether `c` breaks a line or ends the text. -/
def isBreakOrEnd (c : Char) : Bool := c == endMark || isBreak c

/-- Whether `c` is a space, breaks a line or ends the text. -/
def isSpaceOrEnd (c : Char) : Bool := c == ' ' || isBreakOrEnd c

/-- Whether `c` is a space or a tab, breaks a line or ends the text. -/
def isGapOrEnd (c : Char) : Bool := c == '\t' || isSpaceOrEnd c

namespace Cursor

/-- The start of a text. -/
def start (text : List Char) : Cursor := { rest := text }

/-- The next character. -/
def peek (c : Cursor) : Char := c.rest.headD endMark

/-- The character `n` places further on. -/
def peekAt (c : Cursor) (n : Nat) : Char := (c.rest.drop n).headD endMark

/-- Goes one character further.  A byte order mark takes no column. -/
def step (c : Cursor) : Cursor :=
  match c.rest with
  | [] => c
  | ch :: rest =>
    if (isBreak ch && ch != '\r') || (ch == '\r' && rest.headD endMark != '\n') then
      { rest, index := c.index + 1, line := c.line + 1, column := 0 }
    else if ch == '\uFEFF' then { c with rest, index := c.index + 1 }
    else { c with rest, index := c.index + 1, column := c.column + 1 }

/-- Goes `n` characters further. -/
def advance (c : Cursor) : Nat → Cursor
  | 0 => c
  | n + 1 => c.step.advance n

/-- The run of characters with `p` from here on. -/
def run (c : Cursor) (p : Char → Bool) : List Char := c.rest.takeWhile p

/-- Passes over the run of characters with `p`. -/
def skip (c : Cursor) (p : Char → Bool) : Cursor := c.advance (c.run p).length

/-- Passes over a line break, if there is one, and gives what it stands for. -/
def lineBreak (c : Cursor) : Option Char × Cursor :=
  let ch := c.peek
  if ch == '\r' && c.peekAt 1 == '\n' then (some '\n', c.advance 2)
  else if ch == '\r' || ch == '\n' || ch == '\x85' then (some '\n', c.step)
  else if ch == '\u2028' || ch == '\u2029' then (some ch, c.step)
  else (none, c)

/-- Whether a mark that separates documents stands here: three times `ch` and then a gap. -/
def atTriple (c : Cursor) (ch : Char) : Bool :=
  c.peek == ch && c.peekAt 1 == ch && c.peekAt 2 == ch && isGapOrEnd (c.peekAt 3)

/-- Whether a mark that starts or ends a document stands here. -/
def atSeparator (c : Cursor) : Bool := c.atTriple '-' || c.atTriple '.'

end Cursor
end Yaml
end RouteAudit
