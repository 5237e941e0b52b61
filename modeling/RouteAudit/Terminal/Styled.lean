import RouteAudit.Terminal.Glyph
import RouteAudit.Terminal.Look

/-!
# Text with looks

A `Styled` text has spans, each with the words for a look.  It is shown in *segments*: a new one
begins wherever a span begins or ends.  A terminal counts the cells of each segment by itself, so a
joiner at the end of a segment joins nothing, and a line that is measured as a whole may turn out to
be too wide when it is shown.

* `Styled.window`, `Styled.cut` — a part of a text, and its parts one behind the other;
* `Styled.segments` — the segments of a text;
* `crop` — a line of segments without what is beyond a width.
-/

set_option autoImplicit false

namespace RouteAudit
namespace Terminal

/-- A part of a text that has a look. -/
structure Span where
  start : Nat
  stop : Nat
  /-- The words for the look. -/
  look : List Char
  deriving DecidableEq, Repr

/-- A text with looks. -/
structure Styled where
  text : List Char
  spans : List Span := []
  deriving DecidableEq, Repr

namespace Span

/-- A span of a text in a window of it, if any of it is seen there. -/
def within? (start length : Nat) (s : Span) : Option Span :=
  let seen := { s with start := s.start - start, stop := min (s.stop - start) length }
  if seen.start < seen.stop then some seen else none

/-- A span of a text that gets others in front. -/
def shift (n : Nat) (s : Span) : Span := { s with start := s.start + n, stop := s.stop + n }

end Span

namespace Styled

/-- A text without looks. -/
def plain (text : List Char) : Styled := { text }

/-- One text behind another. -/
def append (a b : Styled) : Styled where
  text := a.text ++ b.text
  spans := a.spans ++ b.spans.map (Span.shift a.text.length)

/-- Texts one behind the other. -/
def concat (parts : List Styled) : Styled := parts.foldr append (plain [])

/-- A window of a text. -/
def window (t : Styled) (start length : Nat) : Styled where
  text := (t.text.drop start).take length
  spans := t.spans.filterMap (Span.within? start length)

/-- The windows of a text on some parts of it, with `gap` characters between them. -/
def cutFrom (t : Styled) (gap : Nat) : (start : Nat) → (parts : List (List Char)) → List Styled
  | _, [] => []
  | start, p :: ps => t.window start p.length :: cutFrom t gap (start + p.length + gap) ps

/-- A text in parts that have `gap` characters between them.  A text with one part only is left as
it is, also with spans of which nothing is seen. -/
def cut (t : Styled) (gap : Nat) (parts : List (List Char)) : List Styled :=
  if parts.length ≤ 1 then [t] else t.cutFrom gap 0 parts

/-- A text with other characters, and the spans as far as these go. -/
def withText (t : Styled) (text : List Char) : Styled :=
  if text = t.text then t
  else
    { text
      spans :=
        (t.spans.filter fun s => s.start < text.length).map fun s =>
          { s with stop := min s.stop text.length } }

/-- Whether a span begins or ends at a place. -/
def changesAt (t : Styled) (i : Nat) : Bool := t.spans.any fun s => s.start == i || s.stop == i

/-- The characters from the place `i` on in segments. -/
def segmentsFrom (isCut : Nat → Bool) (i : Nat) : List Char → List (List Char)
  | [] => []
  | c :: cs =>
    match segmentsFrom isCut (i + 1) cs with
    | [] => [[c]]
    | s :: ss => if isCut (i + 1) then [c] :: s :: ss else (c :: s) :: ss

/-- The segments of a text. -/
def segments (t : Styled) : List (List Char) := segmentsFrom t.changesAt 0 t.text

/-- What keeps the text from being shown. -/
def fault? (t : Styled) : Option LookFault := t.spans.findSome? fun s => lookFault? s.look

end Styled

/-! ## Lines of segments -/

/-- The cells of a line of segments. -/
def lineCells (line : List (List Char)) : Nat := (line.map Text.cellLen).foldr (· + ·) 0

/-- The segments that fit into some cells, the last one cut or filled up. -/
def cropFrom : Nat → List (List Char) → List (List Char)
  | _, [] => []
  | room, s :: ss =>
    if Text.cellLen s < room then s :: cropFrom (room - Text.cellLen s) ss else [fitCells room s]

/-- A line of segments without what is beyond a width. -/
def crop (width : Nat) (line : List (List Char)) : List (List Char) :=
  if width < lineCells line then cropFrom width line else line

/-- A line of segments in a width: cropped, or filled up with blanks. -/
def fitLine (width : Nat) (line : List (List Char)) : List (List Char) :=
  if lineCells line < width then line ++ [List.replicate (width - lineCells line) ' ']
  else crop width line

end Terminal
end RouteAudit
