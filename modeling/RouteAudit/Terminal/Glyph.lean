import RouteAudit.Text.Cells

/-!
# Glyphs

What a terminal shows in one go: a character with the marks, joined characters and selectors behind
it.  A text is only cut between glyphs.

* `glyphs` — the glyphs of a text;
* `fitCells` — a text cut or filled up to a number of cells;
* `chopCells` — a text in pieces of at most a number of cells.
-/

set_option autoImplicit false

namespace RouteAudit
namespace Terminal

/-- A glyph. -/
structure Glyph where
  chars : List Char
  cells : Nat

/-- Adds characters to the last of some glyphs, which are given last one first; where there is
none, they make one of their own. -/
def extendLast (more : List Char) (wider : Nat) : List Glyph → List Glyph
  | [] => [⟨more, 0⟩]
  | g :: gs => ⟨g.chars ++ more, g.cells + wider⟩ :: gs

/-- The glyphs of a text, last one first, behind others.  `last` is the last character that took a
cell and has not been widened. -/
def glyphsAfter (acc : List Glyph) (last : Option Char) : List Char → List Glyph
  | [] => acc
  | [c] =>
    if c = Text.emojiSelector ∧ !acc.isEmpty then
      extendLast [c] (if last.any Text.widenedRanges.has then 1 else 0) acc
    else if c = Text.joiner ∨ c = Text.emojiSelector ∨ Text.cellWidth c = 0 then
      extendLast [c] 0 acc
    else ⟨[c], Text.cellWidth c⟩ :: acc
  | c :: d :: cs =>
    if (c = Text.joiner ∨ c = Text.emojiSelector) ∧ acc.isEmpty then
      glyphsAfter [⟨[c], 0⟩] last (d :: cs)
    else if c = Text.joiner then glyphsAfter (extendLast [c, d] 0 acc) last cs
    else if c = Text.emojiSelector then
      if last.any Text.widenedRanges.has then glyphsAfter (extendLast [c] 1 acc) none (d :: cs)
      else glyphsAfter (extendLast [c] 0 acc) last (d :: cs)
    else if Text.cellWidth c = 0 then glyphsAfter (extendLast [c] 0 acc) last (d :: cs)
    else glyphsAfter (⟨[c], Text.cellWidth c⟩ :: acc) (some c) (d :: cs)

/-- The glyphs of a text. -/
def glyphs (s : List Char) : List Glyph := (glyphsAfter [] none s).reverse

/-- The first glyphs that fit into some cells.  A blank stands for the half of a wide one. -/
def takeCells : Nat → List Glyph → List Char
  | 0, _ => []
  | _ + 1, [] => []
  | n + 1, g :: gs =>
    if g.cells ≤ n + 1 then g.chars ++ takeCells (n + 1 - g.cells) gs else [' ']

/-- A text cut or filled up to a number of cells. -/
def fitCells (total : Nat) (s : List Char) : List Char :=
  let n := Text.cellLen s
  if n ≤ total then s ++ List.replicate (total - n) ' ' else takeCells total (glyphs s)

/-- The pieces of some glyphs, each of at most `width` cells.  `line` is the piece at hand and
`used` its cells. -/
def chopGlyphs (width : Nat) (line : List Char) (used : Nat) : List Glyph → List (List Char)
  | [] => if used = 0 then [] else [line]
  | g :: gs =>
    if width < used + g.cells then line :: chopGlyphs width g.chars g.cells gs
    else chopGlyphs width (line ++ g.chars) (used + g.cells) gs

/-- A text in pieces of at most `width` cells. -/
def chopCells (width : Nat) (s : List Char) : List (List Char) := chopGlyphs width [] 0 (glyphs s)

end Terminal
end RouteAudit
