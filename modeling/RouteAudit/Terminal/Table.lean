import RouteAudit.Number.Binary64
import RouteAudit.Terminal.Wrap

/-!
# Tables

A table is drawn with lines, one blank on either side of each cell.  A column is as wide as its
widest cell.  When the table does not fit, the widest columns give way first, and what does not fit
into a cell is wrapped and then cut.
-/

set_option autoImplicit false

namespace RouteAudit
namespace Terminal

/-- A column: where its cells stand, and their texts, the first of which is its head. -/
structure Column where
  justify : Justify
  head : List Char
  cells : List (List Char)

/-- The blanks around a cell. -/
def cellPadding : Nat := 2

/-- The width of the widest line of a text. -/
def textWidth (s : List Char) : Nat :=
  ((Text.splitAt Text.isLineBreak s).map Text.cellLen).foldl max 0

/-- The width of a cell where `available` cells are left. -/
def cellMeasure (available : Nat) (s : List Char) : Nat :=
  if available ≤ cellPadding then available
  else min (min (textWidth s) available + cellPadding) available

/-- The width of a column where `available` cells are left. -/
def Column.measure (available : Nat) (c : Column) : Nat :=
  ((c.head :: c.cells).map (cellMeasure available)).foldl max 0

/-- Takes `total` away from the values with a share, one after the other, each the rounded part of
what is left, and none more than its most. -/
def reduceEvenly : Nat → Nat → List (Bool × Nat × Nat) → List Nat
  | _, _, [] => []
  | total, shares, (takes, most, value) :: rest =>
    if takes ∧ 0 < shares then
      let part := min most (Binary64.roundDiv total shares)
      (value - part) :: reduceEvenly (total - part) (shares - 1) rest
    else value :: reduceEvenly total shares rest

/-- Takes `total` away from the values that `takes` picks. -/
def reduce (total : Nat) (takes : Nat → Bool) (most : Nat → Nat) (values : List Nat) : List Nat :=
  let rows := values.map fun v => (takes v && most v != 0, most v, v)
  reduceEvenly total (rows.filter (·.1)).length rows

/-- The sum of some widths. -/
def widthSum (widths : List Nat) : Nat := widths.foldr (· + ·) 0

/-- Lets the widest columns give way until the sum is at most `available`. -/
def collapse (available : Nat) : Nat → List Nat → List Nat
  | 0, widths => widths
  | fuel + 1, widths =>
    let excess := widthSum widths - available
    let widest := widths.foldl max 0
    let second := (widths.filter (· ≠ widest)).foldl max 0
    if excess = 0 ∨ widest = second then widths
    else
      collapse available fuel
        (reduce excess (· = widest) (fun _ => min excess (widest - second)) widths)

/-- The widths of columns, padding included, where `available` cells are left. -/
def columnWidths (available : Nat) (columns : List Column) : List Nat :=
  let widths := columns.map fun c => max 1 (c.measure available)
  if widthSum widths ≤ available then widths
  else
    let widths := collapse available (widthSum widths + 1) widths
    let widths :=
      if widthSum widths ≤ available then widths
      else reduce (widthSum widths - available) (fun _ => true) id widths
    (columns.zip widths).map fun (c, w) => c.measure w

/-- A line of a table: its segments. -/
abbrev Line := List (List Char)

/-- The lines of a cell, all of the same width.  A line is fitted three times: without the padding,
with it, and in its row.  A text that takes more cells than its glyphs do pushes the padding out. -/
def cellLines (j : Justify) (width : Nat) (s : List Char) : List Line :=
  if width ≤ cellPadding then []
  else
    ((Styled.plain s).wrapLines (width - cellPadding) .ellipsis j).map fun line =>
      let inner := fitLine (width - cellPadding) line.segments
      fitLine width (fitLine width ([' '] :: inner ++ [[' ']]))

/-- The lines of the cells of a row, side by side.  A cell with fewer lines than others is filled up
with blank ones, those of the head in front. -/
def rowLines (mark : Char) (atBottom : Bool) (widths : List Nat) (cells : List (List Line)) :
    List Line :=
  let height := (cells.map List.length).foldl max 1
  let full := (cells.zip widths).map fun (lines, w) =>
    let missing := List.replicate (height - lines.length) [blanks w]
    if atBottom then missing ++ lines else lines ++ missing
  (List.range height).map fun i =>
    [mark] :: [[mark]].intercalate (full.map fun lines => (lines[i]?).getD []) ++ [[mark]]

/-- A line across the table. -/
def rule (left fill joint right : Char) (widths : List Nat) : Line :=
  [left :: [joint].intercalate (widths.map fun w => List.replicate w fill) ++ [right]]

/-- The width of a table with columns of these widths. -/
def tableWidth (widths : List Nat) : Nat := widthSum widths + widths.length + 1

/-- The lines of a table without its title. -/
def tableLines (widths : List Nat) (columns : List Column) : List Line :=
  let heads := (columns.zip widths).map fun (c, w) => cellLines c.justify w c.head
  let rows := (columns.map fun c => c.cells.length).foldl max 0
  let body := (List.range rows).flatMap fun i =>
    rowLines '│' false widths
      ((columns.zip widths).map fun (c, w) => cellLines c.justify w ((c.cells[i]?).getD []))
  [rule '┏' '━' '┳' '┓' widths] ++ rowLines '┃' true widths heads
    ++ [rule '┡' '━' '╇' '┩' widths] ++ body ++ [rule '└' '─' '┴' '┘' widths]

end Terminal
end RouteAudit
