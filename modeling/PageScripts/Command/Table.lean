import PageScripts.Command.Styled
import PageScripts.Command.Table.Layout
import PageScripts.Text.Wrapped

/-!
# Tables

A table has a line of titles, a rule, and the lines of its rows.  A column is as wide as its
widest cell, up to its limit if it has one; in a column with a limit the cells are wrapped, so
that a row may take several lines.  A cell is measured by the parts between all kinds of line
breaks and before its tabs are written out, so that it may turn out too wide after all; then it
is cut short.
-/

namespace PageScripts
namespace Table

/-- The lines of a text, as they are written. -/
abbrev Lines := List (List Char)

/-- What a cell shows. -/
def Cell.shown : Cell → Except Unshown Lines
  | styled text => do
      return Text.pieces '\n' (← Styled.stripped text)
  | literal text => .ok (Text.pieces '\n' (Styled.literal text))

/-- The blanks around a cell. -/
def cellMargin : Nat := 2

/-- Reads the styles of a cell, if there is room for it. -/
def Cell.readStyles
    (width : Nat) :
    Cell → Except Unshown Unit
  | styled text => if width ≤ cellMargin then .ok () else Styled.readStyles text
  | literal _ => .ok ()

/-- The columns that stand for the edges of a table and between its columns. -/
def frameWidth (columns : Nat) : Nat :=
  columns + 1

/-- The room that a column asks for, the blanks around its cells included. -/
def wantedRoom
    (limit : Nat)
    (column : Column)
    (cells : List Lines) :
    Room :=
  let shown := [column.title.toList] :: cells
  let needed := greatest ((shown.flatten.flatMap Text.measuredLines).map Text.width)
  let width := min limit (needed + cellMargin)
  match column.limit with
  | none => { width, wraps := false }
  | some most => { width := min width (most + cellMargin), wraps := true }

/-- The widths of the columns, the blanks around the cells included. -/
def columnWidths
    (columns : List Column)
    (cells : List (List Lines)) :
    List Nat :=
  let limit := Styled.lineWidth - frameWidth columns.length
  let rooms := (columns.zip cells).map fun (column, cells) => wantedRoom limit column cells
  (arrange limit rooms).map Room.width

/-- The lines of a cell in its column, with a blank on both sides; without room there are none. -/
def fitted
    (column : Column)
    (width : Nat)
    (cell : Lines) :
    Lines :=
  let inner := width - cellMargin
  let expanded := cell.map Text.expandTabs
  let lines :=
    if column.limit.isSome then
      (expanded.flatMap (Text.wrap .keep inner)).map (Text.dropExcess inner)
    else
      expanded
  if inner = 0 then
    []
  else
    lines.map fun line => ' ' :: Text.pad inner (Text.crop inner line) ++ [' ']

/-- The cells of each column, as many as there are columns. -/
def transpose {α : Type} : Nat → List (List α) → List (List α)
  | 0, _ => []
  | n + 1, rows => rows.filterMap List.head? :: transpose n (rows.map List.tail)

/-- Puts the columns of a line side by side; what does not fit into a printed line is cut off. -/
def sideBySide
    (edge : Char)
    (parts : List (List Char)) :
    List Char :=
  Text.takeWidth Styled.lineWidth (' ' :: [edge].intercalate parts ++ [' '])

/-- One line of a row: the lines of its cells that are at the given height. -/
def rowLine
    (widths : List Nat)
    (cells : List Lines)
    (height : Nat) :
    List Char :=
  sideBySide ' '
    ((widths.zip cells).map fun (width, cell) => cell[height]?.getD (List.replicate width ' '))

/-- The lines of a row. -/
def rowLines
    (columns : List Column)
    (widths : List Nat)
    (cells : List Lines) :
    Lines :=
  let fittedCells := ((columns.zip widths).zip cells).map fun ((column, width), cell) =>
    fitted column width cell
  let height := max 1 (greatest (fittedCells.map List.length))
  (List.range height).map (rowLine widths fittedCells)

/-- The rule under the titles. -/
def rule (widths : List Nat) : List Char :=
  sideBySide '─' (widths.map fun width => List.replicate width '─')

/-- The lines of a table.  The cells are looked at one column after another, and their styles one
row after another. -/
def render
    (columns : List Column)
    (rows : List (List Cell)) :
    Except Unshown (List String) := do
  let columnCells ← (transpose columns.length rows).mapM fun cells => cells.mapM Cell.shown
  let widths := columnWidths columns columnCells
  rows.forM fun row => (widths.zip row).forM fun (width, cell) => cell.readStyles width
  let shown := transpose rows.length columnCells
  let titles := columns.map fun column => [column.title.toList]
  let lines :=
    rowLines columns widths titles ++ rule widths :: shown.flatMap (rowLines columns widths)
  return lines.map String.ofList

end Table
end PageScripts
