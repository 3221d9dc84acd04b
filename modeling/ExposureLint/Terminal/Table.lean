import ExposureLint.Terminal.Grid
import ExposureLint.Terminal.Markup

/-!
Tables drawn in a terminal, with a frame around all cells. Title, headers and cells are marked-up
texts.
-/
namespace ExposureLint

/-- A row may have fewer cells than there are headers, and then its last ones are empty; or more,
and then the last headers are empty. -/
structure Table where
  title : Text
  headers : List Text
  rows : List (List Text)

namespace Table

/-- A cell has a blank on either side. -/
def column : Column := ⟨1, 1, .cell⟩

def headerStyle : Style := ⟨[(.bold, true)], some ⟨"cyan", .numbered 6⟩, none, none⟩

def titleStyle : Style := Style.having .italic true

def breadth (t : Table) : Nat := (t.rows.map List.length).foldl max t.headers.length

/-- All rows, the headers first, with as many cells each as there are columns. -/
def allRows (t : Table) : List (List Text) :=
  (t.headers :: t.rows).map fun row => row ++ List.replicate (t.breadth - row.length) []

/-- The texts of the columns. Where there is no room for any text in `limit` they are not read; else
the first fault is that of the first column with one. -/
def columnsOf (limit : Nat) (t : Table) : Except Markup.Fault (List (List Styled)) :=
  let read (cell : Text) : Except Markup.Fault Styled :=
    if column.hasRoom limit then Markup.read cell else .ok (.plain [])
  (List.range t.breadth).mapM fun n => t.allRows.mapM fun row => read (row.getD n [])

def widths (limit : Nat) (columns : List (List Styled)) : List Nat :=
  let entries := columns.map fun texts => (column, texts)
  let wanted := columns.map fun texts => max 1 (column.widthFor limit texts)
  Grid.widths limit entries wanted

def across (isHeader : Bool) (parts : List (List Run)) : List Run :=
  let edge := Run.plain (if isHeader then "┃" else "│")
  edge :: (parts.map fun part => part ++ [edge]).flatten

def rowLines (isHeader : Bool) (widths : List Nat) (row : List Styled) :
    Except Numeral.Fault (List (List Run)) := do
  let base := if isHeader then headerStyle else Style.none
  let cells ← (widths.zip row).mapM fun (width, cell) => do
    return (⟨width, base, ← column.linesOf width base cell⟩ : Grid.Cell)
  return Grid.rowLines (if isHeader then .bottom else .top) (across isHeader) cells

/-- A line between rows, with what stands at its start, along it, between columns and at its end. -/
def border (widths : List Nat) (first along between last : Char) : List Run :=
  let parts : List Text := widths.map fun w => List.replicate w (CodePoint.ofChar along)
  [Run.plain (CodePoint.ofChar first :: Text.join [CodePoint.ofChar between] parts
    ++ [CodePoint.ofChar last])]

def titleLines (columns : Nat) (title : Styled) : Except Numeral.Fault (List (List Run)) :=
  (({ title with base := some titleStyle } : Styled).laidOut columns .title).mapM Run.ofStyled

def drawnLines (widths : List Nat) (title : Option Styled) (columns : List (List Styled)) :
    Except Numeral.Fault (List (List Run)) := do
  let frame := columns.length + 1
  let row (n : Nat) : List Styled := columns.map fun column => column.getD n (.plain [])
  let height := (columns.headD []).length
  let titleLines ← match title with
    | some title => titleLines (total widths + frame) title
    | none => pure []
  let header ← rowLines true widths (row 0)
  let rows ← (List.range (height - 1)).mapM fun n => rowLines false widths (row (n + 1))
  return titleLines ++ [border widths '┏' '━' '┳' '┓'] ++ header ++ [border widths '┡' '━' '╇' '┩']
    ++ rows.flatten ++ [border widths '└' '─' '┴' '┘']

/-- The text of a table on a screen. Without columns it is one empty line, without its title. -/
def draw (screen : Screen) (t : Table) : Except Markup.Fault Text := do
  if screen.columns == 0 then return []
  if t.breadth == 0 then return "\n"
  let limit := screen.columns - (t.breadth + 1)
  let columns ← t.columnsOf limit
  let title ← if t.title.isEmpty then pure none else some <$> Markup.read t.title
  let lines ← (drawnLines (widths limit columns) title columns).mapError .color
  return screen.textOf lines

end Table
end ExposureLint
