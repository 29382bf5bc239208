import Wirework.Console.Basic
import Wirework.Number.Double

/-!
# Tables

A table in box-drawing characters: a title centred above it, a header, and rows. A column is as wide
as its widest cell, with a blank on each side, and a row is as high as its highest cell. If the console
is too narrow for the table, the widest columns shrink, and their cells are wrapped.
-/

namespace Wirework

structure Table.Column where
  heading : String
  /-- Whether cells stand at the right of the column. -/
  alignRight : Bool := false

structure Table where
  title : String
  columns : List Table.Column
  rows : List (List String)

namespace Table

/-! ## Marks -/

/-- The marks of one line of a table: its left end, its filling, its joints and its right end. -/
structure Marks where
  left : String
  fill : Char
  joint : String
  right : String

def Marks.top : Marks := ⟨"┏", '━', "┳", "┓"⟩

def Marks.heading : Marks := ⟨"┃", ' ', "┃", "┃"⟩

def Marks.rule : Marks := ⟨"┡", '━', "╇", "┩"⟩

def Marks.row : Marks := ⟨"│", ' ', "│", "│"⟩

def Marks.bottom : Marks := ⟨"└", '─', "┴", "┘"⟩

def Marks.line (m : Marks) (cells : List (List (List Char))) : List (List Char) :=
  [m.left.toList] ++ (cells.intersperse [m.joint.toList]).flatten ++ [m.right.toList]

/-- A line without text over columns of given widths. -/
def Marks.border (m : Marks) (widths : List Nat) : List (List Char) :=
  m.line (widths.map fun w => [List.replicate w m.fill])

/-! ## Widths -/

/-- Whether a character ends a line where the width of a text is measured. -/
def endsLine (c : Char) : Bool :=
  [0xA, 0xB, 0xC, 0xD, 0x1C, 0x1D, 0x1E, 0x85, 0x2028, 0x2029].contains c.toNat

def measure (text : List Char) : Nat :=
  (Wrap.split endsLine text).foldl (fun w line => max w (Text.columns line)) 0

def total (widths : List Nat) : Nat := widths.foldl Nat.add 0

/-- The blanks at the two sides of a cell. -/
def padding : Nat := 2

/-- The width of a column with given cells, which is at most `limit`. -/
def columnWidth (limit : Nat) (cells : List (List Char)) : Nat :=
  cells.foldl (fun w cell => max w (min limit (measure cell + padding))) 0

/-- Takes `excess` columns off the widths that equal `widest`, of which there are `count`, in equal
shares, but at most `most` off each. -/
def reduce (most widest : Nat) (excess count : Nat) : List Nat → List Nat
  | [] => []
  | w :: rest =>
    if w = widest then
      let taken := min most (Double.roundDiv excess count)
      (w - taken) :: reduce most widest (excess - taken) (count - 1) rest
    else w :: reduce most widest excess count rest

/-- Shrinks the widest columns, again and again, until all of them fit in `limit`; `fuel` is a bound on
what is too much. -/
def shrink (limit : Nat) : Nat → List Nat → List Nat
  | 0, widths => widths
  | fuel + 1, widths =>
    let excess := total widths - limit
    if excess = 0 then widths
    else
      let widest := widths.foldl max 0
      let second := (widths.filter (· ≠ widest)).foldl max 0
      shrink limit fuel
        (reduce (min excess (widest - second)) widest excess (widths.count widest) widths)

/-- The widths of columns with given cells, on a console of a given width. -/
def widths (consoleWidth : Nat) (cells : List (List (List Char))) : List Nat :=
  let limit := consoleWidth - (cells.length + 1)
  let natural := cells.map (columnWidth limit)
  shrink limit (total natural) natural

/-! ## Lines -/

/-- One line of a cell of a given width, in segments: its text with a blank on each side. -/
def cellLine (width : Nat) (line : List (List Char)) : Except Text.Misfit (List (List Char)) := do
  let inner ← fitSegments (width - padding) line
  fitSegments width (← fitSegments width ([[' ']] ++ inner ++ [[' ']]))

def cellLines (alignRight : Bool) (width : Nat) (text : Styled) :
    Except Markup.Error (List (List (List Char))) := do
  let alignment := if alignRight then Wrap.Alignment.right else .left
  (← Console.segments (width - padding) .ellipsis alignment text).mapM fun line =>
    (cellLine width line).mapError .misfit

/-- A row of cells, each of which may have several lines. -/
def rowLines (m : Marks) (columns : List (Column × Nat)) (cells : List Styled) :
    Except Markup.Error (List (List (List Char))) := do
  let lines ← (columns.zip cells).mapM fun ((column, w), cell) => do
    return (w, ← cellLines column.alignRight w cell)
  let height := lines.foldl (fun h (_, ls) => max h ls.length) 1
  return (List.range height).map fun i => m.line (lines.map fun (w, ls) => ls.getD i [Text.blanks w])

/-- The lines of a table whose cells are shown as they are, in segments. -/
def draw (consoleWidth : Nat) (title : String) (columns : List Column) (rows : List (List Styled)) :
    Except Markup.Error (List (List (List Char))) := do
  let headings := columns.map fun column => ({ chars := column.heading.toList } : Styled)
  let cells := (List.range columns.length).map fun i =>
    (headings :: rows).map fun row => (row[i]?.map Styled.chars).getD []
  let ws := widths consoleWidth cells
  let width := total ws + columns.length + 1
  let title ← Console.segments width .fold .center { chars := title.toList }
  let heading ← rowLines .heading (columns.zip ws) headings
  let body ← rows.mapM (rowLines .row (columns.zip ws))
  return title ++ [Marks.top.border ws] ++ heading ++ [Marks.rule.border ws] ++ body.flatten
    ++ [Marks.bottom.border ws]

/-- Rows that are read column by column: the first mistake in the first column counts. -/
def readCells (columns : Nat) (rows : List (List String)) : Except Markup.Error (List (List Styled)) := do
  let read ← (List.range columns).mapM fun i => rows.mapM fun row => Markup.shown (row.getD i "")
  return (List.range rows.length).map fun j => read.map fun column => column.getD j ⟨[], []⟩

/-- The lines that the console shows of a table whose cells hold markup. -/
def lines (t : Table) : Except Markup.Error (List String) := do
  let rows ← readCells t.columns.length t.rows
  (← draw Console.width t.title t.columns rows).mapM Console.line

end Table

end Wirework
