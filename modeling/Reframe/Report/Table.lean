import Reframe.Text.CellWidth

/-
  This file defines tables drawn with lines, as wide as
  their cells need.

  Key definitions include:
    * `Table`
    * `Table.render`
-/

namespace Reframe

------------------------------------------------------------
-- Tables
------------------------------------------------------------

/- A table: a header and rows of as many cells. -/
structure Table where
  header : List String
  rows : List (List String)
deriving DecidableEq, Repr

namespace Table

/- The lines of a cell. -/
def linesOf
    (s : String) : List (List Char) :=
  s.toList.foldr
    (fun c ls =>
      if c = '\n' then [] :: ls
      else
        match ls with
        | [] => [[c]]
        | l :: ls => (c :: l) :: ls)
    [[]]

/- The width of the widest line of a cell. -/
def widthOf
    (s : String) : Nat :=
  ((linesOf s).map Text.cellWidth).foldl max 0

/- The widths of the columns, at least one each. -/
def widths
    (t : Table) : List Nat :=
  t.rows.foldl
    (fun ws row => List.zipWith max ws (row.map widthOf))
    (t.header.map (fun s => max 1 (widthOf s)))

------------------------------------------------------------
-- Drawing
------------------------------------------------------------

/- The signs that a line between rows is drawn with. -/
structure Rule where
  left : Char
  line : Char
  cross : Char
  right : Char
deriving DecidableEq, Repr

/- The line above a table. -/
def Rule.top : Rule :=
  ⟨'┌', '─', '┬', '┐'⟩

/- The line below the header. -/
def Rule.header : Rule :=
  ⟨'╞', '═', '╪', '╡'⟩

/- The line between two rows. -/
def Rule.between : Rule :=
  ⟨'├', '╌', '┼', '┤'⟩

/- The line below a table. -/
def Rule.bottom : Rule :=
  ⟨'└', '─', '┴', '┘'⟩

/- Draw a line between rows. -/
def drawRule
    (r : Rule)
    (widths : List Nat) : List Char :=
  let spans :=
    widths.map (fun w => List.replicate (w + 2) r.line)
  r.left :: [r.cross].intercalate spans ++ [r.right]

/- A line of a cell with blanks around it. -/
def pad
    (width : Nat)
    (line : List Char) : List Char :=
  let missing := width - Text.cellWidth line
  ' ' :: line ++ List.replicate (missing + 1) ' '

/- Draw one of the lines of a row. -/
def drawLine
    (widths : List Nat)
    (cells : List (List (List Char)))
    (i : Nat) : List Char :=
  let spans :=
    List.zipWith (fun w ls => pad w (ls.getD i []))
      widths cells
  '│' :: ['┆'].intercalate spans ++ ['│']

/- Draw a row: as many lines as its highest cell has. -/
def drawRow
    (widths : List Nat)
    (row : List String) : List (List Char) :=
  let cells := row.map linesOf
  let height := (cells.map List.length).foldl max 1
  (List.range height).map (drawLine widths cells)

/- Draw rows with lines in between. -/
def drawRows
    (widths : List Nat) :
    List (List String) → List (List Char)
| [] => []
| [row] => drawRow widths row
| row :: next :: rows =>
    drawRow widths row ++ [drawRule .between widths] ++
      drawRows widths (next :: rows)

/- Draw a table, each line with its end. -/
def render
    (t : Table) : String :=
  let ws := t.widths
  let lines :=
    [drawRule .top ws] ++
      drawRow ws t.header ++
      [drawRule .header ws] ++
      drawRows ws t.rows ++
      [drawRule .bottom ws]
  String.ofList (lines.flatMap (fun l => l ++ ['\n']))

end Table

end Reframe
