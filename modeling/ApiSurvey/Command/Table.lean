/-!
# Tables

A table in a box: a heavy frame around the header, a light one around the rows. A column is as wide
as its widest cell, with a space on each side.
-/

namespace ApiSurvey.Command

/-- The side to which the cells of a column are set. -/
inductive Alignment where
  | left
  | right
  deriving DecidableEq, Repr

structure Table where
  columns : List (String × Alignment)
  rows : List (List String)
  deriving Repr

namespace Table

def pad (width : Nat) (alignment : Alignment) (cell : String) : String :=
  let blanks := String.ofList (List.replicate (width - cell.length) ' ')
  match alignment with
  | .left => cell ++ blanks
  | .right => blanks ++ cell

def widths (t : Table) : List Nat :=
  t.columns.zipIdx.map fun ((title, _), i) ↦
    (t.rows.map fun row ↦ (row.getD i "").length).foldl max title.length

/-- A row of cells between bars. -/
def rowText (t : Table) (bar : String) (cells : List String) : String :=
  let padded := (cells.zip (t.columns.zip t.widths)).map fun (cell, (_, alignment), width) ↦
    " " ++ pad width alignment cell ++ " "
  bar ++ bar.intercalate padded ++ bar

/-- A rule between rows, or at the top or bottom. -/
def ruleText (t : Table) (left line cross right : String) : String :=
  let pieces := t.widths.map fun width ↦ String.join (List.replicate (width + 2) line)
  left ++ cross.intercalate pieces ++ right

def lines (t : Table) : List String :=
  [t.ruleText "┏" "━" "┳" "┓", t.rowText "┃" (t.columns.map (·.1)),
   t.ruleText "┡" "━" "╇" "┩"] ++
    t.rows.map (t.rowText "│") ++ [t.ruleText "└" "─" "┴" "┘"]

end Table

end ApiSurvey.Command
