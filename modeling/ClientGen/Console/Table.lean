import ClientGen.Text.DisplayWidth
/-!
# Tables

Rows of cells in columns. Every cell but the last of its row is filled up with blanks to the width
of its column. A cell may have more than one line; its row then has as many.
-/
namespace ClientGen.Console

/-- The lines of a text. -/
def linesOf (text : String) : List String := (text.toList.splitOn '\n').map String.ofList

def widest (texts : List String) : Nat := (texts.map Text.displayWidth).foldl max 0

def columnWidth (rows : List (List String)) (column : Nat) : Nat :=
  widest ((rows.filterMap fun row => row[column]?).flatMap linesOf)

def padded (width : Nat) (text : String) : String :=
  text ++ String.ofList (List.replicate (width - Text.displayWidth text) ' ')

/-- One line of a row, from the column of a number on. -/
def rowLine (widthOf : Nat → Nat) (line column : Nat) : List String → String
  | [] => ""
  | [cell] => (linesOf cell)[line]?.getD ""
  | cell :: rest =>
    padded (widthOf column) ((linesOf cell)[line]?.getD "") ++ " | "
      ++ rowLine widthOf line (column + 1) rest

def rowText (widthOf : Nat → Nat) (row : List String) : String :=
  let height := (row.map fun cell => (linesOf cell).length).foldl max 0
  String.join ((List.range height).map fun line => rowLine widthOf line 0 row ++ "\n")

def tableText (rows : List (List String)) : String :=
  String.join (rows.map (rowText (columnWidth rows)))

end ClientGen.Console
