/-!
# Edit distance

The least number of insertions, deletions and replacements that turn one list into another. The
distances from a part of the first list to all parts of the second are kept as a row.
-/
namespace ClientGen.Text

/-- The cells of a row behind its first, from those of the row before and the cell to the left. -/
def nextCells {α : Type} [BEq α] (a : α) (left : Nat) : List α → List Nat → List Nat
  | b :: rest, diagonal :: above :: row =>
    let cell := if a == b then diagonal else 1 + min above (min left diagonal)
    cell :: nextCells a cell rest (above :: row)
  | _, _ => []

/-- The row behind a row, with one more item of the first list. -/
def nextRow {α : Type} [BEq α] (target : List α) (row : List Nat) (a : α) : List Nat :=
  match row with
  | [] => []
  | first :: _ => (first + 1) :: nextCells a (first + 1) target row

def editDistance {α : Type} [BEq α] (source target : List α) : Nat :=
  ((source.foldl (nextRow target) (List.range (target.length + 1))).getLast?).getD 0

end ClientGen.Text
