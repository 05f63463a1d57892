/-!
# Edit distance

The distance of two words is the least number of single edits that turn one into the other, where
an edit replaces, inserts or deletes a character or swaps two neighbours, and no character is
edited twice.  It is computed in a table that is filled row by row: the cell in row `i` and column
`j` is the distance of the first `i` characters of one word from the first `j` of the other.
-/

namespace Gamebook

/-- Values that are computed one after the other, each from those before it. -/
def tabulate {Value : Type} (next : Array Value → Value) : Nat → Array Value
  | 0 => #[]
  | count + 1 =>
      let filled := tabulate next count
      filled.push (next filled)

def cell (table : Array (Array Nat)) (row column : Nat) : Nat :=
  (table.getD row #[]).getD column 0

/-- The cell behind those that are filled in its row, below the rows that are filled. -/
def nextCell (first second : Array Char) (above : Array (Array Nat)) (left : Array Nat) : Nat :=
  match above.size, left.size with
  | 0, column => column
  | row, 0 => row
  | row + 1, column + 1 =>
      let edited := min (min (cell above row (column + 1) + 1) (left.getD column 0 + 1))
        (cell above row column + if first[row]? = second[column]? then 0 else 1)
      if 0 < row ∧ 0 < column ∧
          first[row]? = second[column - 1]? ∧ first[row - 1]? = second[column]? then
        min edited (cell above (row - 1) (column - 1) + 1)
      else
        edited

/-- The least number of edits between two words. -/
def editDistance (first second : List Char) : Nat :=
  let fillRow (above : Array (Array Nat)) :=
    tabulate (nextCell first.toArray second.toArray above) (second.length + 1)
  cell (tabulate fillRow (first.length + 1)) first.length second.length

end Gamebook
