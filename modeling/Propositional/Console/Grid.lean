import Propositional.Console.Print

namespace Propositional.Console

/-- A text that is shown as it is, or a markup. -/
inductive Label
  | plain (text : String)
  | markup (text : String)
  deriving DecidableEq

def Label.text : Label → String
  | .plain text => text
  | .markup text => text

structure Column where
  header : Label
  style : String
  justify : Justify
  cells : List String
  deriving DecidableEq

/-- A table to be shown: a title, columns of markups, and a line below. -/
structure Grid where
  title : String
  caption : String
  captionStyle : String
  columns : List Column
  rowCount : Nat
  deriving DecidableEq

namespace Grid

/-- A column that joins a grid of some rows with its first cell. -/
def lateColumn (rows : Nat) (cell : String) : Column :=
  ⟨.markup "", "", .left, List.replicate rows "" ++ [cell]⟩

/-- A short row is filled up with empty cells; a long one adds columns. -/
def extend (rows : Nat) : List Column → List String → List Column
  | [], cells => cells.map (lateColumn rows)
  | column :: columns, [] =>
    { column with cells := column.cells ++ [""] } :: extend rows columns []
  | column :: columns, cell :: cells =>
    { column with cells := column.cells ++ [cell] } :: extend rows columns cells

def addRow (grid : Grid) (cells : List String) : Grid :=
  { grid with columns := extend grid.rowCount grid.columns cells, rowCount := grid.rowCount + 1 }

end Grid

end Propositional.Console
