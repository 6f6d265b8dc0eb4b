import Propositional.Interpreter
import Propositional.Verdict

namespace Propositional

/-- Each row holds the values of the variables and then the result. Tables made by hand may
have rows of any length. -/
structure TruthTable where
  vars : List String
  rows : List (List Int)
  deriving DecidableEq

inductive TableError
  | emptyRow
  | noRows
  | longInteger (limit : Nat)
  deriving DecidableEq

def TableError.message : TableError → String
  | .emptyRow => "list index out of range"
  | .noRows => VerdictError.noRows.message
  | .longInteger limit => Interpreter.longIntegerMessage limit

namespace TruthTable

/-- The last column. -/
def results (table : TruthTable) : Except TableError (List Int) :=
  table.rows.mapM (fun row =>
    match row.getLast? with
    | some result => .ok result
    | none => .error .emptyRow)

def verdict (table : TruthTable) : Except TableError Verdict := do
  let results ← table.results
  match Verdict.ofColumn 1 results with
  | some verdict => return verdict
  | none => throw .noRows

/-- Every cell can be written in decimals. -/
def checkDigits [Interpreter] (table : TruthTable) : Except TableError Unit :=
  match table.rows.flatten.findSome? Interpreter.exceeded? with
  | some limit => .error (.longInteger limit)
  | none => .ok ()

end TruthTable

end Propositional
