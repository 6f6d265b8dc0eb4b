import Propositional.Json.Writer
import Propositional.TruthTable

namespace Propositional.TruthTable

def varsValue (table : TruthTable) : Json.Value := .list (table.vars.map .text)

def rowsValue (table : TruthTable) : Json.Value :=
  .list (table.rows.map (fun row => .list (row.map .int)))

/-- The table alone, as it is stored. -/
def toValue (table : TruthTable) : Json.Value :=
  .object [("variables", table.varsValue), ("rows", table.rowsValue)]

/-- The table with its expression and its verdict. -/
def valueWith (table : TruthTable) (expression : String) (verdict : Verdict) : Json.Value :=
  .object [("expression", .text expression), ("variables", table.varsValue),
    ("rows", table.rowsValue), ("verdict", .text verdict.label)]

def json [Interpreter] (table : TruthTable) (expression : String) : Except TableError String := do
  let verdict ← table.verdict
  table.checkDigits
  return (table.valueWith expression verdict).indented

end Propositional.TruthTable
