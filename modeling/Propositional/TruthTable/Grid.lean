import Propositional.Console.Grid
import Propositional.TruthTable

namespace Propositional.TruthTable
open Console

/-- A result is green if it is one, and red otherwise. -/
def resultMarkup (result : Int) : String :=
  if result = 1 then s!"[green]{result}[/]" else s!"[red]{result}[/]"

/-- The digits of the variables and the coloured result. -/
def rowMarkups : List Int → List String
  | [] => []
  | [result] => [resultMarkup result]
  | digit :: rest => toString digit :: rowMarkups rest

/-- The columns before any row is added. -/
def emptyGrid (table : TruthTable) (expression : String) (verdict : Verdict) : Grid :=
  let header := sanitizeText (if expression = "" then " " else expression)
  { title := sanitizeText expression
    caption := verdict.line
    captionStyle := "bold"
    columns := table.vars.map (fun name => ⟨.markup name, "cyan", .center, []⟩) ++
      [⟨.plain header, "bold", .center, []⟩]
    rowCount := 0 }

def grid [Interpreter] (table : TruthTable) (expression : String) : Except TableError Grid := do
  let verdict ← table.verdict
  table.checkDigits
  return (table.rows.map rowMarkups).foldl Grid.addRow (table.emptyGrid expression verdict)

end Propositional.TruthTable
