import Propositional.TruthTable

namespace Propositional.TruthTable

/-- The characters that mean something in HTML. -/
def escapeHtmlChar : Char → List Char
  | '&' => "&amp;".toList
  | '<' => "&lt;".toList
  | '>' => "&gt;".toList
  | '"' => "&quot;".toList
  | '\'' => "&#x27;".toList
  | c => [c]

def escapeHtml (text : String) : String := String.ofList (text.toList.flatMap escapeHtmlChar)

def headerCell (content : String) : String := "<th>" ++ content ++ "</th>"
def bodyCell (cell : Int) : String := "<td>" ++ toString cell ++ "</td>"
def bodyRow (row : List Int) : String := "<tr>" ++ String.join (row.map bodyCell) ++ "</tr>"

/-- Only the expression is escaped, not the names of the variables. -/
def htmlWith (table : TruthTable) (expression : String) (verdict : Verdict) : String :=
  "<table><thead><tr>" ++ String.join (table.vars.map headerCell) ++
    headerCell (escapeHtml expression) ++ "</tr></thead><tbody>" ++
    String.join (table.rows.map bodyRow) ++ "</tbody></table>" ++
    "<p><strong>" ++ verdict.line ++ "</strong></p>"

/-- The cells are written before the verdict is asked for. -/
def html [Interpreter] (table : TruthTable) (expression : String) : Except TableError String := do
  table.checkDigits
  let verdict ← table.verdict
  return table.htmlWith expression verdict

end Propositional.TruthTable
