import Propositional.Console.Box
import Propositional.Files
import Propositional.Settings
import Propositional.TruthTable.Export
import Propositional.TruthTable.Generation
import Propositional.TruthTable.Grid
import Propositional.TruthTable.Html

namespace Propositional.Shell
open Text (Points)

variable [Interpreter] [Console.Library]

/-- How expressions are shown. -/
structure Mode where
  width : Nat
  limit : Limit
  format : Format
  tree : Bool
  deriving DecidableEq

/-- What ends a run without an exit code. -/
inductive RunError
  | table (e : TableError)
  | print (e : Console.PrintError)
  | file (e : FileError)
  | unencodable (half : Nat)
  | callsExhausted
  deriving DecidableEq

/-- Where in a text a half stands is not told. -/
def RunError.message : RunError → String
  | .table e => e.message
  | .print e => e.message
  | .file e => e.message
  | .unencodable half =>
    s!"'utf-8' codec can't encode character {Points.quote [.half half]}: surrogates not allowed"
  | .callsExhausted => Failure.callsExhausted.message

/-- What is printed and what is logged. -/
structure Transcript where
  printed : String
  logged : List Log.Record
  deriving DecidableEq

inductive Rejection
  | tooLong (length : Nat) (limit : Limit)
  | tooNested (depth : Nat)
  deriving DecidableEq

def Rejection.message : Rejection → String
  | .tooLong length limit =>
    s!"❌ Expresión demasiado larga: {length} caracteres (máximo {limit.toValue.shown})"
  | .tooNested depth =>
    s!"❌ Expresión demasiado anidada: {depth} niveles de paréntesis (máximo {nestingLimit})"

/-- Why an expression is not looked at. -/
def rejection? (limit : Limit) (expression : String) : Option Rejection :=
  if limit.number < expression.length then some (.tooLong expression.length limit)
  else
    let depth := Expression.nesting expression
    if nestingLimit < depth then some (.tooNested depth) else none

def sameElements (xs ys : List String) : Bool := xs.all (ys.contains ·) && ys.all (xs.contains ·)

def shownNames (names : List String) : String := (Json.Value.list (names.map .text)).shown

def tooDeepNotice : String := "⚠️ Expresión demasiado profunda para mostrar el árbol"

/-- The formula with all its parentheses, and a warning if its variables are not those of the
table. -/
def treeNotices (expression : String) : List String :=
  match Expression.parse expression with
  | .error (.malformed e) => ["⚠️ Error de sintaxis: " ++ e.message]
  | .error _ => [tooDeepNotice]
  | .ok φ =>
    match φ.render? with
    | none => [tooDeepNotice]
    | some shown =>
      let discovered := Expression.vars expression
      ("🌳 Árbol: " ++ shown) ::
        if sameElements φ.atoms discovered then []
        else [s!"⚠️ Variables en el árbol {shownNames φ.atoms} ≠ variables de la tabla " ++
          shownNames discovered]

/-- The table of an expression in a format. Only a drawn table depends on the width. -/
def document (format : Format) (width : Nat) (expression : String) : Except RunError String :=
  let table := TruthTable.ofExpression expression
  match format with
  | .tabla => do
    let grid ← (table.grid expression).mapError .table
    (grid.print width).mapError .print
  | .html => (table.html expression).mapError .table
  | .json => (table.json expression).mapError .table

/-- The table of an expression on a terminal. -/
def printed (format : Format) (width : Nat) (expression : String) : Except RunError String :=
  match format with
  | .tabla => document .tabla width expression
  | format => do
    let content ← document format width expression
    (Console.print? width content).mapError .print

/-- The width of a table drawn into a file. -/
def fileWidth : Nat := 120

/-- The table of an expression in a file. -/
def saved (format : Format) (expression : String) : Except RunError String :=
  match format with
  | .tabla => document .tabla fileWidth expression
  | format => (document format fileWidth expression).map (· ++ "\n")

/-- What is logged when the table of an expression is made. -/
def tableLog (expression : String) : Except RunError (List Log.Record) := do
  let table := TruthTable.ofExpression expression
  let verdict ← table.verdict.mapError .table
  return TruthTable.warnings expression ++
    [⟨.debug, s!"Tabla generada: {table.rows.length} filas, veredicto {verdict.label}"⟩]

def notices (mode : Mode) (expression : String) : String :=
  if mode.tree then String.join ((treeNotices expression).map (Console.print mode.width)) else ""

/-- Shows an accepted expression on the terminal. -/
def present (mode : Mode) (expression : String) : Except RunError Transcript := do
  let logged ← tableLog expression
  let shown ← printed mode.format mode.width expression
  return ⟨notices mode expression ++ shown, logged⟩

/-- The path is read as markup. -/
def savedNotice (mode : Mode) (path : String) : Except RunError String :=
  (Console.printMarkup mode.width ("[bold green]✅ Guardado en " ++ path ++ "[/]")).mapError .print

/-- Puts an accepted expression into a file. A table is drawn to the very path, a document to
the path in its simple form. -/
def presentTo (mode : Mode) (expression path : String) (files : Files) :
    Except RunError (Transcript × Files) := do
  let logged ← tableLog expression
  let content ← saved mode.format expression
  let target := if mode.format = .tabla then path else Files.simplify path
  let files ← (files.write target content).mapError .file
  let notice ← savedNotice mode path
  return (⟨notices mode expression ++ notice, logged⟩, files)

/-- Shows an expression, or why it is not looked at. -/
def answer (mode : Mode) (expression : String) : Except RunError Transcript :=
  match rejection? mode.limit expression with
  | some rejection => .ok ⟨Console.print mode.width rejection.message, []⟩
  | none => present mode expression

end Propositional.Shell
