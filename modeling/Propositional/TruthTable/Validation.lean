import Propositional.Json.Reader
import Propositional.Text.Numeral
import Propositional.TruthTable

/-! Checking whether a value describes a table. The library that does it is taken at its documented
word, in its lax mode: a boolean, a float without a fraction below the bound of 64 bits and a text
that writes an integer pass for one, a text alone passes for a text, fields it does not know are
ignored, and all issues are told, those of a field in the order of its items and the fields in
the order of their declaration. -/

namespace Propositional.TruthTable
open Json (Value)

inductive Problem
  | missing
  | listType
  | stringType
  | intType
  | intParsing
  | intParsingSize
  | intFromFloat
  | finiteNumber
  | modelType
  | jsonInvalid
  deriving DecidableEq

def Problem.name : Problem → String
  | .missing => "missing"
  | .listType => "list_type"
  | .stringType => "string_type"
  | .intType => "int_type"
  | .intParsing => "int_parsing"
  | .intParsingSize => "int_parsing_size"
  | .intFromFloat => "int_from_float"
  | .finiteNumber => "finite_number"
  | .modelType => "model_type"
  | .jsonInvalid => "json_invalid"

inductive PathStep
  | key (name : String)
  | index (i : Nat)
  deriving DecidableEq

/-- A problem, and the way to it from the whole value. -/
structure Issue where
  path : List PathStep
  problem : Problem
  deriving DecidableEq

/-- A checked value, or everything that is wrong with it. -/
abbrev Checked (α : Type) := Except (List Issue) α

namespace Checked

def problem (p : Problem) : Checked α := .error [⟨[], p⟩]

/-- Puts a step in front of the path of each issue. -/
def under (step : PathStep) (checked : Checked α) : Checked α :=
  checked.mapError (List.map (fun issue => { issue with path := step :: issue.path }))

/-- Both values, or the issues of both. -/
def both (first : Checked α) (second : Checked β) : Checked (α × β) :=
  match first, second with
  | .ok a, .ok b => .ok (a, b)
  | .ok _, .error issues => .error issues
  | .error issues, .ok _ => .error issues
  | .error issues, .error more => .error (issues ++ more)

def items (check : Value → Checked α) : Nat → List Value → Checked (List α)
  | _, [] => .ok []
  | i, v :: rest =>
    (both (under (.index i) (check v)) (items check (i + 1) rest)).map (fun (a, as) => a :: as)

def list (check : Value → Checked α) : Value → Checked (List α)
  | .list vs => items check 0 vs
  | _ => problem .listType

end Checked

/-- A float that passes for an integer lies strictly between this and its negative. -/
def floatBound : Int := Nat.pow 2 63

def checkFloat (x : Binary64) : Checked Int :=
  match x, x.toInt? with
  | _, some n =>
    if -floatBound < n ∧ n < floatBound then .ok n else Checked.problem .intParsingSize
  | .finite .., none => Checked.problem .intFromFloat
  | _, none => Checked.problem .finiteNumber

/-- Booleans, numbers without a fraction and texts that write an integer pass for one. -/
def checkCell : Value → Checked Int
  | .bool b => .ok (if b then 1 else 0)
  | .int n => .ok n
  | .float x => checkFloat x
  | .text s =>
    match Text.readLooseNumeral s.toList with
    | .ok n => .ok n
    | .error .malformed => Checked.problem .intParsing
    | .error .tooLong => Checked.problem .intParsingSize
  | _ => Checked.problem .intType

def checkName : Value → Checked String
  | .text s => .ok s
  | _ => Checked.problem .stringType

def checkField (fields : List (String × Value)) (name : String) (check : Value → Checked α) :
    Checked α :=
  Checked.under (.key name)
    (match Value.field? fields name with
    | some v => check v
    | none => Checked.problem .missing)

/-- The table that a value describes; fields it does not know are ignored. -/
def ofValue : Value → Checked TruthTable
  | .object fields =>
    (Checked.both (checkField fields "variables" (Checked.list checkName))
      (checkField fields "rows" (Checked.list (Checked.list checkCell)))).map
      (fun (vars, rows) => ⟨vars, rows⟩)
  | _ => Checked.problem .modelType

def ofJson (text : String) : Checked TruthTable :=
  match Json.read .strict text with
  | .ok v => ofValue v
  | .error _ => Checked.problem .jsonInvalid

end Propositional.TruthTable
