import Propositional.Json.Value

namespace Propositional

inductive Verdict
  | tautology
  | contradiction
  | contingency
  deriving DecidableEq

namespace Verdict

def label : Verdict → String
  | .tautology => "Tautología"
  | .contradiction => "Contradicción"
  | .contingency => "Indeterminación"

def name : Verdict → String
  | .tautology => "TAUTOLOGY"
  | .contradiction => "CONTRADICTION"
  | .contingency => "CONTINGENCY"

def line (verdict : Verdict) : String := "Resultado: " ++ verdict.label

/-- The verdict on a column of results, in which `one` stands for true. A column with two
different results is contingent; no verdict is given on an empty one. -/
def ofColumn [DecidableEq α] (one : α) : List α → Option Verdict
  | [] => none
  | first :: rest =>
    if rest.all (· = first) then some (if first = one then .tautology else .contradiction)
    else some .contingency

end Verdict

inductive VerdictError
  | noRows
  | incomparable (kind : String)
  deriving DecidableEq

def VerdictError.message : VerdictError → String
  | .noRows => "No se puede clasificar una tabla sin filas"
  | .incomparable kind => s!"unhashable type: '{kind}'"

/-- The verdict on a column of any values. -/
def Verdict.ofValues (results : List Json.Value) : Except VerdictError Verdict := do
  let keys ← results.mapM (fun v =>
    match v.key? with
    | some key => .ok key
    | none => .error (.incomparable v.kind))
  match Verdict.ofColumn (.integer 1) keys with
  | some verdict => return verdict
  | none => throw .noRows

end Propositional
