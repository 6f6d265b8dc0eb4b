import Propositional.Settings
import Propositional.Text.Digit
import Propositional.Text.Integer

namespace Propositional.Settings

variable [Interpreter]

def limitVariable : String := "TABLAVERDAD_MAX_INPUT"
def levelVariable : String := "TABLAVERDAD_LOG_LEVEL"
def formatVariable : String := "TABLAVERDAD_FORMAT"

/-- All the variables that settings are made from. -/
def variableNames : List String := [limitVariable, levelVariable, formatVariable]

/-- The limit in a variable, in digits of any script; an empty one is as good as none. -/
def limitOfVariable : Option String → Except SettingsError Json.Value
  | none => .ok initial.limit.toValue
  | some text =>
    if text = "" then .ok initial.limit.toValue
    else
      match Text.readInteger Text.digitValue? text.toList with
      | some n => .ok (.int n)
      | none => .error (.badInteger text)

/-- Settings from the variables of a process. -/
def ofEnvironment (env : Environment) : Except SettingsError Settings := do
  let limit ← limitOfVariable (env.lookup limitVariable)
  ofFields [(limitName, limit),
    (levelName, .text ((env.lookup levelVariable).getD initial.logLevel)),
    (formatName, .text ((env.lookup formatVariable).getD initial.format.name))]

/-- Settings from the variables of a process and a file of variables, which may be missing, and
which is left alone if the variables say so. -/
def ofDotenv (env : Environment) (files : Files) (path : String) :
    Except SettingsError Settings :=
  if Dotenv.isDisabled env then ofEnvironment env
  else
    match files.readText path with
    | .ok text => do
      let env ← (Dotenv.load env text).mapError .unsettable
      ofEnvironment env
    | .error (.file _) => ofEnvironment env
    | .error e => .error (.unreadable e)

/-- A file that is not there changes nothing. -/
theorem of_dotenv_missing (h : files.readText path = .error (.file e)) :
    ofDotenv env files path = ofEnvironment env := by
  rw [ofDotenv, h]
  exact ite_self _

end Propositional.Settings
