import Propositional.Text.Quoted
import Propositional.Text.Uppercase

namespace Propositional.Log

inductive Severity
  | debug
  | warning
  deriving DecidableEq

def Severity.name : Severity → String
  | .debug => "DEBUG"
  | .warning => "WARNING"

def Severity.level : Severity → Nat
  | .debug => 10
  | .warning => 30

structure Record where
  severity : Severity
  text : String
  deriving DecidableEq

def Record.shown (r : Record) : String := s!"{r.severity.name}: {r.text}"

/-- The names of the thresholds. -/
def levels : List (String × Nat) := [
  ("CRITICAL", 50), ("FATAL", 50), ("ERROR", 40), ("WARN", 30), ("WARNING", 30),
  ("INFO", 20), ("DEBUG", 10), ("NOTSET", 0)]

/-- The threshold with a name, in capitals or not. -/
def level? (name : String) : Option Nat := levels.lookup (Text.upper name)

/-- The threshold before any is chosen. -/
def initialLevel : Nat := 30

structure UnknownLevel where
  name : String
  deriving DecidableEq

def UnknownLevel.message (e : UnknownLevel) : String := "Unknown level: " ++ Text.quote e.name

def threshold (name : String) : Except UnknownLevel Nat :=
  match level? name with
  | some level => .ok level
  | none => .error ⟨Text.upper name⟩

/-- The records that reach a threshold. -/
def kept (level : Nat) (records : List Record) : List Record :=
  records.filter (level ≤ ·.severity.level)

end Propositional.Log
