namespace Propositional

/-- Why a sequence of tokens is no formula. -/
inductive SyntaxReason
  | incomplete
  | unexpected (text : String)
  | unclosed
  | trailing
  | nestedTooDeeply
  deriving DecidableEq

def SyntaxReason.text : SyntaxReason → String
  | .incomplete => "incomplete expression"
  | .unexpected text => "unexpected token: " ++ text
  | .unclosed => "expected closing parenthesis"
  | .trailing => "trailing tokens in expression"
  | .nestedTooDeeply => "expression nested too deeply"

/-- The position counts tokens, not characters. -/
structure SyntaxError where
  reason : SyntaxReason
  position : Nat
  deriving DecidableEq

/-- A reason with its position, if it has one. -/
def describeSyntax (reason : String) : Option Int → String
  | none => reason
  | some position => s!"{reason} (posicion {position})"

def SyntaxError.message (e : SyntaxError) : String :=
  describeSyntax e.reason.text (some e.position)

end Propositional
