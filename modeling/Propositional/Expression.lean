import Propositional.Formula.Nesting
import Propositional.Formula.Parser
import Propositional.Log
import Propositional.Tree

/-! What a text means: its formula, its truth values, and the variables it names. -/

namespace Propositional.Expression

variable [Interpreter]

def parse (text : String) : Except Failure Formula := Formula.ofTokens (Token.scan text)

def nesting (text : String) : Nat := deepestNesting (Token.scan text)

/-- The truth value of a text. The calls on the way to the deepest atom may run out. -/
def evaluate (text : String) (a : Assignment) : Except Failure Bool := do
  let φ ← parse text
  if callLimit < φ.height then throw .callsExhausted
  return φ.holds a.truth

/-- The truth value as a digit; a text that has none counts as false. -/
def digit (text : String) (a : Assignment) : Int :=
  match evaluate text a with
  | .ok true => 1
  | .ok false => 0
  | .error _ => 0

/-- What is logged beside the digit. -/
def warnings (text : String) (a : Assignment) : List Log.Record :=
  match evaluate text a with
  | .ok _ => []
  | .error e =>
    [⟨.warning, s!"Error evaluando la expresion {Text.quote text}: {e.message}"⟩]

/-- Words are made of these alone; an accented letter ends a word. -/
def isWordChar (c : Char) : Bool := c.isAlphanum || c == '_'

/-- Whether a letter is a word of its own, given whether it follows on a word character. -/
def standsAlone (letter : Char) (inWord : Bool) : List Char → Bool
  | [] => false
  | c :: rest =>
    (c == letter && !inWord && !rest.head?.any isWordChar) ||
      standsAlone letter (isWordChar c) rest

/-- The variables that are words of a text, in canonical order. The text need not be a
formula. -/
def vars (text : String) : List String :=
  (letters.filter (fun letter => standsAlone letter false text.toList)).map String.singleton

end Propositional.Expression
