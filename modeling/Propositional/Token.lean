import Propositional.Text.Quoted

namespace Propositional

/-- The propositional variables in their canonical order. -/
def letters : List Char := ['p', 'q', 'r', 's', 't']

def operators : List Char := ['¬', '∧', '∨', '→', '↔', '(', ')']

inductive TokenKind
  | letter
  | operator
  deriving DecidableEq

/-- Tokens made by hand may carry any text. -/
structure Token where
  kind : TokenKind
  text : String
  deriving DecidableEq

namespace Token

def ofChar? (c : Char) : Option Token :=
  if c ∈ letters then some ⟨.letter, String.singleton c⟩
  else if c ∈ operators then some ⟨.operator, String.singleton c⟩
  else none

def isOperator (token : Token) (symbol : String) : Bool :=
  token.kind == .operator && token.text == symbol

def shown (token : Token) : String :=
  let kind := match token.kind with
    | .letter => "VAR"
    | .operator => "OP"
  s!"Token({kind}, {Text.quote token.text})"

/-- What is neither a letter nor an operator is dropped. -/
def scan (text : String) : List Token := text.toList.filterMap ofChar?

end Token

end Propositional
