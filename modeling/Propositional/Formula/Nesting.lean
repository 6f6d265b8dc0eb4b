import Propositional.Token

namespace Propositional

/-- The parentheses open before a token, and the most that were open so far. -/
structure Nesting where
  depth : Nat
  deepest : Nat
  deriving DecidableEq

/-- A closing parenthesis without an open one counts for nothing. -/
def Nesting.step (n : Nesting) (token : Token) : Nesting :=
  if token.isOperator "(" then ⟨n.depth + 1, max n.deepest (n.depth + 1)⟩
  else if token.isOperator ")" then ⟨n.depth - 1, n.deepest⟩
  else n

/-- The most parentheses open at once anywhere in a sequence of tokens. -/
def deepestNesting (tokens : List Token) : Nat := (tokens.foldl Nesting.step ⟨0, 0⟩).deepest

end Propositional
