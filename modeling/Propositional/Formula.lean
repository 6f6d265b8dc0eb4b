import Propositional.Interpreter

namespace Propositional

inductive Connective
  | and
  | or
  | implies
  | iff
  deriving DecidableEq

namespace Connective

def symbol : Connective → String
  | .and => "∧"
  | .or => "∨"
  | .implies => "→"
  | .iff => "↔"

def apply : Connective → Bool → Bool → Bool
  | .and, a, b => a && b
  | .or, a, b => a || b
  | .implies, a, b => !a || b
  | .iff, a, b => a == b

end Connective

inductive Formula
  | atom (name : String)
  | neg (operand : Formula)
  | binary (op : Connective) (left right : Formula)
  deriving DecidableEq

namespace Formula

/-- The truth value under a valuation. -/
def holds (valuation : String → Bool) : Formula → Bool
  | .atom name => valuation name
  | .neg operand => !operand.holds valuation
  | .binary op left right => op.apply (left.holds valuation) (right.holds valuation)

/-- The number of nodes on the longest path to a leaf. -/
def height : Formula → Nat
  | .atom _ => 1
  | .neg operand => operand.height + 1
  | .binary _ left right => max left.height right.height + 1

/-- Every binary formula stands in parentheses of its own. -/
def render : Formula → String
  | .atom name => name
  | .neg operand => "¬" ++ operand.render
  | .binary op left right => "(" ++ left.render ++ " " ++ op.symbol ++ " " ++ right.render ++ ")"

/-- The text of a formula that is not too high. -/
def render? [Interpreter] (φ : Formula) : Option String :=
  if φ.height ≤ Interpreter.maxHeight then some φ.render else none

/-- Whether two formulas are the same, as far down as they are compared: from the left, up to the
first difference. -/
def sameWithin : Nat → Formula → Formula → Option Bool
  | 0, _, _ => none
  | _ + 1, .atom a, .atom b => some (a == b)
  | levels + 1, .neg φ, .neg ψ => sameWithin levels φ ψ
  | levels + 1, .binary op left right, .binary op' left' right' =>
    if op ≠ op' then some false
    else
      match sameWithin levels left left' with
      | some true => sameWithin levels right right'
      | answer => answer
  | _ + 1, _, _ => some false

def same? [Interpreter] (φ ψ : Formula) : Option Bool := sameWithin Interpreter.maxHeight φ ψ

end Formula

end Propositional
