import Propositional.Expression
import Propositional.TruthTable

namespace Propositional

/-- The binary numeral of `i` with `n` digits, the most significant first. -/
def bits (n i : Nat) : List Nat :=
  (List.range n).map (fun j => (i >>> (n - 1 - j)) &&& 1)

/-- Gives each variable the digit at its place. -/
def Assignment.ofBits (vars : List String) (digits : List Nat) : Assignment :=
  vars.zip (digits.map (fun digit => .bool (digit == 1)))

namespace TruthTable

/-- The digits of all rows, the first variable changing last. -/
def inputs (text : String) : List (List Nat) :=
  let n := (Expression.vars text).length
  (List.range (1 <<< n)).map (bits n)

def assignments (text : String) : List Assignment :=
  (inputs text).map (Assignment.ofBits (Expression.vars text))

/-- The truth table of a text. Without variables it has one row. -/
def ofExpression [Interpreter] (text : String) : TruthTable :=
  let vars := Expression.vars text
  { vars
    rows := (inputs text).map (fun digits =>
      digits.map Int.ofNat ++ [Expression.digit text (.ofBits vars digits)]) }

/-- What is logged while the table is made. -/
def warnings [Interpreter] (text : String) : List Log.Record :=
  (assignments text).flatMap (Expression.warnings text)

end TruthTable

end Propositional
