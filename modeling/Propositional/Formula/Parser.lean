import Propositional.Formula
import Propositional.Formula.SyntaxError
import Propositional.Token

namespace Propositional

/-- The parentheses that may be open at one time. -/
def nestingLimit : Nat := 50

/-- Why no formula, or no truth value, comes out. -/
inductive Failure
  | malformed (e : SyntaxError)
  | callsExhausted
  | noToken
  deriving DecidableEq

def Failure.message : Failure → String
  | .malformed e => e.message
  | .callsExhausted => "maximum recursion depth exceeded"
  | .noToken => "list index out of range"

/-- The tokens still to read, the number of those read, and of the parentheses left open. -/
structure Cursor where
  rest : List Token
  position : Nat
  depth : Nat
  deriving DecidableEq

/-- A failure leaves the cursor where it arose. -/
inductive Outcome (α : Type)
  | done (result : α) (cursor : Cursor)
  | fail (failure : Failure) (cursor : Cursor)

namespace Outcome

def andThen (outcome : Outcome α) (next : α → Cursor → Outcome β) : Outcome β :=
  match outcome with
  | .done result cursor => next result cursor
  | .fail failure cursor => .fail failure cursor

def map (f : α → β) (outcome : Outcome α) : Outcome β :=
  outcome.andThen (fun result cursor => .done (f result) cursor)

def cursor : Outcome α → Cursor
  | .done _ cursor | .fail _ cursor => cursor

def toExcept : Outcome α → Except Failure α
  | .done result _ => .ok result
  | .fail failure _ => .error failure

end Outcome

/-- The levels of precedence, from the loosest to the tightest. -/
inductive Level
  | biconditional
  | implication
  | disjunction
  | conjunction
  | negation
  | primary
  deriving DecidableEq

namespace Cursor

def start (tokens : List Token) : Cursor := ⟨tokens, 0, 0⟩

def peek (c : Cursor) : Option Token := c.rest.head?

def isAt (c : Cursor) (symbol : String) : Bool := c.peek.any (·.isOperator symbol)

/-- Past one token. -/
def next (c : Cursor) : Cursor := { c with rest := c.rest.tail, position := c.position + 1 }

def advance (c : Cursor) : Outcome Token :=
  match c.peek with
  | some token => .done token c.next
  | none => .fail .noToken c

/-- Past an opening parenthesis. -/
def opened (c : Cursor) : Cursor := { c.next with depth := c.depth + 1 }

/-- Past a closing parenthesis. -/
def closed (c : Cursor) : Cursor := { c.next with depth := c.depth - 1 }

def malformed (c : Cursor) (reason : SyntaxReason) : Outcome α :=
  .fail (.malformed ⟨reason, c.position⟩) c

/-- Further operands behind a connective, joined to the left. Each round reads a token, so that
as many rounds as there are tokens suffice. -/
def more (op : Connective) (operand : Cursor → Outcome Formula) :
    Nat → Formula → Cursor → Outcome Formula
  | 0, left, c => .done left c
  | rounds + 1, left, c =>
    if c.isAt op.symbol then
      (operand c.next).andThen (fun right c => more op operand rounds (.binary op left right) c)
    else .done left c

def joined (op : Connective) (operand : Cursor → Outcome Formula) (c : Cursor) :
    Outcome Formula :=
  (operand c).andThen (fun left c => more op operand c.rest.length left c)

/-- The longest formula of a level at the cursor. Each level calls the next tighter one; only
`→` and `¬` call their own, which joins them to the right. -/
def formula : Nat → Level → Cursor → Outcome Formula
  | 0, _, c => .fail .callsExhausted c
  | calls + 1, .biconditional, c => joined .iff (formula calls .implication) c
  | calls + 1, .implication, c =>
    (formula calls .disjunction c).andThen (fun left c =>
      if c.isAt Connective.implies.symbol then
        (formula calls .implication c.next).map (.binary .implies left)
      else .done left c)
  | calls + 1, .disjunction, c => joined .or (formula calls .conjunction) c
  | calls + 1, .conjunction, c => joined .and (formula calls .negation) c
  | calls + 1, .negation, c =>
    if c.isAt "¬" then (formula calls .negation c.next).map .neg else formula calls .primary c
  | calls + 1, .primary, c =>
    match c.rest with
    | [] => c.malformed .incomplete
    | token :: _ =>
      if token.kind = .letter then .done (.atom token.text) c.next
      else if token.text ≠ "(" then c.malformed (.unexpected token.text)
      else if nestingLimit ≤ c.depth then c.malformed .nestedTooDeeply
      else
        (formula calls .biconditional c.opened).andThen (fun inner c =>
          if c.isAt ")" then .done inner c.closed else c.malformed .unclosed)

/-- A formula that takes all the tokens. -/
def parse [Interpreter] (c : Cursor) : Outcome Formula :=
  (c.formula callLimit .biconditional).andThen (fun φ c =>
    if c.rest.isEmpty then .done φ c else c.malformed .trailing)

end Cursor

def Formula.ofTokens [Interpreter] (tokens : List Token) : Except Failure Formula :=
  (Cursor.start tokens).parse.toExcept

end Propositional
