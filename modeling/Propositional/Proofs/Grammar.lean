import Propositional.Formula.Parser

namespace Propositional

def Connective.token (op : Connective) : Token := ⟨.operator, op.symbol⟩

def Token.negation : Token := ⟨.operator, "¬"⟩

def Token.opening : Token := ⟨.operator, "("⟩

def Token.closing : Token := ⟨.operator, ")"⟩

theorem Token.is_operator_iff {token : Token} {symbol : String} :
    token.isOperator symbol = true ↔ token = ⟨.operator, symbol⟩ := by
  cases token
  simp [Token.isOperator]

theorem Connective.symbol_injective {op op' : Connective} (h : op.symbol = op'.symbol) :
    op = op' := by
  cases op <;> cases op' <;> first | rfl | simp [Connective.symbol] at h

theorem Connective.token_injective {op op' : Connective} (h : op.token = op'.token) :
    op = op' :=
  Connective.symbol_injective (congrArg Token.text h)

theorem Connective.token_ne_closing (op : Connective) : op.token ≠ Token.closing := by
  cases op <;> simp [Connective.token, Connective.symbol, Token.closing]

/-- `Joins level op operand`: a formula of the level is a row of formulas of the operand level
with the connective between them. -/
inductive Level.Joins : Level → Connective → Level → Prop
  | biconditional : Joins .biconditional .iff .implication
  | disjunction : Joins .disjunction .or .conjunction
  | conjunction : Joins .conjunction .and .negation

/-- The tokens of `op operand op operand …`, given the tokens and the formula of each operand. -/
def joinTokens (op : Connective) (more : List (List Token × Formula)) : List Token :=
  more.flatMap (fun p => op.token :: p.1)

/-- Operands joined to what stands left of them. -/
def joinLeft (op : Connective) (left : Formula) (more : List (List Token × Formula)) : Formula :=
  more.foldl (fun φ p => .binary op φ p.2) left

/-- The grammar of formulas, with the formula that each derivation builds:

    biconditional ::= implication ('↔' implication)*
    implication   ::= disjunction ('→' implication)?
    disjunction   ::= conjunction ('∨' conjunction)*
    conjunction   ::= negation ('∧' negation)*
    negation      ::= '¬' negation | primary
    primary       ::= letter | '(' biconditional ')'

In `Derives n level tokens φ` at most `n` parentheses are open at once. -/
inductive Derives : Nat → Level → List Token → Formula → Prop
  | joined (shape : Level.Joins level op operand) (first : Derives n operand ts φ)
      (rest : ∀ p ∈ more, Derives n operand p.1 p.2) :
      Derives n level (ts ++ joinTokens op more) (joinLeft op φ more)
  | disjunction (only : Derives n .disjunction ts φ) : Derives n .implication ts φ
  | implication (left : Derives n .disjunction ts φ) (right : Derives n .implication us ψ) :
      Derives n .implication (ts ++ Connective.implies.token :: us) (.binary .implies φ ψ)
  | negation (operand : Derives n .negation ts φ) :
      Derives n .negation (Token.negation :: ts) (.neg φ)
  | primary (only : Derives n .primary ts φ) : Derives n .negation ts φ
  | letter (name : String) : Derives n .primary [⟨.letter, name⟩] (.atom name)
  | parenthesized (inner : Derives n .biconditional ts φ) :
      Derives (n + 1) .primary (Token.opening :: (ts ++ [Token.closing])) φ

theorem join_tokens_cons (op : Connective) (p : List Token × Formula)
    (more : List (List Token × Formula)) :
    joinTokens op (p :: more) = op.token :: (p.1 ++ joinTokens op more) := rfl

theorem join_left_cons (op : Connective) (left : Formula) (p : List Token × Formula)
    (more : List (List Token × Formula)) :
    joinLeft op left (p :: more) = joinLeft op (.binary op left p.2) more := rfl

/-- An operand of a row is a row by itself. -/
theorem Derives.single (shape : Level.Joins level op operand) (h : Derives n operand ts φ) :
    Derives n level ts φ := by
  have hrow : ∀ p ∈ ([] : List (List Token × Formula)), Derives n operand p.1 p.2 := by simp
  simpa [joinTokens, joinLeft] using Derives.joined shape h hrow

theorem Derives.pair (shape : Level.Joins level op operand) (h : Derives n operand ts φ)
    (h' : Derives n operand us ψ) : Derives n level (ts ++ op.token :: us) (.binary op φ ψ) := by
  have hrow : ∀ p ∈ [(us, ψ)], Derives n operand p.1 p.2 := by simpa using h'
  simpa [joinTokens, joinLeft] using Derives.joined shape h hrow

/-- Two formulas of the negation level make a formula with any connective. -/
theorem Derives.connect (op : Connective) (h : Derives n .negation ts φ)
    (h' : Derives n .negation us ψ) :
    Derives n .biconditional (ts ++ op.token :: us) (.binary op φ ψ) := by
  have hc : ∀ {ts φ}, Derives n .negation ts φ → Derives n .disjunction ts φ :=
    fun h => .single .disjunction (.single .conjunction h)
  cases op with
  | and =>
    exact .single .biconditional (.disjunction (.single .disjunction (.pair .conjunction h h')))
  | or =>
    have hpair := Derives.pair .disjunction (.single .conjunction h) (.single .conjunction h')
    exact .single .biconditional (.disjunction hpair)
  | implies => exact .single .biconditional (.implication (hc h) (.disjunction (hc h')))
  | iff => exact .pair .biconditional (.disjunction (hc h)) (.disjunction (hc h'))

theorem Derives.loosen (h : Derives n .negation ts φ) : Derives n .biconditional ts φ :=
  .single .biconditional (.disjunction (.single .disjunction (.single .conjunction h)))

end Propositional
