import Propositional.Formula.Parser

namespace Propositional

/-- The token with its text changed if it is a letter. -/
def Token.rename (g : String → String) : Token → Token
  | ⟨.letter, text⟩ => ⟨.letter, g text⟩
  | ⟨.operator, text⟩ => ⟨.operator, text⟩

theorem Token.is_operator_rename (g : String → String) (token : Token) (symbol : String) :
    (token.rename g).isOperator symbol = token.isOperator symbol := by
  obtain ⟨kind, text⟩ := token
  cases kind <;> rfl

namespace Formula

def rename (g : String → String) : Formula → Formula
  | .atom name => .atom (g name)
  | .neg operand => .neg (operand.rename g)
  | .binary op left right => .binary op (left.rename g) (right.rename g)

theorem holds_rename (g : String → String) (v : String → Bool) (φ : Formula) :
    (φ.rename g).holds v = φ.holds (fun name => v (g name)) := by
  induction φ with
  | atom name => rfl
  | neg operand ih => rw [rename, holds, holds, ih]
  | binary op left right ihl ihr => rw [rename, holds, holds, ihl, ihr]

theorem height_rename (g : String → String) (φ : Formula) : (φ.rename g).height = φ.height := by
  induction φ with
  | atom name => rfl
  | neg operand ih => rw [rename, height, height, ih]
  | binary op left right ihl ihr => rw [rename, height, height, ihl, ihr]

end Formula

/-- The cursor at the same place in renamed tokens. -/
def Cursor.rename (g : String → String) (c : Cursor) : Cursor :=
  { c with rest := c.rest.map (Token.rename g) }

/-- The outcome for renamed tokens. No failure tells of a letter. -/
def Outcome.rename (g : String → String) : Outcome Formula → Outcome Formula
  | .done φ c => .done (φ.rename g) (c.rename g)
  | .fail failure c => .fail failure (c.rename g)

theorem Outcome.rename_and_then {g : String → String} {outcome : Outcome Formula}
    {next next' : Formula → Cursor → Outcome Formula}
    (h : ∀ φ c, next (φ.rename g) (c.rename g) = (next' φ c).rename g) :
    (outcome.rename g).andThen next = (outcome.andThen next').rename g := by
  cases outcome with
  | done φ c => exact h φ c
  | fail failure c => rfl

namespace Cursor

theorem is_at_rename (g : String → String) (c : Cursor) (symbol : String) :
    (c.rename g).isAt symbol = c.isAt symbol := by
  obtain ⟨rest, i, d⟩ := c
  cases rest with
  | nil => rfl
  | cons token rest => exact token.is_operator_rename g symbol

theorem next_rename (g : String → String) (c : Cursor) :
    (c.rename g).next = c.next.rename g := by
  obtain ⟨rest, i, d⟩ := c
  cases rest <;> rfl

theorem opened_rename (g : String → String) (c : Cursor) :
    (c.rename g).opened = c.opened.rename g := by
  rw [opened, next_rename]
  rfl

theorem closed_rename (g : String → String) (c : Cursor) :
    (c.rename g).closed = c.closed.rename g := by
  rw [closed, next_rename]
  rfl

/-- What is read does not depend on the texts of the letters, except that they name the atoms. -/
def Equivariant (g : String → String) (read : Cursor → Outcome Formula) : Prop :=
  ∀ c, read (c.rename g) = (read c).rename g

theorem more_equivariant {read : Cursor → Outcome Formula} (h : Equivariant g read)
    (op : Connective) (rounds : Nat) (left : Formula) (c : Cursor) :
    more op read rounds (left.rename g) (c.rename g) = (more op read rounds left c).rename g := by
  induction rounds generalizing left c with
  | zero => rfl
  | succ rounds ih =>
    rw [more, more, is_at_rename]
    split
    · rw [next_rename, h c.next]
      exact Outcome.rename_and_then (fun right c => ih (.binary op left right) c)
    · rfl

theorem joined_equivariant {read : Cursor → Outcome Formula} (h : Equivariant g read)
    (op : Connective) : Equivariant g (joined op read) := by
  intro c
  rw [joined, joined, h c]
  refine Outcome.rename_and_then (fun left c => ?_)
  have hl : (c.rename g).rest.length = c.rest.length := List.length_map _
  rw [hl]
  exact more_equivariant h op _ left c

theorem implication_equivariant (hd : Equivariant g (formula calls .disjunction))
    (hi : Equivariant g (formula calls .implication)) :
    Equivariant g (formula (calls + 1) .implication) := by
  intro c
  rw [formula, formula, hd c]
  refine Outcome.rename_and_then (fun left c => ?_)
  rw [is_at_rename]
  split
  · rw [next_rename, hi c.next]
    exact Outcome.rename_and_then (fun _ _ => rfl)
  · rfl

theorem negation_equivariant (hn : Equivariant g (formula calls .negation))
    (hp : Equivariant g (formula calls .primary)) :
    Equivariant g (formula (calls + 1) .negation) := by
  intro c
  rw [formula, formula, is_at_rename]
  split
  · rw [next_rename, hn c.next]
    exact Outcome.rename_and_then (fun _ _ => rfl)
  · exact hp c

theorem primary_equivariant (hb : Equivariant g (formula calls .biconditional)) :
    Equivariant g (formula (calls + 1) .primary) := by
  intro c
  obtain ⟨rest, i, d⟩ := c
  cases rest with
  | nil => rfl
  | cons token rest =>
    obtain ⟨kind, text⟩ := token
    cases kind with
    | letter => rfl
    | operator =>
      have hoperator : (Token.mk .operator text).kind ≠ .letter := by simp
      have hrest : (rename g ⟨⟨.operator, text⟩ :: rest, i, d⟩).rest =
          ⟨.operator, text⟩ :: rest.map (Token.rename g) := rfl
      have hdepth : (rename g ⟨⟨.operator, text⟩ :: rest, i, d⟩).depth = d := rfl
      rw [formula, formula, hrest]
      simp only [if_neg hoperator, hdepth]
      split
      · rfl
      · split
        · rfl
        · rw [opened_rename, hb]
          refine Outcome.rename_and_then (fun inner c => ?_)
          rw [is_at_rename, closed_rename]
          split <;> rfl

theorem formula_equivariant (g : String → String) (calls : Nat) (level : Level) :
    Equivariant g (formula calls level) := by
  -- On the calls and for all levels at once, since not every call is of a tighter level.
  induction calls generalizing level with
  | zero => exact fun _ => rfl
  | succ calls ih =>
    cases level with
    | biconditional => exact joined_equivariant (ih .implication) .iff
    | implication => exact implication_equivariant (ih .disjunction) (ih .implication)
    | disjunction => exact joined_equivariant (ih .conjunction) .or
    | conjunction => exact joined_equivariant (ih .negation) .and
    | negation => exact negation_equivariant (ih .negation) (ih .primary)
    | primary => exact primary_equivariant (ih .biconditional)

theorem parse_equivariant [Interpreter] (g : String → String) : Equivariant g parse := by
  intro c
  rw [parse, parse, formula_equivariant g _ _ c]
  refine Outcome.rename_and_then (fun φ c => ?_)
  have he : (c.rename g).rest.isEmpty = c.rest.isEmpty := List.isEmpty_map
  rw [he]
  split <;> rfl

end Cursor

/-- Renamed letters rename the atoms and change nothing else, not even the errors. -/
theorem Formula.of_tokens_rename [Interpreter] (g : String → String) (ts : List Token) :
    ofTokens (ts.map (Token.rename g)) = (ofTokens ts).map (Formula.rename g) := by
  have hp : (Cursor.start (ts.map (Token.rename g))).parse = (Cursor.start ts).parse.rename g :=
    Cursor.parse_equivariant g (Cursor.start ts)
  rw [ofTokens, ofTokens, hp]
  cases (Cursor.start ts).parse <;> rfl

end Propositional
