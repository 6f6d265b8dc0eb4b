import Propositional.Proofs.Atoms
import Propositional.Proofs.Exhaustion
import Propositional.Proofs.Nesting
import Propositional.Proofs.Rendering

namespace Propositional

/-- The most parentheses that some tokens open and have not closed again at any one place. -/
def excess : List Token → Nat
  | [] => 0
  | token :: rest =>
    if token.isOperator "(" then excess rest + 1
    else if token.isOperator ")" then excess rest - 1
    else excess rest

theorem excess_negation (ts : List Token) : excess (Token.negation :: ts) = excess ts := rfl

theorem excess_connective (op : Connective) (ts : List Token) :
    excess (op.token :: ts) = excess ts := by
  cases op <;> rfl

theorem excess_opening (ts : List Token) : excess (Token.opening :: ts) = excess ts + 1 := rfl

theorem excess_closing (ts : List Token) : excess (Token.closing :: ts) = excess ts - 1 := rfl

theorem Scan.excess_step {s next : Scan} (h : s.step token = some next) (ts : List Token) :
    next.opened + excess ts ≤ s.opened + excess (token :: ts) := by
  cases takes_of_step h with
  | letter d name => exact Nat.le_refl _
  | negation d => exact Nat.le_refl _
  | opening hd =>
    simp only [excess_opening, opened]
    omega
  | connective d op =>
    rw [excess_connective]
    exact Nat.le_refl _
  | closing d =>
    simp only [excess_closing, opened]
    omega

/-- The parentheses that a scan leaves open add to those opened behind it. -/
theorem Scan.excess_walk {s s' : Scan} (h : s.walk ts = some s') (us : List Token) :
    s'.opened + excess us ≤ s.opened + excess (ts ++ us) := by
  induction ts generalizing s with
  | nil =>
    cases h
    exact Nat.le_refl _
  | cons token ts ih =>
    obtain ⟨next, hs⟩ := walk_first h
    rw [walk_step hs] at h
    exact Nat.le_trans (ih h) (excess_step hs (ts ++ us))

namespace Nesting

theorem excess_step {n : Nesting} (h : n.depth ≤ n.deepest) (token : Token) (ts : List Token) :
    (n.step token).depth ≤ (n.step token).deepest ∧
    n.depth + excess (token :: ts) ≤ max n.deepest ((n.step token).depth + excess ts) := by
  rw [excess]
  unfold step
  split
  · dsimp only
    omega
  · split
    · dsimp only
      omega
    · omega

/-- The flat count of open parentheses finds all that are open at once. -/
theorem excess_le_fold {n : Nesting} (h : n.depth ≤ n.deepest) (ts : List Token) :
    n.depth + excess ts ≤ (ts.foldl step n).deepest := by
  induction ts generalizing n with
  | nil => exact h
  | cons token ts ih =>
    obtain ⟨hstep, hle⟩ := excess_step h token ts
    have hrest := ih hstep
    have hgrown := fold_deepest n (token :: ts)
    rw [List.foldl_cons] at hgrown ⊢
    omega

end Nesting

theorem excess_le_nesting (ts : List Token) : excess ts ≤ deepestNesting ts := by
  have h := Nesting.excess_le_fold (n := ⟨0, 0⟩) (Nat.le_refl 0) ts
  rwa [Nat.zero_add] at h

/-- What a token can add to the calls under way it adds only once. -/
theorem excess_add_counts_le (ts : List Token) :
    excess ts + ts.count Token.negation + ts.count Connective.implies.token ≤ ts.length := by
  induction ts with
  | nil => exact Nat.le_refl 0
  | cons token ts ih =>
    rw [excess, List.length_cons]
    split
    · rename_i ho
      have hn : token ≠ Token.negation := by
        rintro rfl
        cases ho
      have hi : token ≠ Connective.implies.token := by
        rintro rfl
        cases ho
      rw [List.count_cons_of_ne hn, List.count_cons_of_ne hi]
      omega
    · have hone : (token :: ts).count Token.negation +
          (token :: ts).count Connective.implies.token ≤
          ts.count Token.negation + ts.count Connective.implies.token + 1 := by
        by_cases hn : token = Token.negation
        · subst hn
          have hi : Token.negation ≠ Connective.implies.token := by decide
          rw [List.count_cons_self, List.count_cons_of_ne hi]
          omega
        · rw [List.count_cons_of_ne hn, List.count_cons]
          split <;> omega
      split <;> omega

/-- The levels from one down to the tightest. -/
def Level.rank : Level → Nat
  | .biconditional => 6
  | .implication => 5
  | .disjunction => 4
  | .conjunction => 3
  | .negation => 2
  | .primary => 1

theorem Level.Joins.rank (shape : Level.Joins level op operand) :
    level.rank = operand.rank + 1 := by
  cases shape <;> rfl

/-- Calls at one time that a level needs for some tokens: a call of each level down to an operand,
all of them again for each parenthesis, and one for each `¬` and each `→`, the two that join to the
right. -/
def Level.demand (level : Level) (ts : List Token) : Nat :=
  level.rank + 6 * excess ts + ts.count Token.negation + ts.count Connective.implies.token

namespace Level

theorem demand_drop {s : Scan} (level : Level) (h : (Scan.operand d).walk ts = some s)
    (hs : d ≤ s.opened) (us : List Token) : level.demand us ≤ level.demand (ts ++ us) := by
  have hx : excess us ≤ excess (ts ++ us) := by
    have hw := Scan.excess_walk h us
    rw [Scan.opened] at hw
    omega
  simp only [demand, List.count_append]
  omega

theorem demand_connective (level : Level) (op : Connective) (ts : List Token) :
    level.demand ts ≤ level.demand (op.token :: ts) := by
  simp only [demand, excess_connective, List.count_cons]
  omega

theorem demand_implies (level : Level) (ts : List Token) :
    level.demand ts + 1 = level.demand (Connective.implies.token :: ts) := by
  have hne : Connective.implies.token ≠ Token.negation := by decide
  simp only [demand, excess_connective, List.count_cons_of_ne hne, List.count_cons_self]
  omega

theorem demand_negation (level : Level) (ts : List Token) :
    level.demand ts + 1 = level.demand (Token.negation :: ts) := by
  have hne : Token.negation ≠ Connective.implies.token := by decide
  simp only [demand, excess_negation, List.count_cons_of_ne hne, List.count_cons_self]
  omega

theorem demand_opening (ts : List Token) :
    Level.biconditional.demand ts + 1 = Level.primary.demand (Token.opening :: ts) := by
  have hn : Token.opening ≠ Token.negation := by decide
  have hi : Token.opening ≠ Connective.implies.token := by decide
  simp only [demand, rank, excess_opening, List.count_cons_of_ne hn, List.count_cons_of_ne hi]
  omega

end Level

namespace Cursor

/-- A level does not run out of so many calls if it is not short of them from the start. -/
def Suffices (calls : Nat) (level : Level) : Prop :=
  ∀ c : Cursor, level.demand c.rest ≤ calls → ¬(formula calls level c).Exhausted

/-- What is left behind a formula needs no more calls than it did with the formula. -/
theorem demand_done (hne : operand ≠ .primary) (h : formula calls operand c = .done φ c')
    (level : Level) : level.demand c'.rest ≤ level.demand c.rest := by
  obtain ⟨ts, hagain⟩ := reads_again hne h
  rw [hagain.passes.rest]
  exact level.demand_drop hagain.walk (Nat.le_refl _) c'.rest

theorem more_suffices (hne : operand ≠ .primary) (h : Suffices calls operand)
    (hc : operand.demand c.rest ≤ calls) :
    ¬(more op (formula calls operand) rounds left c).Exhausted := by
  induction rounds generalizing left c with
  | zero => exact Outcome.not_exhausted_done
  | succ rounds ih =>
    unfold more
    split
    · rename_i hat
      obtain ⟨us, hus⟩ := is_at_cons (is_at_iff.mp hat)
      have hnext : operand.demand c.next.rest ≤ calls := by
        have hle := operand.demand_connective op c.next.rest
        have hrest : c.rest = op.token :: c.next.rest := (passes_next hus).rest
        rw [← hrest] at hle
        exact Nat.le_trans hle hc
      rw [Outcome.exhausted_and_then]
      rintro (hx | ⟨right, c₁, hr, hx⟩)
      · exact h c.next hnext hx
      · exact ih (Nat.le_trans (demand_done hne hr operand) hnext) hx
    · exact Outcome.not_exhausted_done

theorem joined_suffices (shape : Level.Joins level op operand) (h : Suffices calls operand) :
    Suffices (calls + 1) level := by
  intro c hc
  have hoperand : operand.demand c.rest ≤ calls := by
    simp only [Level.demand, shape.rank] at hc ⊢
    omega
  rw [shape.formula_eq, joined, Outcome.exhausted_and_then]
  rintro (hx | ⟨left, c₁, hl, hx⟩)
  · exact h c hoperand hx
  · have hle := demand_done shape.operand_ne_primary hl operand
    exact more_suffices shape.operand_ne_primary h (Nat.le_trans hle hoperand) hx

theorem implication_suffices (hd : Suffices calls .disjunction)
    (hi : Suffices calls .implication) : Suffices (calls + 1) .implication := by
  intro c hc
  unfold formula
  rw [Outcome.exhausted_and_then]
  rintro (hx | ⟨left, c₁, hl, hx⟩)
  · refine hd c ?_ hx
    simp only [Level.demand, Level.rank] at hc ⊢
    omega
  · split at hx
    · rename_i hat
      obtain ⟨us, hus⟩ := is_at_cons (is_at_iff.mp hat)
      have hrest : c₁.rest = Connective.implies.token :: c₁.next.rest := (passes_next hus).rest
      have hle := demand_done (by simp) hl .implication
      rw [hrest, ← Level.demand_implies] at hle
      exact hi c₁.next (by omega) (Outcome.exhausted_map.mp hx)
    · exact Outcome.not_exhausted_done hx

theorem negation_suffices (hn : Suffices calls .negation) (hp : Suffices calls .primary) :
    Suffices (calls + 1) .negation := by
  intro c hc
  unfold formula
  split
  · rename_i hat
    obtain ⟨us, hus⟩ := is_at_cons (is_at_iff.mp hat)
    have hrest : c.rest = Token.negation :: c.next.rest := (passes_next hus).rest
    rw [hrest, ← Level.demand_negation] at hc
    rw [Outcome.exhausted_map]
    exact hn c.next (by omega)
  · refine hp c ?_
    simp only [Level.demand, Level.rank] at hc ⊢
    omega

theorem primary_suffices (hb : Suffices calls .biconditional) :
    Suffices (calls + 1) .primary := by
  intro c hc hx
  obtain ⟨us, hus, _, hx⟩ := primary_exhausted hx
  have hrest : c.rest = Token.opening :: c.opened.rest := (passes_next hus).rest
  rw [hrest, ← Level.demand_opening] at hc
  exact hb c.opened (by omega) hx

/-- A level has as many calls as it needs. -/
theorem formula_suffices (calls : Nat) (level : Level) : Suffices calls level := by
  -- On the calls and for all levels at once, since not every call is of a tighter level.
  induction calls generalizing level with
  | zero =>
    intro c hc
    cases level <;> simp [Level.demand, Level.rank] at hc
  | succ calls ih =>
    cases level with
    | biconditional => exact joined_suffices .biconditional (ih .implication)
    | implication => exact implication_suffices (ih .disjunction) (ih .implication)
    | disjunction => exact joined_suffices .disjunction (ih .conjunction)
    | conjunction => exact joined_suffices .conjunction (ih .negation)
    | negation => exact negation_suffices (ih .negation) (ih .primary)
    | primary => exact primary_suffices (ih .biconditional)

end Cursor

/-- The tokens that make a node with nodes below it. -/
def Token.isOperation (token : Token) : Bool :=
  token.isOperator "¬" || [Connective.and, .or, .implies, .iff].any (token.isOperator ·.symbol)

theorem Token.is_operation_connective (op : Connective) : op.token.isOperation = true := by
  cases op <;> rfl

namespace Formula

/-- The number of nodes that are no atoms. -/
def operations : Formula → Nat
  | .atom _ => 0
  | .neg operand => operand.operations + 1
  | .binary _ left right => left.operations + right.operations + 1

theorem height_le_operations (φ : Formula) : φ.height ≤ φ.operations + 1 := by
  induction φ with
  | atom name => exact Nat.le_refl _
  | neg operand ih =>
    simp only [height, operations]
    omega
  | binary op left right ihl ihr =>
    simp only [height, operations]
    omega

theorem operations_eq (φ : Formula) : φ.operations = φ.tokens.countP Token.isOperation := by
  induction φ with
  | atom name => rfl
  | neg operand ih =>
    have hn : Token.negation.isOperation = true := rfl
    rw [operations, ih, tokens, List.countP_cons_of_pos hn]
  | binary op left right ihl ihr =>
    have ho : ¬Token.opening.isOperation := by decide
    have hc : ¬Token.closing.isOperation := by decide
    rw [operations, ihl, ihr, tokens, List.countP_cons_of_neg ho, List.countP_append,
      List.countP_append, List.countP_cons_of_pos (Token.is_operation_connective op),
      List.countP_singleton, if_neg hc]
    omega

end Formula

theorem count_operations_bare (ts : List Token) :
    (bare ts).countP Token.isOperation = ts.countP Token.isOperation := by
  rw [bare, List.countP_filter]
  apply List.countP_congr
  intro token _
  have hne : token.isOperation = true → token ≠ Token.opening ∧ token ≠ Token.closing := by
    intro h
    constructor <;> rintro rfl <;> cases h
  simpa using hne

/-- Each `¬` and each connective makes one node. -/
theorem Derives.operations (h : Derives n level ts φ) :
    φ.operations = ts.countP Token.isOperation := by
  rw [φ.operations_eq, ← count_operations_bare, h.bare_tokens, count_operations_bare]

namespace Formula

/-- The truth value, as far as so many calls at one time suffice for it. A node is a call, which
calls its operands one after the other. -/
def holdsWithin (valuation : String → Bool) : Nat → Formula → Option Bool
  | 0, _ => none
  | _ + 1, .atom name => some (valuation name)
  | calls + 1, .neg operand => (holdsWithin valuation calls operand).map (!·)
  | calls + 1, .binary op left right => do
    let l ← holdsWithin valuation calls left
    let r ← holdsWithin valuation calls right
    return op.apply l r

/-- The calls that are under way at one time are as many as the formula is high. -/
theorem holds_within (v : String → Bool) (calls : Nat) (φ : Formula) :
    φ.holdsWithin v calls = if φ.height ≤ calls then some (φ.holds v) else none := by
  induction calls generalizing φ with
  | zero => cases φ <;> simp [holdsWithin, height]
  | succ calls ih =>
    cases φ with
    | atom name => simp [holdsWithin, height, holds]
    | neg operand =>
      have hheight : (neg operand).height ≤ calls + 1 ↔ operand.height ≤ calls :=
        Nat.succ_le_succ_iff
      rw [holdsWithin, ih]
      by_cases ho : operand.height ≤ calls <;> simp [hheight, ho, holds]
    | binary op left right =>
      have hheight : (binary op left right).height ≤ calls + 1 ↔
          left.height ≤ calls ∧ right.height ≤ calls := by
        rw [height, Nat.succ_le_succ_iff, Nat.max_le]
      rw [holdsWithin, ih, ih]
      by_cases hl : left.height ≤ calls <;> by_cases hr : right.height ≤ calls <;>
        simp [hheight, hl, hr, holds]

theorem holds_within_iff (φ : Formula) (a : Assignment) :
    φ.holdsWithin a.truth calls = some b ↔ φ.height ≤ calls ∧ φ.toTree.evaluate a = .ok b := by
  rw [holds_within, evaluate_tree, Except.ok.injEq]
  by_cases hh : φ.height ≤ calls <;> simp [hh]

theorem height_of_tokens [Interpreter] (h : ofTokens ts = .ok φ) :
    φ.height ≤ ts.countP Token.isOperation + 1 := by
  rw [← (derives_of_tokens h).operations]
  exact φ.height_le_operations

end Formula

/-- Tokens as many and as nested as the shell accepts need no more calls than 768, neither to be
read nor for a truth value. -/
theorem Formula.calls_suffice [Interpreter] (hn : deepestNesting ts ≤ nestingLimit)
    (hl : ts.length ≤ longestLimit) (hc : 768 ≤ calls) :
    ¬(Cursor.formula calls .biconditional (Cursor.start ts)).Exhausted ∧
    ∀ φ, ofTokens ts = .ok φ → φ.height ≤ calls := by
  simp only [nestingLimit] at hn
  simp only [longestLimit] at hl
  refine ⟨Cursor.formula_suffices calls .biconditional _ ?_, ?_⟩
  · have hx := excess_le_nesting ts
    have hcounts := excess_add_counts_le ts
    simp only [Level.demand, Level.rank, Cursor.start]
    omega
  · intro φ h
    have hheight := height_of_tokens h
    have hcount : ts.countP Token.isOperation ≤ ts.length := List.countP_le_length
    omega

theorem Limit.of_value_number (h : ofValue? v = some limit) : limit.number ≤ longestLimit := by
  unfold ofValue? at h
  split at h
  · rename_i n
    split at h
    · rename_i hn
      cases h
      simp only [number]
      omega
    · cases h
  · cases h
    decide
  · cases h

theorem Settings.number_of_check [Interpreter] (h : checkLimit v = .ok found) :
    found.number ≤ longestLimit := by
  unfold checkLimit at h
  split at h
  · rename_i found hv
    cases h
    exact Limit.of_value_number hv
  · cases h

theorem Settings.number_of_keywords [Interpreter] (h : ofKeywords fields = .ok settings) :
    settings.limit.number ≤ longestLimit := by
  unfold ofKeywords at h
  simp only [bind, Except.bind] at h
  split at h
  · cases h
  · split at h
    · cases h
    · rename_i found hfound
      split at h
      · cases h
      · split at h
        · cases h
        · cases h
          exact number_of_check hfound

namespace Shell

theorem length_of_accepted (h : rejection? limit text = none) : text.length ≤ limit.number := by
  unfold rejection? at h
  split at h
  · cases h
  · rename_i hl
    exact Nat.le_of_not_lt hl

section
variable [Interpreter]

theorem scan_of_accepted (hs : Settings.ofFields fields = .ok settings)
    (h : rejection? settings.limit text = none) :
    (Token.scan text).length ≤ longestLimit := by
  have hscan : (Token.scan text).length ≤ text.length := by
    rw [← String.length_toList]
    exact List.length_filterMap_le _ _
  have hlength := length_of_accepted h
  have hnumber := Settings.number_of_keywords hs
  omega

theorem evaluate_of_accepted (hs : Settings.ofFields fields = .ok settings)
    (h : rejection? settings.limit text = none) :
    Expression.parse text ≠ .error .callsExhausted ∧
    ∀ a, Expression.evaluate text a ≠ .error .callsExhausted := by
  have hcalls : 768 ≤ callLimit := Nat.le_trans (by decide) Interpreter.calls_room
  obtain ⟨hread, hheight⟩ :=
    Formula.calls_suffice (nesting_of_accepted h) (scan_of_accepted hs h) hcalls
  have hparse : Expression.parse text ≠ .error .callsExhausted :=
    fun hx => hread (Formula.exhausted_formula hx)
  refine ⟨hparse, ?_⟩
  intro a
  unfold Expression.evaluate
  cases hp : Expression.parse text with
  | error e =>
    intro hx
    cases hx
    exact hparse hp
  | ok φ =>
    simp only [bind, Except.bind]
    rw [if_neg (Nat.not_lt.mpr (hheight φ hp))]
    intro hx
    cases hx

/-- A text that the shell accepts never comes near the limit of calls, be it a formula or not.
Reading tokens takes six calls at one time for the levels and for each parenthesis that is open,
and one for each `¬` and each `→`; a truth value takes as many as the formula is high, which is
one more than it has operations at most. Both stay below 800, with room for the calls that read a
single token. -/
theorem accepted_within_calls :
    (∀ ts d calls, deepestNesting ts ≤ d →
      6 * (d + 1) + ts.count Token.negation + ts.count Connective.implies.token ≤ calls →
      ¬(Cursor.formula calls .biconditional (Cursor.start ts)).Exhausted) ∧
    (∀ ts φ, Formula.ofTokens ts = .ok φ → φ.height ≤ ts.countP Token.isOperation + 1 ∧
      ∀ a calls b, φ.holdsWithin (Assignment.truth a) calls = some b ↔
        φ.height ≤ calls ∧ φ.toTree.evaluate a = .ok b) ∧
    (∀ ts, deepestNesting ts ≤ 50 → ts.length ≤ 512 →
      ¬(Cursor.formula 768 .biconditional (Cursor.start ts)).Exhausted ∧
      ∀ φ, Formula.ofTokens ts = .ok φ → φ.height ≤ 768) ∧
    ∀ fields settings text, Settings.ofFields fields = .ok settings →
      rejection? settings.limit text = none →
      Expression.parse text ≠ .error .callsExhausted ∧
      ∀ a, Expression.evaluate text a ≠ .error .callsExhausted := by
  refine ⟨?_, ?_, ?_, ?_⟩
  · intro ts d calls hd hcalls
    refine Cursor.formula_suffices calls .biconditional (Cursor.start ts) ?_
    have hx := excess_le_nesting ts
    simp only [Level.demand, Level.rank, Cursor.start]
    omega
  · exact fun ts φ h => ⟨Formula.height_of_tokens h, fun a _ _ => φ.holds_within_iff a⟩
  · exact fun ts hn hl => Formula.calls_suffice hn hl (Nat.le_refl 768)
  · exact fun fields settings text => evaluate_of_accepted

end

theorem accepted_within_calls_unclosed :
    (deepestNesting (Token.scan "¬(p → ¬(q") ≤ 2 ∧
      ¬(Cursor.formula 21 .biconditional (Cursor.start (Token.scan "¬(p → ¬(q"))).Exhausted) ∧
    (Formula.ofTokens (Token.scan "¬(p → q)") =
        .ok (.neg (.binary .implies (.atom "p") (.atom "q"))) ∧
      (Formula.neg (.binary .implies (.atom "p") (.atom "q"))).height ≤ 3) ∧
    (deepestNesting (Token.scan "¬(p → ¬(q") ≤ 50 ∧ (Token.scan "¬(p → ¬(q").length ≤ 512 ∧
      ¬(Cursor.formula 768 .biconditional (Cursor.start (Token.scan "¬(p → ¬(q"))).Exhausted) ∧
    Settings.ofFields [("max_input_length", .int 9)] = .ok ⟨.count 9, "WARNING", .tabla⟩ ∧
    rejection? (.count 9) "¬(p → ¬(q" = none ∧
    Expression.parse "¬(p → ¬(q" ≠ .error .callsExhausted := by
  obtain ⟨hread, hheight, hboth, haccepted⟩ := accepted_within_calls
  have hn : deepestNesting (Token.scan "¬(p → ¬(q") ≤ 2 := by decide
  have hp : Formula.ofTokens (Token.scan "¬(p → q)") =
      .ok (.neg (.binary .implies (.atom "p") (.atom "q"))) := rfl
  have hs : Settings.ofFields [("max_input_length", .int 9)] =
      .ok ⟨.count 9, "WARNING", .tabla⟩ := rfl
  have hr : rejection? (.count 9) "¬(p → ¬(q" = none := rfl
  have hl : (Token.scan "¬(p → ¬(q").length ≤ 512 := by decide
  have h50 : deepestNesting (Token.scan "¬(p → ¬(q") ≤ 50 := by omega
  exact ⟨⟨hn, hread _ 2 21 hn (by decide)⟩, ⟨hp, (hheight _ _ hp).1⟩,
    ⟨h50, hl, (hboth _ h50 hl).1⟩, hs, hr, (haccepted _ _ _ hs hr).1⟩

end Shell

end Propositional
