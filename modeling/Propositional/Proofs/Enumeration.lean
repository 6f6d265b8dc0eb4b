import Propositional.Proofs.Validation
import Propositional.Proofs.Validity

namespace Propositional

/-- The assignment of the cells that stand under some variables. -/
def Assignment.ofCells (vars : List String) (cells : List Int) : Assignment :=
  vars.zip (cells.map (fun cell => .bool (cell = 1)))

namespace TruthTable

/-- Each combination of values of the variables has one row, in increasing order, which ends in a
one if a condition holds of the assignment that the row stands for, and else in a zero. -/
structure Tabulates (table : TruthTable) (vars : List String) (Holds : Assignment → Prop) :
    Prop where
  vars_eq : table.vars = vars
  length_rows : table.rows.length = 2 ^ vars.length
  cells : ∀ row ∈ table.rows,
    row.length = vars.length + 1 ∧ ∀ cell ∈ row, cell = 0 ∨ cell = 1
  increasing : (table.rows.map (List.take vars.length)).Pairwise (List.Lex (· < ·))
  complete : ∀ values : List Int, values.length = vars.length →
    (∀ value ∈ values, value = 0 ∨ value = 1) →
    (table.rows.map (List.take vars.length)).count values = 1
  result : ∀ row ∈ table.rows,
    row.getLast? = some 1 ↔ Holds (.ofCells vars (row.take vars.length))

/-- A table depends on no more of a text than its variables and what it is parsed to. -/
theorem of_expression_congr [Interpreter] (hv : Expression.vars text = Expression.vars text')
    (hp : Expression.parse text = Expression.parse text') :
    ofExpression text = ofExpression text' := by
  have hd : ∀ a, Expression.digit text a = Expression.digit text' a := by
    intro a
    unfold Expression.digit Expression.evaluate
    rw [hp]
  simp only [ofExpression, inputs, hv, hd]

theorem inputs_increasing (text : String) : (inputs text).Pairwise (List.Lex (· < ·)) := by
  rw [inputs_eq]
  exact combinations_increasing _

theorem lex_cells (h : List.Lex (· < ·) xs ys) :
    List.Lex (· < ·) (xs.map Int.ofNat) (ys.map Int.ofNat) := by
  induction h with
  | nil => exact .nil
  | cons _ ih => exact .cons ih
  | rel hlt => exact .rel (Int.ofNat_lt.mpr hlt)

theorem nodup_of_increasing {rows : List (List Int)} (h : rows.Pairwise (List.Lex (· < ·))) :
    rows.Nodup := by
  refine h.imp ?_
  rintro row _ hlt rfl
  exact List.lex_irrefl (fun cell => Int.lt_irrefl cell) row hlt

theorem row_of_mem [Interpreter] (h : row ∈ (ofExpression text).rows) :
    ∃ digits ∈ inputs text, row = digits.map Int.ofNat ++
      [Expression.digit text (.ofBits (Expression.vars text) digits)] := by
  obtain ⟨digits, hm, rfl⟩ := List.mem_map.mp h
  exact ⟨digits, hm, rfl⟩

/-- The inputs, as cells, are all rows of zeros and ones that are as long as there are
variables. -/
theorem mem_cells : values ∈ (inputs text).map (List.map Int.ofNat) ↔
    values.length = (Expression.vars text).length ∧ ∀ value ∈ values, value = 0 ∨ value = 1 := by
  constructor
  · intro h
    obtain ⟨digits, hm, rfl⟩ := List.mem_map.mp h
    obtain ⟨hl, hb⟩ := mem_inputs.mp hm
    refine ⟨by rw [List.length_map, hl], ?_⟩
    intro value hv
    obtain ⟨b, hbm, rfl⟩ := List.mem_map.mp hv
    rcases Nat.le_one_iff_eq_zero_or_eq_one.mp (hb b hbm) with rfl | rfl
    · exact .inl rfl
    · exact .inr rfl
  · rintro ⟨hl, hv⟩
    refine List.mem_map.mpr ⟨values.map Int.toNat, mem_inputs.mpr ⟨?_, ?_⟩, ?_⟩
    · rw [List.length_map, hl]
    · intro b hb
      obtain ⟨value, hm, rfl⟩ := List.mem_map.mp hb
      rcases hv value hm with rfl | rfl <;> decide
    · rw [List.map_map]
      have hid : ∀ value ∈ values, (Int.ofNat ∘ Int.toNat) value = id value := by
        intro value hm
        rcases hv value hm with rfl | rfl <;> rfl
      rw [List.map_congr_left hid, List.map_id]

theorem take_row (hm : digits ∈ inputs text) (result : Int) :
    (digits.map Int.ofNat ++ [result]).take (Expression.vars text).length =
      digits.map Int.ofNat := by
  have hl : (digits.map Int.ofNat).length = (Expression.vars text).length := by
    rw [List.length_map, (mem_inputs.mp hm).1]
  rw [← hl, List.take_left]

theorem take_rows [Interpreter] (text : String) :
    (ofExpression text).rows.map (List.take (Expression.vars text).length) =
      (inputs text).map (List.map Int.ofNat) := by
  simp only [ofExpression, List.map_map]
  refine List.map_congr_left (fun digits hm => ?_)
  exact take_row hm _

end TruthTable

namespace Expression

section
variable [Interpreter]

theorem digit_zero_or_one (text : String) (a : Assignment) :
    digit text a = 0 ∨ digit text a = 1 := by
  unfold digit
  split
  · exact .inr rfl
  · exact .inl rfl
  · exact .inl rfl

theorem digit_eq_one : digit text a = 1 ↔ evaluate text a = .ok true := by
  unfold digit
  split
  · rename_i h
    simp [h]
  · rename_i h
    simp [h]
  · rename_i h
    simp [h]

/-- A text is true if it has a formula that is true and not too high to be evaluated. -/
theorem evaluate_eq_true : evaluate text a = .ok true ↔
    ∃ φ, parse text = .ok φ ∧ φ.height ≤ callLimit ∧ φ.toTree.evaluate a = .ok true := by
  unfold evaluate
  cases parse text with
  | error e =>
    constructor
    · intro h
      cases h
    · rintro ⟨_, h, _⟩
      cases h
  | ok φ =>
    simp only [bind, Except.bind, pure, Except.pure, Except.ok.injEq, exists_eq_left',
      Formula.evaluate_tree]
    by_cases hh : callLimit < φ.height
    · rw [if_pos hh]
      constructor
      · intro h
        cases h
      · exact fun h => absurd hh (Nat.not_lt.mpr h.1)
    · rw [if_neg hh, Except.ok.injEq]
      exact ⟨fun h => ⟨Nat.le_of_not_lt hh, h⟩, fun h => h.2⟩

end

end Expression

/-- Cells that are digits stand for the same assignment as these. -/
theorem Assignment.of_cells_digits (vars : List String) (digits : List Nat) :
    ofCells vars (digits.map Int.ofNat) = ofBits vars digits := by
  rw [ofCells, ofBits, List.map_map]
  refine congrArg vars.zip (List.map_congr_left (fun digit _ => ?_))
  have hone : decide (Int.ofNat digit = 1) = (digit == 1) := by
    rw [Bool.eq_iff_iff, decide_eq_true_iff, beq_iff_eq]
    exact Int.ofNat_inj
  exact congrArg Json.Value.bool hone

namespace TruthTable

section
variable [Interpreter]

theorem row_length (h : row ∈ (ofExpression text).rows) :
    row.length = (Expression.vars text).length + 1 := by
  obtain ⟨digits, hm, rfl⟩ := row_of_mem h
  simp [(mem_inputs.mp hm).1]

theorem zero_or_one_of_mem (h : row ∈ (ofExpression text).rows) :
    ∀ cell ∈ row, cell = 0 ∨ cell = 1 := by
  obtain ⟨digits, hm, rfl⟩ := row_of_mem h
  refine List.forall_mem_append.mpr ⟨?_, List.forall_mem_singleton.mpr ?_⟩
  · exact (mem_cells.mp (List.mem_map_of_mem hm)).2
  · exact Expression.digit_zero_or_one _ _

/-- The table of any text, be it a formula or not, holds every combination of values of its
variables once, in increasing order, and tells of each whether the text is true. It can be stored,
and it has a verdict. -/
theorem of_expression_tabulates (text : String) :
    (ofExpression text).Tabulates (Expression.vars text) (fun a => ∃ φ,
      Expression.parse text = .ok φ ∧ φ.height ≤ callLimit ∧ φ.toTree.evaluate a = .ok true) ∧
    ofValue (ofExpression text).toValue = .ok (ofExpression text) ∧
    (∃ column, (ofExpression text).results = .ok column) ∧
    ∃ verdict, (ofExpression text).verdict = .ok verdict := by
  have hincreasing :
      ((ofExpression text).rows.map (List.take (Expression.vars text).length)).Pairwise
        (List.Lex (· < ·)) := by
    rw [take_rows, List.pairwise_map]
    exact (inputs_increasing text).imp lex_cells
  refine ⟨⟨rfl, ?_, ?_, hincreasing, ?_, ?_⟩, of_value_to_value _, ?_, ?_⟩
  · rw [ofExpression, List.length_map, length_inputs]
  · exact fun row hrow => ⟨row_length hrow, zero_or_one_of_mem hrow⟩
  · -- Rows that increase do not come twice.
    intro values hl hv
    rw [(nodup_of_increasing hincreasing).count, take_rows, if_pos (mem_cells.mpr ⟨hl, hv⟩)]
  · intro row hrow
    obtain ⟨digits, hm, rfl⟩ := row_of_mem hrow
    rw [take_row hm, Assignment.of_cells_digits, List.getLast?_concat, Option.some.injEq,
      Expression.digit_eq_one, Expression.evaluate_eq_true]
  · exact ⟨_, results_of_rows _ _ _ _⟩
  · have hdigit : ∀ digits, Expression.digit text (.ofBits (Expression.vars text) digits) =
        if decide (Expression.digit text (.ofBits (Expression.vars text) digits) = 1) then 1
        else 0 := by
      intro digits
      rcases Expression.digit_zero_or_one text (.ofBits (Expression.vars text) digits) with h | h
      · rw [h]
        rfl
      · rw [h]
        rfl
    obtain ⟨verdict, hverdict, _⟩ := verdict_of_digits _ hdigit
    exact ⟨verdict, hverdict⟩

end

example : (ofExpression "p → q").rows = [[0, 0, 1], [0, 1, 1], [1, 0, 0], [1, 1, 1]] := rfl

end TruthTable

end Propositional
