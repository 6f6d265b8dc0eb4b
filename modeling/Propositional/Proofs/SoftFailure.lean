import Propositional.Proofs.CallDepth
import Propositional.Proofs.Enumeration

namespace Propositional

/-- The failures that count as false. To miss a token is none of them: it would end the run. -/
def Failure.Soft : Failure → Prop
  | .malformed _ | .callsExhausted => True
  | .noToken => False

namespace Expression

/-- The text is a formula, and there are calls enough for its truth value. -/
def HasValue [Interpreter] (text : String) (a : Assignment) (b : Bool) : Prop :=
  ∃ φ, parse text = .ok φ ∧ φ.toTree.evaluate a = .ok b ∧
    φ.holdsWithin a.truth callLimit = some b

/-- Why a text has no truth value: it is no formula, or its formula takes too many calls. -/
inductive Fails [Interpreter] (text : String) (a : Assignment) : Failure → Prop
  | parsing (h : parse text = .error e) : Fails text a e
  | evaluation (h : parse text = .ok φ) (hc : φ.holdsWithin a.truth callLimit = none) :
      Fails text a .callsExhausted

/-- What is logged of a failure. -/
def failureRecord (text : String) (e : Failure) : Log.Record :=
  ⟨.warning, "Error evaluando la expresion " ++ Text.quote text ++ ": " ++ e.message⟩

section
variable [Interpreter]

theorem soft_of_parse (h : parse text = .error e) : e.Soft := by
  rcases Formula.of_tokens_cases (Token.scan text) with ⟨φ, hφ, _⟩ | ⟨e', he, _⟩ | hx
  · cases h.symm.trans hφ
  · cases h.symm.trans he
    trivial
  · cases h.symm.trans hx
    trivial

theorem Fails.soft (h : Fails text a e) : e.Soft := by
  cases h with
  | parsing h => exact soft_of_parse h
  | evaluation _ _ => trivial

theorem HasValue.evaluate_eq (h : HasValue text a b) : evaluate text a = .ok b := by
  obtain ⟨φ, hp, _, hw⟩ := h
  obtain ⟨hh, hv⟩ := (φ.holds_within_iff a).mp hw
  rw [Formula.evaluate_tree, Except.ok.injEq] at hv
  rw [evaluate_parsed hp, if_neg (Nat.not_lt.mpr hh), hv]

theorem Fails.evaluate_eq (h : Fails text a e) : evaluate text a = .error e := by
  cases h with
  | parsing h =>
    unfold evaluate
    rw [h]
    rfl
  | evaluation h hc =>
    rename_i φ
    have hh : callLimit < φ.height := by
      refine Nat.lt_of_not_le (fun hh => ?_)
      rw [Formula.holds_within, if_pos hh] at hc
      cases hc
    rw [evaluate_parsed h, if_pos hh]

/-- Whether a text fails, and how, is the same for all assignments. -/
theorem valued_or_fails (text : String) :
    (∀ a, ∃ b, HasValue text a b) ∨ ∃ e, ∀ a, Fails text a e := by
  cases hp : parse text with
  | error e => exact .inr ⟨e, fun a => .parsing hp⟩
  | ok φ =>
    by_cases hh : φ.height ≤ callLimit
    · refine .inl (fun a => ⟨φ.holds a.truth, φ, hp, φ.evaluate_tree a, ?_⟩)
      rw [Formula.holds_within, if_pos hh]
    · refine .inr ⟨.callsExhausted, fun a => .evaluation hp ?_⟩
      rw [Formula.holds_within, if_neg hh]

theorem HasValue.digit_eq (h : HasValue text a b) : digit text a = if b then 1 else 0 :=
  digit_of_evaluate h.evaluate_eq

theorem Fails.digit_eq (h : Fails text a e) : digit text a = 0 := by
  unfold digit
  rw [h.evaluate_eq]

theorem HasValue.warnings_eq (h : HasValue text a b) : warnings text a = [] := by
  unfold warnings
  rw [h.evaluate_eq]

theorem Fails.warnings_eq (h : Fails text a e) : warnings text a = [failureRecord text e] := by
  unfold warnings
  rw [h.evaluate_eq]
  rfl

theorem digit_eq_one_iff_has_value : digit text a = 1 ↔ HasValue text a true := by
  constructor
  · intro hd
    rcases valued_or_fails text with hv | ⟨e, hf⟩
    · obtain ⟨b, hb⟩ := hv a
      rw [hb.digit_eq] at hd
      cases b with
      | true => exact hb
      | false => cases hd
    · rw [(hf a).digit_eq] at hd
      cases hd
  · exact fun h => h.digit_eq

end

end Expression

namespace TruthTable
open Expression (HasValue Fails failureRecord)

theorem length_assignments (text : String) :
    (assignments text).length = 2 ^ (Expression.vars text).length := by
  rw [assignments, List.length_map, length_inputs]

section
variable [Interpreter]

theorem results_of_expression (text : String) :
    (ofExpression text).results = .ok ((assignments text).map (Expression.digit text)) := by
  rw [assignments, List.map_map]
  exact results_of_rows _ _ _ _

theorem warnings_of_valued (h : ∀ a, ∃ b, HasValue text a b) : warnings text = [] := by
  refine List.flatMap_eq_nil_iff.mpr (fun a _ => ?_)
  obtain ⟨b, hb⟩ := h a
  exact hb.warnings_eq

theorem warnings_of_failing (h : ∀ a, Fails text a e) :
    warnings text = List.replicate (2 ^ (Expression.vars text).length) (failureRecord text e) := by
  have hall : Expression.warnings text = fun _ => [failureRecord text e] :=
    funext (fun a => (h a).warnings_eq)
  rw [warnings, hall, ← List.map_eq_flatMap, List.map_const', length_assignments]

theorem results_of_failing (h : ∀ a, Fails text a e) :
    (ofExpression text).results =
      .ok (List.replicate (2 ^ (Expression.vars text).length) 0) := by
  have hall : Expression.digit text = fun _ => 0 := funext (fun a => (h a).digit_eq)
  rw [results_of_expression, hall, List.map_const', length_assignments]

end

end TruthTable

/-- A text without a truth value counts as false and leaves one warning, which tells of its
failure, each time it is evaluated; a text with one leaves none. All failures are of the kinds that
are allowed for. Since they are the same under every assignment, a table either is made without a
warning or is false in every row, with the same warning for each. -/
theorem Expression.evaluation_fails_softly [Interpreter] (text : String) :
    (∀ a, (digit text a = 1 ↔ HasValue text a true) ∧
      ((∃ b, HasValue text a b ∧ digit text a = (if b then 1 else 0) ∧ warnings text a = []) ∨
        ∃ e, Fails text a e ∧ e.Soft ∧ digit text a = 0 ∧
          warnings text a = [failureRecord text e])) ∧
    ((∀ a, ∃ b, HasValue text a b) ∧ TruthTable.warnings text = [] ∨
      ∃ e, (∀ a, Fails text a e) ∧ e.Soft ∧
        TruthTable.warnings text =
          List.replicate (2 ^ (vars text).length) (failureRecord text e) ∧
        (TruthTable.ofExpression text).results =
          .ok (List.replicate (2 ^ (vars text).length) 0)) := by
  refine ⟨fun a => ⟨digit_eq_one_iff_has_value, ?_⟩, ?_⟩
  · rcases valued_or_fails text with hv | ⟨e, hf⟩
    · obtain ⟨b, hb⟩ := hv a
      exact .inl ⟨b, hb, hb.digit_eq, hb.warnings_eq⟩
    · exact .inr ⟨e, hf a, (hf a).soft, (hf a).digit_eq, (hf a).warnings_eq⟩
  · rcases valued_or_fails text with hv | ⟨e, hf⟩
    · exact .inl ⟨hv, TruthTable.warnings_of_valued hv⟩
    · exact .inr ⟨e, hf, (hf []).soft, TruthTable.warnings_of_failing hf,
        TruthTable.results_of_failing hf⟩

example : (TruthTable.ofExpression "p ∧ (q").results = .ok [0, 0, 0, 0] := rfl

end Propositional
