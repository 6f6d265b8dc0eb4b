import Propositional.Proofs.Recognition
import Propositional.Shell.Presentation

namespace Propositional

namespace Nesting

/-- The count of open parentheses agrees with a scan that has not stopped. -/
structure Follows (n : Nesting) (s : Scan) : Prop where
  depth : n.depth = s.opened
  deepest : n.deepest ≤ nestingLimit

theorem step_connective (n : Nesting) (op : Connective) : n.step op.token = n := by
  cases op <;> rfl

theorem Follows.step {n : Nesting} (h : n.Follows s) (hs : s.step token = some next) :
    (n.step token).Follows next := by
  cases Scan.takes_of_step hs with
  | letter d name => exact ⟨h.depth, h.deepest⟩
  | negation d => exact h
  | opening hd =>
    have hdepth := h.depth
    refine ⟨congrArg (· + 1) hdepth, Nat.max_le.mpr ⟨h.deepest, ?_⟩⟩
    rw [hdepth]
    exact hd
  | connective d op =>
    rw [step_connective]
    exact ⟨h.depth, h.deepest⟩
  | closing d => exact ⟨congrArg (· - 1) h.depth, h.deepest⟩

theorem Follows.walk {n : Nesting} (h : n.Follows s) (hs : s.walk ts = some s') :
    (ts.foldl Nesting.step n).Follows s' := by
  induction ts generalizing n s with
  | nil =>
    cases hs
    exact h
  | cons token ts ih =>
    obtain ⟨next, hn⟩ := Scan.walk_first hs
    rw [Scan.walk_step hn] at hs
    exact ih (h.step hn) hs

theorem step_deepest (n : Nesting) (token : Token) : n.deepest ≤ (n.step token).deepest := by
  unfold step
  split
  · exact Nat.le_max_left _ _
  · split <;> exact Nat.le_refl _

theorem fold_deepest (n : Nesting) (ts : List Token) :
    n.deepest ≤ (ts.foldl step n).deepest := by
  induction ts generalizing n with
  | nil => exact Nat.le_refl _
  | cons token ts ih => exact Nat.le_trans (step_deepest n token) (ih _)

theorem follows_start : Follows ⟨0, 0⟩ (.operand 0) := ⟨rfl, Nat.zero_le _⟩

end Nesting

/-- Tokens that a scan takes never open more parentheses than may be open. -/
theorem Scan.nesting_le (h : (operand 0).walk ts = some s) : deepestNesting ts ≤ nestingLimit :=
  (Nesting.follows_start.walk h).deepest

/-- A parenthesis that is opened beyond those that a scan takes counts, whatever follows it. -/
theorem Scan.opened_lt_nesting (h : (operand 0).walk us = some s) (rest : List Token) :
    s.opened < deepestNesting (us ++ Token.opening :: rest) := by
  have hd : (us.foldl Nesting.step ⟨0, 0⟩).depth = s.opened :=
    (Nesting.follows_start.walk h).depth
  have ho : (us.foldl Nesting.step ⟨0, 0⟩).depth + 1 ≤
      ((us.foldl Nesting.step ⟨0, 0⟩).step .opening).deepest := Nat.le_max_right _ _
  rw [deepestNesting, List.foldl_append, List.foldl_cons, ← hd]
  exact Nat.le_trans ho (Nesting.fold_deepest _ rest)

/-- A scan complains of the nesting nowhere but before a parenthesis. -/
theorem Scan.complaint_nested {s : Scan}
    (h : s.complaint token? = "expression nested too deeply") :
    ∃ d, s = operand d ∧ token? = some .opening := by
  cases s with
  | operand d =>
    cases token? with
    | none => simp [complaint] at h
    | some token =>
      refine ⟨d, rfl, congrArg some ?_⟩
      simp only [complaint] at h
      split at h
      · assumption
      · have hl := congrArg String.toList h
        rw [String.toList_append] at hl
        cases List.head_eq_of_cons_eq hl
  | operator d =>
    simp only [complaint] at h
    split at h <;> simp at h

namespace Expression

theorem nesting_le_of_parse [Interpreter] (h : parse text = .ok φ) : nesting text ≤ nestingLimit :=
  Scan.nesting_le (Formula.walk_of_tokens h)

theorem lt_nesting_of_nested [Interpreter] (h : parse text = .error (.malformed e))
    (hr : e.reason.text = "expression nested too deeply") : nestingLimit < nesting text := by
  obtain ⟨us, rest, s, hts, hwalk, hstuck, ht, _⟩ := Formula.stuck_of_tokens h
  obtain ⟨d, rfl, hhead⟩ := Scan.complaint_nested (ht.symm.trans hr)
  cases rest with
  | nil => cases hhead
  | cons token rest =>
    cases hhead
    have hd : nestingLimit ≤ d := by
      refine Nat.le_of_not_lt (fun hd => ?_)
      cases (Scan.step_opening hd).symm.trans hstuck
    have hlt := Scan.opened_lt_nesting hwalk rest
    rw [nesting, hts]
    exact Nat.lt_of_le_of_lt hd hlt

end Expression

theorem Shell.nested_of_rejection (h : rejection? limit text = some (.tooNested depth)) :
    nestingLimit < Expression.nesting text := by
  unfold rejection? at h
  split at h
  · cases h
  · dsimp only at h
    split at h
    · assumption
    · cases h

theorem Shell.nesting_of_accepted (h : rejection? limit text = none) :
    Expression.nesting text ≤ nestingLimit := by
  unfold rejection? at h
  split at h
  · cases h
  · dsimp only at h
    split at h
    · cases h
    · rename_i hn
      exact Nat.le_of_not_lt hn

/-- The flat count of parentheses and the parser agree on what is nested too deeply: what parses
is within the count, what the parser refuses for its nesting is beyond it, and so no text is
refused before it is parsed that would parse, nor refused for its nesting afterwards. -/
theorem Expression.nesting_agrees [Interpreter] (text : String) (limit : Limit) :
    (∀ φ, parse text = .ok φ → nesting text ≤ 50) ∧
    (∀ e, parse text = .error (.malformed e) →
      e.reason.text = "expression nested too deeply" → 50 < nesting text) ∧
    (∀ φ, parse text = .ok φ →
      ∀ depth, Shell.rejection? limit text ≠ some (.tooNested depth)) ∧
    (Shell.rejection? limit text = none → ∀ e, parse text = .error (.malformed e) →
      e.reason.text ≠ "expression nested too deeply") ∧
    ∀ depth, Shell.rejection? limit text = some (.tooNested depth) →
      ∀ φ, parse text ≠ .ok φ := by
  have hapart : ∀ φ depth, parse text = .ok φ →
      Shell.rejection? limit text ≠ some (.tooNested depth) := by
    intro φ depth hp hr
    exact Nat.not_lt.mpr (nesting_le_of_parse hp) (Shell.nested_of_rejection hr)
  refine ⟨fun _ => nesting_le_of_parse, fun _ => lt_nesting_of_nested, ?_, ?_, ?_⟩
  · exact fun φ hp depth => hapart φ depth hp
  · intro ha e he hr
    exact Nat.not_lt.mpr (Shell.nesting_of_accepted ha) (lt_nesting_of_nested he hr)
  · exact fun depth hr φ hp => hapart φ depth hp hr

set_option maxRecDepth 4000 in
theorem Expression.nesting_agrees_limit :
    (parse "((p) ∧ q)" = .ok (.binary .and (.atom "p") (.atom "q")) ∧ nesting "((p) ∧ q)" ≤ 50 ∧
      ∀ depth, Shell.rejection? (.count 512) "((p) ∧ q)" ≠ some (.tooNested depth)) ∧
    (Shell.rejection? (.count 512) "(p))((" = none ∧
      parse "(p))((" = .error (.malformed ⟨.trailing, 3⟩) ∧
      SyntaxReason.trailing.text ≠ "expression nested too deeply") ∧
    parse (String.ofList (List.replicate 51 '(')) = .error (.malformed ⟨.nestedTooDeeply, 50⟩) ∧
    50 < nesting (String.ofList (List.replicate 51 '(')) ∧
    Shell.rejection? (.count 512) (String.ofList (List.replicate 51 '(')) =
      some (.tooNested 51) ∧
    ∀ φ, parse (String.ofList (List.replicate 51 '(')) ≠ .ok φ := by
  have hp : parse "((p) ∧ q)" = .ok (.binary .and (.atom "p") (.atom "q")) := rfl
  have hs : Shell.rejection? (.count 512) "(p))((" = none := rfl
  have ht : parse "(p))((" = .error (.malformed ⟨.trailing, 3⟩) := rfl
  have hn : parse (String.ofList (List.replicate 51 '(')) =
      .error (.malformed ⟨.nestedTooDeeply, 50⟩) := rfl
  have hr : Shell.rejection? (.count 512) (String.ofList (List.replicate 51 '(')) =
      some (.tooNested 51) := rfl
  obtain ⟨hle, _, hapart, _⟩ := nesting_agrees "((p) ∧ q)" (.count 512)
  obtain ⟨_, _, _, haccepted, _⟩ := nesting_agrees "(p))((" (.count 512)
  obtain ⟨_, hlt, _, _, hnever⟩ :=
    nesting_agrees (String.ofList (List.replicate 51 '(')) (.count 512)
  exact ⟨⟨hp, hle _ hp, hapart _ hp⟩, ⟨hs, ht, haccepted hs _ ht⟩, hn, hlt _ hn rfl, hr,
    hnever _ hr⟩

end Propositional
