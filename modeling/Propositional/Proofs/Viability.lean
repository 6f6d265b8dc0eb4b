import Propositional.Proofs.Exhaustion

namespace Propositional

namespace Scan

/-- What brings a scan to its end: an operand if one has to come, and the parentheses that are
still to close. -/
def completion : Scan → List Token
  | operand d => ⟨.letter, "p"⟩ :: List.replicate d Token.closing
  | operator d => List.replicate d Token.closing

theorem walk_closings (h : k ≤ d) :
    (operator d).walk (List.replicate k Token.closing) = some (operator (d - k)) := by
  induction k generalizing d with
  | zero => rfl
  | succ k ih =>
    obtain ⟨d, rfl⟩ : ∃ m, d = m + 1 := ⟨d - 1, by omega⟩
    rw [List.replicate_succ, walk_step (step_closing d), ih (by omega), Nat.add_sub_add_right]

theorem walk_completion (s : Scan) : s.walk s.completion = some (operator 0) := by
  have hc : ∀ d, (operator d).walk (List.replicate d Token.closing) = some (operator 0) := by
    intro d
    rw [walk_closings (Nat.le_refl d), Nat.sub_self]
  cases s with
  | operand d =>
    rw [completion, walk_step (step_letter d "p")]
    exact hc d
  | operator d => exact hc d

/-- On the way to its end a scan does not come before an operand again. -/
theorem walk_completion_prefix {s : Scan} (hp : ts <+: s.completion) (hne : ts ≠ []) :
    ∃ d, s.walk ts = some (operator d) := by
  have hc : ∀ {d us}, us <+: List.replicate d Token.closing →
      ∃ k, (operator d).walk us = some (operator k) := by
    intro d us h
    obtain ⟨hl, he⟩ := List.prefix_replicate_iff.mp h
    rw [he]
    exact ⟨d - us.length, walk_closings hl⟩
  cases s with
  | operand d =>
    cases ts with
    | nil => exact absurd rfl hne
    | cons token ts =>
      rw [completion, List.cons_prefix_cons] at hp
      obtain ⟨rfl, hp⟩ := hp
      rw [walk_step (step_letter d "p")]
      exact hc hp
  | operator d => exact hc hp

end Scan

namespace Formula

/-- Behind tokens that a scan takes, and from which the calls have not run out, whatever else
may follow, there is room for the completion. -/
theorem of_tokens_completion [Interpreter] (hwalk : (Scan.operand 0).walk us = some s)
    (hx : ofTokens (us ++ rest) ≠ .error .callsExhausted) :
    ∃ φ, ofTokens (us ++ s.completion) = .ok φ := by
  have hend : (Scan.operand 0).walk (us ++ s.completion) = some (.operator 0) := by
    rw [Scan.walk_through hwalk, s.walk_completion]
  rcases of_tokens_cases (us ++ s.completion) with ⟨φ, hφ, _⟩ | ⟨e, _, hd⟩ | hx'
  · exact ⟨φ, hφ⟩
  · have hn := Scan.fault_walk hend 0 []
    rw [List.append_nil] at hn
    cases hd.symm.trans hn
  · obtain ⟨vs, d, hp, hv, halways⟩ := exhausted_of_tokens hx'
    -- The calls run out before an operand, and within the completion none has to come.
    have hwithin : vs <+: us := by
      rcases List.prefix_or_prefix_of_prefix hp (List.prefix_append us s.completion) with hp' | hp'
      · exact hp'
      · obtain ⟨ws, rfl⟩ := hp'
        rw [Scan.walk_through hwalk] at hv
        by_cases hne : ws = []
        · simp [hne]
        · obtain ⟨k, hk⟩ :=
            Scan.walk_completion_prefix ((List.prefix_append_right_inj us).mp hp) hne
          cases hk.symm.trans hv
    obtain ⟨ws, rfl⟩ := hwithin
    rw [List.append_assoc] at hx
    exact absurd (halways _) hx

/-- The position of a syntax error is where no continuation can help any more: the tokens before it
are the beginning of a formula, and together with the token at it they are the beginning of
none. -/
theorem position_viable [Interpreter] (h : ofTokens ts = .error (.malformed e)) :
    e.position ≤ ts.length ∧
    (∃ us φ, ofTokens (ts.take e.position ++ us) = .ok φ) ∧
    (e.position < ts.length → ∀ us φ, ofTokens (ts.take (e.position + 1) ++ us) ≠ .ok φ) := by
  obtain ⟨us, rest, s, hts, hwalk, hstuck, _, hi⟩ := stuck_of_tokens h
  subst hts
  rw [hi, List.take_left]
  refine ⟨?_, ?_, ?_⟩
  · rw [List.length_append]
    exact Nat.le_add_right _ _
  · have hx : ofTokens (us ++ rest) ≠ .error .callsExhausted := by simp [h]
    obtain ⟨φ, hφ⟩ := of_tokens_completion hwalk hx
    exact ⟨s.completion, φ, hφ⟩
  · intro hlt vs φ hφ
    cases rest with
    | nil => simp at hlt
    | cons token rest =>
      have htake : (us ++ token :: rest).take (us.length + 1) = us ++ [token] := by
        rw [List.append_cons]
        exact List.take_left' (by simp)
      have hw := walk_of_tokens hφ
      rw [htake, List.append_assoc, Scan.walk_through hwalk] at hw
      obtain ⟨next, hn⟩ := Scan.walk_first hw
      cases hstuck.symm.trans hn

theorem position_viable_unclosed :
    ofTokens (Token.scan "p ∧ (q → ¬r s)") = .error (.malformed ⟨.unclosed, 7⟩) ∧
    (∃ us φ, ofTokens ((Token.scan "p ∧ (q → ¬r s)").take 7 ++ us) = .ok φ) ∧
    ∀ us φ, ofTokens ((Token.scan "p ∧ (q → ¬r s)").take 8 ++ us) ≠ .ok φ := by
  have h : ofTokens (Token.scan "p ∧ (q → ¬r s)") = .error (.malformed ⟨.unclosed, 7⟩) := rfl
  obtain ⟨_, hviable, hfatal⟩ := position_viable h
  exact ⟨h, hviable, hfatal (by decide)⟩

end Formula

end Propositional
