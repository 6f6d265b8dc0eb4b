import Propositional.Proofs.Completeness

namespace Propositional

/-- The complaint of a scan that starts with no parenthesis open. -/
def Scan.diagnose (tokens : List Token) : Option (String × Nat) := (operand 0).fault? 0 tokens

theorem Derives.diagnose (h : Derives nestingLimit .biconditional ts φ) :
    Scan.diagnose ts = none := by
  have hs : (Scan.operand 0).walk ts = some (.operator 0) := h.scan (Nat.le_refl _)
  have hf := Scan.fault_walk hs 0 []
  rw [List.append_nil] at hf
  rw [Scan.diagnose, hf]
  rfl

theorem Scan.Stuck.diagnose {s : Scan} (ho : (Scan.operand 0).walk ts = some s)
    (hs : s.Stuck us) : Scan.diagnose (ts ++ us) = some (s.complaint us.head?, ts.length) := by
  rw [Scan.diagnose, fault_walk ho, hs.fault, Nat.zero_add]

section
variable [Interpreter]

theorem Cursor.parse_meets (ts : List Token) :
    (start ts).parse.Meets (fun φ _ => Derives nestingLimit .biconditional ts φ)
      ((start ts).Blocked (.operand 0)) := by
  have hb : Sound .biconditional (formula callLimit .biconditional) :=
    (formula_meets callLimit).1 .biconditional (by simp)
  refine (hb (start ts)).and_then ?_ (fun e c hb => hb)
  intro φ c ⟨us, hp, hd, hder, hstop⟩
  cases hc : c.rest with
  | nil =>
    have hts : ts = us := by
      have := hp.rest
      rwa [hc, List.append_nil] at this
    rw [List.isEmpty_nil, if_pos rfl, hts]
    exact hder
  | cons token rest =>
    rw [List.isEmpty_cons, if_neg (by simp)]
    have hs : (Scan.operator 0).Stuck c.rest :=
      stuck_behind hstop (by simp) (by simp [hc])
    refine malformed_meets hp (hder.scan (Nat.le_refl _)) hs ?_ hd
    rfl

/-- A syntax error lies where the scan, which takes all tokens before it, has to stop. -/
theorem Formula.stuck_of_tokens (h : ofTokens ts = .error (.malformed e)) :
    ∃ us rest s, ts = us ++ rest ∧ (Scan.operand 0).walk us = some s ∧ s.Stuck rest ∧
      e.reason.text = s.complaint rest.head? ∧ e.position = us.length := by
  have hm := Cursor.parse_meets ts
  unfold ofTokens at h
  cases hp : (Cursor.start ts).parse with
  | done φ c =>
    rw [hp] at h
    cases h
  | fail failure c =>
    rw [hp] at h hm
    cases h
    obtain ⟨us, s, hpass, hwalk, hstuck, ht, hi, _⟩ := hm
    refine ⟨us, c.rest, s, hpass.rest, hwalk, hstuck, ht, ?_⟩
    rw [hi, hpass.position]
    exact Nat.zero_add _

/-- What becomes of any tokens: a formula that they derive, an error where a scan stops, or too
many calls. -/
theorem Formula.of_tokens_cases (ts : List Token) :
    (∃ φ, ofTokens ts = .ok φ ∧ Derives nestingLimit .biconditional ts φ) ∨
    (∃ e, ofTokens ts = .error (.malformed e) ∧
      Scan.diagnose ts = some (e.reason.text, e.position)) ∨
    ofTokens ts = .error .callsExhausted := by
  have hm := Cursor.parse_meets ts
  unfold ofTokens
  cases hp : (Cursor.start ts).parse with
  | done φ c =>
    rw [hp] at hm
    exact .inl ⟨φ, rfl, hm⟩
  | fail failure c =>
    rw [hp] at hm
    cases failure with
    | malformed e =>
      have he : ofTokens ts = .error (.malformed e) := by
        rw [ofTokens, hp]
        rfl
      obtain ⟨us, rest, s, rfl, hwalk, hstuck, ht, hi⟩ := stuck_of_tokens he
      refine .inr (.inl ⟨e, rfl, ?_⟩)
      rw [hstuck.diagnose hwalk, ht, hi]
    | callsExhausted => exact .inr (.inr rfl)
    | noToken => exact False.elim hm

theorem Formula.derives_of_tokens (h : ofTokens ts = .ok φ) :
    Derives nestingLimit .biconditional ts φ := by
  rcases of_tokens_cases ts with ⟨ψ, hψ, hd⟩ | ⟨e, he, _⟩ | hx
  · cases h.symm.trans hψ
    exact hd
  · cases h.symm.trans he
  · cases h.symm.trans hx

theorem Formula.walk_of_tokens (h : ofTokens ts = .ok φ) :
    (Scan.operand 0).walk ts = some (.operator 0) :=
  (derives_of_tokens h).scan (Nat.le_refl _)

theorem Derives.of_tokens (h : Derives nestingLimit .biconditional ts φ)
    (hx : Formula.ofTokens ts ≠ .error .callsExhausted) : Formula.ofTokens ts = .ok φ := by
  have hf := h.found (d := 0) (Nat.le_refl _) callLimit 0 [] (by intro op _; simp)
  rw [List.append_nil] at hf
  unfold Formula.ofTokens at hx ⊢
  unfold Cursor.parse at hx ⊢
  unfold Cursor.start at hx ⊢
  cases hr : Cursor.formula callLimit .biconditional ⟨ts, 0, 0⟩ with
  | done ψ c =>
    rw [hr] at hf
    obtain ⟨rfl, rfl⟩ := hf
    rfl
  | fail failure c =>
    rw [hr] at hf hx
    cases failure with
    | malformed e => exact False.elim hf
    | callsExhausted => exact False.elim (hx rfl)
    | noToken => exact False.elim hf

/-- Two derivations of tokens that are accepted build one formula, however deep they are allowed
to nest. -/
theorem Derives.unique (ha : Formula.ofTokens ts = .ok χ) (h : Derives n .biconditional ts φ)
    (h' : Derives m .biconditional ts ψ) : φ = ψ := by
  have hx : Formula.ofTokens ts ≠ .error .callsExhausted := by simp [ha]
  have hs := Formula.walk_of_tokens ha
  have hφ := (h.within hs).of_tokens hx
  have hψ := (h'.within hs).of_tokens hx
  cases hφ.symm.trans hψ
  rfl

/-- The accepted sequences of tokens are those that the grammar derives with at most fifty
parentheses open at once, and each has one formula. -/
theorem Formula.of_tokens_ok_iff_derives (h : ofTokens ts ≠ .error .callsExhausted) :
    (∀ φ, ofTokens ts = .ok φ ↔ Derives 50 .biconditional ts φ) ∧
    ((∃ φ, ofTokens ts = .ok φ) → ∀ n m φ ψ, Derives n .biconditional ts φ →
      Derives m .biconditional ts ψ → φ = ψ) := by
  refine ⟨fun φ => ⟨derives_of_tokens, fun hd => hd.of_tokens h⟩, ?_⟩
  rintro ⟨χ, ha⟩ n m φ ψ hφ hψ
  exact hφ.unique ha hψ

end

theorem Formula.of_tokens_ok_iff_derives_grouping :
    ofTokens (Token.scan "p → (q ↔ ¬r) → p ∧ q") ≠ .error .callsExhausted ∧
    Derives 50 .biconditional (Token.scan "p → (q ↔ ¬r) → p ∧ q")
      (.binary .implies (.atom "p")
        (.binary .implies (.binary .iff (.atom "q") (.neg (.atom "r")))
          (.binary .and (.atom "p") (.atom "q")))) := by
  have hp : ofTokens (Token.scan "p → (q ↔ ¬r) → p ∧ q") =
      .ok (.binary .implies (.atom "p")
        (.binary .implies (.binary .iff (.atom "q") (.neg (.atom "r")))
          (.binary .and (.atom "p") (.atom "q")))) := rfl
  have hx : ofTokens (Token.scan "p → (q ↔ ¬r) → p ∧ q") ≠ .error .callsExhausted := by simp [hp]
  exact ⟨hx, ((of_tokens_ok_iff_derives hx).1 _).mp hp⟩

/-- A scan from the left, which keeps no more than one bit and one number, accepts the same
tokens and finds the same fault at the same place. -/
theorem Formula.of_tokens_agrees [Interpreter] (h : ofTokens ts ≠ .error .callsExhausted) :
    (∃ φ, ofTokens ts = .ok φ) ∧ Scan.diagnose ts = none ∨
    ∃ e, ofTokens ts = .error (.malformed e) ∧
      Scan.diagnose ts = some (e.reason.text, e.position) := by
  rcases of_tokens_cases ts with ⟨φ, hφ, hd⟩ | he | hx
  · exact .inl ⟨⟨φ, hφ⟩, hd.diagnose⟩
  · exact .inr he
  · exact absurd hx h

theorem Formula.of_tokens_agrees_unclosed :
    ofTokens (Token.scan "p ∧ (q → ¬r s)") ≠ .error .callsExhausted ∧
    ofTokens (Token.scan "p ∧ (q → ¬r s)") = .error (.malformed ⟨.unclosed, 7⟩) ∧
    Scan.diagnose (Token.scan "p ∧ (q → ¬r s)") = some ("expected closing parenthesis", 7) := by
  have hp : ofTokens (Token.scan "p ∧ (q → ¬r s)") = .error (.malformed ⟨.unclosed, 7⟩) := rfl
  have hx : ofTokens (Token.scan "p ∧ (q → ¬r s)") ≠ .error .callsExhausted := by simp [hp]
  refine ⟨hx, hp, ?_⟩
  rcases of_tokens_agrees hx with ⟨⟨φ, hφ⟩, _⟩ | ⟨e, he, hd⟩
  · cases hφ.symm.trans hp
  · cases he.symm.trans hp
    exact hd

end Propositional
