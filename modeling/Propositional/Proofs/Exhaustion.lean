import Propositional.Proofs.Recognition

namespace Propositional

namespace Outcome

/-- The calls did not suffice. -/
def Exhausted (outcome : Outcome α) : Prop := ∃ c, outcome = .fail .callsExhausted c

theorem exhausted_and_then {outcome : Outcome α} {next : α → Cursor → Outcome β} :
    (outcome.andThen next).Exhausted ↔
      outcome.Exhausted ∨ ∃ a c, outcome = .done a c ∧ (next a c).Exhausted := by
  cases outcome with
  | done a c =>
    constructor
    · exact fun h => .inr ⟨a, c, rfl, h⟩
    · rintro (⟨_, h⟩ | ⟨_, _, h, hn⟩)
      · cases h
      · cases h
        exact hn
  | fail failure c =>
    constructor
    · rintro ⟨_, h⟩
      cases h
      exact .inl ⟨c, rfl⟩
    · rintro (⟨_, h⟩ | ⟨_, _, h, _⟩)
      · cases h
        exact ⟨c, rfl⟩
      · cases h

theorem not_exhausted_done {a : α} {c : Cursor} : ¬(done a c).Exhausted := by
  rintro ⟨_, h⟩
  cases h

theorem not_exhausted_malformed {c : Cursor} {reason : SyntaxReason} :
    ¬(c.malformed reason : Outcome α).Exhausted := by
  rintro ⟨_, h⟩
  cases h

theorem exhausted_map {outcome : Outcome α} {f : α → β} :
    (outcome.map f).Exhausted ↔ outcome.Exhausted := by
  rw [map, exhausted_and_then]
  constructor
  · rintro (h | ⟨_, _, _, h⟩)
    · exact h
    · exact absurd h not_exhausted_done
  · exact .inl

/-- What meets a condition that no syntax error meets is either good or out of calls. -/
theorem Meets.done_or_exhausted {outcome : Outcome α}
    (h : outcome.Meets good (fun _ _ => False)) :
    outcome.Exhausted ∨ ∃ a c, outcome = .done a c ∧ good a c := by
  cases outcome with
  | done a c => exact .inr ⟨a, c, rfl, h⟩
  | fail failure c =>
    cases failure with
    | malformed e => exact h.elim
    | callsExhausted => exact .inl ⟨c, rfl⟩
    | noToken => exact h.elim

end Outcome

theorem Level.Joins.operand_ne_primary (shape : Level.Joins level op operand) :
    operand ≠ .primary := by
  cases shape <;> simp

namespace Cursor

/-- The tokens are read from the cursor as the formula, and so they are from any other cursor of
the same depth behind which no connective of the level follows, unless there the calls run out. -/
structure ReadsAgain (read : Cursor → Outcome Formula) (level : Level) (c : Cursor)
    (tokens : List Token) (φ : Formula) (c' : Cursor) : Prop where
  passes : c.Passes tokens c'
  depth : c'.depth = c.depth
  walk : (Scan.operand c.depth).walk tokens = some (.operator c.depth)
  again : ∀ i behind, level.StopsAt behind →
    (read ⟨tokens ++ behind, i, c.depth⟩).Exhausted ∨
      read ⟨tokens ++ behind, i, c.depth⟩ = .done φ ⟨behind, i + tokens.length, c.depth⟩

theorem reads_again (hne : level ≠ .primary) (h : formula calls level c = .done φ c') :
    ∃ ts, ReadsAgain (formula calls level) level c ts φ c' := by
  have hm := (formula_meets calls).1 level hne c
  rw [h] at hm
  obtain ⟨ts, hp, hd, hder, _⟩ := hm
  refine ⟨ts, hp, hd, hder.scan (Nat.le_refl _), ?_⟩
  intro i behind hs
  rcases (hder.found (Nat.le_refl _) calls i behind hs).done_or_exhausted with
    hx | ⟨_, _, hr, rfl, rfl⟩
  · exact .inl hx
  · exact .inr hr

theorem ReadsAgain.exhausted {read : Cursor → Outcome Formula}
    {next : Formula → Cursor → Outcome α}
    (h : ReadsAgain read level c ts φ c') (hs : level.StopsAt behind)
    (hn : ∀ i, (next φ ⟨behind, i, c.depth⟩).Exhausted) (i : Nat) :
    ((read ⟨ts ++ behind, i, c.depth⟩).andThen next).Exhausted := by
  rw [Outcome.exhausted_and_then]
  rcases h.again i behind hs with hx | hr
  · exact .inl hx
  · exact .inr ⟨φ, _, hr, hn _⟩

theorem Passes.begins {c c' : Cursor} (h : c.Passes ts c') (hp : us <+: c'.rest) :
    ts ++ us <+: c.rest := by
  rw [h.rest]
  exact (List.prefix_append_right_inj ts).mpr hp

/-- The calls run out behind some tokens at which an operand has to come, whatever follows. -/
structure RunsOut (read : Cursor → Outcome Formula) (c : Cursor) (tokens : List Token) : Prop where
  taken : tokens <+: c.rest
  walk : ∃ d, (Scan.operand c.depth).walk tokens = some (.operand d)
  always : ∀ i rest, (read ⟨tokens ++ rest, i, c.depth⟩).Exhausted

/-- Whether the calls run out is decided by the tokens that are read till then. -/
def Foreseen (read : Cursor → Outcome Formula) : Prop :=
  ∀ c, (read c).Exhausted → ∃ ts, RunsOut read c ts

theorem RunsOut.imp {read outer : Cursor → Outcome Formula} (h : RunsOut read c ts)
    (ho : ∀ c, (read c).Exhausted → (outer c).Exhausted) : RunsOut outer c ts :=
  ⟨h.taken, h.walk, fun i rest => ho _ (h.always i rest)⟩

theorem RunsOut.behind_token {read outer : Cursor → Outcome Formula} {c c₁ : Cursor}
    (h : RunsOut read c₁ ts) (hp : c.Passes [token] c₁)
    (hs : (Scan.operand c.depth).step token = some (.operand c₁.depth))
    (ho : ∀ i us, (read ⟨us, i + 1, c₁.depth⟩).Exhausted →
      (outer ⟨token :: us, i, c.depth⟩).Exhausted) : RunsOut outer c (token :: ts) := by
  obtain ⟨d, hw⟩ := h.walk
  refine ⟨hp.begins h.taken, ⟨d, ?_⟩, fun i rest => ho i _ (h.always (i + 1) rest)⟩
  rw [Scan.walk_step hs, hw]

/-- The calls run out in a further round of a row, whatever was read before and follows. -/
structure RowRunsOut (op : Connective) (read : Cursor → Outcome Formula) (c : Cursor)
    (tokens : List Token) : Prop where
  taken : tokens <+: c.rest
  walk : ∃ d, (Scan.operator c.depth).walk tokens = some (.operand d)
  always : ∀ rounds left i rest, (tokens ++ rest).length ≤ rounds →
    (more op read rounds left ⟨tokens ++ rest, i, c.depth⟩).Exhausted

theorem RunsOut.row {read : Cursor → Outcome Formula} (h : RunsOut read c.next ts)
    (hc : c.rest = op.token :: us) : RowRunsOut op read c (op.token :: ts) := by
  obtain ⟨d, hw⟩ := h.walk
  have hp : c.Passes [op.token] c.next := passes_next hc
  refine ⟨hp.begins h.taken, ⟨d, ?_⟩, ?_⟩
  · rw [Scan.walk_step (Scan.step_connective c.depth op)]
    exact hw
  · intro rounds left i rest hl
    cases rounds with
    | zero => cases hl
    | succ rounds =>
      rw [List.cons_append, more_round, Outcome.exhausted_and_then]
      exact .inl (h.always (i + 1) rest)

theorem RowRunsOut.behind_operand {c c₁ : Cursor} (shape : Level.Joins level op operand)
    (h : RowRunsOut op (formula calls operand) c₁ (op.token :: us))
    (hr : ReadsAgain (formula calls operand) operand c.next ts φ c₁)
    (hc : c.rest = op.token :: vs) :
    RowRunsOut op (formula calls operand) c (op.token :: (ts ++ op.token :: us)) := by
  have hp : c.Passes [op.token] c.next := passes_next hc
  have hd : c₁.depth = c.depth := hr.depth
  obtain ⟨d, hw⟩ := h.walk
  refine ⟨(hp.trans hr.passes).begins h.taken, ⟨d, ?_⟩, ?_⟩
  · have hwalk : (Scan.operand c.depth).walk ts = some (.operator c.depth) := hr.walk
    rw [Scan.walk_step (Scan.step_connective c.depth op), Scan.walk_through hwalk, ← hd, hw]
  · intro rounds left i rest hl
    cases rounds with
    | zero => cases hl
    | succ rounds =>
      rw [List.cons_append, more_round, List.append_assoc]
      refine hr.exhausted (.of_token shape.not_operand (us ++ rest)) (fun i => ?_) (i + 1)
      have hlen : (op.token :: us ++ rest).length ≤ rounds := by
        simp only [List.cons_append, List.append_assoc, List.length_cons, List.length_append]
          at hl ⊢
        omega
      have hx := h.always rounds (.binary op left φ) i rest hlen
      rw [hd] at hx
      exact hx

theorem more_runs_out (shape : Level.Joins level op operand)
    (hx : Foreseen (formula calls operand))
    (h : (more op (formula calls operand) rounds left c).Exhausted) :
    ∃ ts, RowRunsOut op (formula calls operand) c (op.token :: ts) := by
  induction rounds generalizing left c with
  | zero => exact absurd h Outcome.not_exhausted_done
  | succ rounds ih =>
    unfold more at h
    split at h
    · rename_i hat
      obtain ⟨us, hc⟩ := is_at_cons (is_at_iff.mp hat)
      rcases Outcome.exhausted_and_then.mp h with h | ⟨right, c₁, hr, h⟩
      · obtain ⟨ts, hts⟩ := hx c.next h
        exact ⟨ts, hts.row hc⟩
      · obtain ⟨ts, hagain⟩ := reads_again shape.operand_ne_primary hr
        obtain ⟨vs, hvs⟩ := ih h
        exact ⟨_, hvs.behind_operand shape hagain hc⟩
    · exact absurd h Outcome.not_exhausted_done

theorem joined_foreseen (shape : Level.Joins level op operand)
    (hx : Foreseen (formula calls operand)) : Foreseen (joined op (formula calls operand)) := by
  intro c h
  rcases Outcome.exhausted_and_then.mp h with h | ⟨left, c₁, hl, h⟩
  · obtain ⟨ts, hts⟩ := hx c h
    exact ⟨ts, hts.imp (fun c h => Outcome.exhausted_and_then.mpr (.inl h))⟩
  · obtain ⟨ts, hagain⟩ := reads_again shape.operand_ne_primary hl
    obtain ⟨us, htaken, ⟨d, hwalk⟩, halways⟩ := more_runs_out shape hx h
    rw [hagain.depth] at hwalk halways
    refine ⟨ts ++ op.token :: us, hagain.passes.begins htaken, ⟨d, ?_⟩, ?_⟩
    · rw [Scan.walk_through hagain.walk, hwalk]
    · intro i rest
      rw [joined, List.append_assoc]
      refine hagain.exhausted (.of_token shape.not_operand (us ++ rest)) (fun i => ?_) i
      exact halways _ left i rest (Nat.le_refl _)

theorem implication_foreseen (hd : Foreseen (formula calls .disjunction))
    (hi : Foreseen (formula calls .implication)) :
    Foreseen (formula (calls + 1) .implication) := by
  intro c h
  unfold formula at h
  rcases Outcome.exhausted_and_then.mp h with h | ⟨left, c₁, hl, h⟩
  · obtain ⟨ts, hts⟩ := hd c h
    refine ⟨ts, hts.imp (fun c h => ?_)⟩
    unfold formula
    exact Outcome.exhausted_and_then.mpr (.inl h)
  · split at h
    · rename_i hat
      obtain ⟨us, hc⟩ := is_at_cons (is_at_iff.mp hat)
      have hstep : c₁.Passes [Connective.implies.token] c₁.next := passes_next hc
      obtain ⟨ts, hagain⟩ := reads_again (by simp) hl
      obtain ⟨vs, htaken, ⟨d, hwalk⟩, halways⟩ := hi c₁.next (Outcome.exhausted_map.mp h)
      have hdepth : c₁.next.depth = c.depth := hagain.depth
      rw [hdepth] at hwalk halways
      refine ⟨ts ++ Connective.implies.token :: vs,
        hagain.passes.begins (hstep.begins htaken), ⟨d, ?_⟩, ?_⟩
      · rw [Scan.walk_through hagain.walk, Scan.walk_step (Scan.step_connective c.depth .implies),
          hwalk]
      · intro i rest
        unfold formula
        rw [List.append_assoc]
        refine hagain.exhausted (.of_token (by simp [Level.connectives]) (vs ++ rest))
          (fun i => ?_) i
        have hat : isAt ⟨Connective.implies.token :: (vs ++ rest), i, c.depth⟩
            Connective.implies.symbol = true := is_at_iff.mpr rfl
        rw [hat, if_pos rfl, Outcome.exhausted_map]
        exact halways (i + 1) rest
    · exact absurd h Outcome.not_exhausted_done

/-- The primary level calls no other but behind a parenthesis. -/
theorem primary_exhausted (h : (formula (calls + 1) .primary c).Exhausted) :
    ∃ us, c.rest = Token.opening :: us ∧ c.depth < nestingLimit ∧
      (formula calls .biconditional c.opened).Exhausted := by
  unfold formula at h
  split at h
  · exact absurd h Outcome.not_exhausted_malformed
  · rename_i token us hc
    split at h
    · exact absurd h Outcome.not_exhausted_done
    · split at h
      · exact absurd h Outcome.not_exhausted_malformed
      · split at h
        · exact absurd h Outcome.not_exhausted_malformed
        · rename_i hkind htext hdepth
          have htoken : token = Token.opening := by
            obtain ⟨kind, text⟩ := token
            cases kind with
            | letter => exact absurd rfl hkind
            | operator => exact congrArg (Token.mk .operator) (Decidable.not_not.mp htext)
          subst htoken
          refine ⟨us, hc, Nat.lt_of_not_le hdepth, ?_⟩
          rcases Outcome.exhausted_and_then.mp h with h | ⟨inner, c₁, _, h⟩
          · exact h
          · split at h
            · exact absurd h Outcome.not_exhausted_done
            · exact absurd h Outcome.not_exhausted_malformed

/-- The primary level has to have read a parenthesis. -/
theorem primary_runs_out (hb : Foreseen (formula calls .biconditional))
    (h : (formula (calls + 1) .primary c).Exhausted) :
    ∃ ts, RunsOut (formula (calls + 1) .primary) c (Token.opening :: ts) := by
  obtain ⟨us, hc, hd, hx⟩ := primary_exhausted h
  have hstep : c.Passes [Token.opening] c.opened := ⟨(passes_next hc).rest, rfl⟩
  obtain ⟨ts, hts⟩ := hb c.opened hx
  refine ⟨ts, hts.behind_token hstep (Scan.step_opening hd) (fun i us hx => ?_)⟩
  rw [formula_opening hd, Outcome.exhausted_and_then]
  exact .inl hx

theorem runs_out_at_once {read : Cursor → Outcome Formula} (c : Cursor)
    (h : ∀ c : Cursor, (read c).Exhausted) :
    RunsOut read c [] :=
  ⟨List.nil_prefix, ⟨c.depth, rfl⟩, fun _ _ => h _⟩

theorem negation_foreseen (hn : Foreseen (formula calls .negation))
    (hp : ∀ c, (formula calls .primary c).Exhausted → calls = 0 ∨
      ∃ ts, RunsOut (formula calls .primary) c (Token.opening :: ts)) :
    Foreseen (formula (calls + 1) .negation) := by
  intro c h
  unfold formula at h
  split at h
  · rename_i hat
    obtain ⟨us, hc⟩ := is_at_cons (is_at_iff.mp hat)
    have hstep : c.Passes [Token.negation] c.next := passes_next hc
    obtain ⟨ts, hts⟩ := hn c.next (Outcome.exhausted_map.mp h)
    refine ⟨_, hts.behind_token hstep (Scan.step_negation c.depth) (fun i us hx => ?_)⟩
    rw [formula_negation, Outcome.exhausted_map]
    exact hx
  · -- The primary level has to have read a token. Otherwise a `¬` could come first in what follows,
    -- for which the primary level is not called.
    rcases hp c h with rfl | ⟨ts, htaken, hwalk, halways⟩
    · refine ⟨[], runs_out_at_once c (fun c => ?_)⟩
      unfold formula
      split
      · exact ⟨_, rfl⟩
      · exact ⟨_, rfl⟩
    · refine ⟨Token.opening :: ts, htaken, hwalk, fun i rest => ?_⟩
      have hat : ¬isAt ⟨Token.opening :: ts ++ rest, i, c.depth⟩ "¬" := by
        rw [is_at_iff]
        simp [Token.opening]
      rw [formula, if_neg hat]
      exact halways i rest

theorem formula_foreseen (calls : Nat) :
    (∀ level, level ≠ .primary → Foreseen (formula calls level)) ∧
    ∀ c, (formula calls .primary c).Exhausted → calls = 0 ∨
      ∃ ts, RunsOut (formula calls .primary) c (Token.opening :: ts) := by
  induction calls with
  | zero =>
    exact ⟨fun _ _ c _ => ⟨[], runs_out_at_once c (fun c => ⟨c, rfl⟩)⟩, fun _ _ => .inl rfl⟩
  | succ calls ih =>
    obtain ⟨hl, hp⟩ := ih
    refine ⟨?_, fun c h => .inr (primary_runs_out (hl .biconditional (by simp)) h)⟩
    intro level hne
    cases level with
    | biconditional => exact joined_foreseen .biconditional (hl .implication (by simp))
    | implication =>
      exact implication_foreseen (hl .disjunction (by simp)) (hl .implication (by simp))
    | disjunction => exact joined_foreseen .disjunction (hl .conjunction (by simp))
    | conjunction => exact joined_foreseen .conjunction (hl .negation (by simp))
    | negation => exact negation_foreseen (hl .negation (by simp)) hp
    | primary => exact absurd rfl hne

end Cursor

theorem Formula.exhausted_formula [Interpreter] (h : ofTokens ts = .error .callsExhausted) :
    (Cursor.formula callLimit .biconditional (Cursor.start ts)).Exhausted := by
  unfold ofTokens Cursor.parse at h
  cases hr : Cursor.formula callLimit .biconditional (Cursor.start ts) with
  | done φ c =>
    rw [hr] at h
    simp only [Outcome.andThen] at h
    split at h <;> cases h
  | fail failure c =>
    rw [hr] at h
    cases h
    exact ⟨c, rfl⟩

/-- If the calls run out, then they do so before an operand, and whatever stands behind the
tokens read till then. -/
theorem Formula.exhausted_of_tokens [Interpreter] (h : ofTokens ts = .error .callsExhausted) :
    ∃ us d, us <+: ts ∧ (Scan.operand 0).walk us = some (.operand d) ∧
      ∀ rest, ofTokens (us ++ rest) = .error .callsExhausted := by
  obtain ⟨us, htaken, ⟨d, hwalk⟩, halways⟩ :=
    (Cursor.formula_foreseen callLimit).1 .biconditional (by simp) _ (exhausted_formula h)
  refine ⟨us, d, htaken, hwalk, fun rest => ?_⟩
  obtain ⟨c, hc⟩ := halways 0 rest
  have hc : Cursor.formula callLimit .biconditional (Cursor.start (us ++ rest)) =
      .fail .callsExhausted c := hc
  rw [ofTokens, Cursor.parse, hc]
  rfl

end Propositional
