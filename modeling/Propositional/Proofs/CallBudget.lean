import Propositional.Proofs.Exhaustion

namespace Propositional

/-- The derivations of the grammar with the calls they take. `DerivesIn n calls level tokens φ`
says of a level that so many calls at one time suffice it to read the tokens, since each part is
read by a call from there. -/
inductive DerivesIn : Nat → Nat → Level → List Token → Formula → Prop
  | joined (shape : Level.Joins level op operand) (first : DerivesIn n calls operand ts φ)
      (rest : ∀ p ∈ more, DerivesIn n calls operand p.1 p.2) :
      DerivesIn n (calls + 1) level (ts ++ joinTokens op more) (joinLeft op φ more)
  | disjunction (only : DerivesIn n calls .disjunction ts φ) :
      DerivesIn n (calls + 1) .implication ts φ
  | implication (left : DerivesIn n calls .disjunction ts φ)
      (right : DerivesIn n calls .implication us ψ) :
      DerivesIn n (calls + 1) .implication (ts ++ Connective.implies.token :: us)
        (.binary .implies φ ψ)
  | negation (operand : DerivesIn n calls .negation ts φ) :
      DerivesIn n (calls + 1) .negation (Token.negation :: ts) (.neg φ)
  | primary (only : DerivesIn n calls .primary ts φ) : DerivesIn n (calls + 1) .negation ts φ
  | letter (name : String) : DerivesIn n (calls + 1) .primary [⟨.letter, name⟩] (.atom name)
  | parenthesized (inner : DerivesIn n calls .biconditional ts φ) :
      DerivesIn (n + 1) (calls + 1) .primary (Token.opening :: (ts ++ [Token.closing])) φ

namespace DerivesIn

theorem derives (h : DerivesIn n calls level ts φ) : Derives n level ts φ := by
  induction h with
  | joined shape _ _ ihf ihr => exact .joined shape ihf ihr
  | disjunction _ ih => exact .disjunction ih
  | implication _ _ ihl ihr => exact .implication ihl ihr
  | negation _ ih => exact .negation ih
  | primary _ ih => exact .primary ih
  | letter name => exact .letter name
  | parenthesized _ ih => exact .parenthesized ih

/-- What suffices for a derivation suffices with more to spare. -/
theorem add (h : DerivesIn n calls level ts φ) (m k : Nat) :
    DerivesIn (n + m) (calls + k) level ts φ := by
  induction h with
  | joined shape _ _ ihf ihr =>
    rw [Nat.add_right_comm]
    exact .joined shape ihf ihr
  | disjunction _ ih =>
    rw [Nat.add_right_comm]
    exact .disjunction ih
  | implication _ _ ihl ihr =>
    rw [Nat.add_right_comm]
    exact .implication ihl ihr
  | negation _ ih =>
    rw [Nat.add_right_comm]
    exact .negation ih
  | primary _ ih =>
    rw [Nat.add_right_comm]
    exact .primary ih
  | letter name =>
    rw [Nat.add_right_comm]
    exact .letter name
  | parenthesized _ ih =>
    rw [Nat.add_right_comm _ 1 m, Nat.add_right_comm _ 1 k]
    exact .parenthesized ih

theorem mono (h : DerivesIn n calls level ts φ) (hn : n ≤ n') (hc : calls ≤ calls') :
    DerivesIn n' calls' level ts φ := by
  obtain ⟨m, rfl⟩ := Nat.exists_eq_add_of_le hn
  obtain ⟨k, rfl⟩ := Nat.exists_eq_add_of_le hc
  exact h.add m k

theorem single (shape : Level.Joins level op operand) (h : DerivesIn n calls operand ts φ) :
    DerivesIn n (calls + 1) level ts φ := by
  have hrow : ∀ p ∈ ([] : List (List Token × Formula)), DerivesIn n calls operand p.1 p.2 := by
    simp
  simpa [joinTokens, joinLeft] using DerivesIn.joined shape h hrow

end DerivesIn

namespace Cursor

/-- The calls suffice for the tokens, wherever they stand and whatever stands behind them, unless
the level takes it along. -/
def Affords (read : Cursor → Outcome Formula) (level : Level) (d : Nat) (tokens : List Token) :
    Prop :=
  ∀ i behind, level.StopsAt behind → ¬(read ⟨tokens ++ behind, i, d⟩).Exhausted

theorem Finds.done {read : Cursor → Outcome Formula} (h : Finds read level d ts φ)
    (hs : level.StopsAt behind) (hx : ¬(read ⟨ts ++ behind, i, d⟩).Exhausted) :
    read ⟨ts ++ behind, i, d⟩ = .done φ ⟨behind, i + ts.length, d⟩ := by
  rcases (h i behind hs).done_or_exhausted with hx' | ⟨_, _, hr, rfl, rfl⟩
  · exact absurd hx' hx
  · exact hr

/-- If the calls suffice for one step after the other, then they suffice for both. -/
theorem Finds.afford {read : Cursor → Outcome Formula} {next : Formula → Cursor → Outcome α}
    (h : Finds read level d ts φ) (ha : Affords read level d ts) (hs : level.StopsAt behind)
    (hn : ¬(next φ ⟨behind, i + ts.length, d⟩).Exhausted) :
    ¬((read ⟨ts ++ behind, i, d⟩).andThen next).Exhausted := by
  rw [h.done hs (ha i behind hs)]
  exact hn

/-- If the calls suffice for two steps, then they suffice for each. -/
theorem Finds.afforded {read : Cursor → Outcome Formula} {next : Formula → Cursor → Outcome α}
    (h : Finds read level d ts φ) (hs : level.StopsAt behind)
    (hx : ¬((read ⟨ts ++ behind, i, d⟩).andThen next).Exhausted) :
    ¬(read ⟨ts ++ behind, i, d⟩).Exhausted ∧
      ¬(next φ ⟨behind, i + ts.length, d⟩).Exhausted := by
  rw [Outcome.exhausted_and_then, not_or] at hx
  obtain ⟨hfirst, hnext⟩ := hx
  exact ⟨hfirst, fun hn => hnext ⟨φ, _, h.done hs hfirst, hn⟩⟩

theorem more_affords {read : Cursor → Outcome Formula} (shape : Level.Joins level op operand)
    (h : ∀ p ∈ row, Finds read operand d p.1 p.2 ∧ Affords read operand d p.1)
    (hs : level.StopsAt behind) :
    ¬(more op read rounds left ⟨joinTokens op row ++ behind, i, d⟩).Exhausted := by
  induction row generalizing left i rounds with
  | nil =>
    cases rounds with
    | zero => exact Outcome.not_exhausted_done
    | succ rounds =>
      have hop : op ∈ level.connectives := by simp [shape.connectives]
      have hn : isAt ⟨joinTokens op [] ++ behind, i, d⟩ op.symbol = false :=
        Level.StopsAt.not_at hs hop
      rw [more, hn]
      exact Outcome.not_exhausted_done
  | cons p row ih =>
    cases rounds with
    | zero => exact Outcome.not_exhausted_done
    | succ rounds =>
      obtain ⟨hf, ha⟩ := h p List.mem_cons_self
      rw [join_tokens_cons, List.cons_append, List.append_assoc, more_round]
      exact hf.afford ha (shape.stops_row hs) (ih (fun q hq => h q (List.mem_cons_of_mem _ hq)))

theorem more_afforded {read : Cursor → Outcome Formula} (shape : Level.Joins level op operand)
    (h : ∀ p ∈ row, Finds read operand d p.1 p.2) (hs : level.StopsAt behind)
    (hr : (joinTokens op row ++ behind).length ≤ rounds)
    (hx : ¬(more op read rounds left ⟨joinTokens op row ++ behind, i, d⟩).Exhausted) :
    ∀ p ∈ row, ∃ i behind, operand.StopsAt behind ∧
      ¬(read ⟨p.1 ++ behind, i, d⟩).Exhausted := by
  induction row generalizing left i rounds with
  | nil => simp
  | cons p row ih =>
    cases rounds with
    | zero => simp [join_tokens_cons] at hr
    | succ rounds =>
      have hstop : operand.StopsAt (joinTokens op row ++ behind) := shape.stops_row hs
      rw [join_tokens_cons, List.cons_append, List.append_assoc, more_round] at hx
      obtain ⟨hfirst, hrest⟩ := (h p List.mem_cons_self).afforded hstop hx
      have hlen : (joinTokens op row ++ behind).length ≤ rounds := by
        simp only [join_tokens_cons, List.cons_append, List.length_cons, List.length_append] at hr ⊢
        omega
      intro q hq
      rcases List.mem_cons.mp hq with rfl | hq
      · exact ⟨_, _, hstop, hfirst⟩
      · exact ih (fun q hq => h q (List.mem_cons_of_mem _ hq)) hlen hrest q hq

theorem stops_closing (us : List Token) : Level.biconditional.StopsAt (Token.closing :: us) := by
  intro op _ he
  rw [List.head?_cons, Option.some.injEq] at he
  exact op.token_ne_closing he.symm

theorem closed_not_exhausted {inner : Formula} {c : Cursor} :
    ¬(if c.isAt ")" then Outcome.done inner c.closed else c.malformed .unclosed).Exhausted := by
  split
  · exact Outcome.not_exhausted_done
  · exact Outcome.not_exhausted_malformed

end Cursor
open Cursor

/-- The calls that a derivation takes suffice for its tokens. -/
theorem DerivesIn.affords (h : DerivesIn n calls level ts φ) (hn : n ≤ nestingLimit - d) :
    Affords (formula calls level) level d ts := by
  induction h generalizing d with
  | @joined level op operand n calls ts φ row shape first rest ihf ihr =>
    intro i behind hs
    have hrow : ∀ p ∈ row, Finds (formula calls operand) operand d p.1 p.2 ∧
        Affords (formula calls operand) operand d p.1 :=
      fun p hp => ⟨(rest p hp).derives.found hn calls, ihr p hp hn⟩
    rw [shape.formula_eq, Cursor.joined, List.append_assoc]
    exact (first.derives.found hn calls).afford (ihf hn) (shape.stops_row hs)
      (more_affords shape hrow hs)
  | @disjunction n calls ts φ only ih =>
    intro i behind hs
    have hstop : Level.disjunction.StopsAt behind :=
      fun op hop => hs op (List.mem_cons_of_mem _ hop)
    rw [formula]
    refine (only.derives.found hn calls).afford (ih hn) hstop ?_
    rw [Level.StopsAt.not_at hs List.mem_cons_self]
    exact Outcome.not_exhausted_done
  | @implication n calls ts φ us ψ left right ihl ihr =>
    intro i behind hs
    have hstop : Level.disjunction.StopsAt (Connective.implies.token :: (us ++ behind)) :=
      .of_token (by simp [Level.connectives]) _
    rw [formula, List.append_assoc, List.cons_append]
    refine (left.derives.found hn calls).afford (ihl hn) hstop ?_
    have hat : isAt ⟨Connective.implies.token :: (us ++ behind), i + ts.length, d⟩
        Connective.implies.symbol = true := is_at_iff.mpr rfl
    rw [if_pos hat, Outcome.exhausted_map]
    exact ihr hn _ behind hs
  | negation _ ih =>
    intro i behind hs
    rw [List.cons_append, formula_negation, Outcome.exhausted_map]
    exact ih hn (i + 1) behind hs
  | primary only ih =>
    intro i behind hs
    have hat : ¬isAt ⟨_ ++ behind, i, d⟩ "¬" :=
      fun hat => only.derives.head_ne_negation behind (is_at_iff.mp hat)
    rw [formula, if_neg hat]
    exact ih hn i behind (by intro op hop; cases hop)
  | letter name =>
    intro i behind _
    exact Outcome.not_exhausted_done
  | @parenthesized n calls ts φ inner ih =>
    intro i behind _
    rw [List.cons_append, List.append_assoc, formula_opening (by omega)]
    exact (inner.derives.found (by omega) calls).afford (ih (by omega)) (stops_closing behind)
      closed_not_exhausted

/-- If the calls suffice for tokens at one place, then the derivation takes no more. -/
theorem Derives.affordable (h : Derives n level ts φ) (hn : n ≤ nestingLimit - d)
    (hs : level.StopsAt behind) (hx : ¬(formula calls level ⟨ts ++ behind, i, d⟩).Exhausted) :
    DerivesIn n calls level ts φ := by
  induction h generalizing d calls i behind with
  | @joined level op operand n ts φ row shape first rest ihf ihr =>
    cases calls with
    | zero => exact absurd ⟨_, rfl⟩ hx
    | succ calls =>
      rw [shape.formula_eq, Cursor.joined, List.append_assoc] at hx
      have hstop : operand.StopsAt (joinTokens op row ++ behind) := shape.stops_row hs
      obtain ⟨hfirst, hrest⟩ := (first.found hn calls).afforded hstop hx
      have hrow := more_afforded shape (fun p hp => (rest p hp).found hn calls) hs
        (Nat.le_refl _) hrest
      refine .joined shape (ihf hn hstop hfirst) ?_
      intro p hp
      obtain ⟨_, _, hs', hx'⟩ := hrow p hp
      exact ihr p hp hn hs' hx'
  | disjunction only ih =>
    cases calls with
    | zero => exact absurd ⟨_, rfl⟩ hx
    | succ calls =>
      have hstop : Level.disjunction.StopsAt behind :=
        fun op hop => hs op (List.mem_cons_of_mem _ hop)
      rw [formula] at hx
      exact .disjunction (ih hn hstop ((only.found hn calls).afforded hstop hx).1)
  | @implication n ts φ us ψ left right ihl ihr =>
    cases calls with
    | zero => exact absurd ⟨_, rfl⟩ hx
    | succ calls =>
      have hstop : Level.disjunction.StopsAt (Connective.implies.token :: (us ++ behind)) :=
        .of_token (by simp [Level.connectives]) _
      rw [formula, List.append_assoc, List.cons_append] at hx
      obtain ⟨hleft, hright⟩ := (left.found hn calls).afforded hstop hx
      have hat : isAt ⟨Connective.implies.token :: (us ++ behind), i + ts.length, d⟩
          Connective.implies.symbol = true := is_at_iff.mpr rfl
      rw [if_pos hat, Outcome.exhausted_map] at hright
      exact .implication (ihl hn hstop hleft) (ihr hn hs hright)
  | negation _ ih =>
    cases calls with
    | zero => exact absurd ⟨_, rfl⟩ hx
    | succ calls =>
      rw [List.cons_append, formula_negation, Outcome.exhausted_map] at hx
      exact .negation (ih hn hs hx)
  | primary only ih =>
    cases calls with
    | zero => exact absurd ⟨_, rfl⟩ hx
    | succ calls =>
      have hat : ¬isAt ⟨_ ++ behind, i, d⟩ "¬" :=
        fun hat => only.head_ne_negation behind (is_at_iff.mp hat)
      rw [formula, if_neg hat] at hx
      exact .primary (ih hn (by intro op hop; cases hop) hx)
  | letter name =>
    cases calls with
    | zero => exact absurd ⟨_, rfl⟩ hx
    | succ calls => exact .letter name
  | parenthesized inner ih =>
    cases calls with
    | zero => exact absurd ⟨_, rfl⟩ hx
    | succ calls =>
      rw [List.cons_append, List.append_assoc, formula_opening (by omega)] at hx
      have hinner := ((inner.found (by omega) calls).afforded (stops_closing behind) hx).1
      exact .parenthesized (ih (by omega) (stops_closing behind) hinner)

/-- What is accepted is what the grammar derives with fifty parentheses open at once and within the
calls. -/
theorem Formula.of_tokens_iff_derives_in [Interpreter] :
    ofTokens ts = .ok φ ↔ DerivesIn nestingLimit callLimit .biconditional ts φ := by
  have hstop : Level.biconditional.StopsAt [] := by
    intro op _
    simp
  constructor
  · intro h
    refine (derives_of_tokens h).affordable (d := 0) (i := 0) (Nat.le_refl _) hstop ?_
    rw [List.append_nil]
    rintro ⟨c, hc⟩
    have hc : formula callLimit .biconditional (start ts) = .fail .callsExhausted c := hc
    rw [ofTokens, parse, hc] at h
    cases h
  · intro h
    refine h.derives.of_tokens (fun hx => ?_)
    have hread := h.affords (d := 0) (Nat.le_refl _) 0 [] hstop
    rw [List.append_nil] at hread
    exact hread (exhausted_formula hx)

end Propositional
