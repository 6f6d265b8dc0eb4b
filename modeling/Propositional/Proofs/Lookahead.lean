import Propositional.Proofs.CallBudget

namespace Propositional

/-- What begins like some tokens and the one behind them is those tokens, with the same one next. -/
theorem begins_of_take {ts behind us : List Token}
    (h : us.take (ts.length + 1) = (ts ++ behind).take (ts.length + 1)) :
    ∃ ahead, us = ts ++ ahead ∧ ahead.head? = behind.head? := by
  induction ts generalizing us with
  | nil =>
    have hhead := congrArg List.head? h
    rw [List.head?_take, List.head?_take] at hhead
    exact ⟨us, rfl, hhead⟩
  | cons token ts ih =>
    cases us with
    | nil => cases h
    | cons token' us =>
      rw [List.cons_append, List.length_cons, List.take_succ_cons, List.take_succ_cons,
        List.cons.injEq] at h
      obtain ⟨rfl, hrest⟩ := h
      obtain ⟨ahead, rfl, hhead⟩ := ih hrest
      exact ⟨ahead, rfl, hhead⟩

theorem Level.StopsAt.congr {level : Level} (h : level.StopsAt behind)
    (hhead : ahead.head? = behind.head?) : level.StopsAt ahead :=
  fun op hop => hhead ▸ h op hop

/-- The tokens of a derivation are read wherever they stand, if the calls suffice there. -/
theorem DerivesIn.read (h : DerivesIn n calls level ts φ) (hn : n ≤ nestingLimit - d)
    (hs : level.StopsAt behind)
    (hc : calls ≤ calls' ∨ ¬(Cursor.formula calls' level ⟨ts ++ behind, i, d⟩).Exhausted) :
    Cursor.formula calls' level ⟨ts ++ behind, i, d⟩ = .done φ ⟨behind, i + ts.length, d⟩ := by
  refine (h.derives.found hn calls').done hs ?_
  rcases hc with hle | hx
  · exact (h.mono (Nat.le_refl n) hle).affords hn i behind hs
  · exact hx

namespace Cursor

/-- Past so many tokens. -/
def skip (c : Cursor) (m : Nat) : Cursor := ⟨c.rest.drop m, c.position + m, c.depth⟩

/-- At the same depth, so many tokens from here and the next one are the same, or there is no next
one at either place. -/
structure Alike (m : Nat) (c other : Cursor) : Prop where
  depth : other.depth = c.depth
  rest : other.rest.take (m + 1) = c.rest.take (m + 1)

theorem Passes.skip {c c' : Cursor} (h : c.Passes ts c') (hd : c'.depth = c.depth) :
    c' = c.skip ts.length := by
  rw [Cursor.skip, h.rest, List.drop_left, ← h.position, ← hd]

theorem Alike.begins {c other : Cursor} (h : Alike ts.length c other) (hc : c.rest = ts ++ behind) :
    ∃ ahead, other = ⟨ts ++ ahead, other.position, c.depth⟩ ∧ ahead.head? = behind.head? := by
  obtain ⟨rest, i, d⟩ := other
  obtain ⟨rfl, hrest⟩ := h
  obtain ⟨ahead, rfl, hhead⟩ := begins_of_take (hc ▸ hrest)
  exact ⟨ahead, rfl, hhead⟩

/-- A level reads on until no connective of it comes next, and of what stands behind its formula it
has seen one token: wherever the formula and that token stand at the same depth, it reads the
same. -/
theorem formula_lookahead (hne : level ≠ .primary) (h : formula calls level c = .done φ c') :
    ∃ m, m ≤ c.rest.length ∧ c' = c.skip m ∧ level.StopsAt c'.rest ∧
      ∀ other, Alike m c other →
        ∀ calls', calls ≤ calls' ∨ ¬(formula calls' level other).Exhausted →
          formula calls' level other = .done φ (other.skip m) := by
  have hreads := (formula_meets calls).1 level hne c
  rw [h] at hreads
  obtain ⟨ts, hp, hd, hder, hs⟩ := hreads
  -- What was read is a derivation within the calls, and as such does not depend on the place.
  have hin : DerivesIn (nestingLimit - c.depth) calls level ts φ := by
    refine hder.affordable (i := c.position) (Nat.le_refl _) hs ?_
    rw [← hp.rest, h]
    exact Outcome.not_exhausted_done
  refine ⟨ts.length, ?_, hp.skip hd, hs, ?_⟩
  · rw [hp.rest, List.length_append]
    exact Nat.le_add_right _ _
  · intro other halike calls' hc
    obtain ⟨ahead, hother, hhead⟩ := halike.begins hp.rest
    rw [hother] at hc ⊢
    rw [hin.read (Nat.le_refl _) (hs.congr hhead) hc, skip, List.drop_left]

/-- `p ∧ ¬(q → r)` with `∨` next is read the same before `s` and before what is no formula. -/
theorem conjunction_before_disjunction :
    let ts := [⟨.letter, "p"⟩, Connective.and.token, Token.negation, Token.opening, ⟨.letter, "q"⟩,
      Connective.implies.token, ⟨.letter, "r"⟩, Token.closing, Connective.or.token]
    let φ := Formula.binary .and (.atom "p") (.neg (.binary .implies (.atom "q") (.atom "r")))
    formula 11 .conjunction ⟨ts ++ [⟨.letter, "s"⟩], 3, 2⟩ =
        .done φ ⟨[Connective.or.token, ⟨.letter, "s"⟩], 11, 2⟩ ∧
      formula 11 .conjunction ⟨ts ++ [Token.closing, Connective.or.token], 40, 2⟩ =
        .done φ ⟨[Connective.or.token, Token.closing, Connective.or.token], 48, 2⟩ := by
  intro ts φ
  have hread : formula 11 .conjunction ⟨ts ++ [⟨.letter, "s"⟩], 3, 2⟩ =
      .done φ ⟨[Connective.or.token, ⟨.letter, "s"⟩], 11, 2⟩ := rfl
  refine ⟨hread, ?_⟩
  obtain ⟨m, _, hskip, _, hother⟩ := formula_lookahead (by decide) hread
  have hposition : 11 = 3 + m := congrArg Cursor.position hskip
  obtain rfl : m = 8 := by omega
  exact hother ⟨ts ++ [Token.closing, Connective.or.token], 40, 2⟩ ⟨rfl, rfl⟩ 11
    (.inl (Nat.le_refl 11))

end Cursor

end Propositional
