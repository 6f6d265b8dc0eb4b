import Propositional.Proofs.Descent

namespace Propositional

theorem Level.StopsAt.tighten (shape : Level.Joins level op operand) (h : level.StopsAt rest) :
    operand.StopsAt rest := by
  intro op' hop'
  refine h op' ?_
  rw [shape.connectives]
  exact List.mem_cons_of_mem _ hop'

theorem Level.StopsAt.not_at {level : Level} {op : Connective} {c : Cursor}
    (h : level.StopsAt c.rest)
    (hop : op ∈ level.connectives) : c.isAt op.symbol = false := by
  rw [Bool.eq_false_iff]
  exact fun hat => h op hop (Cursor.is_at_iff.mp hat)

theorem Level.StopsAt.of_token {level : Level} {op : Connective} (h : op ∉ level.connectives)
    (us : List Token) : level.StopsAt (op.token :: us) := by
  intro op' hop' he
  rw [List.head?_cons, Option.some.injEq] at he
  cases Connective.token_injective he
  exact h hop'

theorem Level.Joins.not_operand (shape : Level.Joins level op operand) :
    op ∉ operand.connectives := by
  cases shape <;> simp [Level.connectives]

/-- Behind an operand there comes another round of the row, or what comes behind the row. -/
theorem Level.Joins.stops_row (shape : Level.Joins level op operand) (h : level.StopsAt rest) :
    operand.StopsAt (joinTokens op row ++ rest) := by
  cases row with
  | nil => exact h.tighten shape
  | cons p row => exact .of_token shape.not_operand _

namespace Cursor

/-- Whatever stands behind the tokens, unless the level takes it along, they are read as the
formula. -/
def Finds (read : Cursor → Outcome Formula) (level : Level) (d : Nat) (tokens : List Token)
    (φ : Formula) : Prop :=
  ∀ i behind, level.StopsAt behind →
    (read ⟨tokens ++ behind, i, d⟩).Meets
      (fun ψ c => ψ = φ ∧ c = ⟨behind, i + tokens.length, d⟩) (fun _ _ => False)

theorem more_round {read : Cursor → Outcome Formula} :
    more op read (rounds + 1) left ⟨op.token :: us, i, d⟩ =
      (read ⟨us, i + 1, d⟩).andThen
        (fun right c => more op read rounds (.binary op left right) c) := by
  have hat : isAt ⟨op.token :: us, i, d⟩ op.symbol = true := is_at_iff.mpr rfl
  rw [more, hat, if_pos rfl]
  rfl

theorem more_finds {read : Cursor → Outcome Formula} (shape : Level.Joins level op operand)
    (h : ∀ p ∈ row, Finds read operand d p.1 p.2) (hs : level.StopsAt behind)
    (hr : (joinTokens op row ++ behind).length ≤ rounds) :
    (more op read rounds left ⟨joinTokens op row ++ behind, i, d⟩).Meets
      (fun ψ c => ψ = joinLeft op left row ∧
        c = ⟨behind, i + (joinTokens op row).length, d⟩) (fun _ _ => False) := by
  induction row generalizing left i rounds with
  | nil =>
    cases rounds with
    | zero => exact ⟨rfl, rfl⟩
    | succ rounds =>
      have hop : op ∈ level.connectives := by simp [shape.connectives]
      have hn : isAt ⟨joinTokens op [] ++ behind, i, d⟩ op.symbol = false :=
        Level.StopsAt.not_at hs hop
      rw [more, hn]
      exact ⟨rfl, rfl⟩
  | cons p row ih =>
    cases rounds with
    | zero => simp [join_tokens_cons] at hr
    | succ rounds =>
      have hp := h p List.mem_cons_self (i + 1) (joinTokens op row ++ behind)
        (shape.stops_row hs)
      rw [join_tokens_cons, List.cons_append, List.append_assoc, more_round]
      refine hp.and_then ?_ (fun _ _ hb => hb)
      rintro right c ⟨rfl, rfl⟩
      have hlen : (joinTokens op row ++ behind).length ≤ rounds := by
        simp only [join_tokens_cons, List.cons_append, List.length_cons, List.length_append] at hr ⊢
        omega
      refine (ih (fun q hq => h q (List.mem_cons_of_mem _ hq)) hlen).mono ?_ (fun _ _ hb => hb)
      rintro ψ c ⟨rfl, rfl⟩
      refine ⟨rfl, ?_⟩
      simp only [List.length_cons, List.length_append, mk.injEq, and_true, true_and]
      omega

theorem joined_finds {read : Cursor → Outcome Formula} (shape : Level.Joins level op operand)
    (hf : Finds read operand d ts φ) (h : ∀ p ∈ row, Finds read operand d p.1 p.2) :
    Finds (joined op read) level d (ts ++ joinTokens op row) (joinLeft op φ row) := by
  intro i behind hs
  rw [joined, List.append_assoc]
  refine (hf i (joinTokens op row ++ behind) (shape.stops_row hs)).and_then ?_
    (fun _ _ hb => hb)
  rintro left c ⟨rfl, rfl⟩
  refine (more_finds shape h hs (Nat.le_refl _)).mono ?_ (fun _ _ hb => hb)
  rintro ψ c ⟨rfl, rfl⟩
  refine ⟨rfl, ?_⟩
  rw [List.length_append, Nat.add_assoc]

theorem operand_finds (h : Finds (formula calls .disjunction) .disjunction d ts φ) :
    Finds (formula (calls + 1) .implication) .implication d ts φ := by
  intro i behind hs
  have hop : ∀ op ∈ Level.disjunction.connectives, op ∈ Level.implication.connectives :=
    fun op => List.mem_cons_of_mem _
  unfold formula
  refine (h i behind (fun op h' => hs op (hop op h'))).and_then ?_ (fun _ _ hb => hb)
  rintro left c ⟨rfl, rfl⟩
  have hn : isAt ⟨behind, i + ts.length, d⟩ Connective.implies.symbol = false :=
    Level.StopsAt.not_at hs List.mem_cons_self
  rw [hn]
  exact ⟨rfl, rfl⟩

theorem implication_finds (hl : Finds (formula calls .disjunction) .disjunction d ts φ)
    (hr : Finds (formula calls .implication) .implication d us ψ) :
    Finds (formula (calls + 1) .implication) .implication d
      (ts ++ Connective.implies.token :: us) (.binary .implies φ ψ) := by
  intro i behind hs
  have hstop : Level.StopsAt .disjunction (Connective.implies.token :: (us ++ behind)) :=
    .of_token (by simp [Level.connectives]) _
  unfold formula
  rw [List.append_assoc]
  refine (hl i _ hstop).and_then ?_ (fun _ _ hb => hb)
  rintro left c ⟨rfl, rfl⟩
  have hat : isAt ⟨Connective.implies.token :: (us ++ behind), i + ts.length, d⟩
      Connective.implies.symbol = true := is_at_iff.mpr rfl
  rw [hat, if_pos rfl]
  refine (hr (i + ts.length + 1) behind hs).map ?_ (fun _ _ hb => hb)
  rintro right c ⟨rfl, rfl⟩
  refine ⟨rfl, ?_⟩
  simp only [List.length_append, List.length_cons, mk.injEq, and_true, true_and]
  omega

theorem formula_negation :
    formula (calls + 1) .negation ⟨Token.negation :: us, i, d⟩ =
      (formula calls .negation ⟨us, i + 1, d⟩).map .neg := by
  have hat : isAt ⟨Token.negation :: us, i, d⟩ "¬" = true := is_at_iff.mpr rfl
  rw [formula, hat, if_pos rfl]
  rfl

theorem negation_finds (h : Finds (formula calls .negation) .negation d ts φ) :
    Finds (formula (calls + 1) .negation) .negation d (Token.negation :: ts) (.neg φ) := by
  intro i behind hs
  rw [List.cons_append, formula_negation]
  refine (h (i + 1) behind hs).map ?_ (fun _ _ hb => hb)
  rintro φ c ⟨rfl, rfl⟩
  refine ⟨rfl, ?_⟩
  simp only [List.length_cons, mk.injEq, and_true, true_and]
  omega

theorem formula_opening (hd : d < nestingLimit) :
    formula (calls + 1) .primary ⟨Token.opening :: us, i, d⟩ =
      (formula calls .biconditional ⟨us, i + 1, d + 1⟩).andThen (fun inner c =>
        if c.isAt ")" then .done inner c.closed else c.malformed .unclosed) := by
  have hlimit : ¬nestingLimit ≤ (Cursor.mk (Token.opening :: us) i d).depth := Nat.not_le_of_lt hd
  rw [formula]
  simp only
  rw [if_neg (by simp [Token.opening]), if_neg (by simp [Token.opening]), if_neg hlimit]
  rfl

theorem parenthesized_finds
    (h : Finds (formula calls .biconditional) .biconditional (d + 1) ts φ)
    (hd : d < nestingLimit) :
    Finds (formula (calls + 1) .primary) .primary d
      (Token.opening :: (ts ++ [Token.closing])) φ := by
  intro i behind _
  have hstop : Level.StopsAt .biconditional (Token.closing :: behind) := by
    intro op _ he
    rw [List.head?_cons, Option.some.injEq] at he
    exact op.token_ne_closing he.symm
  rw [List.cons_append, List.append_assoc, formula_opening hd]
  refine (h (i + 1) _ hstop).and_then ?_ (fun _ _ hb => hb)
  rintro inner c ⟨rfl, rfl⟩
  have hat : isAt ⟨Token.closing :: behind, i + 1 + ts.length, d + 1⟩ ")" = true :=
    is_at_iff.mpr rfl
  rw [hat, if_pos rfl]
  refine ⟨rfl, ?_⟩
  simp only [closed, next, List.tail_cons, List.length_cons, List.length_append, List.length_nil,
    Nat.add_sub_cancel, mk.injEq, and_true, true_and]
  omega

end Cursor

/-- A level calls for its operands the level next to it. -/
theorem Level.Joins.formula_eq (shape : Level.Joins level op operand) (calls : Nat) :
    Cursor.formula (calls + 1) level = Cursor.joined op (Cursor.formula calls operand) := by
  funext c
  cases shape <;> rfl

/-- Only `¬` makes the negation level do more than the primary level. -/
theorem Derives.head_ne_negation (h : Derives n .primary ts φ) (us : List Token) :
    (ts ++ us).head? ≠ some .negation := by
  cases h with
  | joined shape _ _ => cases shape
  | letter name => simp [Token.negation]
  | parenthesized _ => simp [Token.opening, Token.negation]

/-- To run out of calls at once is no failure to find. -/
theorem Cursor.finds_of_succ
    (h : ∀ calls, Finds (formula (calls + 1) level) level d ts φ) (calls : Nat) :
    Finds (formula calls level) level d ts φ := by
  cases calls with
  | zero => exact fun _ _ _ => trivial
  | succ calls => exact h calls

/-- Every derivation is found, at any place in any tokens. -/
theorem Derives.found (h : Derives n level ts φ) (hn : n ≤ nestingLimit - d) (calls : Nat) :
    Cursor.Finds (Cursor.formula calls level) level d ts φ := by
  induction h generalizing d calls with
  | joined shape _ _ ihf ihr =>
    refine Cursor.finds_of_succ (fun calls => ?_) calls
    rw [shape.formula_eq]
    exact Cursor.joined_finds shape (ihf hn calls) (fun p hp => ihr p hp hn calls)
  | disjunction _ ih =>
    exact Cursor.finds_of_succ (fun calls => Cursor.operand_finds (ih hn calls)) calls
  | implication _ _ ihl ihr =>
    refine Cursor.finds_of_succ (fun calls => ?_) calls
    exact Cursor.implication_finds (ihl hn calls) (ihr hn calls)
  | negation _ ih =>
    exact Cursor.finds_of_succ (fun calls => Cursor.negation_finds (ih hn calls)) calls
  | primary hp ih =>
    refine Cursor.finds_of_succ (fun calls => ?_) calls
    intro i behind hs
    have hat : ¬Cursor.isAt ⟨_ ++ behind, i, d⟩ "¬" :=
      fun hat => hp.head_ne_negation behind (Cursor.is_at_iff.mp hat)
    rw [Cursor.formula, if_neg hat]
    exact ih hn calls i behind hs
  | letter name =>
    refine Cursor.finds_of_succ (fun calls => ?_) calls
    intro i behind _
    exact ⟨rfl, rfl⟩
  | parenthesized _ ih =>
    refine Cursor.finds_of_succ (fun calls => ?_) calls
    exact Cursor.parenthesized_finds (ih (by omega) calls) (by omega)

end Propositional
