import Propositional.Proofs.CallBudget
import Propositional.Proofs.ParserState

namespace Propositional

/-- The connectives that bind looser. -/
def Connective.looser : Connective → List Connective
  | .iff => []
  | .implies => [.iff]
  | .or => [.iff, .implies]
  | .and => [.iff, .implies, .or]

/-- As many parentheses are closed as opened. -/
def Balanced (ts : List Token) : Prop := ts.count Token.opening = ts.count Token.closing

/-- The connective stands at a place outside all parentheses. -/
def Connective.OutsideAt (op : Connective) (ts : List Token) (i : Nat) : Prop :=
  ts[i]? = some op.token ∧ Balanced (ts.take i)

instance : Decidable (Balanced ts) := inferInstanceAs (Decidable (_ = _))

instance {op : Connective} : Decidable (op.OutsideAt ts i) := inferInstanceAs (Decidable (_ ∧ _))

theorem Balanced.single (ho : token ≠ Token.opening) (hc : token ≠ Token.closing) :
    Balanced [token] := by
  unfold Balanced
  rw [List.count_cons_of_ne ho, List.count_cons_of_ne hc]
  rfl

theorem Connective.token_ne_opening (op : Connective) : op.token ≠ Token.opening := by
  cases op <;> decide

namespace Connective

theorem outside_at_append {op : Connective} (hb : Balanced us) :
    op.OutsideAt (us ++ vs) i ↔
      op.OutsideAt us i ∨ us.length ≤ i ∧ op.OutsideAt vs (i - us.length) := by
  unfold OutsideAt
  rcases Nat.lt_or_ge i us.length with hi | hi
  · rw [List.getElem?_append_left hi, List.take_append_of_le_length (Nat.le_of_lt hi)]
    simp [Nat.not_le.mpr hi]
  · have hnone : us[i]? = none := List.getElem?_eq_none hi
    have hbalanced : Balanced ((us ++ vs).take i) ↔ Balanced (vs.take (i - us.length)) := by
      unfold Balanced at hb ⊢
      rw [List.take_append, List.take_of_length_le hi, List.count_append, List.count_append]
      omega
    rw [List.getElem?_append_right hi, hbalanced, hnone]
    simp [hi]

theorem outside_at_cons {op op' : Connective} :
    op.OutsideAt (op'.token :: ts) i ↔ i = 0 ∧ op = op' ∨ 1 ≤ i ∧ op.OutsideAt ts (i - 1) := by
  have hb : Balanced [op'.token] := .single op'.token_ne_opening op'.token_ne_closing
  rw [← List.singleton_append, outside_at_append hb]
  refine or_congr ?_ Iff.rfl
  constructor
  · rintro ⟨hi, _⟩
    rw [List.getElem?_singleton] at hi
    split at hi
    · rename_i h0
      exact ⟨h0, (token_injective (Option.some.inj hi)).symm⟩
    · cases hi
  · rintro ⟨rfl, rfl⟩
    exact ⟨rfl, rfl⟩

/-- Between tokens a connective stands at no places but its own and those in the tokens. -/
theorem outside_at_join {op op' : Connective} (hb : Balanced left) :
    op.OutsideAt (left ++ op'.token :: right) i ↔
      op.OutsideAt left i ∨ left.length ≤ i ∧
        (i - left.length = 0 ∧ op = op' ∨
          1 ≤ i - left.length ∧ op.OutsideAt right (i - left.length - 1)) := by
  rw [outside_at_append hb, outside_at_cons]

theorem outside_at_split {op : Connective} (hb : Balanced left) :
    op.OutsideAt (left ++ op.token :: right) left.length :=
  (outside_at_join hb).mpr (.inr ⟨Nat.le_refl _, .inl ⟨Nat.sub_self _, rfl⟩⟩)

theorem OutsideAt.lt_length {op : Connective} (h : op.OutsideAt ts i) : i < ts.length :=
  (List.getElem?_eq_some_iff.mp h.1).1

theorem last_outside {op : Connective} (hb : Balanced left) (hnone : ∀ j, ¬op.OutsideAt right j)
    (h : op.OutsideAt (left ++ op.token :: right) j) : j ≤ left.length := by
  rcases (outside_at_join hb).mp h with h | ⟨_, ⟨hj, _⟩ | ⟨_, h⟩⟩
  · exact Nat.le_of_lt h.lt_length
  · exact Nat.sub_eq_zero_iff_le.mp hj
  · exact absurd h (hnone _)

theorem first_outside {op : Connective} (hb : Balanced left) (hnone : ∀ j, ¬op.OutsideAt left j)
    (h : op.OutsideAt (left ++ op.token :: right) j) : left.length ≤ j := by
  rcases (outside_at_join hb).mp h with h | ⟨hle, _⟩
  · exact absurd h (hnone _)
  · exact hle

end Connective

theorem Derives.balanced (h : Derives n level ts φ) (hn : n ≤ nestingLimit) : Balanced ts := by
  have hw := Scan.walk_balance (h.scan (d := 0) hn)
  simp only [Scan.opened, Nat.zero_add] at hw
  exact hw.symm

theorem Derives.closings_le (h : Derives n level ts φ) (hn : n ≤ nestingLimit) (i : Nat) :
    (ts.take i).count Token.closing ≤ (ts.take i).count Token.opening := by
  have hw : (Scan.operand 0).walk (ts.take i ++ ts.drop i) = some (.operator 0) := by
    rw [List.take_append_drop]
    exact h.scan hn
  obtain ⟨s, hs⟩ := Scan.walk_left hw
  have hb := Scan.walk_balance hs
  simp only [Scan.opened] at hb
  omega

theorem outside_of_row {op op' : Connective} {ops : List Connective}
    (h : op.OutsideAt (joinTokens op' row) i)
    (hrow : ∀ p ∈ row, Balanced p.1 ∧ ∀ j, op.OutsideAt p.1 j → op ∈ ops) :
    op = op' ∨ op ∈ ops := by
  induction row generalizing i with
  | nil => cases h.1
  | cons p row ih =>
    obtain ⟨hb, hp⟩ := hrow p List.mem_cons_self
    rw [join_tokens_cons, Connective.outside_at_cons, Connective.outside_at_append hb] at h
    rcases h with ⟨_, he⟩ | ⟨_, h | ⟨_, h⟩⟩
    · exact .inl he
    · exact .inr (hp _ h)
    · exact ih h (fun q hq => hrow q (List.mem_cons_of_mem _ hq))

/-- Outside its parentheses a formula of a level has no connectives but those that the level takes
along. -/
theorem Derives.outside (h : Derives n level ts φ) (hn : n ≤ nestingLimit)
    (ho : op.OutsideAt ts i) : op ∈ level.connectives := by
  induction h generalizing i with
  | joined shape first rest ihf ihr =>
    rw [Connective.outside_at_append (first.balanced hn)] at ho
    rw [shape.connectives, List.mem_cons]
    rcases ho with ho | ⟨_, ho⟩
    · exact .inr (ihf hn ho)
    · exact outside_of_row ho (fun p hp => ⟨(rest p hp).balanced hn, fun j => ihr p hp hn⟩)
  | disjunction _ ih => exact List.mem_cons_of_mem _ (ih hn ho)
  | implication left _ ihl ihr =>
    rw [Connective.outside_at_append (left.balanced hn), Connective.outside_at_cons] at ho
    rcases ho with ho | ⟨_, ⟨_, rfl⟩ | ⟨_, ho⟩⟩
    · exact List.mem_cons_of_mem _ (ihl hn ho)
    · exact List.mem_cons_self
    · exact ihr hn ho
  | negation _ ih =>
    have hb : Balanced [Token.negation] := .single (by decide) (by decide)
    rw [← List.singleton_append, Connective.outside_at_append hb] at ho
    rcases ho with ⟨hi, _⟩ | ⟨_, ho⟩
    · rw [List.getElem?_singleton] at hi
      split at hi
      · exact absurd (Option.some.inj hi) (by cases op <;> decide)
      · cases hi
    · exact ih hn ho
  | primary _ ih => exact ih hn ho
  | letter name =>
    obtain ⟨hi, _⟩ := ho
    rw [List.getElem?_singleton] at hi
    split at hi
    · cases op <;> cases hi
    · cases hi
  | @parenthesized n ts φ inner ih =>
    obtain ⟨hi, hb⟩ := ho
    cases i with
    | zero => exact absurd (Option.some.inj hi).symm op.token_ne_opening
    | succ i =>
      rw [List.getElem?_cons_succ] at hi
      have hlt : i < ts.length := by
        rcases Nat.lt_or_ge i ts.length with hlt | hge
        · exact hlt
        · rw [List.getElem?_append_right hge, List.getElem?_singleton] at hi
          split at hi
          · exact absurd (Option.some.inj hi).symm op.token_ne_closing
          · cases hi
      have hle := inner.closings_le (by omega) i
      have hne : Token.opening ≠ Token.closing := by decide
      unfold Balanced at hb
      rw [List.take_succ_cons, List.take_append_of_le_length (Nat.le_of_lt hlt),
        List.count_cons_self, List.count_cons_of_ne hne] at hb
      omega

theorem Level.Joins.unique (shape : Level.Joins level op operand)
    (shape' : Level.Joins level op' operand') : op = op' ∧ operand = operand' := by
  cases shape <;> cases shape' <;> exact ⟨rfl, rfl⟩

namespace DerivesIn

/-- A row is a single operand, or its last operand joined to the row before it. -/
theorem row_cases (shape : Level.Joins level op operand) (h : DerivesIn n calls level ts φ) :
    ∃ inside, calls = inside + 1 ∧ (DerivesIn n inside operand ts φ ∨
      ∃ left right ψ χ, ts = left ++ op.token :: right ∧ φ = .binary op ψ χ ∧
        DerivesIn n calls level left ψ ∧ DerivesIn n inside operand right χ) := by
  cases h with
  | @joined _ _ _ _ inside us ψ row shape' first rest =>
    obtain ⟨rfl, rfl⟩ := shape.unique shape'
    refine ⟨inside, rfl, ?_⟩
    rcases List.eq_nil_or_concat row with rfl | ⟨row, p, hconcat⟩
    · left
      simpa [joinTokens, joinLeft] using first
    · right
      rw [List.concat_eq_append] at hconcat
      subst hconcat
      have hrow : ∀ q ∈ row, DerivesIn n inside operand q.1 q.2 :=
        fun q hq => rest q (List.mem_append_left _ hq)
      refine ⟨us ++ joinTokens op row, p.1, joinLeft op ψ row, p.2, ?_, ?_,
        .joined shape first hrow, rest p (List.mem_append_right _ List.mem_cons_self)⟩
      · simp [joinTokens]
      · simp [joinLeft]
  | disjunction | implication | negation | primary | letter | parenthesized => cases shape

theorem implication_cases (h : DerivesIn n calls .implication ts φ) :
    ∃ inside, calls = inside + 1 ∧ (DerivesIn n inside .disjunction ts φ ∨
      ∃ left right ψ χ, ts = left ++ Connective.implies.token :: right ∧
        φ = .binary .implies ψ χ ∧ DerivesIn n inside .disjunction left ψ ∧
        DerivesIn n inside .implication right χ) := by
  cases h with
  | joined shape _ _ => cases shape
  | disjunction only => exact ⟨_, rfl, .inl only⟩
  | implication left right => exact ⟨_, rfl, .inr ⟨_, _, _, _, rfl, rfl, left, right⟩⟩

end DerivesIn

/-- The tokens make a formula of the level, with so many calls that a formula of the level is one of
the loosest level with the calls there are. -/
def ReducesTo (n calls : Nat) (ts : List Token) (φ : Formula) (level : Level) : Prop :=
  ∃ inside ≤ calls, DerivesIn n inside level ts φ ∧
    ∀ us ψ, DerivesIn n inside level us ψ → DerivesIn n calls .biconditional us ψ

theorem DerivesIn.reduces (h : DerivesIn n calls .biconditional ts φ) :
    ReducesTo n calls ts φ .biconditional :=
  ⟨calls, Nat.le_refl calls, h, fun _ _ h => h⟩

/-- The formula has the connective at its root, which stands outside all parentheses as the last one
of its kind, or the first one if it is `→`; and its operands are the formulas of the tokens before
and behind. -/
structure SplitsAt (n calls : Nat) (op : Connective) (ts : List Token) (φ : Formula) (i : Nat) :
    Prop where
  outside : op.OutsideAt ts i
  chosen : ∀ j, op.OutsideAt ts j → if op = .implies then i ≤ j else j ≤ i
  parts : ∃ ψ χ, DerivesIn n calls .biconditional (ts.take i) ψ ∧
    DerivesIn n calls .biconditional (ts.drop (i + 1)) χ ∧ φ = .binary op ψ χ

theorem Connective.split_tokens (op : Connective) (left right : List Token) :
    (left ++ op.token :: right).take left.length = left ∧
      (left ++ op.token :: right).drop (left.length + 1) = right := by
  rw [← List.drop_drop, List.take_left, List.drop_left]
  exact ⟨rfl, rfl⟩

namespace ReducesTo

theorem row (shape : Level.Joins level op operand) (h : ReducesTo n calls ts φ level)
    (hn : n ≤ nestingLimit) (hnone : ∀ i, ¬op.OutsideAt ts i) :
    ReducesTo n calls ts φ operand := by
  obtain ⟨_, hle, h, hloosen⟩ := h
  obtain ⟨inside, rfl, honly | ⟨left, right, ψ, χ, rfl, _, hl, _⟩⟩ := h.row_cases shape
  · exact ⟨inside, Nat.le_of_succ_le hle, honly, fun us ψ h => hloosen us ψ (h.single shape)⟩
  · exact absurd (Connective.outside_at_split (hl.derives.balanced hn)) (hnone _)

theorem implication (h : ReducesTo n calls ts φ .implication) (hn : n ≤ nestingLimit)
    (hnone : ∀ i, ¬Connective.implies.OutsideAt ts i) :
    ReducesTo n calls ts φ .disjunction := by
  obtain ⟨_, hle, h, hloosen⟩ := h
  obtain ⟨inside, rfl, honly | ⟨left, right, ψ, χ, rfl, _, hl, _⟩⟩ := h.implication_cases
  · exact ⟨inside, Nat.le_of_succ_le hle, honly, fun us ψ h => hloosen us ψ (.disjunction h)⟩
  · exact absurd (Connective.outside_at_split (hl.derives.balanced hn)) (hnone _)

theorem row_splits (shape : Level.Joins level op operand) (h : ReducesTo n calls ts φ level)
    (hn : n ≤ nestingLimit) (ho : op.OutsideAt ts j) : ∃ i, SplitsAt n calls op ts φ i := by
  obtain ⟨_, _, h, hloosen⟩ := h
  obtain ⟨inside, rfl, honly | ⟨left, right, ψ, χ, rfl, hφ, hl, hr⟩⟩ := h.row_cases shape
  · exact absurd (honly.derives.outside hn ho) shape.not_operand
  · have hb := hl.derives.balanced hn
    have hnone : ∀ j, ¬op.OutsideAt right j :=
      fun j ho => shape.not_operand (hr.derives.outside hn ho)
    have hne : op ≠ .implies := by cases shape <;> simp
    obtain ⟨htake, hdrop⟩ := Connective.split_tokens op left right
    refine ⟨left.length, Connective.outside_at_split hb, ?_, ψ, χ, ?_, ?_, hφ⟩
    · intro j hj
      rw [if_neg hne]
      exact Connective.last_outside hb hnone hj
    · rw [htake]
      exact hloosen left ψ hl
    · rw [hdrop]
      exact hloosen right χ (hr.single shape)

theorem implication_splits (h : ReducesTo n calls ts φ .implication) (hn : n ≤ nestingLimit)
    (ho : Connective.implies.OutsideAt ts j) : ∃ i, SplitsAt n calls .implies ts φ i := by
  have hne : Connective.implies ∉ Level.disjunction.connectives := by simp [Level.connectives]
  obtain ⟨_, _, h, hloosen⟩ := h
  obtain ⟨inside, rfl, honly | ⟨left, right, ψ, χ, rfl, hφ, hl, hr⟩⟩ := h.implication_cases
  · exact absurd (honly.derives.outside hn ho) hne
  · have hb := hl.derives.balanced hn
    have hnone : ∀ j, ¬Connective.implies.OutsideAt left j :=
      fun j ho => hne (hl.derives.outside hn ho)
    obtain ⟨htake, hdrop⟩ := Connective.split_tokens .implies left right
    refine ⟨left.length, Connective.outside_at_split hb, ?_, ψ, χ, ?_, ?_, hφ⟩
    · intro j hj
      rw [if_pos rfl]
      exact Connective.first_outside hb hnone hj
    · rw [htake]
      exact hloosen left ψ (.disjunction hl)
    · rw [hdrop]
      exact hloosen right χ (hr.mono (Nat.le_refl n) (Nat.le_succ inside))

end ReducesTo

namespace DerivesIn

/-- With no looser connective outside all parentheses the root is found at the level of the
connective. -/
theorem splits (h : DerivesIn n calls .biconditional ts φ) (hn : n ≤ nestingLimit)
    (hloose : ∀ op' ∈ op.looser, ∀ i, ¬op'.OutsideAt ts i) (ho : op.OutsideAt ts j) :
    ∃ i, SplitsAt n calls op ts φ i := by
  have hb := h.reduces
  cases op with
  | iff => exact hb.row_splits .biconditional hn ho
  | implies =>
    have hi := hb.row .biconditional hn (hloose .iff (by simp [Connective.looser]))
    exact hi.implication_splits hn ho
  | or =>
    have hi := hb.row .biconditional hn (hloose .iff (by simp [Connective.looser]))
    have hd := hi.implication hn (hloose .implies (by simp [Connective.looser]))
    exact hd.row_splits .disjunction hn ho
  | and =>
    have hi := hb.row .biconditional hn (hloose .iff (by simp [Connective.looser]))
    have hd := hi.implication hn (hloose .implies (by simp [Connective.looser]))
    have hc := hd.row .disjunction hn (hloose .or (by simp [Connective.looser]))
    exact hc.row_splits .conjunction hn ho

/-- Without connectives outside all parentheses a formula is a negation, an atom or one in
parentheses. -/
theorem plain (h : DerivesIn n calls .biconditional ts φ) (hn : n ≤ nestingLimit)
    (hnone : ∀ op : Connective, ∀ i, ¬op.OutsideAt ts i) :
    (∃ rest ψ, ts = Token.negation :: rest ∧ DerivesIn n calls .biconditional rest ψ ∧
      φ = .neg ψ) ∨
    (∃ name, ts = [⟨.letter, name⟩] ∧ φ = .atom name) ∨
    ∃ inner, ts = Token.opening :: (inner ++ [Token.closing]) ∧
      DerivesIn n calls .biconditional inner φ := by
  have hb := h.reduces
  have hd := (hb.row .biconditional hn (hnone .iff)).implication hn (hnone .implies)
  obtain ⟨_, hle, hnegation, hloosen⟩ :=
    (hd.row .disjunction hn (hnone .or)).row .conjunction hn (hnone .and)
  cases hnegation with
  | joined shape _ _ => cases shape
  | negation operand =>
    exact .inl ⟨_, _, rfl, hloosen _ _ (operand.mono (Nat.le_refl n) (Nat.le_succ _)), rfl⟩
  | primary only =>
    cases only with
    | joined shape _ _ => cases shape
    | letter name => exact .inr (.inl ⟨name, rfl, rfl⟩)
    | parenthesized inner =>
      exact .inr (.inr ⟨_, rfl, inner.mono (Nat.le_succ _) (by omega)⟩)

end DerivesIn

/-- The root of an accepted formula is its main connective, counting only the connectives outside
all parentheses: the last `↔`, or else the first `→`, or else the last `∨`, or else the last `∧`.
What stands before and behind it is accepted, and its formulas are the operands. With no connective
there the tokens are a `¬` and an accepted formula, a letter, or an accepted formula in
parentheses. -/
theorem Formula.main_connective [Interpreter] (h : ofTokens ts = .ok φ) :
    (∀ op : Connective, (∃ j, op.OutsideAt ts j) →
      (∀ op' ∈ op.looser, ∀ j, ¬op'.OutsideAt ts j) →
      ∃ i ψ χ, op.OutsideAt ts i ∧
        (∀ j, op.OutsideAt ts j → if op = .implies then i ≤ j else j ≤ i) ∧
        ofTokens (ts.take i) = .ok ψ ∧ ofTokens (ts.drop (i + 1)) = .ok χ ∧
        φ = .binary op ψ χ) ∧
    ((∀ op : Connective, ∀ j, ¬op.OutsideAt ts j) →
      (∃ rest ψ, ts = Token.negation :: rest ∧ ofTokens rest = .ok ψ ∧ φ = .neg ψ) ∨
      (∃ name, ts = [⟨.letter, name⟩] ∧ φ = .atom name) ∨
      ∃ inner, ts = Token.opening :: (inner ++ [Token.closing]) ∧ ofTokens inner = .ok φ) := by
  have hd := of_tokens_iff_derives_in.mp h
  constructor
  · rintro op ⟨j, ho⟩ hloose
    obtain ⟨i, hs⟩ := hd.splits (Nat.le_refl _) hloose ho
    obtain ⟨ψ, χ, hψ, hχ, hφ⟩ := hs.parts
    exact ⟨i, ψ, χ, hs.outside, hs.chosen, of_tokens_iff_derives_in.mpr hψ,
      of_tokens_iff_derives_in.mpr hχ, hφ⟩
  · intro hnone
    rcases hd.plain (Nat.le_refl _) hnone with ⟨rest, ψ, hts, hψ, hφ⟩ | hatom | ⟨inner, hts, hφ⟩
    · exact .inl ⟨rest, ψ, hts, of_tokens_iff_derives_in.mpr hψ, hφ⟩
    · exact .inr (.inl hatom)
    · exact .inr (.inr ⟨inner, hts, of_tokens_iff_derives_in.mpr hφ⟩)

theorem Formula.main_connective_grouping :
    ofTokens (Token.scan "p ∧ (q ↔ r) → ¬s → t") =
      .ok (.binary .implies (.binary .and (.atom "p") (.binary .iff (.atom "q") (.atom "r")))
        (.binary .implies (.neg (.atom "s")) (.atom "t"))) ∧
    Connective.implies.OutsideAt (Token.scan "p ∧ (q ↔ r) → ¬s → t") 10 ∧
    (∀ j, ¬Connective.iff.OutsideAt (Token.scan "p ∧ (q ↔ r) → ¬s → t") j) ∧
    ∃ i ψ χ, Connective.implies.OutsideAt (Token.scan "p ∧ (q ↔ r) → ¬s → t") i ∧ i ≤ 10 ∧
      ofTokens ((Token.scan "p ∧ (q ↔ r) → ¬s → t").take i) = .ok ψ ∧
      ofTokens ((Token.scan "p ∧ (q ↔ r) → ¬s → t").drop (i + 1)) = .ok χ := by
  have hp : ofTokens (Token.scan "p ∧ (q ↔ r) → ¬s → t") =
      .ok (.binary .implies (.binary .and (.atom "p") (.binary .iff (.atom "q") (.atom "r")))
        (.binary .implies (.neg (.atom "s")) (.atom "t"))) := rfl
  have ho : Connective.implies.OutsideAt (Token.scan "p ∧ (q ↔ r) → ¬s → t") 10 := by decide
  have hall : ∀ j < 12, ¬Connective.iff.OutsideAt (Token.scan "p ∧ (q ↔ r) → ¬s → t") j := by
    decide
  have hnone : ∀ j, ¬Connective.iff.OutsideAt (Token.scan "p ∧ (q ↔ r) → ¬s → t") j :=
    fun j hj => hall j hj.lt_length hj
  have hloose : ∀ op' ∈ Connective.implies.looser,
      ∀ j, ¬op'.OutsideAt (Token.scan "p ∧ (q ↔ r) → ¬s → t") j := by
    intro op' hop'
    rw [List.mem_singleton.mp hop']
    exact hnone
  obtain ⟨i, ψ, χ, hi, hfirst, hψ, hχ, _⟩ := (main_connective hp).1 .implies ⟨10, ho⟩ hloose
  exact ⟨hp, ho, hnone, i, ψ, χ, hi, hfirst 10 ho, hψ, hχ⟩

end Propositional
