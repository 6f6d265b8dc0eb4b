import Propositional.Proofs.Letters

namespace Propositional

/-- The most binary formulas on a path to a leaf. -/
def Formula.binaryHeight : Formula → Nat
  | .atom _ => 0
  | .neg operand => operand.binaryHeight
  | .binary _ left right => max left.binaryHeight right.binaryHeight + 1

/-- The tokens of the rendered formula. -/
def Formula.tokens : Formula → List Token
  | .atom name => [⟨.letter, name⟩]
  | .neg operand => Token.negation :: operand.tokens
  | .binary op left right =>
    Token.opening :: ((left.tokens ++ op.token :: right.tokens) ++ [Token.closing])

namespace Token

theorem scan_append (a b : String) : scan (a ++ b) = scan a ++ scan b := by
  rw [scan, String.toList_append, List.filterMap_append]
  rfl

theorem scan_letter (h : c ∈ letters) :
    scan (String.singleton c) = [⟨.letter, String.singleton c⟩] := by
  simp [scan, of_char_letter h]

theorem scan_connective (op : Connective) : scan op.symbol = [op.token] := by
  cases op <;> rfl

end Token

theorem Formula.scan_render {φ : Formula} (h : φ.Lettered) : Token.scan φ.render = φ.tokens := by
  induction φ with
  | atom name =>
    obtain ⟨c, hc, rfl⟩ := h
    exact Token.scan_letter hc
  | neg operand ih =>
    have hn : Token.scan "¬" = [Token.negation] := rfl
    rw [render, Token.scan_append, hn, ih h]
    rfl
  | binary op left right ihl ihr =>
    have ho : Token.scan "(" = [Token.opening] := rfl
    have hc : Token.scan ")" = [Token.closing] := rfl
    have hs : Token.scan " " = [] := rfl
    simp only [render, Token.scan_append, ho, hc, hs, ihl h.1, ihr h.2, Token.scan_connective,
      tokens, List.append_assoc, List.cons_append, List.nil_append]

/-- Some tokens without their parentheses. -/
def bare (ts : List Token) : List Token :=
  ts.filter (fun token => token ≠ Token.opening ∧ token ≠ Token.closing)

@[simp] theorem bare_nil : bare [] = [] := rfl

@[simp] theorem bare_append (ts us : List Token) : bare (ts ++ us) = bare ts ++ bare us :=
  List.filter_append ts us

@[simp] theorem bare_letter (name : String) (ts : List Token) :
    bare (⟨.letter, name⟩ :: ts) = ⟨.letter, name⟩ :: bare ts := rfl

@[simp] theorem bare_negation (ts : List Token) :
    bare (Token.negation :: ts) = Token.negation :: bare ts := rfl

@[simp] theorem bare_connective (op : Connective) (ts : List Token) :
    bare (op.token :: ts) = op.token :: bare ts := by
  cases op <;> rfl

@[simp] theorem bare_opening (ts : List Token) : bare (Token.opening :: ts) = bare ts := rfl

@[simp] theorem bare_closing (ts : List Token) : bare (Token.closing :: ts) = bare ts := rfl

theorem Formula.bare_join_left {op : Connective} {left : Formula}
    (hrow : ∀ p ∈ row, bare p.2.tokens = bare p.1) :
    bare (joinLeft op left row).tokens = bare left.tokens ++ bare (joinTokens op row) := by
  induction row generalizing left with
  | nil => exact (List.append_nil _).symm
  | cons p row ih =>
    have hp := hrow p List.mem_cons_self
    rw [join_left_cons, ih (fun q hq => hrow q (List.mem_cons_of_mem _ hq)), join_tokens_cons]
    simp [tokens, hp]

/-- However a level groups its operands, the formula keeps all symbols in their order. -/
theorem Derives.bare_tokens (h : Derives n level ts φ) : bare φ.tokens = bare ts := by
  induction h with
  | joined _ _ _ ihf ihr => rw [Formula.bare_join_left ihr, ihf, bare_append]
  | disjunction _ ih => exact ih
  | implication _ _ ihl ihr => simp [Formula.tokens, ihl, ihr]
  | negation _ ih => simp [Formula.tokens, ih]
  | primary _ ih => exact ih
  | letter name => rfl
  | parenthesized _ ih => simp [ih]

theorem Formula.fold_nesting (φ : Formula) (h : d ≤ m) :
    φ.tokens.foldl Nesting.step ⟨d, m⟩ = ⟨d, max m (d + φ.binaryHeight)⟩ := by
  induction φ generalizing d m with
  | atom name => simp [tokens, Nesting.step, Token.isOperator, binaryHeight, h]
  | neg operand ih =>
    rw [tokens, List.foldl_cons, show Nesting.step ⟨d, m⟩ Token.negation = ⟨d, m⟩ from rfl, ih h]
    rfl
  | binary op left right ihl ihr =>
    have hop : ∀ n : Nesting, n.step op.token = n := by
      intro n
      cases op <;> rfl
    have ho : Nesting.step ⟨d, m⟩ Token.opening = ⟨d + 1, max m (d + 1)⟩ := rfl
    have hc : ∀ k, Nesting.step ⟨d + 1, k⟩ Token.closing = ⟨d, k⟩ := fun _ => rfl
    have hl := @ihl (d + 1) (max m (d + 1)) (by omega)
    have hr := @ihr (d + 1) (max (max m (d + 1)) (d + 1 + left.binaryHeight)) (by omega)
    simp only [tokens, List.foldl_cons, List.foldl_append, List.foldl_nil, ho, hl, hop, hr, hc,
      binaryHeight, Nesting.mk.injEq, true_and]
    omega

theorem Expression.nesting_render {φ : Formula} (h : φ.Lettered) :
    nesting φ.render = φ.binaryHeight := by
  rw [nesting, Formula.scan_render h, deepestNesting, φ.fold_nesting (Nat.le_refl 0)]
  simp

theorem Formula.tokens_derive (φ : Formula) (hn : φ.binaryHeight ≤ n) :
    Derives n .negation φ.tokens φ := by
  induction φ generalizing n with
  | atom name => exact .primary (.letter name)
  | neg operand ih => exact .negation (ih hn)
  | binary op left right ihl ihr =>
    simp only [binaryHeight] at hn
    obtain ⟨m, rfl⟩ : ∃ m, n = m + 1 := ⟨n - 1, by omega⟩
    have hl : Derives m .negation left.tokens left := ihl (by omega)
    have hr : Derives m .negation right.tokens right := ihr (by omega)
    exact .primary (.parenthesized (.connect op hl hr))

/-- A scan of the rendering comes to a parenthesis too many. -/
theorem Formula.overflow (φ : Formula) (hd : d ≤ nestingLimit)
    (h : nestingLimit < d + φ.binaryHeight) :
    ∃ ts us, φ.tokens = ts ++ Token.opening :: us ∧
      (Scan.operand d).walk ts = some (.operand nestingLimit) := by
  induction φ generalizing d with
  | atom name => exact absurd h (Nat.not_lt.mpr hd)
  | neg operand ih =>
    obtain ⟨ts, us, he, ho⟩ := ih hd h
    exact ⟨Token.negation :: ts, us, by rw [tokens, he]; rfl, ho⟩
  | binary op left right ihl ihr =>
    simp only [binaryHeight] at h
    rcases Nat.eq_or_lt_of_le hd with rfl | hlt
    · exact ⟨[], _, rfl, rfl⟩
    · by_cases hl : nestingLimit < d + 1 + left.binaryHeight
      · obtain ⟨ts, us, he, ho⟩ := ihl hlt hl
        refine ⟨Token.opening :: ts, us ++ op.token :: right.tokens ++ [Token.closing], ?_, ?_⟩
        · simp only [tokens, he, List.append_assoc, List.cons_append]
        · rw [Scan.walk_step (Scan.step_opening hlt), ho]
      · obtain ⟨ts, us, he, ho⟩ := ihr hlt (by omega)
        have hs : (Scan.operand (d + 1)).walk left.tokens = some (.operator (d + 1)) :=
          (left.tokens_derive (Nat.le_refl _)).scan (by omega)
        refine ⟨Token.opening :: (left.tokens ++ op.token :: ts), us ++ [Token.closing], ?_, ?_⟩
        · simp only [tokens, he, List.append_assoc, List.cons_append]
        · rw [Scan.walk_step (Scan.step_opening hlt), Scan.walk_through hs,
            Scan.walk_step (Scan.step_connective _ op), ho]

section
variable [Interpreter]

theorem Formula.of_tokens_tokens (φ : Formula) (hx : ofTokens φ.tokens ≠ .error .callsExhausted)
    (hb : φ.binaryHeight ≤ 50) : ofTokens φ.tokens = .ok φ :=
  (Derives.loosen (φ.tokens_derive hb)).of_tokens hx

theorem Formula.of_tokens_overflow (φ : Formula)
    (hx : ofTokens φ.tokens ≠ .error .callsExhausted) (hb : 50 < φ.binaryHeight) :
    ∃ e, ofTokens φ.tokens = .error (.malformed e) ∧
      e.reason.text = "expression nested too deeply" := by
  obtain ⟨ts, us, he, ho⟩ := φ.overflow (Nat.zero_le _) (by rwa [Nat.zero_add])
  have hs : (Scan.operand nestingLimit).Stuck (Token.opening :: us) := rfl
  have hd := hs.diagnose ho
  rw [← he] at hd
  rcases of_tokens_cases φ.tokens with ⟨ψ, _, hψ⟩ | ⟨e, herr, hdiag⟩ | hc
  · cases hd.symm.trans hψ.diagnose
  · have hpair := Option.some.inj (hdiag.symm.trans hd)
    exact ⟨e, herr, (Prod.mk.inj hpair).1⟩
  · exact absurd hc hx

/-- Rendering and parsing are inverse to each other as long as no more than fifty binary formulas
lie one inside another, since each of them brings parentheses of its own. -/
theorem Expression.parse_render :
    (∀ φ : Formula, φ.Lettered →
      nesting φ.render = φ.binaryHeight ∧
      (parse φ.render ≠ .error .callsExhausted →
        (φ.binaryHeight ≤ 50 → parse φ.render = .ok φ) ∧
        (50 < φ.binaryHeight → ∃ e, parse φ.render = .error (.malformed e) ∧
          e.reason.text = "expression nested too deeply"))) ∧
    ∀ text φ, parse text = .ok φ → parse φ.render ≠ .error .callsExhausted →
      (parse φ.render = .ok φ ↔ φ.binaryHeight ≤ 50) := by
  have hback : ∀ φ : Formula, φ.Lettered → parse φ.render = Formula.ofTokens φ.tokens := by
    intro φ hφ
    rw [parse, Formula.scan_render hφ]
  refine ⟨?_, ?_⟩
  · intro φ hφ
    refine ⟨nesting_render hφ, ?_⟩
    rw [hback φ hφ]
    exact fun hx => ⟨φ.of_tokens_tokens hx, φ.of_tokens_overflow hx⟩
  · intro text φ hp hx
    rw [hback φ (lettered_of_parse hp)] at hx ⊢
    refine ⟨?_, φ.of_tokens_tokens hx⟩
    intro hok
    refine Nat.le_of_not_lt (fun hb => ?_)
    obtain ⟨e, he, _⟩ := φ.of_tokens_overflow hx hb
    cases he.symm.trans hok

end

theorem Expression.parse_render_chain :
    parse "p ∧ q ∧ ¬r" =
      .ok (.binary .and (.binary .and (.atom "p") (.atom "q")) (.neg (.atom "r"))) ∧
    parse "((p ∧ q) ∧ ¬r)" ≠ .error .callsExhausted ∧
    nesting "((p ∧ q) ∧ ¬r)" = 2 ∧
    parse "((p ∧ q) ∧ ¬r)" =
      .ok (.binary .and (.binary .and (.atom "p") (.atom "q")) (.neg (.atom "r"))) := by
  have hp : parse "p ∧ q ∧ ¬r" =
      .ok (.binary .and (.binary .and (.atom "p") (.atom "q")) (.neg (.atom "r"))) := rfl
  have hr : (Formula.binary .and (.binary .and (.atom "p") (.atom "q")) (.neg (.atom "r"))).render =
      "((p ∧ q) ∧ ¬r)" := rfl
  have hx : parse "((p ∧ q) ∧ ¬r)" ≠ .error .callsExhausted := by
    have : parse "((p ∧ q) ∧ ¬r)" =
        .ok (.binary .and (.binary .and (.atom "p") (.atom "q")) (.neg (.atom "r"))) := rfl
    simp [this]
  have hl := (parse_render.1 _ (lettered_of_parse hp)).1
  have hb := (parse_render.2 _ _ hp (by rwa [hr])).mpr (by decide)
  rw [hr] at hl hb
  exact ⟨hp, hx, hl, hb⟩

end Propositional
