import Propositional.Proofs.Alphabet
import Propositional.Proofs.Rendering
import Propositional.Proofs.SoftFailure

namespace Propositional

namespace Scan

/-- The state with more parentheses open. -/
def raised (k : Nat) : Scan → Scan
  | operand d => operand (d + k)
  | operator d => operator (d + k)

theorem step_raised {s next : Scan} (h : s.step token = some next)
    (hk : next.opened + k ≤ nestingLimit) : (s.raised k).step token = some (next.raised k) := by
  cases takes_of_step h with
  | letter d name => rfl
  | negation d => rfl
  | opening hd =>
    rename_i d
    simp only [opened] at hk
    have hstep : (operand (d + k)).step Token.opening = some (operand (d + k + 1)) :=
      step_opening (by omega)
    simpa only [raised, Nat.add_right_comm d 1 k] using hstep
  | connective d op => exact step_connective (d + k) op
  | closing d =>
    have hstep := step_closing (d + k)
    simpa only [raised, Nat.add_right_comm d 1 k] using hstep

/-- Parentheses that were opened before do not matter to a scan, if there is room for its own. -/
theorem walk_raised {s s' : Scan} (h : s.walk ts = some s')
    (hk : s.opened + excess ts + k ≤ nestingLimit) :
    (s.raised k).walk ts = some (s'.raised k) := by
  induction ts generalizing s with
  | nil =>
    cases h
    rfl
  | cons token ts ih =>
    obtain ⟨next, hs⟩ := walk_first h
    rw [walk_step hs] at h
    have hnext := excess_step hs ts
    rw [walk_step (step_raised hs (by omega))]
    exact ih h (by omega)

end Scan

namespace Expression

/-- The formula of a text needs no more parentheses than are open in the text. -/
theorem derives_within [Interpreter] (h : parse text = .ok φ)
    (hn : nesting text + k ≤ nestingLimit) :
    Derives (nestingLimit - k) .biconditional (Token.scan text) φ := by
  have hx : excess (Token.scan text) ≤ nesting text := excess_le_nesting _
  have hwalk := Scan.walk_raised (k := k) (Formula.walk_of_tokens h)
    (by simp only [Scan.opened]; omega)
  refine (Formula.derives_of_tokens h).within (s := .operator k) ?_
  simpa only [Scan.raised, Nat.zero_add] using hwalk

/-- A text in parentheses. -/
def grouped (text : String) : String := "(" ++ text ++ ")"

/-- Two texts in parentheses with a connective between them. -/
def compound (op : Connective) (a b : String) : String := grouped a ++ op.symbol ++ grouped b

/-- A text in parentheses behind a `¬`. -/
def negated (text : String) : String := "¬" ++ grouped text

theorem scan_grouped (text : String) :
    Token.scan (grouped text) = Token.opening :: (Token.scan text ++ [Token.closing]) := by
  have ho : Token.scan "(" = [Token.opening] := rfl
  have hc : Token.scan ")" = [Token.closing] := rfl
  rw [grouped, Token.scan_append, Token.scan_append, ho, hc]
  rfl

section
variable [Interpreter]

theorem derives_grouped (h : parse text = .ok φ) (hn : nesting text ≤ 49) :
    Derives nestingLimit .negation (Token.scan (grouped text)) φ := by
  rw [scan_grouped]
  exact .primary (.parenthesized (derives_within (k := 1) h (Nat.succ_le_succ hn)))

theorem parse_compound (ha : parse a = .ok φ) (hb : parse b = .ok ψ) (hna : nesting a ≤ 49)
    (hnb : nesting b ≤ 49) (hx : parse (compound op a b) ≠ .error .callsExhausted) :
    parse (compound op a b) = .ok (.binary op φ ψ) := by
  have hd := Derives.connect op (derives_grouped ha hna) (derives_grouped hb hnb)
  have hscan : Token.scan (compound op a b) =
      Token.scan (grouped a) ++ op.token :: Token.scan (grouped b) := by
    rw [compound, Token.scan_append, Token.scan_append, Token.scan_connective, List.append_assoc]
    rfl
  rw [← hscan] at hd
  exact hd.of_tokens hx

theorem parse_negated (h : parse text = .ok φ) (hn : nesting text ≤ 49)
    (hx : parse (negated text) ≠ .error .callsExhausted) :
    parse (negated text) = .ok (.neg φ) := by
  have hd := (Derives.negation (derives_grouped h hn)).loosen
  have hneg : Token.scan "¬" = [Token.negation] := rfl
  have hscan : Token.scan (negated text) = Token.negation :: Token.scan (grouped text) := by
    rw [negated, Token.scan_append, hneg]
    rfl
  rw [← hscan] at hd
  exact hd.of_tokens hx

end

/-- Behind a character that makes no word a text starts anew. -/
theorem stands_alone_split (hl : isWordChar letter = true) (hc : isWordChar c = false)
    (before after : List Char) : standsAlone letter inWord (before ++ c :: after) =
      (standsAlone letter inWord before || standsAlone letter false after) := by
  induction before generalizing inWord with
  | nil =>
    have hne : (c == letter) = false := by
      rw [beq_eq_false_iff_ne]
      rintro rfl
      cases hl.symm.trans hc
    rw [List.nil_append, standsAlone, standsAlone, hne, hc]
    rfl
  | cons x before ih =>
    have hhead : (before ++ c :: after).head?.any isWordChar = before.head?.any isWordChar := by
      cases before with
      | nil => exact hc
      | cons y before => rfl
    rw [List.cons_append, standsAlone, standsAlone, ih, hhead, Bool.or_assoc]

theorem stands_alone_behind (hl : isWordChar letter = true) (hc : isWordChar c = false)
    (after : List Char) :
    standsAlone letter inWord (c :: after) = standsAlone letter false after :=
  stands_alone_split hl hc [] after

/-- The characters that join texts make no words. -/
theorem stands_alone_grouped (h : c ∈ letters) (cs after : List Char) :
    standsAlone c inWord ('(' :: (cs ++ ')' :: after)) =
      (standsAlone c false cs || standsAlone c false after) := by
  have hw := word_of_letter h
  rw [stands_alone_behind hw rfl, stands_alone_split hw rfl]

theorem stands_alone_compound (h : c ∈ letters) (op : Connective) (a b : String) :
    standsAlone c false (compound op a b).toList =
      (standsAlone c false a.toList || standsAlone c false b.toList) := by
  obtain ⟨s, hs, hw⟩ : ∃ s, op.symbol.toList = [s] ∧ isWordChar s = false := by
    cases op <;> exact ⟨_, rfl, rfl⟩
  have ht : (compound op a b).toList =
      '(' :: (a.toList ++ ')' :: s :: '(' :: (b.toList ++ [')'])) := by
    simp [compound, grouped, hs]
  rw [ht, stands_alone_grouped h, stands_alone_behind (word_of_letter h) hw,
    stands_alone_grouped h, standsAlone, Bool.or_false]

theorem stands_alone_negated (h : c ∈ letters) (text : String) :
    standsAlone c false (negated text).toList = standsAlone c false text.toList := by
  have ht : (negated text).toList = '¬' :: '(' :: (text.toList ++ [')']) := by
    simp [negated, grouped]
  rw [ht, stands_alone_behind (word_of_letter h) rfl, stands_alone_grouped h, standsAlone,
    Bool.or_false]

theorem mem_vars_compound :
    name ∈ vars (compound op a b) ↔ name ∈ vars a ∨ name ∈ vars b := by
  simp only [mem_vars]
  constructor
  · rintro ⟨c, hc, hs, rfl⟩
    rw [stands_alone_compound hc, Bool.or_eq_true] at hs
    rcases hs with hs | hs
    · exact .inl ⟨c, hc, hs, rfl⟩
    · exact .inr ⟨c, hc, hs, rfl⟩
  · rintro (⟨c, hc, hs, rfl⟩ | ⟨c, hc, hs, rfl⟩)
    · exact ⟨c, hc, by rw [stands_alone_compound hc, hs]; rfl, rfl⟩
    · exact ⟨c, hc, by rw [stands_alone_compound hc, hs, Bool.or_true], rfl⟩

theorem vars_negated (text : String) : vars (negated text) = vars text := by
  unfold vars
  exact congrArg (List.map String.singleton)
    (List.filter_congr (fun c hc => stands_alone_negated hc text))

section
variable [Interpreter]

theorem parse_ne_exhausted (hx : evaluate text a ≠ .error .callsExhausted) :
    parse text ≠ .error .callsExhausted := by
  intro hp
  refine hx ?_
  unfold evaluate
  rw [hp]
  rfl

/-- If the calls suffice for a formula, then they suffice for each part of it. -/
theorem evaluate_part (h : parse part = .ok φ) (hp : parse text = .ok ψ)
    (hx : evaluate text a ≠ .error .callsExhausted) (hle : φ.height ≤ ψ.height) :
    evaluate part a = .ok (φ.holds a.truth) := by
  have hh := Nat.le_trans hle (height_of_evaluate hp hx)
  rw [evaluate_parsed h, if_neg (Nat.not_lt.mpr hh)]

/-- The truth value of a compound is that of its connective for the values of its parts. -/
theorem evaluate_compound (ha : parse a = .ok φ) (hb : parse b = .ok ψ) (hna : nesting a ≤ 49)
    (hnb : nesting b ≤ 49) (hx : evaluate (compound op a b) x ≠ .error .callsExhausted) :
    ∃ l r, evaluate a x = .ok l ∧ evaluate b x = .ok r ∧
      evaluate (compound op a b) x = .ok (op.apply l r) := by
  have hp := parse_compound ha hb hna hnb (parse_ne_exhausted hx)
  refine ⟨φ.holds x.truth, ψ.holds x.truth, ?_, ?_, evaluate_of_parse hp hx⟩
  · refine evaluate_part ha hp hx ?_
    simp only [Formula.height]
    omega
  · refine evaluate_part hb hp hx ?_
    simp only [Formula.height]
    omega

theorem evaluate_negated (h : parse text = .ok φ) (hn : nesting text ≤ 49)
    (hx : evaluate (negated text) x ≠ .error .callsExhausted) :
    evaluate text x = .ok (φ.holds x.truth) ∧
      evaluate (negated text) x = .ok !(φ.holds x.truth) := by
  have hp := parse_negated h hn (parse_ne_exhausted hx)
  exact ⟨evaluate_part h hp hx (Nat.le_succ _), evaluate_of_parse hp hx⟩

end

end Expression

/-- The verdict on the opposite. -/
def Verdict.exchanged : Verdict → Verdict
  | .tautology => .contradiction
  | .contradiction => .tautology
  | .contingency => .contingency

theorem Verdict.Sums.exchanged {verdict : Verdict} (h : verdict.Sums All) :
    verdict.exchanged.Sums (fun b => All !b) := by
  have ht : verdict.exchanged = .tautology ↔ verdict = .contradiction := by
    cases verdict <;> simp [Verdict.exchanged]
  have hc : verdict.exchanged = .contradiction ↔ verdict = .tautology := by
    cases verdict <;> simp [Verdict.exchanged]
  have hn : verdict.exchanged = .contingency ↔ verdict = .contingency := by
    cases verdict <;> simp [Verdict.exchanged]
  exact ⟨ht.trans h.contradiction, hc.trans h.tautology,
    (hn.trans h.contingency).trans and_comm⟩

namespace TruthTable
open Expression (compound negated)

/-- The row with the opposite result. -/
def flipped (row : List Int) : List Int := row.dropLast ++ row.getLast?.toList.map (1 - ·)

theorem flipped_concat (cells : List Int) (result : Int) :
    flipped (cells ++ [result]) = cells ++ [1 - result] := by
  simp [flipped]

theorem inputs_negated (text : String) : inputs (negated text) = inputs text := by
  rw [inputs, inputs, Expression.vars_negated]

section
variable [Interpreter]

theorem digit_negated (h : Expression.parse text = .ok φ) (hn : Expression.nesting text ≤ 49)
    (hx : Expression.evaluate (negated text) x ≠ .error .callsExhausted) :
    Expression.digit (negated text) x = 1 - Expression.digit text x := by
  obtain ⟨hv, hneg⟩ := Expression.evaluate_negated h hn hx
  rw [Expression.digit_of_evaluate hv, Expression.digit_of_evaluate hneg]
  cases φ.holds x.truth <;> rfl

theorem rows_negated (hd : ∀ x, Expression.digit (negated text) x = 1 - Expression.digit text x) :
    (ofExpression (negated text)).rows = (ofExpression text).rows.map flipped := by
  simp only [ofExpression, inputs_negated, Expression.vars_negated, hd, List.map_map,
    Function.comp_def, flipped_concat]

theorem results_negated
    (hd : ∀ x, Expression.digit (negated text) x = 1 - Expression.digit text x) :
    ∃ column, (ofExpression text).results = .ok column ∧
      (ofExpression (negated text)).results = .ok (column.map (1 - ·)) := by
  refine ⟨_, results_of_expression text, ?_⟩
  rw [results_of_expression, assignments, inputs_negated, Expression.vars_negated, ← assignments,
    List.map_map]
  exact congrArg Except.ok (List.map_congr_left (fun x _ => hd x))

theorem verdict_negated (h : Expression.parse text = .ok φ) (hn : Expression.nesting text ≤ 49)
    (hx : ∀ x, Expression.evaluate (negated text) x ≠ .error .callsExhausted) :
    ∃ verdict, (ofExpression text).verdict = .ok verdict ∧
      (ofExpression (negated text)).verdict = .ok verdict.exchanged := by
  have hd : ∀ digits, Expression.digit text (.ofBits (Expression.vars text) digits) =
      if φ.holds (Assignment.ofBits (Expression.vars text) digits).truth then 1 else 0 :=
    fun digits => Expression.digit_of_evaluate (Expression.evaluate_negated h hn (hx _)).1
  have hdn : ∀ digits,
      Expression.digit (negated text) (.ofBits (Expression.vars (negated text)) digits) =
        if !φ.holds (Assignment.ofBits (Expression.vars (negated text)) digits).truth then 1
        else 0 :=
    fun digits => Expression.digit_of_evaluate (Expression.evaluate_negated h hn (hx _)).2
  obtain ⟨v, hv, hs⟩ := verdict_of_digits _ hd
  obtain ⟨w, hw, hs'⟩ := verdict_of_digits _ hdn
  refine ⟨v, hv, ?_⟩
  rw [inputs_negated, Expression.vars_negated] at hs'
  have hopposite : v.exchanged.Sums (fun b => ∀ digits ∈ inputs text,
      (!φ.holds (Assignment.ofBits (Expression.vars text) digits).truth) = b) := by
    refine hs.exchanged.congr (fun b => ?_)
    simp only [Bool.not_eq_eq_eq_not]
  rw [hw, hs'.unique hopposite]

/-- Texts can be put together in parentheses. A compound has the variables of both parts, and its
value is that of its connective for the values of the parts; a negated text has the table with the
opposite results. The parentheses leave room for 49 inside of them. -/
theorem of_compound (a b : String) :
    (∀ op, Expression.vars (compound op a b) = (letters.map String.singleton).filter
      (fun name => name ∈ Expression.vars a ∨ name ∈ Expression.vars b)) ∧
    (∀ φ ψ, Expression.parse a = .ok φ → Expression.parse b = .ok ψ →
      Expression.nesting a ≤ 49 → Expression.nesting b ≤ 49 →
      ∀ op x, Expression.evaluate (compound op a b) x ≠ .error .callsExhausted →
        (∃ l r, Expression.evaluate a x = .ok l ∧ Expression.evaluate b x = .ok r ∧
          Expression.evaluate (compound op a b) x = .ok (op.apply l r)) ∧
        Expression.digit (compound op a b) x =
          if op.apply (Expression.digit a x = 1) (Expression.digit b x = 1) then 1 else 0) ∧
    ∀ φ, Expression.parse a = .ok φ → Expression.nesting a ≤ 49 →
      (∀ x, Expression.evaluate (negated a) x ≠ .error .callsExhausted) →
      (ofExpression (negated a)).vars = (ofExpression a).vars ∧
      (ofExpression (negated a)).rows = (ofExpression a).rows.map flipped ∧
      (∃ column, (ofExpression a).results = .ok column ∧
        (ofExpression (negated a)).results = .ok (column.map (1 - ·))) ∧
      ∃ verdict, (ofExpression a).verdict = .ok verdict ∧
        (ofExpression (negated a)).verdict = .ok verdict.exchanged := by
  refine ⟨?_, ?_, ?_⟩
  · intro op
    rw [Expression.vars_eq_filter]
    simp only [Expression.mem_vars_compound]
  · intro φ ψ ha hb hna hnb op x hx
    obtain ⟨l, r, hl, hr, hc⟩ := Expression.evaluate_compound ha hb hna hnb hx
    refine ⟨⟨l, r, hl, hr, hc⟩, ?_⟩
    rw [Expression.digit_of_evaluate hl, Expression.digit_of_evaluate hr,
      Expression.digit_of_evaluate hc]
    cases l <;> cases r <;> rfl
  · intro φ h hn hx
    have hd := fun x => digit_negated h hn (hx x)
    exact ⟨Expression.vars_negated a, rows_negated hd, results_negated hd,
      verdict_negated h hn hx⟩

end

theorem of_compound_foreign :
    (Expression.parse "p → q" = .ok (.binary .implies (.atom "p") (.atom "q")) ∧
      Expression.parse "(pa ∨ @r)" = .ok (.binary .or (.atom "p") (.atom "r")) ∧
      Expression.nesting "p → q" ≤ 49 ∧ Expression.nesting "(pa ∨ @r)" ≤ 49 ∧
      compound .and "p → q" "(pa ∨ @r)" = "(p → q)∧((pa ∨ @r))" ∧
      Expression.evaluate "(p → q)∧((pa ∨ @r))" [("r", .bool true)] ≠
        .error .callsExhausted ∧
      Expression.digit "(p → q)∧((pa ∨ @r))" [("r", .bool true)] = 1) ∧
    negated "p → q" = "¬(p → q)" ∧
    (∀ x, Expression.evaluate "¬(p → q)" x ≠ .error .callsExhausted) ∧
    (ofExpression "¬(p → q)").rows = (ofExpression "p → q").rows.map flipped ∧
    (ofExpression "¬(p → q)").verdict = .ok .contingency := by
  have ha : Expression.parse "p → q" = .ok (.binary .implies (.atom "p") (.atom "q")) := rfl
  have hb : Expression.parse "(pa ∨ @r)" = .ok (.binary .or (.atom "p") (.atom "r")) := rfl
  have hna : Expression.nesting "p → q" ≤ 49 := by decide
  have hnb : Expression.nesting "(pa ∨ @r)" ≤ 49 := by decide
  have hc : compound .and "p → q" "(pa ∨ @r)" = "(p → q)∧((pa ∨ @r))" := rfl
  have hn : negated "p → q" = "¬(p → q)" := rfl
  have hx : Expression.evaluate "(p → q)∧((pa ∨ @r))" [("r", .bool true)] ≠
      .error .callsExhausted := by
    have hev : Expression.evaluate "(p → q)∧((pa ∨ @r))" [("r", .bool true)] = .ok true := rfl
    rw [hev]
    simp
  have hxn : ∀ x, Expression.evaluate "¬(p → q)" x ≠ .error .callsExhausted := by
    have hp : Expression.parse "¬(p → q)" =
        .ok (.neg (.binary .implies (.atom "p") (.atom "q"))) := rfl
    intro x
    rw [Expression.evaluate_parsed hp, if_neg (by decide)]
    simp
  obtain ⟨_, hcompound, hnegated⟩ := of_compound "p → q" "(pa ∨ @r)"
  rw [← hc] at hx ⊢
  rw [← hn] at hxn ⊢
  obtain ⟨_, hdigit⟩ := hcompound _ _ ha hb hna hnb .and _ hx
  obtain ⟨_, hrows, _, v, hv, hverdict⟩ := hnegated _ ha hna hxn
  have hcontingent : (ofExpression "p → q").verdict = .ok .contingency := rfl
  cases hcontingent.symm.trans hv
  exact ⟨⟨ha, hb, hna, hnb, rfl, hx, hdigit⟩, rfl, hxn, hrows, hverdict⟩

end TruthTable

end Propositional
