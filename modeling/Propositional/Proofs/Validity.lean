import Propositional.Proofs.Atoms
import Propositional.Proofs.Bits

namespace Propositional

/-- The verdict on some truth values, where `All b` says that every one of them is `b`. -/
structure Verdict.Sums (verdict : Verdict) (All : Bool → Prop) : Prop where
  tautology : verdict = .tautology ↔ All true
  contradiction : verdict = .contradiction ↔ All false
  contingency : verdict = .contingency ↔ ¬All true ∧ ¬All false

theorem Verdict.Sums.congr {verdict : Verdict} (h : verdict.Sums All) (he : ∀ b, All b ↔ All' b) :
    verdict.Sums All' := by
  rw [show All' = All from funext (fun b => propext (he b).symm)]
  exact h

theorem Verdict.Sums.unique {verdict verdict' : Verdict} (h : verdict.Sums All)
    (h' : verdict'.Sums All) : verdict = verdict' := by
  cases verdict with
  | tautology => exact (h'.tautology.mpr (h.tautology.mp rfl)).symm
  | contradiction => exact (h'.contradiction.mpr (h.contradiction.mp rfl)).symm
  | contingency => exact (h'.contingency.mpr (h.contingency.mp rfl)).symm

theorem Verdict.of_column_digits (t : α → Bool) {rows : List α} (hne : rows ≠ []) :
    ∃ verdict, ofColumn (1 : Int) (rows.map (fun r => if t r then 1 else 0)) = some verdict ∧
      verdict.Sums (fun b => ∀ r ∈ rows, t r = b) := by
  obtain ⟨r, rs, rfl⟩ := List.exists_cons_of_ne_nil hne
  have hsame : (rs.map (fun s => if t s then (1 : Int) else 0)).all
      (· = if t r then (1 : Int) else 0) = true ↔ ∀ s ∈ rs, t s = t r := by
    rw [List.all_map, List.all_eq_true]
    refine forall_congr' (fun s => imp_congr_right (fun _ => ?_))
    cases hs : t s <;> cases hr : t r <;> simp [hs]
  by_cases hs : ∀ s ∈ rs, t s = t r
  · refine ⟨if t r then .tautology else .contradiction, ?_, ?_⟩
    · rw [List.map_cons, ofColumn, if_pos (hsame.mpr hs)]
      cases t r <;> rfl
    have hall : ∀ b, (∀ s ∈ r :: rs, t s = b) ↔ t r = b := by
      intro b
      constructor
      · exact fun h => h r List.mem_cons_self
      · intro hr s hm
        rcases List.mem_cons.mp hm with rfl | hm
        · exact hr
        · exact (hs s hm).trans hr
    refine Sums.congr ?_ (fun b => (hall b).symm)
    cases t r <;> constructor <;> simp
  · refine ⟨.contingency, ?_, ?_⟩
    · rw [List.map_cons, ofColumn, if_neg (fun h => hs (hsame.mp h))]
    have hnone : ∀ b, ¬∀ s ∈ r :: rs, t s = b := by
      intro b h
      refine hs (fun s hm => ?_)
      rw [h s (List.mem_cons_of_mem _ hm), h r List.mem_cons_self]
    refine ⟨?_, ?_, ⟨fun _ => ⟨hnone true, hnone false⟩, fun _ => rfl⟩⟩
    · simpa using hnone true
    · simpa using hnone false

namespace TruthTable

/-- The last cells of rows that are made of some digits and a result. -/
theorem results_of_rows (vars : List String) (rows : List α) (digits : α → List Int)
    (result : α → Int) :
    (TruthTable.mk vars (rows.map (fun r => digits r ++ [result r]))).results =
      .ok (rows.map result) := by
  unfold results
  induction rows with
  | nil => rfl
  | cons r rows ih =>
    dsimp only at ih ⊢
    rw [List.map_cons, List.mapM_cons, ih, List.getLast?_append]
    rfl

theorem inputs_ne_nil (text : String) : inputs text ≠ [] := by
  apply List.ne_nil_of_length_pos
  rw [length_inputs]
  exact Nat.two_pow_pos _

end TruthTable

namespace Assignment

/-- The assignment of the digits that another assignment gives to some names. -/
theorem of_bits_digits (a : Assignment) (names : List String) :
    ofBits names (names.map (fun n => (a.truth n).toNat)) =
      names.map (fun n => (n, .bool (a.truth n))) := by
  have hb : ∀ b : Bool, (b.toNat == 1) = b := by decide
  have hz : (names.map (fun n => n)).zip (names.map (fun n => .bool (a.truth n))) =
      (names.map (fun n => (n, .bool (a.truth n))) : Assignment) := List.zip_map'
  simpa only [ofBits, List.map_map, List.map_id', Function.comp_def, hb] using hz

theorem truth_graph (f : String → Bool) (names : List String) (name : String) :
    truth (names.map (fun n => (n, .bool (f n)))) name = (decide (name ∈ names) && f name) := by
  induction names with
  | nil => rfl
  | cons n names ih =>
    unfold truth at ih ⊢
    rw [List.map_cons, List.lookup_cons]
    by_cases he : name = n
    · subst he
      simp [Json.Value.truthy]
    · rw [beq_false_of_ne he, ih]
      simp [he]

/-- A name that has no digit is false. -/
theorem truth_of_bits (h : name ∉ names) : truth (ofBits names digits) name = false := by
  have hn : (ofBits names digits).lookup name = none := by
    rw [List.lookup_eq_none_iff]
    rintro ⟨n, v⟩ hm
    have := (List.of_mem_zip hm).1
    simp only [bne_iff_ne]
    rintro rfl
    exact h this
  rw [truth, hn]
  rfl

end Assignment

section
variable [Interpreter]

/-- A formula that is higher than there are calls has no truth value. -/
theorem Expression.evaluate_parsed (hp : parse text = .ok φ) (a : Assignment) :
    evaluate text a =
      if callLimit < φ.height then .error .callsExhausted else .ok (φ.holds a.truth) := by
  unfold evaluate
  rw [hp]
  simp only [bind, Except.bind]
  split <;> rfl

theorem Expression.height_of_evaluate (hp : parse text = .ok φ)
    (hx : evaluate text a ≠ .error .callsExhausted) : φ.height ≤ callLimit := by
  rw [evaluate_parsed hp] at hx
  refine Nat.le_of_not_lt (fun hh => hx ?_)
  rw [if_pos hh]

/-- The truth value of a text that has one. -/
theorem Expression.evaluate_of_parse (hp : parse text = .ok φ)
    (hx : evaluate text a ≠ .error .callsExhausted) : evaluate text a = .ok (φ.holds a.truth) := by
  rw [evaluate_parsed hp, if_neg (Nat.not_lt.mpr (height_of_evaluate hp hx))]

theorem Expression.digit_of_evaluate (h : evaluate text a = .ok b) :
    digit text a = if b then 1 else 0 := by
  unfold digit
  rw [h]
  cases b <;> rfl

theorem Expression.digit_of_parse (hp : parse text = .ok φ)
    (hx : evaluate text a ≠ .error .callsExhausted) :
    digit text a = if φ.holds a.truth then 1 else 0 :=
  digit_of_evaluate (evaluate_of_parse hp hx)

end

namespace TruthTable

theorem verdict_of_digits [Interpreter] (t : List Nat → Bool)
    (hd : ∀ digits, Expression.digit text (.ofBits (Expression.vars text) digits) =
      if t digits then 1 else 0) :
    ∃ verdict, (ofExpression text).verdict = .ok verdict ∧
      verdict.Sums (fun b => ∀ digits ∈ inputs text, t digits = b) := by
  obtain ⟨v, hv, hs⟩ := Verdict.of_column_digits t (inputs_ne_nil text)
  refine ⟨v, ?_, hs⟩
  have hr : (ofExpression text).results =
      .ok ((inputs text).map (fun digits => if t digits then 1 else 0)) := by
    simp only [ofExpression, results_of_rows, hd]
  rw [TruthTable.verdict, hr]
  simp only [bind, Except.bind, hv]
  rfl

/-- The table of a text that has truth values sums them up, for any class of assignments that the
rows belong to and represent. -/
theorem verdict_sums [Interpreter] {P : Assignment → Prop} (hp : Expression.parse text = .ok φ)
    (hx : ∀ a, Expression.evaluate text a ≠ .error .callsExhausted)
    (hrow : ∀ digits, P (.ofBits (Expression.vars text) digits))
    (hrep : ∀ a, P a → ∃ digits ∈ inputs text,
      φ.holds (Assignment.ofBits (Expression.vars text) digits).truth = φ.holds a.truth) :
    ∃ verdict, (ofExpression text).verdict = .ok verdict ∧
      verdict.Sums (fun b => ∀ a, P a → φ.toTree.evaluate a = .ok b) := by
  obtain ⟨v, hv, hs⟩ := verdict_of_digits
    (fun digits => φ.holds (Assignment.ofBits (Expression.vars text) digits).truth)
    (fun digits => Expression.digit_of_parse hp (hx _))
  refine ⟨v, hv, hs.congr ?_⟩
  intro b
  simp only [Formula.evaluate_tree, Except.ok.injEq]
  constructor
  · intro h a ha
    obtain ⟨digits, hm, he⟩ := hrep a ha
    rw [← he]
    exact h digits hm
  · intro h digits _
    exact h _ (hrow digits)

/-- The digits of an assignment stand in some row. -/
theorem digits_mem_inputs (text : String) (a : Assignment) :
    (Expression.vars text).map (fun n => (a.truth n).toNat) ∈ inputs text := by
  refine mem_inputs.mpr ⟨List.length_map _, ?_⟩
  intro b hb
  obtain ⟨n, _, rfl⟩ := List.mem_map.mp hb
  exact Bool.toNat_le _

theorem holds_row (a : Assignment) (φ : Formula)
    (h : ∀ name ∈ φ.toTree.leaves, name ∉ Expression.vars text → a.truth name = false) :
    ∃ digits ∈ inputs text,
      φ.holds (Assignment.ofBits (Expression.vars text) digits).truth = φ.holds a.truth := by
  refine ⟨_, digits_mem_inputs text a, Formula.holds_congr ?_⟩
  intro name hm
  rw [Assignment.of_bits_digits, Assignment.truth_graph]
  by_cases hv : name ∈ Expression.vars text
  · simp [hv]
  · simp [hv, h name hm hv]

/-- The verdict on a text is right for the formula it is parsed to: under all assignments that
leave out the letters without a column, and under all assignments whatever if every atom has a
column. A text that is no formula is contradictory. -/
theorem verdict_semantics [Interpreter] (text : String) :
    (∀ φ, Expression.parse text = .ok φ →
      (∀ a, Expression.evaluate text a ≠ .error .callsExhausted) →
      ∃ verdict, (ofExpression text).verdict = .ok verdict ∧
        verdict.Sums (fun b => ∀ a : Assignment,
          (∀ c ∈ letters, String.singleton c ∉ Expression.vars text →
            a.truth (String.singleton c) = false) → φ.toTree.evaluate a = .ok b) ∧
        ((∀ name ∈ φ.atoms, name ∈ Expression.vars text) →
          verdict.Sums (fun b => ∀ a, φ.toTree.evaluate a = .ok b))) ∧
    ∀ e, Expression.parse text = .error e → (ofExpression text).verdict = .ok .contradiction := by
  refine ⟨?_, ?_⟩
  · intro φ hp hx
    have hleaf : ∀ a : Assignment, (∀ c ∈ letters, String.singleton c ∉ Expression.vars text →
        a.truth (String.singleton c) = false) → ∀ name ∈ φ.toTree.leaves,
        name ∉ Expression.vars text → a.truth name = false := by
      intro a ha name hm hn
      obtain ⟨c, hc, rfl⟩ := (Expression.lettered_of_parse hp).leaf hm
      exact ha c hc hn
    obtain ⟨v, hv, hs⟩ := verdict_sums hp hx (fun _ _ _ hn => Assignment.truth_of_bits hn)
      (fun a ha => holds_row a φ (hleaf a ha))
    refine ⟨v, hv, hs, ?_⟩
    intro hatoms
    have hcolumn : ∀ a : Assignment, ∀ name ∈ φ.toTree.leaves, name ∉ Expression.vars text →
        a.truth name = false :=
      fun a name hm hn => absurd (hatoms name (Tree.mem_atoms.mpr hm)) hn
    obtain ⟨w, hw, hs'⟩ := verdict_sums (P := fun _ => True) hp hx (fun _ => trivial)
      (fun a _ => holds_row a φ (hcolumn a))
    cases hv.symm.trans hw
    simpa using hs'
  · intro e he
    have hd : ∀ a, Expression.digit text a = if false then 1 else 0 := by
      intro a
      have hev : Expression.evaluate text a = .error e := by rw [Expression.evaluate, he]; rfl
      unfold Expression.digit
      rw [hev]
      rfl
    obtain ⟨v, hv, hs⟩ := verdict_of_digits (fun _ => false) (fun _ => hd _)
    rw [hv, hs.contradiction.mpr (fun _ _ => rfl)]

theorem verdict_semantics_hidden_letter :
    Expression.parse "pa ∧ q" = .ok (.binary .and (.atom "p") (.atom "q")) ∧
    Expression.vars "pa ∧ q" = ["q"] ∧
    (∀ a, Expression.evaluate "pa ∧ q" a ≠ .error .callsExhausted) ∧
    (ofExpression "pa ∧ q").verdict = .ok .contradiction := by
  have hp : Expression.parse "pa ∧ q" = .ok (.binary .and (.atom "p") (.atom "q")) := rfl
  have hv : Expression.vars "pa ∧ q" = ["q"] := rfl
  have hx : ∀ a, Expression.evaluate "pa ∧ q" a ≠ .error .callsExhausted := by
    intro a h
    rw [Expression.evaluate, hp] at h
    cases h
  refine ⟨hp, hv, hx, ?_⟩
  obtain ⟨v, hverdict, hs, _⟩ := (verdict_semantics "pa ∧ q").1 _ hp hx
  rw [hverdict, hs.contradiction.mpr]
  intro a ha
  have hfalse : a.truth "p" = false := ha 'p' (by decide) (by rw [hv]; decide)
  rw [Formula.evaluate_tree]
  simp [Formula.holds, Connective.apply, hfalse]

end TruthTable

end Propositional
