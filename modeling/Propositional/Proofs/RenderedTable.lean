import Propositional.Proofs.Alphabet
import Propositional.Proofs.Rendering

namespace Propositional

namespace Expression

/-- Nothing in the text makes words but the letters. -/
def LetterWords (text : String) : Prop :=
  ∀ c ∈ text.toList, isWordChar c = true → c ∈ letters

theorem LetterWords.append (ha : LetterWords a) (hb : LetterWords b) : LetterWords (a ++ b) := by
  intro c hc hw
  rw [String.toList_append] at hc
  rcases List.mem_append.mp hc with hc | hc
  · exact ha c hc hw
  · exact hb c hc hw

theorem letter_words_of_marks (h : text.toList.all (!isWordChar ·) = true) :
    LetterWords text := by
  intro c hc hw
  have hn := List.all_eq_true.mp h c hc
  rw [hw] at hn
  cases hn

end Expression

namespace Formula
open Expression (LetterWords letter_words_of_marks)

theorem Lettered.letter_words {φ : Formula} (h : φ.Lettered) : LetterWords φ.render := by
  induction φ with
  | atom name =>
    obtain ⟨c, hc, rfl⟩ := h
    intro c' hc' _
    rw [render, String.toList_singleton, List.mem_singleton] at hc'
    exact hc' ▸ hc
  | neg operand ih =>
    have hneg : LetterWords "¬" := letter_words_of_marks rfl
    exact hneg.append (ih h)
  | binary op left right ihl ihr =>
    have hopen : LetterWords "(" := letter_words_of_marks rfl
    have hspace : LetterWords " " := letter_words_of_marks rfl
    have hclose : LetterWords ")" := letter_words_of_marks rfl
    have hop : LetterWords op.symbol := by
      cases op <;> exact letter_words_of_marks rfl
    have hleft := ((hopen.append (ihl h.1)).append hspace).append hop
    exact ((hleft.append hspace).append (ihr h.2)).append hclose

end Formula

namespace Expression

theorem parse_of_render [Interpreter] (h : φ.Lettered) (hb : φ.binaryHeight ≤ 50)
    (hx : parse φ.render ≠ .error .callsExhausted) : parse φ.render = .ok φ := by
  rw [parse, Formula.scan_render h] at hx ⊢
  exact φ.of_tokens_tokens hx hb

/-- Every atom of a formula is a word of its rendering. -/
theorem mem_vars_render [Interpreter] (h : φ.Lettered) (hp : parse φ.render = .ok φ) :
    name ∈ vars φ.render ↔ name ∈ φ.atoms :=
  ⟨atom_of_vars hp, vars_of_atom hp h.letter_words⟩

end Expression

namespace TruthTable

/-- A formula all of whose atoms have columns is summed up over all assignments. -/
theorem verdict_sums_all [Interpreter] (hp : Expression.parse text = .ok φ)
    (hx : ∀ a, Expression.evaluate text a ≠ .error .callsExhausted)
    (hatoms : ∀ name ∈ φ.atoms, name ∈ Expression.vars text) :
    ∃ verdict, (ofExpression text).verdict = .ok verdict ∧
      verdict.Sums (fun b => ∀ a, φ.toTree.evaluate a = .ok b) := by
  have hrep : ∀ a : Assignment, True → ∃ digits ∈ inputs text,
      φ.holds (Assignment.ofBits (Expression.vars text) digits).truth = φ.holds a.truth :=
    fun a _ => holds_row a φ (fun name hm hn => absurd (hatoms name (Tree.mem_atoms.mpr hm)) hn)
  obtain ⟨v, hv, hs⟩ := verdict_sums hp hx (fun _ => trivial) hrep
  exact ⟨v, hv, hs.congr (fun b => forall_congr' (fun a => forall_const True))⟩

/-- The rendering of a formula, as it is shown beside its table, has itself a table of all the atoms
of the formula and the verdict on it. This is the table of the text that the formula comes from,
unless an atom has no column there. -/
theorem of_render [Interpreter] (h : Expression.parse text = .ok φ) (hb : φ.binaryHeight ≤ 50)
    (hx : Expression.parse φ.render ≠ .error .callsExhausted) :
    (ofExpression φ.render).vars = (letters.map String.singleton).filter (· ∈ φ.atoms) ∧
    ((∀ a, Expression.evaluate φ.render a ≠ .error .callsExhausted) →
      ∃ verdict, (ofExpression φ.render).verdict = .ok verdict ∧
        verdict.Sums (fun b => ∀ a, φ.toTree.evaluate a = .ok b)) ∧
    ((∀ name, name ∈ φ.atoms ↔ name ∈ Expression.vars text) →
      ofExpression φ.render = ofExpression text) := by
  have hφ : φ.Lettered := Expression.lettered_of_parse h
  have hp := Expression.parse_of_render hφ hb hx
  have hmem : ∀ name, name ∈ Expression.vars φ.render ↔ name ∈ φ.atoms :=
    fun name => Expression.mem_vars_render hφ hp
  refine ⟨?_, ?_, ?_⟩
  · refine (Expression.vars_eq_filter φ.render).trans ?_
    simp only [hmem]
  · exact fun hev => verdict_sums_all hp hev (fun name => (hmem name).mpr)
  · intro hsame
    refine of_expression_congr ?_ (hp.trans h.symm)
    rw [Expression.vars_eq_filter φ.render, Expression.vars_eq_filter text]
    simp only [hmem, hsame]

theorem of_render_grouping :
    Expression.parse "q→¬(p)∧q" = .ok (.binary .implies (.atom "q")
      (.binary .and (.neg (.atom "p")) (.atom "q"))) ∧
    (Formula.binary .implies (.atom "q") (.binary .and (.neg (.atom "p")) (.atom "q"))).render =
      "(q → (¬p ∧ q))" ∧
    Expression.parse "(q → (¬p ∧ q))" ≠ .error .callsExhausted ∧
    (∀ a, Expression.evaluate "(q → (¬p ∧ q))" a ≠ .error .callsExhausted) ∧
    (ofExpression "(q → (¬p ∧ q))").vars = ["p", "q"] ∧
    (ofExpression "(q → (¬p ∧ q))").verdict = .ok .contingency ∧
    ofExpression "(q → (¬p ∧ q))" = ofExpression "q→¬(p)∧q" := by
  have h : Expression.parse "q→¬(p)∧q" = .ok (.binary .implies (.atom "q")
      (.binary .and (.neg (.atom "p")) (.atom "q"))) := rfl
  have hp : Expression.parse "(q → (¬p ∧ q))" = .ok (.binary .implies (.atom "q")
      (.binary .and (.neg (.atom "p")) (.atom "q"))) := rfl
  have hr : (Formula.binary .implies (.atom "q")
      (.binary .and (.neg (.atom "p")) (.atom "q"))).render = "(q → (¬p ∧ q))" := rfl
  have ha : (Formula.binary .implies (.atom "q")
      (.binary .and (.neg (.atom "p")) (.atom "q"))).atoms = ["q", "p"] := by cbv
  have hv : Expression.vars "q→¬(p)∧q" = ["p", "q"] := rfl
  have hx : Expression.parse "(q → (¬p ∧ q))" ≠ .error .callsExhausted := by
    rw [hp]
    simp
  have hev : ∀ a, Expression.evaluate "(q → (¬p ∧ q))" a ≠ .error .callsExhausted := by
    intro a
    rw [Expression.evaluate_parsed hp, if_neg (by decide)]
    simp
  obtain ⟨hvars, hverdict, htable⟩ := of_render h (by decide) (by rwa [hr])
  rw [hr, ha] at hvars
  rw [hr] at hverdict htable
  obtain ⟨v, hv', hs⟩ := hverdict hev
  refine ⟨h, hr, hx, hev, hvars, ?_, htable ?_⟩
  · have htrue : ¬∀ a, (Formula.binary .implies (.atom "q")
        (.binary .and (.neg (.atom "p")) (.atom "q"))).toTree.evaluate a = .ok true :=
      fun hall => by cases hall [("p", .bool true), ("q", .bool true)]
    have hfalse : ¬∀ a, (Formula.binary .implies (.atom "q")
        (.binary .and (.neg (.atom "p")) (.atom "q"))).toTree.evaluate a = .ok false :=
      fun hall => by cases hall []
    rw [hv', hs.contingency.mpr ⟨htrue, hfalse⟩]
  · rw [ha, hv]
    simp [or_comm]

end TruthTable

end Propositional
