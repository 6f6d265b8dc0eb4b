import Propositional.Proofs.Columns

namespace Propositional

/-- What is read keeps all symbols of the text in their order, parentheses aside, and its atoms are
the letters of the text in the order of their first occurrence. -/
theorem Expression.parse_keeps_symbols [Interpreter] (h : parse text = .ok φ) :
    bare (Token.scan φ.render) = bare (Token.scan text) ∧
    φ.atoms = (letterTexts (Token.scan text)).eraseDups := by
  have hd := Formula.derives_of_tokens h
  refine ⟨?_, ?_⟩
  · rw [Formula.scan_render (lettered_of_parse h), hd.bare_tokens]
  · rw [Formula.atoms, Tree.atoms_eq, hd.leaves]

theorem Expression.parse_keeps_symbols_regrouped :
    parse "q → (p) x ∧ ¬(r ∨ q) ↔ p" = .ok (.binary .iff
      (.binary .implies (.atom "q")
        (.binary .and (.atom "p") (.neg (.binary .or (.atom "r") (.atom "q")))))
      (.atom "p")) ∧
    bare (Token.scan "((q → (p ∧ ¬(r ∨ q))) ↔ p)") =
      bare (Token.scan "q → (p) x ∧ ¬(r ∨ q) ↔ p") ∧
    (Formula.binary .iff
      (.binary .implies (.atom "q")
        (.binary .and (.atom "p") (.neg (.binary .or (.atom "r") (.atom "q")))))
      (.atom "p")).atoms = ["q", "p", "r"] := by
  have hp : parse "q → (p) x ∧ ¬(r ∨ q) ↔ p" = .ok (.binary .iff
      (.binary .implies (.atom "q")
        (.binary .and (.atom "p") (.neg (.binary .or (.atom "r") (.atom "q")))))
      (.atom "p")) := rfl
  obtain ⟨hsymbols, hatoms⟩ := parse_keeps_symbols hp
  exact ⟨hp, hsymbols, hatoms⟩

theorem Connective.symbol_cancel {op op' : Connective}
    (h : op.symbol.toList ++ xs = op'.symbol.toList ++ ys) : op = op' ∧ xs = ys := by
  cases op <;> cases op' <;> simp_all [symbol]

theorem letter_ne_mark (h : c ∈ letters) : c ≠ '¬' ∧ c ≠ '(' := by
  have hall : ∀ c ∈ letters, c ≠ '¬' ∧ c ≠ '(' := by simp [letters]
  exact hall c h

namespace Formula

theorem render_atom_chars (c : Char) : (atom (String.singleton c)).render.toList = [c] := by
  simp [render]

theorem render_neg_chars (operand : Formula) :
    (neg operand).render.toList = '¬' :: operand.render.toList := by
  simp [render]

theorem render_binary_chars (op : Connective) (left right : Formula) :
    (binary op left right).render.toList =
      '(' :: (left.render.toList ++
        ' ' :: (op.symbol.toList ++ ' ' :: (right.render.toList ++ [')']))) := by
  simp [render]

/-- A text begins with the rendering of one formula at most, which ends at one place. -/
theorem render_cancel {φ ψ : Formula} (hφ : φ.Lettered) (hψ : ψ.Lettered)
    (h : φ.render.toList ++ xs = ψ.render.toList ++ ys) : φ = ψ ∧ xs = ys := by
  -- The first character tells the kind of node. In a binary one the left operand has to end at one
  -- place for the connectives to meet, hence what stands behind is general.
  induction φ generalizing ψ xs ys with
  | atom name =>
    obtain ⟨c, hc, rfl⟩ := hφ
    obtain ⟨hneg, hopening⟩ := letter_ne_mark hc
    cases ψ with
    | atom name' =>
      obtain ⟨c', _, rfl⟩ := hψ
      simpa [render_atom_chars] using h
    | neg operand' => simp [render_atom_chars, render_neg_chars, hneg] at h
    | binary op' left' right' =>
      simp [render_atom_chars, render_binary_chars, hopening] at h
  | neg operand ih =>
    cases ψ with
    | atom name' =>
      obtain ⟨c', hc', rfl⟩ := hψ
      simp [render_atom_chars, render_neg_chars, (letter_ne_mark hc').1.symm] at h
    | neg operand' =>
      have hψ : operand'.Lettered := hψ
      simp only [render_neg_chars, List.cons_append, List.cons.injEq, true_and] at h
      obtain ⟨rfl, rfl⟩ := ih hφ hψ h
      exact ⟨rfl, rfl⟩
    | binary op' left' right' => simp [render_neg_chars, render_binary_chars] at h
  | binary op left right ihl ihr =>
    cases ψ with
    | atom name' =>
      obtain ⟨c', hc', rfl⟩ := hψ
      simp [render_atom_chars, render_binary_chars, (letter_ne_mark hc').2.symm] at h
    | neg operand' => simp [render_neg_chars, render_binary_chars] at h
    | binary op' left' right' =>
      simp only [render_binary_chars, List.cons_append, List.append_assoc, List.cons.injEq,
        true_and] at h
      obtain ⟨rfl, hbehind⟩ := ihl hφ.1 hψ.1 h
      obtain ⟨rfl, hright⟩ := Connective.symbol_cancel (List.cons.inj hbehind).2
      obtain ⟨rfl, hend⟩ := ihr hφ.2 hψ.2 (List.cons.inj hright).2
      exact ⟨rfl, (List.cons.inj hend).2⟩

/-- With as many levels as one of them is high two formulas can be compared. -/
theorem same_within_eq {φ ψ : Formula} (h : φ.height ≤ levels) :
    sameWithin levels φ ψ = some (decide (φ = ψ)) := by
  induction levels generalizing φ ψ with
  | zero => cases φ <;> simp [height] at h
  | succ levels ih =>
    cases φ with
    | atom name => cases ψ <;> simp [sameWithin, Bool.beq_eq_decide_eq]
    | neg operand =>
      have ho : operand.height ≤ levels := by simpa [height] using h
      cases ψ <;> simp [sameWithin, ih ho]
    | binary op left right =>
      have hlr : left.height ≤ levels ∧ right.height ≤ levels := by
        simpa [height, Nat.max_le] using h
      cases ψ with
      | atom | neg => simp [sameWithin]
      | binary op' left' right' =>
        simp only [sameWithin, ih hlr.1, ih hlr.2]
        by_cases ho : op = op' <;> by_cases hl : left = left' <;> simp [ho, hl]

theorem shown_iff [Interpreter] {φ : Formula} :
    φ.render? = some shown ↔ φ.height ≤ Interpreter.maxHeight ∧ φ.render = shown := by
  by_cases hh : φ.height ≤ Interpreter.maxHeight <;> simp [render?, hh]

/-- A rendering tells which formula it is of, and none goes on as another one. For formulas that
can be shown the comparison finds the same. -/
theorem render_identifies [Interpreter] {φ ψ : Formula} (hφ : φ.Lettered) (hψ : ψ.Lettered) :
    (φ.render = ψ.render ↔ φ = ψ) ∧
    (∀ rest, ψ.render = φ.render ++ rest → rest = "") ∧
    ∀ a b, φ.render? = some a → ψ.render? = some b →
      (a = b ↔ φ.same? ψ = some true) := by
  have hiff : φ.render = ψ.render ↔ φ = ψ := by
    constructor
    · intro h
      exact (render_cancel hφ hψ (congrArg (fun s => s.toList ++ []) h)).1
    · exact congrArg render
  refine ⟨hiff, ?_, ?_⟩
  · intro rest h
    have hchars : φ.render.toList ++ rest.toList = ψ.render.toList ++ [] := by simp [h]
    exact String.toList_eq_nil_iff.mp (render_cancel hφ hψ hchars).2
  · intro a b ha hb
    obtain ⟨hheight, rfl⟩ := shown_iff.mp ha
    obtain ⟨_, rfl⟩ := shown_iff.mp hb
    rw [hiff, same?, same_within_eq hheight]
    simp

theorem render_identifies_grouping :
    (binary .or (binary .and (atom "p") (atom "q")) (atom "r")).Lettered ∧
    (binary .and (atom "p") (binary .or (atom "q") (atom "r"))).Lettered ∧
    "((p ∧ q) ∨ r)" ≠ "(p ∧ (q ∨ r))" ∧
    ∀ rest, "(p ∧ (q ∨ r))" = "((p ∧ q) ∨ r)" ++ rest → rest = "" := by
  have hp : Expression.parse "p ∧ q ∨ r" =
      .ok (binary .or (binary .and (atom "p") (atom "q")) (atom "r")) := rfl
  have hq : Expression.parse "p ∧ (q ∨ r)" =
      .ok (binary .and (atom "p") (binary .or (atom "q") (atom "r"))) := rfl
  have hφ := Expression.lettered_of_parse hp
  have hψ := Expression.lettered_of_parse hq
  obtain ⟨hiff, hrest, _⟩ := render_identifies hφ hψ
  refine ⟨hφ, hψ, fun he => ?_, hrest⟩
  cases hiff.mp he

end Formula

end Propositional
