import Mathlib.Data.List.Induction
import Propositional.Proofs.Letters

namespace Propositional

namespace Tree

/-- The names of the atoms from left to right, as often as they occur. -/
def leaves : Tree → List String
  | .atom name => [name]
  | .neg operand => operand.leaves
  | .binary _ left right => left.leaves ++ right.leaves
  | .foreign _ _ => []
  | .value _ => []

/-- Names are kept at the place of their first occurrence. -/
def note (seen : List String) (name : String) : List String :=
  if name ∈ seen then seen else seen ++ [name]

/-- To keep each name at the place of its first occurrence is to erase the later ones. -/
theorem noted_eq (names : List String) : names.foldl note [] = names.eraseDups := by
  -- From the right, since whether a name is kept is decided by what stands before it.
  induction names using List.reverseRecOn with
  | nil => rfl
  | append_singleton names name ih =>
    have hm : name ∈ names.eraseDups ↔ name ∈ names := List.mem_eraseDups
    rw [List.foldl_append, ih, List.eraseDups_append]
    by_cases hn : name ∈ names <;> simp [note, List.removeAll, List.eraseDups_cons, hm, hn]

/-- The stack of trees still to visit stands for the leaves still to come. -/
theorem collect_eq_noted (stack : List Tree) (seen : List String) :
    collect stack seen = (stack.flatMap leaves).foldl note seen := by
  induction stack, seen using collect.induct with
  | case1 seen => simp [collect]
  | case2 name rest seen ih => simpa [collect, leaves, note] using ih
  | case3 operand rest seen ih => simpa [collect, leaves] using ih
  | case4 op left right rest seen ih => simpa [collect, leaves] using ih
  | case5 kind shown rest seen ih => simpa [collect, leaves] using ih
  | case6 v rest seen ih => simpa [collect, leaves] using ih

theorem atoms_eq (t : Tree) : t.atoms = t.leaves.eraseDups := by
  rw [atoms, collect_eq_noted, List.flatMap_singleton, noted_eq]

theorem mem_atoms {t : Tree} : name ∈ t.atoms ↔ name ∈ t.leaves := by
  rw [atoms_eq, List.mem_eraseDups]

end Tree

theorem Formula.Lettered.leaf {φ : Formula} (h : φ.Lettered) (hm : name ∈ φ.toTree.leaves) :
    ∃ c ∈ letters, name = String.singleton c := by
  induction φ with
  | atom name' =>
    cases List.mem_singleton.mp hm
    exact h
  | neg operand ih => exact ih h hm
  | binary op left right ihl ihr =>
    rcases List.mem_append.mp hm with hm | hm
    · exact ihl h.1 hm
    · exact ihr h.2 hm

/-- Valuations that agree on the leaves give one truth value. -/
theorem Formula.holds_congr {φ : Formula} {v w : String → Bool}
    (h : ∀ name ∈ φ.toTree.leaves, v name = w name) : φ.holds v = φ.holds w := by
  induction φ with
  | atom name => exact h name List.mem_cons_self
  | neg operand ih => rw [holds, holds, ih h]
  | binary op left right ihl ihr =>
    have hl := ihl (fun name hm => h name (List.mem_append_left _ hm))
    have hr := ihr (fun name hm => h name (List.mem_append_right _ hm))
    rw [holds, holds, hl, hr]

/-- The trees of formulas have truth values under every assignment. -/
theorem Formula.evaluate_tree (φ : Formula) (a : Assignment) :
    φ.toTree.evaluate a = .ok (φ.holds a.truth) := by
  induction φ with
  | atom name => rfl
  | neg operand ih =>
    rw [toTree, Tree.evaluate, ih]
    rfl
  | binary op left right ihl ihr =>
    rw [toTree, Tree.evaluate, ihl, ihr]
    rfl

end Propositional
