import Propositional.Proofs.Enumeration
import Propositional.TruthTable.Export
import Propositional.TruthTable.Grid
import Propositional.TruthTable.Html

namespace Propositional

theorem Interpreter.exceeded_eq_none [Interpreter] {n : Int} :
    exceeded? n = none ↔ ∀ limit ∈ maxDigits, (Nat.toDigits 10 n.natAbs).length ≤ limit := by
  rw [exceeded?, Option.filter_eq_none_iff]
  simp

namespace TruthTable

section
variable [Interpreter]

/-- No cell has more digits than the interpreter writes. -/
def Writable (table : TruthTable) : Prop :=
  ∀ row ∈ table.rows, ∀ cell ∈ row, ∀ limit ∈ Interpreter.maxDigits,
    (Nat.toDigits 10 cell.natAbs).length ≤ limit

instance (table : TruthTable) : Decidable table.Writable :=
  have (cell : Int) : Decidable (∀ limit ∈ Interpreter.maxDigits,
    (Nat.toDigits 10 cell.natAbs).length ≤ limit) := Option.decidableForallMem _
  inferInstanceAs (Decidable (∀ row ∈ table.rows, ∀ cell ∈ row, _))

theorem writable_iff {table : TruthTable} :
    table.Writable ↔ table.rows.flatten.findSome? Interpreter.exceeded? = none := by
  simp only [Writable, ← Interpreter.exceeded_eq_none, List.findSome?_eq_none_iff,
    List.mem_flatten]
  constructor
  · rintro h cell ⟨row, hrow, hcell⟩
    exact h row hrow cell hcell
  · exact fun h row hrow cell hcell => h cell ⟨row, hrow, hcell⟩

theorem Writable.check {table : TruthTable} (h : table.Writable)
    (write : Unit → α) : table.checkDigits.map write = .ok (write ()) := by
  rw [checkDigits, writable_iff.mp h]
  rfl

/-- The first cell that is too long tells the limit. -/
theorem check_of_not_writable {table : TruthTable} (h : ¬table.Writable) :
    ∃ limit ∈ Interpreter.maxDigits, table.checkDigits = .error (.longInteger limit) := by
  cases hfound : table.rows.flatten.findSome? Interpreter.exceeded? with
  | none => exact absurd (writable_iff.mpr hfound) h
  | some limit =>
    obtain ⟨cell, -, hcell⟩ := List.exists_of_findSome?_eq_some hfound
    refine ⟨limit, ?_, by rw [checkDigits, hfound]⟩
    exact (Option.filter_eq_some_iff.mp hcell).1

/-- A cell of a generated table is one digit long. -/
theorem writable_of_expression (text : String) : (ofExpression text).Writable := by
  have hdigit : ∀ cell : Int, cell = 0 ∨ cell = 1 → ∀ limit ∈ Interpreter.maxDigits,
      (Nat.toDigits 10 cell.natAbs).length ≤ limit := by
    intro cell hcell limit hm
    have hroom : 1 ≤ limit := Nat.le_trans (by decide) (Interpreter.digits_room limit hm)
    rcases hcell with rfl | rfl
    · exact hroom
    · exact hroom
  intro row hrow cell hcell
  exact hdigit cell (zero_or_one_of_mem hrow cell hcell)

end

section
variable [Interpreter] {table : TruthTable} {verdict : Verdict} (expression : String)
  (h : table.verdict = .ok verdict)
include h

theorem html_of_verdict :
    table.html expression = table.checkDigits.map (fun _ => table.htmlWith expression verdict) := by
  rw [html, h]
  cases table.checkDigits with
  | ok => rfl
  | error e => rfl

theorem grid_of_verdict :
    table.grid expression = table.checkDigits.map (fun _ =>
      (table.rows.map rowMarkups).foldl Console.Grid.addRow
        (table.emptyGrid expression verdict)) := by
  rw [grid, h]
  cases table.checkDigits with
  | ok => rfl
  | error e => rfl

theorem json_of_verdict :
    table.json expression =
      table.checkDigits.map (fun _ => (table.valueWith expression verdict).indented) := by
  rw [json, h]
  cases table.checkDigits with
  | ok => rfl
  | error e => rfl

end

end TruthTable

end Propositional
