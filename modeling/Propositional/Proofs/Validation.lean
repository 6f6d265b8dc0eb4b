import Propositional.TruthTable.Export
import Propositional.TruthTable.Validation

namespace Propositional.TruthTable
open Json (Value)

namespace Checked

theorem items_map {check : Value → Checked α} (f : α → Value) (h : ∀ a, check (f a) = .ok a)
    (i : Nat) (as : List α) : items check i (as.map f) = .ok as := by
  induction as generalizing i with
  | nil => rfl
  | cons a as ih =>
    rw [List.map_cons, items, h, ih]
    rfl

theorem list_map {check : Value → Checked α} (f : α → Value) (h : ∀ a, check (f a) = .ok a)
    (as : List α) : list check (.list (as.map f)) = .ok as :=
  items_map f h 0 as

end Checked

theorem check_field_ok {check : Value → Checked α} (hf : Value.field? fields name = some v)
    (hc : check v = .ok a) : checkField fields name check = .ok a := by
  unfold checkField
  rw [hf]
  dsimp only
  rw [hc]
  rfl

/-- What is stored of a table passes the checks unchanged. -/
theorem of_value_to_value (table : TruthTable) : ofValue table.toValue = .ok table := by
  have hvars : Checked.list checkName table.varsValue = .ok table.vars :=
    Checked.list_map .text (fun _ => rfl) table.vars
  have hrows : Checked.list (Checked.list checkCell) table.rowsValue = .ok table.rows :=
    Checked.list_map _ (Checked.list_map .int (fun _ => rfl)) table.rows
  unfold toValue ofValue
  dsimp only
  rw [check_field_ok rfl hvars, check_field_ok rfl hrows]
  rfl

end Propositional.TruthTable
