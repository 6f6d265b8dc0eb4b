import Propositional.Proofs.JsonIntegers
import Propositional.Proofs.WrittenCells
import Propositional.TruthTable.Export

namespace Propositional.TruthTable

theorem results_of_no_empty_row (names : List String) {rows : List (List Int)} (h : [] ∉ rows) :
    ∃ column : List Int, (TruthTable.mk names rows).results = .ok column ∧
      column.length = rows.length := by
  induction rows with
  | nil => exact ⟨[], rfl, rfl⟩
  | cons row rows ih =>
    rw [List.mem_cons, not_or] at h
    obtain ⟨column, hcolumn, hlength⟩ := ih h.2
    rw [results] at hcolumn
    have hlast := List.getLast?_eq_some_getLast (Ne.symm h.1)
    refine ⟨row.getLast (Ne.symm h.1) :: column, ?_, congrArg (· + 1) hlength⟩
    rw [results, List.mapM_cons, hcolumn, hlast]
    rfl

/-- A table with rows, none of them empty, has a verdict. -/
theorem verdict_of_rows {table : TruthTable} (hrows : table.rows ≠ []) (hcells : [] ∉ table.rows) :
    ∃ verdict, table.verdict = .ok verdict := by
  obtain ⟨column, hcolumn, hlength⟩ := results_of_no_empty_row table.vars hcells
  cases column with
  | nil => exact absurd (List.length_eq_zero_iff.mp hlength.symm) hrows
  | cons first column =>
    obtain ⟨found, hfound⟩ : ∃ found, Verdict.ofColumn 1 (first :: column) = some found := by
      rw [Verdict.ofColumn]
      split <;> exact ⟨_, rfl⟩
    refine ⟨found, ?_⟩
    rw [verdict, hcolumn]
    simp only [bind, Except.bind, hfound]
    rfl

section
open Json (Readable Tolerance)

theorem readable_list_map {t : Tolerance} {f : α → Json.Value} {xs : List α} (hdepth : t.depth ≠ 0)
    (h : ∀ x ∈ xs, Readable t.inside (f x)) : Readable t (.list (xs.map f)) := by
  refine .list (fun _ => hdepth) (fun item hm => ?_)
  obtain ⟨x, hx, rfl⟩ := List.mem_map.mp hm
  exact h x hx

/-- Three containers lie around a cell. -/
theorem readable_value_with {t : Tolerance} {table : TruthTable} (hdepth : 3 ≤ t.depth)
    (h : ∀ row ∈ table.rows, ∀ cell ∈ row, t.Admits cell) (expression : String)
    (verdict : Verdict) : Readable t (table.valueWith expression verdict) := by
  have hfields : t.depth ≠ 0 ∧ t.inside.depth ≠ 0 ∧ t.inside.inside.depth ≠ 0 := by
    simp only [Tolerance.inside]
    omega
  refine .object (fun _ => hfields.1) (by simp) (fun field hm => ?_)
  simp only [List.mem_cons, List.not_mem_nil, or_false] at hm
  rcases hm with rfl | rfl | rfl | rfl
  · exact .text
  · exact readable_list_map hfields.2.1 (fun _ _ => .text)
  · exact readable_list_map hfields.2.1 (fun row hrow =>
      readable_list_map hfields.2.2 (fun cell hcell => .int (h row hrow cell hcell)))
  · exact .text

end

theorem parse_value_with [Interpreter] {table : TruthTable} (h : table.Writable)
    (expression : String) (verdict : Verdict) :
    Json.parse .lenient (table.valueWith expression verdict).indented =
      .ok (Json.Value.points (.object [
        ("expression", .text expression),
        ("variables", .list (table.vars.map .text)),
        ("rows", .list (table.rows.map (fun row => .list (row.map .int)))),
        ("verdict", .text verdict.label)])) :=
  have hadmits : ∀ row ∈ table.rows, ∀ cell ∈ row, Json.Tolerance.lenient.Admits cell := h
  Json.parse_chars (readable_value_with Interpreter.containers_room hadmits expression verdict)
    (.indented 0)

theorem holds_of_value_with {P : Int → Prop} {table : TruthTable} {verdict : Verdict}
    (h : (table.valueWith expression verdict).Holds P) :
    ∀ row ∈ table.rows, ∀ cell ∈ row, P cell := by
  intro row hrow cell hcell
  cases h with
  | object hfields =>
    cases hfields ("rows", table.rowsValue) (by simp) with
    | list hitems =>
      cases hitems _ (List.mem_map_of_mem hrow) with
      | list hcells =>
        cases hcells _ (List.mem_map_of_mem hcell) with
        | int hn => exact hn

/-- What is written of a table as JSON is read back without loss by the reader of the settings,
whatever its names and the expression are made of and whatever the shape of its rows. Only a table
with an integer of more digits than the interpreter writes is not written at all. -/
theorem json_reads_back [Interpreter] {table : TruthTable} (expression : String)
    (hrows : table.rows ≠ []) (hcells : [] ∉ table.rows) :
    (table.Writable → ∃ verdict text, table.verdict = .ok verdict ∧
      table.json expression = .ok text ∧
      Json.parse .lenient text =
        .ok (Json.Value.points (.object [
          ("expression", .text expression),
          ("variables", .list (table.vars.map .text)),
          ("rows", .list (table.rows.map (fun row => .list (row.map .int)))),
          ("verdict", .text verdict.label)]))) ∧
    (¬table.Writable → ∃ limit ∈ Interpreter.maxDigits,
      table.json expression = .error (.longInteger limit)) := by
  obtain ⟨verdict, hverdict⟩ := verdict_of_rows hrows hcells
  have hjson := json_of_verdict expression hverdict
  constructor
  · intro h
    rw [hjson, h.check]
    exact ⟨verdict, _, hverdict, rfl, parse_value_with h expression verdict⟩
  · intro h
    obtain ⟨limit, hm, hcheck⟩ := check_of_not_writable h
    refine ⟨limit, hm, ?_⟩
    rw [hjson, hcheck]
    rfl

theorem json_reads_back_ragged :
    ∃ verdict text, (TruthTable.mk ["p", "\\"] [[-12], [0, 1]]).verdict = .ok verdict ∧
      (TruthTable.mk ["p", "\\"] [[-12], [0, 1]]).json "\x01\"é\n" = .ok text ∧
      Json.parse .lenient text =
        .ok (Json.Value.points (.object [
          ("expression", .text "\x01\"é\n"),
          ("variables", .list [.text "p", .text "\\"]),
          ("rows", .list [.list [.int (-12)], .list [.int 0, .int 1]]),
          ("verdict", .text verdict.label)])) :=
  (json_reads_back "\x01\"é\n" (by decide) (by decide)).1 (by decide)

theorem verdict_of_cell (cell : Int) : ∃ verdict, (mk [] [[cell]]).verdict = .ok verdict :=
  verdict_of_rows (List.cons_ne_nil _ _) (by simp)

theorem not_writable_long : ¬(mk [] [[10 ^ 4300]]).Writable := by
  intro h
  exact Json.not_strict_admits (h _ List.mem_cons_self _ List.mem_cons_self)

/-- An integer that is too long is neither written nor read. -/
theorem json_not_read_back_long :
    (TruthTable.mk [] [[10 ^ 4300]]).json "" = .error (.longInteger 4300) ∧
      ∀ text verdict, Json.parse .lenient text ≠
        .ok ((TruthTable.mk [] [[10 ^ 4300]]).valueWith "" verdict).points := by
  constructor
  · obtain ⟨limit, hm, hcheck⟩ := check_of_not_writable not_writable_long
    cases hm
    obtain ⟨verdict, hverdict⟩ := verdict_of_cell (10 ^ 4300)
    rw [json_of_verdict "" hverdict, hcheck]
    rfl
  · intro text verdict h
    have hread := (Json.parse_holds .lenient text).of_ok h
    exact not_writable_long (holds_of_value_with (Json.Value.holds_of_points hread))

end Propositional.TruthTable
