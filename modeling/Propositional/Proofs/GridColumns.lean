import Propositional.Proofs.Decimals
import Propositional.Proofs.LiteralMarkup
import Propositional.TruthTable.Grid

namespace Propositional.Console

/-- The cells of the column at a place, or those that a column would begin with there. -/
def Column.cellsAt (rows : Nat) (columns : List Column) (j : Nat) : List String :=
  (columns[j]?).elim (List.replicate rows "") Column.cells

namespace Grid

theorem length_extend (rows : Nat) (columns : List Column) (cells : List String) :
    (extend rows columns cells).length = max columns.length cells.length := by
  fun_induction extend rows columns cells with
  | case1 cells => simp
  | case2 column columns ih => simp [ih]
  | case3 column columns cell cells ih => simp [ih]

/-- A row adds one cell to each column, those yet to come included. -/
theorem cells_at_extend (rows : Nat) (columns : List Column) (cells : List String) (j : Nat) :
    Column.cellsAt (rows + 1) (extend rows columns cells) j =
      Column.cellsAt rows columns j ++ [cells.getD j ""] := by
  fun_induction extend rows columns cells generalizing j with
  | case1 cells =>
    rw [Column.cellsAt, Column.cellsAt, List.getElem?_map, List.getElem?_nil, List.getD]
    cases cells[j]? with
    | none => exact List.replicate_succ'
    | some cell => rfl
  | case2 column columns ih =>
    cases j with
    | zero => rfl
    | succ j => exact ih j
  | case3 column columns cell cells ih =>
    cases j with
    | zero => rfl
    | succ j => exact ih j

/-- The cells of the column at a place, empty ones if there is no such column. -/
def cellsAt (grid : Grid) (j : Nat) : List String :=
  Column.cellsAt grid.rowCount grid.columns j

theorem cells_at_add_row (grid : Grid) (cells : List String) (j : Nat) :
    (grid.addRow cells).cellsAt j = grid.cellsAt j ++ [cells.getD j ""] :=
  cells_at_extend grid.rowCount grid.columns cells j

theorem cells_at_add_rows (grid : Grid) (rows : List (List String)) (j : Nat) :
    (rows.foldl addRow grid).cellsAt j = grid.cellsAt j ++ rows.map (·.getD j "") := by
  induction rows generalizing grid with
  | nil => exact (List.append_nil _).symm
  | cons cells rows ih =>
    rw [List.foldl_cons, ih, cells_at_add_row, List.append_assoc, List.map_cons]
    rfl

/-- A grid is as wide as the longest row that was added, or as it was if no row is longer. -/
theorem width_of_add_rows (grid : Grid) (rows : List (List String)) :
    (rows.foldl addRow grid).columns.length =
      max grid.columns.length ((rows.map List.length).foldr max 0) := by
  induction rows generalizing grid with
  | nil => exact (Nat.max_zero _).symm
  | cons cells rows ih =>
    have hrow : (grid.addRow cells).columns.length = max grid.columns.length cells.length :=
      length_extend grid.rowCount grid.columns cells
    rw [List.foldl_cons, ih, hrow, List.map_cons, List.foldr_cons, Nat.max_assoc]

theorem caption_of_add_rows (grid : Grid) (rows : List (List String)) :
    (rows.foldl addRow grid).caption = grid.caption := by
  induction rows generalizing grid with
  | nil => rfl
  | cons cells rows ih => exact ih (grid.addRow cells)

theorem cells_at_of_column {grid : Grid} (h : grid.columns[j]? = some column) :
    grid.cellsAt j = column.cells := by
  rw [cellsAt, Column.cellsAt, h]
  rfl

end Grid

end Propositional.Console

namespace Propositional.TruthTable
open Console.Markup (Literal Styles render render_eq_iff render_of_plain styled)

/-- The decimal text of the cell at a place of a row, empty beyond its end. -/
def textAt (row : List Int) (j : Nat) : String := (row[j]?).elim "" toString

/-- The markup for it, which colours the last cell. -/
def markupAt (row : List Int) (j : Nat) : String :=
  if j + 1 = row.length then
    if row[j]? = some 1 then "[green]" ++ textAt row j ++ "[/]"
    else "[red]" ++ textAt row j ++ "[/]"
  else textAt row j

theorem get_row_markups (row : List Int) (j : Nat) :
    (rowMarkups row).getD j "" = markupAt row j := by
  induction row generalizing j with
  | nil => rfl
  | cons digit rest ih =>
    cases rest with
    | nil =>
      have hcolour : resultMarkup digit =
          if digit = 1 then "[green]" ++ toString digit ++ "[/]"
          else "[red]" ++ toString digit ++ "[/]" := rfl
      cases j with
      | zero => simp [rowMarkups, markupAt, textAt, hcolour]
      | succ j => simp [rowMarkups, markupAt, textAt]
    | cons next rest =>
      change (toString digit :: rowMarkups (next :: rest)).getD j "" = _
      cases j with
      | zero => simp [markupAt, textAt]
      | succ j =>
        rw [List.getD_cons_succ, ih]
        simp [markupAt, textAt]

theorem cells_at_empty_grid (table : TruthTable) (expression : String) (verdict : Verdict)
    (j : Nat) : (table.emptyGrid expression verdict).cellsAt j = [] := by
  rw [Console.Grid.cellsAt, Console.Column.cellsAt]
  cases hcolumn : (table.emptyGrid expression verdict).columns[j]? with
  | none => rfl
  | some column =>
    rcases List.mem_append.mp (List.mem_of_getElem? hcolumn) with hm | hm
    · obtain ⟨name, -, rfl⟩ := List.mem_map.mp hm
      rfl
    · rw [List.mem_singleton.mp hm]
      rfl

theorem length_row_markups (row : List Int) : (rowMarkups row).length = row.length := by
  induction row with
  | nil => rfl
  | cons digit rest ih =>
    cases rest with
    | nil => rfl
    | cons next rest => exact congrArg (· + 1) ih

theorem not_mem_text_at (row : List Int) (j : Nat) (hdigit : c.isDigit = false) (hsign : c ≠ '-') :
    c ∉ (textAt row j).toList := by
  rw [textAt]
  cases row[j]? with
  | none => exact List.not_mem_nil
  | some value =>
    intro hc
    rcases Text.mem_int_chars hc with h | h
    · exact hsign h
    · exact Bool.false_ne_true (hdigit.symm.trans h)

theorem plain_text_at (row : List Int) (j : Nat) :
    '\\' ∉ (textAt row j).toList ∧ '[' ∉ (textAt row j).toList :=
  ⟨not_mem_text_at row j rfl (by decide), not_mem_text_at row j rfl (by decide)⟩

theorem colon_not_mem_text_at (row : List Int) (j : Nat) : ':' ∉ (textAt row j).toList :=
  not_mem_text_at row j rfl (by decide)

section
variable [Console.Library]

theorem render_coloured {opening style : String}
    (hopening : opening = String.ofList ('[' :: style.toList ++ [']']))
    (hstyle : Styles style.toList ⟨style, []⟩) (hcolon : ':' ∉ style.toList) (row : List Int)
    (j : Nat) : render (opening ++ textAt row j ++ "[/]") = .ok (textAt row j) := by
  have hliteral : Literal "".toList ∧ Console.pictures "".toList = "".toList := ⟨by decide, rfl⟩
  have hrender := (render_eq_iff hstyle (plain_text_at row j) hcolon
    (colon_not_mem_text_at row j)).mpr hliteral
  rwa [String.append_empty, styled, ← hopening] at hrender

/-- Colours apart, a markup shows the text of its cell. -/
theorem render_markup_at (row : List Int) (j : Nat) :
    render (markupAt row j) = .ok (textAt row j) := by
  rw [markupAt]
  split
  · split
    · have hgreen : Styles "green".toList ⟨"green", []⟩ := by
        refine ⟨?_, ?_, ?_⟩ <;> decide +kernel
      exact render_coloured (by decide +kernel) hgreen (by decide) row j
    · have hred : Styles "red".toList ⟨"red", []⟩ := by
        refine ⟨?_, ?_, ?_⟩ <;> decide +kernel
      exact render_coloured (by decide +kernel) hred (by decide) row j
  · exact render_of_plain (plain_text_at row j) (colon_not_mem_text_at row j)

end

end Propositional.TruthTable
