import Propositional.Proofs.GridColumns
import Propositional.Proofs.HtmlTable
import Propositional.Proofs.JsonTable

namespace Propositional.TruthTable
open Console (Grid)

/-- A tag and the text behind it, as they are written. -/
def tagged (element : String × String) : List Char :=
  '<' :: (element.1.toList ++ '>' :: element.2.toList)

/-- The tag and the text behind it that follow an angle bracket. -/
def elementAt (piece : List Char) : String × String :=
  (String.ofList (piece.takeWhile (· != '>')), String.ofList (piece.dropWhile (· != '>')).tail)

/-- What a text holds before its first tag, and its tags, each with the text behind it. -/
def elements (text : String) : String × List (String × String) :=
  match text.toList.splitOn '<' with
  | [] => ("", [])
  | before :: pieces => (String.ofList before, pieces.map elementAt)

/-- No angle bracket stands in the name of a tag, and none opens in the text behind it. -/
def Separate (element : String × String) : Prop :=
  '<' ∉ element.1.toList ∧ '>' ∉ element.1.toList ∧ '<' ∉ element.2.toList

instance (element : String × String) : Decidable (Separate element) :=
  inferInstanceAs (Decidable (_ ∧ _ ∧ _))

theorem element_at_written {name text : String} (h : '>' ∉ name.toList) :
    elementAt (name.toList ++ '>' :: text.toList) = (name, text) := by
  have hname : ∀ c ∈ name.toList, (c != '>') = true := by
    intro c hc
    exact bne_iff_ne.mpr (fun he => h (he ▸ hc))
  have htake : (name.toList ++ '>' :: text.toList).takeWhile (· != '>') = name.toList := by
    rw [List.takeWhile_append_of_pos hname]
    simp
  have hdrop : (name.toList ++ '>' :: text.toList).dropWhile (· != '>') = '>' :: text.toList := by
    rw [List.dropWhile_append_of_pos hname]
    rfl
  rw [elementAt, htake, hdrop, List.tail_cons, String.ofList_toList, String.ofList_toList]

theorem split_on_written {before : List Char} (hbefore : '<' ∉ before)
    {es : List (String × String)} (h : ∀ e ∈ es, Separate e) :
    (before ++ es.flatMap tagged).splitOn '<' =
      before :: es.map (fun e => e.1.toList ++ '>' :: e.2.toList) := by
  induction es generalizing before with
  | nil =>
    rw [List.flatMap_nil, List.append_nil]
    exact List.splitOn_eq_singleton hbefore
  | cons e es ih =>
    rw [List.forall_mem_cons] at h
    obtain ⟨hname, -, htext⟩ := h.1
    have hpiece : '<' ∉ e.1.toList ++ '>' :: e.2.toList := by
      simp [hname, htext]
    rw [List.flatMap_cons, tagged, List.cons_append,
      List.splitOn_append_cons_self_of_not_mem hbefore, ih hpiece h.2, List.map_cons]

/-- What is written of separate elements reads as these elements. -/
theorem elements_of_written {text : String} {es : List (String × String)}
    (htext : text.toList = es.flatMap tagged) (h : ∀ e ∈ es, Separate e) :
    elements text = ("", es) := by
  have hnone : '<' ∉ ([] : List Char) := List.not_mem_nil
  have hsplit := split_on_written hnone h
  rw [List.nil_append, ← htext] at hsplit
  have hread : ∀ e ∈ es, (elementAt ∘ fun e => e.1.toList ++ '>' :: e.2.toList) e = id e :=
    fun e he => element_at_written (h e he).2.1
  have hall : (es.map (fun e => e.1.toList ++ '>' :: e.2.toList)).map elementAt = es := by
    rw [List.map_map]
    exact (List.map_congr_left hread).trans (List.map_id es)
  rw [elements, hsplit]
  exact congrArg (Prod.mk "") hall

/-- An element for a row, and within it one for each cell, with its decimal text. -/
def rowElements (row : List Int) : List (String × String) :=
  ("tr", "") :: row.flatMap (fun cell => [("td", toString cell), ("/td", "")]) ++ [("/tr", "")]

/-- What stands behind the rows: the line of the verdict. -/
def lineElements (verdict : Verdict) : List (String × String) :=
  [("/tbody", ""), ("/table", ""), ("p", ""), ("strong", verdict.line), ("/strong", ""), ("/p", "")]

theorem row_chars_tagged (row : List Int) : rowChars row = (rowElements row).flatMap tagged := by
  simp [rowChars, rowElements, cellsChars, tagged, List.flatMap_map, List.flatMap_assoc]

theorem rows_tagged (rows : List (List Int)) :
    rows.flatMap rowChars = (rows.flatMap rowElements).flatMap tagged := by
  rw [List.flatMap_assoc]
  exact congrArg (List.flatMap · rows) (funext row_chars_tagged)

theorem line_tagged (verdict : Verdict) :
    "</tbody></table>".toList ++ ("<p><strong>".toList ++ (verdict.line.toList ++
      "</strong></p>".toList)) = (lineElements verdict).flatMap tagged := by
  simp [lineElements, tagged]

theorem separate_cell (cell : Int) : Separate ("td", toString cell) := by
  have hname : '<' ∉ "td".toList ∧ '>' ∉ "td".toList := by decide
  refine ⟨hname.1, hname.2, fun hc => ?_⟩
  rcases Text.mem_int_chars hc with h | h <;> cases h

theorem separate_row (row : List Int) : ∀ e ∈ rowElements row, Separate e := by
  intro e he
  rcases List.mem_append.mp he with he | he
  · rcases List.mem_cons.mp he with rfl | he
    · decide
    · obtain ⟨cell, -, hcell⟩ := List.mem_flatMap.mp he
      rcases List.mem_cons.mp hcell with rfl | hcell
      · exact separate_cell cell
      · rw [List.mem_singleton.mp hcell]
        decide
  · rw [List.mem_singleton.mp he]
    decide

theorem separate_line (verdict : Verdict) : ∀ e ∈ lineElements verdict, Separate e := by
  cases verdict <;> decide

/-- The HTML up to the first row: the names of the variables and the expression. -/
def htmlHeader (table : TruthTable) (expression : String) : String :=
  "<table><thead><tr>" ++ String.join (table.vars.map headerCell) ++
    headerCell (escapeHtml expression) ++ "</tr></thead><tbody>"

theorem html_behind_header (table : TruthTable) (expression : String) (verdict : Verdict) :
    ∃ body, table.htmlWith expression verdict = table.htmlHeader expression ++ body ∧
      elements body = ("", table.rows.flatMap rowElements ++ lineElements verdict) := by
  refine ⟨String.join (table.rows.map bodyRow) ++ "</tbody></table>" ++ "<p><strong>" ++
    verdict.line ++ "</strong></p>", ?_, elements_of_written ?_ ?_⟩
  · unfold htmlWith htmlHeader
    simp only [String.append_assoc]
  · rw [List.flatMap_append, ← rows_tagged, ← line_tagged]
    simp only [String.toList_append, body_rows_chars, List.append_assoc]
  · refine List.forall_mem_append.mpr ⟨?_, separate_line verdict⟩
    intro e he
    obtain ⟨row, -, hrow⟩ := List.mem_flatMap.mp he
    exact separate_row row e hrow

/-- The HTML, the grid and the JSON of a table show its rows and the verdict. HTML and JSON hold
them row by row, the grid column by column with empty cells behind the end of a row. -/
structure Shows [Interpreter] [Console.Library] (table : TruthTable) (expression : String)
    (verdict : Verdict) (html : String) (grid : Grid) (json : String) : Prop where
  html : ∃ body, html = table.htmlHeader expression ++ body ∧
    elements body = ("", table.rows.flatMap rowElements ++ lineElements verdict)
  width : grid.columns.length =
    max (table.vars.length + 1) ((table.rows.map List.length).foldr max 0)
  cells : ∀ j column, grid.columns[j]? = some column →
    column.cells = table.rows.map (markupAt · j) ∧
      column.cells.map Console.Markup.render = table.rows.map (fun row => .ok (textAt row j))
  caption : grid.caption = verdict.line
  json : Json.parse .lenient json =
    .ok (Json.Value.points (.object [
      ("expression", .text expression),
      ("variables", .list (table.vars.map .text)),
      ("rows", .list (table.rows.map (fun row => .list (row.map .int)))),
      ("verdict", .text verdict.label)]))

theorem width_of_rows (table : TruthTable) (expression : String) (verdict : Verdict) :
    ((table.rows.map rowMarkups).foldl Grid.addRow
      (table.emptyGrid expression verdict)).columns.length =
        max (table.vars.length + 1) ((table.rows.map List.length).foldr max 0) := by
  have hempty : (table.emptyGrid expression verdict).columns.length = table.vars.length + 1 := by
    simp [emptyGrid]
  have hlengths : (table.rows.map rowMarkups).map List.length = table.rows.map List.length := by
    rw [List.map_map]
    exact List.map_congr_left (fun row _ => length_row_markups row)
  rw [Grid.width_of_add_rows, hempty, hlengths]

theorem cells_of_rows {table : TruthTable} (expression : String) (verdict : Verdict)
    (h : ((table.rows.map rowMarkups).foldl Grid.addRow
      (table.emptyGrid expression verdict)).columns[j]? = some column) :
    column.cells = table.rows.map (markupAt · j) := by
  rw [← Grid.cells_at_of_column h, Grid.cells_at_add_rows, cells_at_empty_grid, List.nil_append,
    List.map_map]
  exact List.map_congr_left (fun row _ => get_row_markups row j)

theorem shows_of_writable [Interpreter] [Console.Library] {table : TruthTable} (h : table.Writable)
    (expression : String) (verdict : Verdict) :
    table.Shows expression verdict (table.htmlWith expression verdict)
      ((table.rows.map rowMarkups).foldl Grid.addRow (table.emptyGrid expression verdict))
      (table.valueWith expression verdict).indented := by
  constructor
  case html => exact table.html_behind_header expression verdict
  case width => exact table.width_of_rows expression verdict
  case cells =>
    intro j column hcolumn
    have hmarkups := cells_of_rows expression verdict hcolumn
    refine ⟨hmarkups, ?_⟩
    rw [hmarkups, List.map_map]
    exact List.map_congr_left (fun row _ => render_markup_at row j)
  case caption => exact Grid.caption_of_add_rows _ _
  case json => exact parse_value_with h expression verdict

/-- A table with rows, none of them empty, is shown alike in all its forms, whatever the lengths of
its rows. One with an integer of more digits than the interpreter writes is shown in none. -/
theorem renderings_agree [Interpreter] [Console.Library] {table : TruthTable}
    (hrows : table.rows ≠ []) (hcells : [] ∉ table.rows) (expression : String) :
    (table.Writable → ∃ verdict html grid json, table.verdict = .ok verdict ∧
      table.html expression = .ok html ∧ table.grid expression = .ok grid ∧
      table.json expression = .ok json ∧ table.Shows expression verdict html grid json) ∧
    (¬table.Writable → ∃ limit ∈ Interpreter.maxDigits,
      table.html expression = .error (.longInteger limit) ∧
      table.grid expression = .error (.longInteger limit) ∧
      table.json expression = .error (.longInteger limit)) := by
  obtain ⟨verdict, hverdict⟩ := verdict_of_rows hrows hcells
  rw [html_of_verdict expression hverdict, grid_of_verdict expression hverdict,
    json_of_verdict expression hverdict]
  constructor
  · intro h
    rw [h.check, h.check, h.check]
    exact ⟨verdict, _, _, _, hverdict, rfl, rfl, rfl, shows_of_writable h expression verdict⟩
  · intro h
    obtain ⟨limit, hm, hcheck⟩ := check_of_not_writable h
    rw [hcheck]
    exact ⟨limit, hm, rfl, rfl, rfl⟩

/-- Rows of three lengths under one variable. -/
theorem renderings_agree_ragged :
    ∃ verdict html grid json,
      (TruthTable.mk ["p"] [[1], [0, 1, -12], [5, 0]]).verdict = .ok verdict ∧
      (TruthTable.mk ["p"] [[1], [0, 1, -12], [5, 0]]).html "p<q" = .ok html ∧
      (TruthTable.mk ["p"] [[1], [0, 1, -12], [5, 0]]).grid "p<q" = .ok grid ∧
      (TruthTable.mk ["p"] [[1], [0, 1, -12], [5, 0]]).json "p<q" = .ok json ∧
      (TruthTable.mk ["p"] [[1], [0, 1, -12], [5, 0]]).Shows "p<q" verdict html grid json :=
  (renderings_agree (by decide) (by decide) "p<q").1 (by decide)

/-- An integer that is too long is shown in no form. -/
theorem not_shown_long :
    (TruthTable.mk [] [[10 ^ 4300]]).html "" = .error (.longInteger 4300) ∧
      (TruthTable.mk [] [[10 ^ 4300]]).grid "" = .error (.longInteger 4300) ∧
      (TruthTable.mk [] [[10 ^ 4300]]).json "" = .error (.longInteger 4300) := by
  obtain ⟨verdict, hverdict⟩ := verdict_of_cell (10 ^ 4300)
  obtain ⟨limit, hm, hcheck⟩ := check_of_not_writable not_writable_long
  cases hm
  rw [html_of_verdict "" hverdict, grid_of_verdict "" hverdict, json_of_verdict "" hverdict, hcheck]
  exact ⟨rfl, rfl, rfl⟩

end Propositional.TruthTable
