import Mathlib.Data.List.Basic
import Propositional.Proofs.Decimals
import Propositional.Proofs.Renaming
import Propositional.Proofs.WrittenCells
import Propositional.TruthTable.Html

namespace Propositional.TruthTable

/-- The tag that opens an element. -/
def openingTag (name : String) : List Char := '<' :: name.toList ++ ['>']

/-- The places of a text where the opening tag of an element stands. -/
def countTags (name : String) : List Char → Nat
  | [] => 0
  | c :: rest => (if openingTag name <+: c :: rest then 1 else 0) + countTags name rest

/-- Behind each angle bracket that opens there is one that closes. -/
def closed : List Char → Bool
  | [] => true
  | c :: rest => (c != '<' || rest.contains '>') && closed rest

theorem closed_append (ha : closed a = true) (hb : closed b = true) : closed (a ++ b) = true := by
  induction a with
  | nil => exact hb
  | cons c a ih =>
    simp only [closed, List.cons_append, Bool.and_eq_true, Bool.or_eq_true,
      List.contains_append] at ha ⊢
    exact ⟨ha.1.imp_right .inl, ih ha.2⟩

theorem closed_of_no_angle (h : '<' ∉ cs) : closed cs = true := by
  induction cs with
  | nil => rfl
  | cons c cs ih =>
    rw [List.mem_cons, not_or] at h
    simp [closed, ih h.2, Ne.symm h.1]

theorem count_tags_no_angle (h : '<' ∉ cs) : countTags name cs = 0 := by
  induction cs with
  | nil => rfl
  | cons c cs ih =>
    rw [List.mem_cons, not_or] at h
    have hp : ¬openingTag name <+: c :: cs := by
      intro hp
      exact h.1 (List.cons_prefix_cons.mp hp).1
    rw [countTags, if_neg hp, ih h.2]

/-- A tag does not reach beyond the bracket that closes it. -/
theorem opening_tag_prefix_append (hn : '>' ∉ name.toList) (hc : '>' ∈ a) :
    openingTag name <+: '<' :: (a ++ b) ↔ openingTag name <+: '<' :: a := by
  rw [openingTag, List.cons_append, List.cons_prefix_cons, List.cons_prefix_cons]
  refine and_congr_right (fun _ => ⟨fun h => ?_, fun h => h.trans (List.prefix_append a b)⟩)
  rcases List.prefix_or_prefix_of_prefix h (List.prefix_append a b) with h | h
  · exact h
  · obtain ⟨between, he⟩ := h
    rcases List.eq_nil_or_concat' between with rfl | ⟨between, c, rfl⟩
    · rw [List.append_nil] at he
      exact he ▸ List.prefix_rfl
    · rw [← List.append_assoc] at he
      have hm : '>' ∈ name.toList := by
        rw [← (List.append_inj' he rfl).1]
        exact List.mem_append_left _ hc
      exact absurd hm hn

theorem count_tags_append (hn : '>' ∉ name.toList) (ha : closed a = true) :
    countTags name (a ++ b) = countTags name a + countTags name b := by
  induction a with
  | nil => simp [countTags]
  | cons c a ih =>
    simp only [closed, Bool.and_eq_true, Bool.or_eq_true, bne_iff_ne, List.contains_iff_mem] at ha
    have hp : openingTag name <+: c :: (a ++ b) ↔ openingTag name <+: c :: a := by
      rcases ha.1 with hc | hc
      · rw [openingTag, List.cons_append, List.cons_prefix_cons, List.cons_prefix_cons]
        simp [Ne.symm hc]
      · by_cases hs : c = '<'
        · rw [hs, opening_tag_prefix_append hn hc]
        · rw [openingTag, List.cons_append, List.cons_prefix_cons, List.cons_prefix_cons]
          simp [Ne.symm hs]
    rw [List.cons_append, countTags, countTags, ih ha.2, Nat.add_assoc]
    simp only [hp]

/-- The character that an escaped text begins with, and what is left of the text. -/
def firstChar? : List Char → Option (Char × List Char)
  | [] => none
  | '&' :: 'a' :: 'm' :: 'p' :: ';' :: rest => some ('&', rest)
  | '&' :: 'l' :: 't' :: ';' :: rest => some ('<', rest)
  | '&' :: 'g' :: 't' :: ';' :: rest => some ('>', rest)
  | '&' :: 'q' :: 'u' :: 'o' :: 't' :: ';' :: rest => some ('"', rest)
  | '&' :: '#' :: 'x' :: '2' :: '7' :: ';' :: rest => some ('\'', rest)
  | c :: rest => some (c, rest)

theorem first_char_escape (c : Char) (rest : List Char) :
    firstChar? (escapeHtmlChar c ++ rest) = some (c, rest) := by
  unfold escapeHtmlChar
  split
  case h_6 hamp _ _ _ _ =>
    -- No other character begins with an ampersand.
    unfold firstChar?
    split <;> simp_all
  all_goals rfl

theorem angle_not_mem_escape_char (c : Char) : '<' ∉ escapeHtmlChar c := by
  unfold escapeHtmlChar
  split
  all_goals simp_all [eq_comm]

theorem flat_map_escape_injective {xs ys : List Char}
    (h : xs.flatMap escapeHtmlChar = ys.flatMap escapeHtmlChar) : xs = ys := by
  have hfirst := congrArg firstChar? h
  induction xs generalizing ys with
  | nil =>
    cases ys with
    | nil => rfl
    | cons y ys =>
      rw [List.flatMap_cons, first_char_escape] at hfirst
      cases hfirst
  | cons x xs ih =>
    cases ys with
    | nil =>
      rw [List.flatMap_cons, first_char_escape] at hfirst
      cases hfirst
    | cons y ys =>
      rw [List.flatMap_cons, List.flatMap_cons, first_char_escape, first_char_escape] at hfirst
      obtain ⟨rfl, hrest⟩ := Prod.mk.inj (Option.some.inj hfirst)
      rw [ih hrest (congrArg firstChar? hrest)]

theorem escape_html_injective : Function.Injective escapeHtml := fun _ _ h =>
  String.toList_inj.mp (flat_map_escape_injective (String.ofList_injective h))

theorem angle_not_mem_escape (text : String) : '<' ∉ (escapeHtml text).toList := by
  rw [escapeHtml, String.toList_ofList]
  intro hm
  obtain ⟨c, _, hc⟩ := List.mem_flatMap.mp hm
  exact angle_not_mem_escape_char c hc

/-- A text without angle brackets ends where the next tag begins. -/
theorem angle_split (hx : '<' ∉ x) (hy : '<' ∉ y) (h : x ++ '<' :: after = y ++ '<' :: after') :
    x = y ∧ after = after' := by
  induction x generalizing y with
  | nil =>
    cases y with
    | nil => exact ⟨rfl, (List.cons.inj h).2⟩
    | cons c y => exact absurd ((List.cons.inj h).1 ▸ List.mem_cons_self) hy
  | cons c x ih =>
    rw [List.mem_cons, not_or] at hx
    cases y with
    | nil => exact absurd (List.cons.inj h).1.symm hx.1
    | cons d y =>
      rw [List.mem_cons, not_or] at hy
      obtain ⟨rfl, hrest⟩ := List.cons.inj h
      obtain ⟨rfl, hafter⟩ := ih hx.2 hy.2 hrest
      exact ⟨rfl, hafter⟩

/-- Cells of some element, whose name begins with a `t`. -/
def cellsChars (opened closing : List Char) (cells : List (List Char)) : List Char :=
  cells.flatMap (fun cell => '<' :: 't' :: opened ++ cell ++ '<' :: closing)

/-- Cells can be told from one another, and from the closing tag behind them. -/
theorem cells_split {xs ys : List (List Char)} (hx : ∀ x ∈ xs, '<' ∉ x)
    (hy : ∀ y ∈ ys, '<' ∉ y)
    (h : cellsChars opened closing xs ++ '<' :: '/' :: after =
      cellsChars opened closing ys ++ '<' :: '/' :: after') :
    xs = ys ∧ after = after' := by
  unfold cellsChars at h
  induction xs generalizing ys with
  | nil =>
    cases ys with
    | nil => simpa using h
    | cons y ys => simp at h
  | cons x xs ih =>
    cases ys with
    | nil => simp at h
    | cons y ys =>
      simp only [List.flatMap_cons, List.cons_append, List.append_assoc, List.cons.injEq, true_and,
        List.append_cancel_left_eq] at h
      obtain ⟨rfl, hrest⟩ := angle_split (hx x List.mem_cons_self) (hy y List.mem_cons_self) h
      obtain ⟨rfl, hafter⟩ := ih (fun x hm => hx x (List.mem_cons_of_mem _ hm))
        (fun y hm => hy y (List.mem_cons_of_mem _ hm))
        (by simpa using List.append_cancel_left hrest)
      exact ⟨rfl, hafter⟩

/-- A row of cells, each of which shows a number. -/
def rowChars (row : List Int) : List Char :=
  '<' :: 't' :: ['r', '>'] ++
    cellsChars ['d', '>'] ['/', 't', 'd', '>'] (row.map (fun cell => (toString cell).toList)) ++
    '<' :: '/' :: ['t', 'r', '>']

theorem body_row_chars (row : List Int) : (bodyRow row).toList = rowChars row := by
  simp [bodyRow, rowChars, cellsChars, bodyCell, String.toList_join, List.flatMap_map]

theorem body_rows_chars (rows : List (List Int)) :
    (String.join (rows.map bodyRow)).toList = rows.flatMap rowChars := by
  simp only [String.toList_join, List.flatMap_map, body_row_chars]

theorem angle_not_mem_int (row : List Int) :
    ∀ cell ∈ row.map (fun cell => (toString cell).toList), '<' ∉ cell := by
  intro cell hm hc
  obtain ⟨n, _, rfl⟩ := List.mem_map.mp hm
  rcases Text.mem_int_chars hc with h | h <;> cases h

theorem rows_split {rows rows' : List (List Int)}
    (h : rows.flatMap rowChars ++ '<' :: '/' :: after =
      rows'.flatMap rowChars ++ '<' :: '/' :: after') : rows = rows' ∧ after = after' := by
  induction rows generalizing rows' with
  | nil =>
    cases rows' with
    | nil => simpa using h
    | cons row rows' => simp [rowChars] at h
  | cons row rows ih =>
    cases rows' with
    | nil => simp [rowChars] at h
    | cons row' rows' =>
      simp only [List.flatMap_cons, rowChars, List.cons_append, List.nil_append, List.append_assoc,
        List.cons.injEq, true_and] at h
      obtain ⟨hrow, hrest⟩ := cells_split (angle_not_mem_int row) (angle_not_mem_int row') h
      have hrow := List.map_injective_iff.mpr Text.int_text_injective hrow
      obtain ⟨rfl, hafter⟩ := ih (by simpa [rowChars] using hrest)
      exact ⟨by rw [hrow], hafter⟩

/-- The texts of the header: the names of the variables, and the expression. -/
def headers (table : TruthTable) (expression : String) : List (List Char) :=
  table.vars.map String.toList ++ [(escapeHtml expression).toList]

theorem html_with_chars (table : TruthTable) (expression : String) (verdict : Verdict) :
    (table.htmlWith expression verdict).toList =
      "<table><thead><tr>".toList ++
        (cellsChars ['h', '>'] ['/', 't', 'h', '>'] (table.headers expression) ++
          ("</tr></thead><tbody>".toList ++ (table.rows.flatMap rowChars ++
            ("</tbody></table>".toList ++ ("<p><strong>".toList ++ (verdict.line.toList ++
              "</strong></p>".toList)))))) := by
  have hcells : (String.join (table.vars.map headerCell)).toList ++
      (headerCell (escapeHtml expression)).toList =
      cellsChars ['h', '>'] ['/', 't', 'h', '>'] (table.headers expression) := by
    simp [headers, cellsChars, headerCell, String.toList_join, List.flatMap_map]
  unfold htmlWith
  simp only [← hcells, String.toList_append, body_rows_chars, List.append_assoc]

theorem angle_not_mem_headers {table : TruthTable}
    (h : ∀ name ∈ table.vars, '<' ∉ name.toList) :
    ∀ cell ∈ table.headers expression, '<' ∉ cell := by
  intro cell hm
  rcases List.mem_append.mp hm with hm | hm
  · obtain ⟨name, hname, rfl⟩ := List.mem_map.mp hm
    exact h name hname
  · rw [List.mem_singleton.mp hm]
    exact angle_not_mem_escape expression

theorem html_with_injective {table table' : TruthTable} {verdict verdict' : Verdict}
    (hv : ∀ name ∈ table.vars, '<' ∉ name.toList)
    (hv' : ∀ name ∈ table'.vars, '<' ∉ name.toList)
    (h : table.htmlWith expression verdict = table'.htmlWith expression' verdict') :
    table = table' ∧ expression = expression' := by
  have hhead : "</tr></thead><tbody>".toList = '<' :: '/' :: "tr></thead><tbody>".toList := rfl
  have hbody : "</tbody></table>".toList = '<' :: '/' :: "tbody></table>".toList := rfl
  have hchars := congrArg String.toList h
  rw [html_with_chars, html_with_chars, hhead, hbody, List.append_cancel_left_eq] at hchars
  simp only [List.cons_append] at hchars
  obtain ⟨hcells, hrest⟩ :=
    cells_split (angle_not_mem_headers hv) (angle_not_mem_headers hv') hchars
  rw [List.append_cancel_left_eq] at hrest
  obtain ⟨hrows, _⟩ := rows_split hrest
  rw [headers, headers] at hcells
  obtain ⟨hnames, he⟩ := List.append_inj' hcells (by simp)
  have hnames := List.map_injective_iff.mpr (fun _ _ => String.toList_inj.mp) hnames
  refine ⟨?_, escape_html_injective (String.toList_inj.mp (List.cons.inj he).1)⟩
  cases table
  cases table'
  exact congr (congrArg TruthTable.mk hnames) hrows

theorem closed_cells (opened closing : List Char) (ho : closed ('<' :: 't' :: opened) = true)
    (hc : closed ('<' :: closing) = true) (h : ∀ cell ∈ cells, '<' ∉ cell) :
    closed (cellsChars opened closing cells) = true := by
  induction cells with
  | nil => rfl
  | cons cell cells ih =>
    have hcell := closed_append (closed_append ho
      (closed_of_no_angle (h cell List.mem_cons_self))) hc
    exact closed_append hcell (ih (fun c hm => h c (List.mem_cons_of_mem _ hm)))

/-- Texts between tags hold no tags of their own. -/
theorem count_tags_cells (opened closing : List Char) (hn : '>' ∉ name.toList)
    (ho : closed ('<' :: 't' :: opened) = true) (hc : closed ('<' :: closing) = true)
    (h : ∀ cell ∈ cells, '<' ∉ cell) :
    countTags name (cellsChars opened closing cells) =
      cells.length * (countTags name ('<' :: 't' :: opened) + countTags name ('<' :: closing)) := by
  induction cells with
  | nil => simp [cellsChars, countTags]
  | cons cell cells ih =>
    have hcell := h cell List.mem_cons_self
    have ht := closed_append ho (closed_of_no_angle hcell)
    have hsum : countTags name ('<' :: 't' :: opened ++ cell ++ '<' :: closing) =
        countTags name ('<' :: 't' :: opened) + countTags name ('<' :: closing) := by
      rw [count_tags_append hn ht, count_tags_append hn ho, count_tags_no_angle hcell, Nat.add_zero]
    rw [cellsChars, List.flatMap_cons, count_tags_append hn (closed_append ht hc), hsum,
      ← cellsChars, ih (fun c hm => h c (List.mem_cons_of_mem _ hm)), List.length_cons,
      Nat.succ_mul, Nat.add_comm]

theorem closed_row (row : List Int) : closed (rowChars row) = true :=
  closed_append (closed_append (b := cellsChars _ _ _) rfl
    (closed_cells _ _ rfl rfl (angle_not_mem_int row))) rfl

theorem closed_rows (rows : List (List Int)) : closed (rows.flatMap rowChars) = true := by
  induction rows with
  | nil => rfl
  | cons row rows ih => exact closed_append (closed_row row) ih

/-- The tags of one row of so many cells. -/
def tagsOfRow (name : String) (width : Nat) : Nat :=
  countTags name "<tr>".toList +
    width * (countTags name "<td>".toList + countTags name "</td>".toList) +
    countTags name "</tr>".toList

theorem count_tags_row (hn : '>' ∉ name.toList) (row : List Int) :
    countTags name (rowChars row) = tagsOfRow name row.length := by
  have hcells := count_tags_cells ['d', '>'] ['/', 't', 'd', '>'] hn rfl rfl
    (angle_not_mem_int row)
  rw [List.length_map] at hcells
  have hopen : closed ('<' :: 't' :: ['r', '>']) = true := rfl
  have hmiddle := closed_cells ['d', '>'] ['/', 't', 'd', '>'] rfl rfl (angle_not_mem_int row)
  rw [rowChars, count_tags_append hn (closed_append hopen hmiddle), count_tags_append hn hopen,
    hcells]
  rfl

theorem count_tags_rows (hn : '>' ∉ name.toList) {rows : List (List Int)}
    (h : ∀ row ∈ rows, row.length = width) :
    countTags name (rows.flatMap rowChars) = rows.length * tagsOfRow name width := by
  induction rows with
  | nil => simp [countTags]
  | cons row rows ih =>
    rw [List.flatMap_cons, count_tags_append hn (closed_row row), count_tags_row hn,
      h row List.mem_cons_self, ih (fun r hm => h r (List.mem_cons_of_mem _ hm)),
      List.length_cons, Nat.succ_mul, Nat.add_comm]

theorem angle_not_mem_line (verdict : Verdict) : '<' ∉ verdict.line.toList := by
  cases verdict <;> decide

/-- The tags around the cells. -/
def tagsOfFrame (name : String) : Nat :=
  countTags name "<table><thead><tr>".toList + countTags name "</tr></thead><tbody>".toList +
    countTags name "</tbody></table>".toList + countTags name "<p><strong>".toList +
    countTags name "</strong></p>".toList

theorem count_tags_html (hn : '>' ∉ name.toList) {table : TruthTable} {verdict : Verdict}
    (hv : ∀ name ∈ table.vars, '<' ∉ name.toList)
    (hw : ∀ row ∈ table.rows, row.length = width) :
    countTags name (table.htmlWith expression verdict).toList = tagsOfFrame name +
      (table.vars.length + 1) * (countTags name "<th>".toList + countTags name "</th>".toList) +
      table.rows.length * tagsOfRow name width := by
  have hheaders : ∀ cell ∈ table.headers expression, '<' ∉ cell := angle_not_mem_headers hv
  have hcells := count_tags_cells ['h', '>'] ['/', 't', 'h', '>'] hn rfl rfl hheaders
  have hlength : (table.headers expression).length = table.vars.length + 1 := by simp [headers]
  have hlabels : closed (cellsChars ['h', '>'] ['/', 't', 'h', '>'] (table.headers expression)) =
      true := closed_cells _ _ rfl rfl hheaders
  have hframe : closed "<table><thead><tr>".toList = true ∧
      closed "</tr></thead><tbody>".toList = true ∧ closed "</tbody></table>".toList = true ∧
      closed "<p><strong>".toList = true := ⟨rfl, rfl, rfl, rfl⟩
  rw [html_with_chars, count_tags_append hn hframe.1, count_tags_append hn hlabels,
    count_tags_append hn hframe.2.1, count_tags_append hn (closed_rows _),
    count_tags_append hn hframe.2.2.1, count_tags_append hn hframe.2.2.2,
    count_tags_append hn (closed_of_no_angle (angle_not_mem_line verdict)),
    count_tags_no_angle (angle_not_mem_line verdict), hcells, hlength, count_tags_rows hn hw]
  have hth : countTags name ('<' :: 't' :: ['h', '>']) = countTags name "<th>".toList := rfl
  have hht : countTags name ('<' :: ['/', 't', 'h', '>']) = countTags name "</th>".toList := rfl
  rw [tagsOfFrame, hth, hht]
  omega

section
variable [Interpreter]

theorem length_rows (text : String) :
    (ofExpression text).rows.length = 2 ^ (Expression.vars text).length := by
  rw [ofExpression, List.length_map, length_inputs]

theorem angle_not_mem_vars (text : String) :
    ∀ name ∈ (ofExpression text).vars, '<' ∉ name.toList := by
  intro name hm
  obtain ⟨c, hc, rfl⟩ := List.mem_map.mp hm
  have hletters : ∀ c ∈ letters, c ≠ '<' := List.all_iff_forall_prop.mp rfl
  rw [String.toList_singleton, List.mem_singleton]
  exact (hletters c (List.mem_of_mem_filter hc)).symm

/-- The HTML of the table of a text has a row for its headers and one for each combination of
values, a header for each variable and one for the expression, and as many cells in each row,
whatever tags are written in the expression. No other table or expression has the same HTML. -/
theorem html_faithful (text expression : String) :
    ∃ html, (ofExpression text).html expression = .ok html ∧
      countTags "tr" html.toList = 2 ^ (Expression.vars text).length + 1 ∧
      countTags "th" html.toList = (Expression.vars text).length + 1 ∧
      countTags "td" html.toList =
        ((Expression.vars text).length + 1) * 2 ^ (Expression.vars text).length ∧
      ∀ text' expression', (ofExpression text').html expression' = .ok html →
        ofExpression text' = ofExpression text ∧ expression' = expression := by
  obtain ⟨verdict, hverdict, _⟩ := verdict_of_results text
  have hv := angle_not_mem_vars text
  have hw : ∀ row ∈ (ofExpression text).rows, row.length = (Expression.vars text).length + 1 :=
    fun row => row_length
  have hwritten : (ofExpression text).html expression =
      .ok ((ofExpression text).htmlWith expression verdict) := by
    rw [html_of_verdict expression hverdict, (writable_of_expression text).check]
  refine ⟨_, hwritten, ?_, ?_, ?_, ?_⟩
  · have hframe : tagsOfFrame "tr" = 1 := by decide
    have hlabel : countTags "tr" "<th>".toList + countTags "tr" "</th>".toList = 0 := by decide
    have hrow : ∀ width, tagsOfRow "tr" width = 1 := fun _ => rfl
    rw [count_tags_html (by decide) hv hw, length_rows, hframe, hlabel, hrow]
    omega
  · have hframe : tagsOfFrame "th" = 0 := by decide
    have hlabel : countTags "th" "<th>".toList + countTags "th" "</th>".toList = 1 := by decide
    have hrow : ∀ width, tagsOfRow "th" width = 0 := fun _ => rfl
    rw [count_tags_html (by decide) hv hw, hframe, hlabel, hrow, Nat.zero_add, Nat.mul_one]
    rfl
  · have hframe : tagsOfFrame "td" = 0 := by decide
    have hlabel : countTags "td" "<th>".toList + countTags "td" "</th>".toList = 0 := by decide
    have hrow : ∀ width, tagsOfRow "td" width = width := by
      intro width
      have hopen : countTags "td" "<td>".toList + countTags "td" "</td>".toList = 1 := by decide
      have hend : countTags "td" "<tr>".toList = 0 ∧ countTags "td" "</tr>".toList = 0 := by decide
      rw [tagsOfRow, hopen, hend.1, hend.2]
      omega
    rw [count_tags_html (by decide) hv hw, length_rows, hframe, hlabel, hrow, Nat.mul_comm (2 ^ _)]
    omega
  · intro text' expression' h
    obtain ⟨verdict', hverdict', _⟩ := verdict_of_results text'
    rw [html_of_verdict expression' hverdict', (writable_of_expression text').check] at h
    exact html_with_injective (angle_not_mem_vars text') hv (Except.ok.inj h)

end

end Propositional.TruthTable
