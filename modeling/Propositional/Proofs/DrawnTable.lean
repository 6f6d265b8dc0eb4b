import Propositional.Console.Box
import Propositional.Proofs.LiteralMarkup
import Propositional.Proofs.Layout
import Propositional.Proofs.Renaming
import Propositional.Proofs.WrittenCells

namespace Propositional.Console
open Text

theorem joiner_ne_space : joiner ≠ ' ' := by decide

theorem fault_of_no_joiner [Library] (overflow : Overflow) (cells : Nat) {line : List Char}
    (h : joiner ∉ line) : overflow.fault? cells line = none := by
  unfold Overflow.fault?
  split
  · rfl
  · cases overflow with
    | fold => exact Library.cut_free cells line h
    | ellipsis => exact Library.cut_free (cells - 1) line h

theorem joiner_not_mem_lay_out (h : joiner ∉ cs) (hline : line ∈ layOut overflow cells cs) :
    joiner ∉ line := by
  intro hc
  rw [layOut] at hline
  obtain ⟨part, hpart, hline⟩ := List.mem_flatMap.mp hline
  obtain ⟨filled, hfilled, rfl⟩ := List.mem_map.mp hline
  have hm : joiner ∈ expandTabs part := by
    rw [← fill_flatten overflow cells (expandTabs part)]
    exact List.mem_flatten_of_mem hfilled ((drop_excess_initial cells filled).subset hc)
  rcases mem_expand_tabs hm with hm | ⟨hm, -⟩
  · exact joiner_ne_space hm
  · exact h (List.mem_of_mem_filter (mem_parts hpart hm).1)

theorem joiner_not_mem_trim (h : joiner ∉ line) : joiner ∉ trimEnd line := fun hc =>
  h ((trim_end_initial line).subset hc)

theorem joiner_not_mem_blanks (n : Nat) : joiner ∉ blanks n := fun hc =>
  joiner_ne_space (List.eq_of_mem_replicate hc)

theorem joiner_not_mem_truncate (h : joiner ∉ line) : joiner ∉ truncate overflow cells line := by
  unfold truncate
  split
  · exact h
  · have hcut : ∀ n, joiner ∉ cut n line := fun n hc =>
      (mem_cut hc).elim joiner_ne_space h
    cases overflow with
    | fold => exact hcut cells
    | ellipsis =>
      rw [List.mem_append, not_or]
      exact ⟨hcut _, by decide⟩

/-- Wrapping adds blanks and ellipses only. -/
theorem joiner_not_mem_wrap (h : joiner ∉ cs) (hline : line ∈ wrap how overflow cells cs) :
    joiner ∉ line := by
  obtain ⟨laid, hlaid, rfl⟩ := List.mem_map.mp hline
  have hfree := joiner_not_mem_lay_out h hlaid
  cases how with
  | unset => exact joiner_not_mem_truncate hfree
  | left =>
    simp [justify, padRight, joiner_not_mem_truncate hfree, joiner_not_mem_blanks]
  | center =>
    have htrim := joiner_not_mem_trim hfree
    simp [justify, padRight, joiner_not_mem_truncate htrim, joiner_not_mem_blanks]

theorem wrap_fault_of_no_joiner [Library] (h : joiner ∉ cs) :
    wrapFault? how overflow cells cs = none := by
  rw [wrapFault?, List.findSome?_eq_none_iff]
  intro line hline
  have hfree := joiner_not_mem_lay_out h hline
  apply fault_of_no_joiner
  split
  · exact joiner_not_mem_trim hfree
  · exact hfree

theorem joiner_not_mem_intercalate {bar : List Char} {parts : List (List Char)}
    (hbar : joiner ∉ bar) (h : ∀ part ∈ parts, joiner ∉ part) :
    joiner ∉ bar.intercalate parts := by
  induction parts with
  | nil => simp
  | cons part parts ih =>
    rw [List.forall_mem_cons] at h
    by_cases hparts : parts = []
    · simpa [hparts] using h.1
    · simp [List.intercalate_cons_of_ne_nil hparts, h.1, hbar, ih h.2]

namespace Box

theorem joiner_not_mem_rule (hleft : joiner ≠ left) (hline : joiner ≠ line)
    (hcross : joiner ≠ cross) (hright : joiner ≠ right) (widths : List Nat) :
    joiner ∉ rule left line cross right widths := by
  have hlines : ∀ part ∈ widths.map (List.replicate · line), joiner ∉ part := by
    intro part hpart
    obtain ⟨n, -, rfl⟩ := List.mem_map.mp hpart
    exact fun hc => hline (List.eq_of_mem_replicate hc)
  have hbar : joiner ∉ [cross] := by simpa using hcross
  have hinner := joiner_not_mem_intercalate hbar hlines
  simp [rule, hleft, hright, hinner]

theorem joiner_not_mem_get {block : List (List Char)} (h : ∀ line ∈ block, joiner ∉ line)
    (i : Nat) : joiner ∉ block.getD i [] := by
  rw [List.getD_eq_getElem?_getD]
  cases hline : block[i]? with
  | none => simp
  | some line => exact h line (List.mem_of_getElem? hline)

theorem joiner_not_mem_row (hedge : joiner ≠ edge) (hbar : joiner ≠ bar)
    (h : ∀ lines ∈ cells, ∀ line ∈ lines, joiner ∉ line) (atBottom : Bool) (widths : List Nat) :
    ∀ line ∈ rowLines edge bar atBottom widths cells, joiner ∉ line := by
  have hmissing : ∀ n w, ∀ line ∈ List.replicate n (blanks w), joiner ∉ line :=
    fun n w line hline => List.eq_of_mem_replicate hline ▸ joiner_not_mem_blanks w
  intro line hline
  obtain ⟨i, -, rfl⟩ := List.mem_map.mp hline
  simp only [List.cons_append, List.mem_cons, List.mem_append, List.not_mem_nil, or_false, not_or]
  refine ⟨hedge, joiner_not_mem_intercalate (by simpa using hbar) ?_, hedge⟩
  intro part hpart
  obtain ⟨block, hblock, rfl⟩ := List.mem_map.mp hpart
  obtain ⟨entry, hentry, rfl⟩ := List.mem_map.mp hblock
  have hlines := h entry.1 (List.of_mem_zip hentry).1
  apply joiner_not_mem_get
  split
  · exact List.forall_mem_append.mpr ⟨hmissing _ _, hlines⟩
  · exact List.forall_mem_append.mpr ⟨hlines, hmissing _ _⟩

theorem joiner_not_mem_cell (h : joiner ∉ cs) (how : Justify) (cells : Nat) :
    ∀ line ∈ cellLines how cells cs, joiner ∉ line := by
  intro line hline
  rw [cellLines] at hline
  split at hline
  · cases hline
  · obtain ⟨laid, hlaid, rfl⟩ := List.mem_map.mp hline
    have hfree := joiner_not_mem_wrap h hlaid
    simp [padRight, hfree, joiner_not_mem_blanks, joiner_ne_space]

/-- The texts of a column. -/
def Free (column : RenderedColumn) : Prop := ∀ cs ∈ column.header :: column.cells, joiner ∉ cs

theorem cell_fault_of_no_joiner [Library] (h : joiner ∉ cs) (how : Justify) (cells : Nat) :
    cellFault? how cells cs = none := by
  rw [cellFault?]
  split
  · rfl
  · exact wrap_fault_of_no_joiner h

theorem fault_of_free [Library] (console : Nat) (htitle : joiner ∉ title)
    (hcaption : joiner ∉ caption) (h : ∀ column ∈ columns, Free column) :
    fault? console title caption columns = none := by
  simp only [fault?, wrap_fault_of_no_joiner htitle, wrap_fault_of_no_joiner hcaption,
    Option.or_none, Option.none_or, List.findSome?_eq_none_iff]
  intro entry hentry cs hcs
  exact cell_fault_of_no_joiner (h entry.1 (List.of_mem_zip hentry).1 cs hcs) _ _

theorem free_rows {columns : List RenderedColumn} (h : ∀ column ∈ columns, Free column) (n : Nat) :
    ∀ row ∈ (columns.map (·.cells)).foldr (fun cells rows => List.zipWith List.cons cells rows)
      (List.replicate n []), ∀ cs ∈ row, joiner ∉ cs := by
  induction columns with
  | nil =>
    intro row hrow
    rw [List.eq_of_mem_replicate hrow]
    exact nofun
  | cons column columns ih =>
    rw [List.forall_mem_cons] at h
    intro row hrow
    rw [List.map_cons, List.foldr_cons, ← List.map_uncurry_zip_eq_zipWith] at hrow
    obtain ⟨entry, hentry, rfl⟩ := List.mem_map.mp hrow
    obtain ⟨hcell, hrest⟩ := List.of_mem_zip hentry
    have hfirst := h.1 entry.1 (List.mem_cons_of_mem _ hcell)
    exact List.forall_mem_cons.mpr ⟨hfirst, ih h.2 entry.2 hrest⟩

theorem joiner_not_mem_texts {columns : List RenderedColumn} {texts : List (List Char)}
    (hedge : joiner ≠ edge) (hbar : joiner ≠ bar) (h : ∀ cs ∈ texts, joiner ∉ cs)
    (atBottom : Bool) (widths : List Nat) :
    ∀ line ∈ rowLines edge bar atBottom widths (((columns.zip widths).zip texts).map
      (fun ((column, w), cs) => cellLines column.justify w cs)), joiner ∉ line := by
  apply joiner_not_mem_row hedge hbar
  intro lines hlines
  obtain ⟨entry, hentry, rfl⟩ := List.mem_map.mp hlines
  exact joiner_not_mem_cell (h entry.2 (List.of_mem_zip hentry).2) _ _

/-- A grid of texts without joiners is drawn without joiners. -/
theorem joiner_not_mem_lines (console : Nat) (htitle : joiner ∉ title) (hcaption : joiner ∉ caption)
    (h : ∀ column ∈ columns, Free column) :
    ∀ line ∈ lines console title caption columns, joiner ∉ line := by
  intro line hline
  unfold lines at hline
  simp only [List.mem_append, List.mem_singleton, List.mem_flatMap] at hline
  rcases hline with (((((hline | rfl) | hline) | rfl) | ⟨row, hrow, hline⟩) | rfl) | hline
  · split at hline
    · cases hline
    · exact joiner_not_mem_wrap htitle hline
  · apply joiner_not_mem_rule <;> decide
  · refine joiner_not_mem_texts (by decide) (by decide) ?_ true _ line hline
    intro cs hcs
    obtain ⟨column, hcolumn, rfl⟩ := List.mem_map.mp hcs
    exact h column hcolumn _ List.mem_cons_self
  · apply joiner_not_mem_rule <;> decide
  · refine joiner_not_mem_texts (by decide) (by decide) ?_ false _ line hline
    exact free_rows h _ row hrow
  · apply joiner_not_mem_rule <;> decide
  · exact joiner_not_mem_wrap hcaption hline

end Box

theorem map_m_ok {f : α → Except ε β} {p : β → Prop} {xs : List α}
    (h : ∀ x ∈ xs, ∃ y, f x = .ok y ∧ p y) : ∃ ys, xs.mapM f = .ok ys ∧ ∀ y ∈ ys, p y := by
  induction xs with
  | nil => exact ⟨[], rfl, nofun⟩
  | cons x xs ih =>
    rw [List.forall_mem_cons] at h
    obtain ⟨y, hy, hp⟩ := h.1
    obtain ⟨ys, hys, hps⟩ := ih h.2
    refine ⟨y :: ys, ?_, List.forall_mem_cons.mpr ⟨hp, hps⟩⟩
    rw [List.mapM_cons, hy, hys]
    rfl

section
variable [Library]

/-- A label that can be shown anywhere. -/
def Label.Shows (label : Label) : Prop := ∃ cs, label.render = .ok cs ∧ joiner ∉ cs

theorem shows_of_bare {markup : String} (text : String)
    (h : Markup.bare markup = .ok text) (hcolons : text.toList.count ':' < 2)
    (hfree : joiner ∉ text.toList) : (Label.markup markup).Shows := by
  refine ⟨sanitize text.toList, ?_, fun hc => hfree (List.mem_of_mem_filter hc)⟩
  rw [Label.render, Markup.render_of_codeless h (codeless_of_few hcolons)]
  rfl

/-- All labels of a column can be shown. -/
structure Column.Shows (column : Column) : Prop where
  header : column.header.Shows
  cells : ∀ cell ∈ column.cells, (Label.markup cell).Shows

/-- All texts of a grid can be shown. -/
structure Grid.Shows (grid : Grid) : Prop where
  title : joiner ∉ grid.title.toList
  caption : (Label.markup grid.caption).Shows
  columns : ∀ column ∈ grid.columns, column.Shows

theorem Column.Shows.render {column : Column} (h : column.Shows) :
    ∃ rendered, column.render = .ok rendered ∧ Box.Free rendered := by
  obtain ⟨header, hheader, hfree⟩ := h.header
  obtain ⟨cells, hcells, hfrees⟩ := map_m_ok h.cells
  refine ⟨⟨header, column.justify, cells⟩, ?_, List.forall_mem_cons.mpr ⟨hfree, hfrees⟩⟩
  rw [Column.render, hheader, hcells]
  rfl

end

theorem Column.blank_free (column : Column) : Box.Free column.blank := by
  intro cs hcs
  rcases List.mem_cons.mp hcs with rfl | hcs
  · exact List.not_mem_nil
  · obtain ⟨_, -, rfl⟩ := List.mem_map.mp hcs
    exact List.not_mem_nil

section
variable [Library]

theorem Grid.extend_shows {columns : List Column} (rows : Nat)
    (hcolumns : ∀ column ∈ columns, column.Shows)
    (hcells : ∀ cell ∈ cells, (Label.markup cell).Shows) :
    ∀ column ∈ extend rows columns cells, column.Shows := by
  have hempty : (Label.markup "").Shows :=
    shows_of_bare "" (by decide +kernel) (by decide) (by decide)
  fun_induction extend rows columns cells with
  | case1 cells =>
    intro column hcolumn
    obtain ⟨cell, hcell, rfl⟩ := List.mem_map.mp hcolumn
    refine ⟨hempty, List.forall_mem_append.mpr ⟨fun _ habove => ?_, ?_⟩⟩
    · exact List.eq_of_mem_replicate habove ▸ hempty
    · exact List.forall_mem_singleton.mpr (hcells cell hcell)
  | case2 column columns ih =>
    rw [List.forall_mem_cons] at hcolumns ⊢
    refine ⟨⟨hcolumns.1.header, ?_⟩, ih hcolumns.2 hcells⟩
    exact List.forall_mem_append.mpr ⟨hcolumns.1.cells, List.forall_mem_singleton.mpr hempty⟩
  | case3 column columns cell cells ih =>
    rw [List.forall_mem_cons] at hcolumns hcells ⊢
    refine ⟨⟨hcolumns.1.header, ?_⟩, ih hcolumns.2 hcells.2⟩
    exact List.forall_mem_append.mpr ⟨hcolumns.1.cells, List.forall_mem_singleton.mpr hcells.1⟩

theorem Grid.Shows.add {grid : Grid} (h : grid.Shows)
    (hcells : ∀ cell ∈ cells, (Label.markup cell).Shows) : (grid.addRow cells).Shows :=
  ⟨h.title, h.caption, Grid.extend_shows _ h.columns hcells⟩

theorem Grid.Shows.add_all {grid : Grid} (h : grid.Shows) {rows : List (List String)}
    (hrows : ∀ cells ∈ rows, ∀ cell ∈ cells, (Label.markup cell).Shows) :
    (rows.foldl addRow grid).Shows := by
  induction rows generalizing grid with
  | nil => exact h
  | cons cells rows ih =>
    rw [List.forall_mem_cons] at hrows
    exact ih (h.add hrows.1) hrows.2

/-- A grid whose texts can all be shown can be printed at any width. -/
theorem Grid.Shows.print {grid : Grid} (h : grid.Shows) (cells : Nat) :
    ∃ text, grid.print cells = .ok text := by
  obtain ⟨columns, hcolumns, hfree⟩ :
      ∃ columns, grid.renderColumns cells = .ok columns ∧ ∀ column ∈ columns, Box.Free column := by
    rw [renderColumns]
    split
    · exact ⟨_, rfl, List.forall_mem_map.mpr (fun column _ => column.blank_free)⟩
    · exact map_m_ok (fun column hcolumn => (h.columns column hcolumn).render)
  obtain ⟨caption, hcaption, hcaptionFree⟩ := h.caption
  have htitle : joiner ∉ sanitize grid.title.toList := fun hc => h.title (List.mem_of_mem_filter hc)
  have hlines := Box.joiner_not_mem_lines cells htitle hcaptionFree hfree
  have hfaults : (Box.lines cells (sanitize grid.title.toList) caption columns).findSome?
      (Overflow.fold.fault? cells) = none :=
    List.findSome?_eq_none_iff.mpr (fun line hline => fault_of_no_joiner _ _ (hlines line hline))
  rw [Grid.print, hcolumns, hcaption]
  split
  · exact ⟨_, rfl⟩
  · simp only [bind, Except.bind, Except.mapError]
    rw [Box.fault_of_free cells htitle hcaptionFree hfree, hfaults]
    exact ⟨_, rfl⟩

end

end Propositional.Console

namespace Propositional.TruthTable
open Console (Label Column Grid shows_of_bare)
open Text (joiner)

section
variable [Console.Library]

theorem zero_shows :
    (Label.markup "0").Shows ∧ (Label.markup "[red]0[/]").Shows := by
  constructor
  · exact shows_of_bare "0" (by decide +kernel) (by decide) (by decide)
  · exact shows_of_bare "0" (by decide +kernel) (by decide) (by decide)

theorem one_shows :
    (Label.markup "1").Shows ∧ (Label.markup "[green]1[/]").Shows := by
  constructor
  · exact shows_of_bare "1" (by decide +kernel) (by decide) (by decide)
  · exact shows_of_bare "1" (by decide +kernel) (by decide) (by decide)

theorem row_markups_show (h : ∀ value ∈ row, value = 0 ∨ value = 1) :
    ∀ cell ∈ rowMarkups row, (Label.markup cell).Shows := by
  fun_induction rowMarkups row with
  | case1 => exact nofun
  | case2 result =>
    rw [List.forall_mem_singleton]
    rcases h result (List.mem_singleton_self result) with rfl | rfl
    · exact zero_shows.2
    · exact one_shows.2
  | case3 digit rest _ ih =>
    rw [List.forall_mem_cons] at h ⊢
    refine ⟨?_, ih h.2⟩
    rcases h.1 with rfl | rfl
    · exact zero_shows.1
    · exact one_shows.1

theorem var_shows (h : name ∈ Expression.vars text) :
    (Label.markup name).Shows := by
  have hletters : letters.all (fun c =>
      Console.Markup.bare (String.singleton c) = .ok (String.singleton c) ∧ c ≠ joiner) = true := by
    decide +kernel
  rw [Expression.vars_eq_filter] at h
  obtain ⟨c, hc, rfl⟩ := List.mem_map.mp (List.mem_of_mem_filter h)
  obtain ⟨hbare, hne⟩ := of_decide_eq_true (List.all_eq_true.mp hletters c hc)
  refine shows_of_bare _ hbare ?_ ?_
  · rw [String.toList_singleton]
    exact Nat.lt_succ_of_le List.count_le_length
  · rw [String.toList_singleton, List.mem_singleton]
    exact hne.symm

theorem verdict_line_shows (verdict : Verdict) :
    (Label.markup verdict.line).Shows := by
  refine shows_of_bare verdict.line ?_ ?_ ?_ <;> cases verdict <;> decide +kernel

end

theorem joiner_not_mem_sanitize (h : joiner ∉ text.toList) :
    joiner ∉ (Console.sanitizeText text).toList := by
  rw [Console.sanitizeText, String.toList_ofList]
  exact fun hc => h (List.mem_of_mem_filter hc)

theorem empty_grid_shows [Interpreter] [Console.Library] (h : joiner ∉ expression.toList)
    (verdict : Verdict) :
    ((ofExpression expression).emptyGrid expression verdict).Shows := by
  have htitle := joiner_not_mem_sanitize h
  refine ⟨htitle, verdict_line_shows verdict, List.forall_mem_append.mpr ⟨?_, ?_⟩⟩
  · intro column hcolumn
    obtain ⟨name, hname, rfl⟩ := List.mem_map.mp hcolumn
    exact ⟨var_shows hname, nofun⟩
  · refine List.forall_mem_singleton.mpr ⟨⟨_, rfl, ?_⟩, nofun⟩
    intro hc
    have hheader : joiner ∉ (if expression = "" then " " else expression).toList := by
      split
      · decide
      · exact h
    exact joiner_not_mem_sanitize hheader (List.mem_of_mem_filter hc)

/-- A text without joiners has a table that can be drawn. -/
theorem grid_shows [Interpreter] [Console.Library] (h : joiner ∉ expression.toList) :
    ∃ grid, (ofExpression expression).grid expression = .ok grid ∧ grid.Shows := by
  obtain ⟨verdict, hverdict, -⟩ := verdict_of_results expression
  have hgrid := grid_of_verdict expression hverdict
  rw [(writable_of_expression expression).check] at hgrid
  refine ⟨_, hgrid, ?_⟩
  apply (empty_grid_shows h verdict).add_all
  intro cells hcells
  obtain ⟨row, hrow, rfl⟩ := List.mem_map.mp hcells
  exact row_markups_show (zero_or_one_of_mem hrow)

end Propositional.TruthTable
