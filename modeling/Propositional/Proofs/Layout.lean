import Propositional.Proofs.Filling
import Propositional.Proofs.Pictures

namespace Propositional.Console
open Text

theorem mem_join_tabbed (h : c ∈ joinTabbed column parts) :
    c = ' ' ∨ ∃ part ∈ parts, c ∈ part := by
  induction parts generalizing column with
  | nil => cases h
  | cons part rest ih =>
    cases rest with
    | nil => exact .inr ⟨part, List.mem_singleton_self part, h⟩
    | cons next rest =>
      rw [joinTabbed] at h
      simp only [List.mem_append, List.mem_singleton] at h
      rcases h with ((h | h) | h) | h
      · exact .inr ⟨part, List.mem_cons_self, h⟩
      · exact .inl h
      · exact .inl (List.eq_of_mem_replicate h)
      · exact (ih h).imp_right (fun ⟨p, hp, hc⟩ => ⟨p, List.mem_cons_of_mem _ hp, hc⟩)
      all_goals simp

theorem mem_expand_tabs (h : c ∈ expandTabs line) : c = ' ' ∨ c ∈ line ∧ c ≠ '\t' := by
  rcases mem_join_tabbed h with hc | ⟨part, hpart, hc⟩
  · exact .inl hc
  · exact .inr (mem_parts hpart hc)

theorem expand_tabs_of_no_tab (h : '\t' ∉ line) : expandTabs line = line := by
  rw [expandTabs, parts_eq_split, List.splitOn_eq_singleton h]
  rfl

theorem drop_excess_initial (cells : Nat) (line : List Char) : dropExcess cells line <+: line :=
  List.take_prefix _ _

theorem drop_excess_eq_iff {cells : Nat} {line : List Char} :
    dropExcess cells line = line ↔ trimEnd line = line ∨ line.length ≤ cells := by
  have hle := (trim_end_initial line).length_le
  have htrim : trimEnd line = line ↔ line.length ≤ (trimEnd line).length :=
    ⟨fun h => (congrArg List.length h).ge, fun h => (trim_end_initial line).eq_of_length_le h⟩
  rw [dropExcess, List.take_eq_self_iff, htrim]
  omega

theorem take_cells_split (cells : Nat) (gs : List Grapheme) :
    totalCells gs ≤ cells ∧ takeCells cells gs = gs.flatMap (·.chars) ∨
    ∃ before g after left, gs = before ++ g :: after ∧ left < g.cells ∧
      takeCells cells gs = before.flatMap (·.chars) ++ blanks left := by
  induction gs generalizing cells with
  | nil => exact .inl ⟨Nat.zero_le _, rfl⟩
  | cons g gs ih =>
    rw [takeCells]
    by_cases hg : g.cells ≤ cells
    · rw [if_pos hg]
      rcases ih (cells - g.cells) with
        ⟨htotal, htake⟩ | ⟨before, x, after, left, rfl, hleft, htake⟩
      · refine .inl ⟨?_, by rw [htake]; rfl⟩
        change g.cells + totalCells gs ≤ cells
        omega
      · exact .inr ⟨g :: before, x, after, left, rfl, hleft, by
          rw [htake, List.flatMap_cons, List.append_assoc]⟩
    · rw [if_neg hg]
      exact .inr ⟨[], g, gs, cells, rfl, Nat.lt_of_not_le hg, rfl⟩

theorem mem_cut {cells : Nat} {line : List Char} (h : c ∈ cut cells line) : c = ' ' ∨ c ∈ line := by
  rw [cut] at h
  split at h
  · cases h
  · have hchars := chars_graphemes line
    rcases take_cells_split cells (graphemes line) with
      ⟨-, htake⟩ | ⟨before, g, after, left, hsplit, -, htake⟩
    · rw [htake, hchars] at h
      exact .inr h
    · rw [hsplit, List.flatMap_append] at hchars
      rw [htake] at h
      rcases List.mem_append.mp h with h | h
      · exact .inr (hchars ▸ List.mem_append_left _ h)
      · exact .inl (List.eq_of_mem_replicate h)

theorem mem_truncate {cells : Nat} {line : List Char} (h : c ∈ truncate .fold cells line) :
    c = ' ' ∨ c ∈ line := by
  rw [truncate] at h
  split at h
  · exact .inr h
  · exact mem_cut h

/-- What is cut off does not come back: a space in place of half a wide character is not what was
there. -/
theorem cut_ne {cells : Nat} {line : List Char} (hj : line.head? ≠ some joiner)
    (h : cells < width line) (tail : List Char) : cut cells line ≠ line ++ tail := by
  intro heq
  rw [cut] at heq
  split at heq
  · rw [(List.append_eq_nil_iff.mp heq.symm).1] at h
    exact absurd h (Nat.not_lt_zero _)
  · rcases take_cells_split cells (graphemes line) with
      ⟨htotal, -⟩ | ⟨before, g, after, left, hsplit, hleft, htake⟩
    · rw [total_graphemes hj] at htotal
      omega
    · have hchars := chars_graphemes line
      rw [hsplit, List.flatMap_append, List.flatMap_cons] at hchars
      rw [htake, ← hchars, List.append_assoc, List.append_cancel_left_eq, List.append_assoc] at heq
      obtain ⟨hne, hspaces⟩ := proper_graphemes line g (hsplit ▸ by simp)
      have hcells := hspaces (fun c hc => by
        have hm : c ∈ blanks left := heq ▸ List.mem_append_left _ hc
        exact List.eq_of_mem_replicate hm)
      obtain rfl : left = 0 := by omega
      exact hne (List.append_eq_nil_iff.mp heq.symm).1

theorem truncate_drop_excess_eq_iff {cells : Nat} {line : List Char}
    (hj : line.head? ≠ some joiner) :
    truncate .fold cells (dropExcess cells line) = line ↔
      width line ≤ cells ∧ (trimEnd line = line ∨ line.length ≤ cells) := by
  rw [← drop_excess_eq_iff]
  constructor
  · intro h
    obtain ⟨tail, htail⟩ := drop_excess_initial cells line
    generalize dropExcess cells line = kept at h htail ⊢
    rw [truncate] at h
    split at h
    · next hwidth => exact ⟨h ▸ hwidth, h⟩
    · next hwidth =>
      refine absurd (h.trans htail.symm) (cut_ne ?_ (Nat.lt_of_not_le hwidth) tail)
      cases kept with
      | nil => exact absurd (Nat.zero_le _) hwidth
      | cons c kept => exact fun hc => hj (htail ▸ hc)
  · rintro ⟨hwidth, hdrop⟩
    rw [hdrop, truncate, if_pos hwidth]

/-- The lines that one line of a text is laid out in. -/
def lineLayout (cells : Nat) (line : List Char) : List (List Char) :=
  (fill .fold cells (expandTabs (sanitize line))).map (dropExcess cells)

theorem lay_out_eq (cells : Nat) (cs : List Char) :
    layOut .fold cells cs = (splitLines cs).flatMap (lineLayout cells) := by
  have hlines : splitLines (sanitize cs) = (splitLines cs).map sanitize := parts_filter rfl cs
  rw [layOut, hlines, List.flatMap_map]
  rfl

/-- The lines that one line of a text is shown in. -/
def shownAs (cells : Nat) (line : List Char) : List (List Char) :=
  (lineLayout cells line).map (truncate .fold cells)

theorem wrap_eq_flat_map (cells : Nat) (cs : List Char) :
    wrap .unset .fold cells cs = (splitLines cs).flatMap (shownAs cells) := by
  rw [wrap, lay_out_eq, List.map_flatMap]
  rfl

theorem shown_as_ne_nil (cells : Nat) (line : List Char) : shownAs cells line ≠ [] := by
  simp [shownAs, lineLayout, fill_ne_nil]

theorem mem_shown_as (hl : l ∈ shownAs cells line) (hc : c ∈ l) :
    c = ' ' ∨ c ∈ line ∧ c ≠ '\t' ∧ isDropped c = false := by
  obtain ⟨laid, hlaid, rfl⟩ := List.mem_map.mp hl
  obtain ⟨filled, hfilled, rfl⟩ := List.mem_map.mp hlaid
  rcases mem_truncate hc with hc | hc
  · exact .inl hc
  · have hmem : c ∈ expandTabs (sanitize line) := by
      rw [← fill_flatten .fold cells (expandTabs (sanitize line))]
      exact List.mem_flatten_of_mem hfilled ((drop_excess_initial cells filled).subset hc)
    rcases mem_expand_tabs hmem with hc | ⟨hc, htab⟩
    · exact .inl hc
    · obtain ⟨hline, hdropped⟩ := List.mem_filter.mp hc
      exact .inr ⟨hline, htab, by simpa using hdropped⟩

/-- Tabs and the controls that a console drops do not occur. -/
def Plain (line : List Char) : Prop := ∀ c ∈ line, c ≠ '\t' ∧ isDropped c = false

instance (line : List Char) : Decidable (Plain line) := List.decidableBAll _ line

theorem Plain.expand_tabs (h : Plain line) : expandTabs (sanitize line) = line := by
  have hsanitize : sanitize line = line :=
    List.filter_eq_self.mpr (fun c hc => by rw [(h c hc).2]; rfl)
  rw [hsanitize]
  exact expand_tabs_of_no_tab (fun hc => (h '\t' hc).1 rfl)

theorem plain_of_shown_as (h : shownAs cells line = [line]) : Plain line := by
  intro c hc
  rcases mem_shown_as (h ▸ List.mem_singleton_self line) hc with rfl | ⟨-, hplain⟩
  · decide
  · exact hplain

/-- A line that fits is laid out as it is. -/
theorem line_layout_of_fits (hplain : Plain line) (hwidth : width line ≤ cells)
    (hblanks : trimEnd line = line ∨ line.length ≤ cells) : lineLayout cells line = [line] := by
  rw [lineLayout, hplain.expand_tabs, fill_of_fits .fold hwidth, List.map_singleton,
    drop_excess_eq_iff.mpr hblanks]

/-- Only a line that fits is shown as it is. -/
theorem shown_as_eq_iff {cells : Nat} {line : List Char} (hj : line.head? ≠ some joiner) :
    shownAs cells line = [line] ↔
      Plain line ∧ width line ≤ cells ∧ (trimEnd line = line ∨ line.length ≤ cells) := by
  constructor
  · intro h
    have hplain := plain_of_shown_as h
    refine ⟨hplain, (truncate_drop_excess_eq_iff hj).mp ?_⟩
    rw [shownAs, lineLayout, hplain.expand_tabs, List.map_map] at h
    obtain ⟨filled, hfill, htruncate⟩ := List.map_eq_singleton_iff.mp h
    have hflatten := fill_flatten .fold cells line
    rw [hfill, List.flatten_singleton] at hflatten
    rwa [hflatten] at htruncate
  · rintro ⟨hplain, hwidth, hblanks⟩
    rw [shownAs, line_layout_of_fits hplain hwidth hblanks, List.map_singleton, truncate,
      if_pos hwidth]

section
variable [Library]

theorem wrap_fault_eq_none_iff {cells : Nat} {cs : List Char} :
    wrapFault? .unset .fold cells cs = none ↔ ∀ line ∈ splitLines cs,
      ∀ laid ∈ lineLayout cells line, Overflow.fold.fault? cells laid = none := by
  rw [wrapFault?, lay_out_eq, List.findSome?_eq_none_iff]
  simp only [List.mem_flatMap, forall_exists_index, and_imp]
  exact ⟨fun h line hline laid hlaid => h laid line hline hlaid,
    fun h laid line hline hlaid => h line hline laid hlaid⟩

/-- A line that a console of some cells shows as it is. It has no tabs and none of the controls
that are dropped, is not too wide and, if it ends in blanks, not too long either. What begins with
a joiner is measured in two ways; then the layout itself has to tell. -/
def Kept (cells : Nat) (line : List Char) : Prop :=
  Plain line ∧
    (width line ≤ cells ∧ (trimEnd line = line ∨ line.length ≤ cells) ∨
      line.head? = some joiner ∧ shownAs cells line = [line] ∧
        ∀ laid ∈ lineLayout cells line, Overflow.fold.fault? cells laid = none)

instance (cells : Nat) (line : List Char) : Decidable (Kept cells line) :=
  inferInstanceAs (Decidable (Plain line ∧ _))

theorem kept_iff {cells : Nat} {line : List Char} :
    Kept cells line ↔ shownAs cells line = [line] ∧
      ∀ laid ∈ lineLayout cells line, Overflow.fold.fault? cells laid = none := by
  constructor
  · rintro ⟨hplain, ⟨hwidth, hblanks⟩ | ⟨-, h⟩⟩
    · have hlayout := line_layout_of_fits hplain hwidth hblanks
      rw [shownAs, hlayout, List.map_singleton, truncate, if_pos hwidth]
      exact ⟨rfl, List.forall_mem_singleton.mpr (if_pos hwidth)⟩
    · exact h
  · intro h
    refine ⟨plain_of_shown_as h.1, ?_⟩
    by_cases hj : line.head? = some joiner
    · exact .inr ⟨hj, h⟩
    · exact .inl ((shown_as_eq_iff hj).mp h.1).2

end

/-- If each part is made into one at least and their number stays the same, none is made into
several. -/
theorem flat_map_eq_self {f : α → List α} {xs : List α} (hf : ∀ x, f x ≠ []) :
    xs.flatMap f = xs ↔ ∀ x ∈ xs, f x = [x] := by
  have hlength : ∀ xs : List α, xs.length ≤ (xs.flatMap f).length := by
    intro xs
    induction xs with
    | nil => exact Nat.le_refl 0
    | cons x xs ih =>
      have hx := List.length_pos_iff.mpr (hf x)
      rw [List.flatMap_cons, List.length_append, List.length_cons]
      omega
  induction xs with
  | nil => simp
  | cons x xs ih =>
    rw [List.flatMap_cons, List.forall_mem_cons]
    constructor
    · intro h
      obtain ⟨y, ys, hx⟩ := List.exists_cons_of_ne_nil (hf x)
      rw [hx, List.cons_append] at h
      obtain ⟨rfl, hrest⟩ := List.cons.inj h
      have hshort := hlength xs
      have htotal := congrArg List.length hrest
      rw [List.length_append] at htotal
      obtain rfl : ys = [] := List.length_eq_zero_iff.mp (by omega)
      exact ⟨hx, ih.mp hrest⟩
    · rintro ⟨hx, hxs⟩
      rw [hx, ih.mpr hxs]
      rfl

theorem break_not_mem_wrap (h : line ∈ wrap .unset .fold cells cs) : '\n' ∉ line := by
  rw [wrap_eq_flat_map] at h
  obtain ⟨whole, hwhole, hline⟩ := List.mem_flatMap.mp h
  intro hbreak
  rcases mem_shown_as hline hbreak with h | ⟨h, -⟩
  · exact absurd h (by decide)
  · exact (mem_parts hwhole h).2 rfl

theorem wrap_eq_split_iff {cells : Nat} {cs : List Char} :
    wrap .unset .fold cells cs = splitLines cs ↔
      ∀ line ∈ splitLines cs, shownAs cells line = [line] := by
  rw [wrap_eq_flat_map, flat_map_eq_self (shown_as_ne_nil cells)]

/-- A text is laid out as it is on a terminal that has any width and keeps all lines. -/
theorem typeset_eq_iff [Library] {cells : Nat} {text : String} :
    typeset? cells text.toList = .ok (text ++ "\n") ↔
      0 < cells ∧ ∀ line ∈ splitLines text.toList, Kept cells line := by
  have hlines : wrap .unset .fold cells text.toList ≠ [] := by
    rw [wrap_eq_flat_map, splitLines, parts_eq_split]
    obtain ⟨line, lines, hsplit⟩ :=
      List.exists_cons_of_ne_nil (List.splitOn_ne_nil '\n' text.toList)
    rw [hsplit, List.flatMap_cons]
    exact List.append_ne_nil_of_left_ne_nil (shown_as_ne_nil cells line) _
  have hunlines : unlines (wrap .unset .fold cells text.toList) = text ++ "\n" ↔
      wrap .unset .fold cells text.toList = splitLines text.toList :=
    unlines_eq_iff hlines (fun line => break_not_mem_wrap)
  rw [wrap_eq_split_iff] at hunlines
  rcases Nat.eq_zero_or_pos cells with rfl | hcells
  · simp [typeset?]
  · have hne : cells ≠ 0 := Nat.ne_of_gt hcells
    simp only [kept_iff, forall₂_and, hcells, true_and, ← wrap_fault_eq_none_iff, ← hunlines]
    rw [typeset?, if_neg hne, typeset, if_neg hne]
    cases wrapFault? .unset .fold cells text.toList with
    | none => simp
    | some fault => simp

theorem typeset_of_ok [Library] (h : typeset? cells cs = .ok shown) : typeset cells cs = shown := by
  rw [typeset?] at h
  split at h
  · next hcells =>
    rw [typeset, if_pos hcells]
    exact Except.ok.inj h
  · split at h
    · cases h
    · exact Except.ok.inj h

theorem count_flat_map_le {f : List Char → List Char} (h : ∀ line, (f line).count c ≤ line.count c)
    (lines : List (List Char)) : (lines.flatMap f).count c ≤ lines.flatten.count c := by
  induction lines with
  | nil => exact Nat.le_refl _
  | cons line lines ih =>
    rw [List.flatMap_cons, List.flatten_cons, List.count_append, List.count_append]
    exact Nat.add_le_add (h line) ih

section
variable {c : Char} (hc : c ≠ ' ')
include hc

theorem count_join_tabbed (column : Nat) (parts : List (List Char)) :
    (joinTabbed column parts).count c = parts.flatten.count c := by
  induction parts generalizing column with
  | nil => rfl
  | cons part rest ih =>
    cases rest with
    | nil => simp [joinTabbed]
    | cons next rest =>
      have hblanks : ∀ n, (blanks n).count c = 0 := fun n =>
        List.count_eq_zero.mpr (fun hm => hc (List.eq_of_mem_replicate hm))
      rw [joinTabbed]
      · simp only [List.count_append, ih, hblanks, List.flatten_cons]
        simp [hc.symm]
      · exact List.cons_ne_nil _ _

theorem count_cut_le (cells : Nat) (line : List Char) :
    (cut cells line).count c ≤ line.count c := by
  rw [cut]
  split
  · exact Nat.zero_le _
  · have hchars := chars_graphemes line
    rcases take_cells_split cells (graphemes line) with
      ⟨-, htake⟩ | ⟨before, g, after, left, hsplit, -, htake⟩
    · rw [htake, hchars]
    · have hblanks : (blanks left).count c = 0 :=
        List.count_eq_zero.mpr (fun hm => hc (List.eq_of_mem_replicate hm))
      rw [hsplit, List.flatMap_append] at hchars
      rw [htake, ← hchars, List.count_append, List.count_append, hblanks]
      exact Nat.le_add_right _ _

theorem count_truncate_le (cells : Nat) (line : List Char) :
    (truncate .fold cells line).count c ≤ line.count c := by
  rw [truncate]
  split
  · exact Nat.le_refl _
  · exact count_cut_le hc cells line

theorem count_shown_as_le (cells : Nat) (line : List Char) :
    (shownAs cells line).flatten.count c ≤ line.count c := by
  have hlayout : shownAs cells line = (fill .fold cells (expandTabs (sanitize line))).map
      (fun filled => truncate .fold cells (dropExcess cells filled)) := by
    rw [shownAs, lineLayout, List.map_map]
    rfl
  have hshown : ∀ filled, (truncate .fold cells (dropExcess cells filled)).count c ≤
      filled.count c := fun filled =>
    Nat.le_trans (count_truncate_le hc _ _) ((drop_excess_initial cells filled).count_le c)
  rw [hlayout, ← List.flatMap_def]
  refine Nat.le_trans (count_flat_map_le hshown _) ?_
  rw [fill_flatten, expandTabs, count_join_tabbed hc]
  exact Nat.le_trans ((parts_sublist '\t' _).count_le c) (List.filter_sublist.count_le c)

/-- Laying a text out brings no character but blanks and line breaks. -/
theorem count_typeset_le (hbreak : c ≠ '\n') (cells : Nat) (cs : List Char) :
    (typeset cells cs).toList.count c ≤ cs.count c := by
  rw [typeset]
  split
  · exact Nat.zero_le _
  · have hlines : ∀ line : List Char, (line ++ ['\n']).count c ≤ line.count c := by
      simp [hbreak.symm]
    have hparts : ∀ lines : List (List Char),
        (lines.flatMap (shownAs cells)).flatten.count c ≤ lines.flatten.count c := by
      intro lines
      rw [← List.flatMap_id, List.flatMap_assoc]
      simp only [List.flatMap_id]
      exact count_flat_map_le (count_shown_as_le hc cells) lines
    rw [unlines, String.toList_ofList, wrap_eq_flat_map]
    refine Nat.le_trans (count_flat_map_le hlines _) (Nat.le_trans (hparts _) ?_)
    exact (parts_sublist '\n' cs).count_le c

end

/-- A console shows a text as it is if it has no codes of pictures and the console has any width and
keeps all lines. -/
theorem print_eq_iff [Library] {cells : Nat} {text : String} :
    print? cells text = .ok (text ++ "\n") ↔ pictures text.toList = text.toList ∧
      0 < cells ∧ ∀ line ∈ splitLines text.toList, Kept cells line := by
  rw [← typeset_eq_iff, print?]
  constructor
  · intro h
    -- The codes would be missing among the colons that are shown.
    have hcount := count_typeset_le (c := ':') (by decide) (by decide) cells (pictures text.toList)
    rw [typeset_of_ok h, String.toList_append, List.count_append] at hcount
    have hsame := pictures_of_count (Nat.le_of_add_right_le hcount)
    rw [hsame] at h
    exact ⟨hsame, h⟩
  · rintro ⟨hsame, h⟩
    rwa [hsame]

/-- Some width is enough for all lines. -/
theorem exists_wide (lines : List (List Char)) :
    ∃ wide, ∀ cells ≥ wide, ∀ line ∈ lines, width line ≤ cells ∧ line.length ≤ cells := by
  induction lines with
  | nil => exact ⟨0, nofun⟩
  | cons line lines ih =>
    obtain ⟨wide, hwide⟩ := ih
    refine ⟨max wide (max (width line) line.length), fun cells hcells => ?_⟩
    rw [List.forall_mem_cons]
    exact ⟨by omega, hwide cells (by omega)⟩

/-- A text without tabs and dropped controls is laid out as it is on a terminal that is wide
enough. -/
theorem typeset_of_wide [Library] {text : String} (h : Plain text.toList) :
    ∃ wide, ∀ cells ≥ wide, typeset? cells text.toList = .ok (text ++ "\n") := by
  obtain ⟨wide, hwide⟩ := exists_wide (splitLines text.toList)
  refine ⟨max wide 1, fun cells hcells => typeset_eq_iff.mpr ⟨by omega, fun line hline => ?_⟩⟩
  obtain ⟨hwidth, hlength⟩ := hwide cells (by omega) line hline
  exact ⟨fun c hc => h c (mem_parts hline hc).1, .inl ⟨hwidth, .inr hlength⟩⟩

/-- Tabs and dropped controls are never shown. -/
theorem plain_of_typeset [Library] {shown : String}
    (h : typeset? cells cs = .ok (shown ++ "\n")) : Plain shown.toList := by
  intro c hc
  have hm : c ∈ (typeset cells cs).toList := by
    rw [typeset_of_ok h, String.toList_append]
    exact List.mem_append_left _ hc
  rw [typeset] at hm
  split at hm
  · cases hm
  · rw [unlines, String.toList_ofList, List.mem_flatMap] at hm
    obtain ⟨line, hline, hm⟩ := hm
    rw [wrap_eq_flat_map] at hline
    obtain ⟨whole, -, hline⟩ := List.mem_flatMap.mp hline
    rcases List.mem_append.mp hm with hm | hm
    · rcases mem_shown_as hline hm with rfl | ⟨-, hplain⟩
      · decide
      · exact hplain
    · rw [List.mem_singleton.mp hm]
      decide

end Propositional.Console
