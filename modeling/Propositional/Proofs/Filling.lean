import Mathlib.Algebra.GroupWithZero.Nat
import Mathlib.Data.List.Basic
import Mathlib.Data.List.TakeDrop
import Mathlib.Data.List.TakeWhile
import Propositional.Console.Print
import Propositional.Proofs.Graphemes

namespace Propositional.Console
open Text

theorem parts_cons_self (separator : Char) (cs : List Char) :
    partsBetween separator (separator :: cs) = [] :: partsBetween separator cs := by
  rw [partsBetween, if_pos (beq_self_eq_true separator)]

theorem parts_cons_of_ne (h : c ≠ separator) (cs : List Char) :
    ∃ part parts, partsBetween separator cs = part :: parts ∧
      partsBetween separator (c :: cs) = (c :: part) :: parts := by
  have hne : partsBetween separator cs ≠ [] := by
    cases cs with
    | nil => exact List.cons_ne_nil _ _
    | cons d cs =>
      rw [partsBetween]
      split
      · exact List.cons_ne_nil _ _
      · split <;> exact List.cons_ne_nil _ _
  obtain ⟨part, parts, hparts⟩ := List.exists_cons_of_ne_nil hne
  refine ⟨part, parts, hparts, ?_⟩
  rw [partsBetween, if_neg (mt eq_of_beq h), hparts]

theorem parts_eq_split (separator : Char) (cs : List Char) :
    partsBetween separator cs = cs.splitOn separator := by
  induction cs with
  | nil => rfl
  | cons c cs ih =>
    rw [List.splitOn_cons_eq_if_modifyHead, ← ih]
    by_cases hc : c = separator
    · rw [hc, parts_cons_self, if_pos (beq_self_eq_true separator)]
    · obtain ⟨part, parts, hparts, hcons⟩ := parts_cons_of_ne hc cs
      rw [hcons, hparts, if_neg (mt eq_of_beq hc)]
      rfl

theorem mem_parts {separator : Char} {cs : List Char} (hpart : part ∈ partsBetween separator cs)
    (hc : c ∈ part) : c ∈ cs ∧ c ≠ separator := by
  induction cs generalizing part with
  | nil =>
    rw [List.mem_singleton.mp hpart] at hc
    cases hc
  | cons d cs ih =>
    by_cases hd : d = separator
    · rw [hd, parts_cons_self] at hpart
      rcases List.mem_cons.mp hpart with rfl | hpart
      · cases hc
      · exact (ih hpart hc).imp_left (List.mem_cons_of_mem d)
    · obtain ⟨first, rest, hparts, hcons⟩ := parts_cons_of_ne hd cs
      rw [hcons] at hpart
      rw [hparts] at ih
      rcases List.mem_cons.mp hpart with rfl | hpart
      · rcases List.mem_cons.mp hc with rfl | hc
        · exact ⟨List.mem_cons_self, hd⟩
        · exact (ih List.mem_cons_self hc).imp_left (List.mem_cons_of_mem d)
      · exact (ih (List.mem_cons_of_mem _ hpart) hc).imp_left (List.mem_cons_of_mem d)

theorem parts_sublist (separator : Char) (cs : List Char) :
    (partsBetween separator cs).flatten.Sublist cs := by
  induction cs with
  | nil => exact .slnil
  | cons c cs ih =>
    by_cases hc : c = separator
    · rw [hc, parts_cons_self]
      exact ih.cons separator
    · obtain ⟨part, parts, hparts, hcons⟩ := parts_cons_of_ne hc cs
      rw [hcons]
      rw [hparts] at ih
      exact ih.cons_cons c

theorem parts_filter {p : Char → Bool} (h : p separator = true) (cs : List Char) :
    partsBetween separator (cs.filter p) = (partsBetween separator cs).map (List.filter p) := by
  induction cs with
  | nil => rfl
  | cons c cs ih =>
    by_cases hc : c = separator
    · rw [hc, List.filter_cons_of_pos h, parts_cons_self, parts_cons_self, ih]
      rfl
    · obtain ⟨part, parts, hparts, hcons⟩ := parts_cons_of_ne hc cs
      rw [hparts, List.map_cons] at ih
      rw [hcons, List.map_cons]
      by_cases hp : p c = true
      · obtain ⟨kept, rest, hkept, hconsKept⟩ := parts_cons_of_ne hc (cs.filter p)
        obtain ⟨rfl, rfl⟩ := List.cons.inj (hkept.symm.trans ih)
        rw [List.filter_cons_of_pos hp, hconsKept, List.filter_cons_of_pos hp]
      · rw [List.filter_cons_of_neg hp, ih, List.filter_cons_of_neg hp]

/-- Lines without line breaks can be told from the text they give. -/
theorem unlines_eq_iff {lines : List (List Char)} {text : String} (hlines : lines ≠ [])
    (h : ∀ line ∈ lines, '\n' ∉ line) :
    unlines lines = text ++ "\n" ↔ lines = splitLines text.toList := by
  have hunlines : ∀ lines : List (List Char), lines ≠ [] →
      lines.flatMap (· ++ ['\n']) = ['\n'].intercalate lines ++ ['\n'] := by
    intro lines hne
    induction lines with
    | nil => exact absurd rfl hne
    | cons line rest ih =>
      cases rest with
      | nil => simp [List.intercalate]
      | cons next rest =>
        rw [List.flatMap_cons, ih (List.cons_ne_nil _ _)]
        simp [List.intercalate]
  rw [unlines, ← String.toList_inj, String.toList_ofList, String.toList_append,
    hunlines lines hlines]
  change _ ++ ['\n'] = _ ++ ['\n'] ↔ _
  rw [List.append_cancel_right_eq, splitLines, parts_eq_split]
  constructor
  · rintro heq
    rw [← heq, List.splitOn_intercalate '\n' h hlines]
  · rintro rfl
    exact List.intercalate_splitOn '\n'

theorem head_drop_while {p : Char → Bool} {cs : List Char} (h : c ∈ (cs.dropWhile p).head?) :
    p c = false := by
  have hnot := List.head?_dropWhile_not p cs
  rw [Option.mem_def.mp h] at hnot
  exact hnot

/-- A word is taken off a text together with the blanks around it, unless the text is blank. -/
theorem words_succ (fuel : Nat) (cs : List Char) :
    (words (fuel + 1) cs = [] ∧ ∀ c ∈ cs, isBlank c = true) ∨
    ∃ word rest, words (fuel + 1) cs = word :: words fuel rest ∧ cs = word ++ rest ∧ word ≠ [] ∧
      (∀ c ∈ rest.head?, isBlank c = false) ∧
      (rest ≠ [] → ∃ c ∈ word.getLast?, isBlank c = true) := by
  rw [words]
  simp only [List.span_eq_takeWhile_dropWhile]
  generalize hshown : cs.dropWhile isBlank = shown
  have hcs : cs.takeWhile isBlank ++ shown = cs := hshown ▸ List.takeWhile_append_dropWhile
  have hstart : ∀ c ∈ shown.head?, isBlank c = false := fun c hc =>
    head_drop_while (hshown ▸ hc)
  split
  · next hempty =>
    refine .inl ⟨rfl, List.dropWhile_eq_nil_iff.mp (hshown.trans ?_)⟩
    cases shown with
    | nil => rfl
    | cons c shown =>
      rw [List.takeWhile_cons_of_pos (by rw [hstart c rfl]; rfl)] at hempty
      cases hempty
  · next hword =>
    generalize hafter : shown.dropWhile (!isBlank ·) = after
    have hsplit : shown.takeWhile (!isBlank ·) ++ after = shown :=
      hafter ▸ List.takeWhile_append_dropWhile
    refine .inr ⟨_, _, rfl, ?_, ?_, fun c hc => head_drop_while hc, fun hrest => ?_⟩
    · rw [List.append_assoc, List.takeWhile_append_dropWhile, List.append_assoc, hsplit, hcs]
    · intro hnil
      rw [List.append_eq_nil_iff, List.append_eq_nil_iff] at hnil
      exact hword (List.isEmpty_iff.mpr hnil.1.2)
    · cases after with
      | nil => exact absurd rfl hrest
      | cons c after =>
        have hhead : c ∈ (shown.dropWhile (!isBlank ·)).head? := by
          rw [hafter]
          rfl
        have hc : isBlank c = true := by simpa using head_drop_while hhead
        have hne : (c :: after).takeWhile isBlank ≠ [] := by
          rw [List.takeWhile_cons_of_pos hc]
          exact List.cons_ne_nil _ _
        refine ⟨((c :: after).takeWhile isBlank).getLast hne, ?_,
          List.mem_takeWhile_imp (List.getLast_mem hne)⟩
        rw [List.getLast?_append_of_ne_nil _ hne]
        exact List.getLast?_eq_some_getLast hne

theorem words_flatten {fuel : Nat} {cs : List Char} (h : cs.length ≤ fuel) :
    (words fuel cs).flatten = cs ∨ words fuel cs = [] ∧ ∀ c ∈ cs, isBlank c = true := by
  induction fuel generalizing cs with
  | zero =>
    obtain rfl := List.length_eq_zero_iff.mp (Nat.le_zero.mp h)
    exact .inl rfl
  | succ fuel ih =>
    rcases words_succ fuel cs with hblank | ⟨word, rest, hwords, rfl, hne, hstart, -⟩
    · exact .inr hblank
    · refine .inl ?_
      have hlength := List.length_pos_iff.mpr hne
      rw [List.length_append] at h
      have hfuel : rest.length ≤ fuel := by omega
      rw [hwords, List.flatten_cons]
      rcases ih hfuel with hrest | ⟨hnil, hblank⟩
      · rw [hrest]
      · cases rest with
        | nil => rw [hnil]; rfl
        | cons c rest =>
          exact absurd ((hstart c rfl).symm.trans (hblank c List.mem_cons_self)) nofun

/-- Words side by side take no more cells than the text that they make up. -/
theorem words_width {fuel : Nat} {cs : List Char} (h : cs.length ≤ fuel) :
    ((words fuel cs).map width).sum ≤ width cs := by
  induction fuel generalizing cs with
  | zero => exact Nat.zero_le _
  | succ fuel ih =>
    rcases words_succ fuel cs with ⟨hnil, -⟩ | ⟨word, rest, hwords, rfl, hne, -, hlast⟩
    · rw [hnil]
      exact Nat.zero_le _
    · have hlength := List.length_pos_iff.mpr hne
      rw [List.length_append] at h
      have hfuel : rest.length ≤ fuel := by omega
      have hrest := ih hfuel
      rw [hwords, List.map_cons, List.sum_cons]
      refine Nat.le_trans (Nat.add_le_add_left hrest _) ?_
      by_cases hnil : rest = []
      · rw [hnil, List.append_nil]
        exact Nat.le_refl _
      · obtain ⟨c, hc, hblank⟩ := hlast hnil
        refine width_after_add_le none word rest ?_
        rw [Option.mem_def.mp hc]
        rintro ⟨⟩
        exact absurd hblank (by decide)

theorem chop_graphemes_flatten (cells : Nat) (piece : List Char) (used : Nat)
    (gs : List Grapheme) (h : ∀ g ∈ gs, 0 < g.cells) (hused : used = 0 → gs ≠ []) :
    (chopGraphemes cells piece used gs).flatten = piece ++ gs.flatMap (·.chars) := by
  induction gs generalizing piece used with
  | nil =>
    rw [chopGraphemes, if_neg (fun hzero => hused hzero rfl)]
    rfl
  | cons g gs ih =>
    have hg := h g List.mem_cons_self
    have hgs : ∀ g ∈ gs, 0 < g.cells := fun x hm => h x (List.mem_cons_of_mem _ hm)
    rw [chopGraphemes, List.flatMap_cons]
    split
    · rw [List.flatten_cons, ih g.chars g.cells hgs (fun hzero => absurd hzero (Nat.ne_of_gt hg))]
    · rw [ih _ _ hgs (by omega), List.append_assoc]

/-- The pieces of a word give it again, unless there are none. -/
theorem chop_flatten {cells : Nat} {word : List Char} (h : chop cells word ≠ []) :
    (chop cells word).flatten = word := by
  cases word with
  | nil => rfl
  | cons c cs =>
    obtain ⟨first, rest, hgraphemes, -, hrest⟩ :=
      cells_grow (.single c (charWidth c)) (if charWidth c = 0 then none else some c) cs
    have hchars := chars_graphemes (c :: cs)
    rw [chop] at h ⊢
    rw [graphemes] at h hchars ⊢
    rw [hgraphemes] at h hchars ⊢
    rw [chopGraphemes, Nat.zero_add, List.nil_append] at h ⊢
    rw [List.flatMap_cons] at hchars
    by_cases hfirst : first.cells = 0 ∧ rest = []
    · rw [hfirst.1, hfirst.2, if_neg (Nat.not_lt_zero _)] at h
      exact absurd rfl h
    · have hflatten := chop_graphemes_flatten cells first.chars first.cells rest hrest
        (fun hzero hnil => hfirst ⟨hzero, hnil⟩)
      split
      · rw [List.flatten_cons, List.nil_append, hflatten, hchars]
      · rw [hflatten, hchars]

theorem trim_end_initial (cs : List Char) : trimEnd cs <+: cs := by
  have hsuffix := List.dropWhile_suffix (l := cs.reverse) isBlank
  rw [trimEnd, ← List.reverse_suffix, List.reverse_reverse]
  exact hsuffix

theorem width_trim_end (cs : List Char) : width (trimEnd cs) ≤ width cs := by
  obtain ⟨tail, htail⟩ := trim_end_initial cs
  exact (width_after_append none (trimEnd cs) tail).trans_eq (congrArg width htail)

namespace Filling

/-- All that is written so far. -/
def text (f : Filling) : List Char := f.lines.flatten ++ f.line

theorem text_append (f : Filling) (word : List Char) : (f.append word).text = f.text ++ word :=
  (List.append_assoc _ _ _).symm

theorem text_break (f : Filling) : { f.breakLine with used := 0 }.text = f.text := by
  rw [text, text, breakLine]
  split
  · rfl
  · simp

theorem text_pieces (f : Filling) (pieces : List (List Char)) :
    (pieces.foldl (fun f piece => { f.breakLine with used := 0 }.append piece) f).text =
      f.text ++ pieces.flatten := by
  induction pieces generalizing f with
  | nil => rw [List.foldl_nil, List.flatten_nil, List.append_nil]
  | cons piece pieces ih =>
    rw [List.foldl_cons, ih, text_append, text_break, List.flatten_cons, List.append_assoc]

theorem text_add (overflow : Overflow) (cells : Nat) (f : Filling) (word : List Char) :
    (f.addWord overflow cells word).text = f.text ++ word := by
  rw [addWord]
  dsimp only
  split
  · exact text_append f word
  · split
    · split
      · exact (List.append_assoc _ _ _).symm
      · next hpieces => rw [text_pieces, chop_flatten hpieces]
    · rw [text_append, text_break]

theorem text_words (overflow : Overflow) (cells : Nat) (f : Filling) (ws : List (List Char)) :
    (ws.foldl (addWord overflow cells) f).text = f.text ++ ws.flatten := by
  induction ws generalizing f with
  | nil => rw [List.foldl_nil, List.flatten_nil, List.append_nil]
  | cons word ws ih =>
    rw [List.foldl_cons, ih, text_add, List.flatten_cons, List.append_assoc]

/-- Words that fit stay on the line. -/
theorem words_fit (overflow : Overflow) {cells : Nat} {f : Filling} {ws : List (List Char)}
    (h : f.used + (ws.map width).sum ≤ cells) :
    (ws.foldl (addWord overflow cells) f).lines = f.lines := by
  induction ws generalizing f with
  | nil => rfl
  | cons word ws ih =>
    rw [List.map_cons, List.sum_cons] at h
    have htrim := width_trim_end word
    have hadd : f.addWord overflow cells word = f.append word := by
      rw [addWord]
      exact if_pos (by omega)
    rw [List.foldl_cons, hadd, ih]
    · rfl
    · simp only [append]
      omega

end Filling

/-- Filling loses no character. -/
theorem fill_flatten (overflow : Overflow) (cells : Nat) (line : List Char) :
    (fill overflow cells line).flatten = line := by
  rw [fill]
  split
  · exact List.append_nil line
  · next hwords =>
    have htext := Filling.text_words overflow cells ⟨[], [], 0⟩ (words line.length line)
    rcases words_flatten (Nat.le_refl line.length) with hline | ⟨hnil, -⟩
    · rw [hline] at htext
      simpa [Filling.text] using htext
    · exact absurd hnil hwords

/-- A line that fits is one line. -/
theorem fill_of_fits (overflow : Overflow) {cells : Nat} {line : List Char}
    (h : width line ≤ cells) : fill overflow cells line = [line] := by
  have hfit : ((words line.length line).foldl (Filling.addWord overflow cells) ⟨[], [], 0⟩).lines =
      [] := by
    refine Filling.words_fit overflow ?_
    rw [Nat.zero_add]
    exact Nat.le_trans (words_width (Nat.le_refl _)) h
  have hflatten := fill_flatten overflow cells line
  rw [fill] at hflatten ⊢
  split
  · rfl
  · next hwords =>
    simp only [hfit, List.nil_append, List.flatten_singleton] at hflatten ⊢
    rw [hflatten]

theorem fill_ne_nil (overflow : Overflow) (cells : Nat) (line : List Char) :
    fill overflow cells line ≠ [] := by
  rw [fill]
  split
  · exact List.cons_ne_nil _ _
  · exact List.append_ne_nil_of_right_ne_nil _ (List.cons_ne_nil _ _)

end Propositional.Console
