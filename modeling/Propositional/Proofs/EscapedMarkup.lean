import Propositional.Proofs.LiteralMarkup

namespace Propositional.Console.Markup
open Text

/-- A backslash is dropped before a bracket that opens no tag. -/
def dropEscapes : List Char → List Char
  | [] => []
  | c :: rest =>
    if c = '\\' ∧ rest.head? = some '[' ∧ tagAt? rest = none then dropEscapes rest
    else c :: dropEscapes rest

theorem drop_escapes_subset (cs : List Char) : dropEscapes cs ⊆ cs := by
  induction cs with
  | nil => exact List.Subset.refl _
  | cons c rest ih =>
    rw [dropEscapes]
    split
    · exact List.subset_cons_of_subset c ih
    · exact List.cons_subset_cons c ih

theorem drop_escapes_of_not_infix (h : ¬['\\', '['] <:+: cs) : dropEscapes cs = cs := by
  induction cs with
  | nil => rfl
  | cons c rest ih =>
    rw [List.infix_cons_iff, not_or] at h
    rw [dropEscapes, if_neg, ih h.2]
    rintro ⟨rfl, hhead, -⟩
    cases rest with
    | nil => cases hhead
    | cons d rest =>
      obtain rfl := Option.some.inj hhead
      exact h.1 ⟨rest, rfl⟩

/-- Nothing is dropped in a tag, nor before it. -/
theorem drop_escapes_tag (n : Nat) (hinner : ∀ d ∈ tag, d ≠ '[' ∧ d ≠ ']')
    (hopens : ∃ c ∈ tag.head?, opensTag c = true) (cs : List Char) :
    dropEscapes (List.replicate n '\\' ++ '[' :: tag ++ ']' :: cs) =
      List.replicate n '\\' ++ '[' :: tag ++ ']' :: dropEscapes cs := by
  have htag : tagAt? ('[' :: tag ++ ']' :: cs) = some tag :=
    tag_at_iff.mpr ⟨cs, rfl, hinner, hopens⟩
  have hinside : dropEscapes (tag ++ ']' :: cs) = tag ++ ']' :: dropEscapes cs := by
    clear htag hopens
    induction tag with
    | nil => rfl
    | cons d tag ih =>
      have hhead : (tag ++ ']' :: cs).head? ≠ some '[' := by
        cases tag with
        | nil => simp
        | cons e tag => simpa using (hinner e (by simp)).1
      rw [List.cons_append, dropEscapes, if_neg (fun h => hhead h.2.1),
        ih (fun e hm => hinner e (List.mem_cons_of_mem _ hm)), List.cons_append]
  induction n with
  | zero =>
    have hbracket : '[' ≠ '\\' := by decide
    simp only [List.replicate_zero, List.nil_append, List.cons_append, dropEscapes]
    rw [if_neg (fun h => hbracket h.1), hinside]
  | succ n ih =>
    rw [List.replicate_succ, List.cons_append, List.cons_append, dropEscapes, if_neg, ih]
    · rfl
    · rintro ⟨-, hhead, hnone⟩
      cases n with
      | zero => exact Option.some_ne_none _ (htag.symm.trans hnone)
      | succ n => simp [List.replicate_succ] at hhead

/-- No tag begins behind the backslashes of a text. -/
def Untagged (cs : List Char) : Prop := tagAt? (cs.drop (leadingSlashes cs)) = none

theorem Untagged.none (h : Untagged cs) : tagAt? cs = none := by
  cases cs with
  | nil => rfl
  | cons c cs =>
    by_cases hc : c = '\\'
    · rw [hc]
      rfl
    · have hslashes : leadingSlashes (c :: cs) = 0 := by simp [leadingSlashes, hc]
      rwa [Untagged, hslashes] at h

/-- A text and what is written of it: before each tag the backslashes are doubled and one more is
put, and all else is as it was. -/
inductive Escaped : List Char → List Char → Prop
  | nil : Escaped [] []
  | char (h : Untagged (c :: cs)) (rest : Escaped cs written) :
      Escaped (c :: cs) (c :: written)
  | tag (n : Nat) (hinner : ∀ d ∈ tag, d ≠ '[' ∧ d ≠ ']')
      (hopens : ∃ c ∈ tag.head?, opensTag c = true) (rest : Escaped cs written) :
      Escaped (List.replicate n '\\' ++ '[' :: tag ++ ']' :: cs)
        (List.replicate (2 * n + 1) '\\' ++ '[' :: tag ++ ']' :: written)

theorem escape_tags_escaped (h : cs.length ≤ fuel) : Escaped cs (escapeTags fuel cs) := by
  induction fuel generalizing cs with
  | zero =>
    rw [List.length_eq_zero_iff.mp (Nat.le_zero.mp h)]
    exact .nil
  | succ fuel ih =>
    cases cs with
    | nil => exact .nil
    | cons c cs =>
      rw [escapeTags]
      split
      · rename_i htag
        exact .char htag (ih (Nat.le_of_succ_le_succ h))
      · rename_i tag htag
        obtain ⟨rest, hsplit, hinner, hopens, hdrop⟩ := tag_split htag
        rw [hdrop]
        generalize leadingSlashes (c :: cs) = n at hsplit
        have hlength := congrArg List.length hsplit
        simp only [List.length_append, List.length_cons, List.length_replicate] at hlength h
        rw [hsplit, List.append_assoc _ _ (escapeTags fuel rest), List.cons_append,
          List.append_assoc]
        have hrest : rest.length ≤ fuel := by omega
        simpa using Escaped.tag n hinner hopens (ih hrest)

/-- No bracket closes behind backslashes but the one that opens before it. -/
theorem slashes_bracket_ne (n : Nat) (h : ∀ d ∈ tag, d ≠ '[') (behind rest : List Char) :
    List.replicate n '\\' ++ '[' :: behind ≠ tag ++ ']' :: rest := by
  induction n generalizing tag with
  | zero =>
    intro he
    cases tag with
    | nil => cases (List.cons.inj he).1
    | cons d tag => exact h d List.mem_cons_self (List.cons.inj he).1.symm
  | succ n ih =>
    intro he
    cases tag with
    | nil => cases (List.cons.inj he).1
    | cons d tag => exact ih (fun e hm => h e (List.mem_cons_of_mem _ hm)) (List.cons.inj he).2

/-- What is put before the tags neither opens nor closes a bracket. -/
theorem Escaped.first_bracket (h : Escaped cs written) (hmiddle : ∀ d ∈ middle, d ≠ '[')
    (he : written ++ (List.replicate j '\\' ++ closing) = middle ++ ']' :: rest) :
    ∃ more, cs = middle ++ ']' :: more := by
  induction h generalizing middle with
  | nil => exact absurd he (slashes_bracket_ne j hmiddle _ rest)
  | @char c cs written hnone hrest ih =>
    cases middle with
    | nil =>
      obtain ⟨rfl, -⟩ := List.cons.inj he
      exact ⟨cs, rfl⟩
    | cons d middle =>
      obtain ⟨rfl, hrest⟩ := List.cons.inj he
      obtain ⟨more, rfl⟩ := ih (fun e hm => hmiddle e (List.mem_cons_of_mem _ hm)) hrest
      exact ⟨more, rfl⟩
  | tag n _ _ _ _ =>
    rw [List.append_assoc, List.append_assoc, List.cons_append] at he
    exact absurd he (slashes_bracket_ne _ hmiddle _ rest)

/-- Backslashes are as they were where no tag stands behind them. -/
theorem Escaped.behind_slashes (h : Escaped (List.replicate n '\\' ++ cs) written)
    (hnone : tagAt? cs = none) (hhead : cs.head? ≠ some '\\') :
    ∃ behind, written = List.replicate n '\\' ++ behind ∧ Escaped cs behind := by
  induction n generalizing written with
  | zero => exact ⟨written, rfl, h⟩
  | succ n ih =>
    generalize hcs : List.replicate (n + 1) '\\' ++ cs = whole at h
    cases h with
    | nil => cases hcs
    | char _ hrest =>
      obtain ⟨rfl, rfl⟩ := List.cons.inj hcs
      obtain ⟨behind, rfl, hbehind⟩ := ih hrest
      exact ⟨behind, rfl, hbehind⟩
    | @tag tag rest _ m hinner hopens hrest =>
      have hsame : n + 1 = m := by
        rw [← leading_slashes_eq (n + 1) hhead, hcs, List.append_assoc]
        exact leading_slashes_eq m (by simp)
      subst hsame
      rw [List.append_assoc] at hcs
      obtain rfl := List.append_cancel_left hcs
      exact absurd (tag_at_iff.mpr ⟨rest, rfl, hinner, hopens⟩) (by rw [hnone]; nofun)

/-- Where no tag begins in a text, none begins in what is written of it, also if it is followed by
backslashes and the closing tag. -/
theorem Escaped.untagged (h : Escaped cs written) (hnone : Untagged cs)
    (hne : cs.drop (leadingSlashes cs) ≠ []) (j : Nat) :
    Untagged (written ++ (List.replicate j '\\' ++ closing)) := by
  obtain ⟨hsplit, hhead⟩ := leading_slashes_split cs
  rw [Untagged] at hnone ⊢
  generalize leadingSlashes cs = n at hsplit hhead hnone hne
  generalize cs.drop n = behind at hsplit hhead hnone hne
  subst hsplit
  obtain ⟨after, rfl, hafter⟩ := h.behind_slashes hnone hhead
  cases hafter with
  | nil => exact absurd rfl hne
  | @char c cs written _ hrest =>
    have hc : c ≠ '\\' := fun hc => hhead (congrArg some hc)
    have hwhole : leadingSlashes (List.replicate n '\\' ++
        (c :: (written ++ (List.replicate j '\\' ++ closing)))) = n :=
      leading_slashes_eq n (by simpa using hc)
    rw [List.append_assoc, List.cons_append, hwhole, List.drop_left' List.length_replicate]
    rw [Option.eq_none_iff_forall_ne_some]
    intro tag htag
    obtain ⟨rest, he, hinner, hopens⟩ := tag_at_iff.mp htag
    obtain ⟨rfl, hbracket⟩ := List.cons.inj he
    obtain ⟨more, rfl⟩ := hrest.first_bracket (fun d hd => (hinner d hd).1) hbracket
    have hsome : tagAt? ('[' :: (tag ++ ']' :: more)) = some tag :=
      tag_at_iff.mpr ⟨more, rfl, hinner, hopens⟩
    exact Option.some_ne_none _ (hsome.symm.trans hnone)
  | @tag tag rest _ m hinner hopens _ =>
    cases m with
    | zero =>
      have hsome := tag_at_iff.mpr ⟨rest, rfl, hinner, hopens⟩
      exact absurd (hsome.symm.trans hnone) (Option.some_ne_none _)
    | succ m => exact absurd rfl hhead

theorem Escaped.nil_iff (h : Escaped cs written) : cs = [] ↔ written = [] := by
  cases h <;> simp

/-- Backslashes with nothing behind them are written as they are. -/
theorem Escaped.slashes (h : Escaped cs written) (hend : cs.drop (leadingSlashes cs) = []) :
    ∃ n, cs = List.replicate n '\\' ∧ written = List.replicate n '\\' := by
  have hsplit := (leading_slashes_split cs).1
  rw [hend] at hsplit
  generalize leadingSlashes cs = n at hsplit
  subst hsplit
  obtain ⟨behind, rfl, hbehind⟩ := h.behind_slashes rfl nofun
  obtain rfl := hbehind.nil_iff.mp rfl
  exact ⟨n, List.append_nil _, List.append_nil _⟩

theorem Escaped.last (h : Escaped cs written) (hlast : cs.getLast? ≠ some '\\') :
    written.getLast? ≠ some '\\' := by
  induction h with
  | nil => exact nofun
  | @char c cs written _ hrest ih =>
    cases cs with
    | nil =>
      obtain rfl := hrest.nil_iff.mp rfl
      exact hlast
    | cons d cs =>
      have hne : written ≠ [] := fun hnil => List.cons_ne_nil d cs (hrest.nil_iff.mpr hnil)
      obtain ⟨e, written, rfl⟩ := List.exists_cons_of_ne_nil hne
      rw [List.getLast?_cons_cons] at hlast ⊢
      exact ih hlast
  | @tag tag cs written n _ _ hrest ih =>
    cases cs with
    | nil =>
      obtain rfl := hrest.nil_iff.mp rfl
      rw [List.getLast?_concat]
      exact nofun
    | cons d cs =>
      have hne : written ≠ [] := fun hnil => List.cons_ne_nil d cs (hrest.nil_iff.mpr hnil)
      obtain ⟨e, written, rfl⟩ := List.exists_cons_of_ne_nil hne
      rw [List.append_cons, List.getLast?_append_cons] at hlast ⊢
      exact ih hlast

/-- No tag begins within the first of two texts that stand side by side. -/
def Clear (plain cs : List Char) : Prop :=
  ∀ after, after <:+ plain → after ≠ [] → Untagged (after ++ cs)

theorem clear_nil (cs : List Char) : Clear [] cs := fun _ hafter hne =>
  absurd (List.suffix_nil.mp hafter) hne

theorem Clear.concat (h : Clear plain (c :: cs)) (hnone : Untagged (c :: cs)) :
    Clear (plain ++ [c]) cs := by
  intro after hafter hne
  obtain rfl | ⟨before, rfl, hbefore⟩ := List.suffix_concat_iff.mp hafter
  · exact absurd rfl hne
  · rw [← List.append_cons]
    cases before with
    | nil => exact hnone
    | cons d before => exact h _ hbefore (List.cons_ne_nil d before)

/-- A backslash before a tag belongs to the tag. -/
theorem Clear.last {plain : List Char} {n : Nat}
    (h : Clear plain (List.replicate n '\\' ++ '[' :: cs)) (htag : tagAt? ('[' :: cs) = some tag) :
    plain.getLast? ≠ some '\\' := by
  intro hlast
  have hsuffix : ['\\'] <:+ plain := by
    rw [List.singleton_suffix_iff_getLast?_eq_some]
    exact hlast
  have hnone := h _ hsuffix (List.cons_ne_nil _ _)
  have hslashes : leadingSlashes (List.replicate (n + 1) '\\' ++ '[' :: cs) = n + 1 :=
    leading_slashes_eq (n + 1) (by simp)
  rw [Untagged, ← List.append_assoc, List.singleton_append, ← List.replicate_succ, hslashes,
    List.drop_left' List.length_replicate, htag] at hnone
  cases hnone

theorem Clear.tail (h : Clear (c :: plain) cs) : Clear plain cs := fun after hafter hne =>
  h after (hafter.trans (List.suffix_cons c plain)) hne

/-- Without a tag all backslashes before a bracket are dropped. -/
theorem drop_escapes_plain (h : Clear plain cs)
    (hend : plain.getLast? ≠ some '\\' ∨ cs.head? ≠ some '[') :
    dropEscapes (plain ++ cs) = unescape plain ++ dropEscapes cs := by
  have hbracket : '[' ≠ '\\' := by decide
  fun_induction unescape plain with
  | case1 rest ih =>
    have hnone := (h ('[' :: rest) (List.suffix_cons _ _) (List.cons_ne_nil _ _)).none
    have hrest := ih h.tail.tail (hend.imp_left (fun hlast =>
      last_ne_of_cons (last_ne_of_cons hlast)))
    rw [List.cons_append, dropEscapes, if_pos ⟨rfl, rfl, hnone⟩, List.cons_append, dropEscapes,
      if_neg (fun hslash => hbracket hslash.1), hrest, List.cons_append]
  | case2 c rest hescape ih =>
    have hrest := ih h.tail (hend.imp_left last_ne_of_cons)
    rw [List.cons_append, dropEscapes, if_neg, hrest, List.cons_append]
    rintro ⟨rfl, hhead, -⟩
    cases rest with
    | nil => exact hend.elim (fun hlast => hlast rfl) (fun hcs => hcs hhead)
    | cons d rest => exact hescape rest rfl (congrArg (· :: rest) (Option.some.inj hhead))
  | case3 => rfl

theorem unescape_slashes (n : Nat) :
    unescape (List.replicate n '\\') = List.replicate n '\\' := by
  rw [unescape_eq_iff]
  rintro ⟨before, after, heq⟩
  have hm : '[' ∈ List.replicate n '\\' := by
    rw [← heq]
    simp
  cases List.eq_of_mem_replicate hm

/-- A tag behind backslashes is taken with them. -/
theorem pieces_slashes_tag (n fuel position : Nat) (plain rest : List Char)
    (hinner : ∀ d ∈ tag, d ≠ '[' ∧ d ≠ ']') (hopens : ∃ c ∈ tag.head?, opensTag c = true) :
    pieces (fuel + 1) position plain (List.replicate n '\\' ++ '[' :: tag ++ ']' :: rest) =
      .plain plain :: tagPieces n tag position ++
        pieces fuel (position + (n + tag.length + 2)) [] rest := by
  have hleading : leadingSlashes (List.replicate n '\\' ++ '[' :: tag ++ ']' :: rest) = n := by
    rw [List.append_assoc]
    exact leading_slashes_eq n (by simp)
  have htag : tagAt? ((List.replicate n '\\' ++ '[' :: tag ++ ']' :: rest).drop n) = some tag := by
    rw [List.append_assoc, List.drop_left' List.length_replicate]
    exact tag_at_iff.mpr ⟨rest, rfl, hinner, hopens⟩
  generalize hwhole : List.replicate n '\\' ++ '[' :: tag ++ ']' :: rest = whole at hleading htag
  obtain ⟨c, cs, rfl⟩ : ∃ c cs, whole = c :: cs :=
    List.exists_cons_of_ne_nil (by rintro rfl; simp at hwhole)
  rw [← hleading] at htag
  obtain ⟨after, hafter, -, -, hpieces⟩ := pieces_tag fuel position plain htag
  rw [hleading] at hafter hpieces
  obtain rfl : rest = after := by simpa [← hwhole] using hafter
  exact hpieces

/-- What is shown of backslashes before the closing tag. -/
theorem strip_trailing (n fuel position : Nat) (plain : List Char)
    (hopened : checkAction top = .ok ()) :
    ∃ behind, strip (top :: opened)
        (pieces (fuel + 1) position plain (List.replicate n '\\' ++ closing)) =
          .ok (unescape plain ++ behind) ∧ (n = 0 → behind = []) := by
  have hclosing : List.replicate n '\\' ++ closing =
      List.replicate n '\\' ++ '[' :: ['/'] ++ ']' :: [] := by simp [closing]
  have hnil : ∀ k, pieces fuel k [] [] = [.plain []] := fun k => by cases fuel <;> rfl
  rw [hclosing, pieces_slashes_tag n fuel position plain [] (by simp) ⟨'/', rfl, rfl⟩, hnil,
    tagPieces, List.cons_append, List.cons_append, strip_plain, strip_plain, unescape_slashes]
  cases hodd : n % 2 == 1 with
  | true =>
    refine ⟨List.replicate (n / 2) '\\' ++ closing, rfl, ?_⟩
    rintro rfl
    cases hodd
  | false =>
    have hstep : step (top :: opened) ['/'] (position + n) = .ok opened := by
      change (checkAction top >>= fun _ => pure opened) = _
      rw [hopened]
      rfl
    refine ⟨List.replicate (n / 2) '\\', ?_, ?_⟩
    · rw [if_neg Bool.false_ne_true, List.cons_append, strip_tag, hstep]
      change Except.ok (unescape plain ++ (List.replicate (n / 2) '\\' ++ [])) = _
      rw [List.append_nil]
    · rintro rfl
      rfl

/-- A text is shown without its dropped backslashes where its escaped form is written. -/
theorem Escaped.strip (h : Escaped cs written) {fuel : Nat} (hfuel : written.length < fuel)
    (hclear : Clear plain cs) (hopened : checkAction top = .ok ()) (j : Nat) :
    ∃ shown, Markup.strip (top :: opened)
        (pieces fuel position plain (written ++ (List.replicate j '\\' ++ closing))) = .ok shown ∧
      (j = 0 → cs.getLast? ≠ some '\\' → shown = dropEscapes (plain ++ cs)) := by
  induction h generalizing fuel position plain with
  | nil =>
    obtain ⟨fuel, rfl⟩ : ∃ n, fuel = n + 1 := ⟨fuel - 1, by omega⟩
    obtain ⟨behind, hstrip, hbehind⟩ := strip_trailing j fuel position plain hopened
    refine ⟨_, hstrip, fun hj _ => ?_⟩
    rw [hbehind hj, drop_escapes_plain hclear (.inr (by simp)), dropEscapes]
  | @char c cs written hnone hrest ih =>
    obtain ⟨fuel, rfl⟩ : ∃ n, fuel = n + 1 := ⟨fuel - 1, by omega⟩
    by_cases hend : (c :: cs).drop (leadingSlashes (c :: cs)) = []
    · obtain ⟨n, hcs, hwritten⟩ := (Escaped.char hnone hrest).slashes hend
      obtain ⟨behind, hstrip, -⟩ := strip_trailing (n + j) fuel position plain hopened
      rw [hwritten, ← List.append_assoc, List.replicate_append_replicate]
      refine ⟨_, hstrip, fun _ hlast => absurd ?_ hlast⟩
      rw [hcs, List.getLast?_replicate, if_neg]
      rintro rfl
      cases hcs
    · have hwhole := (Escaped.char hnone hrest).untagged hnone hend j
      rw [List.cons_append] at hwhole ⊢
      rw [pieces_plain position plain hwhole]
      obtain ⟨shown, hstrip, hshown⟩ := ih (Nat.lt_of_succ_lt_succ hfuel) (hclear.concat hnone)
      refine ⟨shown, hstrip, fun hj hlast => ?_⟩
      rw [hshown hj (last_ne_of_cons hlast), ← List.append_cons]
  | @tag tag cs written n hinner hopens hrest ih =>
    obtain ⟨fuel, rfl⟩ : ∃ n, fuel = n + 1 := ⟨fuel - 1, by omega⟩
    have hlength : written.length < fuel := by
      simp only [List.length_append, List.length_cons] at hfuel
      omega
    obtain ⟨shown, hstrip, hshown⟩ := ih hlength (clear_nil cs)
    have hslashes : tagPieces (2 * n + 1) tag position =
        [.plain (List.replicate n '\\'), .plain ('[' :: tag ++ [']'])] := by
      have hhalf : (2 * n + 1) / 2 = n := by omega
      have hodd : ((2 * n + 1) % 2 == 1) = true := by rw [beq_iff_eq]; omega
      rw [tagPieces, hhalf, if_pos hodd]
    rw [List.append_assoc _ (']' :: written), List.cons_append,
      pieces_slashes_tag _ fuel position plain _ hinner hopens, hslashes, List.cons_append,
      List.cons_append, List.cons_append, List.nil_append, strip_plain, strip_plain, strip_plain,
      hstrip, unescape_slashes, unescape_tag (fun d hd => (hinner d hd).1)]
    refine ⟨_, rfl, fun hj hlast => ?_⟩
    have hcs : cs.getLast? ≠ some '\\' := by
      cases cs with
      | nil => simp
      | cons d cs => rwa [List.append_cons, List.getLast?_append_cons] at hlast
    have htag : tagAt? ('[' :: (tag ++ ']' :: cs)) = some tag :=
      tag_at_iff.mpr ⟨cs, rfl, hinner, hopens⟩
    have hend : plain.getLast? ≠ some '\\' := by
      rw [List.append_assoc, List.cons_append] at hclear
      exact hclear.last htag
    rw [hshown hj hcs, drop_escapes_plain hclear (.inl hend), drop_escapes_tag n hinner hopens]
    simp

/-- At most one backslash is added behind a text, and none behind one that ends with another
character. -/
theorem escape_escaped (text : String) : ∃ written j, Escaped text.toList written ∧
    (escape text).toList = written ++ List.replicate j '\\' ∧
      (text.toList.getLast? ≠ some '\\' → j = 0) := by
  have hescaped : Escaped text.toList (escapeTags text.length text.toList) :=
    escape_tags_escaped (Nat.le_of_eq String.length_toList)
  unfold escape
  generalize escapeTags text.length text.toList = written at hescaped
  dsimp only
  split
  · exact ⟨written, 0, hescaped, by simp, fun _ => rfl⟩
  · next hreverse =>
    refine ⟨written, 1, hescaped, by simp, fun hlast => absurd ?_ (hescaped.last hlast)⟩
    rw [← List.head?_reverse, hreverse, List.head?_cons]
  · exact ⟨written, 0, hescaped, by simp, fun _ => rfl⟩

theorem clear_of_not_mem (h : '\\' ∉ plain ∧ '[' ∉ plain) (cs : List Char) : Clear plain cs := by
  intro after hafter hne
  obtain ⟨c, after, rfl⟩ := List.exists_cons_of_ne_nil hne
  have hc : c ∈ plain := hafter.subset List.mem_cons_self
  have hslashes : leadingSlashes (c :: after ++ cs) = 0 := by
    have hslash : c ≠ '\\' := fun heq => h.1 (heq ▸ hc)
    simp [leadingSlashes, hslash]
  rw [Untagged, hslashes, List.drop_zero, Option.eq_none_iff_forall_ne_some]
  intro tag htag
  obtain ⟨rest, heq, -⟩ := tag_at_iff.mp htag
  exact h.2 ((List.cons.inj heq).1 ▸ hc)

/-- Behind a style what is written of a text is closed with the style, and stands there without the
dropped backslashes if the text does not end with one. -/
theorem bare_escape {before : String} (hstyle : Styles style top)
    (hbefore : '\\' ∉ before.toList ∧ '[' ∉ before.toList) (text : String) :
    ∃ shown, bare (styled style (before ++ escape text)) = .ok shown ∧
      (text.toList.getLast? ≠ some '\\' →
        shown = before ++ String.ofList (dropEscapes text.toList)) := by
  obtain ⟨written, j, hescaped, hescape, hend⟩ := escape_escaped text
  obtain ⟨fuel, position, hfuel, htexts⟩ := texts_styled hstyle hbefore (escape text)
  rw [hescape, List.append_assoc] at htexts
  have hlength : written.length < fuel := by
    rw [hescape, List.length_append] at hfuel
    omega
  have hclear := clear_of_not_mem hbefore text.toList
  obtain ⟨shown, hshown, hdrop⟩ := hescaped.strip hlength hclear hstyle.2.2 j
  have hbare : bare (styled style (before ++ escape text)) = .ok (String.ofList shown) := by
    obtain ⟨parts, hparts, rfl⟩ := map_eq_ok hshown
    rw [bare, strip, htexts, hparts]
    rfl
  refine ⟨String.ofList shown, hbare, fun hlast => ?_⟩
  have hplain : unescape before.toList = before.toList := by
    rw [unescape_eq_iff]
    exact fun hwithin => hbefore.1 (hwithin.subset List.mem_cons_self)
  have hslash : before.toList.getLast? ≠ some '\\' := fun h =>
    hbefore.1 (List.mem_of_getLast? h)
  rw [hdrop (hend hlast) hlast, drop_escapes_plain hclear (.inl hslash), hplain,
    String.ofList_append, String.ofList_toList]

end Propositional.Console.Markup
