import Mathlib.Data.List.Basic
import Mathlib.Data.List.Infix
import Mathlib.Data.List.TakeWhile
import Propositional.Console.Markup
import Propositional.Proofs.Graphemes
import Propositional.Proofs.Pictures

namespace Propositional.Console.Markup
open Text

theorem unescape_sublist (cs : List Char) : (unescape cs).Sublist cs := by
  fun_induction unescape cs with
  | case1 rest ih => exact (ih.cons_cons '[').cons '\\'
  | case2 c rest h ih => exact ih.cons_cons c
  | case3 => exact .slnil

theorem unescape_length (cs : List Char) : (unescape cs).length ≤ cs.length :=
  (unescape_sublist cs).length_le

/-- Nothing is dropped where no backslash stands before a bracket. -/
theorem unescape_eq_iff {cs : List Char} : unescape cs = cs ↔ ¬['\\', '['] <:+: cs := by
  fun_induction unescape cs with
  | case1 rest ih =>
    have hfirst : '[' ≠ '\\' := by decide
    refine iff_of_false (fun h => hfirst (List.cons.inj h).1) (not_not_intro ?_)
    exact List.IsPrefix.isInfix ⟨rest, rfl⟩
  | case2 c rest h ih =>
    have hprefix : ¬['\\', '['] <+: c :: rest := by
      rintro ⟨after, hafter⟩
      obtain ⟨hc, hrest⟩ := List.cons.inj hafter
      exact h after hc.symm hrest.symm
    rw [List.cons_eq_cons, ih, List.infix_cons_iff, or_iff_right hprefix]
    exact and_iff_right rfl
  | case3 => simp

/-- A tag has no brackets inside and begins with a character that opens one. -/
theorem tag_at_iff : tagAt? cs = some tag ↔
    ∃ rest, cs = '[' :: tag ++ ']' :: rest ∧ (∀ d ∈ tag, d ≠ '[' ∧ d ≠ ']') ∧
      ∃ c ∈ tag.head?, opensTag c = true := by
  constructor
  · intro h
    unfold tagAt? at h
    split at h
    · next c after =>
      dsimp only at h
      split at h
      · next rest hrest =>
        split at h
        · next hopens =>
          obtain rfl := Option.some.inj h
          have hafter := List.prefix_iff_eq_append.mp
            (List.takeWhile_prefix (fun d => d != '[' && d != ']') (l := after))
          rw [hrest] at hafter
          refine ⟨rest, by rw [List.cons_append, List.cons_append, hafter], ?_, c, rfl, hopens⟩
          rw [List.forall_mem_cons]
          refine ⟨⟨?_, ?_⟩, fun d hd => by simpa using List.mem_takeWhile_imp hd⟩
          · rintro rfl
            cases hopens
          · rintro rfl
            cases hopens
        · cases h
      · cases h
    · cases h
  · rintro ⟨rest, rfl, hinner, c, hc, hopens⟩
    cases tag with
    | nil => cases hc
    | cons d tag =>
      obtain rfl : d = c := Option.some.inj hc
      have htake : (tag ++ ']' :: rest).takeWhile (fun d => d != '[' && d != ']') = tag := by
        rw [List.takeWhile_append_of_pos]
        · simp
        · intro d hd
          simpa using hinner d (List.mem_cons_of_mem _ hd)
      unfold tagAt?
      simp only [List.cons_append, htake, List.drop_left, hopens, if_true]

/-- The tag at the end of a text does not help to make a tag of what stands before it. -/
theorem tag_at_append (h : cs ≠ []) (tail : List Char) :
    tagAt? (cs ++ '[' :: tail) = tagAt? cs := by
  refine Option.ext (fun tag => ?_)
  rw [tag_at_iff, tag_at_iff]
  constructor
  · rintro ⟨rest, heq, hinner, hopens⟩
    have hsplit : cs ++ '[' :: tail = ('[' :: tag ++ [']']) ++ rest := by
      rw [heq, List.append_assoc]
      rfl
    rcases List.append_eq_append_iff.mp hsplit with ⟨between, hcs, htail⟩ | ⟨between, hcs, htail⟩
    · obtain ⟨c, cs, rfl⟩ := List.exists_cons_of_ne_nil h
      cases between with
      | nil => exact ⟨[], by rw [hcs, List.append_nil], hinner, hopens⟩
      | cons d between =>
        obtain rfl := (List.cons.inj htail).1
        have hm : '[' ∈ tag ++ [']'] := by
          rw [List.cons_append, List.cons_append, List.cons.injEq] at hcs
          rw [hcs.2]
          exact List.mem_append_right _ List.mem_cons_self
        rcases List.mem_append.mp hm with hm | hm
        · exact absurd rfl (hinner _ hm).1
        · cases List.mem_singleton.mp hm
    · exact ⟨between, by rw [hcs, List.append_assoc]; rfl, hinner, hopens⟩
  · rintro ⟨rest, rfl, hinner, hopens⟩
    exact ⟨rest ++ '[' :: tail, by simp, hinner, hopens⟩

/-- A text begins with its leading backslashes, and with no more of them. -/
theorem leading_slashes_split (cs : List Char) :
    cs = List.replicate (leadingSlashes cs) '\\' ++ cs.drop (leadingSlashes cs) ∧
      (cs.drop (leadingSlashes cs)).head? ≠ some '\\' := by
  induction cs with
  | nil => exact ⟨rfl, nofun⟩
  | cons c cs ih =>
    by_cases hc : c = '\\'
    · subst hc
      have hlength : leadingSlashes ('\\' :: cs) = leadingSlashes cs + 1 := by
        simp [leadingSlashes]
      rw [hlength, List.drop_succ_cons, List.replicate_succ, List.cons_append, ← ih.1]
      exact ⟨rfl, ih.2⟩
    · have hlength : leadingSlashes (c :: cs) = 0 := by
        simp [leadingSlashes, hc]
      rw [hlength]
      exact ⟨rfl, fun h => hc (Option.some.inj h)⟩

/-- What becomes of a tag behind some backslashes. -/
def tagPieces (slashes : Nat) (tag : List Char) (position : Nat) : List Piece :=
  [.plain (List.replicate (slashes / 2) '\\'),
    if slashes % 2 == 1 then .plain ('[' :: tag ++ [']']) else .tag tag (position + slashes)]

/-- One step along a markup: a character that begins no tag joins the plain text before it. -/
theorem pieces_plain (position : Nat) (plain : List Char)
    (h : tagAt? ((c :: cs).drop (leadingSlashes (c :: cs))) = none) :
    pieces (fuel + 1) position plain (c :: cs) =
      pieces fuel (position + 1) (plain ++ [c]) cs := by
  rw [pieces, h]

/-- A tag behind backslashes, and what stands behind it. -/
theorem tag_split (h : tagAt? (cs.drop (leadingSlashes cs)) = some tag) :
    ∃ rest, cs = List.replicate (leadingSlashes cs) '\\' ++ '[' :: tag ++ ']' :: rest ∧
      (∀ d ∈ tag, d ≠ '[' ∧ d ≠ ']') ∧ (∃ c ∈ tag.head?, opensTag c = true) ∧
      cs.drop (leadingSlashes cs + tag.length + 2) = rest := by
  obtain ⟨rest, hrest, hinner, hopens⟩ := tag_at_iff.mp h
  have hcs := (leading_slashes_split cs).1
  rw [hrest, ← List.append_assoc] at hcs
  refine ⟨rest, hcs, hinner, hopens, ?_⟩
  generalize leadingSlashes cs = slashes at hcs
  rw [hcs, ← List.singleton_append (l := rest), ← List.append_assoc]
  refine List.drop_left' ?_
  simp only [List.length_append, List.length_replicate, List.length_cons, List.length_nil]
  omega

/-- The other step: a tag is taken with the backslashes before it. -/
theorem pieces_tag (fuel position : Nat) (plain : List Char)
    (h : tagAt? ((c :: cs).drop (leadingSlashes (c :: cs))) = some tag) :
    ∃ rest, c :: cs = List.replicate (leadingSlashes (c :: cs)) '\\' ++ '[' :: tag ++ ']' :: rest ∧
      tag ≠ [] ∧ (∀ d ∈ tag, d ≠ '[') ∧
      pieces (fuel + 1) position plain (c :: cs) =
        .plain plain :: tagPieces (leadingSlashes (c :: cs)) tag position ++
          pieces fuel (position + (leadingSlashes (c :: cs) + tag.length + 2)) [] rest := by
  obtain ⟨rest, hcs, hinner, ⟨first, hfirst, -⟩, hdrop⟩ := tag_split h
  refine ⟨rest, hcs, ?_, fun d hd => (hinner d hd).1, ?_⟩
  · rintro rfl
    cases hfirst
  · rw [pieces, h]
    simp only [hdrop]
    rfl

/-- The text between the tags, with its codes as they are. -/
def strip (opened : List OpenTag) (ps : List Piece) : Except MarkupError (List Char) :=
  (texts opened ps).map List.flatten

theorem strip_plain (opened : List OpenTag) (cs : List Char) (rest : List Piece) :
    strip opened (.plain cs :: rest) = (strip opened rest).map (unescape cs ++ ·) := by
  rw [strip, strip, texts]
  cases texts opened rest with
  | ok parts => rfl
  | error e => rfl

theorem strip_tag (opened : List OpenTag) (tag : List Char) (position : Nat) (rest : List Piece) :
    strip opened (.tag tag position :: rest) = (do
      let opened ← step opened tag position
      strip opened rest) := by
  rw [strip, texts]
  cases step opened tag position with
  | ok opened => rfl
  | error e => rfl

theorem map_eq_ok {x : Except ε α} {f : α → β} (h : x.map f = .ok b) :
    ∃ a, x = .ok a ∧ f a = b := by
  cases x with
  | error e => cases h
  | ok a => exact ⟨a, rfl, Except.ok.inj h⟩

theorem unescape_tag (h : ∀ d ∈ tag, d ≠ '[') :
    unescape ('[' :: tag ++ [']']) = '[' :: tag ++ [']'] := by
  rw [unescape_eq_iff]
  rintro ⟨before, after, heq⟩
  cases before with
  | nil => cases (List.cons.inj heq).1
  | cons c before =>
    rw [List.cons_append, List.cons_append, List.cons_append, List.cons.injEq] at heq
    have hm : '[' ∈ tag ++ [']'] := by
      rw [← heq.2]
      simp
    rcases List.mem_append.mp hm with hm | hm
    · exact h _ hm rfl
    · cases List.mem_singleton.mp hm

/-- What is shown for a tag behind some backslashes is shorter than what was written, and if the
tag itself is shown it ends with its bracket. -/
theorem strip_tag_pieces (htag : ∀ d ∈ tag, d ≠ '[')
    (h : strip opened (tagPieces slashes tag position ++ rest) = .ok shown) :
    ∃ opened' left behind, strip opened' rest = .ok behind ∧ shown = left ++ behind ∧
      left.Sublist (List.replicate slashes '\\' ++ '[' :: tag ++ [']']) ∧
      (left.length ≤ slashes / 2 ∨
        slashes % 2 = 1 ∧ left.length ≤ slashes / 2 + tag.length + 2 ∧
          left.getLast? = some ']') := by
  rw [tagPieces, List.cons_append, List.cons_append, List.nil_append, strip_plain] at h
  obtain ⟨after, hafter, rfl⟩ := map_eq_ok h
  have hslashes := unescape_length (List.replicate (slashes / 2) '\\')
  rw [List.length_replicate] at hslashes
  have hhalf : (unescape (List.replicate (slashes / 2) '\\')).Sublist
      (List.replicate slashes '\\') :=
    (unescape_sublist _).trans
      ((List.replicate_sublist_replicate _).mpr (Nat.div_le_self slashes 2))
  split at hafter
  · next hodd =>
    rw [strip_plain, unescape_tag htag] at hafter
    obtain ⟨behind, hbehind, rfl⟩ := map_eq_ok hafter
    refine ⟨opened, _, behind, hbehind, (List.append_assoc _ _ _).symm, ?_, .inr ?_⟩
    · rw [List.append_assoc]
      exact hhalf.append (List.Sublist.refl _)
    refine ⟨eq_of_beq hodd, ?_, ?_⟩
    · simp only [List.length_append, List.length_cons, List.length_nil]
      omega
    · rw [← List.append_assoc, List.getLast?_concat]
  · rw [strip_tag] at hafter
    cases hstep : step opened tag (position + slashes) with
    | error e =>
      rw [hstep] at hafter
      cases hafter
    | ok opened' =>
      rw [hstep] at hafter
      refine ⟨opened', _, after, hafter, rfl, ?_, .inl hslashes⟩
      rw [List.append_assoc]
      exact hhalf.trans (List.sublist_append_left _ _)

/-- The tag that closes a markup. -/
def closing : List Char := ['[', '/', ']']

theorem closing_split (hne : tag ≠ []) (h : closing = '[' :: tag ++ ']' :: rest) : rest = [] := by
  have hlength := congrArg List.length h
  have htag := List.length_pos_iff.mpr hne
  simp only [closing, List.length_append, List.length_cons, List.length_nil] at hlength
  exact List.length_eq_zero_iff.mp (by omega)

/-- A tag stands before the closing one, or it is the closing one. -/
theorem split_closing (hne : tag ≠ []) (htag : ∀ d ∈ tag, d ≠ '[')
    (h : cs ++ closing = List.replicate slashes '\\' ++ '[' :: tag ++ ']' :: rest) :
    (∃ more, cs = List.replicate slashes '\\' ++ '[' :: tag ++ ']' :: more ∧
      rest = more ++ closing) ∨ cs = List.replicate slashes '\\' ∧ rest = [] := by
  rw [List.append_assoc] at h
  rcases List.append_eq_append_iff.mp h with ⟨between, hslashes, hrest⟩ | ⟨between, rfl, hrest⟩
  · cases between with
    | nil => exact .inr ⟨by rw [hslashes, List.append_nil], closing_split hne hrest⟩
    | cons d between =>
      have hd : d ∈ List.replicate slashes '\\' := by
        rw [hslashes]
        exact List.mem_append_right _ List.mem_cons_self
      rw [List.eq_of_mem_replicate hd] at hrest
      cases (List.cons.inj hrest).1
  · cases between with
    | nil => exact .inr ⟨List.append_nil _, closing_split hne hrest.symm⟩
    | cons d between =>
      rw [List.cons_append, List.cons_append, List.cons.injEq] at hrest
      obtain ⟨rfl, hinner⟩ := hrest
      rcases List.append_eq_append_iff.mp hinner with ⟨more, rfl, hmore⟩ | ⟨more, rfl, hmore⟩
      · cases more with
        | nil => cases (List.cons.inj hmore).1
        | cons e more =>
          obtain ⟨rfl, rfl⟩ := List.cons.inj hmore
          exact .inl ⟨more, by rw [List.append_assoc]; rfl, rfl⟩
      · cases more with
        | nil => cases (List.cons.inj hmore).1
        | cons e more =>
          obtain ⟨rfl, -⟩ := List.cons.inj hmore
          exact absurd rfl (htag _ (List.mem_append_right _ List.mem_cons_self))

/-- A text that ends with a bracket where what was written ends with a backslash. -/
def Escapes (shown written : List Char) : Prop :=
  shown.getLast? = some ']' ∧ written.getLast? = some '\\'

theorem Escapes.append (h : Escapes shown written) (before before' : List Char) :
    Escapes (before ++ shown) (before' ++ written) :=
  ⟨by rw [List.getLast?_append, h.1]; rfl, by rw [List.getLast?_append, h.2]; rfl⟩

theorem Escapes.ne (h : Escapes shown written) : shown ≠ written := by
  rintro rfl
  cases h.1.symm.trans h.2

/-- Markups shorter than some length show no more than what stands before their closing tag. -/
def Bounded (fuel length : Nat) : Prop :=
  ∀ {opened position more shown}, more.length < length →
    strip opened (pieces fuel position [] (more ++ closing)) = .ok shown →
    shown.length ≤ more.length ∨ Escapes shown more

/-- With a tag, something of the text before the closing tag is not shown, if nothing is added
behind it. -/
theorem strip_tag_step {fuel : Nat} {plain cs : List Char} (hbounded : Bounded fuel cs.length)
    (hwhole : cs ++ closing = c :: rest)
    (htag : tagAt? ((c :: rest).drop (leadingSlashes (c :: rest))) = some tag)
    (h : strip opened (pieces (fuel + 1) position plain (c :: rest)) = .ok shown) :
    cs = [] ∧ shown = unescape plain ∨ shown.length < (plain ++ cs).length ∨
      Escapes shown (plain ++ cs) := by
  obtain ⟨after, hsplit, hne, hinner, hpieces⟩ := pieces_tag fuel position plain htag
  generalize leadingSlashes (c :: rest) = slashes at hsplit hpieces
  rw [hpieces, List.cons_append, strip_plain] at h
  obtain ⟨tail, htail, rfl⟩ := map_eq_ok h
  obtain ⟨opened', left, behind, hbehind, rfl, -, hleft⟩ := strip_tag_pieces hinner htail
  have hplain := unescape_length plain
  have hshort : left.length < slashes + tag.length + 2 := by omega
  rw [← hwhole] at hsplit
  -- The tag lies in front of the closing one, or it is the closing one itself.
  rcases split_closing hne hinner hsplit with ⟨more, rfl, rfl⟩ | ⟨rfl, rfl⟩
  · refine .inr ?_
    rcases hbounded (by simp; omega) hbehind with hlength | hescapes
    · refine .inl ?_
      simp only [List.length_append, List.length_cons, List.length_replicate]
      omega
    · refine .inr ?_
      have hend := hescapes.append (unescape plain ++ left)
        (plain ++ List.replicate slashes '\\' ++ '[' :: tag ++ [']'])
      simpa only [List.append_assoc, List.cons_append, List.nil_append] using hend
  · have hnil : behind = [] := by
      cases fuel <;> exact (Except.ok.inj hbehind).symm
    rw [hnil, List.append_nil]
    rcases Nat.eq_zero_or_pos slashes with rfl | hslashes
    · have hleft : left = [] := List.length_eq_zero_iff.mp (by omega)
      exact .inl ⟨rfl, by rw [hleft, List.append_nil]⟩
    · refine .inr ?_
      rcases hleft with hlength | ⟨-, -, hbracket⟩
      · refine .inl ?_
        simp only [List.length_append, List.length_replicate]
        omega
      · refine .inr (Escapes.append ⟨hbracket, ?_⟩ _ _)
        rw [List.getLast?_replicate, if_neg (Nat.ne_of_gt hslashes)]

/-- Where no tag begins, the text goes on before the closing tag. -/
theorem no_tag_of_none (hwhole : cs ++ closing = c :: rest)
    (htag : tagAt? ((c :: rest).drop (leadingSlashes (c :: rest))) = none) :
    ∃ more, cs = c :: more ∧ rest = more ++ closing := by
  cases cs with
  | nil =>
    rw [← hwhole] at htag
    cases htag
  | cons d more =>
    obtain ⟨rfl, rfl⟩ := List.cons.inj hwhole
    exact ⟨more, rfl, rfl⟩

theorem tag_of_none
    (htag : tagAt? ((c :: (cs ++ closing)).drop (leadingSlashes (c :: (cs ++ closing)))) = none) :
    tagAt? (c :: cs) = none := by
  by_cases hc : c = '\\'
  · rw [hc]
    rfl
  · have hslashes : leadingSlashes (c :: (cs ++ closing)) = 0 := by simp [leadingSlashes, hc]
    rw [hslashes, List.drop_zero, ← List.cons_append] at htag
    rw [← htag]
    exact (tag_at_append (List.cons_ne_nil c cs) ['/', ']']).symm

theorem whole_cons (cs : List Char) : ∃ c rest, cs ++ closing = c :: rest := by
  cases cs with
  | nil => exact ⟨_, _, rfl⟩
  | cons c cs => exact ⟨_, _, rfl⟩

/-- The closing tag is not shown, unless a backslash stands before it. -/
theorem strip_pieces_length {fuel : Nat} {plain cs : List Char} (hfuel : cs.length + 3 ≤ fuel)
    (h : strip opened (pieces fuel position plain (cs ++ closing)) = .ok shown) :
    shown.length ≤ (plain ++ cs).length ∨ Escapes shown (plain ++ cs) := by
  induction fuel generalizing opened position plain cs shown with
  | zero => omega
  | succ fuel ih =>
    obtain ⟨c, rest, hwhole⟩ := whole_cons cs
    cases htag : tagAt? ((c :: rest).drop (leadingSlashes (c :: rest))) with
    | none =>
      obtain ⟨more, rfl, rfl⟩ := no_tag_of_none hwhole htag
      rw [hwhole, pieces_plain position plain htag] at h
      rw [List.append_cons]
      exact ih (by rw [List.length_cons] at hfuel; omega) h
    | some tag =>
      rw [hwhole] at h
      have hbounded : Bounded fuel cs.length := fun hmore hshown => ih (by omega) hshown
      rcases strip_tag_step hbounded hwhole htag h with ⟨rfl, rfl⟩ | hlacks | hescapes
      · exact .inl (by rw [List.append_nil]; exact unescape_length plain)
      · exact .inl (Nat.le_of_lt hlacks)
      · exact .inr hescapes

/-- A text that a markup shows as it is, in front of its closing tag. -/
def Literal (text : List Char) : Prop :=
  (∀ after ∈ text.tails, tagAt? after = none) ∧ ¬['\\', '['] <:+: text ∧
    text.getLast? ≠ some '\\'

instance (text : List Char) : Decidable (Literal text) := inferInstanceAs (Decidable (_ ∧ _))

theorem literal_of_strip {fuel : Nat} {plain cs : List Char} (hfuel : cs.length + 3 ≤ fuel)
    (h : strip opened (pieces fuel position plain (cs ++ closing)) = .ok (plain ++ cs)) :
    (∀ after ∈ cs.tails, tagAt? after = none) ∧ unescape (plain ++ cs) = plain ++ cs ∧
      cs.getLast? ≠ some '\\' := by
  induction fuel generalizing opened position plain cs with
  | zero => omega
  | succ fuel ih =>
    obtain ⟨c, rest, hwhole⟩ := whole_cons cs
    cases htag : tagAt? ((c :: rest).drop (leadingSlashes (c :: rest))) with
    | none =>
      obtain ⟨more, rfl, rfl⟩ := no_tag_of_none hwhole htag
      rw [hwhole, pieces_plain position plain htag, List.append_cons plain c more] at h
      have hmore : more.length + 3 ≤ fuel := by
        rw [List.length_cons] at hfuel
        omega
      obtain ⟨htags, hunescape, hlast⟩ := ih hmore h
      rw [← List.append_cons plain c more] at hunescape
      refine ⟨?_, hunescape, ?_⟩
      · rw [List.tails_cons, List.forall_mem_cons]
        exact ⟨tag_of_none htag, htags⟩
      · cases more with
        | nil =>
          rintro ⟨⟩
          cases htag
        | cons d more => rwa [List.getLast?_cons_cons]
    | some tag =>
      -- A tag with text behind it would leave less to be shown than was written.
      rw [hwhole] at h
      have hbounded : Bounded fuel cs.length := fun hmore hshown =>
        strip_pieces_length (by omega) hshown
      rcases strip_tag_step hbounded hwhole htag h with ⟨rfl, hshown⟩ | hlacks | hescapes
      · rw [List.append_nil] at hshown ⊢
        exact ⟨by simp [tagAt?], hshown.symm, nofun⟩
      · exact absurd hlacks (Nat.lt_irrefl _)
      · exact absurd rfl hescapes.ne

theorem leading_slashes_eq (slashes : Nat) (h : cs.head? ≠ some '\\') :
    leadingSlashes (List.replicate slashes '\\' ++ cs) = slashes := by
  have hcs : cs.takeWhile (· == '\\') = [] := by
    cases cs with
    | nil => rfl
    | cons c cs =>
      refine List.takeWhile_cons_of_neg (fun hc => h ?_)
      rw [eq_of_beq hc]
      rfl
  rw [leadingSlashes, List.takeWhile_append_of_pos, hcs, List.append_nil, List.length_replicate]
  intro c hc
  rw [List.eq_of_mem_replicate hc]
  rfl

/-- Where no tag begins in a text that does not end with a backslash, none begins when the closing
tag is put behind it. -/
theorem none_of_literal {cs : List Char} (hne : cs ≠ [])
    (htags : ∀ after ∈ cs.tails, tagAt? after = none) (hlast : cs.getLast? ≠ some '\\') :
    tagAt? ((cs ++ closing).drop (leadingSlashes (cs ++ closing))) = none := by
  obtain ⟨hsplit, hhead⟩ := leading_slashes_split cs
  have hsuffix : cs.drop (leadingSlashes cs) <:+ cs := List.drop_suffix _ _
  generalize leadingSlashes cs = slashes at hsplit hhead hsuffix
  generalize cs.drop slashes = behind at hsplit hhead hsuffix
  have hbehind : behind ≠ [] := by
    rintro rfl
    rw [List.append_nil] at hsplit
    rw [hsplit, List.getLast?_replicate, if_neg] at hlast
    · exact hlast rfl
    · rintro rfl
      exact hne hsplit
  have hwhole : leadingSlashes (cs ++ closing) = slashes := by
    rw [hsplit, List.append_assoc]
    refine leading_slashes_eq slashes ?_
    rwa [List.head?_append_of_ne_nil _ hbehind]
  have hdrop : (cs ++ closing).drop slashes = behind ++ closing := by
    rw [hsplit, List.append_assoc]
    exact List.drop_left' List.length_replicate
  rw [hwhole, hdrop]
  exact (tag_at_append hbehind _).trans (htags behind ((List.mem_tails behind cs).mpr hsuffix))

theorem texts_of_literal {fuel : Nat} {plain cs : List Char} (hfuel : cs.length + 3 ≤ fuel)
    (hopened : checkAction top = .ok ())
    (htags : ∀ after ∈ cs.tails, tagAt? after = none)
    (hunescape : unescape (plain ++ cs) = plain ++ cs) (hlast : cs.getLast? ≠ some '\\') :
    texts (top :: opened) (pieces fuel position plain (cs ++ closing)) =
      .ok [plain ++ cs, [], []] := by
  induction cs generalizing fuel position plain with
  | nil =>
    obtain ⟨fuel, rfl⟩ : ∃ n, fuel = n + 2 := ⟨fuel - 2, by rw [List.length_nil] at hfuel; omega⟩
    rw [List.append_nil] at hunescape ⊢
    have hpieces : pieces (fuel + 2) position plain ([] ++ closing) =
        [.plain plain, .plain [], .tag ['/'] (position + 0), .plain []] := rfl
    have hstep : step (top :: opened) ['/'] (position + 0) = .ok opened := by
      change (checkAction top >>= fun _ => pure opened) = _
      rw [hopened]
      rfl
    rw [hpieces, texts, texts, texts, hstep, hunescape]
    rfl
  | cons c cs ih =>
    obtain ⟨fuel, rfl⟩ : ∃ n, fuel = n + 1 := ⟨fuel - 1, by omega⟩
    have hnone := none_of_literal (List.cons_ne_nil c cs) htags hlast
    rw [List.cons_append] at hnone ⊢
    rw [pieces_plain position plain hnone, List.append_cons plain c cs]
    rw [List.append_cons plain c cs] at hunescape
    refine ih ?_ ?_ hunescape (last_ne_of_cons hlast)
    · rw [List.length_cons] at hfuel
      omega
    · rw [List.tails_cons, List.forall_mem_cons] at htags
      exact htags.2

/-- Characters that neither open a tag nor escape one are taken as they are. -/
theorem pieces_walk (fuel position : Nat) (plain before cs : List Char)
    (h : '\\' ∉ before ∧ '[' ∉ before) :
    pieces (fuel + before.length) position plain (before ++ cs) =
      pieces fuel (position + before.length) (plain ++ before) cs := by
  induction before generalizing position plain with
  | nil => simp
  | cons c before ih =>
    simp only [List.mem_cons, not_or] at h
    have hnone : tagAt? ((c :: (before ++ cs)).drop (leadingSlashes (c :: (before ++ cs)))) =
        none := by
      have hslashes : leadingSlashes (c :: (before ++ cs)) = 0 := by
        simp [leadingSlashes, Ne.symm h.1.1]
      rw [hslashes, List.drop_zero, tagAt?.eq_def]
      split
      · next heq => exact absurd (List.cons.inj heq).1.symm h.2.1
      · rfl
    rw [List.length_cons, ← Nat.add_assoc, List.cons_append, pieces_plain position plain hnone,
      ih _ _ ⟨h.1.2, h.2.2⟩, List.append_assoc, Nat.add_assoc, Nat.add_comm 1]
    rfl

theorem infix_append_iff (h : '\\' ∉ before) :
    ['\\', '['] <:+: before ++ text ↔ ['\\', '['] <:+: text := by
  induction before with
  | nil => rfl
  | cons c before ih =>
    rw [List.mem_cons, not_or] at h
    have hprefix : ¬['\\', '['] <+: c :: (before ++ text) := fun hp =>
      h.1 (List.cons_prefix_cons.mp hp).1
    rw [List.cons_append, List.infix_cons_iff, or_iff_right hprefix, ih h.2]

/-- A style that a markup can begin with. -/
def Styles (style : List Char) (top : OpenTag) : Prop :=
  tagAt? ('[' :: style ++ [']']) = some style ∧ step [] style 0 = .ok [top] ∧
    checkAction top = .ok ()

/-- A markup that begins with a style is the text behind it under that style. -/
theorem texts_style (hstyle : Styles style top) (fuel : Nat) (cs : List Char) :
    ∃ position, texts [] (pieces (fuel + 1) 0 [] ('[' :: style ++ ']' :: cs)) =
      (texts [top] (pieces fuel position [] cs)).map ([] :: [] :: ·) := by
  obtain ⟨htag, hstep, -⟩ := hstyle
  obtain ⟨-, -, hinner, hopens⟩ := tag_at_iff.mp htag
  have hslashes : leadingSlashes ('[' :: (style ++ ']' :: cs)) = 0 := rfl
  have hwhole : tagAt? (('[' :: (style ++ ']' :: cs)).drop
      (leadingSlashes ('[' :: (style ++ ']' :: cs)))) = some style :=
    tag_at_iff.mpr ⟨cs, rfl, hinner, hopens⟩
  obtain ⟨rest, hrest, -, -, hpieces⟩ := pieces_tag fuel 0 [] hwhole
  rw [hslashes] at hrest hpieces
  obtain rfl : cs = rest := by simpa using hrest
  have hbegin : pieces (fuel + 1) 0 [] ('[' :: (style ++ ']' :: cs)) =
      .plain [] :: .plain [] :: .tag style 0 ::
        pieces fuel (0 + (0 + style.length + 2)) [] cs := hpieces
  refine ⟨0 + (0 + style.length + 2), ?_⟩
  rw [List.cons_append, hbegin, texts, texts, texts, hstep]
  generalize pieces fuel _ [] cs = ps
  change ((texts [top] ps).map _).map _ = _
  cases texts [top] ps with
  | ok parts => rfl
  | error e => rfl

/-- What a markup would show if there were no pictures. -/
def bare (markup : String) : Except MarkupError String :=
  (strip [] (pieces markup.toList.length 0 [] markup.toList)).map String.ofList

/-- A text between a style and the closing tag. -/
def styled (style : List Char) (text : String) : String :=
  String.ofList ('[' :: style ++ [']']) ++ text ++ "[/]"

section
variable {before text : String} (hstyle : Styles style top)
  (hbefore : '\\' ∉ before.toList ∧ '[' ∉ before.toList)
include hstyle hbefore

/-- The parts of such a text, if they are all there are. -/
theorem texts_styled (text : String) : ∃ fuel position, text.toList.length + 3 ≤ fuel ∧
    texts [] (pieces (styled style (before ++ text)).toList.length 0 []
      (styled style (before ++ text)).toList) =
        (texts [top] (pieces fuel position before.toList (text.toList ++ closing))).map
          ([] :: [] :: ·) := by
  have hmarkup : (styled style (before ++ text)).toList =
      '[' :: style ++ ']' :: (before.toList ++ (text.toList ++ closing)) := by
    simp [styled, closing]
  obtain ⟨fuel, hlength, hfuel⟩ : ∃ fuel, ('[' :: style ++ ']' ::
      (before.toList ++ (text.toList ++ closing))).length =
        fuel + before.toList.length + 1 ∧ text.toList.length + 3 ≤ fuel :=
    ⟨style.length + 1 + (text.toList.length + 3), by
      simp only [List.length_append, List.length_cons, closing, List.length_nil]
      omega, by omega⟩
  obtain ⟨position, htexts⟩ := texts_style hstyle (fuel + before.toList.length)
    (before.toList ++ (text.toList ++ closing))
  refine ⟨fuel, position + before.toList.length, hfuel, ?_⟩
  rw [hmarkup, hlength, htexts, pieces_walk fuel position [] _ _ hbefore, List.nil_append]

theorem literal_of_bare (h : bare (styled style (before ++ text)) = .ok (before ++ text)) :
    Literal text.toList := by
  obtain ⟨fuel, position, hfuel, htexts⟩ := texts_styled hstyle hbefore text
  obtain ⟨shown, hshown, heq⟩ := map_eq_ok h
  obtain rfl : shown = before.toList ++ text.toList := by
    rw [← String.toList_append, ← heq, String.toList_ofList]
  have hstrip : strip [top] (pieces fuel position before.toList (text.toList ++ closing)) =
      .ok (before.toList ++ text.toList) := by
    rw [strip, htexts] at hshown
    rw [strip, ← hshown]
    cases texts [top] (pieces fuel position before.toList (text.toList ++ closing)) with
    | ok parts => rfl
    | error e => rfl
  obtain ⟨htags, hsame, hlast⟩ := literal_of_strip hfuel hstrip
  exact ⟨htags, (infix_append_iff hbefore.1).not.mp (unescape_eq_iff.mp hsame), hlast⟩

theorem texts_of_styled (h : Literal text.toList) :
    texts [] (pieces (styled style (before ++ text)).toList.length 0 []
      (styled style (before ++ text)).toList) =
        .ok [[], [], before.toList ++ text.toList, [], []] := by
  obtain ⟨htags, hsame, hlast⟩ := h
  obtain ⟨fuel, position, hfuel, htexts⟩ := texts_styled hstyle hbefore text
  have hunescape : unescape (before.toList ++ text.toList) = before.toList ++ text.toList :=
    unescape_eq_iff.mpr ((infix_append_iff hbefore.1).not.mpr hsame)
  rw [htexts, texts_of_literal hfuel hstyle.2.2 htags hunescape hlast]
  rfl

end

theorem strip_last (opened : List OpenTag) (plain : List Char) :
    strip opened [.plain plain] = .ok (unescape plain) := by
  rw [strip_plain]
  exact congrArg Except.ok (List.append_nil _)

/-- A markup shows no more than is written in it, in the same order. -/
theorem strip_pieces_sublist
    (h : strip opened (pieces fuel position plain cs) = .ok shown) :
    shown.Sublist (plain ++ cs) := by
  have hplain := unescape_sublist plain
  induction fuel generalizing opened position plain cs shown with
  | zero =>
    obtain rfl := Except.ok.inj ((strip_last opened plain).symm.trans h)
    exact hplain.trans (List.sublist_append_left plain cs)
  | succ fuel ih =>
    cases cs with
    | nil =>
      obtain rfl := Except.ok.inj ((strip_last opened plain).symm.trans h)
      exact hplain.trans (List.sublist_append_left plain [])
    | cons d rest =>
      cases htag : tagAt? ((d :: rest).drop (leadingSlashes (d :: rest))) with
      | none =>
        rw [pieces_plain position plain htag] at h
        rw [List.append_cons]
        exact ih h (unescape_sublist _)
      | some tag =>
        obtain ⟨after, hsplit, -, hinner, hpieces⟩ := pieces_tag fuel position plain htag
        rw [hpieces, List.cons_append, strip_plain] at h
        obtain ⟨tail, htail, rfl⟩ := map_eq_ok h
        obtain ⟨opened', left, behind, hbehind, rfl, hleft, -⟩ := strip_tag_pieces hinner htail
        have hafter := hleft.append (ih hbehind (unescape_sublist _))
        rw [List.nil_append, List.append_assoc _ [']'] after, List.singleton_append,
          ← hsplit] at hafter
        exact hplain.append hafter

theorem bare_sublist (h : bare markup = .ok text) : text.toList.Sublist markup.toList := by
  obtain ⟨shown, hshown, rfl⟩ := map_eq_ok h
  rw [String.toList_ofList]
  exact strip_pieces_sublist hshown

section
variable [Library]

theorem pictures_parts (parts : List (List Char)) : parts.flatMap pictures = parts.flatten ∨
    (parts.flatMap pictures).count ':' < parts.flatten.count ':' := by
  induction parts with
  | nil => exact .inl rfl
  | cons part parts ih =>
    simp only [List.flatMap_cons, List.flatten_cons, List.count_append]
    have hparts : (parts.flatMap pictures).count ':' ≤ parts.flatten.count ':' :=
      ih.elim (fun heq => heq ▸ Nat.le_refl _) Nat.le_of_lt
    rcases pictures_count part with heq | hless
    · rw [heq]
      exact ih.imp (congrArg (part ++ ·)) (Nat.add_lt_add_left · _)
    · exact .inr (Nat.add_lt_add_of_lt_of_le hless hparts)

/-- A markup shows what it would show without pictures, or less colons than are written in it. -/
theorem bare_or_fewer (h : render markup = .ok shown) : bare markup = .ok shown ∨
    shown.toList.count ':' < markup.toList.count ':' := by
  obtain ⟨parts, hparts, rfl⟩ := map_eq_ok h
  have hbare : bare markup = .ok (String.ofList parts.flatten) := by
    rw [bare, strip, hparts]
    rfl
  have hsublist := bare_sublist hbare
  rw [String.toList_ofList] at hsublist ⊢
  rcases pictures_parts parts with heq | hless
  · exact .inl (by rw [hbare, heq])
  · exact .inr (Nat.lt_of_lt_of_le hless (hsublist.count_le ':'))

/-- Without codes a markup shows the text between its tags. -/
theorem render_of_codeless (h : bare markup = .ok text) (hcodes : Codeless text.toList) :
    render markup = .ok text := by
  obtain ⟨shown, hshown, rfl⟩ := map_eq_ok h
  obtain ⟨parts, hparts, rfl⟩ := map_eq_ok hshown
  rw [String.toList_ofList] at hcodes
  have hsame : parts.flatMap pictures = parts.flatten := by
    rw [← List.flatMap_id]
    exact List.flatMap_congr (fun part hpart =>
      (hcodes.mono (List.infix_of_mem_flatten hpart)).eq)
  rw [render, hparts]
  exact congrArg (fun cs => Except.ok (String.ofList cs)) hsame

/-- Between a style and the closing tag, just what is literal and has no codes of pictures is shown
as it is. -/
theorem render_eq_iff {before text : String} (hstyle : Styles style top)
    (hbefore : '\\' ∉ before.toList ∧ '[' ∉ before.toList) (hcolon : ':' ∉ style)
    (hplain : ':' ∉ before.toList) :
    render (styled style (before ++ text)) = .ok (before ++ text) ↔
      Literal text.toList ∧ pictures text.toList = text.toList := by
  have hshown : Literal text.toList → (render (styled style (before ++ text)) =
      .ok (before ++ text) ↔ pictures text.toList = text.toList) := by
    intro hliteral
    rw [render, texts_of_styled hstyle hbefore hliteral]
    simp [Except.map, pictures_append hplain, ← String.toList_inj]
  constructor
  · intro h
    have hcount : (styled style (before ++ text)).toList.count ':' =
        (before ++ text).toList.count ':' := by
      simp [styled, List.count_eq_zero.mpr hcolon]
    have hbare := (bare_or_fewer h).resolve_right (by rw [hcount]; exact Nat.lt_irrefl _)
    have hliteral := literal_of_bare hstyle hbefore hbare
    exact ⟨hliteral, (hshown hliteral).mp h⟩
  · exact fun h => (hshown h.1).mpr h.2

/-- A text without brackets, backslashes and colons is shown as it is. -/
theorem render_of_plain {text : String} (h : '\\' ∉ text.toList ∧ '[' ∉ text.toList)
    (hcolon : ':' ∉ text.toList) : render text = .ok text := by
  have hpieces := pieces_walk 0 0 [] text.toList [] h
  rw [Nat.zero_add, List.append_nil] at hpieces
  have hplain : unescape text.toList = text.toList :=
    unescape_eq_iff.mpr (fun hpart => h.2 (hpart.subset (by simp)))
  rw [render, hpieces, pieces, List.nil_append, texts, hplain]
  simp [Except.map, texts, pictures_of_no_colon hcolon]

end

end Propositional.Console.Markup
