import Propositional.Text.Blank
import Propositional.Text.Grapheme

namespace Propositional.Text

/-- The cells of a text behind the last character that had a width. -/
def widthAfter (last : Option Char) (cs : List Char) : Nat :=
  (measure last cs).foldr (fun (_, w) total => w + total) 0

theorem width_after_selector (last : Option Char) (rest : List Char) :
    widthAfter last (pictographSelector :: rest) =
      (if last.any pictographs.contains then 1 else 0) + widthAfter none rest := by
  rw [widthAfter, measure.eq_def]
  rfl

theorem width_after_joiner (last : Option Char) (d : Char) (rest : List Char) :
    widthAfter last (joiner :: d :: rest) = widthAfter last rest := by
  rw [widthAfter, measure.eq_def]
  exact (Nat.zero_add _).trans (Nat.zero_add _)

theorem width_after_cons (last : Option Char) (rest : List Char) (hs : c ≠ pictographSelector)
    (hj : c ≠ joiner) : widthAfter last (c :: rest) =
      charWidth c + widthAfter (if charWidth c = 0 then last else some c) rest := by
  rw [widthAfter, measure.eq_def]
  simp [hs, hj, widthAfter]

/-- No more cells than the characters have. -/
theorem width_after_append (last : Option Char) (a b : List Char) :
    widthAfter last a ≤ widthAfter last (a ++ b) := by
  fun_induction measure last a with
  | case1 last => exact Nat.zero_le _
  | case2 last c a hc ih =>
    obtain rfl := eq_of_beq hc
    rw [List.cons_append, width_after_selector, width_after_selector]
    omega
  | case3 last c hc hj =>
    obtain rfl := eq_of_beq hj
    exact Nat.zero_le _
  | case4 last c hc hj d a ih =>
    obtain rfl := eq_of_beq hj
    rwa [List.cons_append, List.cons_append, width_after_joiner, width_after_joiner]
  | case5 last c a hc hj _ ih =>
    rw [beq_iff_eq] at hc hj
    rw [List.cons_append, width_after_cons last a hc hj, width_after_cons last (a ++ b) hc hj]
    exact Nat.add_le_add_left ih _

/-- Of what went before, only a pictograph counts. -/
theorem width_after_mono {last : Option Char} (cs : List Char)
    (h : last.any pictographs.contains → last'.any pictographs.contains) :
    widthAfter last cs ≤ widthAfter last' cs := by
  fun_induction measure last cs generalizing last'
  case case1 => exact Nat.zero_le _
  case case2 last c a hc ih =>
    obtain rfl := eq_of_beq hc
    rw [width_after_selector, width_after_selector]
    refine Nat.add_le_add_right ?_ _
    split
    · next hlast => exact Nat.le_of_eq (if_pos (h hlast)).symm
    · exact Nat.zero_le _
  case case3 last c hc hj =>
    obtain rfl := eq_of_beq hj
    exact Nat.zero_le _
  case case4 last c hc hj d a ih =>
    obtain rfl := eq_of_beq hj
    rw [width_after_joiner, width_after_joiner]
    exact ih h
  case case5 last c a hc hj _ ih =>
    rw [beq_iff_eq] at hc hj
    rw [width_after_cons last a hc hj, width_after_cons last' a hc hj]
    refine Nat.add_le_add_left (ih ?_) _
    split
    · exact h
    · exact id

theorem width_after_of_no_pictograph {last : Option Char} (cs : List Char)
    (h : ¬last.any pictographs.contains) : widthAfter last cs = widthAfter none cs :=
  Nat.le_antisymm (width_after_mono cs (fun hl => absurd hl h)) (width_after_mono cs nofun)

theorem last_ne_of_cons {a : List Char} (h : (c :: a).getLast? ≠ some d) :
    a.getLast? ≠ some d := by
  cases a with
  | nil => exact nofun
  | cons e a => rwa [List.getLast?_cons_cons] at h

/-- A joiner at the end of a text would swallow the first character of what follows it. -/
theorem width_after_add_le (last : Option Char) (a b : List Char) (h : a.getLast? ≠ some joiner) :
    widthAfter last a + width b ≤ widthAfter last (a ++ b) := by
  fun_induction measure last a with
  | case1 last =>
    rw [List.nil_append]
    exact (Nat.zero_add _).symm ▸ width_after_mono b nofun
  | case2 last c a hc ih =>
    obtain rfl := eq_of_beq hc
    rw [List.cons_append, width_after_selector, width_after_selector]
    have hrest := ih (last_ne_of_cons h)
    omega
  | case3 last c hc hj =>
    obtain rfl := eq_of_beq hj
    exact absurd rfl h
  | case4 last c hc hj d a ih =>
    obtain rfl := eq_of_beq hj
    rw [List.cons_append, List.cons_append, width_after_joiner, width_after_joiner]
    exact ih (last_ne_of_cons (last_ne_of_cons h))
  | case5 last c a hc hj _ ih =>
    rw [beq_iff_eq] at hc hj
    rw [List.cons_append, width_after_cons last a hc hj, width_after_cons last (a ++ b) hc hj,
      Nat.add_assoc]
    exact Nat.add_le_add_left (ih (last_ne_of_cons h)) _

theorem total_grow (g : Grapheme) (last : Option Char) (cs : List Char) :
    totalCells (g.grow last cs) = g.cells + widthAfter last cs := by
  have hjs : joiner ≠ pictographSelector := by decide
  fun_induction Grapheme.grow g last cs with
  | case1 g last => rfl
  | case2 g last c hj =>
    obtain rfl := eq_of_beq hj
    rfl
  | case3 g last c hj d cs ih =>
    obtain rfl := eq_of_beq hj
    rw [ih, width_after_joiner]
    rfl
  | case4 g last c cs hj hs hlast ih =>
    obtain rfl := eq_of_beq hs
    rw [ih, width_after_selector, if_pos hlast, ← Nat.add_assoc]
    rfl
  | case5 g last c cs hj hs hlast ih =>
    obtain rfl := eq_of_beq hs
    rw [ih, width_after_selector, if_neg hlast, width_after_of_no_pictograph cs hlast, Nat.zero_add]
    rfl
  | case6 g last c cs hj hs hw ih =>
    rw [beq_iff_eq] at hs hj
    rw [ih, width_after_cons last cs hs hj, hw, if_pos rfl, Nat.zero_add]
    rfl
  | case7 g last c cs hj hs hw ih =>
    rw [beq_iff_eq] at hs hj
    rw [width_after_cons last cs hs hj, if_neg hw]
    exact congrArg (g.cells + ·) ih

/-- A joiner at the start of a text joins nothing, though the character behind it is then
measured as joined. -/
theorem total_graphemes (h : cs.head? ≠ some joiner) : totalCells (graphemes cs) = width cs := by
  cases cs with
  | nil => rfl
  | cons c cs =>
    have hj : c ≠ joiner := fun hc => h (congrArg some hc)
    rw [graphemes, total_grow]
    change charWidth c + _ = widthAfter none (c :: cs)
    by_cases hs : c = pictographSelector
    · rw [hs, width_after_selector]
      rfl
    · rw [width_after_cons none cs hs hj]

theorem chars_grow (g : Grapheme) (last : Option Char) (cs : List Char) :
    (g.grow last cs).flatMap (·.chars) = g.chars ++ cs := by
  fun_induction Grapheme.grow g last cs with
  | case1 g last => rw [List.flatMap_cons, List.flatMap_nil]
  | case2 g last c hj => rw [List.flatMap_cons, List.flatMap_nil, List.append_nil, Grapheme.append]
  | case3 g last c hj d cs ih => rw [ih, Grapheme.append, List.append_assoc]; rfl
  | case4 g last c cs hj hs hlast ih =>
    rw [ih, Grapheme.append, Grapheme.widen, List.append_assoc]
    rfl
  | case5 g last c cs hj hs hlast ih => rw [ih, Grapheme.append, List.append_assoc]; rfl
  | case6 g last c cs hj hs hw ih => rw [ih, Grapheme.append, List.append_assoc]; rfl
  | case7 g last c cs hj hs hw ih => rw [List.flatMap_cons, ih]; rfl

/-- No character is lost between graphemes. -/
theorem chars_graphemes (cs : List Char) : (graphemes cs).flatMap (·.chars) = cs := by
  cases cs with
  | nil => rfl
  | cons c cs => exact chars_grow _ _ cs

/-- What takes no cell is drawn into the grapheme before it, so that only the first of a text can
be without cells. -/
theorem cells_grow (g : Grapheme) (last : Option Char) (cs : List Char) :
    ∃ first rest, g.grow last cs = first :: rest ∧ g.cells ≤ first.cells ∧
      ∀ grapheme ∈ rest, 0 < grapheme.cells := by
  fun_induction Grapheme.grow g last cs with
  | case1 g last => exact ⟨_, _, rfl, Nat.le_refl _, nofun⟩
  | case2 g last c hj => exact ⟨_, _, rfl, Nat.le_refl _, nofun⟩
  | case3 g last c hj d cs ih => exact ih
  | case4 g last c cs hj hs hlast ih =>
    obtain ⟨first, rest, heq, hle, hrest⟩ := ih
    exact ⟨first, rest, heq, Nat.le_of_succ_le hle, hrest⟩
  | case5 g last c cs hj hs hlast ih => exact ih
  | case6 g last c cs hj hs hw ih => exact ih
  | case7 g last c cs hj hs hw ih =>
    obtain ⟨first, rest, heq, hle, hrest⟩ := ih
    refine ⟨g, _, rfl, Nat.le_refl _, ?_⟩
    rw [heq, List.forall_mem_cons]
    exact ⟨Nat.lt_of_lt_of_le (Nat.pos_of_ne_zero hw) hle, hrest⟩

/-- A grapheme has characters, and if they are all spaces it is one space, which takes one cell. -/
def Grapheme.Proper (g : Grapheme) : Prop :=
  g.chars ≠ [] ∧ ((∀ c ∈ g.chars, c = ' ') → g.cells ≤ 1)

theorem Grapheme.Proper.single (c : Char) : (Grapheme.single c (charWidth c)).Proper := by
  refine ⟨List.cons_ne_nil _ _, fun hall => ?_⟩
  rw [hall c (List.mem_singleton_self c)]
  decide

/-- What is drawn into a grapheme is no space. -/
theorem Grapheme.Proper.drawn {g : Grapheme} (hm : c ∈ g.chars)
    (hc : c = joiner ∨ c = pictographSelector ∨ charWidth c = 0) : g.Proper := by
  refine ⟨List.ne_nil_of_mem hm, fun hall => ?_⟩
  rw [hall c hm] at hc
  exact absurd hc (by decide)

theorem proper_grow {g : Grapheme} (hg : g.Proper) (last : Option Char) (cs : List Char) :
    ∀ grapheme ∈ g.grow last cs, grapheme.Proper := by
  have hm : ∀ (g : Grapheme) (c : Char) (more : List Char), c ∈ (g.append (c :: more)).chars :=
    fun _ _ _ => List.mem_append_right _ List.mem_cons_self
  fun_induction Grapheme.grow g last cs
  case case1 => exact List.forall_mem_singleton.mpr hg
  case case2 hc =>
    exact List.forall_mem_singleton.mpr (.drawn (hm _ _ _) (.inl (eq_of_beq hc)))
  case case3 hc d cs ih => exact ih (.drawn (hm _ _ _) (.inl (eq_of_beq hc)))
  case case4 g _ c _ _ hc _ ih =>
    have hwide : c ∈ (g.append [c]).widen.chars := hm g c []
    exact ih (.drawn hwide (.inr (.inl (eq_of_beq hc))))
  case case5 hc hlast ih => exact ih (.drawn (hm _ _ _) (.inr (.inl (eq_of_beq hc))))
  case case6 hc ih => exact ih (.drawn (hm _ _ _) (.inr (.inr hc)))
  case case7 hc ih => exact List.forall_mem_cons.mpr ⟨hg, ih (.single _)⟩

theorem proper_graphemes (cs : List Char) : ∀ grapheme ∈ graphemes cs, grapheme.Proper := by
  cases cs with
  | nil => exact nofun
  | cons c cs => exact proper_grow (.single c) _ cs

end Propositional.Text
