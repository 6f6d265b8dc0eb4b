import Mathlib.Order.Bounds.Basic
import Mathlib.Order.MinMax
import Propositional.Expression
import Propositional.Proofs.Grammar

namespace Propositional

/-- The parentheses that some tokens open, less those that they close. -/
def surplus (ts : List Token) : Int := ts.count Token.opening - ts.count Token.closing

theorem surplus_append (ts us : List Token) : surplus (ts ++ us) = surplus ts + surplus us := by
  simp only [surplus, List.count_append]
  omega

namespace Nesting

/-- The count of open parentheses behind some tokens: the depth is the largest surplus of the last
tokens, however many of them, and the deepest count the largest of any that stand together. -/
structure Measures (n : Nesting) (ts : List Token) : Prop where
  depth : IsGreatest (surplus '' {us | us <:+ ts}) n.depth
  deepest : IsGreatest (surplus '' {us | us <:+: ts}) n.deepest

theorem measures_nil : Measures ⟨0, 0⟩ [] := by
  have hnil : surplus [] = 0 := rfl
  refine ⟨⟨⟨[], List.nil_suffix, hnil⟩, ?_⟩, ⟨⟨[], List.nil_infix, hnil⟩, ?_⟩⟩
  · rintro _ ⟨us, hus, rfl⟩
    rw [List.suffix_nil.mp hus, hnil]
    exact Int.le_refl 0
  · rintro _ ⟨us, hus, rfl⟩
    rw [List.infix_nil.mp hus, hnil]
    exact Int.le_refl 0

theorem Measures.depth_le {n : Nesting} (h : n.Measures ts) : n.depth ≤ n.deepest := by
  obtain ⟨us, hus, hdepth⟩ := h.depth.1
  have hle := h.deepest.2 ⟨us, hus.isInfix, hdepth⟩
  omega

/-- A token adds its surplus to the depth, which never falls below zero. -/
theorem step_eq {n : Nesting} (h : n.depth ≤ n.deepest) (token : Token) :
    ((n.step token).depth : Int) = max 0 (n.depth + surplus [token]) ∧
      (n.step token).deepest = max n.deepest (n.step token).depth := by
  unfold step
  split
  · rename_i hopen
    rw [Token.is_operator_iff.mp hopen]
    have hone : surplus [⟨.operator, "("⟩] = 1 := rfl
    rw [hone]
    dsimp only
    exact ⟨by omega, rfl⟩
  · rename_i hopen
    split
    · rename_i hclose
      rw [Token.is_operator_iff.mp hclose]
      have hone : surplus [⟨.operator, ")"⟩] = -1 := rfl
      rw [hone]
      dsimp only
      exact ⟨by omega, by omega⟩
    · rename_i hclose
      have hopening : token ≠ Token.opening := fun he => hopen (Token.is_operator_iff.mpr he)
      have hclosing : token ≠ Token.closing := fun he => hclose (Token.is_operator_iff.mpr he)
      have hnone : surplus [token] = 0 := by
        rw [surplus, List.count_cons_of_ne hopening, List.count_cons_of_ne hclosing]
        rfl
      rw [hnone]
      exact ⟨by omega, by omega⟩

/-- The last tokens with one more behind them are none, or were the last before and one more. -/
theorem Measures.step_depth {n : Nesting} (h : n.Measures ts) (token : Token) :
    IsGreatest (surplus '' {us | us <:+ ts ++ [token]}) (max 0 (n.depth + surplus [token])) := by
  constructor
  · rcases max_choice 0 ((n.depth : Int) + surplus [token]) with hmax | hmax
    · exact ⟨[], List.nil_suffix, hmax.symm⟩
    · obtain ⟨us, hus, hdepth⟩ := h.depth.1
      refine ⟨us ++ [token], List.suffix_concat_iff.mpr (.inr ⟨us, rfl, hus⟩), ?_⟩
      rw [surplus_append, hdepth, hmax]
  · rintro _ ⟨us, hus, rfl⟩
    rcases List.suffix_concat_iff.mp hus with rfl | ⟨vs, rfl, hvs⟩
    · exact Int.le_max_left _ _
    · have hle := h.depth.2 ⟨vs, hvs, rfl⟩
      rw [surplus_append]
      exact Int.le_trans (Int.add_le_add_right hle _) (Int.le_max_right _ _)

theorem Measures.step {n : Nesting} (h : n.Measures ts) (token : Token) :
    (n.step token).Measures (ts ++ [token]) := by
  obtain ⟨hdepth, hdeepest⟩ := step_eq h.depth_le token
  have hlast := hdepth ▸ h.step_depth token
  refine ⟨hlast, ?_⟩
  -- What stands together either ends with the token or stood together before it.
  have hsplit : {us | us <:+: ts ++ [token]} = {us | us <:+: ts} ∪ {us | us <:+ ts ++ [token]} := by
    ext us
    exact List.infix_concat_iff.trans or_comm
  have hmax : ((n.step token).deepest : Int) = max (n.deepest : Int) (n.step token).depth := by
    omega
  rw [hmax, hsplit, Set.image_union]
  exact h.deepest.union hlast

theorem Measures.fold {n : Nesting} (h : n.Measures ts) (us : List Token) :
    (us.foldl Nesting.step n).Measures (ts ++ us) := by
  induction us generalizing n ts with
  | nil => rwa [List.append_nil]
  | cons token us ih =>
    rw [List.append_cons]
    exact ih (h.step token)

end Nesting

/-- The nesting of a text is the largest number by which the opening parentheses exceed the closing
ones in any tokens that stand together, none included. -/
theorem Expression.nesting_is_greatest (text : String) :
    IsGreatest {n : Int | ∃ segment, segment <:+: Token.scan text ∧
      n = segment.count Token.opening - segment.count Token.closing} (nesting text) := by
  have hset : {n : Int | ∃ segment, segment <:+: Token.scan text ∧
      n = segment.count Token.opening - segment.count Token.closing} =
        surplus '' {segment | segment <:+: Token.scan text} := by
    ext n
    exact exists_congr (fun segment => and_congr_right (fun _ => eq_comm))
  rw [hset]
  exact (Nesting.measures_nil.fold (Token.scan text)).deepest

end Propositional
