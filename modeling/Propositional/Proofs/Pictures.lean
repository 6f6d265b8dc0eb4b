import Mathlib.Data.List.Basic
import Mathlib.Data.List.TakeWhile
import Propositional.Console.Pictures

namespace Propositional.Console

theorem code_at_split (h : codeAt? cs = some (code, rest)) :
    cs = ':' :: code ++ ':' :: rest ∧ ∀ c ∈ code, c ≠ ':' ∧ Text.isBlank c = false := by
  unfold codeAt? at h
  split at h
  · rename_i behind
    dsimp only at h
    split at h
    · rename_i after hafter
      obtain ⟨rfl, rfl⟩ := Prod.mk.inj (Option.some.inj h)
      have hsplit := List.prefix_iff_eq_append.mp
        (List.takeWhile_prefix (l := behind) (fun c => c != ':' && !Text.isBlank c))
      rw [hafter] at hsplit
      refine ⟨by rw [List.cons_append, hsplit], fun c hc => ?_⟩
      simpa using List.all_eq_true.mp List.all_takeWhile c hc
    · cases h
  · cases h

section
variable [Library]

theorem colon_not_mem_picture (h : pictureOf? code = some picture) : ':' ∉ picture := by
  obtain ⟨name, hname, rfl⟩ := Option.map_eq_some_iff.mp h
  have hselector : ':' ∉ (splitCode code).2 := by
    unfold splitCode
    split
    · rename_i ending selector hfound
      have hall : ∀ entry ∈ selectors, ':' ∉ entry.2 := by decide
      exact hall (ending, selector) (List.mem_of_find?_eq_some hfound)
    · exact List.not_mem_nil
  rw [List.mem_append, not_or]
  exact ⟨Library.picture_plain _ name hname, hselector⟩

/-- The colons around a code go with it, and no picture brings one. -/
theorem pictures_in_count (fuel : Nat) (cs : List Char) :
    picturesIn fuel cs = cs ∨ (picturesIn fuel cs).count ':' < cs.count ':' := by
  induction fuel generalizing cs with
  | zero => exact .inl rfl
  | succ fuel ih =>
    rw [picturesIn.eq_def]
    dsimp only
    split
    · rename_i code rest hcode
      rw [(code_at_split hcode).1]
      cases hpicture : pictureOf? code with
      | none =>
        rcases ih rest with heq | hless
        · exact .inl (by simp [heq])
        · exact .inr (by simpa using hless)
      | some picture =>
        have hnone := List.count_eq_zero.mpr (colon_not_mem_picture hpicture)
        have hrest : (picturesIn fuel rest).count ':' ≤ rest.count ':' :=
          (ih rest).elim (fun heq => heq.symm ▸ Nat.le_refl _) Nat.le_of_lt
        refine .inr ?_
        simp only [Option.getD_some, List.count_append, List.count_cons, hnone]
        simp
        omega
    · split
      · exact .inl rfl
      · rename_i c rest _
        rcases ih rest with heq | hless
        · exact .inl (by rw [heq])
        · exact .inr (by simpa [List.count_cons] using hless)

@[simp] theorem pictures_nil : pictures [] = [] := rfl

theorem pictures_count (cs : List Char) :
    pictures cs = cs ∨ (pictures cs).count ':' < cs.count ':' := pictures_in_count cs.length cs

/-- A text that keeps its colons is as it was. -/
theorem pictures_of_count (h : cs.count ':' ≤ (pictures cs).count ':') : pictures cs = cs :=
  (pictures_count cs).resolve_right (Nat.not_lt.mpr h)

/-- Nowhere in a text does a code stand for a picture. -/
def Codeless (cs : List Char) : Prop :=
  ∀ code, ':' :: code ++ [':'] <:+: cs → (∀ c ∈ code, c ≠ ':' ∧ Text.isBlank c = false) →
    pictureOf? code = none

theorem Codeless.mono (h : Codeless cs) (hpart : part <:+: cs) : Codeless part :=
  fun code hcode => h code (hcode.trans hpart)

/-- A code needs two colons. -/
theorem codeless_of_few (h : cs.count ':' < 2) : Codeless cs := by
  intro code hcode
  have hcount := hcode.sublist.count_le ':'
  simp only [List.count_append, List.count_cons_self, List.cons_append] at hcount
  omega

/-- A text without codes is as it was. -/
theorem Codeless.eq (h : Codeless cs) : pictures cs = cs := by
  have hin : ∀ fuel, picturesIn fuel cs = cs := by
    intro fuel
    induction fuel generalizing cs with
    | zero => rfl
    | succ fuel ih =>
      rw [picturesIn.eq_def]
      dsimp only
      split
      · rename_i code rest hcode
        obtain ⟨rfl, hchars⟩ := code_at_split hcode
        have hnone : pictureOf? code = none := by
          refine h code ⟨[], rest, ?_⟩ hchars
          simp
        rw [hnone, ih (h.mono ⟨':' :: code ++ [':'], [], by simp⟩)]
        simp
      · split
        · rfl
        · rename_i c rest _
          rw [ih (h.mono (List.suffix_cons c rest).isInfix)]
  exact hin cs.length

theorem pictures_of_no_colon (h : ':' ∉ cs) : pictures cs = cs :=
  (codeless_of_few (List.count_eq_zero.mpr h ▸ Nat.zero_lt_two)).eq

/-- What stands before the first colon stays. -/
theorem pictures_append (h : ':' ∉ before) (cs : List Char) :
    pictures (before ++ cs) = before ++ pictures cs := by
  have hin : picturesIn (cs.length + before.length) (before ++ cs) = before ++ pictures cs := by
    induction before with
    | nil => rfl
    | cons c before ih =>
      rw [List.mem_cons, not_or] at h
      have hnone : codeAt? (c :: (before ++ cs)) = none := by
        unfold codeAt?
        split
        · rename_i heq
          exact absurd (List.cons.inj heq).1.symm h.1
        · rfl
      rw [List.length_cons, ← Nat.add_assoc, List.cons_append, picturesIn, hnone]
      exact congrArg (c :: ·) (ih h.2)
  rw [pictures, List.length_append, Nat.add_comm]
  exact hin

end

end Propositional.Console
