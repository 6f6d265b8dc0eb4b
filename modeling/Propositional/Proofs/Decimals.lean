import Mathlib.Data.List.Basic
import Propositional.Text.Integer

namespace Propositional.Text

/-- An integer is written in decimal digits, behind a minus sign if it is negative. -/
theorem int_chars (n : Int) :
    (toString n).toList = (if n < 0 then ['-'] else []) ++ Nat.toDigits 10 n.natAbs := by
  rw [Int.toString_eq_repr, Int.repr_eq_if]
  by_cases h : n < 0
  · rw [if_neg (Int.not_le.mpr h), if_pos h, String.toList_append, Nat.toList_repr]
    have hn : (-n).toNat = n.natAbs := by omega
    rw [hn]
    rfl
  · rw [if_pos (Int.not_lt.mp h), if_neg h, Nat.toList_repr]
    have hn : n.toNat = n.natAbs := by omega
    rw [hn]
    rfl

theorem digit_of_decimal (h : c ∈ Nat.toDigits 10 n) : c.isDigit = true :=
  Nat.isDigit_of_mem_toDigits (by decide) (by decide) h

theorem mem_int_chars (h : c ∈ (toString (n : Int)).toList) : c = '-' ∨ c.isDigit = true := by
  rw [int_chars] at h
  rcases List.mem_append.mp h with h | h
  · refine .inl ?_
    split at h
    · exact List.mem_singleton.mp h
    · cases h
  · exact .inr (digit_of_decimal h)

theorem decimal_injective (h : Nat.toDigits 10 m = Nat.toDigits 10 n) : m = n := by
  rw [← Nat.ofDigitChars_ten_toDigits (n := m), h, Nat.ofDigitChars_ten_toDigits]

/-- The sign of a negative integer is no digit. -/
theorem decimal_ne_negative : Nat.toDigits 10 m ≠ '-' :: cs := by
  intro h
  have hd : '-'.isDigit = true := digit_of_decimal (n := m) (h ▸ List.mem_cons_self)
  cases hd

theorem int_text_injective : Function.Injective (fun n : Int => (toString n).toList) := by
  intro m n h
  simp only [int_chars] at h
  by_cases hm : m < 0 <;> by_cases hn : n < 0
  · rw [if_pos hm, if_pos hn] at h
    have ha := decimal_injective (List.append_cancel_left h)
    omega
  · rw [if_pos hm, if_neg hn] at h
    exact absurd h.symm decimal_ne_negative
  · rw [if_neg hm, if_pos hn] at h
    exact absurd h decimal_ne_negative
  · rw [if_neg hm, if_neg hn] at h
    have ha := decimal_injective h
    omega

/-- Only zero begins with a zero. -/
theorem head_decimal (h : 0 < n) : (Nat.toDigits 10 n).head? ≠ some '0' := by
  induction n using Nat.base_induction 10 (by decide) with
  | single m hm =>
    rw [Nat.toDigits_of_lt_base hm]
    simp
    omega
  | digit m k hk hm ih =>
    rw [← Nat.toDigits_append_toDigits (by decide) hm hk, List.head?_append]
    cases hd : (Nat.toDigits 10 m).head? with
    | none => exact absurd (List.head?_eq_none_iff.mp hd) Nat.toDigits_ne_nil
    | some d =>
      rw [Option.some_or, ← hd]
      exact ih hm

end Propositional.Text
