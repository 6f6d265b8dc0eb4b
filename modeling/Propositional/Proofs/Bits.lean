import Mathlib.Data.List.Nodup
import Mathlib.Tactic.Ring
import Propositional.TruthTable.Generation

namespace Propositional

/-- The value of a binary numeral, the most significant digit first. -/
def numeral : List Nat → Nat
  | [] => 0
  | b :: bs => b * 2 ^ bs.length + numeral bs

theorem bits_succ (n i : Nat) : bits (n + 1) i = ((i >>> n) &&& 1) :: bits n i := by
  simp only [bits, List.range_succ_eq_map, List.map_cons, List.map_map, List.cons.injEq]
  refine ⟨rfl, ?_⟩
  apply List.map_congr_left
  intro j hj
  rw [Function.comp_apply, show n + 1 - 1 - (j + 1) = n - 1 - j by omega]

theorem length_bits (n i : Nat) : (bits n i).length = n := by simp [bits]

theorem bits_le_one (n i : Nat) : ∀ b ∈ bits n i, b ≤ 1 := by
  intro b hb
  obtain ⟨j, _, rfl⟩ := List.mem_map.mp hb
  rw [Nat.and_one_is_mod]
  omega

/-- Only so many of the lowest digits matter as are asked for. -/
theorem bits_add_mul (n k i : Nat) : bits n (k * 2 ^ n + i) = bits n i := by
  apply List.map_congr_left
  intro j hj
  have hj : j < n := List.mem_range.mp hj
  have he : k * 2 ^ n = 2 ^ (n - 1 - j) * (2 * (k * 2 ^ j)) := by
    have hp : 2 ^ n = 2 ^ (n - 1 - j) * 2 ^ (j + 1) := by
      rw [← Nat.pow_add]
      congr 1
      omega
    rw [hp, Nat.pow_succ]
    ring
  simp only [Nat.and_one_is_mod, Nat.shiftRight_eq_div_pow]
  rw [he, Nat.mul_add_div (Nat.two_pow_pos _)]
  omega

theorem numeral_lt (h : ∀ b ∈ ds, b ≤ 1) : numeral ds < 2 ^ ds.length := by
  induction ds with
  | nil => simp [numeral]
  | cons b bs ih =>
    have hb : b ≤ 1 := h b List.mem_cons_self
    have hbs := ih (fun c hc => h c (List.mem_cons_of_mem _ hc))
    have hle : b * 2 ^ bs.length ≤ 1 * 2 ^ bs.length := Nat.mul_le_mul_right _ hb
    rw [numeral, List.length_cons, Nat.pow_succ]
    omega

theorem bits_numeral (h : ∀ b ∈ ds, b ≤ 1) : bits ds.length (numeral ds) = ds := by
  induction ds with
  | nil => rfl
  | cons b bs ih =>
    have hb : b ≤ 1 := h b List.mem_cons_self
    have hbs : ∀ c ∈ bs, c ≤ 1 := fun c hc => h c (List.mem_cons_of_mem _ hc)
    have hdiv : (b * 2 ^ bs.length + numeral bs) / 2 ^ bs.length = b := by
      rw [Nat.mul_comm, Nat.mul_add_div (Nat.two_pow_pos _), Nat.div_eq_of_lt (numeral_lt hbs),
        Nat.add_zero]
    rw [List.length_cons, bits_succ, numeral, bits_add_mul, ih hbs,
      Nat.and_one_is_mod, Nat.shiftRight_eq_div_pow, hdiv, Nat.mod_eq_of_lt (by omega)]

theorem numeral_bits (n i : Nat) : numeral (bits n i) = i % 2 ^ n := by
  induction n with
  | zero => rw [Nat.pow_zero, Nat.mod_one, bits, List.range_zero, List.map_nil, numeral]
  | succ n ih =>
    rw [bits_succ, numeral, length_bits, ih, Nat.and_one_is_mod, Nat.shiftRight_eq_div_pow,
      Nat.mod_pow_succ]
    ring

/-- Numerals of one length stand in the order of their values. -/
theorem lex_of_numeral_lt (hl : xs.length = ys.length) (hy : ∀ b ∈ ys, b ≤ 1)
    (h : numeral xs < numeral ys) : List.Lex (· < ·) xs ys := by
  induction xs generalizing ys with
  | nil =>
    cases ys with
    | nil => exact absurd h (Nat.lt_irrefl _)
    | cons y ys => cases hl
  | cons x xs ih =>
    cases ys with
    | nil => cases hl
    | cons y ys =>
      have hlen : xs.length = ys.length := Nat.succ.inj hl
      have hys : ∀ b ∈ ys, b ≤ 1 := fun b hb => hy b (List.mem_cons_of_mem _ hb)
      simp only [numeral, hlen] at h
      rcases Nat.lt_trichotomy x y with hxy | rfl | hxy
      · exact .rel hxy
      · exact .cons (ih hlen hys (Nat.lt_of_add_lt_add_left h))
      · have hle : (y + 1) * 2 ^ ys.length ≤ x * 2 ^ ys.length := Nat.mul_le_mul_right _ hxy
        have hlt := numeral_lt hys
        rw [Nat.succ_mul] at hle
        omega

theorem bits_lex (hij : i < j) (hj : j < 2 ^ n) : List.Lex (· < ·) (bits n i) (bits n j) := by
  refine lex_of_numeral_lt (by rw [length_bits, length_bits]) (bits_le_one n j) ?_
  rw [numeral_bits, numeral_bits, Nat.mod_eq_of_lt (Nat.lt_trans hij hj), Nat.mod_eq_of_lt hj]
  exact hij

/-- The digits of every number that can be written with so many of them, counted up from zero. -/
def combinations (n : Nat) : List (List Nat) := (List.range (2 ^ n)).map (bits n)

theorem mem_combinations : digits ∈ combinations n ↔
    digits.length = n ∧ ∀ b ∈ digits, b ≤ 1 := by
  simp only [combinations, List.mem_map, List.mem_range]
  constructor
  · rintro ⟨i, _, rfl⟩
    exact ⟨length_bits _ _, bits_le_one _ _⟩
  · rintro ⟨rfl, hb⟩
    exact ⟨numeral digits, numeral_lt hb, bits_numeral hb⟩

theorem values_of_combinations (n : Nat) : (combinations n).map numeral = List.range (2 ^ n) := by
  rw [combinations, List.map_map]
  apply (List.map_congr_left ?_).trans (List.map_id _)
  intro i hi
  rw [Function.comp_apply, numeral_bits, Nat.mod_eq_of_lt (List.mem_range.mp hi), id]

theorem combinations_increasing (n : Nat) : (combinations n).Pairwise (List.Lex (· < ·)) := by
  rw [combinations, List.pairwise_map]
  apply List.pairwise_lt_range.imp_of_mem
  intro i j _ hj hij
  exact bits_lex hij (List.mem_range.mp hj)

/-- However many digits there are, the lists of them count up: the value of each as a binary
numeral is its place, none comes twice, every list of so many zeros and ones is there, and each
stands before those that are greater in lexicographic order. -/
theorem combinations_count_up (n : Nat) :
    (combinations n).map numeral = List.range (2 ^ n) ∧
    (combinations n).Nodup ∧
    (∀ digits, digits ∈ combinations n ↔
      digits.length = n ∧ ∀ b ∈ digits, b = 0 ∨ b = 1) ∧
    (combinations n).Pairwise (List.Lex (· < ·)) := by
  refine ⟨values_of_combinations n, ?_, ?_, combinations_increasing n⟩
  · -- What has different values is different.
    apply List.Nodup.of_map numeral
    rw [values_of_combinations]
    exact List.nodup_range
  · intro digits
    simp only [mem_combinations, Nat.le_one_iff_eq_zero_or_eq_one]

example : combinations 2 = [[0, 0], [0, 1], [1, 0], [1, 1]] := rfl

namespace TruthTable

theorem inputs_eq (text : String) :
    inputs text = combinations (Expression.vars text).length := by
  rw [combinations, inputs, Nat.one_shiftLeft]

theorem length_inputs (text : String) :
    (inputs text).length = 2 ^ (Expression.vars text).length := by
  rw [inputs_eq, combinations, List.length_map, List.length_range]

/-- The rows stand for all sequences of as many digits as there are variables. -/
theorem mem_inputs : digits ∈ inputs text ↔
    digits.length = (Expression.vars text).length ∧ ∀ b ∈ digits, b ≤ 1 := by
  rw [inputs_eq, mem_combinations]

end TruthTable

end Propositional
