import Mathlib.Data.Nat.Digits.Defs
import Propositional.Proofs.JsonText
import Propositional.Proofs.Outcomes

namespace Propositional

namespace Json

theorem digits_value_lt (hds : ∀ c ∈ ds, isDigit c = true) : digitsValue ds < 10 ^ ds.length := by
  have hfold : ∀ m, ds.foldl (fun n c => n * 10 + (c.toNat - '0'.toNat)) m + 1 ≤
      (m + 1) * 10 ^ ds.length := by
    induction ds with
    | nil => simp
    | cons c ds ih =>
      intro m
      have hc : c.toNat - '0'.toNat ≤ 9 := by
        have hd := hds c List.mem_cons_self
        rw [isDigit, Bool.and_eq_true, decide_eq_true_iff, decide_eq_true_iff] at hd
        have hle : c.toNat ≤ '9'.toNat := hd.2
        have h0 : '0'.toNat = 48 := rfl
        have h9 : '9'.toNat = 57 := rfl
        omega
      have hrest := ih (fun c hm => hds c (List.mem_cons_of_mem _ hm))
        (m * 10 + (c.toNat - '0'.toNat))
      calc _ ≤ (m * 10 + (c.toNat - '0'.toNat) + 1) * 10 ^ ds.length := hrest
        _ ≤ ((m + 1) * 10) * 10 ^ ds.length := Nat.mul_le_mul_right _ (by omega)
        _ = (m + 1) * 10 ^ (c :: ds).length := by
          rw [List.length_cons, Nat.pow_succ, Nat.mul_assoc, Nat.mul_comm 10]
  have hzero := hfold 0
  rw [Nat.zero_add, Nat.one_mul] at hzero
  exact hzero

/-- A number needs no more digits than it was written with. -/
theorem length_digits_value_le (hne : ds ≠ []) (hds : ∀ c ∈ ds, isDigit c = true) :
    (Nat.toDigits 10 (digitsValue ds)).length ≤ ds.length :=
  Nat.toDigits_length 10 _ _ (List.length_pos_iff.mpr hne) (digits_value_lt hds)

theorem is_digit_iff {c : Char} : isDigit c = true ↔ c.isDigit = true := by
  rw [isDigit, Char.isDigit, Bool.and_eq_true, Bool.and_eq_true, decide_eq_true_iff,
    decide_eq_true_iff, decide_eq_true_iff, decide_eq_true_iff]
  exact Iff.rfl

/-- The integers in a value meet a condition. -/
inductive Value.Holds {τ : Type} (P : Int → Prop) : Value τ → Prop
  | null : Holds P .null
  | bool : Holds P (.bool b)
  | int (h : P n) : Holds P (.int n)
  | float : Holds P (.float x)
  | text : Holds P (.text s)
  | list (h : ∀ item ∈ items, Holds P item) : Holds P (.list items)
  | object (h : ∀ field ∈ fields, Holds P field.2) : Holds P (.object fields)

theorem Value.holds_of_fields [DecidableEq τ] {fields : List (τ × Value τ)}
    (h : ∀ field ∈ fields, Holds P field.2) : Holds P (ofFields fields) := by
  have hfold : ∀ found : List (τ × Value τ), (∀ field ∈ found, Holds P field.2) →
      ∀ field ∈ fields.foldl (fun found field => insertField found field.1 field.2) found,
        Holds P field.2 := by
    induction fields with
    | nil => exact fun _ hfound => hfound
    | cons field fields ih =>
      intro found hfound
      refine ih (fun f hm => h f (List.mem_cons_of_mem _ hm)) _ ?_
      have hnew := h field List.mem_cons_self
      dsimp only [insertField]
      split
      · intro f hm
        obtain ⟨g, hg, rfl⟩ := List.mem_map.mp hm
        split
        · exact hnew
        · exact hfound g hg
      · intro f hm
        rcases List.mem_append.mp hm with hm | hm
        · exact hfound f hm
        · rw [List.mem_singleton.mp hm]
          exact hnew
  exact .object (hfold [] (by simp))

mutual

/-- Halves do not matter to the integers. -/
theorem Value.holds_of_points : ∀ {v : Value}, v.points.Holds P → v.Holds P
  | .null, _ => .null
  | .bool _, _ => .bool
  | .int _, .int h => .int h
  | .float _, _ => .float
  | .text _, _ => .text
  | .list _, .list h => .list (holds_of_item_points h)
  | .object _, .object h => .object (holds_of_field_points h)

theorem Value.holds_of_item_points : ∀ {items : List Value},
    (∀ item ∈ itemPoints items, item.Holds P) → ∀ item ∈ items, item.Holds P
  | [], _ => nofun
  | _ :: _, h =>
    have hitems := List.forall_mem_cons.mp h
    List.forall_mem_cons.mpr ⟨holds_of_points hitems.1, holds_of_item_points hitems.2⟩

theorem Value.holds_of_field_points : ∀ {fields : List (String × Value)},
    (∀ field ∈ fieldPoints fields, field.2.Holds P) → ∀ field ∈ fields, field.2.Holds P
  | [], _ => nofun
  | _ :: _, h =>
    have hfields := List.forall_mem_cons.mp h
    List.forall_mem_cons.mpr ⟨holds_of_points hfields.1, holds_of_field_points hfields.2⟩

end

theorem whole_part_digits (cs : List Char) : ∀ c ∈ (wholePart cs).1, isDigit c = true := by
  unfold wholePart
  split
  · intro c hm
    rw [List.mem_singleton.mp hm]
    rfl
  · rw [List.span_eq_takeWhile_dropWhile]
    exact fun c hm => List.all_eq_true.mp List.all_takeWhile c hm

theorem exceeded_mono {t : Tolerance} (h : t.exceeded? places = none) (hle : fewer ≤ places) :
    t.exceeded? fewer = none :=
  exceeded_eq_none.mpr (fun limit hm => Nat.le_trans hle (exceeded_eq_none.mp h limit hm))

/-- The sign of an integer does not matter. -/
theorem admits_of_places {t : Tolerance} (h : t.exceeded? (Nat.toDigits 10 n).length = none)
    (negative : Bool) : t.Admits (if negative then -(n : Int) else n) := by
  have habs : (if negative then -(n : Int) else n).natAbs = n := by
    cases negative <;> simp
  rw [Tolerance.Admits, habs]
  exact exceeded_eq_none.mp h

theorem number_holds (t : Tolerance) (cs : List Char) :
    Gives (number t cs) (fun read => read.1.Holds t.Admits) := by
  unfold number
  have hdigits := whole_part_digits (minus cs).2
  generalize minus cs = signed at hdigits ⊢
  obtain ⟨negative, body⟩ := signed
  dsimp only at hdigits ⊢
  generalize wholePart body = found at hdigits ⊢
  obtain ⟨whole, rest⟩ := found
  dsimp only at hdigits ⊢
  split
  · exact .error
  rename_i hne
  have hlength := length_digits_value_le (mt List.isEmpty_iff.mpr hne) hdigits
  split
  · exact .error
  rename_i hlong
  split
  · rename_i hinteger
    refine .ok (.int (admits_of_places (exceeded_mono ?_ hlength) negative))
    cases hx : t.exceeded? whole.length with
    | none => rfl
    | some limit => exact absurd hx (hlong limit (by rw [hinteger]; rfl))
  · exact .ok .float

theorem words_hold (P : Int → Prop) : ∀ entry ∈ words, entry.2.Holds P := by
  intro entry hm
  simp only [words, List.mem_cons, List.not_mem_nil, or_false] at hm
  rcases hm with rfl | rfl | rfl | rfl | rfl | rfl
  · exact .null
  · exact .bool
  · exact .bool
  · exact .float
  · exact .float
  · exact .float

theorem scalar_holds (t : Tolerance) (cs : List Char) :
    Gives (scalar t cs) (fun read => read.1.Holds t.Admits) := by
  unfold scalar
  split
  · rename_i hfound
    exact .ok (words_hold _ _ (List.mem_of_find?_eq_some hfound))
  · exact number_holds t cs

/-- A reader yields no integer that it does not admit, at any depth. The limits on integers are the
same in every container. -/
theorem reader_holds (fuel : Nat) :
    (∀ t cs, Gives (value t fuel cs) (fun read => read.1.Holds t.Admits)) ∧
    (∀ t cs, Gives (elements t fuel cs) (fun read => ∀ item ∈ read.1, item.Holds t.Admits)) ∧
    ∀ t cs, Gives (members t fuel cs) (fun read => ∀ field ∈ read.1, field.2.Holds t.Admits) := by
  induction fuel with
  | zero => exact ⟨fun _ _ => .error, fun _ _ => .error, fun _ _ => .error⟩
  | succ fuel ih =>
    obtain ⟨hvalue, helements, hmembers⟩ := ih
    refine ⟨fun t cs => ?_, fun t cs => ?_, fun t cs => ?_⟩
    · unfold value
      split
      · exact Settles.anything.bind (fun _ _ => .ok .text)
      · split
        · exact .ok (.list (by simp))
        · split
          · exact .error
          · exact (helements t.inside _).bind (fun _ h => .ok (.list h))
      · split
        · exact .ok (.object (by simp))
        · split
          · exact .error
          · exact (hmembers t.inside _).bind (fun _ h => .ok (Value.holds_of_fields h))
      · exact scalar_holds t cs
    · unfold elements
      refine (hvalue t cs).bind ?_
      rintro ⟨first, rest⟩ hfirst
      dsimp only
      split
      · exact .ok (by simpa using hfirst)
      · refine (helements t _).bind (fun items hitems => .ok ?_)
        exact List.forall_mem_cons.mpr ⟨hfirst, hitems⟩
      · exact .error
    · unfold members
      split
      · refine Settles.anything.bind ?_
        rintro ⟨name, rest⟩ -
        dsimp only
        split
        · refine (hvalue t _).bind ?_
          rintro ⟨first, rest⟩ hfirst
          dsimp only
          split
          · exact .ok (by simpa using hfirst)
          · refine (hmembers t _).bind (fun fields hfields => .ok ?_)
            exact List.forall_mem_cons.mpr ⟨hfirst, hfields⟩
          · exact .error
        · exact .error
      · exact .error

theorem parse_holds (t : Tolerance) (text : String) :
    Gives (parse t text) (fun v => v.Holds t.Admits) := by
  have hdocument : Gives (document t text.toList) (fun v => v.Holds t.Admits) := by
    unfold document
    split
    · exact .error
    · refine ((reader_holds _).1 t _).bind ?_
      rintro ⟨found, rest⟩ hfound
      dsimp only
      split
      · exact .ok hfound
      · exact .error
  exact hdocument.map_error (fun _ _ => trivial)

theorem read_holds (h : read t text = .ok v) : v.Holds t.Admits :=
  Value.holds_of_points ((parse_holds t text).of_ok (read_eq_ok.mp h))

theorem strict_admits_iff {n : Int} :
    Tolerance.strict.Admits n ↔ (toString n.natAbs).length ≤ 4300 := by
  have hlength : (toString n.natAbs).length = (Nat.toDigits 10 n.natAbs).length := by
    rw [← String.length_toList]
    exact congrArg List.length (String.toList_ofList)
  rw [hlength]
  simp [Tolerance.Admits, Tolerance.strict, Text.maxDigits]

theorem lt_length_decimal (h : 10 ^ k ≤ n) : 0 < n ∧ k < (Nat.toDigits 10 n).length := by
  have hvalue := digits_value_lt (fun c => is_digit_of_decimal (n := n) (c := c))
  rw [digits_value_decimal] at hvalue
  exact ⟨Nat.lt_of_lt_of_le (Nat.pow_pos (by decide)) h,
    (Nat.pow_lt_pow_iff_right (by decide)).mp (Nat.lt_of_le_of_lt h hvalue)⟩

/-- The least integer with more digits than a reader of tables takes. -/
theorem not_strict_admits : ¬Tolerance.strict.Admits (10 ^ 4300) := by
  have hlong := (lt_length_decimal (Nat.le_refl (10 ^ 4300))).2
  have habs : ∀ k, (10 ^ k : Int).natAbs = 10 ^ k := Int.natAbs_pow 10
  intro ha
  have hshort := ha Text.maxDigits rfl
  rw [habs] at hshort
  exact absurd hlong (Nat.not_lt.mpr hshort)

end Json

end Propositional
