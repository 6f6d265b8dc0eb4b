import Propositional.Expression
import Propositional.Proofs.Recognition

namespace Propositional

/-- Every atom is named by a letter of the language. -/
def Formula.Lettered : Formula → Prop
  | .atom name => ∃ c ∈ letters, name = String.singleton c
  | .neg operand => operand.Lettered
  | .binary _ left right => left.Lettered ∧ right.Lettered

/-- The text of a letter token is a letter of the language. -/
def Token.Lettered (token : Token) : Prop :=
  token.kind = .letter → ∃ c ∈ letters, token.text = String.singleton c

theorem Token.of_char_letter (h : c ∈ letters) :
    ofChar? c = some ⟨.letter, String.singleton c⟩ :=
  if_pos h

theorem Token.of_char_letter_inv (h : ofChar? c = some token) (hk : token.kind = .letter) :
    c ∈ letters ∧ token.text = String.singleton c := by
  unfold ofChar? at h
  split at h
  · rename_i hl
    cases h
    exact ⟨hl, rfl⟩
  · split at h
    · cases h
      cases hk
    · cases h

theorem Token.scan_lettered {s : String} (hm : token ∈ scan s) : token.Lettered := by
  obtain ⟨c, _, hc⟩ := List.mem_filterMap.mp hm
  exact fun hk => ⟨c, of_char_letter_inv hc hk⟩

theorem Formula.Lettered.join_left (h : left.Lettered)
    (hrow : ∀ p ∈ row, p.2.Lettered) : (joinLeft op left row).Lettered := by
  induction row generalizing left with
  | nil => exact h
  | cons p row ih =>
    rw [join_left_cons]
    exact ih ⟨h, hrow p List.mem_cons_self⟩ (fun q hq => hrow q (List.mem_cons_of_mem _ hq))

theorem mem_join_tokens (hp : p ∈ row) (ht : token ∈ p.1) : token ∈ joinTokens op row :=
  List.mem_flatMap.mpr ⟨p, hp, List.mem_cons_of_mem _ ht⟩

/-- The letters of a formula are those of its tokens. -/
theorem Derives.lettered (h : Derives n level ts φ) (ht : ∀ token ∈ ts, token.Lettered) :
    φ.Lettered := by
  induction h with
  | joined _ _ _ ihf ihr =>
    refine .join_left (ihf (fun t hm => ht t (List.mem_append_left _ hm))) ?_
    intro p hp
    exact ihr p hp (fun t hm => ht t (List.mem_append_right _ (mem_join_tokens hp hm)))
  | disjunction _ ih => exact ih ht
  | implication _ _ ihl ihr =>
    exact ⟨ihl (fun t hm => ht t (List.mem_append_left _ hm)),
      ihr (fun t hm => ht t (List.mem_append_right _ (List.mem_cons_of_mem _ hm)))⟩
  | negation _ ih => exact ih (fun t hm => ht t (List.mem_cons_of_mem _ hm))
  | primary _ ih => exact ih ht
  | letter name => exact ht _ List.mem_cons_self rfl
  | parenthesized _ ih =>
    exact ih (fun t hm => ht t (List.mem_cons_of_mem _ (List.mem_append_left _ hm)))

theorem Expression.lettered_of_parse [Interpreter] (h : parse text = .ok φ) : φ.Lettered :=
  (Formula.derives_of_tokens h).lettered (fun _ => Token.scan_lettered)

end Propositional
