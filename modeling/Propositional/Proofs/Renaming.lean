import Mathlib.Data.List.Nodup
import Mathlib.Logic.Equiv.Basic
import Propositional.Proofs.Alphabet
import Propositional.Proofs.Equivariance
import Propositional.Proofs.SoftFailure

namespace Propositional

abbrev Letter : Type := {c : Char // c ∈ letters}

section
variable (f : Equiv.Perm Letter)

/-- A permutation of the letters leaves other characters as they are. -/
def renameChar (c : Char) : Char := if h : c ∈ letters then f ⟨c, h⟩ else c

theorem rename_letter (h : c ∈ letters) : renameChar f c = f ⟨c, h⟩ := dif_pos h

theorem rename_other (h : c ∉ letters) : renameChar f c = c := dif_neg h

theorem rename_char_mem (h : c ∈ letters) : renameChar f c ∈ letters := by
  rw [rename_letter f h]
  exact (f ⟨c, h⟩).property

theorem rename_char_symm (c : Char) : renameChar f.symm (renameChar f c) = c := by
  by_cases h : c ∈ letters
  · rw [rename_letter f h, rename_letter f.symm (f ⟨c, h⟩).property, Subtype.coe_eta,
      Equiv.symm_apply_apply]
  · rw [rename_other f h, rename_other f.symm h]

theorem rename_char_injective : Function.Injective (renameChar f) :=
  Function.LeftInverse.injective (rename_char_symm f)

end

namespace Expression
variable (f : Equiv.Perm Letter)

/-- The text with its letters permuted. The names of variables are such texts. -/
def renamed (text : String) : String := String.ofList (text.toList.map (renameChar f))

theorem renamed_symm (text : String) : renamed f.symm (renamed f text) = text := by
  rw [renamed, renamed, String.toList_ofList, List.map_map]
  have hid : renameChar f.symm ∘ renameChar f = id := funext (rename_char_symm f)
  rw [hid, List.map_id, String.ofList_toList]

theorem renamed_injective : Function.Injective (renamed f) :=
  Function.LeftInverse.injective (renamed_symm f)

theorem renamed_singleton (c : Char) :
    renamed f (String.singleton c) = String.singleton (renameChar f c) := by
  rw [renamed, String.toList_singleton]
  rfl

theorem word_rename_char (c : Char) : isWordChar (renameChar f c) = isWordChar c := by
  by_cases h : c ∈ letters
  · rw [word_of_letter h, word_of_letter (rename_char_mem f h)]
  · rw [rename_other f h]

theorem of_char_rename (c : Char) :
    Token.ofChar? (renameChar f c) = (Token.ofChar? c).map (Token.rename (renamed f)) := by
  by_cases h : c ∈ letters
  · rw [Token.of_char_letter h, Token.of_char_letter (rename_char_mem f h), Option.map_some,
      Token.rename, renamed_singleton]
  · rw [rename_other f h, Token.ofChar?, if_neg h]
    split <;> rfl

theorem scan_renamed (text : String) :
    Token.scan (renamed f text) = (Token.scan text).map (Token.rename (renamed f)) := by
  rw [Token.scan, Token.scan, renamed, String.toList_ofList, List.filterMap_map,
    List.map_filterMap]
  exact List.filterMap_congr (fun c _ => of_char_rename f c)

theorem parse_renamed [Interpreter] (text : String) :
    parse (renamed f text) = (parse text).map (Formula.rename (renamed f)) := by
  rw [parse, parse, scan_renamed, Formula.of_tokens_rename]

/-- Assignments that agree up to the renaming give one truth value, or one failure. -/
theorem evaluate_renamed [Interpreter] (h : ∀ φ, parse text = .ok φ → ∀ name ∈ φ.toTree.leaves,
      a'.truth (renamed f name) = a.truth name) :
    evaluate (renamed f text) a' = evaluate text a := by
  cases hp : parse text with
  | error e =>
    rw [evaluate, evaluate, parse_renamed, hp]
    rfl
  | ok φ =>
    have hp' : parse (renamed f text) = .ok (φ.rename (renamed f)) := by
      rw [parse_renamed, hp]
      rfl
    rw [evaluate_parsed hp, evaluate_parsed hp', Formula.height_rename, Formula.holds_rename,
      Formula.holds_congr (h φ hp)]

theorem stands_alone_renamed (c : Char) (inWord : Bool) (cs : List Char) :
    standsAlone (renameChar f c) inWord (cs.map (renameChar f)) = standsAlone c inWord cs := by
  induction cs generalizing inWord with
  | nil => rfl
  | cons x cs ih =>
    have heq : (renameChar f x == renameChar f c) = (x == c) := by
      rw [Bool.eq_iff_iff, beq_iff_eq, beq_iff_eq]
      exact (rename_char_injective f).eq_iff
    have hhead : (cs.map (renameChar f)).head?.any isWordChar = cs.head?.any isWordChar := by
      cases cs with
      | nil => rfl
      | cons y cs => exact word_rename_char f y
    rw [List.map_cons, standsAlone, standsAlone, ih, heq, hhead, word_rename_char]

theorem renamed_mem_vars (h : name ∈ vars text) : renamed f name ∈ vars (renamed f text) := by
  obtain ⟨c, hc, hs, rfl⟩ := mem_vars.mp h
  refine mem_vars.mpr ⟨renameChar f c, rename_char_mem f hc, ?_, (renamed_singleton f c).symm⟩
  rw [renamed, String.toList_ofList, stands_alone_renamed, hs]

theorem renamed_mem_vars_iff : renamed f name ∈ vars (renamed f text) ↔ name ∈ vars text := by
  refine ⟨fun h => ?_, renamed_mem_vars f⟩
  have hback := renamed_mem_vars f.symm h
  rwa [renamed_symm, renamed_symm] at hback

/-- The variables of a renamed text are the renamed variables. -/
theorem mem_vars_renamed :
    name ∈ vars (renamed f text) ↔ name ∈ (vars text).map (renamed f) := by
  rw [List.mem_map]
  constructor
  · intro h
    have hback := renamed_mem_vars f.symm h
    rw [renamed_symm] at hback
    exact ⟨renamed f.symm name, hback, renamed_symm f.symm name⟩
  · rintro ⟨v, hv, rfl⟩
    exact renamed_mem_vars f hv

theorem vars_nodup (text : String) : (vars text).Nodup := by
  have hletters : (letters.map String.singleton).Nodup := by decide
  rw [vars_eq_filter]
  exact hletters.filter _

theorem length_vars_renamed (text : String) :
    (vars (renamed f text)).length = (vars text).length := by
  have hperm : (vars (renamed f text)).Perm ((vars text).map (renamed f)) :=
    (List.perm_ext_iff_of_nodup (vars_nodup _) ((vars_nodup text).map (renamed_injective f))).mpr
      (fun name => mem_vars_renamed f)
  rw [hperm.length_eq, List.length_map]

section
variable [Interpreter]

theorem digit_renamed (h : ∀ φ, parse text = .ok φ → ∀ name ∈ φ.toTree.leaves,
      a'.truth (renamed f name) = a.truth name) :
    digit (renamed f text) a' = digit text a := by
  unfold digit
  rw [evaluate_renamed f h]

/-- All that matters of an assignment is what it holds true. -/
theorem digit_congr (h : a.truth = a'.truth) : digit text a = digit text a' := by
  unfold digit evaluate
  rw [h]

theorem digit_eq_iff (text : String) (a : Assignment) (b : Bool) :
    digit text a = (if b then 1 else 0) ↔ decide (digit text a = 1) = b := by
  have hd := digit_zero_or_one text a
  cases b with
  | true => exact decide_eq_true_iff.symm
  | false =>
    rw [decide_eq_false_iff_not, if_neg Bool.false_ne_true]
    omega

end

end Expression

namespace TruthTable
open Expression (renamed)

/-- The result in the row of an assignment. -/
def resultAt (table : TruthTable) (a : Assignment) : Option Int :=
  (table.rows.find? (fun row =>
    row.dropLast = table.vars.map (fun name => Int.ofNat (a.truth name).toNat))).bind List.getLast?

theorem result_at_of_expression [Interpreter] (text : String) (a : Assignment) :
    (ofExpression text).resultAt a = some (Expression.digit text
      ((Expression.vars text).map (fun name => (name, .bool (a.truth name))))) := by
  rw [← Assignment.of_bits_digits]
  let digits := (Expression.vars text).map (fun name => (a.truth name).toNat)
  have hcells : (ofExpression text).vars.map (fun name => Int.ofNat (a.truth name).toNat) =
      digits.map Int.ofNat := by
    rw [List.map_map]
    rfl
  rw [resultAt, hcells]
  cases hfind : (ofExpression text).rows.find?
      (fun row => row.dropLast = digits.map Int.ofNat) with
  | none =>
    have hrow : digits.map Int.ofNat ++
        [Expression.digit text (.ofBits (Expression.vars text) digits)] ∈
          (ofExpression text).rows :=
      List.mem_map.mpr ⟨digits, digits_mem_inputs text a, rfl⟩
    refine absurd ?_ (List.find?_eq_none.mp hfind _ hrow)
    rw [List.dropLast_concat, decide_eq_true_iff]
  | some row =>
    obtain ⟨ds, _, rfl⟩ := row_of_mem (List.mem_of_find?_eq_some hfind)
    have hds := List.find?_some hfind
    rw [List.dropLast_concat, decide_eq_true_iff] at hds
    have heq : ds = digits := List.map_injective_iff.mpr (fun _ _ => Int.ofNat.inj) hds
    rw [Option.bind_some, List.getLast?_concat, heq]

/-- The verdict on a text sums up the results of all assignments. -/
theorem verdict_of_results [Interpreter] (text : String) :
    ∃ verdict, (ofExpression text).verdict = .ok verdict ∧ verdict.Sums
      (fun b => ∀ a, (ofExpression text).resultAt a = some (if b then 1 else 0)) := by
  obtain ⟨v, hv, hs⟩ := verdict_of_digits _
    (fun digits => (Expression.digit_eq_iff text (.ofBits _ digits) _).mpr rfl)
  refine ⟨v, hv, hs.congr (fun b => ?_)⟩
  simp only [← Expression.digit_eq_iff, result_at_of_expression, Option.some.injEq]
  constructor
  · intro h a
    have hrow := h _ (digits_mem_inputs text a)
    rwa [Assignment.of_bits_digits] at hrow
  · intro h digits _
    rw [← h (.ofBits (Expression.vars text) digits)]
    refine Expression.digit_congr (funext (fun name => ?_))
    rw [Assignment.truth_graph]
    by_cases hm : name ∈ Expression.vars text
    · simp [hm]
    · simp [hm, Assignment.truth_of_bits hm]

section
variable (f : Equiv.Perm Letter)

section
variable [Interpreter]

theorem result_at_renamed
    (h : ∀ name ∈ Expression.vars text, a'.truth (renamed f name) = a.truth name) :
    (ofExpression (renamed f text)).resultAt a' = (ofExpression text).resultAt a := by
  rw [result_at_of_expression, result_at_of_expression]
  refine congrArg some (Expression.digit_renamed f (fun φ _ name _ => ?_))
  rw [Assignment.truth_graph, Assignment.truth_graph]
  by_cases hm : name ∈ Expression.vars text
  · simp [hm, Expression.renamed_mem_vars f hm, h name hm]
  · simp [hm, Expression.renamed_mem_vars_iff]

theorem verdict_renamed (text : String) :
    ∃ verdict, (ofExpression text).verdict = .ok verdict ∧
      (ofExpression (renamed f text)).verdict = .ok verdict := by
  obtain ⟨v, hv, hs⟩ := verdict_of_results text
  obtain ⟨w, hw, hs'⟩ := verdict_of_results (renamed f text)
  have hsame : w.Sums
      (fun b => ∀ a, (ofExpression text).resultAt a = some (if b then 1 else 0)) := by
    refine hs'.congr (fun b => ⟨fun h a => ?_, fun h a' => ?_⟩)
    · rw [← h ((Expression.vars (renamed f text)).map
        (fun name => (name, .bool (a.truth (renamed f.symm name)))))]
      refine (result_at_renamed f (fun name hm => ?_)).symm
      rw [Assignment.truth_graph, Expression.renamed_symm]
      simp [Expression.renamed_mem_vars f hm]
    · rw [← h ((Expression.vars text).map
        (fun name => (name, .bool (a'.truth (renamed f name)))))]
      refine result_at_renamed f (fun name hm => ?_)
      rw [Assignment.truth_graph]
      simp [hm]
  refine ⟨v, hv, ?_⟩
  rw [hw, hsame.unique hs]

theorem length_warnings (text : String) : (warnings text).length =
    match Expression.evaluate text [] with
    | .ok _ => 0
    | .error _ => 2 ^ (Expression.vars text).length := by
  rcases Expression.valued_or_fails text with hv | ⟨e, hf⟩
  · obtain ⟨b, hb⟩ := hv []
    rw [warnings_of_valued hv, hb.evaluate_eq]
    rfl
  · rw [warnings_of_failing hf, (hf []).evaluate_eq, List.length_replicate]

theorem length_warnings_renamed (text : String) :
    (warnings (renamed f text)).length = (warnings text).length := by
  have heval : Expression.evaluate (renamed f text) [] = Expression.evaluate text [] :=
    Expression.evaluate_renamed f (fun _ _ _ _ => rfl)
  rw [length_warnings, length_warnings, heval, Expression.length_vars_renamed]

/-- The names of the variables do not matter. If the letters of any text, be it a formula or not,
are permuted, then the columns are those of the renamed variables in their own order; assignments
that give renamed variables the same values have the same results; and the verdict and the number
of warnings are the same. -/
theorem of_renamed (text : String) :
    (ofExpression (renamed f text)).vars = (letters.map String.singleton).filter
      (fun name => name ∈ (ofExpression text).vars.map (renamed f)) ∧
    (∀ a a' : Assignment,
      (∀ name ∈ (ofExpression text).vars, a'.truth (renamed f name) = a.truth name) →
      ∃ result, (ofExpression text).resultAt a = some result ∧
        (ofExpression (renamed f text)).resultAt a' = some result) ∧
    (∃ verdict, (ofExpression text).verdict = .ok verdict ∧
      (ofExpression (renamed f text)).verdict = .ok verdict) ∧
    (warnings (renamed f text)).length = (warnings text).length := by
  refine ⟨?_, ?_, verdict_renamed f text, length_warnings_renamed f text⟩
  · refine (Expression.vars_eq_filter (renamed f text)).trans ?_
    exact List.filter_congr (fun name _ => decide_eq_decide.mpr (Expression.mem_vars_renamed f))
  · intro a a' h
    exact ⟨_, result_at_of_expression text a,
      (result_at_renamed f h).trans (result_at_of_expression text a)⟩

end

end

theorem of_renamed_swapped :
    ∃ f : Equiv.Perm Letter, renamed f "p → q ∧ pa" = "q → p ∧ qa" ∧
      (∀ name ∈ (ofExpression "p → q ∧ pa").vars,
        Assignment.truth [("q", .bool true)] (renamed f name) =
          Assignment.truth [("p", .bool true)] name) ∧
      (ofExpression "q → p ∧ qa").vars = ["p", "q"] ∧
      (ofExpression "p → q ∧ pa").resultAt [("p", .bool true)] = some 0 ∧
      (ofExpression "q → p ∧ qa").resultAt [("q", .bool true)] = some 0 ∧
      (ofExpression "q → p ∧ qa").verdict = .ok .contingency := by
  let f : Equiv.Perm Letter := Equiv.swap ⟨'p', by decide⟩ ⟨'q', by decide⟩
  have hf : renamed f "p → q ∧ pa" = "q → p ∧ qa" := rfl
  have hvars : (ofExpression "p → q ∧ pa").vars = ["p", "q"] := rfl
  have htruth : ∀ name ∈ (ofExpression "p → q ∧ pa").vars,
      Assignment.truth [("q", .bool true)] (renamed f name) =
        Assignment.truth [("p", .bool true)] name := by
    rw [hvars]
    decide
  have hresult : (ofExpression "p → q ∧ pa").resultAt [("p", .bool true)] = some 0 := rfl
  have hcontingent : (ofExpression "p → q ∧ pa").verdict = .ok .contingency := rfl
  obtain ⟨hcolumns, hresults, ⟨v, hv, hv'⟩, _⟩ := of_renamed f "p → q ∧ pa"
  obtain ⟨result, hr, hr'⟩ := hresults _ _ htruth
  cases hresult.symm.trans hr
  cases hcontingent.symm.trans hv
  rw [hf] at hcolumns hr' hv'
  exact ⟨f, hf, htruth, hcolumns, hresult, hr', hv'⟩

end TruthTable

end Propositional
