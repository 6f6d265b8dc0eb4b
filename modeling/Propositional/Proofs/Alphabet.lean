import Mathlib.Data.Bool.AllAny
import Mathlib.Data.List.Basic
import Propositional.Proofs.Columns
import Propositional.Proofs.Enumeration

namespace Propositional

/-- The characters that make tokens. -/
def alphabet : List Char := letters ++ operators

theorem Token.of_char_foreign (h : c ∉ alphabet) : ofChar? c = none := by
  have hl : c ∉ letters := fun hm => h (List.mem_append_left _ hm)
  have ho : c ∉ operators := fun hm => h (List.mem_append_right _ hm)
  rw [ofChar?, if_neg hl, if_neg ho]

namespace Expression

/-- A text without its foreign characters. -/
def stripped (text : String) : String := String.ofList (text.toList.filter (· ∈ alphabet))

/-- At some place in the text the character is a word. -/
def IsWord (text : String) (c : Char) : Prop :=
  ∃ before after, text.toList = before ++ c :: after ∧
    before.getLast?.any isWordChar = false ∧ after.head?.any isWordChar = false

theorem is_word_iff : IsWord text c ↔ standsAlone c false text.toList = true := by
  have hends : ∀ before, endsInWord false before = before.getLast?.any isWordChar := by
    intro before
    unfold endsInWord
    cases before.getLast? <;> rfl
  simp only [IsWord, stands_alone_iff, hends]

theorem mem_stripped : c ∈ (stripped text).toList ↔ c ∈ text.toList ∧ c ∈ alphabet := by
  simp [stripped]

theorem scan_stripped (text : String) : Token.scan (stripped text) = Token.scan text := by
  rw [Token.scan, stripped, String.toList_ofList, List.filterMap_filter]
  apply List.filterMap_congr
  intro c _
  by_cases hc : c ∈ alphabet
  · simp [hc]
  · simp [hc, Token.of_char_foreign hc]

theorem parse_stripped [Interpreter] (text : String) : parse (stripped text) = parse text := by
  rw [parse, scan_stripped, parse]

theorem word_of_letter (h : c ∈ letters) : isWordChar c = true := by
  have hall : ∀ c ∈ letters, isWordChar c = true := List.all_iff_forall_prop.mp rfl
  exact hall c h

/-- Of the characters that make tokens the letters alone make words. -/
theorem letter_of_word (h : c ∈ alphabet) (hw : isWordChar c = true) : c ∈ letters := by
  rcases List.mem_append.mp h with hl | ho
  · exact hl
  · have hno : ∀ c ∈ operators, isWordChar c = false := List.all_iff_forall_prop.mp rfl
    rw [hno c ho] at hw
    cases hw

section
variable [Interpreter]

/-- Without foreign characters each atom has a column. -/
theorem mem_vars_stripped (h : parse text = .ok φ) :
    name ∈ vars (stripped text) ↔ name ∈ φ.atoms := by
  have hp : parse (stripped text) = .ok φ := by rw [parse_stripped, h]
  exact ⟨atom_of_vars hp, vars_of_atom hp (fun c hc => letter_of_word (mem_stripped.mp hc).2)⟩

theorem vars_sublist_stripped (h : parse text = .ok φ) :
    (vars text).Sublist (vars (stripped text)) := by
  rw [vars_eq_filter text, vars_eq_filter (stripped text)]
  apply List.monotone_filter_right
  intro name hm
  rw [decide_eq_true_iff] at hm ⊢
  exact (mem_vars_stripped h).mpr (atom_of_vars h hm)

theorem vars_stripped_iff (h : parse text = .ok φ) :
    vars (stripped text) = vars text ↔ ∀ c ∈ letters, c ∈ text.toList → IsWord text c := by
  constructor
  · intro he c hl hc
    have hatom : String.singleton c ∈ φ.atoms := (mem_atoms_of_parse h).mpr ⟨c, hl, hc, rfl⟩
    rw [← mem_vars_stripped h, he] at hatom
    obtain ⟨c', _, hs, hn⟩ := mem_vars.mp hatom
    rw [is_word_iff, ← String.singleton_inj.mp hn]
    exact hs
  · intro hword
    rw [vars_eq_filter text, vars_eq_filter (stripped text)]
    apply List.filter_congr
    intro name _
    rw [decide_eq_decide, mem_vars_stripped h]
    refine ⟨?_, atom_of_vars h⟩
    intro hm
    obtain ⟨c, hl, hc, hn⟩ := (mem_atoms_of_parse h).mp hm
    exact mem_vars.mpr ⟨c, hl, is_word_iff.mp (hword c hl hc), hn⟩

end

/-- Next to no occurrence of a letter there is a foreign character that makes words. -/
def Unglued (text : String) : Prop :=
  ∀ c ∈ letters, ∀ before after, text.toList = before ++ c :: after →
    (∀ a ∈ before.getLast?, isWordChar a = true → a ∈ alphabet) ∧
    ∀ b ∈ after.head?, isWordChar b = true → b ∈ alphabet

theorem Unglued.is_word [Interpreter] (hu : Unglued text) (h : parse text = .ok φ)
    (hl : c ∈ letters) (hc : c ∈ text.toList) : IsWord text c := by
  obtain ⟨before, after, ht⟩ := List.append_of_mem hc
  obtain ⟨hb, ha⟩ := hu c hl before after ht
  exact is_word_iff.mpr (stands_alone_of_parse h hl ht
    (fun a hm hw => letter_of_word (hb a hm hw) hw)
    (fun b hm hw => letter_of_word (ha b hm hw) hw))

end Expression

namespace TruthTable
open Expression (stripped IsWord Unglued)

section
variable [Interpreter]

theorem of_expression_stripped (he : Expression.vars (stripped text) = Expression.vars text) :
    ofExpression (stripped text) = ofExpression text :=
  of_expression_congr he (Expression.parse_stripped text)

theorem rows_stripped_iff (h : Expression.parse text = .ok φ) :
    (ofExpression (stripped text)).rows = (ofExpression text).rows ↔
      Expression.vars (stripped text) = Expression.vars text := by
  constructor
  · intro he
    have hlen := congrArg List.length he
    simp only [ofExpression, List.length_map, length_inputs] at hlen
    have hn := Nat.pow_right_injective (Nat.le_refl 2) hlen
    exact ((Expression.vars_sublist_stripped h).eq_of_length hn.symm).symm
  · intro he
    rw [of_expression_stripped he]

/-- Foreign characters do not matter to the table of a formula exactly if each of its letters is a
word somewhere, as it is when no foreign word character is next to it. A letter that is glued to
such characters wherever it occurs has a column only without them. -/
theorem of_stripped_iff (h : Expression.parse text = .ok φ) :
    ((ofExpression (stripped text)).vars = (ofExpression text).vars ↔
      ∀ c ∈ letters, c ∈ text.toList → IsWord text c) ∧
    ((ofExpression (stripped text)).rows = (ofExpression text).rows ↔
      ∀ c ∈ letters, c ∈ text.toList → IsWord text c) ∧
    ((∀ c ∈ letters, c ∈ text.toList → IsWord text c) →
      (ofExpression (stripped text)).verdict = (ofExpression text).verdict) ∧
    (Unglued text → ofExpression (stripped text) = ofExpression text) := by
  have hvars := Expression.vars_stripped_iff h
  have hrows := (rows_stripped_iff h).trans hvars
  have htable : (∀ c ∈ letters, c ∈ text.toList → IsWord text c) →
      ofExpression (stripped text) = ofExpression text :=
    fun hword => of_expression_stripped (hvars.mpr hword)
  refine ⟨hvars, hrows, ?_, ?_⟩
  · intro hword
    rw [htable hword]
  · exact fun hu => htable (fun c => hu.is_word h)

end

theorem of_stripped_iff_accented :
    (Expression.parse "pa ∧ (q → ñp)" = .ok (.binary .and (.atom "p")
        (.binary .implies (.atom "q") (.atom "p"))) ∧
      stripped "pa ∧ (q → ñp)" = "p∧(q→p)" ∧
      (ofExpression "p∧(q→p)").vars = (ofExpression "pa ∧ (q → ñp)").vars ∧
      (ofExpression "p∧(q→p)").rows = (ofExpression "pa ∧ (q → ñp)").rows ∧
      (ofExpression "p∧(q→p)").verdict = (ofExpression "pa ∧ (q → ñp)").verdict) ∧
    Expression.parse "p @ ∧ q" = .ok (.binary .and (.atom "p") (.atom "q")) ∧
    Unglued "p @ ∧ q" ∧ ofExpression "p∧q" = ofExpression "p @ ∧ q" := by
  have hp : Expression.parse "pa ∧ (q → ñp)" = .ok (.binary .and (.atom "p")
      (.binary .implies (.atom "q") (.atom "p"))) := rfl
  have hs : stripped "pa ∧ (q → ñp)" = "p∧(q→p)" := rfl
  have halone : ∀ c ∈ letters, c ∈ "pa ∧ (q → ñp)".toList →
      Expression.standsAlone c false "pa ∧ (q → ñp)".toList = true :=
    List.all_iff_forall_prop.mp rfl
  have hword : ∀ c ∈ letters, c ∈ "pa ∧ (q → ñp)".toList → IsWord "pa ∧ (q → ñp)" c :=
    fun c hl hc => Expression.is_word_iff.mpr (halone c hl hc)
  have hq : Expression.parse "p @ ∧ q" = .ok (.binary .and (.atom "p") (.atom "q")) := rfl
  have hall : ∀ c ∈ "p @ ∧ q".toList, Expression.isWordChar c = true → c ∈ alphabet :=
    List.all_iff_forall_prop.mp rfl
  have hu : Unglued "p @ ∧ q" := by
    intro c _ before after ht
    rw [ht] at hall
    refine ⟨fun a ha => hall a ?_, fun b hb => hall b ?_⟩
    · exact List.mem_append_left _ (List.mem_of_getLast? ha)
    · exact List.mem_append_right _ (List.mem_cons_of_mem _ (List.mem_of_head? hb))
  obtain ⟨hvars, hrows, hverdict, _⟩ := of_stripped_iff hp
  rw [hs] at hvars hrows hverdict
  exact ⟨⟨hp, hs, hvars.mpr hword, hrows.mpr hword, hverdict hword⟩, hq, hu,
    (of_stripped_iff hq).2.2.2 hu⟩

/-- A foreign letter next to the only occurrence of a letter takes its column away. -/
theorem of_stripped_glued :
    Expression.parse "pa ∧ q" = .ok (.binary .and (.atom "p") (.atom "q")) ∧
    stripped "pa ∧ q" = "p∧q" ∧
    ¬(ofExpression "p∧q").vars = (ofExpression "pa ∧ q").vars ∧
    ¬(ofExpression "p∧q").rows = (ofExpression "pa ∧ q").rows ∧
    ¬(ofExpression "p∧q").verdict = (ofExpression "pa ∧ q").verdict := by
  have hglued : ofExpression "pa ∧ q" = ⟨["q"], [[0, 0], [1, 0]]⟩ := rfl
  have hstripped : ofExpression "p∧q" =
      ⟨["p", "q"], [[0, 0, 0], [0, 1, 0], [1, 0, 0], [1, 1, 1]]⟩ := rfl
  rw [hglued, hstripped]
  refine ⟨rfl, rfl, by decide, by decide, ?_⟩
  intro hv
  have hcontradiction : verdict ⟨["q"], [[0, 0], [1, 0]]⟩ = .ok .contradiction := rfl
  have hcontingency : verdict ⟨["p", "q"], [[0, 0, 0], [0, 1, 0], [1, 0, 0], [1, 1, 1]]⟩ =
      .ok .contingency := rfl
  cases hcontingency.symm.trans (hv.trans hcontradiction)

end TruthTable

end Propositional
