import Mathlib.Data.List.Basic
import Propositional.Proofs.Atoms
import Propositional.Proofs.Rendering
import Propositional.Shell.Presentation

namespace Propositional

/-- The texts of the letters among some tokens. -/
def letterTexts (ts : List Token) : List String :=
  ts.filterMap (fun token => if token.kind = .letter then some token.text else none)

theorem letter_texts_append (ts us : List Token) :
    letterTexts (ts ++ us) = letterTexts ts ++ letterTexts us :=
  List.filterMap_append

theorem letter_texts_operator (text : String) (ts : List Token) :
    letterTexts (⟨.operator, text⟩ :: ts) = letterTexts ts := rfl

theorem letter_texts_bare (ts : List Token) : letterTexts (bare ts) = letterTexts ts := by
  rw [bare, letterTexts, List.filterMap_filter]
  apply List.filterMap_congr
  rintro ⟨kind, text⟩ _
  cases kind <;> simp [Token.opening, Token.closing]

theorem Formula.leaves_eq (φ : Formula) : φ.toTree.leaves = letterTexts φ.tokens := by
  induction φ with
  | atom name => rfl
  | neg operand ih => exact ih
  | binary op left right ihl ihr =>
    have hleaves : (binary op left right).toTree.leaves =
        left.toTree.leaves ++ right.toTree.leaves := rfl
    rw [hleaves, ihl, ihr, tokens, Token.opening, Token.closing, Connective.token]
    simp only [letter_texts_append, letter_texts_operator]
    exact (List.append_nil _).symm

/-- The leaves of a formula are its letters, from left to right. -/
theorem Derives.leaves (h : Derives n level ts φ) : φ.toTree.leaves = letterTexts ts := by
  rw [φ.leaves_eq, ← letter_texts_bare, h.bare_tokens, letter_texts_bare]

namespace Expression

/-- Whether a text ends in a word, if it follows on one or not. -/
def endsInWord (inWord : Bool) (before : List Char) : Bool :=
  (before.getLast?.map isWordChar).getD inWord

theorem ends_in_word_cons (inWord : Bool) (c : Char) (before : List Char) :
    endsInWord inWord (c :: before) = endsInWord (isWordChar c) before := by
  rw [endsInWord, endsInWord, List.getLast?_cons, Option.map_some, Option.getD_some,
    Option.getD_map]

/-- A letter stands alone where no word character is next to it. -/
theorem stands_alone_iff {letter : Char} {inWord : Bool} {cs : List Char} :
    standsAlone letter inWord cs = true ↔
      ∃ before after, cs = before ++ letter :: after ∧ endsInWord inWord before = false ∧
        after.head?.any isWordChar = false := by
  induction cs generalizing inWord with
  | nil => simp [standsAlone]
  | cons c rest ih =>
    rw [standsAlone, Bool.or_eq_true, ih]
    constructor
    · rintro (h | ⟨before, after, rfl, hb, ha⟩)
      · simp only [Bool.and_eq_true, Bool.not_eq_true', beq_iff_eq] at h
        obtain ⟨⟨rfl, hw⟩, ha⟩ := h
        exact ⟨[], rest, rfl, hw, ha⟩
      · exact ⟨c :: before, after, rfl, by rwa [ends_in_word_cons], ha⟩
    · rintro ⟨before, after, he, hb, ha⟩
      cases before with
      | nil =>
        obtain ⟨rfl, rfl⟩ := List.cons.inj he
        have hw : inWord = false := hb
        exact .inl (by simp [hw, ha])
      | cons c' before =>
        obtain ⟨rfl, rfl⟩ := List.cons.inj he
        exact .inr ⟨before, after, rfl, by rwa [ends_in_word_cons] at hb, ha⟩

end Expression

namespace Token

theorem mem_letter_texts_scan {text : String} : name ∈ letterTexts (scan text) ↔
    ∃ c ∈ letters, c ∈ text.toList ∧ String.singleton c = name := by
  constructor
  · intro h
    obtain ⟨token, hm, ht⟩ := List.mem_filterMap.mp h
    obtain ⟨c, hc, hct⟩ := List.mem_filterMap.mp hm
    split at ht
    · rename_i hk
      obtain ⟨hl, htext⟩ := of_char_letter_inv hct hk
      exact ⟨c, hl, hc, htext.symm.trans (Option.some.inj ht)⟩
    · cases ht
  · rintro ⟨c, hl, hc, rfl⟩
    refine List.mem_filterMap.mpr ⟨⟨.letter, String.singleton c⟩, ?_, rfl⟩
    exact List.mem_filterMap.mpr ⟨c, hc, of_char_letter hl⟩

end Token

namespace Expression

/-- The atoms of a text that parses are the letters in it. -/
theorem mem_atoms_of_parse [Interpreter] (h : parse text = .ok φ) : name ∈ φ.atoms ↔
    ∃ c ∈ letters, c ∈ text.toList ∧ String.singleton c = name := by
  rw [Formula.atoms, Tree.mem_atoms, (Formula.derives_of_tokens h).leaves]
  exact Token.mem_letter_texts_scan

theorem mem_vars : name ∈ vars text ↔
    ∃ c ∈ letters, standsAlone c false text.toList = true ∧ String.singleton c = name := by
  simp only [vars, List.mem_map, List.mem_filter, and_assoc]

/-- No two letters stand next to each other in a text that parses. -/
theorem letters_apart [Interpreter] (h : parse text = .ok φ) (ht : text.toList = xs ++ a :: b :: ys)
    (ha : a ∈ letters) : b ∉ letters := by
  intro hb
  have hscan : Token.scan text = xs.filterMap Token.ofChar? ++ ⟨.letter, String.singleton a⟩ ::
      ⟨.letter, String.singleton b⟩ :: ys.filterMap Token.ofChar? := by
    rw [Token.scan, ht, List.filterMap_append, List.filterMap_cons_some (Token.of_char_letter ha),
      List.filterMap_cons_some (Token.of_char_letter hb)]
  have hwalk := Formula.walk_of_tokens h
  rw [hscan] at hwalk
  obtain ⟨s, hs⟩ := Scan.walk_left hwalk
  rw [Scan.walk_through hs] at hwalk
  cases s with
  | operand d =>
    rw [Scan.walk_step (Scan.step_letter d _)] at hwalk
    obtain ⟨_, hnext⟩ := Scan.walk_first hwalk
    cases hnext
  | operator d =>
    obtain ⟨_, hnext⟩ := Scan.walk_first hwalk
    cases hnext

/-- Where no word character but a letter is next to it, a letter of a text that parses stands
alone. -/
theorem stands_alone_of_parse [Interpreter] (h : parse text = .ok φ) (hc : c ∈ letters)
    (ht : text.toList = before ++ c :: after)
    (hb : ∀ a ∈ before.getLast?, isWordChar a = true → a ∈ letters)
    (ha : ∀ b ∈ after.head?, isWordChar b = true → b ∈ letters) :
    standsAlone c false text.toList = true := by
  refine stands_alone_iff.mpr ⟨before, after, ht, ?_, ?_⟩
  · rcases List.eq_nil_or_concat before with rfl | ⟨xs, a, rfl⟩
    · rfl
    · have ht' : text.toList = xs ++ a :: c :: after := by simp [ht]
      have he : endsInWord false (xs.concat a) = isWordChar a := by simp [endsInWord]
      rw [he, Bool.eq_false_iff]
      exact fun hw => letters_apart h ht' (hb a (by simp) hw) hc
  · cases after with
    | nil => rfl
    | cons b ys =>
      rw [List.head?_cons, Option.any_some, Bool.eq_false_iff]
      exact fun hw => letters_apart h ht hc (ha b (by simp) hw)

theorem mem_of_stands_alone (h : standsAlone letter inWord cs = true) : letter ∈ cs := by
  obtain ⟨before, after, rfl, _⟩ := stands_alone_iff.mp h
  simp

theorem atom_of_vars [Interpreter] (h : parse text = .ok φ) (hm : name ∈ vars text) :
    name ∈ φ.atoms := by
  obtain ⟨c, hl, hs, hn⟩ := mem_vars.mp hm
  exact (mem_atoms_of_parse h).mpr ⟨c, hl, mem_of_stands_alone hs, hn⟩

theorem vars_of_atom [Interpreter] (h : parse text = .ok φ)
    (hword : ∀ c ∈ text.toList, isWordChar c = true → c ∈ letters) (hm : name ∈ φ.atoms) :
    name ∈ vars text := by
  obtain ⟨c, hl, hc, hn⟩ := (mem_atoms_of_parse h).mp hm
  obtain ⟨before, after, ht⟩ := List.append_of_mem hc
  refine mem_vars.mpr ⟨c, hl, stands_alone_of_parse h hl ht ?_ ?_, hn⟩
  · exact fun a ha => hword a (by simp [ht, List.mem_of_getLast? ha])
  · exact fun b hb => hword b (by simp [ht, List.mem_of_head? hb])

/-- The variables of a text stand in canonical order. -/
theorem vars_eq_filter (text : String) :
    vars text = (letters.map String.singleton).filter (· ∈ vars text) := by
  have hiff : ∀ c ∈ letters, String.singleton c ∈ vars text ↔
      standsAlone c false text.toList = true := by
    intro c hc
    rw [mem_vars]
    constructor
    · rintro ⟨c', _, hs, he⟩
      exact String.singleton_inj.mp he ▸ hs
    · exact fun hs => ⟨c, hc, hs, rfl⟩
  rw [List.filter_map]
  refine congrArg (List.map String.singleton) (List.filter_congr (fun c hc => ?_))
  rw [Bool.eq_iff_iff, Function.comp_apply, decide_eq_true_iff, hiff c hc]

end Expression

/-- Names that are all among others are the same as these unless one of the others is missing. -/
theorem Shell.same_elements_iff (h : ∀ name ∈ ys, name ∈ xs) :
    sameElements xs ys = true ↔ ∀ name ∈ xs, name ∈ ys := by
  simp only [sameElements, Bool.and_eq_true, List.all_eq_true, List.contains_iff_mem]
  exact ⟨fun hs => hs.1, fun hs => ⟨hs, h⟩⟩

/-- The columns of the table of a formula are among its atoms, and they are all of them, in
canonical order, if only letters make words. When the formula is shown, a warning says that they
differ exactly if an atom has no column. -/
theorem Expression.vars_agree [Interpreter] (h : parse text = .ok φ) :
    (∀ name ∈ vars text, name ∈ φ.atoms) ∧
    ((∀ c ∈ text.toList, isWordChar c = true → c ∈ letters) →
      (∀ name, name ∈ vars text ↔ name ∈ φ.atoms) ∧
      vars text = (letters.map String.singleton).filter (· ∈ φ.atoms)) ∧
    ∀ shown, φ.render? = some shown →
      ((∃ name ∈ φ.atoms, name ∉ (TruthTable.ofExpression text).vars) →
        Shell.treeNotices text = ["🌳 Árbol: " ++ shown,
          s!"⚠️ Variables en el árbol {Shell.shownNames φ.atoms} ≠ variables de la tabla " ++
            Shell.shownNames (TruthTable.ofExpression text).vars]) ∧
      ((∀ name ∈ φ.atoms, name ∈ (TruthTable.ofExpression text).vars) →
        Shell.treeNotices text = ["🌳 Árbol: " ++ shown]) := by
  refine ⟨fun name => atom_of_vars h, ?_, ?_⟩
  · intro hword
    have hiff : ∀ name, name ∈ vars text ↔ name ∈ φ.atoms :=
      fun name => ⟨atom_of_vars h, vars_of_atom h hword⟩
    refine ⟨hiff, (vars_eq_filter text).trans ?_⟩
    simp only [hiff]
  · intro shown hshown
    have hsame : Shell.sameElements φ.atoms (vars text) = true ↔
        ∀ name ∈ φ.atoms, name ∈ vars text :=
      Shell.same_elements_iff (fun name => atom_of_vars h)
    unfold Shell.treeNotices
    rw [h]
    dsimp only
    rw [hshown]
    refine ⟨?_, ?_⟩
    · rintro ⟨name, hm, hn⟩
      have hdiffer : ¬Shell.sameElements φ.atoms (vars text) = true :=
        fun hs => hn (hsame.mp hs name hm)
      dsimp only
      rw [if_neg hdiffer]
      rfl
    · intro hall
      dsimp only
      rw [if_pos (hsame.mpr hall)]

set_option maxRecDepth 2000 in
theorem Expression.vars_agree_hidden_letter :
    (parse "¬t → (p ↔ p)" = .ok (.binary .implies (.neg (.atom "t"))
        (.binary .iff (.atom "p") (.atom "p"))) ∧
      vars "¬t → (p ↔ p)" = ["p", "t"] ∧
      Shell.treeNotices "¬t → (p ↔ p)" = ["🌳 Árbol: (¬t → (p ↔ p))"]) ∧
    parse "pa ∧ q" = .ok (.binary .and (.atom "p") (.atom "q")) ∧
    Shell.treeNotices "pa ∧ q" = ["🌳 Árbol: (p ∧ q)",
      "⚠️ Variables en el árbol ['p', 'q'] ≠ variables de la tabla ['q']"] := by
  have hp : parse "¬t → (p ↔ p)" = .ok (.binary .implies (.neg (.atom "t"))
      (.binary .iff (.atom "p") (.atom "p"))) := rfl
  have hq : parse "pa ∧ q" = .ok (.binary .and (.atom "p") (.atom "q")) := rfl
  have hpa : (Formula.binary .implies (.neg (.atom "t"))
      (.binary .iff (.atom "p") (.atom "p"))).atoms = ["t", "p"] := by cbv
  have hqa : (Formula.binary .and (.atom "p") (.atom "q")).atoms = ["p", "q"] := by cbv
  have hqv : (TruthTable.ofExpression "pa ∧ q").vars = ["q"] := rfl
  obtain ⟨_, hvars, hshown⟩ := vars_agree hp
  obtain ⟨_, _, hwarned⟩ := vars_agree hq
  rw [hpa] at hvars hshown
  rw [hqa] at hwarned
  exact ⟨⟨hp, (hvars (by simp [isWordChar, letters])).2, (hshown _ rfl).2 (by decide)⟩, hq,
    (hwarned "(p ∧ q)" rfl).1 ⟨"p", by decide, by rw [hqv]; decide⟩⟩

end Propositional
