import Propositional.Proofs.Alphabet
import Propositional.Proofs.Session
import Propositional.Shell.Command

namespace Propositional.Text

theorem trim_of_no_blank (h : ∀ c ∈ cs, isBlank c = false) : trim cs = cs := by
  have hdrop : ∀ cs : List Char, (∀ c ∈ cs, isBlank c = false) → cs.dropWhile isBlank = cs := by
    intro cs h
    cases cs with
    | nil => rfl
    | cons c rest => rw [List.dropWhile_cons_of_neg (by simp [h c List.mem_cons_self])]
  rw [trim, trimEnd, hdrop cs h, hdrop cs.reverse (fun c hm => h c (List.mem_reverse.mp hm)),
    List.reverse_reverse]

end Propositional.Text

namespace Propositional.Shell

theorem converse_stay [Interpreter] [Console.Library]
    (h : react mode buffer line = .ok (.stay next transcript)) :
    converse mode buffer (some line :: rest) =
      (converse mode next rest).map (⟨some (prompt buffer), transcript⟩ :: ·) := by
  rw [converse, h]
  simp only [bind, Except.bind]
  cases converse mode next rest <;> rfl

/-- From then on a session is told by its buffer alone. -/
theorem Reaches.converse_append [Interpreter] [Console.Library]
    (h : Reaches mode lines steps buffer) (rest : List (Option String)) :
    converse mode "" (lines.map some ++ rest) = (converse mode buffer rest).map (steps ++ ·) := by
  induction h generalizing rest with
  | start => cases h : converse mode "" rest <;> simp [h, Except.map]
  | enter h hr ih =>
    rw [List.map_append, List.append_assoc, ih]
    simp only [List.map_cons, List.map_nil, List.cons_append, List.nil_append]
    rw [converse_stay hr]
    cases converse mode _ rest <;> simp [Except.map]

theorem mem_of_symbol (h : symbol? key = some symbol) : (key, symbol) ∈ palette := by
  obtain ⟨before, after, he, _⟩ := List.lookup_eq_some_iff.mp h
  rw [he]
  exact List.mem_append_right _ List.mem_cons_self

/-- Palette commands are read as they are, and none of them is an exit word. -/
theorem react_key [Interpreter] [Console.Library] (h : symbol? key = some symbol) :
    react mode buffer key = .ok (.stay (buffer ++ symbol) ⟨"", []⟩) := by
  have hkeys : ∀ entry ∈ palette, stripLine entry.1 = entry.1 ∧ ¬IsExit entry.1 := by decide
  obtain ⟨hs, hx⟩ := hkeys _ (mem_of_symbol h)
  unfold react
  rw [request_symbol (by rwa [hs]) (by rwa [hs])]

theorem symbols_of_cons (h : symbol? key = some symbol) :
    symbolsOf (key :: keys) = symbol ++ symbolsOf keys := by
  rw [symbolsOf, List.filterMap_cons_some h, String.join_cons]
  rfl

/-- Commands go into the buffer one after the other, and nothing is shown. -/
theorem Reaches.type_keys [Interpreter] [Console.Library] (h : Reaches mode lines steps buffer)
    (hk : ∀ key ∈ keys, (symbol? key).isSome) : ∃ typing,
    typing.length = keys.length ∧ (∀ step ∈ typing, step.transcript = ⟨"", []⟩) ∧
    Reaches mode (lines ++ keys) (steps ++ typing) (buffer ++ symbolsOf keys) := by
  induction keys generalizing lines steps buffer with
  | nil => exact ⟨[], rfl, nofun, by simpa [symbolsOf] using h⟩
  | cons key keys ih =>
    obtain ⟨symbol, hs⟩ := Option.isSome_iff_exists.mp (hk key List.mem_cons_self)
    obtain ⟨typing, hl, hq, hr⟩ :=
      ih (h.enter (react_key hs)) (fun k hm => hk k (List.mem_cons_of_mem _ hm))
    refine ⟨⟨some (prompt buffer), ⟨"", []⟩⟩ :: typing, by simp [hl], ?_, ?_⟩
    · simpa using hq
    · rw [symbols_of_cons hs]
      simpa [String.append_assoc] using hr

/-- Expressions of symbols only. -/
structure Symbolic (text : String) : Prop where
  nonempty : text ≠ ""
  chars : ∀ c ∈ text.toList, c ∈ alphabet

theorem symbolic_of_symbol (h : symbol? key = some symbol) : Symbolic symbol := by
  have hpalette : ∀ entry ∈ palette, entry.2 ≠ "" ∧ entry.2.toList.all (· ∈ alphabet) := by
    decide
  obtain ⟨hne, hc⟩ := hpalette _ (mem_of_symbol h)
  exact ⟨hne, List.all_iff_forall_prop.mp hc⟩

theorem symbolic_of_keys (hk : ∀ key ∈ keys, (symbol? key).isSome) (hne : keys ≠ []) :
    Symbolic (symbolsOf keys) := by
  induction keys with
  | nil => exact absurd rfl hne
  | cons key keys ih =>
    obtain ⟨symbol, hs⟩ := Option.isSome_iff_exists.mp (hk key List.mem_cons_self)
    have hsymbol := symbolic_of_symbol hs
    rw [symbols_of_cons hs]
    refine ⟨fun he => hsymbol.nonempty (String.append_eq_empty_iff.mp he).1, ?_⟩
    intro c hc
    rw [String.toList_append] at hc
    rcases List.mem_append.mp hc with hc | hc
    · exact hsymbol.chars c hc
    · cases keys with
      | nil => cases hc
      | cons next keys =>
        exact (ih (fun k hm => hk k (List.mem_cons_of_mem _ hm)) nofun).chars c hc

namespace Symbolic
variable (h : Symbolic text)
include h

theorem strip : stripLine text = text := by
  have hblank : ∀ c ∈ alphabet, Text.isBlank c = false := List.all_iff_forall_prop.mp rfl
  rw [stripLine, Text.trim_of_no_blank (fun c hm => hblank c (h.chars c hm)),
    String.ofList_toList]

/-- A text with a character that is no symbol is another one. -/
theorem ne_of_foreign (hm : c ∈ other.toList) (hc : c ∉ alphabet) : text ≠ other := by
  rintro rfl
  exact hc (h.chars c hm)

theorem not_exit : ¬IsExit text := by
  rw [is_exit_iff]
  rintro ⟨word, hword, he⟩
  -- There is an `i` in each exit word, and no symbol becomes one.
  have hi : ∀ word ∈ exitWords, 'i' ∈ word.toList := by decide
  have hlower : ∀ c ∈ alphabet, c.toLower ≠ 'i' := List.all_iff_forall_prop.mp rfl
  have hm := hi word hword
  rw [he] at hm
  obtain ⟨c, hc, hci⟩ := List.mem_map.mp hm
  exact hlower c (h.chars c hc) hci

theorem not_command : ¬IsCommand text := by
  -- All other commands have a colon.
  have hcolon : ∀ entry ∈ palette, ':' ∈ entry.1.toList := by decide
  rintro (hx | hs | hc | hc)
  · exact h.not_exit hx
  · obtain ⟨symbol, hs⟩ := Option.isSome_iff_exists.mp hs
    exact h.ne_of_foreign (hcolon _ (mem_of_symbol hs)) (by decide) rfl
  · exact h.ne_of_foreign (c := ':') (by decide) (by decide) hc
  · exact h.ne_of_foreign (c := ':') (by decide) (by decide) hc

theorem react_typed [Interpreter] [Console.Library] :
    react mode buffer text = (answer mode text).map (.stay "") := by
  have hr : request buffer text = .evaluate text := by
    rw [request_evaluate_iff, h.strip, Round.handed, if_pos h.nonempty, if_neg h.not_command]
    exact ⟨h.not_exit, rfl⟩
  unfold react
  rw [hr]

theorem react_built [Interpreter] [Console.Library] :
    react mode text "" = (answer mode text).map (.stay "") := by
  have hr : request text "" = .evaluate text := by
    rw [request_evaluate_iff]
    refine ⟨by decide, ?_⟩
    rw [show stripLine "" = "" from rfl, Round.handed, if_neg (not_not_intro rfl),
      if_pos h.nonempty]
  unfold react
  rw [hr]

end Symbolic

/-- A line that is answered, and the session behind it. -/
theorem converse_answered [Interpreter] [Console.Library]
    (h : react mode buffer line = (answer mode text).map (.stay "")) :
    converse mode buffer (some line :: rest) = do
      let transcript ← answer mode text
      let later ← converse mode "" rest
      return ⟨some (prompt buffer), transcript⟩ :: later := by
  rw [converse, h]
  cases answer mode text <;> rfl

theorem Reaches.converse_answer [Interpreter] [Console.Library]
    (h : Reaches mode lines steps buffer)
    (hr : react mode buffer line = (answer mode text).map (.stay "")) :
    converse mode "" (lines.map some ++ some line :: rest) = do
      let transcript ← answer mode text
      let later ← converse mode "" rest
      return steps ++ ⟨some (prompt buffer), transcript⟩ :: later := by
  rw [h.converse_append, converse_answered hr]
  cases answer mode text with
  | error e => rfl
  | ok transcript => cases converse mode "" rest <;> rfl

/-- The outcome of a run for one expression. -/
def Report.answered (mode : Mode) (level : Nat) (files : Files) (expression : String)
    (transcript : Transcript) : Report :=
  .single (if (rejection? mode.limit expression).isSome then 1 else 0) level files transcript

theorem run_once_answers [Interpreter] [Console.Library] (ho : args.output = none) :
    runOnce inv args mode level expression =
      (answer mode expression).map (.answered mode level inv.files expression) := by
  unfold runOnce answer Report.answered
  rw [ho]
  cases rejection? mode.limit expression <;> rfl

end Propositional.Shell
