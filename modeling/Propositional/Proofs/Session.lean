import Mathlib.Data.List.Induction
import Propositional.Shell.Session

namespace Propositional.Shell

/-- A line as a session reads it. -/
def stripLine (line : String) : String := String.ofList (Text.trim line.toList)

/-- Exit words, in capitals or not. -/
def IsExit (line : String) : Prop := line.toLower ∈ exitWords

/-- The symbol of a palette line. -/
def symbol? (line : String) : Option String := palette.lookup line

/-- Lines that are not taken for expressions. -/
def IsCommand (line : String) : Prop :=
  IsExit line ∨ (symbol? line).isSome ∨ line = clearCommand ∨ line = symbolsCommand

/-- The symbols of the palette lines among some lines. -/
def symbolsOf (lines : List String) : String := String.join (lines.filterMap symbol?)

/-- Lines that leave the buffer empty, whatever becomes of an expression. -/
def Resets (buffer line : String) : Prop :=
  line = clearCommand ∨ (line ≠ "" ∧ ¬IsCommand line) ∨ (line = "" ∧ buffer ≠ "")

theorem is_exit_iff :
    IsExit line ↔ ∃ word ∈ exitWords, word.toList = line.toList.map Char.toLower := by
  have hlower : line.toLower.toList = line.toList.map Char.toLower := String.toList_map
  simp only [IsExit, ← hlower, String.toList_inj]
  constructor
  · exact fun h => ⟨_, h, rfl⟩
  · rintro ⟨word, hm, rfl⟩
    exact hm

instance (line : String) : Decidable (IsExit line) := decidable_of_iff _ is_exit_iff.symm

instance (line : String) : Decidable (IsCommand line) :=
  inferInstanceAs (Decidable (IsExit line ∨ (symbol? line).isSome ∨ line = clearCommand ∨
    line = symbolsCommand))

instance (buffer line : String) : Decidable (Resets buffer line) :=
  inferInstanceAs (Decidable (line = clearCommand ∨ (line ≠ "" ∧ ¬IsCommand line) ∨
    (line = "" ∧ buffer ≠ "")))

/-- The lines entered since the last reset, which may be the start. -/
def sinceReset (history : List String) : List String :=
  history.foldl (fun since line => if Resets (symbolsOf since) line then [] else since ++ [line])
    []

/-- The buffer that some lines leave behind. -/
def buffered (history : List String) : String := symbolsOf (sinceReset history)

/-- The lines of a session before the one that ends it, stripped. -/
def entered : List (Option String) → List String
  | [] | none :: _ => []
  | some line :: rest =>
    if IsExit (stripLine line) then [] else stripLine line :: entered rest

/-- The buffer at a prompt and the line that is entered there. -/
structure Round where
  buffer : String
  line : String

/-- The rounds of a session that lines were entered in before. -/
def rounds (history lines : List String) : List Round :=
  lines.mapIdx (fun i line => ⟨buffered (history ++ lines.take i), line⟩)

namespace Round

/-- The expression to be looked at: a line that is no command, or for an empty line the buffer. -/
def handed (r : Round) : Option String :=
  if r.line ≠ "" then
    if IsCommand r.line then none else some r.line
  else if r.buffer ≠ "" then some r.buffer
  else none

section
variable [Interpreter] [Console.Library]

/-- What is shown in a round. Expressions that pass the check are presented, and no others. -/
def shown (mode : Mode) (r : Round) : Except RunError Transcript :=
  match r.handed with
  | some expression =>
    match rejection? mode.limit expression with
    | some rejection => .ok ⟨Console.print mode.width rejection.message, []⟩
    | none => present mode expression
  | none => .ok ⟨if r.line = symbolsCommand then symbolLines mode.width else "", []⟩

def step (mode : Mode) (r : Round) : Except RunError Step :=
  (r.shown mode).map (⟨some (prompt r.buffer), ·⟩)

theorem shown_handed {r : Round} (h : r.handed = some expression) :
    r.shown mode = answer mode expression := by
  unfold shown
  rw [h]
  rfl

theorem shown_silent {r : Round} (h : r.handed = none) : r.shown mode =
    .ok ⟨if r.line = symbolsCommand then symbolLines mode.width else "", []⟩ := by
  unfold shown
  rw [h]

end

end Round

/-- The buffer after a line. -/
def bufferAfter (buffer line : String) : String :=
  if Resets buffer line then "" else buffer ++ (symbol? line).getD ""

theorem since_reset_append : sinceReset (history ++ [line]) =
    if Resets (buffered history) line then [] else sinceReset history ++ [line] :=
  List.foldl_append

theorem buffered_append : buffered (history ++ [line]) = bufferAfter (buffered history) line := by
  unfold bufferAfter
  rw [buffered, since_reset_append]
  split
  · rfl
  · rw [symbolsOf, List.filterMap_append, String.join_append]
    cases hs : symbol? line with
    | none => simp [hs, buffered, symbolsOf]
    | some s => simp [hs, buffered, symbolsOf, String.join_cons]

theorem symbol_blank : symbol? "" = none := rfl

theorem symbol_symbols : symbol? symbolsCommand = none := rfl

theorem ne_blank_of_symbol (h : symbol? line = some symbol) : line ≠ "" := by
  rintro rfl
  cases h

theorem command_of_symbol (h : symbol? line = some symbol) : IsCommand line := by
  refine .inr (.inl ?_)
  rw [h]
  rfl

/-- The buffer that a request leaves behind. -/
def Request.bufferAfter (buffer : String) : Request → String
  | .add symbol => buffer ++ symbol
  | .clear | .evaluate _ => ""
  | .symbols | .nothing | .leave => buffer

/-- What a request shows while the session goes on. -/
def Request.shown [Interpreter] [Console.Library] (mode : Mode) :
    Request → Except RunError Transcript
  | .evaluate expression => answer mode expression
  | .symbols => .ok ⟨symbolLines mode.width, []⟩
  | .add _ | .clear | .nothing | .leave => .ok ⟨"", []⟩

section Request
variable {buffer line : String}

theorem request_exit (h : IsExit (stripLine line)) : request buffer line = .leave := if_pos h

theorem request_symbol (hx : ¬IsExit (stripLine line))
    (h : symbol? (stripLine line) = some symbol) : request buffer line = .add symbol := by
  have hr : request buffer line = _ := if_neg hx
  rw [hr]
  unfold symbol? stripLine at h
  rw [h]

/-- A line that ends nothing and adds nothing is told by what it is. -/
theorem request_other (hx : ¬IsExit (stripLine line)) (h : symbol? (stripLine line) = none) :
    request buffer line =
      if stripLine line = clearCommand then .clear
      else if stripLine line = symbolsCommand then .symbols
      else if stripLine line ≠ "" then .evaluate (stripLine line)
      else if buffer ≠ "" then .evaluate buffer
      else .nothing := by
  have hr : request buffer line = _ := if_neg hx
  rw [hr]
  unfold symbol? at h
  unfold stripLine at h ⊢
  rw [h]

/-- What a line that does not end the session is a request for. -/
inductive Asks (buffer line : String) : Request → Prop
  | add (symbol : String) (h : symbol? line = some symbol) : Asks buffer line (.add symbol)
  | clear (h : line = clearCommand) : Asks buffer line .clear
  | symbols (h : line = symbolsCommand) : Asks buffer line .symbols
  | text (hl : line ≠ "") (hc : ¬IsCommand line) : Asks buffer line (.evaluate line)
  | buffer (hl : line = "") (hb : buffer ≠ "") : Asks buffer line (.evaluate buffer)
  | nothing (hl : line = "") (hb : buffer = "") : Asks buffer line .nothing

theorem request_asks (hx : ¬IsExit (stripLine line)) :
    Asks buffer (stripLine line) (request buffer line) := by
  cases hs : symbol? (stripLine line) with
  | some symbol =>
    rw [request_symbol hx hs]
    exact .add symbol hs
  | none =>
    rw [request_other hx hs]
    by_cases hclear : stripLine line = clearCommand
    · rw [if_pos hclear]
      exact .clear hclear
    rw [if_neg hclear]
    by_cases hsymbols : stripLine line = symbolsCommand
    · rw [if_pos hsymbols]
      exact .symbols hsymbols
    rw [if_neg hsymbols]
    by_cases hl : stripLine line = ""
    · rw [if_neg (not_not_intro hl)]
      by_cases hb : buffer = ""
      · rw [if_neg (not_not_intro hb)]
        exact .nothing hl hb
      · rw [if_pos hb]
        exact .buffer hl hb
    · rw [if_pos hl]
      refine .text hl ?_
      rintro (he | hp | hc)
      · exact hx he
      · rw [hs] at hp
        cases hp
      · exact hc.elim hclear hsymbols

/-- The expression that is looked at is the one that the round hands on. -/
theorem Asks.handed (h : Asks buffer line asked) :
    asked = .evaluate expression ↔ Round.handed ⟨buffer, line⟩ = some expression := by
  cases h with
  | add symbol hs => simp [Round.handed, ne_blank_of_symbol hs, command_of_symbol hs]
  | clear h =>
    subst h
    simp [Round.handed, show IsCommand clearCommand by decide, show clearCommand ≠ "" by decide]
  | symbols h =>
    subst h
    simp [Round.handed, show IsCommand symbolsCommand by decide,
      show symbolsCommand ≠ "" by decide]
  | text hl hc => simp [Round.handed, hl, hc]
  | buffer hl hb => simp [Round.handed, hl, hb]
  | nothing hl hb => simp [Round.handed, hl, hb]

theorem request_evaluate_iff : request buffer line = .evaluate expression ↔
    ¬IsExit (stripLine line) ∧ Round.handed ⟨buffer, stripLine line⟩ = some expression := by
  by_cases hx : IsExit (stripLine line)
  · simp [request_exit hx, hx]
  · simp [(request_asks hx).handed, hx]

theorem Asks.buffer_after (h : Asks buffer line asked) :
    bufferAfter buffer line = asked.bufferAfter buffer := by
  unfold Shell.bufferAfter
  cases h with
  | add symbol hs =>
    have hr : ¬Resets buffer line := by
      rintro (rfl | ⟨_, hn⟩ | ⟨hl, _⟩)
      · cases hs
      · exact hn (command_of_symbol hs)
      · exact ne_blank_of_symbol hs hl
    rw [if_neg hr, hs]
    rfl
  | clear h => exact if_pos (.inl h)
  | symbols h =>
    have hr : ¬Resets buffer line := by
      subst h
      simp [Resets, show IsCommand symbolsCommand by decide,
        show symbolsCommand ≠ clearCommand by decide, show symbolsCommand ≠ "" by decide]
    rw [if_neg hr, h, symbol_symbols]
    exact String.append_empty
  | text hl hc => exact if_pos (.inr (.inl ⟨hl, hc⟩))
  | buffer hl hb => exact if_pos (.inr (.inr ⟨hl, hb⟩))
  | nothing hl hb =>
    have hr : ¬Resets buffer line := by
      subst hl hb
      decide
    rw [if_neg hr, hl, symbol_blank]
    exact String.append_empty

section
variable [Interpreter] [Console.Library]

/-- Only the palette is shown in a round that hands nothing on. -/
theorem Asks.shown (h : Asks buffer line asked) :
    Round.shown mode ⟨buffer, line⟩ = asked.shown mode := by
  have hsilent : (∀ e, asked ≠ .evaluate e) → Round.shown mode ⟨buffer, line⟩ = _ :=
    fun hn => Round.shown_silent
      (Option.eq_none_iff_forall_ne_some.mpr (fun e he => hn e (h.handed.mpr he)))
  cases asked with
  | leave => cases h
  | evaluate expression => exact Round.shown_handed (h.handed.mp rfl)
  | symbols =>
    cases h with
    | symbols h => rw [hsilent nofun, if_pos h]; rfl
  | add _ | clear | nothing =>
    have hline : line ≠ symbolsCommand := by
      rintro rfl
      nomatch h
    rw [hsilent nofun, if_neg hline]
    rfl

/-- A line that does not end the session makes a round. -/
theorem react_entered (hx : ¬IsExit (stripLine line)) : react mode buffer line =
    (Round.shown mode ⟨buffer, stripLine line⟩).map
      (.stay (bufferAfter buffer (stripLine line))) := by
  have h : Asks buffer (stripLine line) (request buffer line) := request_asks hx
  rw [h.shown, h.buffer_after]
  unfold react
  generalize request buffer line = asked at h ⊢
  cases asked with
  | leave => cases h
  | add _ | clear | symbols | evaluate _ | nothing => rfl

theorem react_exit (hx : IsExit (stripLine line)) : react mode buffer line = .ok .leave := by
  unfold react
  rw [request_exit hx]

theorem react_stay (h : react mode buffer line = .ok (.stay next transcript)) :
    next = bufferAfter buffer (stripLine line) := by
  by_cases hx : IsExit (stripLine line)
  · rw [react_exit hx] at h
    cases h
  · rw [react_entered hx] at h
    cases hs : Round.shown mode ⟨buffer, stripLine line⟩ with
    | error e =>
      rw [hs] at h
      cases h
    | ok shown =>
      rw [hs] at h
      cases h
      rfl

end

end Request

/-- The buffer that a session comes to by some lines, and its steps on the way. -/
inductive Reaches [Interpreter] [Console.Library] (mode : Mode) :
    List String → List Step → String → Prop
  | start : Reaches mode [] [] ""
  | enter (h : Reaches mode lines steps buffer)
      (hr : react mode buffer line = .ok (.stay next transcript)) :
      Reaches mode (lines ++ [line]) (steps ++ [⟨some (prompt buffer), transcript⟩]) next

theorem Reaches.buffer_eq [Interpreter] [Console.Library] (h : Reaches mode lines steps buffer) :
    buffer = buffered (lines.map stripLine) := by
  induction h with
  | start => rfl
  | enter h hr ih =>
    rw [List.map_append, List.map_singleton, buffered_append, ← ih]
    exact react_stay hr

theorem rounds_cons : rounds history (line :: rest) =
    ⟨buffered history, line⟩ :: rounds (history ++ [line]) rest := by
  simp [rounds, List.mapIdx_cons]

/-- The last step of a session. -/
def parting [Console.Library] (mode : Mode) (buffer : String) : Step :=
  ⟨some (prompt buffer), ⟨farewell mode.width, []⟩⟩

section
variable [Interpreter] [Console.Library]

/-- The steps of a session, round by round. -/
def play (mode : Mode) (history lines : List String) : Except RunError (List Step) := do
  let steps ← (rounds history lines).mapM (Round.step mode)
  return steps ++ [parting mode (buffered (history ++ lines))]

theorem play_nil : play mode history [] = .ok [parting mode (buffered history)] := by
  rw [play, List.append_nil]
  rfl

theorem play_cons : play mode history (line :: rest) = do
    let transcript ← Round.shown mode ⟨buffered history, line⟩
    let steps ← play mode (history ++ [line]) rest
    return ⟨some (prompt (buffered history)), transcript⟩ :: steps := by
  rw [play, rounds_cons, List.mapM_cons, Round.step]
  cases Round.shown mode ⟨buffered history, line⟩ with
  | error e => rfl
  | ok transcript =>
    rw [play, List.append_assoc]
    cases (rounds (history ++ [line]) rest).mapM (Round.step mode) <;> rfl

theorem converse_line : converse mode buffer (some line :: rest) =
    if IsExit (stripLine line) then .ok [parting mode buffer]
    else do
      let transcript ← Round.shown mode ⟨buffer, stripLine line⟩
      let steps ← converse mode (bufferAfter buffer (stripLine line)) rest
      return ⟨some (prompt buffer), transcript⟩ :: steps := by
  rw [converse]
  split
  · next hx =>
    rw [react_exit hx]
    rfl
  · next hx =>
    rw [react_entered hx]
    cases Round.shown mode ⟨buffer, stripLine line⟩ <;> rfl

/-- A session that goes on with the buffer of some lines goes through the rounds behind them. -/
theorem converse_buffered (history : List String) (lines : List (Option String)) :
    converse mode (buffered history) lines = play mode history (entered lines) := by
  -- A line joins the history, so the buffer after it is again that of a history.
  induction lines generalizing history with
  | nil => exact play_nil.symm
  | cons first rest ih =>
    cases first with
    | none => exact play_nil.symm
    | some line =>
      rw [converse_line, entered]
      split
      · exact play_nil.symm
      · rw [play_cons, ← buffered_append, ih]

theorem play_prompts (h : play mode history lines = .ok steps) :
    steps.map (·.prompt) = (List.range (lines.length + 1)).map
      (fun i => some (prompt (buffered (history ++ lines.take i)))) := by
  induction lines generalizing history steps with
  | nil =>
    rw [play_nil] at h
    cases h
    simp [parting]
  | cons line rest ih =>
    rw [play_cons] at h
    cases hs : Round.shown mode ⟨buffered history, line⟩ with
    | error e =>
      rw [hs] at h
      cases h
    | ok transcript =>
      cases hp : play mode (history ++ [line]) rest with
      | error e =>
        rw [hs, hp] at h
        cases h
      | ok later =>
        rw [hs, hp] at h
        cases h
        rw [List.map_cons, ih hp, List.length_cons, List.range_succ_eq_map (n := _ + 1)]
        simp

end

/-- The lines since the last reset: before them there is nothing, or a line that resets, and none
of them does. -/
theorem since_reset_split (history : List String) : ∃ before,
    history = before ++ sinceReset history ∧
    (before = [] ∨ ∃ earlier line, before = earlier ++ [line] ∧ Resets (buffered earlier) line) ∧
    ∀ quiet line later, sinceReset history = quiet ++ line :: later →
      ¬Resets (buffered (before ++ quiet)) line := by
  induction history using List.reverseRecOn with
  | nil => exact ⟨[], rfl, .inl rfl, fun quiet line later h => by simp [sinceReset] at h⟩
  | append_singleton history line ih =>
    rw [since_reset_append]
    split
    · next hr =>
      exact ⟨history ++ [line], (List.append_nil _).symm, .inr ⟨history, line, rfl, hr⟩,
        fun quiet line later h => by simp at h⟩
    · next hr =>
      obtain ⟨before, hsplit, hbefore, hquiet⟩ := ih
      refine ⟨before, by rw [← List.append_assoc, ← hsplit], hbefore, ?_⟩
      intro quiet other later h
      -- The line in question is the new one, or stands among the lines there were.
      rcases List.eq_nil_or_concat later with rfl | ⟨between, last, rfl⟩
      · obtain ⟨rfl, he⟩ := List.append_inj' h rfl
        cases he
        rwa [← hsplit]
      · rw [List.concat_eq_append, ← List.cons_append, ← List.append_assoc] at h
        exact hquiet quiet other between (List.append_inj' h rfl).1

/-- A session is the rounds of its lines up to the one that ends it, whatever these are. The buffer
at each prompt is the palette symbols of the lines since the last reset, even if a later round
fails, and the expressions that are looked at are those that the rounds hand on, in their order. -/
theorem converse_plays [Interpreter] [Console.Library] (mode : Mode)
    (lines : List (Option String)) :
    converse mode "" lines = play mode [] (entered lines) ∧
    (∀ steps, converse mode "" lines = .ok steps →
      steps.map (·.prompt) = (List.range ((entered lines).length + 1)).map
        (fun i => some (prompt (buffered ((entered lines).take i))))) ∧
    (∀ before steps buffer, Reaches mode before steps buffer →
      buffer = buffered (before.map stripLine)) ∧
    (∀ history, ∃ before,
      history = before ++ sinceReset history ∧
      (before = [] ∨
        ∃ earlier line, before = earlier ++ [line] ∧ Resets (buffered earlier) line) ∧
      ∀ quiet line later, sinceReset history = quiet ++ line :: later →
        ¬Resets (buffered (before ++ quiet)) line) ∧
    ∀ buffer line expression, request buffer line = .evaluate expression ↔
      ¬IsExit (stripLine line) ∧ Round.handed ⟨buffer, stripLine line⟩ = some expression := by
  have hplay : converse mode "" lines = play mode [] (entered lines) := converse_buffered [] lines
  refine ⟨hplay, ?_, fun _ _ _ => Reaches.buffer_eq, since_reset_split,
    fun _ _ _ => request_evaluate_iff⟩
  intro steps h
  rw [hplay] at h
  simpa only [List.nil_append] using play_prompts h

theorem converse_plays_discarded :
    (∃ steps, converse ⟨40, .count 1, .tabla, false⟩ "" [some ":si", some " t ", some ":p",
        some ":simbolos", some ":q", some "", some "SALIR", some "p"] = .ok steps ∧
      steps.map (·.prompt) = ["", "→", "", "p", "p", "pq", ""].map (fun b => some (prompt b))) ∧
    Reaches ⟨40, .count 1, .tabla, false⟩ [" :p "] [⟨some (prompt ""), ⟨"", []⟩⟩] ("" ++ "p") ∧
    "" ++ "p" = buffered ([" :p "].map stripLine) := by
  have hentered : entered [some ":si", some " t ", some ":p", some ":simbolos", some ":q",
      some "", some "SALIR", some "p"] = [":si", "t", ":p", ":simbolos", ":q", ""] := by decide
  obtain ⟨hplay, hprompts, hbuffer, _, _⟩ := converse_plays ⟨40, .count 1, .tabla, false⟩
    [some ":si", some " t ", some ":p", some ":simbolos", some ":q", some "", some "SALIR",
      some "p"]
  have hok : (play ⟨40, .count 1, .tabla, false⟩ []
      [":si", "t", ":p", ":simbolos", ":q", ""]).toOption.isSome = true := by decide +kernel
  have hkey : react ⟨40, .count 1, .tabla, false⟩ "" " :p " =
      .ok (.stay ("" ++ "p") ⟨"", []⟩) := by
    unfold react
    rw [request_symbol (by decide) rfl]
  have hreach := Reaches.start.enter hkey
  refine ⟨?_, hreach, hbuffer _ _ _ hreach⟩
  rw [hentered] at hplay hprompts
  rw [← hplay] at hok
  generalize converse _ _ _ = outcome at hok hprompts ⊢
  cases outcome with
  | error e => cases hok
  | ok steps => exact ⟨steps, rfl, hprompts steps rfl⟩

end Propositional.Shell
