import Propositional.Proofs.CallDepth
import Propositional.Proofs.EscapedMarkup
import Propositional.Proofs.JsonText
import Propositional.Proofs.Outcomes
import Propositional.Proofs.SettingsMessages
import Propositional.Proofs.Variables
import Propositional.Shell.Command

namespace Propositional
open Text (Points Tame joiner)

/-- The families of errors that a program tells apart. -/
inductive ErrorKind
  | system
  | value
  | type
  | recursion
  deriving DecidableEq

def FileError.kind : FileError → ErrorKind
  | .failed _ _ => .system
  | .nullInPath => .value
  | .callsExhausted => .recursion

def ReadFault.kind : ReadFault → ErrorKind
  | .file e => e.kind
  | .encoding _ => .value

def Json.Fault.kind : Json.Fault → ErrorKind
  | .nestedTooDeeply => .recursion
  | _ => .value

namespace SettingsError

def kind : SettingsError → ErrorKind
  | .badLimit _ | .badLevel _ | .badFormat _ | .longInteger _ | .badInteger _ | .unsettable _ =>
    .value
  | .unknownKeyword _ | .repeatedKeyword _ | .notMapping _ => .type
  | .unreadable e => e.kind
  | .malformed e => e.fault.kind

/-- What is known of an error that stops the making of settings. Only the nesting of a JSON text is
an error of recursion, and nothing but the name of a keyword brings a joiner into a message. -/
structure Expected (e : SettingsError) : Prop where
  recursion : e.kind = .recursion → ∃ before, e = .malformed ⟨.nestedTooDeeply, before⟩
  last : e.message.toList.getLast? ≠ some '\\'
  joiner : joiner ∈ e.message.toList →
    ∃ name, e = .unknownKeyword name ∧ joiner ∈ name.standIn.toList

theorem Expected.of_tame {e : SettingsError} (h : Tame e.spliced)
    (hkind : e.kind = .recursion → ∃ before, e = .malformed ⟨.nestedTooDeeply, before⟩) :
    e.Expected :=
  ⟨hkind, (tame_message h).last, fun hm => absurd hm (tame_message h).joiner⟩

theorem Expected.of_kind {e : SettingsError} (h : Tame e.spliced) (hkind : e.kind ≠ .recursion) :
    e.Expected :=
  .of_tame h (fun hrecursion => absurd hrecursion hkind)

theorem Expected.of_value {e : SettingsError} (h : e.spliced = "") (hkind : e.kind = .value) :
    e.Expected :=
  .of_kind (h ▸ Text.tame_empty) (hkind ▸ nofun)

/-- The error says nothing of a value but that an integer in it is too long, or shows it. -/
theorem showing_eq [Interpreter] (error : Json.Value Points → SettingsError)
    (v : Json.Value Points) :
    showing error v = error v ∨ ∃ limit, showing error v = .longInteger limit := by
  unfold showing
  split
  · exact .inr ⟨_, rfl⟩
  · exact .inl rfl

theorem Expected.of_showing [Interpreter] {error : Json.Value Points → SettingsError}
    {v : Json.Value Points} (h : (error v).Expected) : (showing error v).Expected := by
  rcases showing_eq error v with hshown | ⟨limit, hlong⟩
  · rwa [hshown]
  · rw [hlong]
    exact .of_value rfl rfl

theorem expected_keyword (name : Points) : (unknownKeyword name).Expected := by
  refine ⟨nofun, ?_, fun hm => ⟨name, rfl, joiner_mem_unknown_keyword hm⟩⟩
  rw [unknown_keyword_last]
  decide

theorem eq_of_keyword {e : SettingsError} (h : e.keyword? = some name) :
    e = .unknownKeyword name := by
  cases e with
  | unknownKeyword found =>
    cases h
    rfl
  | _ => cases h

theorem expected_malformed (e : Json.ReadError) : (malformed e).Expected := by
  refine .of_tame Text.tame_empty (fun h => ?_)
  obtain ⟨fault, before⟩ := e
  cases fault with
  | nestedTooDeeply => exact ⟨before, rfl⟩
  | _ => cases h

end SettingsError

/-- Settings that a run can work with: a limit from 1 to 512, one of the three formats, and a level
whose name, in capitals, stands for the threshold that is set. -/
structure Settings.Usable (s : Settings) : Prop where
  limit : 1 ≤ s.limit.number ∧ s.limit.number ≤ 512
  format : s.format.name ∈ ["tabla", "html", "json"]
  level : ∃ n, Log.levels.lookup (Text.upper s.logLevel) = some n ∧
    Log.threshold s.logLevel = .ok n

namespace Settings
open SettingsError (Expected unreadable)

/-- All the ways to make settings: from keywords, from a file, and from variables with a file of
variables, which need not be there. -/
inductive Built [Interpreter] : Except SettingsError Settings → Prop
  | keywords (fields : List (Points × Json.Value Points)) : Built (ofKeywords fields)
  | file (files : Files) (path : String) : Built (load files path)
  | dotenv (env : Environment) (files : Files) (path : String) : Built (ofDotenv env files path)

theorem check_names_settles (fields : List (Points × Json.Value Points)) :
    Settles Expected (checkNames fields) (fun _ => True) := by
  induction fields with
  | nil => trivial
  | cons field rest ih =>
    obtain ⟨name, v⟩ := field
    unfold checkNames
    split
    · exact SettingsError.expected_keyword name
    · split_ifs with hself hknown
      · subst hself
        exact .of_kind (by decide) nofun
      · exact ih
      · exact SettingsError.expected_keyword name

section
variable [Interpreter]

theorem check_limit_settles (v : Json.Value Points) :
    Settles Expected (checkLimit v) (fun limit => 1 ≤ limit.number ∧ limit.number ≤ 512) := by
  unfold checkLimit
  split
  · rename_i limit hv
    refine ⟨?_, Limit.of_value_number hv⟩
    unfold Limit.ofValue? at hv
    split at hv
    · split_ifs at hv with hn
      cases hv
      simp only [Limit.number]
      omega
    · cases hv
      decide
    · cases hv
  · exact .of_showing (.of_value rfl rfl)

theorem check_level_settles (v : Json.Value Points) :
    Settles Expected (checkLevel v) (fun name => (Log.level? name).isSome = true) := by
  unfold checkLevel
  split
  · rename_i name hname
    exact (Option.filter_eq_some_iff.mp hname).2
  · exact .of_showing (.of_value rfl rfl)

theorem check_format_settles (v : Json.Value Points) :
    Settles Expected (checkFormat v) (fun _ => True) := by
  unfold checkFormat
  split
  · trivial
  · exact .of_showing (.of_value rfl rfl)

theorem of_keywords_settles (fields : List (Points × Json.Value Points)) :
    Settles Expected (ofKeywords fields) Usable := by
  refine (check_names_settles fields).bind (fun _ _ => ?_)
  refine (check_limit_settles _).bind (fun limit hlimit => ?_)
  refine (check_level_settles _).bind (fun name hlevel => ?_)
  refine (check_format_settles _).bind (fun format _ => ?_)
  obtain ⟨n, hn⟩ := Option.isSome_iff_exists.mp hlevel
  refine ⟨hlimit, ?_, n, hn, ?_⟩
  · change format.name ∈ _
    cases format <;> decide
  · change Log.threshold name = .ok n
    rw [Log.threshold, hn]

theorem of_value_settles (v : Json.Value Points) : Settles Expected (ofValue v) Usable := by
  unfold ofValue
  split
  · exact of_keywords_settles _
  · exact .of_kind v.tame_kind nofun

theorem of_json_settles (text : String) : Settles Expected (ofJson text) Usable :=
  (Settles.anything.map_error (fun e _ => SettingsError.expected_malformed e)).bind
    (fun v _ => of_value_settles v)

end

end Settings

namespace Files

theorem check_path_settles (path : String) :
    Settles (·.kind ≠ .recursion) (checkPath path) (fun _ => True) := by
  unfold checkPath
  split_ifs
  · exact nofun
  · exact nofun
  · trivial

theorem open_settles (files : Files) (path : String) :
    Settles (·.kind ≠ .recursion) (files.open? path) (fun _ => True) :=
  (check_path_settles path).bind (fun _ _ =>
    Settles.anything.map_error (fun _ _ => nofun))

/-- No error of reading a file is one of recursion. -/
theorem read_settles (files : Files) (path : String) :
    Settles (·.kind ≠ .recursion) (files.readText path) (fun _ => True) := by
  have hopen : Settles (fun e : ReadFault => e.kind ≠ .recursion)
      ((files.open? path).mapError .file) (fun _ => True) :=
    (open_settles files path).map_error (fun _ h => h)
  refine hopen.bind (fun content _ => ?_)
  have hdecode : Settles (fun e : ReadFault => e.kind ≠ .recursion)
      (content.decode.mapError .encoding) (fun _ => True) :=
    Settles.anything.map_error (fun _ _ => nofun)
  exact hdecode.bind (fun _ _ => trivial)

end Files

namespace Settings
open SettingsError (Expected unreadable)

theorem expected_unreadable (h : e.kind ≠ .recursion) : (unreadable e).Expected :=
  .of_kind Text.tame_empty h

section
variable [Interpreter]

theorem load_settles (files : Files) (path : String) :
    Settles Expected (load files path) Usable :=
  ((Files.read_settles files path).map_error (fun _ h => expected_unreadable h)).bind
    (fun text _ => of_json_settles text)

theorem of_environment_settles (env : Environment) :
    Settles Expected (ofEnvironment env) Usable := by
  have hlimit : Settles Expected (limitOfVariable (env.lookup limitVariable)) (fun _ => True) := by
    unfold limitOfVariable
    split
    · trivial
    · split_ifs
      · trivial
      · split
        · trivial
        · exact .of_value rfl rfl
  exact hlimit.bind (fun limit _ => of_keywords_settles _)

theorem of_dotenv_settles (env : Environment) (files : Files) (path : String) :
    Settles Expected (ofDotenv env files path) Usable := by
  unfold ofDotenv
  split_ifs
  · exact of_environment_settles env
  · split
    · rename_i text hread
      have hload : Settles Expected ((Dotenv.load env text).mapError .unsettable) (fun _ => True) :=
        Settles.anything.map_error (fun e _ => .of_value rfl rfl)
      exact hload.bind (fun env _ => of_environment_settles env)
    · exact of_environment_settles env
    · rename_i e hne hread
      have hsettles := Files.read_settles files path
      rw [hread] at hsettles
      exact expected_unreadable hsettles

theorem Built.settles (h : Built outcome) : Settles Expected outcome Usable := by
  cases h with
  | keywords fields => exact of_keywords_settles fields
  | file files path => exact load_settles files path
  | dotenv env files path => exact of_dotenv_settles env files path

end

end Settings

namespace Shell
open Console (Codeless typeset typeset?)
open Console.Markup (Styles bare dropEscapes)

section
variable [Interpreter] [Console.Library]

/-- What follows when the settings of a run have come out. -/
def proceed (inv : Invocation) (args : Arguments) (built : Except SettingsError Settings) :
    Except RunError Begun :=
  match built with
  | .error (.malformed ⟨.nestedTooDeeply, _⟩) => .error .callsExhausted
  | .error e =>
    (settingsNotice inv.width e).map (fun notice =>
      .finished (.single 2 Log.initialLevel inv.files ⟨notice, []⟩))
  | .ok settings => runWith inv args settings

/-- The rest of a run, the lines of its session included. -/
def finish (inv : Invocation) (lines : List (Option String)) (begun : Begun) :
    Except RunError Report :=
  match begun with
  | .finished report => .ok report
  | .session intro mode level => do
    let steps ← converse mode "" lines
    return ⟨0, ⟨none, ⟨intro, []⟩⟩ :: steps,
      Log.kept level (steps.flatMap (·.transcript.logged)), inv.files⟩

/-- A run whose settings are made in some way. -/
def runBuilt (inv : Invocation) (args : Arguments) (lines : List (Option String))
    (built : Except SettingsError Settings) : Except RunError Report :=
  proceed inv args built >>= finish inv lines

theorem run_eq_built (h : Arguments.parse inv.arguments = .ok args)
    (lines : List (Option String)) :
    run inv lines = runBuilt inv args lines (loadSettings inv args) := by
  have hbegin : begin inv = proceed inv args (loadSettings inv args) := by
    unfold begin proceed
    generalize Arguments.parse inv.arguments = parsed at h
    subst h
    rfl
  rw [run, hbegin]
  rfl

omit [Console.Library] in
theorem load_built (inv : Invocation) (args : Arguments) :
    Settings.Built (loadSettings inv args) := by
  unfold loadSettings
  split
  · exact .dotenv _ _ _
  · exact .dotenv _ _ _
  · exact .file _ _

end

def refusalTitle : String := "❌ Configuración inválida: "

/-- What is told of an error in the settings. A backslash before a bracket that opens no tag gets
lost. -/
def refusal (e : SettingsError) : String :=
  refusalTitle ++ String.ofList (dropEscapes e.message.toList)

/-- A run that tells something about its settings and does nothing else. -/
def refused (inv : Invocation) (told : String) : Report :=
  ⟨2, [⟨none, ⟨told, []⟩⟩], [], inv.files⟩

theorem refusal_styles : Styles "bold red".toList ⟨"bold red", []⟩ := by
  refine ⟨?_, ?_, ?_⟩ <;> decide +kernel

theorem joiner_not_mem_refusal {e : SettingsError} (h : joiner ∉ e.message.toList) :
    joiner ∉ (refusal e).toList := by
  have hbefore : joiner ∉ refusalTitle.toList := by decide +kernel
  rw [refusal, String.toList_append, String.toList_ofList, List.mem_append, not_or]
  exact ⟨hbefore, fun hm => h (Console.Markup.drop_escapes_subset _ hm)⟩

section
variable [Console.Library] {e : SettingsError}

/-- A notice without codes of pictures, joiners and halves is told as it is. -/
theorem settings_notice_ok (hlast : e.message.toList.getLast? ≠ some '\\')
    (hcodes : Codeless (refusal e).toList) (hjoiner : joiner ∉ (refusal e).toList)
    (hhalf : e.half? = none) (width : Nat) :
    settingsNotice width e = .ok (typeset width (refusal e).toList) := by
  have hopening : "[bold red]❌ Configuración inválida: " =
      String.ofList ('[' :: "bold red".toList ++ [']']) ++ refusalTitle := by decide +kernel
  have hbefore : '\\' ∉ refusalTitle.toList ∧ '[' ∉ refusalTitle.toList := by decide +kernel
  obtain ⟨shown, hbare, hshown⟩ :=
    Console.Markup.bare_escape refusal_styles hbefore e.message
  obtain rfl : shown = refusal e := hshown hlast
  have hmarkup : "[bold red]❌ Configuración inválida: " ++ Console.Markup.escape e.message ++
      "[/]" = Console.Markup.styled "bold red".toList
        (refusalTitle ++ Console.Markup.escape e.message) := by
    rw [hopening, Console.Markup.styled, String.append_assoc, String.append_assoc,
      String.append_assoc, String.append_assoc]
  have htypeset : typeset? width (refusal e).toList = .ok (typeset width (refusal e).toList) := by
    rw [typeset?, Console.wrap_fault_of_no_joiner hjoiner, typeset]
    split <;> rfl
  rw [settingsNotice, hmarkup, Console.printMarkup,
    Console.Markup.render_of_codeless hbare hcodes, hhalf]
  change (typeset? width (refusal e).toList).mapError RunError.print >>= _ = _
  rw [htypeset]
  rfl

/-- No console with a width takes a half. -/
theorem settings_notice_half (h : e.half? = some half) (hwidth : width ≠ 0) :
    ∃ fault, settingsNotice width e = .error fault := by
  rw [settingsNotice, h]
  cases (Console.printMarkup width _).mapError RunError.print with
  | error fault => exact ⟨fault, rfl⟩
  | ok notice => exact ⟨.unencodable half, if_neg hwidth⟩

end

section
variable [Interpreter] [Console.Library] {e : SettingsError}

theorem run_built_error (hkind : e.kind ≠ .recursion) (inv : Invocation) (args : Arguments)
    (lines : List (Option String)) :
    runBuilt inv args lines (.error e) = (settingsNotice inv.width e).map (refused inv) := by
  have hproceed : proceed inv args (.error e) =
      (settingsNotice inv.width e).map (fun notice =>
        .finished (.single 2 Log.initialLevel inv.files ⟨notice, []⟩)) := by
    unfold proceed
    split
    · rename_i heq
      cases heq
      exact absurd rfl hkind
    · rename_i heq
      cases heq
      rfl
    · rename_i heq
      cases heq
  rw [runBuilt, hproceed]
  cases settingsNotice inv.width e with
  | ok notice => rfl
  | error fault => rfl

/-- How an error in the settings ends a run: it is one of those that are caught, what comes of its
notice is the outcome, with the exit code two, and nothing is evaluated, logged or written. Only the
name of an unknown keyword can keep the notice from being told, where a half always does and a
joiner can; but for codes of pictures and for a backslash before a bracket, which gets lost, the
notice then tells the message as it is. -/
structure Refuses (e : SettingsError) : Prop where
  kind : e.kind ∈ [.system, .value, .type]
  outcome : ∀ inv args lines, runBuilt inv args lines (.error e) =
    (settingsNotice inv.width e).map (refused inv)
  told : (∀ name, e = .unknownKeyword name →
      ∃ text, name.text? = some text ∧ joiner ∉ text.toList) →
    Codeless (refusal e).toList → ∀ inv args lines, runBuilt inv args lines (.error e) =
      .ok (refused inv (typeset inv.width (refusal e).toList))
  escapes : ∀ half ∈ e.half?, ∀ inv args lines, inv.width ≠ 0 →
    ∃ fault, runBuilt inv args lines (.error e) = .error fault
  whole : ¬['\\', '['] <:+: e.message.toList → refusal e = refusalTitle ++ e.message

theorem refuses_expected (h : e.Expected) (hkind : e.kind ≠ .recursion) : Refuses e := by
  have hrun := run_built_error hkind
  constructor
  case kind => cases hk : e.kind <;> simp [hk] at hkind ⊢
  case outcome => exact hrun
  case told =>
    intro hname hcodes inv args lines
    have hhalf : e.half? = none := by
      cases e with
      | unknownKeyword name =>
        obtain ⟨text, htext, -⟩ := hname name rfl
        obtain rfl := Text.text_eq_some.mp htext
        exact Text.half_points text
      | _ => rfl
    have hjoiner : joiner ∉ e.message.toList := by
      intro hm
      obtain ⟨name, he, hm⟩ := h.joiner hm
      obtain ⟨text, htext, hfree⟩ := hname name he
      obtain rfl := Text.text_eq_some.mp htext
      exact hfree (Text.stand_in_points text ▸ hm)
    rw [hrun, settings_notice_ok h.last hcodes (joiner_not_mem_refusal hjoiner) hhalf]
    rfl
  case escapes =>
    intro half hhalf inv args lines hwidth
    obtain ⟨fault, hfault⟩ := settings_notice_half hhalf hwidth
    exact ⟨fault, by rw [hrun, hfault]; rfl⟩
  case whole =>
    intro hescape
    rw [refusal, Console.Markup.drop_escapes_of_not_infix hescape, String.ofList_toList]

end

end Shell

open Shell (Invocation Arguments Refuses loadSettings refused refusal run runBuilt)

/-- Whichever way settings are made, they are usable or refused, a JSON text that is nested too
deeply apart; and a run makes its settings in one of these ways. -/
theorem Settings.usable_or_refused [Interpreter] [Console.Library] (h : Built outcome) :
    ((∃ s, outcome = .ok s ∧ s.Usable) ∨
      (∃ before, outcome = .error (.malformed ⟨.nestedTooDeeply, before⟩)) ∨
      ∃ e, outcome = .error e ∧ Refuses e) ∧
    ∀ inv args lines, Arguments.parse inv.arguments = .ok args →
      Built (loadSettings inv args) ∧
        run inv lines = runBuilt inv args lines (loadSettings inv args) := by
  refine ⟨?_, fun inv args lines h => ⟨Shell.load_built inv args, Shell.run_eq_built h lines⟩⟩
  have hsettles := h.settles
  cases outcome with
  | ok s => exact .inl ⟨s, rfl, hsettles⟩
  | error e =>
    refine .inr ?_
    by_cases hkind : e.kind = .recursion
    · obtain ⟨before, rfl⟩ := hsettles.recursion hkind
      exact .inl ⟨before, rfl⟩
    · exact .inr ⟨e, rfl, Shell.refuses_expected hsettles hkind⟩

/-- A run whose limit is zero. -/
def Shell.zeroRun : Invocation := ⟨["p"], [(Settings.limitVariable, "0")], ⟨[]⟩, 80, ""⟩

def Shell.zeroArguments : Arguments := ⟨some "p", none, none, false, none, false⟩

theorem Shell.load_zero : loadSettings zeroRun zeroArguments = .error (.badLimit (.int 0)) := by
  change Settings.ofDotenv [(Settings.limitVariable, "0")] ⟨[]⟩ "" = _
  rw [Settings.of_dotenv_nowhere]
  rfl

theorem Settings.usable_or_refused_zero : run Shell.zeroRun [] = .ok (refused Shell.zeroRun
    "❌ Configuración inválida: max_input_length debe estar entre 1 y 512, recibí 0\n") := by
  have hparse : Arguments.parse Shell.zeroRun.arguments = .ok Shell.zeroArguments := by
    decide +kernel
  have hbuilt := Shell.load_built Shell.zeroRun Shell.zeroArguments
  rw [Shell.load_zero] at hbuilt
  obtain ⟨hsettled, hruns⟩ := usable_or_refused hbuilt
  obtain ⟨-, hrun⟩ := hruns Shell.zeroRun _ [] hparse
  rw [Shell.load_zero] at hrun
  rcases hsettled with ⟨s, hs, -⟩ | ⟨before, hb⟩ | ⟨e, he, hrefuses⟩
  · cases hs
  · cases hb
  · obtain rfl := Except.error.inj he
    have hcodes : Console.Codeless (refusal (.badLimit (.int 0))).toList :=
      Console.codeless_of_few (by decide +kernel)
    have htypeset : Console.typeset Shell.zeroRun.width (refusal (.badLimit (.int 0))).toList =
        "❌ Configuración inválida: max_input_length debe estar entre 1 y 512, recibí 0\n" := by
      decide +kernel
    rw [hrun, hrefuses.told (fun name h => by cases h) hcodes, htypeset]

/-- A keyword that is one half of a surrogate pair. -/
def Shell.halfName : Points := [.half 0xd800]

/-- A run whose file of settings has that keyword. -/
def Shell.halfRun : Invocation :=
  ⟨["--config", "c.json", "p"], [],
    ⟨[(["c.json"], .file (.text "\x7b\"\\ud800\": 1\x7d"))]⟩, 80, ""⟩

def Shell.halfArguments : Arguments := ⟨some "p", none, none, false, some "c.json", false⟩

theorem Shell.of_json_half :
    Settings.ofJson "\x7b\"\\ud800\": 1\x7d" = .error (.unknownKeyword halfName) := by
  have hkeyword : (Settings.ofJson "\x7b\"\\ud800\": 1\x7d").mapError SettingsError.keyword? =
      .error (some halfName) := by
    decide +kernel
  cases hjson : Settings.ofJson "\x7b\"\\ud800\": 1\x7d" with
  | ok s =>
    rw [hjson] at hkeyword
    cases hkeyword
  | error e =>
    rw [hjson] at hkeyword
    rw [SettingsError.eq_of_keyword (Except.error.inj hkeyword)]

theorem Shell.load_half :
    loadSettings halfRun halfArguments = .error (.unknownKeyword halfName) := by
  have htext : halfRun.files.readText "c.json" = .ok "\x7b\"\\ud800\": 1\x7d" := by
    decide +kernel
  change Settings.load halfRun.files "c.json" = _
  rw [Settings.load, htext]
  exact of_json_half

/-- An error of a kind that is caught is not told: the name of a keyword stands in its message as it
is, and no console can show a half. -/
theorem Settings.half_keyword_not_told :
    Arguments.parse Shell.halfRun.arguments = .ok Shell.halfArguments ∧
      loadSettings Shell.halfRun Shell.halfArguments = .error (.unknownKeyword Shell.halfName) ∧
      (SettingsError.unknownKeyword Shell.halfName).kind = .type ∧
      run Shell.halfRun [] = .error (.unencodable 0xd800) := by
  have hparse : Arguments.parse Shell.halfRun.arguments = .ok Shell.halfArguments := by
    decide +kernel
  have hnotice : Shell.settingsNotice 80 (.unknownKeyword Shell.halfName) =
      .error (.unencodable 0xd800) := by decide +kernel
  have hkind : (SettingsError.unknownKeyword Shell.halfName).kind ≠ .recursion := nofun
  refine ⟨hparse, Shell.load_half, rfl, ?_⟩
  rw [Shell.run_eq_built hparse, Shell.load_half, Shell.run_built_error hkind]
  change (Shell.settingsNotice 80 _).map _ = _
  rw [hnotice]
  rfl

end Propositional
