import Propositional.Settings.Environment
import Propositional.Shell.Arguments
import Propositional.Shell.Session

namespace Propositional.Shell

variable [Interpreter] [Console.Library]

/-- What a run is given. The file of variables is where it has been found; the empty path, at which
there is none, tells that it has not. -/
structure Invocation where
  arguments : List String
  environment : Environment
  files : Files
  width : Nat
  dotenv : String := ""

/-- The outcome of a run. -/
structure Report where
  exitCode : Nat
  steps : List Step
  log : List Log.Record
  files : Files

/-- A run that is over, or one that goes on with the lines of a session. -/
inductive Begun
  | finished (report : Report)
  | session (intro : String) (mode : Mode) (level : Nat)

/-- A report of one step. Only records that reach the threshold are kept. -/
def Report.single (exitCode level : Nat) (files : Files) (transcript : Transcript) : Report :=
  ⟨exitCode, [⟨none, transcript⟩], Log.kept level transcript.logged, files⟩

def loadSettings (inv : Invocation) (args : Arguments) : Except SettingsError Settings :=
  match args.config with
  | none | some "" => Settings.ofDotenv inv.environment inv.files inv.dotenv
  | some path => Settings.load inv.files path

/-- A notice is laid out before it is encoded. Nothing is left to encode on a console without
width. -/
def settingsNotice (width : Nat) (e : SettingsError) : Except RunError String := do
  let notice ← (Console.printMarkup width
    ("[bold red]❌ Configuración inválida: " ++ Console.Markup.escape e.message ++ "[/]")).mapError
      .print
  match e.half? with
  | some half => if width = 0 then return notice else throw (.unencodable half)
  | none => return notice

/-- One expression from the command line. -/
def runOnce (inv : Invocation) (args : Arguments) (mode : Mode) (level : Nat)
    (expression : String) : Except RunError Report :=
  match rejection? mode.limit expression with
  | some rejection =>
    .ok (.single 1 level inv.files ⟨Console.print mode.width rejection.message, []⟩)
  | none =>
    match args.output with
    | none | some "" => (present mode expression).map (Report.single 0 level inv.files)
    | some path =>
      (presentTo mode expression path inv.files).map (fun (transcript, files) =>
        Report.single 0 level files transcript)

def runWith (inv : Invocation) (args : Arguments) (settings : Settings) :
    Except RunError Begun :=
  let level := (Log.level? settings.logLevel).getD Log.initialLevel
  let mode : Mode :=
    ⟨inv.width, settings.limit, args.format.getD settings.format, args.tree⟩
  if args.interactive then .ok (.session (sessionIntro inv.width) mode level)
  else
    match args.expression with
    | some expression => (runOnce inv args mode level expression).map .finished
    | none =>
      .ok (.finished (.single 1 level inv.files
        ⟨Console.print inv.width banner ++ description inv.width ++
          Console.print inv.width "   Pasa una expresión o usa --interactivo", []⟩))

def begin (inv : Invocation) : Except RunError Begun :=
  let silent (exitCode : Nat) : Begun :=
    .finished (.single exitCode Log.initialLevel inv.files ⟨"", []⟩)
  match Arguments.parse inv.arguments with
  | .error .help => .ok (silent 0)
  | .error .usage => .ok (silent 2)
  | .ok args =>
    match loadSettings inv args with
    | .error (.malformed ⟨.nestedTooDeeply, _⟩) => .error .callsExhausted
    | .error e =>
      (settingsNotice inv.width e).map (fun notice =>
        .finished (.single 2 Log.initialLevel inv.files ⟨notice, []⟩))
    | .ok settings => runWith inv args settings

/-- A whole run, the lines of its session included. -/
def run (inv : Invocation) (lines : List (Option String)) : Except RunError Report := do
  match ← begin inv with
  | .finished report => return report
  | .session intro mode level =>
    let steps ← converse mode "" lines
    return ⟨0, ⟨none, ⟨intro, []⟩⟩ :: steps,
      Log.kept level (steps.flatMap (·.transcript.logged)), inv.files⟩

end Propositional.Shell
