import Propositional.Shell.Command

namespace Propositional.Shell

/-- What stands at a path: nothing, a file, or else a folder. -/
def probe (path : String) : IO (Option Entry) := do
  try
    let content ← IO.FS.readBinFile path
    return some (.file (.bytes content.toList))
  catch
    | .noFileOrDirectory .. => return none
    | _ => return some .folder

/-- Adds the place of a path and the folders on the way to it. -/
def observe (files : Files) (path : String) : IO Files := do
  let names := Files.names path
  let mut seen := files
  for n in List.range names.length do
    let ancestor := "/".intercalate (names.take (n + 1))
    if ancestor ≠ "" then
      match ← probe ancestor with
      | none => pure ()
      | some entry =>
        match seen.locate ancestor with
        | .ok place => seen := seen.put place entry
        | .error _ => pure ()
  return seen

/-- The files and folders that the arguments name. -/
def observeArguments (args : List String) : IO Files :=
  match Arguments.parse args with
  | .error _ => return ⟨[]⟩
  | .ok found => do
    let paths := found.config.toList ++ found.output.toList
    (paths.filter (· ≠ "")).foldlM observe ⟨[]⟩

/-- The file of variables in the folder of a path or in the nearest one above it that has one; the
empty path if there is none. -/
def findDotenv (path : String) : IO String := do
  let names := Files.names path
  for n in (List.range (names.length - 1)).reverse do
    let candidate := "/".intercalate (names.take (n + 1) ++ [".env"])
    if let some (.file _) ← probe candidate then return candidate
  return ""

def readEnvironment : IO Environment := do
  let names := Dotenv.switchVariable :: Settings.variableNames
  names.filterMapM (fun name => do return (← IO.getEnv name).map (fun v => (name, v)))

/-- The width of the terminal, eighty cells unless the environment tells. -/
def terminalWidth : IO Nat := do
  let columns ← IO.getEnv "COLUMNS"
  return ((columns.bind String.toNat?).filter (0 < ·)).getD 80

def writeChanges (before after : Files) : IO Unit := do
  for (place, entry) in before.changed after do
    match entry with
    | .file (.text text) => IO.FS.writeFile place.toPath text
    | _ => pure ()

def emit [Interpreter] (level : Nat) (transcript : Transcript) : IO Unit := do
  IO.print transcript.printed
  (← IO.getStdout).flush
  for record in Log.kept level transcript.logged do
    IO.eprintln record.shown

/-- Reads lines and reacts to them until the session is over. -/
partial def talk (mode : Mode) (level : Nat) (buffer : String) : IO UInt32 := do
  IO.print (prompt buffer)
  (← IO.getStdout).flush
  let line ← (← IO.getStdin).getLine
  let reaction := if line.isEmpty then .ok .leave else react mode buffer line
  match reaction with
  | .error e =>
    IO.eprintln e.message
    return 1
  | .ok .leave =>
    IO.print (farewell mode.width)
    return 0
  | .ok (.stay next transcript) =>
    emit level transcript
    talk mode level next

end Propositional.Shell

open Propositional.Shell

def main (args : List String) : IO UInt32 := do
  let dotenv ← findDotenv (← IO.appPath).toString
  let files ← (if dotenv = "" then observeArguments args
    else do observe (← observeArguments args) dotenv)
  let invocation : Invocation := {
    arguments := args
    environment := ← readEnvironment
    files := files
    width := ← terminalWidth
    dotenv := dotenv }
  match begin invocation with
  | .error e =>
    IO.eprintln e.message
    return 1
  | .ok (.finished report) =>
    writeChanges files report.files
    for step in report.steps do
      IO.print step.transcript.printed
    for record in report.log do
      IO.eprintln record.shown
    return UInt32.ofNat report.exitCode
  | .ok (.session intro mode level) =>
    IO.print intro
    talk mode level ""
