import Propositional.Shell.Palette
import Propositional.Shell.Presentation

namespace Propositional.Shell

variable [Interpreter] [Console.Library]

def banner : String := "🧮 Tabla de Verdad — Lógica Proposicional"

def descriptionParagraphs : List String := [
  "Genera la tabla de verdad de una expresión con las variables p, q, r, s, t.",
  "Conectores: ¬  ∧  ∨  →  ↔   y paréntesis ( ) Ejemplo: (p ∧ ¬q) → r"]

def description (width : Nat) : String := Console.printParagraphs width descriptionParagraphs

def sessionIntro (width : Nat) : String :=
  Console.print width banner ++ description width ++
    Console.print width
      s!"Modo interactivo — '{symbolsCommand}' muestra la paleta, 'salir' termina\n"

def farewell (width : Nat) : String := Console.print width "\n👋 ¡Hasta luego!"

def prompt (buffer : String) : String := s!"📝 {buffer}> "

/-- What a line means in a session. Exit words may be in capitals, and no letter but those of
ASCII has a lower-case form that occurs in them. -/
inductive Request
  | leave
  | add (symbol : String)
  | clear
  | symbols
  | evaluate (expression : String)
  | nothing
  deriving DecidableEq

/-- An empty line evaluates the buffer. -/
def request (buffer line : String) : Request :=
  let line := String.ofList (Text.trim line.toList)
  if line.toLower ∈ exitWords then .leave
  else
    match palette.lookup line with
    | some symbol => .add symbol
    | none =>
      if line = clearCommand then .clear
      else if line = symbolsCommand then .symbols
      else if line ≠ "" then .evaluate line
      else if buffer ≠ "" then .evaluate buffer
      else .nothing

def symbolLines (width : Nat) : String :=
  String.join (palette.map (fun (command, symbol) =>
    Console.print width (paletteLine command symbol)))

/-- What a line changes: the end of the session, or the buffer after it and what is shown. -/
inductive Reaction
  | leave
  | stay (buffer : String) (transcript : Transcript)
  deriving DecidableEq

def react (mode : Mode) (buffer line : String) : Except RunError Reaction :=
  match request buffer line with
  | .leave => .ok .leave
  | .add symbol => .ok (.stay (buffer ++ symbol) ⟨"", []⟩)
  | .clear => .ok (.stay "" ⟨"", []⟩)
  | .symbols => .ok (.stay buffer ⟨symbolLines mode.width, []⟩)
  | .evaluate expression => (answer mode expression).map (.stay "")
  | .nothing => .ok (.stay buffer ⟨"", []⟩)

/-- A prompt, unless it is the start of a run, and what is shown after it. -/
structure Step where
  prompt : Option String
  transcript : Transcript
  deriving DecidableEq

/-- The steps of a session over its lines; `none` is an interrupt, and the end of the lines
ends the session too. -/
def converse (mode : Mode) (buffer : String) : List (Option String) → Except RunError (List Step)
  | [] | none :: _ => .ok [⟨some (prompt buffer), ⟨farewell mode.width, []⟩⟩]
  | some line :: rest => do
    match ← react mode buffer line with
    | .leave => return [⟨some (prompt buffer), ⟨farewell mode.width, []⟩⟩]
    | .stay next transcript =>
      let steps ← converse mode next rest
      return ⟨some (prompt buffer), transcript⟩ :: steps

end Propositional.Shell
