import Propositional.Console.Markup
import Propositional.Console.Wrap

namespace Propositional.Console

/-- Why a text cannot be shown. -/
inductive PrintError
  | markup (e : MarkupError)
  | cut (e : CutFault)
  deriving DecidableEq

def PrintError.message : PrintError → String
  | .markup e => e.message
  | .cut e => e.message

/-- Every line ends with a line break. -/
def unlines (lines : List (List Char)) : String :=
  String.ofList (lines.flatMap (· ++ ['\n']))

/-- A text as it stands, laid out for a terminal of a width. Without any width nothing is shown,
not even the end of a line. -/
def typeset (cells : Nat) (text : List Char) : String :=
  if cells = 0 then "" else unlines (wrap .unset .fold cells text)

/-- A text that may have lines that cannot be cut. -/
def typeset? [Library] (cells : Nat) (text : List Char) : Except PrintError String :=
  if cells = 0 then .ok ""
  else
    match wrapFault? .unset .fold cells text with
    | some fault => .error (.cut fault)
    | none => .ok (typeset cells text)

/-- A text as a terminal shows it. -/
def print [Library] (cells : Nat) (text : String) : String := typeset cells (pictures text.toList)

def print? [Library] (cells : Nat) (text : String) : Except PrintError String :=
  typeset? cells (pictures text.toList)

/-- Paragraphs with an empty line between them, whose lines are filled up to the width. They are
taken as they stand. -/
def printParagraphs (cells : Nat) (texts : List String) : String :=
  if cells = 0 then ""
  else "\n".intercalate (texts.map (fun text => unlines (wrap .left .fold cells text.toList)))

/-- What a markup shows. -/
def printMarkup [Library] (cells : Nat) (markup : String) : Except PrintError String := do
  let text ← (Markup.render markup).mapError .markup
  typeset? cells text.toList

end Propositional.Console
