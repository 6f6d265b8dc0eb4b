import Propositional.Text.Quoted

namespace Propositional.Text

/-- What an escape of a JSON text stands for: a character, or one half of a surrogate pair that
stands alone and is no character. -/
inductive CodePoint
  | char (c : Char)
  | half (unit : Nat)
  deriving DecidableEq

namespace CodePoint

def char? : CodePoint → Option Char
  | .char c => some c
  | .half _ => none

def half? : CodePoint → Option Nat
  | .char _ => none
  | .half unit => some unit

/-- A half takes the place of one character, whichever that is. -/
def standIn : CodePoint → Char
  | .char c => c
  | .half _ => '\ufffd'

/-- One code point between the given marks. No half can be seen. -/
def quote (mark : Char) : CodePoint → List Char
  | .char c => quoteChar mark c
  | .half unit => '\\' :: 'u' :: hex 4 unit

end CodePoint

/-- A text with halves. -/
abbrev Points := List CodePoint

/-- A text has no halves. -/
def points (text : String) : Points := text.toList.map .char

namespace Points

/-- The text, if there are no halves in it. -/
def text? (ps : Points) : Option String := (ps.mapM CodePoint.char?).map String.ofList

/-- The first half, which has no encoding. -/
def half? (ps : Points) : Option Nat := ps.findSome? CodePoint.half?

def standIn (ps : Points) : String := String.ofList (ps.map CodePoint.standIn)

def quote (ps : Points) : String :=
  let mark := quoteMark (ps.filterMap CodePoint.char?)
  String.ofList (mark :: ps.flatMap (CodePoint.quote mark) ++ [mark])

end Points

end Propositional.Text
