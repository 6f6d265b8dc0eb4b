import Propositional.Interpreter
import Propositional.Text.Blank

namespace Propositional.Text

/-- A number written in digits, with single underscores between them. -/
def readDigits (digit? : Char → Option Nat) (afterDigit : Bool) (n : Nat) :
    List Char → Option Nat
  | [] => if afterDigit then some n else none
  | c :: rest =>
    if c == '_' then if afterDigit then readDigits digit? false n rest else none
    else (digit? c).bind (fun d => readDigits digit? true (n * 10 + d) rest)

/-- Underscores do not count towards the limit on digits. -/
def readUnsigned [Interpreter] (digit? : Char → Option Nat) (cs : List Char) : Option Nat :=
  if Interpreter.maxDigits.any (· < (cs.filter (· != '_')).length) then none
  else readDigits digit? false 0 cs

/-- An integer with a sign or without one, and white space around it. -/
def readInteger [Interpreter] (digit? : Char → Option Nat) (cs : List Char) : Option Int :=
  match trimSpaces cs with
  | '-' :: rest => (readUnsigned digit? rest).map (fun n => -(n : Int))
  | '+' :: rest => (readUnsigned digit? rest).map Int.ofNat
  | cs => (readUnsigned digit? cs).map Int.ofNat

def asciiDigit? (c : Char) : Option Nat := if c.isDigit then some (c.toNat - '0'.toNat) else none

end Propositional.Text
