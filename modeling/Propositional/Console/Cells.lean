import Propositional.Console.Library
import Propositional.Text.Blank

namespace Propositional.Console
open Text

/-- Bell, backspace, vertical tab, form feed and carriage return never reach the terminal. -/
def isDropped (c : Char) : Bool := [7, 8, 11, 12, 13].contains c.toNat

def sanitize (cs : List Char) : List Char := cs.filter (!isDropped ·)

def sanitizeText (text : String) : String := String.ofList (sanitize text.toList)

def blanks (n : Nat) : List Char := List.replicate n ' '

/-- The graphemes that fit into some cells. A space stands for the half of a wide one. -/
def takeCells : Nat → List Grapheme → List Char
  | _, [] => []
  | cells, g :: rest =>
    if g.cells ≤ cells then g.chars ++ takeCells (cells - g.cells) rest else blanks cells

def cut (cells : Nat) (line : List Char) : List Char :=
  if cells = 0 then [] else takeCells cells (graphemes line)

/-- What to do with a line that is too long: break words, or end it with an ellipsis. -/
inductive Overflow
  | fold
  | ellipsis
  deriving DecidableEq

inductive Justify
  | unset
  | left
  | center
  deriving DecidableEq

def truncate (overflow : Overflow) (cells : Nat) (line : List Char) : List Char :=
  if width line ≤ cells then line
  else
    match overflow with
    | .fold => cut cells line
    | .ellipsis => cut (cells - 1) line ++ ['…']

/-- A line that is too long has to be cut, which can fail. -/
def Overflow.fault? [Library] (overflow : Overflow) (cells : Nat) (line : List Char) :
    Option CutFault :=
  if width line ≤ cells then none
  else
    match overflow with
    | .fold => Library.cutFault? cells line
    | .ellipsis => Library.cutFault? (cells - 1) line

def padRight (cells : Nat) (line : List Char) : List Char :=
  line ++ blanks (cells - width line)

/-- Fills a line up to a width. -/
def justify (how : Justify) (overflow : Overflow) (cells : Nat) (line : List Char) :
    List Char :=
  match how with
  | .unset => truncate overflow cells line
  | .left => padRight cells (truncate overflow cells line)
  | .center =>
    let line := truncate overflow cells (trimEnd line)
    padRight cells (blanks ((cells - width line) / 2) ++ line)

end Propositional.Console
