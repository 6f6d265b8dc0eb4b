import Propositional.Console.Cells

namespace Propositional.Console
open Text

/-- The parts of a text between its separators; a separator at the end is followed by an empty
part. -/
def partsBetween (separator : Char) : List Char → List (List Char)
  | [] => [[]]
  | c :: rest =>
    if c == separator then [] :: partsBetween separator rest
    else
      match partsBetween separator rest with
      | [] => [[c]]
      | part :: parts => (c :: part) :: parts

def splitLines (cs : List Char) : List (List Char) := partsBetween '\n' cs

/-- Joins parts by blanks that reach to the next multiple of eight cells. -/
def joinTabbed (column : Nat) : List (List Char) → List Char
  | [] => []
  | [part] => part
  | part :: rest =>
    let part := part ++ [' ']
    let reached := column + width part
    let gap := (8 - reached % 8) % 8
    part ++ blanks gap ++ joinTabbed (reached + gap) rest

/-- A tab takes a cell at least. -/
def expandTabs (line : List Char) : List Char := joinTabbed 0 (partsBetween '\t' line)

/-- A word takes the blanks before it and behind it along, as far as no word before it has
taken them. Blanks alone are no word. Each word takes a character, so that the length of the
text is enough fuel. -/
def words : Nat → List Char → List (List Char)
  | 0, _ => []
  | fuel + 1, cs =>
    let (before, rest) := cs.span isBlank
    let (word, rest) := rest.span (!isBlank ·)
    let (behind, rest) := rest.span isBlank
    if word.isEmpty then [] else (before ++ word ++ behind) :: words fuel rest

/-- The piece being cut off, the cells that it takes, and what is still to cut. -/
def chopGraphemes (cells : Nat) (piece : List Char) (used : Nat) :
    List Grapheme → List (List Char)
  | [] => if used = 0 then [] else [piece]
  | g :: rest =>
    if cells < used + g.cells then piece :: chopGraphemes cells g.chars g.cells rest
    else chopGraphemes cells (piece ++ g.chars) (used + g.cells) rest

/-- Pieces of a word that fit into a width, and none of a word that takes no cell. A grapheme
wider than that is a piece of its own, and an empty one stands before it if it is the first. -/
def chop (cells : Nat) (word : List Char) : List (List Char) :=
  chopGraphemes cells [] 0 (graphemes word)

/-- The lines filled so far, the line being filled, and the cells used on it. -/
structure Filling where
  lines : List (List Char)
  line : List Char
  used : Nat

namespace Filling

/-- Begins a new line, unless nothing has been written yet. -/
def breakLine (f : Filling) : Filling :=
  if f.lines.isEmpty && f.line.isEmpty then f else ⟨f.lines ++ [f.line], [], 0⟩

def append (f : Filling) (word : List Char) : Filling :=
  ⟨f.lines, f.line ++ word, f.used + width word⟩

/-- Blanks behind a word may stick out of the line. A word wider than the line is broken into
pieces or, if words are not to be broken, stands on a line of its own. -/
def addWord (overflow : Overflow) (cells : Nat) (f : Filling) (word : List Char) : Filling :=
  let needed := width (trimEnd word)
  if f.used + needed ≤ cells then f.append word
  else if cells < needed && overflow == .fold then
    match chop cells word with
    | [] => { f with line := f.line ++ word }
    | pieces => pieces.foldl (fun f piece => { f.breakLine with used := 0 }.append piece) f
  else { f.breakLine with used := 0 }.append word

end Filling

/-- Drops blanks at the end of a line as far as it is too long. -/
def dropExcess (cells : Nat) (line : List Char) : List Char :=
  let trailing := line.length - (trimEnd line).length
  line.take (line.length - min trailing (line.length - cells))

/-- The lines of one paragraph at a width. -/
def fill (overflow : Overflow) (cells : Nat) (line : List Char) : List (List Char) :=
  match words line.length line with
  | [] => [line]
  | ws =>
    let f := ws.foldl (Filling.addWord overflow cells) ⟨[], [], 0⟩
    f.lines ++ [f.line]

/-- The lines of a text before they are filled up. -/
def layOut (overflow : Overflow) (cells : Nat) (cs : List Char) : List (List Char) :=
  (splitLines (sanitize cs)).flatMap (fun line =>
    (fill overflow cells (expandTabs line)).map (dropExcess cells))

/-- Lays a text out at a width. -/
def wrap (how : Justify) (overflow : Overflow) (cells : Nat) (cs : List Char) :
    List (List Char) :=
  (layOut overflow cells cs).map (justify how overflow cells)

/-- Why a text cannot be laid out. -/
def wrapFault? [Library] (how : Justify) (overflow : Overflow) (cells : Nat) (cs : List Char) :
    Option CutFault :=
  (layOut overflow cells cs).findSome? (fun line =>
    overflow.fault? cells (if how = .center then trimEnd line else line))

end Propositional.Console
