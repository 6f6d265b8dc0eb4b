import Propositional.Text.Grapheme

namespace Propositional.Console
open Text

/-- Why a line cannot be cut. -/
inductive CutFault
  | noCells
  | tooFewCells
  deriving DecidableEq

def CutFault.message : CutFault → String
  | .noCells => "division by zero"
  | .tooFewCells => "list index out of range"

/-- The part of the library behind a console that differs from one release to the next: which
pictures it knows by a name, and which lines it fails to cut after some cells. No picture has a
colon, and a line without joiners can be cut anywhere. -/
class Library where
  picture? : String → Option String
  cutFault? : Nat → List Char → Option CutFault
  picture_plain : ∀ name, ∀ picture ∈ picture? name, ':' ∉ picture.toList
  cut_free : ∀ cells line, joiner ∉ line → cutFault? cells line = none

namespace Library

/-- Joiners at the start of a line can make its graphemes narrower than the line. Such a line
cannot be cut where they take no cell at all, or end too early. -/
def narrowFault? (cells : Nat) (line : List Char) : Option CutFault :=
  let total := totalCells (graphemes line)
  if line.head? ≠ some joiner ∨ cells = 0 then none
  else if total = 0 then some .noCells
  else if total < cells then some .tooFewCells
  else none

/-- A library that counts graphemes and has no pictures. -/
instance (priority := low) standard : Library where
  picture? _ := none
  cutFault? := narrowFault?
  picture_plain _ _ h := nomatch h
  cut_free _ _ h := if_pos (.inl (fun hhead => h (List.mem_of_head? hhead)))

end Library

end Propositional.Console
