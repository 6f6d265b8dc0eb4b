import Propositional.Text.CellWidth

namespace Propositional.Text

/-- Characters that are shown together, and the cells that they take. -/
structure Grapheme where
  chars : List Char
  cells : Nat
  deriving DecidableEq

namespace Grapheme

def single (c : Char) (cells : Nat) : Grapheme := ⟨[c], cells⟩

def append (g : Grapheme) (cs : List Char) : Grapheme := { g with chars := g.chars ++ cs }

def widen (g : Grapheme) : Grapheme := { g with cells := g.cells + 1 }

/-- The graphemes from one on that is still growing, behind the last character that had a width.
A joiner draws itself and the character after it in, a pictograph selector and whatever else has
no width itself alone. -/
def grow (g : Grapheme) (last : Option Char) : List Char → List Grapheme
  | [] => [g]
  | c :: rest =>
    if c == joiner then
      match rest with
      | [] => [g.append [c]]
      | d :: rest => grow (g.append [c, d]) last rest
    else if c == pictographSelector then
      if last.any pictographs.contains then grow (g.append [c]).widen none rest
      else grow (g.append [c]) last rest
    else if charWidth c = 0 then grow (g.append [c]) last rest
    else g :: grow (single c (charWidth c)) (some c) rest

end Grapheme

/-- The graphemes of a text. A joiner has nothing to join at the start. -/
def graphemes : List Char → List Grapheme
  | [] => []
  | c :: rest =>
    let w := charWidth c
    Grapheme.grow (.single c w) (if w = 0 then none else some c) rest

def totalCells (gs : List Grapheme) : Nat := gs.foldr (fun g total => g.cells + total) 0

end Propositional.Text
