namespace Propositional.Text

/-- The characters whose code points lie between two bounds, both included. -/
structure CharRange where
  first : Nat
  last : Nat

def CharRange.contains (range : CharRange) (c : Char) : Bool :=
  range.first ≤ c.toNat && c.toNat ≤ range.last

/-- A class of characters is a list of ranges in increasing order. -/
abbrev CharClass := List CharRange

def CharClass.contains (ranges : CharClass) (c : Char) : Bool :=
  ranges.any (·.contains c)

end Propositional.Text
