import Propositional.Text.Printable

namespace Propositional.Text

/-- The lower-case hexadecimal digits of a number, filled up with zeros on the left. -/
def hex (digits n : Nat) : List Char :=
  let ds := Nat.toDigits 16 n
  List.replicate (digits - ds.length) '0' ++ ds

/-- Double quotes surround a text that holds an apostrophe and no double quote, apostrophes
all others. -/
def quoteMark (cs : List Char) : Char :=
  if cs.contains '\'' && !cs.contains '"' then '"' else '\''

/-- One character between the given marks. -/
def quoteChar (mark c : Char) : List Char :=
  if c == mark || c == '\\' then ['\\', c]
  else if c == '\n' then ['\\', 'n']
  else if c == '\r' then ['\\', 'r']
  else if c == '\t' then ['\\', 't']
  else if isPrintable c then [c]
  else if c.toNat < 0x100 then '\\' :: 'x' :: hex 2 c.toNat
  else if c.toNat < 0x10000 then '\\' :: 'u' :: hex 4 c.toNat
  else '\\' :: 'U' :: hex 8 c.toNat

/-- A text on one line between quotes, with escapes for what cannot be seen. -/
def quote (text : String) : String :=
  let cs := text.toList
  let mark := quoteMark cs
  String.ofList (mark :: cs.flatMap (quoteChar mark) ++ [mark])

end Propositional.Text
