import Propositional.Text.Integer

namespace Propositional.Text

/-- The longest numeral that is read. -/
def maxDigits : Nat := 4300

/-- Why a text is no numeral. -/
inductive NumeralFault
  | malformed
  | tooLong
  deriving DecidableEq

/-- The digits that begin a text; a zero stands alone. -/
def leadingDigits (cs : List Char) : List Char :=
  match cs with
  | '0' :: rest => if rest.head?.any Char.isDigit then [] else ['0']
  | _ => cs.takeWhile Char.isDigit

/-- An integer without needless zeros, behind a minus sign or none. What is too long is not
looked at further. -/
def readNumeral (cs : List Char) : Except NumeralFault Int :=
  let (negative, body) : Bool × List Char :=
    match cs with
    | '-' :: rest => (true, rest)
    | _ => (false, cs)
  let digits := leadingDigits body
  if digits.isEmpty then .error .malformed
  else if maxDigits < digits.length then .error .tooLong
  else if digits.length < body.length then .error .malformed
  else
    match readDigits asciiDigit? false 0 digits with
    | some n => .ok (if negative then -(n : Int) else n)
    | none => .error .malformed

/-- What stands behind the zeros and underscores that follow a zero; `last` is the character
before. If nothing stands there, the last of them is kept. -/
def behindZeros (last : Char) : List Char → Option (List Char)
  | [] => some [last]
  | c :: rest =>
    if c == '0' || c == '_' then behindZeros c rest
    else if c.isDigit || c == '-' then some (c :: rest)
    else if c == '.' then some (last :: c :: rest)
    else none

/-- Drops needless zeros. -/
def dropZeros : List Char → Option (List Char)
  | [] => none
  | c :: rest =>
    if c == '0' then behindZeros c rest
    else if c.isDigit || c == '-' then some (c :: rest)
    else none

/-- A plus sign goes, unless a minus sign follows it. -/
def dropPlus : List Char → Option (List Char)
  | '+' :: '-' :: _ => none
  | '+' :: rest => some rest
  | cs => some cs

/-- A point with zeros and nothing else behind it goes. -/
def dropZeroFraction (cs : List Char) : List Char :=
  match cs.span (· != '.') with
  | (whole, '.' :: zeros) => if !zeros.isEmpty && zeros.all (· == '0') then whole else cs
  | _ => cs

def hasDoubleUnderscore : List Char → Bool
  | '_' :: '_' :: _ => true
  | _ :: rest => hasDoubleUnderscore rest
  | [] => false

/-- Underscores go where each stands alone inside. -/
def dropUnderscores (cs : List Char) : List Char :=
  if cs.head? = some '_' ∨ cs.getLast? = some '_' ∨ hasDoubleUnderscore cs then cs
  else cs.filter (· != '_')

/-- An integer as people write it: in white space, with a plus sign, needless zeros, single
underscores, or a fraction of zeros. -/
def readLooseNumeral (cs : List Char) : Except NumeralFault Int :=
  match readNumeral cs with
  | .ok n => .ok n
  | .error .tooLong => .error .tooLong
  | .error .malformed =>
    match (dropPlus (trimSpaces cs)).bind dropZeros with
    | some cs => readNumeral (dropUnderscores (dropZeroFraction cs))
    | none => .error .malformed

end Propositional.Text
