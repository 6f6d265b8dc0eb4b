import Propositional.Json.Value
import Propositional.Text.Numeral

namespace Propositional.Json
open Text (CodePoint Points)

/-- How many digits an integer may have, and how many it has. -/
structure Excess where
  limit : Nat
  digits : Nat
  deriving DecidableEq

/-- What can be wrong with a JSON text. -/
inductive Fault
  | byteOrderMark
  | valueExpected
  | nameExpected
  | colonExpected
  | commaExpected
  | extraData
  | unterminatedString
  | controlCharacter
  | badEscape
  | badUnicodeEscape
  | loneSurrogate
  | longInteger (excess : Excess)
  | nestedTooDeeply
  deriving DecidableEq

/-- A fault, and what is left of the text where it lies. -/
structure Stop where
  fault : Fault
  rest : List Char
  deriving DecidableEq

/-- What a reader puts up with: how many containers may be open at once, how many digits an
integer may have, if there is a limit, and whether the limit holds before a fraction too. -/
structure Tolerance where
  depth : Nat
  digits : Option Nat
  isStrict : Bool
  deriving DecidableEq

namespace Tolerance

/-- The reader that comes with the interpreter, taken at its documented word: containers may be
open as far as calls may be nested, an integer has digits up to the limit on conversions, its sign
not counted, and a surrogate that stands alone is kept. -/
def lenient [Interpreter] : Tolerance :=
  ⟨Interpreter.maxContainers, Interpreter.maxDigits, false⟩

/-- The reader of the library that checks tables, taken at its documented word too: it has limits
of its own, whatever the interpreter's are. At most 200 containers may be open, no more than
4300 digits may stand in an integer or before a fraction, their sign not counted, and a surrogate
that stands alone is a fault. -/
def strict : Tolerance := ⟨200, some Text.maxDigits, true⟩

/-- Inside one more container. -/
def inside (t : Tolerance) : Tolerance := { t with depth := t.depth - 1 }

/-- The limit on the digits of an integer that so many places go beyond. -/
def exceeded? (t : Tolerance) (places : Nat) : Option Nat := t.digits.filter (· < places)

end Tolerance

def skipBlanks (cs : List Char) : List Char :=
  cs.dropWhile (fun c => c == ' ' || c == '\t' || c == '\n' || c == '\r')

def hexValue? (c : Char) : Option Nat :=
  if '0' ≤ c && c ≤ '9' then some (c.toNat - '0'.toNat)
  else if 'a' ≤ c && c ≤ 'f' then some (c.toNat - 'a'.toNat + 10)
  else if 'A' ≤ c && c ≤ 'F' then some (c.toNat - 'A'.toNat + 10)
  else none

/-- The code unit written with four hexadecimal digits. -/
def codeUnit? (a b c d : Char) : Option Nat := do
  return (((← hexValue? a) * 16 + (← hexValue? b)) * 16 + (← hexValue? c)) * 16 + (← hexValue? d)

/-- The escapes of one character. -/
def escaped? : Char → Option Char
  | '"' => some '"'
  | '\\' => some '\\'
  | '/' => some '/'
  | 'b' => some '\x08'
  | 'f' => some '\x0c'
  | 'n' => some '\n'
  | 'r' => some '\r'
  | 't' => some '\t'
  | _ => none

/-- A surrogate that stands alone is no character. -/
def unitPoint? (t : Tolerance) (unit : Nat) : Option CodePoint :=
  if unit.isValidChar then some (.char (Char.ofNat unit))
  else if t.isStrict then none
  else some (.half unit)

def isHighSurrogate (unit : Nat) : Bool := 0xd800 ≤ unit && unit < 0xdc00
def isLowSurrogate (unit : Nat) : Bool := 0xdc00 ≤ unit && unit < 0xe000

def surrogatePair (high low : Nat) : Char :=
  Char.ofNat (0x10000 + (high - 0xd800) * 0x400 + (low - 0xdc00))

/-- Puts one more code point in front of what is read after it. -/
def consPoint (p : CodePoint) (read : Except Stop (Points × List Char)) :
    Except Stop (Points × List Char) :=
  read.map (fun (ps, rest) => (p :: ps, rest))

/-- What a code unit stands for, and how much of the text after its four digits belongs to it: a
high surrogate takes the escape of a low one along. -/
def unicodePoint (t : Tolerance) (unit : Nat) (after : List Char) :
    Except Stop (CodePoint × Nat) :=
  let alone : Except Stop (CodePoint × Nat) :=
    match unitPoint? t unit with
    | some p => .ok (p, 0)
    | none => .error ⟨.loneSurrogate, after⟩
  match isHighSurrogate unit, after with
  | true, '\\' :: 'u' :: a :: b :: c :: d :: _ :: _ =>
    match codeUnit? a b c d with
    | none => .error ⟨.badUnicodeEscape, after.drop 1⟩
    | some low => if isLowSurrogate low then .ok (.char (surrogatePair unit low), 6) else alone
  | _, _ => alone

/-- The code points up to the closing quote; `start` is the text from the opening quote on. A
code unit cannot be the last thing in the text. -/
def stringBody (t : Tolerance) (start : List Char) : List Char → Except Stop (Points × List Char)
  | [] => .error ⟨.unterminatedString, start⟩
  | c :: rest =>
    if c = '"' then .ok ([], rest)
    else if c.toNat < 0x20 then .error ⟨.controlCharacter, c :: rest⟩
    else if c ≠ '\\' then consPoint (.char c) (stringBody t start rest)
    else
      match rest with
      | [] => .error ⟨.unterminatedString, start⟩
      | 'u' :: a :: b :: c :: d :: next :: rest =>
        match codeUnit? a b c d with
        | none => .error ⟨.badUnicodeEscape, 'u' :: a :: b :: c :: d :: next :: rest⟩
        | some unit =>
          match unicodePoint t unit (next :: rest) with
          | .error stop => .error stop
          | .ok (p, taken) => consPoint p (stringBody t start ((next :: rest).drop taken))
      | 'u' :: rest => .error ⟨.badUnicodeEscape, 'u' :: rest⟩
      | e :: rest =>
        match escaped? e with
        | some c => consPoint (.char c) (stringBody t start rest)
        | none => .error ⟨.badEscape, '\\' :: e :: rest⟩
termination_by cs => cs.length
decreasing_by all_goals simp only [List.length_cons, List.length_drop]; omega

def isDigit (c : Char) : Bool := '0' ≤ c && c ≤ '9'

def digitsValue (digits : List Char) : Nat :=
  digits.foldl (fun n c => n * 10 + (c.toNat - '0'.toNat)) 0

/-- Whether a number is negative, and what stands behind its sign. -/
def minus : List Char → Bool × List Char
  | '-' :: rest => (true, rest)
  | cs => (false, cs)

/-- The digits before a point. No digit follows a zero at their start. -/
def wholePart : List Char → List Char × List Char
  | '0' :: rest => (['0'], rest)
  | cs => cs.span isDigit

/-- The digits after a point, if there are any. -/
def fraction : List Char → List Char × List Char
  | '.' :: rest =>
    match rest.span isDigit with
    | ([], _) => ([], '.' :: rest)
    | found => found
  | cs => ([], cs)

/-- The signed power of ten after the letter `e`, if there is one. -/
def exponent (cs : List Char) : Option Int × List Char :=
  match cs with
  | e :: rest =>
    if e ≠ 'e' ∧ e ≠ 'E' then (none, cs)
    else
      let (negative, digits) : Bool × List Char :=
        match rest with
        | '-' :: rest => (true, rest)
        | '+' :: rest => (false, rest)
        | _ => (false, rest)
      match digits.span isDigit with
      | ([], _) => (none, cs)
      | (ds, rest) => (some (if negative then -(digitsValue ds : Int) else digitsValue ds), rest)
  | [] => (none, cs)

/-- A number is an integer if it has neither a fraction nor a power of ten. -/
def number (t : Tolerance) (cs : List Char) : Except Stop (Value Points × List Char) :=
  let (negative, body) := minus cs
  let (whole, rest) := wholePart body
  if whole.isEmpty then .error ⟨.valueExpected, cs⟩
  else
    let (digits, rest) := fraction rest
    let (power, rest) := exponent rest
    let isInteger := digits.isEmpty && power.isNone
    match isInteger || t.isStrict, t.exceeded? whole.length with
    | true, some limit => .error ⟨.longInteger ⟨limit, whole.length⟩, cs⟩
    | _, _ =>
      if isInteger then
        let n : Int := digitsValue whole
        .ok (.int (if negative then -n else n), rest)
      else
        .ok (.float (Binary64.ofDecimal negative (digitsValue (whole ++ digits))
          (power.getD 0 - digits.length)), rest)

/-- The words that stand for a value. -/
def words : List (String × Value Points) := [
  ("null", .null), ("true", .bool true), ("false", .bool false), ("NaN", .float .nan),
  ("Infinity", .float (.infinite false)), ("-Infinity", .float (.infinite true))]

/-- A word or a number. -/
def scalar (t : Tolerance) (cs : List Char) : Except Stop (Value Points × List Char) :=
  match words.find? (fun entry => entry.1.toList.isPrefixOf cs) with
  | some (word, v) => .ok (v, cs.drop word.length)
  | none => number t cs

mutual

/-- The value at the start of a text. Each step takes a character, so that the fuel lasts if it
exceeds twice the length of the text. -/
def value (t : Tolerance) : Nat → List Char → Except Stop (Value Points × List Char)
  | 0, cs => .error ⟨.valueExpected, cs⟩
  | fuel + 1, cs =>
    match cs with
    | '"' :: rest => do
      let (s, rest) ← stringBody t cs rest
      return (.text s, rest)
    | '[' :: rest =>
      match skipBlanks rest with
      | ']' :: rest => .ok (.list [], rest)
      | rest =>
        if t.depth = 0 then .error ⟨.nestedTooDeeply, cs⟩
        else do
          let (items, rest) ← elements t.inside fuel rest
          return (.list items, rest)
    | '{' :: rest =>
      match skipBlanks rest with
      | '}' :: rest => .ok (.object [], rest)
      | rest =>
        if t.depth = 0 then .error ⟨.nestedTooDeeply, cs⟩
        else do
          let (fields, rest) ← members t.inside fuel rest
          return (Value.ofFields fields, rest)
    | _ => scalar t cs

/-- The values of a list up to its closing bracket. -/
def elements (t : Tolerance) : Nat → List Char → Except Stop (List (Value Points) × List Char)
  | 0, cs => .error ⟨.valueExpected, cs⟩
  | fuel + 1, cs => do
    let (v, rest) ← value t fuel cs
    match skipBlanks rest with
    | ']' :: rest => return ([v], rest)
    | ',' :: rest =>
      let (items, rest) ← elements t fuel (skipBlanks rest)
      return (v :: items, rest)
    | rest => .error ⟨.commaExpected, rest⟩

/-- The fields of an object up to its closing brace. -/
def members (t : Tolerance) :
    Nat → List Char → Except Stop (List (Points × Value Points) × List Char)
  | 0, cs => .error ⟨.nameExpected, cs⟩
  | fuel + 1, cs =>
    match cs with
    | '"' :: rest => do
      let (name, rest) ← stringBody t cs rest
      match skipBlanks rest with
      | ':' :: rest =>
        let (v, rest) ← value t fuel (skipBlanks rest)
        match skipBlanks rest with
        | '}' :: rest => return ([(name, v)], rest)
        | ',' :: rest =>
          let (fields, rest) ← members t fuel (skipBlanks rest)
          return ((name, v) :: fields, rest)
        | rest => .error ⟨.commaExpected, rest⟩
      | rest => .error ⟨.colonExpected, rest⟩
    | _ => .error ⟨.nameExpected, cs⟩

end

/-- A text that holds one value and blanks around it. -/
def document (t : Tolerance) (cs : List Char) : Except Stop (Value Points) := do
  if cs.head? = some '\ufeff' then throw ⟨.byteOrderMark, cs⟩
  let (v, rest) ← value t (2 * cs.length + 2) (skipBlanks cs)
  match skipBlanks rest with
  | [] => return v
  | rest => throw ⟨.extraData, rest⟩

/-- A fault, and the text before it. -/
structure ReadError where
  fault : Fault
  before : List Char
  deriving DecidableEq

/-- The value of a text, in which surrogates may stand alone. -/
def parse (t : Tolerance) (text : String) : Except ReadError (Value Points) :=
  let cs := text.toList
  (document t cs).mapError (fun stop => ⟨stop.fault, cs.take (cs.length - stop.rest.length)⟩)

/-- The value of a text for those who take no halves. -/
def read (t : Tolerance) (text : String) : Except ReadError Value := do
  match (← parse t text).plain? with
  | some v => return v
  | none => throw ⟨.loneSurrogate, text.toList⟩

def Fault.message : Fault → String
  | .byteOrderMark => "Unexpected UTF-8 BOM (decode using utf-8-sig)"
  | .valueExpected => "Expecting value"
  | .nameExpected => "Expecting property name enclosed in double quotes"
  | .colonExpected => "Expecting ':' delimiter"
  | .commaExpected => "Expecting ',' delimiter"
  | .extraData => "Extra data"
  | .unterminatedString => "Unterminated string starting at"
  | .controlCharacter => "Invalid control character at"
  | .badEscape => "Invalid \\escape"
  | .badUnicodeEscape => "Invalid \\uXXXX escape"
  | .loneSurrogate => "Lone surrogate"
  | .nestedTooDeeply => "maximum recursion depth exceeded"
  | .longInteger excess =>
    s!"Exceeds the limit ({excess.limit} digits) for integer string conversion: value has " ++
      s!"{excess.digits} digits; use sys.set_int_max_str_digits() to increase the limit"

/-- Lines and columns are counted from one. What goes beyond a limit is reported without its
place. -/
def ReadError.message (e : ReadError) : String :=
  match e.fault with
  | .longInteger _ | .nestedTooDeeply => e.fault.message
  | _ =>
    let line := e.before.count '\n' + 1
    let column := (e.before.reverse.takeWhile (· != '\n')).length + 1
    s!"{e.fault.message}: line {line} column {column} (char {e.before.length})"

end Propositional.Json
