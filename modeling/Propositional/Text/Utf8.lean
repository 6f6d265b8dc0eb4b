import Propositional.Text.Quoted

namespace Propositional.Text

inductive Utf8Fault
  | invalidStart
  | invalidContinuation
  | unexpectedEnd
  deriving DecidableEq

def Utf8Fault.text : Utf8Fault → String
  | .invalidStart => "invalid start byte"
  | .invalidContinuation => "invalid continuation byte"
  | .unexpectedEnd => "unexpected end of data"

/-- The bytes that make no character: the first of them, its position, and their number. -/
structure Utf8Error where
  fault : Utf8Fault
  byte : UInt8
  position : Nat
  length : Nat
  deriving DecidableEq

def Utf8Error.message (e : Utf8Error) : String :=
  if e.length = 1 then
    s!"'utf-8' codec can't decode byte 0x{String.ofList (hex 2 e.byte.toNat)} in position " ++
      s!"{e.position}: {e.fault.text}"
  else
    s!"'utf-8' codec can't decode bytes in position {e.position}-{e.position + e.length - 1}: " ++
      e.fault.text

/-- The number of bytes that a first byte announces, and the least and greatest second byte;
overlong forms, surrogates and what lies beyond the last code point are excluded. -/
def sequenceShape (first : Nat) : Option (Nat × Nat × Nat) :=
  if first < 0x80 then some (1, 0, 0)
  else if first < 0xc2 then none
  else if first < 0xe0 then some (2, 0x80, 0xbf)
  else if first < 0xf0 then
    some (3, if first = 0xe0 then 0xa0 else 0x80, if first = 0xed then 0x9f else 0xbf)
  else if first < 0xf5 then
    some (4, if first = 0xf0 then 0x90 else 0x80, if first = 0xf4 then 0x8f else 0xbf)
  else none

/-- How many of the bytes after the first continue it. -/
def continuations (needed low high : Nat) : List UInt8 → Nat
  | [] => 0
  | b :: rest =>
    if needed = 0 ∨ b.toNat < low ∨ high < b.toNat then 0
    else continuations (needed - 1) 0x80 0xbf rest + 1

/-- The code point of a sequence that is well formed. -/
def sequenceValue (count first : Nat) (behind : List UInt8) : Nat :=
  let lead := match count with
    | 1 => first
    | 2 => first - 0xc0
    | 3 => first - 0xe0
    | _ => first - 0xf0
  behind.foldl (fun n b => n * 64 + (b.toNat - 0x80)) lead

/-- The characters of a sequence of bytes, the first of which has a position. Each character
takes a byte, so that the number of bytes is enough fuel. -/
def decodeFrom : Nat → Nat → List UInt8 → Except Utf8Error (List Char)
  | 0, _, _ => .ok []
  | _, _, [] => .ok []
  | fuel + 1, position, b :: rest =>
    match sequenceShape b.toNat with
    | none => .error ⟨.invalidStart, b, position, 1⟩
    | some (count, low, high) =>
      let found := continuations (count - 1) low high rest
      if found + 1 = count then
        (decodeFrom fuel (position + count) (rest.drop found)).map
          (Char.ofNat (sequenceValue count b.toNat (rest.take found)) :: ·)
      else if found = rest.length then .error ⟨.unexpectedEnd, b, position, found + 1⟩
      else .error ⟨.invalidContinuation, b, position, found + 1⟩

def decodeUtf8 (bytes : List UInt8) : Except Utf8Error String :=
  (decodeFrom bytes.length 0 bytes).map String.ofList

/-- Every line break becomes a line feed. -/
def unifyLineBreaks : List Char → List Char
  | '\r' :: '\n' :: rest => '\n' :: unifyLineBreaks rest
  | '\r' :: rest => '\n' :: unifyLineBreaks rest
  | c :: rest => c :: unifyLineBreaks rest
  | [] => []

end Propositional.Text
