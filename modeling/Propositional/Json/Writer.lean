import Propositional.Json.Value

namespace Propositional.Json

/-- Quotes, backslashes and controls are escaped, all else stands for itself. -/
def encodeChar (c : Char) : List Char :=
  match c with
  | '"' => ['\\', '"']
  | '\\' => ['\\', '\\']
  | '\n' => ['\\', 'n']
  | '\r' => ['\\', 'r']
  | '\t' => ['\\', 't']
  | '\x08' => ['\\', 'b']
  | '\x0c' => ['\\', 'f']
  | _ => if c.toNat < 0x20 then '\\' :: 'u' :: Text.hex 4 c.toNat else [c]

def encodeText (s : String) : List Char := '"' :: s.toList.flatMap encodeChar ++ ['"']

/-- All on one line without blanks, or each item on a line of its own behind two spaces for
each container around it. -/
inductive Layout
  | compact
  | indented (depth : Nat)

namespace Layout

def deeper : Layout → Layout
  | .compact => .compact
  | .indented depth => .indented (depth + 1)

def lineBreak : Layout → List Char
  | .compact => []
  | .indented depth => '\n' :: List.replicate (2 * depth) ' '

def colon : Layout → List Char
  | .compact => [':']
  | .indented _ => [':', ' ']

/-- The parts between two brackets; an empty container is two brackets and no more. -/
def bracket (layout : Layout) (left right : Char) : List (List Char) → List Char
  | [] => [left, right]
  | first :: rest =>
    let inner := layout.deeper.lineBreak
    left :: inner ++ first ++ rest.flatMap (fun part => ',' :: inner ++ part) ++
      layout.lineBreak ++ [right]

end Layout

namespace Value

def scalarChars : Value → List Char
  | .null => "null".toList
  | .bool b => (if b then "true" else "false").toList
  | .int n => (toString n).toList
  | .float .nan => "NaN".toList
  | .float (.infinite negative) => (if negative then "-Infinity" else "Infinity").toList
  | .float x => x.text.toList
  | .text s => encodeText s
  | .list _ | .object _ => []

mutual

def chars (layout : Layout) : Value → List Char
  | .list items => layout.bracket '[' ']' (itemChars layout.deeper items)
  | .object fields => layout.bracket '{' '}' (fieldChars layout.deeper fields)
  | v => scalarChars v

def itemChars (layout : Layout) : List Value → List (List Char)
  | [] => []
  | v :: rest => v.chars layout :: itemChars layout rest

def fieldChars (layout : Layout) : List (String × Value) → List (List Char)
  | [] => []
  | (name, v) :: rest =>
    (encodeText name ++ layout.colon ++ v.chars layout) :: fieldChars layout rest

end

def compact (v : Value) : String := String.ofList (v.chars .compact)

def indented (v : Value) : String := String.ofList (v.chars (.indented 0))

end Value

end Propositional.Json
