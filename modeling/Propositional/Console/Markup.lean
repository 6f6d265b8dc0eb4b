import Propositional.Console.Cells
import Propositional.Console.Literal.Grammar
import Propositional.Console.Pictures
import Propositional.Console.Style

namespace Propositional.Console
open Text

/-- A closing tag without an open tag, or with none of its name, and the number of characters
before it; an action with parameters that cannot be read, which are given as they are read and as
they are written; or a style with a fault of its own. -/
inductive MarkupError
  | nothingToClose (position : Nat)
  | notOpen (tag : String) (position : Nat)
  | badParameters (parameters written : String) (fault : Literal.Fault)
  | nullInParameters (written : String)
  | emptyComponent
  deriving DecidableEq

def MarkupError.message : MarkupError → String
  | .nothingToClose position => s!"closing tag '[/]' at position {position} has nothing to close"
  | .notOpen tag position =>
    s!"closing tag '{tag}' at position {position} doesn't match any open tag"
  | .badParameters parameters written fault =>
    s!"error parsing {quote parameters} in {quote written}; {fault.message}"
  | .nullInParameters written =>
    s!"error parsing {quote written}; source code string cannot contain null bytes"
  | .emptyComponent => "invalid literal for int() with base 10: ''"

namespace Markup

/-- A tag begins with one of these. -/
def opensTag (c : Char) : Bool := ('a' ≤ c && c ≤ 'z') || c == '#' || c == '/' || c == '@'

/-- What stands between brackets at the start of a text, if it is a tag. -/
def tagAt? : List Char → Option (List Char)
  | '[' :: c :: rest =>
    let inner := rest.takeWhile (fun d => d != '[' && d != ']')
    match rest.drop inner.length with
    | ']' :: _ => if opensTag c then some (c :: inner) else none
    | _ => none
  | _ => none

inductive Piece
  | plain (cs : List Char)
  | tag (cs : List Char) (position : Nat)
  deriving DecidableEq

def leadingSlashes (cs : List Char) : Nat := (cs.takeWhile (· == '\\')).length

/-- The tags of a text and what stands between them. An odd number of backslashes makes a tag
plain text; two of them stay two otherwise halved. Each step takes a character, so that the
length of the text is enough fuel. -/
def pieces : Nat → Nat → List Char → List Char → List Piece
  | 0, _, plain, _ => [.plain plain]
  | fuel + 1, position, plain, cs =>
    match cs with
    | [] => [.plain plain]
    | c :: rest =>
      let slashes := leadingSlashes cs
      match tagAt? (cs.drop slashes) with
      | none => pieces fuel (position + 1) (plain ++ [c]) rest
      | some tag =>
        let length := slashes + tag.length + 2
        let piece : Piece :=
          if slashes % 2 == 1 then .plain ('[' :: tag ++ [']'])
          else .tag tag (position + slashes)
        .plain plain :: .plain (List.replicate (slashes / 2) '\\') :: piece ::
          pieces fuel (position + length) [] (cs.drop length)

/-- A backslash before a bracket that opens no tag is dropped. -/
def unescape : List Char → List Char
  | '\\' :: '[' :: rest => '[' :: unescape rest
  | c :: rest => c :: unescape rest
  | [] => []

/-- A tag is a name, and parameters behind an equals sign. An open one goes by the name of its
style. -/
structure OpenTag where
  name : String
  parameters : List Char
  deriving DecidableEq

def splitTag (tag : List Char) : List Char × List Char :=
  let (name, rest) := tag.span (· != '=')
  (name, rest.drop 1)

def nameOf (cs : List Char) : Except MarkupError String :=
  (styleName cs).mapError (fun _ => .emptyComponent)

/-- What the parameters of an action are read from: what stands in brackets behind a name, or all
if they have not this form. -/
def actionParameters (written : List Char) : List Char :=
  let cs := trim written
  let rest := cs.dropWhile (fun c => isWordChar c || c == '.')
  if rest.isEmpty then ['(', ')']
  else if rest.head? = some '(' ∧ rest.getLast? = some ')' ∧ !rest.contains '\n' then rest
  else cs

/-- A tag whose name begins with an at sign stands for an action. Its parameters are read when it
is closed. -/
def checkAction (tag : OpenTag) : Except MarkupError Unit :=
  if tag.name.toList.head? ≠ some '@' ∨ tag.parameters.isEmpty then .ok ()
  else
    let cs := actionParameters tag.parameters
    let written := String.ofList tag.parameters
    if cs.contains '\x00' then .error (.nullInParameters written)
    else (Literal.check cs).mapError (.badParameters (String.ofList cs) written)

/-- Removes the last style of a name that is open. -/
def close? (name : String) : List OpenTag → Option (OpenTag × List OpenTag)
  | [] => none
  | top :: rest =>
    if top.name == name then some (top, rest)
    else (close? name rest).map (fun (tag, rest) => (tag, top :: rest))

/-- The open tags after a tag, of which `opened` are those before it, the last one first. -/
def step (opened : List OpenTag) (tag : List Char) (position : Nat) :
    Except MarkupError (List OpenTag) :=
  match splitTag tag with
  | ('/' :: name, _) =>
    let name := trim name
    if name.isEmpty then
      match opened with
      | [] => .error (.nothingToClose position)
      | top :: rest => do
        checkAction top
        return rest
    else do
      let name ← nameOf name
      match close? name opened with
      | none => throw (.notOpen (String.ofList ('[' :: tag ++ [']'])) position)
      | some (tag, rest) =>
        checkAction tag
        return rest
  | (name, parameters) => do
    let name ← nameOf name
    return ⟨name, parameters⟩ :: opened

/-- The texts between the tags, behind those that are open. -/
def texts : List OpenTag → List Piece → Except MarkupError (List (List Char))
  | _, [] => .ok []
  | opened, .plain cs :: rest => (texts opened rest).map (unescape cs :: ·)
  | opened, .tag tag position :: rest => do
    let opened ← step opened tag position
    texts opened rest

/-- The text that a markup shows. A code does not reach beyond a tag. -/
def render [Library] (markup : String) : Except MarkupError String :=
  let cs := markup.toList
  (texts [] (pieces cs.length 0 [] cs)).map (fun parts => String.ofList (parts.flatMap pictures))

/-- Doubles the backslashes before a tag and puts one more there. -/
def escapeTags : Nat → List Char → List Char
  | 0, cs => cs
  | fuel + 1, cs =>
    match cs with
    | [] => []
    | c :: rest =>
      let slashes := leadingSlashes cs
      match tagAt? (cs.drop slashes) with
      | none => c :: escapeTags fuel rest
      | some tag =>
        List.replicate (2 * slashes + 1) '\\' ++ ('[' :: tag ++ [']']) ++
          escapeTags fuel (cs.drop (slashes + tag.length + 2))

/-- A markup that is meant to show a text as it is. -/
def escape (text : String) : String :=
  let cs := escapeTags text.length text.toList
  match cs.reverse with
  | '\\' :: '\\' :: _ => String.ofList cs
  | '\\' :: _ => String.ofList (cs ++ ['\\'])
  | _ => String.ofList cs

end Markup

end Propositional.Console
