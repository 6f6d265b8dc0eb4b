import Propositional.Text.Blank
import Propositional.Text.Uppercase

namespace Propositional

/-- The variables of a process. -/
abbrev Environment := List (String × String)

namespace Dotenv
open Text

/-- A line of a file of variables; a name alone has no value. -/
abbrev Binding := String × Option String

/-- A blank that does not end a line. -/
def isGap (c : Char) : Bool := isBlank c && c != '\n' && c != '\r'

def skipGap (cs : List Char) : List Char := cs.dropWhile isGap

def isLineEnd (c : Char) : Bool := c == '\n' || c == '\r'

/-- What follows on the line. -/
def skipLine (cs : List Char) : List Char :=
  match cs.dropWhile (!isLineEnd ·) with
  | _ :: rest => rest
  | [] => []

/-- The word before the name, if a gap follows it. -/
def skipExport (cs : List Char) : List Char :=
  let word := "export".toList
  if word.isPrefixOf cs then
    let rest := cs.drop word.length
    if rest.head?.any isGap then skipGap rest else cs
  else cs

/-- A quoted text up to its closing mark, and what follows it. A backslash takes the character
behind it along. -/
def quoted (mark : Char) : List Char → Option (List Char × List Char)
  | [] => none
  | '\\' :: c :: rest => (quoted mark rest).map (fun (cs, rest) => ('\\' :: c :: cs, rest))
  | c :: rest =>
    if c == mark then some ([], rest)
    else (quoted mark rest).map (fun (cs, rest) => (c :: cs, rest))

/-- Replaces the escapes that a table knows. -/
def unescape (table : List (Char × Char)) : List Char → List Char
  | [] => []
  | '\\' :: c :: rest =>
    match table.lookup c with
    | some d => d :: unescape table rest
    | none => '\\' :: unescape table (c :: rest)
  | c :: rest => c :: unescape table rest

def singleEscapes : List (Char × Char) := [('\\', '\\'), ('\'', '\'')]

def doubleEscapes : List (Char × Char) := [
  ('\\', '\\'), ('\'', '\''), ('"', '"'), ('a', '\x07'), ('b', '\x08'), ('f', '\x0c'),
  ('n', '\n'), ('r', '\r'), ('t', '\t'), ('v', '\x0b')]

/-- Cuts a comment off: a number sign behind blanks, and the blanks with it. -/
def cutComment : List Char → List Char
  | [] => []
  | c :: rest =>
    if isBlank c && (rest.dropWhile isBlank).head? = some '#' then [] else c :: cutComment rest

/-- The value behind an equals sign and a gap, and what follows it. -/
def value? (cs : List Char) : Option (List Char × List Char) :=
  match cs with
  | '\'' :: rest => (quoted '\'' rest).map (fun (v, rest) => (unescape singleEscapes v, rest))
  | '"' :: rest => (quoted '"' rest).map (fun (v, rest) => (unescape doubleEscapes v, rest))
  | _ =>
    let line := cs.takeWhile (!isLineEnd ·)
    some (trimEnd (cutComment line), cs.drop line.length)

/-- What stands behind an equals sign. A comment leaves the value empty if a gap stands before
it. -/
def assigned? (cs : List Char) : Option (List Char × List Char) :=
  let rest := skipGap cs
  if rest.head? = some '#' ∧ rest ≠ cs then some ([], rest) else value? rest

/-- The name at the start of a line; `none` if there is no name where one has to be, and an
empty one before a comment. -/
def name? (cs : List Char) : Option (List Char × List Char) :=
  match cs with
  | '#' :: _ => some ([], cs)
  | '\'' :: rest =>
    match rest.span (· != '\'') with
    | (name, _ :: rest) => if name.isEmpty then none else some (name, rest)
    | _ => none
  | _ =>
    let name := cs.takeWhile (fun c => c != '=' && c != '#' && !isBlank c)
    if name.isEmpty then none else some (name, cs.drop name.length)

/-- What follows the end of the line, if nothing but a comment stands before it. -/
def lineEnd? (cs : List Char) : Option (List Char) :=
  let cs := skipGap cs
  let cs := if cs.head? = some '#' then cs.dropWhile (!isLineEnd ·) else cs
  match cs with
  | [] => some []
  | '\r' :: '\n' :: rest => some rest
  | c :: rest => if isLineEnd c then some rest else none

/-- One binding, if the line has one, and the rest of the text. A line that is none is
skipped from where it goes wrong. -/
def binding (cs : List Char) : Option Binding × List Char :=
  let cs := skipExport cs
  match name? cs with
  | none => (none, skipLine cs)
  | some (name, rest) =>
    let rest := skipGap rest
    match rest with
    | '=' :: rest =>
      match assigned? rest with
      | none => (none, skipLine (skipGap rest))
      | some (v, rest) =>
        match lineEnd? rest with
        | none => (none, skipLine (skipGap rest))
        | some rest => (some (String.ofList name, some (String.ofList v)), rest)
    | _ =>
      match lineEnd? rest with
      | none => (none, skipLine rest)
      | some rest => (if name.isEmpty then none else some (String.ofList name, none), rest)

/-- The bindings of a text in their order. Each takes a character, so that the length of the
text is enough fuel. -/
def bindings : Nat → List Char → List Binding
  | 0, _ => []
  | fuel + 1, cs =>
    match cs.dropWhile isBlank with
    | [] => []
    | cs =>
      let (found, rest) := binding cs
      found.toList ++ bindings fuel rest

/-- The name and the default of a reference that starts a text, and what follows it. -/
def reference? (cs : List Char) : Option (String × String × List Char) :=
  match cs with
  | '$' :: '{' :: rest =>
    let name := rest.takeWhile (fun c => c != '}' && c != ':')
    match rest.drop name.length with
    | '}' :: rest => some (String.ofList name, "", rest)
    | ':' :: '-' :: rest =>
      let default := rest.takeWhile (· != '}')
      match rest.drop default.length with
      | _ :: rest => some (String.ofList name, String.ofList default, rest)
      | [] => none
    | _ => none
  | _ => none

/-- Replaces references by values; the length of the text is enough fuel. -/
def resolve (lookup : String → Option String) : Nat → List Char → List Char
  | 0, cs => cs
  | fuel + 1, cs =>
    match reference? cs with
    | some (name, default, rest) =>
      ((lookup name).getD default).toList ++ resolve lookup fuel rest
    | none =>
      match cs with
      | [] => []
      | c :: rest => c :: resolve lookup fuel rest

/-- A binding replaces an earlier one of the same name in its place. A name that is bound to
nothing refers to nothing, even if a default is given. -/
def bind (env : Environment) (known : List Binding) (b : Binding) : List Binding :=
  let lookup (name : String) : Option String :=
    match env.lookup name with
    | some v => some v
    | none => (known.lookup name).map (·.getD "")
  let bound : Binding :=
    (b.1, b.2.map (fun v => String.ofList (resolve lookup v.length v.toList)))
  if known.any (·.1 == b.1) then known.map (fun k => if k.1 == b.1 then bound else k)
  else known ++ [bound]

/-- Why a variable cannot be set. -/
inductive Fault
  | nullByte
  | equalsInName
  deriving DecidableEq

def Fault.message : Fault → String
  | .nullByte => "embedded null byte"
  | .equalsInName => "illegal environment variable name"

/-- A variable that is set stays as it is, and a name alone sets nothing. -/
def set (env : Environment) : Binding → Except Fault Environment
  | (_, none) => .ok env
  | (name, some v) =>
    if (env.lookup name).isSome then .ok env
    else if name.toList.contains '\x00' || v.toList.contains '\x00' then .error .nullByte
    else if name.toList.contains '=' then .error .equalsInName
    else .ok (env ++ [(name, v)])

/-- A text may begin with a byte order mark. -/
def skipMark : List Char → List Char
  | '\ufeff' :: rest => rest
  | cs => cs

/-- Adds the variables of a text to an environment. -/
def load (env : Environment) (text : String) : Except Fault Environment :=
  let cs := skipMark text.toList
  ((bindings cs.length cs).foldl (bind env) []).foldlM set env

def switchVariable : String := "PYTHON_DOTENV_DISABLED"

/-- Whether files of variables are not to be looked at. -/
def isDisabled (env : Environment) : Bool :=
  (env.lookup switchVariable).any (fun v => upper v ∈ ["1", "TRUE", "T", "YES", "Y"])

end Dotenv

end Propositional
