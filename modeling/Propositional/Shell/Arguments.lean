import Propositional.Settings
import Propositional.Text.Digit

namespace Propositional.Shell

inductive Flag
  | help
  | format
  | output
  | tree
  | config
  | interactive
  deriving DecidableEq

/-- The spellings of the options. -/
def flags : List (String × Flag) := [
  ("-h", .help), ("--help", .help), ("--formato", .format), ("--salida", .output),
  ("--arbol", .tree), ("--config", .config), ("--interactivo", .interactive)]

/-- What a command line asks for. -/
structure Arguments where
  expression : Option String
  format : Option Format
  output : Option String
  tree : Bool
  config : Option String
  interactive : Bool
  deriving DecidableEq

/-- A request for help, or a command line that makes no sense. -/
inductive ArgumentStop
  | help
  | usage
  deriving DecidableEq

/-- An option and what is joined to it: behind an equals sign, or behind the letter of a short
one. -/
structure FlagUse where
  flag : Flag
  isShort : Bool
  joined : Option String
  deriving DecidableEq

inductive Role
  | value
  | option (use : FlagUse)
  | unknown
  | ambiguous
  deriving DecidableEq

/-- A number behind a minus sign; a line break may follow it. -/
def isNegativeNumber (cs : List Char) : Bool :=
  let isDigit (c : Char) : Bool := (Text.digitValue? c).isSome
  let cs := if cs.getLast? = some '\n' then cs.dropLast else cs
  match cs.span isDigit with
  | (digits, []) => !digits.isEmpty
  | (_, '.' :: digits) => !digits.isEmpty && digits.all isDigit
  | _ => false

/-- The part before the first equals sign, and the part after it if there is one. -/
def splitEquals (cs : List Char) : List Char × Option (List Char) :=
  match cs.span (· != '=') with
  | (name, _ :: v) => (name, some v)
  | (name, []) => (name, none)

def isLong (cs : List Char) : Bool := cs.take 2 = ['-', '-']

/-- The options that an abbreviation may stand for. A short option has its value joined to it
without an equals sign. -/
def candidates (cs : List Char) : List FlagUse :=
  let (name, joined) := splitEquals cs
  flags.filterMap (fun (spelling, flag) =>
    if isLong cs then
      if name.isPrefixOf spelling.toList then some ⟨flag, false, joined.map String.ofList⟩
      else none
    else if spelling.toList = cs.take 2 then some ⟨flag, true, String.ofList (cs.drop 2)⟩
    else if cs.isPrefixOf spelling.toList then some ⟨flag, false, none⟩
    else none)

/-- An option that is spelt in full, with or without an equals sign. -/
def spelled? (cs : List Char) : Option FlagUse :=
  let use (name : List Char) (joined : Option String) : Option FlagUse :=
    (flags.lookup (String.ofList name)).map (fun flag => ⟨flag, !isLong name, joined⟩)
  match use cs none, splitEquals cs with
  | some found, _ => some found
  | none, (name, some v) => use name (some (String.ofList v))
  | none, (_, none) => none

/-- An argument is an option if it begins with a dash, unless it is a dash alone, a negative
number, or holds a space without meaning any option. -/
def role (arg : String) : Role :=
  let cs := arg.toList
  if cs.head? ≠ some '-' then .value
  else
    match spelled? cs with
    | some use => .option use
    | none =>
      if cs.length = 1 then .value
      else
        match candidates cs with
        | [use] => .option use
        | [] => if isNegativeNumber (cs.drop 1) || cs.contains ' ' then .value else .unknown
        | _ => .ambiguous

/-- The arguments read so far, whether the last one was the expression, and whether one was
left over. -/
structure Reading where
  found : Arguments
  justTaken : Bool
  leftOver : Bool

namespace Reading

def start : Reading := ⟨⟨none, none, none, false, none, false⟩, false, false⟩

/-- A value belongs to the expression if there is none yet. -/
def addValue (r : Reading) (arg : String) : Reading :=
  if r.found.expression.isNone then
    { r with found := { r.found with expression := some arg }, justTaken := true }
  else { r with justTaken := false, leftOver := true }

def result (r : Reading) : Except ArgumentStop Arguments :=
  if r.leftOver then .error .usage else .ok r.found

/-- Behind the separator everything is a value. The separator itself goes with the expression
and is left over if that stands elsewhere. -/
def finish (r : Reading) (behind : List String) : Except ArgumentStop Arguments :=
  let r := if r.found.expression.isSome && !r.justTaken then { r with leftOver := true } else r
  (behind.foldl addValue r).result

/-- Help is also asked for by the short option that is repeated. -/
def helpStop (use : FlagUse) : ArgumentStop :=
  match use.joined with
  | none => .help
  | some rest =>
    if use.isShort ∧ rest ≠ "" ∧ rest.toList.all (· == 'h') then .help else .usage

/-- An option that takes a value. A joined separator is no value and takes back an earlier one. -/
def setValue (r : Reading) (flag : Flag) (v : String) : Except ArgumentStop Reading :=
  let set (found : Arguments) : Except ArgumentStop Reading :=
    .ok { r with found, justTaken := false }
  let given := if v = "--" then none else some v
  match flag, given with
  | .format, none => set { r.found with format := none }
  | .format, some name =>
    match Format.ofName? name with
    | some format => set { r.found with format := some format }
    | none => .error .usage
  | .output, path => set { r.found with output := path }
  | .config, path => set { r.found with config := path }
  | _, _ => .error .usage

def addArguments (r : Reading) : List String → Except ArgumentStop Arguments
  | [] => r.result
  | arg :: rest =>
    if arg = "--" then r.finish rest
    else
      match role arg with
      | .value => (r.addValue arg).addArguments rest
      | .unknown => { r with justTaken := false, leftOver := true }.addArguments rest
      | .ambiguous => .error .usage
      | .option use =>
        match use.flag, use.joined with
        | .help, _ => .error (helpStop use)
        | .tree, none =>
          { r with found := { r.found with tree := true }, justTaken := false }.addArguments rest
        | .interactive, none =>
          { r with found := { r.found with interactive := true },
                   justTaken := false }.addArguments rest
        | .tree, some _ | .interactive, some _ => .error .usage
        | flag, some v => (r.setValue flag v).bind (·.addArguments rest)
        | flag, none =>
          match rest with
          | v :: rest =>
            if v ≠ "--" ∧ role v = .value then (r.setValue flag v).bind (·.addArguments rest)
            else .error .usage
          | [] => .error .usage

end Reading

/-- Abbreviations are looked at first, all others in their order. -/
def Arguments.parse (args : List String) : Except ArgumentStop Arguments :=
  if (args.takeWhile (· ≠ "--")).any (role · = .ambiguous) then .error .usage
  else Reading.start.addArguments args

end Propositional.Shell
