import Propositional.Files
import Propositional.Json.Reader
import Propositional.Json.Writer
import Propositional.Log
import Propositional.Settings.Dotenv

namespace Propositional
open Text (Points points)

inductive Format
  | tabla
  | html
  | json
  deriving DecidableEq

namespace Format

def name : Format → String
  | .tabla => "tabla"
  | .html => "html"
  | .json => "json"

def all : List Format := [.tabla, .html, .json]

def ofName? (name : String) : Option Format := all.find? (·.name == name)

end Format

/-- The longest limit on the length of an expression. -/
def longestLimit : Nat := 512

/-- A limit is a number, or the truth value true, which counts as one. -/
inductive Limit
  | count (n : Nat)
  | flag
  deriving DecidableEq

namespace Limit

def number : Limit → Nat
  | .count n => n
  | .flag => 1

def toValue : Limit → Json.Value
  | .count n => .int n
  | .flag => .bool true

def ofValue? : Json.Value Points → Option Limit
  | .int n => if 0 < n ∧ n ≤ longestLimit then some (.count n.toNat) else none
  | .bool true => some .flag
  | _ => none

end Limit

structure Settings where
  limit : Limit
  logLevel : String
  format : Format
  deriving DecidableEq

/-- Why there are no settings. An integer that is too long to be written keeps a value from being
shown in a message. -/
inductive SettingsError
  | badLimit (v : Json.Value Points)
  | badLevel (v : Json.Value Points)
  | badFormat (v : Json.Value Points)
  | longInteger (limit : Nat)
  | badInteger (text : String)
  | unknownKeyword (name : Points)
  | repeatedKeyword (name : String)
  | notMapping (kind : String)
  | unreadable (e : ReadFault)
  | malformed (e : Json.ReadError)
  | unsettable (e : Dotenv.Fault)

namespace SettingsError

/-- Only the name of a keyword can bring halves into a message, where others stand in for them. -/
def message : SettingsError → String
  | .badLimit v =>
    s!"max_input_length debe estar entre 1 y {longestLimit}, recibí {v.shownBy Points.quote}"
  | .badLevel v => s!"log_level desconocido: {v.shownBy Points.quote}"
  | .badFormat v =>
    let names := Json.Value.list (Format.all.map (fun format => .text format.name))
    s!"output_format debe ser uno de {names.shown}, recibí {v.shownBy Points.quote}"
  | .longInteger limit => Interpreter.longIntegerMessage limit
  | .badInteger text => s!"TABLAVERDAD_MAX_INPUT debe ser un entero, recibí {Text.quote text}"
  | .unknownKeyword name =>
    s!"Settings.__init__() got an unexpected keyword argument '{name.standIn}'"
  | .repeatedKeyword name => s!"Settings.__init__() got multiple values for argument '{name}'"
  | .notMapping kind =>
    s!"tablaverdad.config.Settings() argument after ** must be a mapping, not {kind}"
  | .unreadable e => e.message
  | .malformed e => e.message
  | .unsettable e => e.message

def keyword? : SettingsError → Option Points
  | .unknownKeyword name => some name
  | _ => none

/-- The first half in a message. -/
def half? (e : SettingsError) : Option Nat := e.keyword?.bind Points.half?

/-- An error whose message shows a value. -/
def showing [Interpreter] (error : Json.Value Points → SettingsError) (v : Json.Value Points) :
    SettingsError :=
  match v.integers.findSome? Interpreter.exceeded? with
  | some limit => .longInteger limit
  | none => error v

end SettingsError

namespace Settings

def initial : Settings := ⟨.count longestLimit, "WARNING", .tabla⟩

def limitName : String := "max_input_length"
def levelName : String := "log_level"
def formatName : String := "output_format"

/-- Every keyword is one of the three names. -/
def checkNames : List (Points × Json.Value Points) → Except SettingsError Unit
  | [] => .ok ()
  | (name, _) :: rest =>
    match name.text? with
    | none => .error (.unknownKeyword name)
    | some text =>
      if text = "self" then .error (.repeatedKeyword text)
      else if text ∈ [limitName, levelName, formatName] then checkNames rest
      else .error (.unknownKeyword name)

def textOf? : Json.Value Points → Option String
  | .text s => s.text?
  | _ => none

section
variable [Interpreter]

def checkLimit (v : Json.Value Points) : Except SettingsError Limit :=
  match Limit.ofValue? v with
  | some limit => .ok limit
  | none => .error (.showing .badLimit v)

/-- A level keeps its spelling. -/
def checkLevel (v : Json.Value Points) : Except SettingsError String :=
  match (textOf? v).filter (fun name => (Log.level? name).isSome) with
  | some name => .ok name
  | none => .error (.showing .badLevel v)

def checkFormat (v : Json.Value Points) : Except SettingsError Format :=
  match (textOf? v).bind Format.ofName? with
  | some format => .ok format
  | none => .error (.showing .badFormat v)

/-- Settings from keywords; what is missing keeps its initial value. -/
def ofKeywords (fields : List (Points × Json.Value Points)) : Except SettingsError Settings := do
  checkNames fields
  let value (name : String) (default : Json.Value) :=
    (Json.Value.field? fields (points name)).getD default.points
  let limit ← checkLimit (value limitName initial.limit.toValue)
  let logLevel ← checkLevel (value levelName (.text initial.logLevel))
  let format ← checkFormat (value formatName (.text initial.format.name))
  return ⟨limit, logLevel, format⟩

/-- Settings from keywords without halves. -/
def ofFields (fields : List (String × Json.Value)) : Except SettingsError Settings :=
  ofKeywords (Json.Value.fieldPoints fields)

end

def toValue (s : Settings) : Json.Value :=
  .object [(limitName, s.limit.toValue), (levelName, .text s.logLevel),
    (formatName, .text s.format.name)]

section
variable [Interpreter]

def ofValue : Json.Value Points → Except SettingsError Settings
  | .object fields => ofKeywords fields
  | v => .error (.notMapping v.kind)

def ofJson (text : String) : Except SettingsError Settings := do
  let v ← (Json.parse .lenient text).mapError .malformed
  ofValue v

def toJson (s : Settings) : String := s.toValue.indented

def load (files : Files) (path : String) : Except SettingsError Settings := do
  let text ← (files.readText path).mapError .unreadable
  ofJson text

/-- Missing folders on the way to the file are made. -/
def save (s : Settings) (files : Files) (path : String) : Except FileError Files := do
  let path := Files.simplify path
  let files ← files.makeParent path
  files.write path s.toJson

end

end Settings

end Propositional
