import Propositional.Number.Shortest
import Propositional.Text.Points

namespace Propositional.Json
open Text (Points)

/-- A datum that comes from outside: a value of a JSON text, of a keyword or of an
assignment. The fields of an object keep their order. Its texts may be such with halves. -/
inductive Value (τ : Type := String)
  | null
  | bool (b : Bool)
  | int (n : Int)
  | float (x : Binary64)
  | text (s : τ)
  | list (items : List (Value τ))
  | object (fields : List (τ × Value τ))
  deriving Inhabited

namespace Value

section
variable {τ : Type} [DecidableEq τ]

/-- A field that is there already keeps its place and takes the new value. -/
def insertField (fields : List (τ × Value τ)) (name : τ) (v : Value τ) : List (τ × Value τ) :=
  if fields.any (·.1 == name) then
    fields.map (fun field => if field.1 == name then (name, v) else field)
  else fields ++ [(name, v)]

/-- An object from the fields as they are met, so that the last of one name wins. -/
def ofFields (fields : List (τ × Value τ)) : Value τ :=
  .object (fields.foldl (fun found field => insertField found field.1 field.2) [])

def field? (fields : List (τ × Value τ)) (name : τ) : Option (Value τ) :=
  fields.lookup name

end

/-- The word for the kind of a value. -/
def kind : Value τ → String
  | .null => "NoneType"
  | .bool _ => "bool"
  | .int _ => "int"
  | .float _ => "float"
  | .text _ => "str"
  | .list _ => "list"
  | .object _ => "dict"

/-- Nothing, false, zero and whatever is empty count as false. -/
def truthy : Value → Bool
  | .null => false
  | .bool b => b
  | .int n => n != 0
  | .float x => x.toInt? != some 0
  | .text s => s != ""
  | .list items => !items.isEmpty
  | .object fields => !fields.isEmpty

mutual

/-- A value as messages show it, if its texts are quoted in some way. -/
def shownBy (quote : τ → String) : Value τ → String
  | .null => "None"
  | .bool b => if b then "True" else "False"
  | .int n => toString n
  | .float x => x.text
  | .text s => quote s
  | .list items => "[" ++ ", ".intercalate (shownItems quote items) ++ "]"
  | .object fields => "\x7b" ++ ", ".intercalate (shownFields quote fields) ++ "\x7d"

def shownItems (quote : τ → String) : List (Value τ) → List String
  | [] => []
  | v :: rest => v.shownBy quote :: shownItems quote rest

def shownFields (quote : τ → String) : List (τ × Value τ) → List String
  | [] => []
  | (name, v) :: rest =>
    (quote name ++ ": " ++ v.shownBy quote) :: shownFields quote rest

end

/-- A value as messages show it. -/
def shown (v : Value) : String := v.shownBy Text.quote

mutual

/-- The integers in a value, in the order in which they are shown. -/
def integers : Value τ → List Int
  | .int n => [n]
  | .list items => itemIntegers items
  | .object fields => fieldIntegers fields
  | _ => []

def itemIntegers : List (Value τ) → List Int
  | [] => []
  | v :: rest => v.integers ++ itemIntegers rest

def fieldIntegers : List (τ × Value τ) → List Int
  | [] => []
  | (_, v) :: rest => v.integers ++ fieldIntegers rest

end

mutual

/-- The same value as one whose texts could have halves. -/
def points : Value → Value Points
  | .null => .null
  | .bool b => .bool b
  | .int n => .int n
  | .float x => .float x
  | .text s => .text (Text.points s)
  | .list items => .list (itemPoints items)
  | .object fields => .object (fieldPoints fields)

def itemPoints : List Value → List (Value Points)
  | [] => []
  | v :: rest => v.points :: itemPoints rest

def fieldPoints : List (String × Value) → List (Points × Value Points)
  | [] => []
  | (name, v) :: rest => (Text.points name, v.points) :: fieldPoints rest

end

mutual

/-- The value with texts that have no halves, if there are none in it. -/
def plain? : Value Points → Option Value
  | .null => some .null
  | .bool b => some (.bool b)
  | .int n => some (.int n)
  | .float x => some (.float x)
  | .text s => s.text?.map .text
  | .list items => (plainItems? items).map .list
  | .object fields => (plainFields? fields).map .object

def plainItems? : List (Value Points) → Option (List Value)
  | [] => some []
  | v :: rest => do return (← v.plain?) :: (← plainItems? rest)

def plainFields? : List (Points × Value Points) → Option (List (String × Value))
  | [] => some []
  | (name, v) :: rest => do return ((← name.text?), (← v.plain?)) :: (← plainFields? rest)

end

/-- What a value is compared by: numbers of all kinds by their size, texts by themselves. -/
inductive Key
  | null
  | integer (n : Int)
  | fraction (x : Binary64)
  | text (s : String)
  deriving DecidableEq

/-- Lists and objects cannot be compared. -/
def key? : Value → Option Key
  | .null => some .null
  | .bool b => some (.integer (if b then 1 else 0))
  | .int n => some (.integer n)
  | .float x => some ((x.toInt?.map Key.integer).getD (.fraction x))
  | .text s => some (.text s)
  | .list _ | .object _ => none

end Value

end Propositional.Json
