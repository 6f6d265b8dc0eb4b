import Propositional.Interpreter
import Propositional.Text.Quoted
import Propositional.Text.Utf8

namespace Propositional

/-- What a file holds: a text, or bytes that may be no text. -/
inductive Content
  | text (s : String)
  | bytes (bs : List UInt8)
  deriving DecidableEq

def Content.decode : Content → Except Text.Utf8Error String
  | .text s => .ok s
  | .bytes bs => Text.decodeUtf8 bs

inductive Entry
  | file (content : Content)
  | folder
  deriving DecidableEq

/-- The names on the way from the folder where the program runs, or from the root after an
empty name. -/
abbrev Place := List String

/-- The files that a run can see. A folder that has something in it need not be listed. -/
structure Files where
  entries : List (Place × Entry)
  deriving DecidableEq

inductive FileFault
  | noSuchFile
  | fileExists
  | notDirectory
  | isDirectory
  | nameTooLong
  deriving DecidableEq

def FileFault.text : FileFault → String
  | .noSuchFile => "[Errno 2] No such file or directory"
  | .fileExists => "[Errno 17] File exists"
  | .notDirectory => "[Errno 20] Not a directory"
  | .isDirectory => "[Errno 21] Is a directory"
  | .nameTooLong => "[Errno 36] File name too long"

inductive FileError
  | failed (fault : FileFault) (path : String)
  | nullInPath
  | callsExhausted
  deriving DecidableEq

def FileError.message : FileError → String
  | .failed fault path => s!"{fault.text}: {Text.quote path}"
  | .nullInPath => "embedded null byte"
  | .callsExhausted => "maximum recursion depth exceeded"

namespace Place

/-- Up from a folder; above the root there is only the root. -/
def parent (place : Place) : Place :=
  match place with
  | [] => [".."]
  | [""] => [""]
  | _ => if place.getLast? = some ".." then place ++ [".."] else place.dropLast

def toPath (place : Place) : String := "/".intercalate place

/-- Places mostly differ in length, which is seen before their names are compared. -/
def same (a b : Place) : Bool := a.length == b.length && a == b

/-- Places that are folders whatever the files are. -/
def isFixed (place : Place) : Bool := place.isEmpty || place == [""] || place.all (· == "..")

end Place

namespace Files

/-- The longest name of a file in bytes. -/
def maxName : Nat := 255

/-- The longest path in bytes. -/
def maxPath : Nat := 4095

def entry? (files : Files) (place : Place) : Option Entry :=
  if place.isFixed then some .folder
  else
    match files.entries.find? (place.same ·.1) with
    | some (_, entry) => some entry
    | none => if files.entries.any (place.isPrefixOf ·.1) then some .folder else none

/-- The place that a name in a folder leads to. -/
def next (place : Place) (name : String) : Except FileFault Place :=
  if maxName < name.utf8ByteSize then .error .nameTooLong
  else if name = "" ∨ name = "." then .ok place
  else if name = ".." then .ok place.parent
  else .ok (place ++ [name])

/-- The place that a path leads to, every name but the last being a folder. -/
def walk (files : Files) (place : Place) : List String → Except FileFault Place
  | [] => .ok place
  | name :: rest => do
    let here ← next place name
    if rest.isEmpty then return here
    match files.entry? here with
    | some .folder => walk files here rest
    | some _ => throw .notDirectory
    | none => throw .noSuchFile

def names (path : String) : List String := path.splitToList (· == '/')

def locate (files : Files) (path : String) : Except FileFault Place :=
  match names path with
  | "" :: rest => if rest.isEmpty then .error .noSuchFile else walk files [""] rest
  | names => walk files [] names

def checkPath (path : String) : Except FileError Unit :=
  if path.toList.contains '\x00' then .error .nullInPath
  else if maxPath < path.utf8ByteSize then .error (.failed .nameTooLong path)
  else .ok ()

def open? (files : Files) (path : String) : Except FileError Content := do
  checkPath path
  let found : Except FileFault Content := do
    match files.entry? (← files.locate path) with
    | none => throw .noSuchFile
    | some .folder => throw .isDirectory
    | some (.file content) => return content
  found.mapError (.failed · path)

def put (files : Files) (place : Place) (entry : Entry) : Files :=
  if files.entries.any (place.same ·.1) then
    { entries := files.entries.map (fun e => if place.same e.1 then (place, entry) else e) }
  else { entries := files.entries ++ [(place, entry)] }

/-- What a path holds before its last name. -/
def dropLastName (path : String) : String :=
  let bare := path.toList.reverse.dropWhile (· == '/')
  String.ofList (bare.dropWhile (· != '/')).reverse

/-- The place for a new file, which must not be a folder. A path that ends with a slash can only
be a folder, whatever its last name is. -/
def locateFile (files : Files) (path : String) : Except FileFault Place := do
  if path.toList.getLast? = some '/' then
    let around := dropLastName path
    if around ≠ "" then let _ ← files.locate around
    throw .isDirectory
  let place ← files.locate path
  if files.entry? place == some .folder then throw .isDirectory
  return place

/-- A new text for the file at a path, which need not be there. -/
def write (files : Files) (path text : String) : Except FileError Files := do
  checkPath path
  let place ← (files.locateFile path).mapError (.failed · path)
  return files.put place (.file (.text text))

/-- The slashes that a path begins with count as one, except for two. -/
def root (path : String) : String :=
  match (path.toList.takeWhile (· == '/')).length with
  | 0 => ""
  | 2 => "//"
  | _ => "/"

/-- A path without its empty names and single dots. -/
def simplify (path : String) : String :=
  let kept := (names path).filter (fun name => name != "" && name != ".")
  let simple := root path ++ "/".intercalate kept
  if simple = "" then "." else simple

/-- Makes a folder at a place, unless it is there already. The folder around it then has
something in it and is no longer listed. -/
def putFolder (files : Files) (place : Place) : Except FileFault Files :=
  match files.entry? place with
  | some .folder => .ok files
  | some (.file _) => .error .fileExists
  | none =>
    let around : Place × Entry := (place.dropLast, .folder)
    .ok (put { entries := files.entries.filter (· != around) } place .folder)

/-- Makes a folder and those above it that are missing, as many as are allowed; the names are
given from the last one up. The place of the folder is told too. -/
def makeFolders (files : Files) : Nat → List String → Except FileError (Files × Place)
  | _, [] => .ok (files, [])
  | _, [""] => .ok (files, [""])
  | 0, _ => .error .callsExhausted
  | allowed + 1, name :: above => do
    let path := "/".intercalate (name :: above).reverse
    checkPath path
    match files.locate path with
    | .ok place =>
      let files ← (files.putFolder place).mapError (.failed · path)
      return (files, place)
    | .error .noSuchFile =>
      let (files, folder) ← files.makeFolders allowed above
      let place ← (next folder name).mapError (.failed · path)
      let files ← (files.putFolder place).mapError (.failed · path)
      return (files, place)
    | .error fault => throw (.failed fault path)

/-- Makes the missing folders on the way to a path. -/
def makeParent [Interpreter] (files : Files) (path : String) : Except FileError Files :=
  (files.makeFolders Interpreter.maxFolders (names path).reverse.tail).map (·.1)

/-- The entries that differ from those before. -/
def changed (before after : Files) : List (Place × Entry) :=
  after.entries.filter (fun e =>
    (before.entries.find? (e.1.same ·.1)).map (·.2) != some e.2)

end Files

/-- Why a file gives no text. -/
inductive ReadFault
  | file (e : FileError)
  | encoding (e : Text.Utf8Error)
  deriving DecidableEq

def ReadFault.message : ReadFault → String
  | .file e => e.message
  | .encoding e => e.message

/-- The text of a file, its line breaks unified. -/
def Files.readText (files : Files) (path : String) : Except ReadFault String := do
  let content ← (files.open? path).mapError .file
  let text ← content.decode.mapError .encoding
  return String.ofList (Text.unifyLineBreaks text.toList)

end Propositional
