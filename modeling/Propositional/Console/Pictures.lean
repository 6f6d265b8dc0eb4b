import Propositional.Console.Library
import Propositional.Text.Blank
import Propositional.Text.Lowercase

namespace Propositional.Console
open Text

/-- The code that a text begins with, which stands between two colons and has no blanks, and what
follows it. -/
def codeAt? : List Char → Option (List Char × List Char)
  | ':' :: rest =>
    let code := rest.takeWhile (fun c => c != ':' && !isBlank c)
    match rest.drop code.length with
    | ':' :: rest => some (code, rest)
    | _ => none
  | _ => none

/-- What a code may end with, and the selector that it then puts behind the picture. -/
def selectors : List (List Char × List Char) :=
  [("-emoji".toList, ['\ufe0f']), ("-text".toList, ['\ufe0e'])]

/-- The name in a code, and the selector that it asks for, if any. -/
def splitCode (code : List Char) : List Char × List Char :=
  match selectors.find? (fun (ending, _) => ending.isSuffixOf code) with
  | some (ending, selector) => (code.take (code.length - ending.length), selector)
  | none => (code, [])

/-- Capitals do not count in the name of a picture. -/
def pictureOf? [Library] (code : List Char) : Option (List Char) :=
  let (name, selector) := splitCode code
  (Library.picture? (String.ofList (lower name))).map (·.toList ++ selector)

/-- Each code takes two characters at least and each other step takes one, so that the length of
the text is enough fuel. A code that is not known stays as it is. -/
def picturesIn [Library] : Nat → List Char → List Char
  | 0, cs => cs
  | fuel + 1, cs =>
    match codeAt? cs with
    | some (code, rest) =>
      (pictureOf? code).getD (':' :: code ++ [':']) ++ picturesIn fuel rest
    | none =>
      match cs with
      | [] => []
      | c :: rest => c :: picturesIn fuel rest

/-- A text with pictures in place of their codes. -/
def pictures [Library] (cs : List Char) : List Char := picturesIn cs.length cs

end Propositional.Console
