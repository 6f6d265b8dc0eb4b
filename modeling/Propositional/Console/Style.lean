import Propositional.Text.Blank
import Propositional.Text.Digit
import Propositional.Text.Integer
import Propositional.Text.Lowercase

namespace Propositional.Console
open Text

/-- The colours that have a name. -/
def colourNames : List String := [
  "default",
  "black", "red", "green", "yellow", "blue", "magenta", "cyan", "white", "bright_black",
  "bright_red", "bright_green", "bright_yellow", "bright_blue", "bright_magenta", "bright_cyan",
  "bright_white", "grey0", "gray0", "navy_blue", "dark_blue", "blue3", "blue1", "dark_green",
  "deep_sky_blue4", "dodger_blue3", "dodger_blue2", "green4", "spring_green4", "turquoise4",
  "deep_sky_blue3", "dodger_blue1", "green3", "spring_green3", "dark_cyan", "light_sea_green",
  "deep_sky_blue2", "deep_sky_blue1", "spring_green2", "cyan3", "dark_turquoise", "turquoise2",
  "green1", "spring_green1", "medium_spring_green", "cyan2", "cyan1", "dark_red", "deep_pink4",
  "purple4", "purple3", "blue_violet", "orange4", "grey37", "gray37", "medium_purple4",
  "slate_blue3", "royal_blue1", "chartreuse4", "dark_sea_green4", "pale_turquoise4", "steel_blue",
  "steel_blue3", "cornflower_blue", "chartreuse3", "cadet_blue", "sky_blue3", "steel_blue1",
  "pale_green3", "sea_green3", "aquamarine3", "medium_turquoise", "chartreuse2", "sea_green2",
  "sea_green1", "aquamarine1", "dark_slate_gray2", "dark_magenta", "dark_violet", "purple",
  "light_pink4", "plum4", "medium_purple3", "slate_blue1", "yellow4", "wheat4", "grey53", "gray53",
  "light_slate_grey", "light_slate_gray", "medium_purple", "light_slate_blue", "dark_olive_green3",
  "dark_sea_green", "light_sky_blue3", "sky_blue2", "dark_sea_green3", "dark_slate_gray3",
  "sky_blue1", "chartreuse1", "light_green", "pale_green1", "dark_slate_gray1", "red3",
  "medium_violet_red", "magenta3", "dark_orange3", "indian_red", "hot_pink3", "medium_orchid3",
  "medium_orchid", "medium_purple2", "dark_goldenrod", "light_salmon3", "rosy_brown", "grey63",
  "gray63", "medium_purple1", "gold3", "dark_khaki", "navajo_white3", "grey69", "gray69",
  "light_steel_blue3", "light_steel_blue", "yellow3", "dark_sea_green2", "light_cyan3",
  "light_sky_blue1", "green_yellow", "dark_olive_green2", "dark_sea_green1", "pale_turquoise1",
  "deep_pink3", "magenta2", "hot_pink2", "orchid", "medium_orchid1", "orange3", "light_pink3",
  "pink3", "plum3", "violet", "light_goldenrod3", "tan", "misty_rose3", "thistle3", "plum2",
  "khaki3", "light_goldenrod2", "light_yellow3", "grey84", "gray84", "light_steel_blue1",
  "yellow2", "dark_olive_green1", "honeydew2", "light_cyan1", "red1", "deep_pink2", "deep_pink1",
  "magenta1", "orange_red1", "indian_red1", "hot_pink", "dark_orange", "salmon1", "light_coral",
  "pale_violet_red1", "orchid2", "orchid1", "orange1", "sandy_brown", "light_salmon1",
  "light_pink1", "pink1", "plum1", "gold1", "navajo_white1", "misty_rose1", "thistle1", "yellow1",
  "light_goldenrod1", "khaki1", "wheat1", "cornsilk1", "grey100", "gray100", "grey3", "gray3",
  "grey7", "gray7", "grey11", "gray11", "grey15", "gray15", "grey19", "gray19", "grey23", "gray23",
  "grey27", "gray27", "grey30", "gray30", "grey35", "gray35", "grey39", "gray39", "grey42",
  "gray42", "grey46", "gray46", "grey50", "gray50", "grey54", "gray54", "grey58", "gray58",
  "grey62", "gray62", "grey66", "gray66", "grey70", "gray70", "grey74", "gray74", "grey78",
  "gray78", "grey82", "gray82", "grey85", "gray85", "grey89", "gray89", "grey93", "gray93"]

/-- Between what begins and what ends a text, if it begins and ends so. -/
def between? (left right : String) (cs : List Char) : Option (List Char) :=
  if left.toList.isPrefixOf cs then
    let rest := cs.drop left.length
    let inner := rest.take (rest.length - right.length)
    if inner ++ right.toList = rest then some inner else none
  else none

/-- A number in digits of any script. -/
def component? (cs : List Char) : Option Nat := readDigits digitValue? false 0 cs

def isLowerHex (c : Char) : Bool := c.isDigit || ('a' ≤ c && c ≤ 'f')

/-- What a word means where a colour is expected. -/
inductive ColourWord
  | colour
  | other
  | emptyComponent
  deriving DecidableEq

/-- Three numbers between commas make a colour if none is too big; an empty one is an error. -/
def mixture (cs : List Char) : ColourWord :=
  if cs.isEmpty || !cs.all (fun c => c == ',' || (digitValue? c).isSome) then .other
  else
    let components := (String.ofList cs).splitToList (· == ',')
    if components.length ≠ 3 then .other
    else if components.any (· == "") then .emptyComponent
    else if components.all (fun text => (component? text.toList).any (· ≤ 255)) then .colour
    else .other

/-- A colour is a name, six hexadecimal digits, a number, or a mixture. -/
def colourWord (cs : List Char) : ColourWord :=
  if String.ofList cs ∈ colourNames then .colour
  else
    match between? "#" "" cs, between? "color(" ")" cs, between? "rgb(" ")" cs with
    | some digits, _, _ => if digits.length = 6 ∧ digits.all isLowerHex then .colour else .other
    | none, some digits, _ =>
      if 0 < digits.length ∧ digits.length ≤ 3 ∧ digits.all Char.isDigit ∧
          (component? digits).any (· ≤ 255) then .colour
      else .other
    | none, none, some components => mixture components
    | none, none, none => .other

/-- The traits of a style in their canonical order, each with its names. -/
def traits : List (String × List String) := [
  ("bold", ["bold", "b"]), ("dim", ["dim", "d"]), ("italic", ["italic", "i"]),
  ("underline", ["underline", "u"]), ("blink", ["blink"]), ("blink2", ["blink2"]),
  ("reverse", ["reverse", "r"]), ("conceal", ["conceal", "c"]), ("strike", ["strike", "s"]),
  ("underline2", ["underline2", "uu"]), ("frame", ["frame"]), ("encircle", ["encircle"]),
  ("overline", ["overline", "o"])]

def trait? (name : String) : Option String :=
  (traits.find? (·.2.contains name)).map (·.1)

/-- Traits that are switched on or off, colours and a link. -/
structure Style where
  switches : List (String × Bool)
  colour : Option String
  background : Option String
  link : Option String
  deriving DecidableEq

/-- Why words make no style. -/
inductive StyleError
  | unknownWord
  | emptyComponent
  deriving DecidableEq

namespace Style

def plain : Style := ⟨[], none, none, none⟩

/-- The last switch of a trait counts. -/
def withSwitch (s : Style) (trait : String) (on : Bool) : Style :=
  { s with switches := (trait, on) :: s.switches }

def colourOf (word : String) : Except StyleError String :=
  let name := lower word.toList
  match colourWord name with
  | .colour => .ok (String.ofList name)
  | .other => .error .unknownWord
  | .emptyComponent => .error .emptyComponent

/-- Adds what words say to a style. The words `on`, `not` and `link` mean something together with
the word behind them. -/
def addWords (s : Style) : List String → Except StyleError Style
  | [] => .ok s
  | word :: rest =>
    match String.ofList (lower word.toList), rest with
    | "on", [] | "not", [] | "link", [] => .error .unknownWord
    | "on", word :: rest => do
      let name ← colourOf word
      addWords { s with background := some name } rest
    | "not", word :: rest =>
      match trait? word with
      | some trait => addWords (s.withSwitch trait false) rest
      | none => .error .unknownWord
    | "link", word :: rest => addWords { s with link := some word } rest
    | name, rest =>
      match trait? name with
      | some trait => addWords (s.withSwitch trait true) rest
      | none => do
        let name ← colourOf word
        addWords { s with colour := some name } rest

/-- The words of a style in their canonical order. -/
def words (s : Style) : List String :=
  traits.flatMap (fun (trait, _) =>
    match s.switches.lookup trait with
    | some true => [trait]
    | some false => ["not", trait]
    | none => []) ++
  s.colour.toList ++ (s.background.map (["on", ·])).getD [] ++ (s.link.map (["link", ·])).getD []

def name (s : Style) : String :=
  match s.words with
  | [] => "none"
  | words => " ".intercalate words

end Style

/-- The name that all spellings of a style have in common. What is no style is called by its
own text in small letters. -/
def styleName (cs : List Char) : Except StyleError String :=
  let words := ((String.ofList cs).splitToList isBlank).filter (· ≠ "")
  if words = ["none"] then .ok "none"
  else
    match Style.plain.addWords words with
    | .ok s => .ok s.name
    | .error .unknownWord => .ok (String.ofList (lower (trim cs)))
    | .error .emptyComponent => .error .emptyComponent

end Propositional.Console
