import Propositional.Text.Blank
import Propositional.Text.Quoted
import Propositional.Text.Symbol

namespace Propositional.Console.Literal
open Text

/-- What stands before an equals sign. -/
inductive Target
  | name (cs : List Char)
  | literal
  | member
  | call
  | subscript
  | expression
  | other
  deriving DecidableEq

/-- Why a text is no literal. -/
inductive Fault
  | malformed
  | missingComma
  | missingParentheses (name : List Char)
  | assigned (target : Target)
  | neverClosed (opening : Char)
  | unmatched (closing : Char)
  | mismatched (opening closing : Char)
  | unterminated (line : Nat)
  | unterminatedBlock (line : Nat)
  | badCharacter (c : Char)
  | invisibleCharacter (c : Char)
  | badContinuation
  | badNumber (kind : String)
  | badDigit (digit : Char) (kind : String)
  | leadingZeros
  deriving DecidableEq

/-- The code point of a character in capital hexadecimal digits, four at least. -/
def codePoint (c : Char) : String := "U+" ++ String.ofList ((hex 4 c.toNat).map Char.toUpper)

def Target.message : Target → String
  | .name _ => "invalid syntax. Maybe you meant '==' or ':=' instead of '='?"
  | .literal => "cannot assign to literal here. Maybe you meant '==' instead of '='?"
  | .member => "cannot assign to attribute here. Maybe you meant '==' instead of '='?"
  | .call => "cannot assign to function call here. Maybe you meant '==' instead of '='?"
  | .subscript => "cannot assign to subscript here. Maybe you meant '==' instead of '='?"
  | .expression => "cannot assign to expression here. Maybe you meant '==' instead of '='?"
  | .other => "invalid syntax"

def Fault.message : Fault → String
  | .malformed => "invalid syntax"
  | .missingComma => "invalid syntax. Perhaps you forgot a comma?"
  | .missingParentheses cs =>
    let name := String.ofList cs
    s!"Missing parentheses in call to '{name}'. Did you mean {name}(...)?"
  | .assigned target => target.message
  | .neverClosed c => s!"'{c}' was never closed"
  | .unmatched c => s!"unmatched '{c}'"
  | .mismatched opening closing =>
    s!"closing parenthesis '{closing}' does not match opening parenthesis '{opening}'"
  | .unterminated line => s!"unterminated string literal (detected at line {line})"
  | .unterminatedBlock line =>
    s!"unterminated triple-quoted string literal (detected at line {line})"
  | .badCharacter c => s!"invalid character '{c}' ({codePoint c})"
  | .invisibleCharacter c => "invalid non-printable character " ++ codePoint c
  | .badContinuation => "unexpected character after line continuation character"
  | .badNumber kind => s!"invalid {kind} literal"
  | .badDigit digit kind => s!"invalid digit '{digit}' in {kind} literal"
  | .leadingZeros => "leading zeros in decimal integer literals are not permitted; " ++
    "use an 0o prefix for octal integers"

/-- The pieces of an expression. Of the operators it only matters where they may stand: between
two operands, before one, or in both places. -/
inductive Lexeme
  | operand (target : Target)
  | text
  | opening (c : Char)
  | closing (c : Char)
  | comma
  | colon
  | equals
  | member
  | between
  | before
  | sign
  | lineBreak
  | stray
  deriving DecidableEq

/-- What is read at the start of a text, and what follows it. -/
abbrev Read (α : Type) := Except Fault (α × List Char)

def isNameChar (c : Char) : Bool := isWordChar c || (0x80 ≤ c.toNat && isMark c)

/-- A name cannot begin with a numeral. -/
def beginsName (c : Char) : Bool := isWordChar c && !c.isDigit

/-- Digits with single underscores between them. -/
def isDigitGroup (cs : List Char) : Bool :=
  cs.head?.any (· ≠ '_') && cs.getLast?.any (· ≠ '_') &&
    (cs.zip cs.tail).all (fun (c, d) => c != '_' || d != '_')

/-- Words that may follow a number at once. -/
def wordsBehindNumber : List String := ["and", "else", "for", "if", "in", "is", "or"]

/-- What follows a number, which must not be a letter of ASCII. -/
def endNumber (kind : String) (rest : List Char) : Read Lexeme :=
  if rest.head?.any (fun c => c.toNat < 0x80 && isNameChar c) &&
      !wordsBehindNumber.any (·.toList.isPrefixOf rest) then
    .error (.badNumber kind)
  else .ok (.operand .literal, rest)

/-- The digits of a number in another base than ten. -/
def basedNumber (kind : String) (isDigit : Char → Bool) (cs : List Char) : Read Lexeme :=
  let digits := cs.takeWhile (fun c => isDigit c || c == '_')
  let rest := cs.drop digits.length
  let group := if digits.head? = some '_' then digits.tail else digits
  match rest.head? with
  | some c =>
    if c.isDigit then .error (.badDigit c kind)
    else if isDigitGroup group then endNumber kind rest
    else .error (.badNumber kind)
  | none => if isDigitGroup group then .ok (.operand .literal, []) else .error (.badNumber kind)

/-- The power of ten behind a number, if there is one. -/
def skipPower (cs : List Char) : List Char :=
  match cs with
  | e :: rest =>
    let digits := if rest.head? = some '+' ∨ rest.head? = some '-' then rest.tail else rest
    if (e == 'e' || e == 'E') && digits.head?.any Char.isDigit then
      digits.dropWhile (fun c => c.isDigit || c == '_')
    else cs
  | [] => cs

/-- A number in base ten, which may have a fraction, a power of ten and an imaginary unit. -/
def decimalNumber (cs : List Char) : Read Lexeme :=
  let whole := cs.takeWhile (fun c => c.isDigit || c == '_')
  let rest := cs.drop whole.length
  let behindPoint := match rest with
    | '.' :: rest => rest.dropWhile (fun c => c.isDigit || c == '_')
    | _ => rest
  let behindPower := skipPower behindPoint
  let isInteger := behindPower.length = rest.length
  let rest := match behindPower with
    | 'j' :: rest | 'J' :: rest => rest
    | rest => rest
  if !whole.isEmpty && !isDigitGroup whole then .error (.badNumber "decimal")
  else if isInteger && rest.length = behindPower.length && whole.head? = some '0' &&
      whole.any (fun c => c != '0' && c != '_') then .error .leadingZeros
  else endNumber "decimal" rest

def number (cs : List Char) : Read Lexeme :=
  match cs with
  | '0' :: c :: rest =>
    let c := c.toLower
    if c == 'x' then
      basedNumber "hexadecimal" (fun c => c.isDigit || ('a' ≤ c.toLower && c.toLower ≤ 'f')) rest
    else if c == 'o' then basedNumber "octal" (fun c => '0' ≤ c && c ≤ '7') rest
    else if c == 'b' then basedNumber "binary" (fun c => c == '0' || c == '1') rest
    else decimalNumber cs
  | _ => decimalNumber cs

/-- What follows the mark that closes a text, or what is left where the text breaks off. A
backslash takes the character behind it along. -/
def closeText (mark : Char) : List Char → Except (List Char) (List Char)
  | [] => .error []
  | ['\\'] => .error []
  | '\\' :: _ :: rest => closeText mark rest
  | c :: rest =>
    if c == mark then .ok rest
    else if c == '\n' then .error (c :: rest)
    else closeText mark rest

/-- The same for a text between three marks, which may hold line breaks. -/
def closeBlock (mark : Char) : List Char → Except (List Char) (List Char)
  | [] => .error []
  | ['\\'] => .error []
  | '\\' :: _ :: rest => closeBlock mark rest
  | c :: rest =>
    if c == mark && rest.take 2 = [mark, mark] then .ok (rest.drop 2) else closeBlock mark rest

/-- A text in quotes; `lineAt` tells the line on which the rest of the whole begins. -/
def quotedText (lineAt : List Char → Nat) (mark : Char) (rest : List Char) : Read Lexeme :=
  if rest.take 2 = [mark, mark] then
    match closeBlock mark (rest.drop 2) with
    | .ok rest => .ok (.text, rest)
    | .error rest => .error (.unterminatedBlock (lineAt rest))
  else
    match closeText mark rest with
    | .ok rest => .ok (.text, rest)
    | .error rest => .error (.unterminated (lineAt rest))

/-- The letters that may stand before the quotes of a text. -/
def textMarks : List String := ["r", "u", "b", "f", "br", "rb", "fr", "rf"]

def constants : List String := ["True", "False", "None"]

def wordsBetween : List String := ["and", "or", "in", "is", "if", "else", "for"]

/-- Words that have no place in a literal. -/
def reservedWords : List String := [
  "as", "assert", "async", "await", "break", "class", "continue", "def", "del", "elif", "except",
  "finally", "from", "global", "import", "lambda", "nonlocal", "pass", "raise", "return", "try",
  "while", "with", "yield"]

def isGap (c : Char) : Bool := c == ' ' || c == '\t' || c == '\x0c'

/-- A word, or the text in quotes to which it belongs. -/
def word (lineAt : List Char → Nat) (cs : List Char) : Read Lexeme :=
  let (name, rest) := cs.span isNameChar
  let s := String.ofList name
  match rest with
  | c :: behind =>
    if (c == '"' || c == '\'') && textMarks.contains s.toLower then quotedText lineAt c behind
    else if s = "not" then
      let next := (rest.dropWhile isGap).span isNameChar
      if next.1 = "in".toList then .ok (.between, next.2) else .ok (.before, rest)
    else if constants.contains s then .ok (.operand .other, rest)
    else if wordsBetween.contains s then .ok (.between, rest)
    else if reservedWords.contains s then .ok (.stray, rest)
    else .ok (.operand (.name name), rest)
  | [] =>
    if s = "not" then .ok (.before, [])
    else if constants.contains s then .ok (.operand .other, [])
    else if wordsBetween.contains s then .ok (.between, [])
    else if reservedWords.contains s then .ok (.stray, [])
    else .ok (.operand (.name name), [])

/-- The signs of more than one character, and where they may stand. -/
def longSigns : List (String × Lexeme) := [
  ("...", .operand .other), ("**=", .stray), ("//=", .stray), (">>=", .stray), ("<<=", .stray),
  ("==", .between), ("!=", .between), ("<=", .between), (">=", .between), ("<<", .between),
  (">>", .between), ("**", .between), ("//", .between), ("->", .stray), (":=", .stray),
  ("<>", .stray), ("+=", .stray), ("-=", .stray), ("*=", .stray), ("/=", .stray), ("%=", .stray),
  ("&=", .stray), ("|=", .stray), ("^=", .stray), ("@=", .stray)]

def signs : List (Char × Lexeme) := [
  (',', .comma), (':', .colon), ('=', .equals), ('+', .sign), ('-', .sign), ('~', .before),
  ('*', .between), ('/', .between), ('%', .between), ('@', .between), ('&', .between),
  ('|', .between), ('^', .between), ('<', .between), ('>', .between), ('(', .opening '('),
  ('[', .opening '['), ('{', .opening '{'), (')', .closing ')'), (']', .closing ']'),
  ('}', .closing '}'), ('\n', .lineBreak), (';', .stray), ('!', .stray), ('$', .stray),
  ('?', .stray), ('`', .stray)]

/-- The name of a member behind a point, or the place for it. -/
def memberName (rest : List Char) : Read Lexeme :=
  let behind := rest.dropWhile isGap
  if behind.isEmpty then .ok (.between, [])
  else if behind.head?.any beginsName then .ok (.member, behind.dropWhile isNameChar)
  else .ok (.stray, rest)

/-- The lexeme at the start of a text that begins with neither gap nor comment. -/
def lexeme (lineAt : List Char → Nat) (c : Char) (rest : List Char) : Read Lexeme :=
  let cs := c :: rest
  if c == '"' || c == '\'' then quotedText lineAt c rest
  else if c.isDigit || (c == '.' && rest.head?.any Char.isDigit) then number cs
  else if beginsName c then word lineAt cs
  else
    match longSigns.find? (·.1.toList.isPrefixOf cs), signs.lookup c with
    | some (sign, kind), _ => .ok (kind, cs.drop sign.length)
    | none, some kind => .ok (kind, rest)
    | none, none =>
      if c == '.' then memberName rest
      else if isPrintable c then .error (.badCharacter c)
      else .error (.invisibleCharacter c)

end Propositional.Console.Literal
