import Propositional.Console.Literal.Lexeme

namespace Propositional.Console.Literal

/-- A bracket that is open, whether it follows an operand, and what was known before it. -/
structure Bracket where
  mark : Char
  follows : Bool
  target : Target
  isFresh : Bool
  deriving DecidableEq

/-- How far an expression has been read: the brackets open, the last one first; whether an operand
has just been read, whether it is a text, and whether the brackets may be closed without one; what
a value might be assigned to, and whether it stands alone; the target of an equals sign whose value
is missing; a fault that waits for the end of an operand at some depth; and the first fault for
certain. -/
structure Progress where
  opened : List Bracket
  isComplete : Bool
  isText : Bool
  mayEnd : Bool
  target : Target
  isFresh : Bool
  assigned : Option Target
  waiting : Option (Nat × Fault)
  fault : Option Fault
  deriving DecidableEq

namespace Progress

def start : Progress := ⟨[], false, false, false, .other, true, none, none, none⟩

def depth (p : Progress) : Nat := p.opened.length

/-- A waiting fault comes before a new one. -/
def blame (p : Progress) (f : Fault) : Progress :=
  if p.fault.isSome then p else { p with fault := some ((p.waiting.map (·.2)).getD f) }

/-- A fault need wait no longer where its operand ends. -/
def settle (p : Progress) : Progress :=
  match p.waiting with
  | some (depth, f) => if depth = p.depth then p.blame f else p
  | none => p

/-- Where an operand follows another. -/
def adjacency (p : Progress) (isText : Bool) : Fault :=
  match p.target with
  | .name cs =>
    let name := String.ofList cs
    if name = "print" ∨ name = "exec" then .missingParentheses cs
    else if p.depth = 0 ∨ isText ∨ name ∈ ["_", "match", "case"] then .malformed
    else .missingComma
  | _ => if p.depth = 0 then .malformed else .missingComma

def addOperand (p : Progress) (target : Target) (isText : Bool) : Progress :=
  if p.isComplete then
    match p.waiting with
    | some (_, f) => if p.depth = 0 then p else p.blame f
    | none => { p with waiting := some (p.depth, p.adjacency isText), target, isFresh := true }
  else
    match p.assigned with
    | some left =>
      { p with
        isComplete := true
        assigned := none
        waiting := p.waiting.or (some (p.depth, .assigned left)) }
    | none => { p with isComplete := true, target := if p.isFresh then target else .expression }

/-- Texts side by side are one text. -/
def addText (p : Progress) : Progress := if p.isText then p else p.addOperand .literal true

/-- Before an operand that is still to come. -/
def expect (p : Progress) : Progress := { p with isComplete := false, mayEnd := false }

def addOpening (p : Progress) (mark : Char) : Progress :=
  let follows := p.isComplete && mark != '{'
  let p := if follows then p else p.addOperand .other false
  { p with
    opened := ⟨mark, follows, p.target, p.isFresh⟩ :: p.opened
    isComplete := false
    mayEnd := true
    isFresh := true }

def closer : Char → Char
  | '(' => ')'
  | '[' => ']'
  | _ => '}'

/-- What a bracket makes of what stands before it. -/
def Bracket.result (b : Bracket) : Target :=
  if !b.follows then b.target
  else if !b.isFresh then .expression
  else if b.mark == '(' then .call
  else .subscript

def addClosing (p : Progress) (mark : Char) : Except Fault Progress :=
  match p.opened with
  | [] => .error (.unmatched mark)
  | b :: outer =>
    if closer b.mark ≠ mark then .error (.mismatched b.mark mark)
    else
      let p := p.settle
      let p := if p.isComplete || p.mayEnd then p else p.blame .malformed
      .ok { p with
        opened := outer
        isComplete := true
        mayEnd := false
        target := Bracket.result b
        isFresh := b.isFresh
        assigned := none }

def addComma (p : Progress) : Progress :=
  let p := p.settle
  let p := if p.isComplete then p else p.blame .malformed
  { p with isComplete := false, mayEnd := true, isFresh := true, assigned := none }

/-- A colon stands behind a key, or cuts a subscript. -/
def addColon (p : Progress) : Progress :=
  match p.opened with
  | b :: _ =>
    let p := p.settle
    if b.mark = '{' ∧ p.isComplete then { p.expect with isFresh := true }
    else if b.mark = '[' ∧ b.follows then
      { p with isComplete := false, mayEnd := true, isFresh := true }
    else p.blame .malformed
  | [] => p.blame .malformed

/-- An equals sign names an argument of a call; elsewhere in brackets the fault is told when its
value has been read. -/
def addEquals (p : Progress) : Progress :=
  match p.opened with
  | b :: _ =>
    if !p.isComplete || p.waiting.isSome then p.blame .malformed
    else if b.mark = '(' ∧ b.follows then { p.expect with isFresh := true }
    else { p.expect with assigned := some p.target }
  | [] => p.blame .malformed

def addBetween (p : Progress) : Progress :=
  if p.isComplete then { p.expect with isFresh := false } else p.blame .malformed

def addBefore (p : Progress) : Progress :=
  let p := if p.isComplete then p.addOperand .expression false else p
  { p.expect with isFresh := false }

def addMember (p : Progress) : Progress :=
  if p.isComplete then { p with target := if p.isFresh then .member else .expression }
  else p.blame .malformed

def step (p : Progress) : Lexeme → Except Fault Progress
  | .operand target => .ok (p.addOperand target false)
  | .text => .ok p.addText
  | .opening mark => .ok (p.addOpening mark)
  | .closing mark => p.addClosing mark
  | .comma => .ok p.addComma
  | .colon => .ok p.addColon
  | .equals => .ok p.addEquals
  | .member => .ok p.addMember
  | .between => .ok p.addBetween
  | .before => .ok p.addBefore
  | .sign => .ok (if p.isComplete then p.addBetween else p.addBefore)
  | .lineBreak => .ok (if p.depth = 0 then p.blame .malformed else p)
  | .stray => .ok (p.blame .malformed)

/-- A line break between texts does not part them. -/
def add (p : Progress) (l : Lexeme) : Except Fault Progress :=
  (p.step l).map (fun next =>
    { next with isText := l = .text ∨ (l = .lineBreak ∧ p.isText) })

/-- The end of the text. -/
def finish (p : Progress) : Except Fault Unit :=
  match p.fault, p.opened, p.waiting with
  | some f, _, _ => .error f
  | none, b :: _, _ => .error (.neverClosed b.mark)
  | none, [], some (_, f) => .error f
  | none, [], none => if p.isComplete || p.mayEnd then .ok () else .error .malformed

end Progress

/-- Reads an expression to its end. A fault of a lexeme comes before a fault of their order,
wherever it stands. Each step takes a character, so that the length of the text is enough fuel. -/
def readAll (lineAt : List Char → Nat) : Nat → Progress → List Char → Except Fault Unit
  | 0, p, _ => p.finish
  | _, p, [] => p.finish
  | fuel + 1, p, c :: rest =>
    if isGap c then readAll lineAt fuel p rest
    else if c == '#' then readAll lineAt fuel p (rest.dropWhile (· != '\n'))
    else if c == '\\' then
      match rest with
      | '\n' :: rest => readAll lineAt fuel p rest
      | _ => .error .badContinuation
    else
      match lexeme lineAt c rest with
      | .error f => .error f
      | .ok (l, rest) =>
        match p.add l with
        | .error f => .error f
        | .ok p => readAll lineAt fuel p rest

/-- Whether a text reads as a literal. What is written well counts as one, even where it names
something. -/
def check (cs : List Char) : Except Fault Unit :=
  let lineAt (rest : List Char) : Nat := cs.count '\n' - rest.count '\n' + 1
  readAll lineAt cs.length .start cs

end Propositional.Console.Literal
