import Propositional.Formula
import Propositional.Json.Value

namespace Propositional

/-- A formula made by hand, which may hold what no formula holds: a binary node without a
connective, a node of a foreign kind, or a plain value. -/
inductive Tree
  | atom (name : String)
  | neg (operand : Tree)
  | binary (op : Option Connective) (left right : Tree)
  | foreign (kind shown : String)
  | value (v : Json.Value)
  deriving Inhabited

def Formula.toTree : Formula → Tree
  | .atom name => .atom name
  | .neg operand => .neg operand.toTree
  | .binary op left right => .binary (some op) left.toTree right.toTree

/-- The values of the variables. -/
abbrev Assignment := List (String × Json.Value)

/-- A variable that has no value is false. -/
def Assignment.truth (a : Assignment) (name : String) : Bool :=
  ((a.lookup name).map Json.Value.truthy).getD false

/-- A node that has no truth value. -/
structure UnknownNode where
  kind : String
  deriving DecidableEq

def UnknownNode.message (e : UnknownNode) : String := "unknown node type: " ++ e.kind

namespace Tree

/-- Both sides of a connective are evaluated, the left one first. -/
def evaluate (a : Assignment) : Tree → Except UnknownNode Bool
  | .atom name => .ok (a.truth name)
  | .neg operand => do
    let b ← operand.evaluate a
    return !b
  | .binary (some op) left right => do
    let l ← left.evaluate a
    let r ← right.evaluate a
    return op.apply l r
  | .binary none _ _ => .error ⟨"BinaryNode"⟩
  | .foreign kind _ => .error ⟨kind⟩
  | .value v => .error ⟨v.kind⟩

def size : Tree → Nat
  | .neg operand => operand.size + 1
  | .binary _ left right => left.size + right.size + 1
  | _ => 1

def totalSize : List Tree → Nat
  | [] => 0
  | t :: rest => t.size + totalSize rest

/-- The names met on a stack of trees still to visit, behind those seen before. -/
def collect : List Tree → List String → List String
  | [], seen => seen
  | .atom name :: rest, seen =>
    collect rest (if name ∈ seen then seen else seen ++ [name])
  | .neg operand :: rest, seen => collect (operand :: rest) seen
  | .binary _ left right :: rest, seen => collect (left :: right :: rest) seen
  | .foreign _ _ :: rest, seen => collect rest seen
  | .value _ :: rest, seen => collect rest seen
termination_by stack => totalSize stack
decreasing_by all_goals simp only [totalSize, size]; omega

/-- The names of the atoms, each once, in the order of their first appearance. -/
def atoms (t : Tree) : List String := collect [t] []

/-- The number of nodes on the longest path to a leaf. -/
def height : Tree → Nat
  | .neg operand => operand.height + 1
  | .binary _ left right => max left.height right.height + 1
  | _ => 1

def symbol : Option Connective → String
  | some op => op.symbol
  | none => "?"

/-- A text stands for itself here, any other value for what messages show. -/
def render : Tree → String
  | .atom name => name
  | .neg operand => "¬" ++ operand.render
  | .binary op left right => "(" ++ left.render ++ " " ++ symbol op ++ " " ++ right.render ++ ")"
  | .foreign _ shown => shown
  | .value (.text s) => s
  | .value v => v.shown

def nodeName : Option Connective → String
  | some .and => "AndNode"
  | some .or => "OrNode"
  | some .implies => "ImpliesNode"
  | some .iff => "BiconditionalNode"
  | none => "BinaryNode"

/-- The nodes by name, with their parts. -/
def describe : Tree → String
  | .atom name => s!"AtomNode(name={Text.quote name})"
  | .neg operand => s!"NotNode(operand={operand.describe})"
  | .binary op left right => s!"{nodeName op}(left={left.describe}, right={right.describe})"
  | .foreign _ shown => shown
  | .value v => v.shown

/-- Both forms of a tree that is not too high. -/
def shown? [Interpreter] (t : Tree) : Option (String × String) :=
  if t.height ≤ Interpreter.maxHeight then some (t.render, t.describe) else none

end Tree

/-- The variables of a formula in the order of their first appearance. -/
def Formula.atoms (φ : Formula) : List String := φ.toTree.atoms

end Propositional
