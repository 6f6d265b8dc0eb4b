import Mathlib.Data.List.Nodup
import Propositional.Proofs.Atoms

namespace Propositional

/-- The names of a list, each of them once, in the order in which they first occur there. -/
structure FirstSeen (names found : List String) : Prop where
  nodup : found.Nodup
  mem_iff : ∀ name, name ∈ found ↔ name ∈ names
  ordered : found.Pairwise (fun a b => names.idxOf a < names.idxOf b)

theorem first_seen_nil : FirstSeen [] [] :=
  ⟨List.nodup_nil, fun _ => Iff.rfl, List.Pairwise.nil⟩

/-- What comes later does not change where a name first occurred. -/
theorem FirstSeen.ordered_append (h : FirstSeen names found) (more : List String) :
    found.Pairwise (fun a b => (names ++ more).idxOf a < (names ++ more).idxOf b) := by
  apply h.ordered.imp_of_mem
  intro a b ha hb hab
  rw [List.idxOf_append_of_mem ((h.mem_iff a).mp ha),
    List.idxOf_append_of_mem ((h.mem_iff b).mp hb)]
  exact hab

theorem FirstSeen.note (h : FirstSeen names found) (name : String) :
    FirstSeen (names ++ [name]) (Tree.note found name) := by
  unfold Tree.note
  split
  · rename_i hm
    have hn : name ∈ names := (h.mem_iff name).mp hm
    refine ⟨h.nodup, ?_, h.ordered_append [name]⟩
    intro other
    rw [h.mem_iff, List.mem_append, List.mem_singleton]
    exact ⟨Or.inl, fun ho => ho.elim id (fun he => he ▸ hn)⟩
  · rename_i hm
    have hn : name ∉ names := fun hn => hm ((h.mem_iff name).mpr hn)
    refine ⟨?_, ?_, ?_⟩
    · rw [← List.concat_eq_append]
      exact h.nodup.concat hm
    · intro other
      simp only [List.mem_append, h.mem_iff]
    · refine List.pairwise_append.mpr
        ⟨h.ordered_append [name], List.pairwise_singleton _ _, ?_⟩
      intro a ha b hb
      have hmem : a ∈ names := (h.mem_iff a).mp ha
      rw [List.mem_singleton.mp hb, List.idxOf_append_of_mem hmem,
        List.idxOf_append_of_notMem hn]
      exact Nat.lt_add_right _ (List.idxOf_lt_length_of_mem hmem)

theorem FirstSeen.fold (h : FirstSeen names found) (more : List String) :
    FirstSeen (names ++ more) (more.foldl Tree.note found) := by
  induction more generalizing names found with
  | nil => rwa [List.append_nil]
  | cons name more ih =>
    rw [List.append_cons]
    exact ih (h.note name)

namespace Tree

/-- The nodes in the order of a recursive traversal: a node, and then what is below a negation or
any binary node, from the left to the right. -/
def nodes : Tree → List Tree
  | .neg operand => .neg operand :: operand.nodes
  | .binary op left right => .binary op left right :: (left.nodes ++ right.nodes)
  | t => [t]

def name? : Tree → Option String
  | .atom name => some name
  | _ => none

theorem names_of_nodes (t : Tree) : t.nodes.filterMap name? = t.leaves := by
  induction t with
  | atom name => rfl
  | neg operand ih => exact ih
  | binary op left right ihl ihr =>
    have hroot : (binary op left right).nodes.filterMap name? =
        (left.nodes ++ right.nodes).filterMap name? := rfl
    rw [hroot, List.filterMap_append, ihl, ihr, leaves]
  | foreign kind shown => rfl
  | value v => rfl

/-- What the loop over a stack keeps: the trees still to visit, the next one first, and the names
seen so far. -/
structure Walk where
  stack : List Tree
  seen : List String

namespace Walk

/-- One pass of the loop, which has taken a tree from the stack. -/
def visit (rest : List Tree) (seen : List String) : Tree → Walk
  | .atom name => ⟨rest, note seen name⟩
  | .neg operand => ⟨operand :: rest, seen⟩
  | .binary _ left right => ⟨left :: right :: rest, seen⟩
  | .foreign _ _ => ⟨rest, seen⟩
  | .value _ => ⟨rest, seen⟩

/-- The loop goes on until the stack is empty. It has visited some trees by then, one in each
pass, and found some names. -/
inductive Ends : Walk → List Tree → List String → Prop
  | empty : Ends ⟨[], names⟩ [] names
  | pass : Ends (visit rest names t) visited found → Ends ⟨t :: rest, names⟩ (t :: visited) found

/-- A pass may leave more trees on the stack, but one node fewer in them. -/
theorem size_visit (rest : List Tree) (seen : List String) (t : Tree) :
    totalSize (visit rest seen t).stack + 1 = totalSize (t :: rest) := by
  cases t <;> simp only [visit, totalSize, size] <;> omega

theorem nodes_visit (rest : List Tree) (seen : List String) (t : Tree) :
    t :: (visit rest seen t).stack.flatMap nodes = (t :: rest).flatMap nodes := by
  cases t <;> simp [visit, nodes]

theorem collect_visit (rest : List Tree) (seen : List String) (t : Tree) :
    collect (visit rest seen t).stack (visit rest seen t).seen = collect (t :: rest) seen := by
  cases t <;> simp [visit, collect, note]

theorem ends : ∀ w : Walk, w.Ends (w.stack.flatMap nodes) (collect w.stack w.seen)
  | ⟨[], seen⟩ => by
    rw [collect]
    exact .empty
  | ⟨t :: rest, seen⟩ => by
    rw [← nodes_visit rest seen t, ← collect_visit rest seen t]
    exact .pass (ends (visit rest seen t))
termination_by w => totalSize w.stack
decreasing_by
  have hsize := size_visit rest seen t
  omega

/-- From any stack on the loop ends, and in one way only: it visits what the recursive traversals
of the trees on the stack visit, one after the other. -/
theorem ends_iff {w : Walk} : w.Ends visited found ↔
    visited = w.stack.flatMap nodes ∧ found = collect w.stack w.seen := by
  constructor
  · intro h
    induction h with
    | empty => exact ⟨rfl, by rw [collect]⟩
    | pass _ ih =>
      obtain ⟨rfl, rfl⟩ := ih
      exact ⟨nodes_visit _ _ _, collect_visit _ _ _⟩
  · rintro ⟨rfl, rfl⟩
    exact w.ends

end Walk

/-- For every tree the loop over a stack ends. It has visited the nodes in the order of the
recursive traversal, and gives the names of the atoms among them, each once, in the order in which
they first occur. -/
theorem atoms_first_seen (t : Tree) :
    (∀ visited found, Walk.Ends ⟨[t], []⟩ visited found ↔ visited = t.nodes ∧ found = t.atoms) ∧
    FirstSeen (t.nodes.filterMap name?) t.atoms := by
  refine ⟨fun visited found => ?_, ?_⟩
  · rw [Walk.ends_iff, List.flatMap_singleton]
    rfl
  · rw [names_of_nodes, atoms, collect_eq_noted, List.flatMap_singleton]
    exact first_seen_nil.fold t.leaves

example : (binary none (neg (atom "q")) (binary (some .or) (foreign "Bogus" "<bogus>")
    (binary (some .and) (atom "p") (atom "q")))).atoms = ["q", "p"] := by cbv

end Tree

end Propositional
