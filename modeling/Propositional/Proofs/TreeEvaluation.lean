import Propositional.Proofs.Atoms
import Propositional.Proofs.Outcomes

namespace Propositional

namespace Tree

/-- What leaves an evaluation without a truth value. -/
inductive Stop
  | unknown (e : UnknownNode)
  | callsExhausted

theorem Stop.unknown_cancel {x y : Except UnknownNode Bool}
    (h : x.mapError unknown = y.mapError unknown) : x = y := by
  cases x <;> cases y <;> cases h <;> rfl

/-- The evaluation, as far as so many calls at one time suffice for it. A node is a call, which
calls its operands one after the other. -/
def evaluateWithin (a : Assignment) : Nat → Tree → Except Stop Bool
  | 0, _ => .error .callsExhausted
  | calls + 1, .neg operand => do
    let b ← evaluateWithin a calls operand
    return !b
  | calls + 1, .binary (some op) left right => do
    let l ← evaluateWithin a calls left
    let r ← evaluateWithin a calls right
    return op.apply l r
  | _ + 1, t => (t.evaluate a).mapError .unknown

/-- As many calls as a tree is high are enough. -/
theorem evaluate_within (a : Assignment) {t : Tree} (h : t.height ≤ calls) :
    t.evaluateWithin a calls = (t.evaluate a).mapError .unknown := by
  induction calls generalizing t with
  | zero => cases t <;> simp [height] at h
  | succ calls ih =>
    cases t with
    | atom | foreign | value => rfl
    | neg operand =>
      have ho : operand.height ≤ calls := by simpa [height] using h
      rw [evaluateWithin, ih ho, evaluate]
      cases operand.evaluate a <;> rfl
    | binary op left right =>
      have hlr : left.height ≤ calls ∧ right.height ≤ calls := by
        simpa [height, Nat.max_le] using h
      cases op with
      | none => rfl
      | some op =>
        rw [evaluateWithin, ih hlr.1, ih hlr.2, evaluate]
        cases left.evaluate a <;> cases right.evaluate a <;> rfl

/-- Two evaluations ask for the same names, one after the other, so that they come to the same end
if they are told the same. -/
theorem evaluate_within_congr {a b : Assignment} {t : Tree}
    (h : ∀ name ∈ t.leaves, a.truth name = b.truth name) (calls : Nat) :
    t.evaluateWithin a calls = t.evaluateWithin b calls := by
  induction calls generalizing t with
  | zero => rfl
  | succ calls ih =>
    cases t with
    | atom name => simp [evaluateWithin, evaluate, h name List.mem_cons_self]
    | neg operand =>
      have ho : operand.evaluateWithin a calls = operand.evaluateWithin b calls := ih h
      rw [evaluateWithin, evaluateWithin, ho]
    | binary op left right =>
      cases op with
      | none => rfl
      | some op =>
        have hl := ih (fun name hm => h name (List.mem_append_left _ hm))
        have hr := ih (fun name hm => h name (List.mem_append_right _ hm))
        rw [evaluateWithin, evaluateWithin, hl, hr]
    | foreign | value => rfl

/-- An evaluation sees nothing of an assignment but the truth of the atoms. Under two assignments
that agree on it a tree has one truth value or one unknown node, and they run out of the same
calls. -/
theorem evaluate_sees_atoms {a b : Assignment} {t : Tree}
    (h : ∀ name ∈ t.atoms, a.truth name = b.truth name) :
    t.evaluate a = t.evaluate b ∧
    ∀ calls, t.evaluateWithin a calls = t.evaluateWithin b calls := by
  have hwithin := evaluate_within_congr (fun name hm => h name (mem_atoms.mpr hm))
  refine ⟨?_, hwithin⟩
  have hall := hwithin t.height
  rw [evaluate_within a (Nat.le_refl _), evaluate_within b (Nat.le_refl _)] at hall
  exact Stop.unknown_cancel hall

theorem evaluate_sees_atoms_odd_values :
    (∀ name ∈ (binary (some .or) (neg (atom "p")) (binary none (atom "q") (value .null))).atoms,
      Assignment.truth [("p", .text "0"), ("r", .int 1)] name =
        Assignment.truth [("q", .list []), ("p", .list [.int 0])] name) ∧
    (binary (some .or) (neg (atom "p")) (binary none (atom "q") (value .null))).evaluate
        [("p", .text "0"), ("r", .int 1)] =
      (binary (some .or) (neg (atom "p")) (binary none (atom "q") (value .null))).evaluate
        [("q", .list []), ("p", .list [.int 0])] := by
  have hatoms : (binary (some .or) (neg (atom "p"))
      (binary none (atom "q") (value .null))).atoms = ["p", "q"] := by
    rw [atoms_eq]
    rfl
  have htruth : ∀ name ∈ ["p", "q"], Assignment.truth [("p", .text "0"), ("r", .int 1)] name =
      Assignment.truth [("q", .list []), ("p", .list [.int 0])] name := by decide
  rw [hatoms]
  exact ⟨htruth, (evaluate_sees_atoms (by rwa [hatoms])).1⟩

/-- The kind of a node, if it is none of those that have a truth value. -/
def unknownKind? : Tree → Option String
  | .atom _ | .neg _ | .binary (some _) _ _ => none
  | .binary none _ _ => some "BinaryNode"
  | .foreign kind _ => some kind
  | .value v => some v.kind

/-- The nodes to which `¬` and the connectives lead from the root, from left to right. -/
def reached : Tree → List Tree
  | .neg operand => .neg operand :: operand.reached
  | .binary (some op) left right =>
    .binary (some op) left right :: (left.reached ++ right.reached)
  | t => [t]

/-- The kind of the first of them that has no truth value. -/
def firstUnknown? (t : Tree) : Option String := t.reached.findSome? unknownKind?

theorem first_unknown_neg (operand : Tree) :
    (neg operand).firstUnknown? = operand.firstUnknown? := rfl

theorem first_unknown_binary (op : Connective) (left right : Tree) :
    (binary (some op) left right).firstUnknown? =
      left.firstUnknown?.or right.firstUnknown? := by
  have hroot : (binary (some op) left right).firstUnknown? =
      (left.reached ++ right.reached).findSome? unknownKind? := rfl
  rw [hroot, List.findSome?_append]
  rfl

/-- The right side of a connective is evaluated whatever the left one is, and after it. -/
theorem evaluate_settles (t : Tree) (a : Assignment) :
    Settles (fun e => t.firstUnknown? = some e.kind) (t.evaluate a)
      (fun _ => t.firstUnknown? = none) := by
  induction t with
  | atom name => rfl
  | neg operand ih =>
    rw [evaluate, first_unknown_neg]
    exact ih.bind (fun _ h => h)
  | binary op left right ihl ihr =>
    cases op with
    | none => rfl
    | some op =>
      rw [evaluate, first_unknown_binary]
      refine (ihl.mono ?_ (fun _ h => h)).bind (fun l hl => ?_)
      · intro e he
        rw [he, Option.some_or]
      · rw [hl, Option.none_or]
        exact ihr.bind (fun _ h => h)
  | foreign kind shown => rfl
  | value v => rfl

theorem evaluate_error_iff {t : Tree} :
    t.evaluate a = .error e ↔ t.firstUnknown? = some e.kind := by
  have hs := t.evaluate_settles a
  constructor
  · intro h
    rwa [h] at hs
  · intro h
    cases he : t.evaluate a with
    | ok b =>
      rw [he] at hs
      cases hs.symm.trans h
    | error e' =>
      rw [he] at hs
      obtain ⟨kind⟩ := e
      obtain ⟨kind'⟩ := e'
      cases hs.symm.trans h
      rfl

theorem first_unknown_eq_none {t : Tree} :
    t.firstUnknown? = none ↔ ∀ node ∈ t.reached, node.unknownKind? = none :=
  List.findSome?_eq_none_iff

theorem evaluate_fails_iff {t : Tree} :
    (∃ e, t.evaluate a = .error e) ↔ ∃ node ∈ t.reached, node.unknownKind? ≠ none := by
  have hfirst : t.firstUnknown? ≠ none ↔ ∃ node ∈ t.reached, node.unknownKind? ≠ none := by
    rw [Ne, first_unknown_eq_none]
    simp
  rw [← hfirst, Option.ne_none_iff_exists']
  simp only [evaluate_error_iff]
  exact ⟨fun ⟨e, he⟩ => ⟨e.kind, he⟩, fun ⟨kind, hk⟩ => ⟨⟨kind⟩, hk⟩⟩

/-- The trees of formulas have no unknown nodes. -/
theorem reached_of_formula {φ : Formula} (h : node ∈ φ.toTree.reached) :
    node.unknownKind? = none := by
  have hs := φ.toTree.evaluate_settles []
  rw [φ.evaluate_tree] at hs
  exact first_unknown_eq_none.mp hs node h

/-- An evaluation fails exactly if it comes to a node of an unknown kind, and then it tells of the
first one from the left, whatever the assignment. In what is read from tokens there are none. -/
theorem evaluate_tells_first_unknown [Interpreter] :
    (∀ (t : Tree) (a : Assignment),
      ((∃ e, t.evaluate a = .error e) ↔ ∃ node ∈ t.reached, node.unknownKind? ≠ none) ∧
      ∀ e, t.evaluate a = .error e →
        (∃ before node after kind, t.reached = before ++ node :: after ∧
          (∀ other ∈ before, other.unknownKind? = none) ∧ node.unknownKind? = some kind ∧
          e.message = "unknown node type: " ++ kind) ∧
        ∀ b, t.evaluate b = .error e) ∧
    ∀ ts φ, Formula.ofTokens ts = .ok φ →
      (∀ node ∈ φ.toTree.reached, node.unknownKind? = none) ∧
      ∀ a, ∃ b, φ.toTree.evaluate a = .ok b := by
  refine ⟨fun t a => ⟨evaluate_fails_iff, ?_⟩, ?_⟩
  · intro e he
    have hfirst := evaluate_error_iff.mp he
    obtain ⟨before, node, after, hsplit, hnode, hbefore⟩ := List.findSome?_eq_some_iff.mp hfirst
    exact ⟨⟨before, node, after, e.kind, hsplit, hbefore, hnode, rfl⟩,
      fun b => evaluate_error_iff.mpr hfirst⟩
  · intro ts φ _
    exact ⟨fun node hm => reached_of_formula hm, fun a => ⟨_, φ.evaluate_tree a⟩⟩

theorem evaluate_tells_first_unknown_bogus :
    ((binary (some .and) (atom "p") (neg (binary (some .or) (foreign "Bogus" "<bogus>")
        (binary none (atom "q") (value .null))))).evaluate [] = .error ⟨"Bogus"⟩ ∧
      ∀ b, (binary (some .and) (atom "p") (neg (binary (some .or) (foreign "Bogus" "<bogus>")
        (binary none (atom "q") (value .null))))).evaluate b = .error ⟨"Bogus"⟩) ∧
    Formula.ofTokens (Token.scan "p → ¬q") =
      .ok (.binary .implies (.atom "p") (.neg (.atom "q"))) ∧
    ∀ a, ∃ b, (Formula.binary .implies (.atom "p") (.neg (.atom "q"))).toTree.evaluate a =
      .ok b := by
  have he : (binary (some .and) (atom "p") (neg (binary (some .or) (foreign "Bogus" "<bogus>")
      (binary none (atom "q") (value .null))))).evaluate [] = .error ⟨"Bogus"⟩ := rfl
  have hp : Formula.ofTokens (Token.scan "p → ¬q") =
      .ok (.binary .implies (.atom "p") (.neg (.atom "q"))) := rfl
  obtain ⟨hunknown, hread⟩ := evaluate_tells_first_unknown
  exact ⟨⟨he, ((hunknown _ _).2 _ he).2⟩, hp, (hread _ _ hp).2⟩

end Tree

end Propositional
