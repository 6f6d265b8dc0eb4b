import Propositional.Proofs.Exhaustion

namespace Propositional

/-- What a scan leaves open is what it had open and what it opened, less what it closed. -/
theorem Scan.walk_balance {s s' : Scan} (h : s.walk ts = some s') :
    s'.opened + ts.count Token.closing = s.opened + ts.count Token.opening := by
  induction ts generalizing s with
  | nil =>
    cases h
    rfl
  | cons token ts ih =>
    obtain ⟨next, hs⟩ := walk_first h
    rw [walk_step hs] at h
    have hrest := ih h
    cases takes_of_step hs with
    | letter d name =>
      rw [List.count_cons_of_ne (by simp [Token.closing]),
        List.count_cons_of_ne (by simp [Token.opening])]
      exact hrest
    | negation d =>
      rw [List.count_cons_of_ne (by decide), List.count_cons_of_ne (by decide)]
      exact hrest
    | opening hd =>
      simp only [opened] at hrest ⊢
      rw [List.count_cons_of_ne (by decide), List.count_cons_self]
      omega
    | connective d op =>
      rw [List.count_cons_of_ne op.token_ne_closing, List.count_cons_of_ne (by cases op <;> decide)]
      exact hrest
    | closing d =>
      simp only [opened] at hrest ⊢
      rw [List.count_cons_self, List.count_cons_of_ne (by decide)]
      omega

theorem Scan.opened_le {s s' : Scan} (h : s.walk ts = some s') (hs : s.opened ≤ nestingLimit) :
    s'.opened ≤ nestingLimit := by
  induction ts generalizing s with
  | nil =>
    cases h
    exact hs
  | cons token ts ih =>
    obtain ⟨next, hn⟩ := walk_first h
    rw [walk_step hn] at h
    refine ih h ?_
    cases takes_of_step hn with
    | opening hd => exact hd
    | closing d => exact Nat.le_of_succ_le hs
    | letter | negation | connective => exact hs

namespace Cursor

/-- Tokens are read between two cursors, and the depth has followed their parentheses without
passing the limit. -/
structure Consumes (c : Cursor) (tokens : List Token) (c' : Cursor) : Prop where
  passes : c.Passes tokens c'
  balance : c'.depth + tokens.count Token.closing = c.depth + tokens.count Token.opening
  depth : c.depth ≤ nestingLimit → c'.depth ≤ nestingLimit

theorem Consumes.refl (c : Cursor) : c.Consumes [] c := ⟨.refl c, rfl, id⟩

theorem Consumes.of_walk {c c' : Cursor} {s : Scan} (hp : c.Passes ts c')
    (hs : (Scan.operand c.depth).walk ts = some s) (hd : c'.depth = s.opened) :
    c.Consumes ts c' :=
  ⟨hp, hd ▸ Scan.walk_balance hs, fun hc => hd ▸ Scan.opened_le hs hc⟩

/-- What a formula read leaves behind it: at least one token is gone, and the depth is as before. -/
def Gains (c c' : Cursor) : Prop :=
  ∃ ts, ts ≠ [] ∧ c'.depth = c.depth ∧ c.Consumes ts c'

/-- What a syntax error leaves: the cursor stands where the error lies. -/
def Halts (c : Cursor) (e : SyntaxError) (c' : Cursor) : Prop :=
  e.position = c'.position ∧ ∃ ts, c.Consumes ts c'

theorem Reads.gains {c c' : Cursor} (h : c.Reads level φ c') : c.Gains c' := by
  obtain ⟨ts, hp, hd, hder, _⟩ := h
  have hw := hder.scan (Nat.le_refl _)
  refine ⟨ts, ?_, hd, .of_walk hp hw hd⟩
  rintro rfl
  cases hw

theorem Blocked.halts {c c' : Cursor} (h : c.Blocked (.operand c.depth) e c') :
    c.Halts e c' := by
  obtain ⟨ts, s, hp, hw, _, _, he, hd⟩ := h
  exact ⟨he, ts, .of_walk hp hw hd⟩

/-- Every level, called at any cursor, reads a formula or stops at an error. The primary level
takes no `¬`, which the levels above it never leave to it, and stops there at once. -/
theorem formula_settles (calls : Nat) (level : Level) (c : Cursor) :
    (formula calls level c).Meets (fun _ c' => c.Gains c') c.Halts := by
  obtain ⟨hlevels, hprimary⟩ := formula_meets calls
  by_cases hne : level = .primary
  · subst hne
    by_cases hat : c.isAt "¬"
    · cases calls with
      | zero => trivial
      | succ calls =>
        obtain ⟨us, hc⟩ := is_at_cons (is_at_iff.mp hat)
        simp only [formula, hc]
        exact ⟨rfl, [], .refl c⟩
    · exact (hprimary c hat).mono (fun _ _ h => h.gains) (fun _ _ h => h.halts)
  · exact (hlevels level hne c).mono (fun _ _ h => h.gains) (fun _ _ h => h.halts)

theorem parse_settles [Interpreter] (c : Cursor) :
    c.parse.Meets (fun _ c' => c.Gains c') c.Halts := by
  refine (formula_settles callLimit .biconditional c).and_then ?_ (fun _ _ h => h)
  intro φ c' hg
  split
  · exact hg
  · obtain ⟨ts, _, _, hc⟩ := hg
    exact ⟨rfl, ts, hc⟩

/-- What can be called on a cursor from outside. -/
inductive Call
  | parse
  | formula (level : Level)
  | peek
  | advance
  | isAt (symbol : String)

inductive Answer
  | formula (φ : Formula)
  | token (token? : Option Token)
  | truth (b : Bool)

namespace Call

def answer [Interpreter] : Call → Cursor → Outcome Answer
  | .parse, c => c.parse.map .formula
  | .formula level, c => (c.formula callLimit level).map .formula
  | .peek, c => .done (.token c.peek) c
  | .advance, c => c.advance.map (fun token => .token (some token))
  | .isAt symbol, c => .done (.truth (c.isAt symbol)) c

/-- The calls for a whole formula. -/
def ReadsFormula : Call → Prop
  | .parse | .formula _ => True
  | .peek | .advance | .isAt _ => False

end Call

section
variable [Interpreter]

/-- A sequence of calls, none of which runs out of calls of its own, leads from one cursor to the
other. After an error the next call goes on where the error left the cursor. -/
inductive Reaches (c : Cursor) : Cursor → Prop
  | refl : Reaches c c
  | step (h : Reaches c c') (call : Call) (hx : ¬(call.answer c').Exhausted) :
      Reaches c (call.answer c').cursor

theorem Call.reads_settles (h : ReadsFormula call) (c : Cursor) :
    (call.answer c).Meets (fun _ c' => c.Gains c') c.Halts := by
  cases call with
  | parse => exact (parse_settles c).map (fun _ _ h => h) (fun _ _ h => h)
  | formula level =>
    exact (formula_settles callLimit level c).map (fun _ _ h => h) (fun _ _ h => h)
  | peek | advance | isAt => exact h.elim

/-- A call for a formula returns or raises a syntax error, if it does not run out of calls. -/
theorem Call.reads_cases (h : ReadsFormula call) {c : Cursor}
    (hx : ¬(call.answer c).Exhausted) :
    (∃ answer c', call.answer c = .done answer c' ∧ c.Gains c') ∨
    ∃ e c', call.answer c = .fail (.malformed e) c' ∧ c.Halts e c' := by
  have hm := reads_settles h c
  cases ha : call.answer c with
  | done answer c' =>
    rw [ha] at hm
    exact .inl ⟨answer, c', rfl, hm⟩
  | fail failure c' =>
    rw [ha] at hm hx
    cases failure with
    | malformed e => exact .inr ⟨e, c', rfl, hm⟩
    | callsExhausted => exact absurd ⟨c', rfl⟩ hx
    | noToken => exact hm.elim

/-- A call passes some tokens, and leaves the depth within the limit. -/
theorem Call.passes {c : Cursor} (call : Call) (hx : ¬(call.answer c).Exhausted) :
    ∃ ts, c.Passes ts (call.answer c).cursor ∧
      (c.depth ≤ nestingLimit → (call.answer c).cursor.depth ≤ nestingLimit) := by
  have hreads : ReadsFormula call → ∃ ts, c.Consumes ts (call.answer c).cursor := by
    intro hr
    rcases reads_cases hr hx with ⟨_, c', ha, ts, _, _, hc⟩ | ⟨_, c', ha, _, ts, hc⟩
    · exact ⟨ts, by rwa [ha]⟩
    · exact ⟨ts, by rwa [ha]⟩
  cases call with
  | parse =>
    obtain ⟨ts, hc⟩ := hreads trivial
    exact ⟨ts, hc.passes, hc.depth⟩
  | formula level =>
    obtain ⟨ts, hc⟩ := hreads trivial
    exact ⟨ts, hc.passes, hc.depth⟩
  | peek | isAt => exact ⟨[], .refl c, id⟩
  | advance =>
    cases hc : c.rest with
    | nil =>
      have ha : (answer .advance c).cursor = c := by
        simp [answer, Cursor.advance, Cursor.peek, hc, Outcome.map, Outcome.andThen, Outcome.cursor]
      rw [ha]
      exact ⟨[], .refl c, id⟩
    | cons token us =>
      have ha : (answer .advance c).cursor = c.next := by
        simp [answer, Cursor.advance, Cursor.peek, hc, Outcome.map, Outcome.andThen, Outcome.cursor]
      rw [ha]
      exact ⟨[token], passes_next hc, id⟩

end

/-- The cursor stands somewhere in the tokens, and its depth is within the limit. -/
structure Stands (ts : List Token) (c : Cursor) : Prop where
  rest : c.rest = ts.drop c.position
  position : c.position ≤ ts.length
  depth : c.depth ≤ nestingLimit

theorem stands_start (ts : List Token) : Stands ts (start ts) :=
  ⟨rfl, Nat.zero_le _, Nat.zero_le _⟩

theorem Stands.passes {c c' : Cursor} (h : Stands ts c) (hp : c.Passes us c')
    (hd : c'.depth ≤ nestingLimit) : Stands ts c' := by
  have hsplit : ts.drop c.position = us ++ c'.rest := h.rest.symm.trans hp.rest
  have hlength := congrArg List.length hsplit
  rw [List.length_drop, List.length_append] at hlength
  refine ⟨?_, ?_, hd⟩
  · rw [hp.position, ← List.drop_drop, hsplit, List.drop_left]
  · rw [hp.position]
    have := h.position
    omega

/-- The tokens between two places. -/
theorem Stands.consumed {c c' : Cursor} (h : Stands ts c) (hp : c.Passes us c') :
    (ts.take c'.position).drop c.position = us := by
  rw [hp.position, List.drop_take, ← h.rest, hp.rest, Nat.add_sub_cancel_left, List.take_left]

theorem Stands.reaches [Interpreter] {c c' : Cursor} (h : Stands ts c) (hr : Reaches c c') :
    Stands ts c' ∧ c.position ≤ c'.position := by
  induction hr with
  | refl => exact ⟨h, Nat.le_refl _⟩
  | step _ call hx ih =>
    obtain ⟨hs, hle⟩ := ih
    obtain ⟨us, hp, hd⟩ := call.passes hx
    refine ⟨hs.passes hp (hd hs.depth), Nat.le_trans hle ?_⟩
    rw [hp.position]
    exact Nat.le_add_right _ _

/-- The change of the depth, by the parentheses among the tokens between two places. -/
theorem Stands.balance {c c' : Cursor} (h : Stands ts c) (hc : c.Consumes us c') :
    (c'.depth : Int) - c.depth =
      ((ts.take c'.position).drop c.position).count Token.opening -
        ((ts.take c'.position).drop c.position).count Token.closing := by
  rw [h.consumed hc.passes]
  have := hc.balance
  omega

/-- However a parser is used, and after errors too, it stands somewhere in the tokens it was made
for, which stay the same, and it never goes back. Every call for a formula that returns has gone
forward and left the depth as it was; every such call that raises an error names the place where it
stands; and either changes the depth by the parentheses it has passed. -/
theorem consistent [Interpreter] (h : Reaches (start ts) c) :
    c.rest = ts.drop c.position ∧ c.position ≤ ts.length ∧ c.depth ≤ 50 ∧
    (∀ c', Reaches c c' → c.position ≤ c'.position) ∧
    ∀ call : Call, call.ReadsFormula → ¬(call.answer c).Exhausted →
      ((∃ answer c', call.answer c = .done answer c' ∧ c.position < c'.position ∧
          c'.depth = c.depth) ∨
        ∃ e c', call.answer c = .fail (.malformed e) c' ∧ e.position = c'.position) ∧
      ((call.answer c).cursor.depth : Int) - c.depth =
        ((ts.take (call.answer c).cursor.position).drop c.position).count Token.opening -
          ((ts.take (call.answer c).cursor.position).drop c.position).count Token.closing := by
  obtain ⟨hs, _⟩ := (stands_start ts).reaches h
  refine ⟨hs.rest, hs.position, hs.depth, fun c' hr => (hs.reaches hr).2, ?_⟩
  intro call hr hx
  rcases Call.reads_cases hr hx with ⟨answer, c', ha, us, hne, hd, hc⟩ | ⟨e, c', ha, he, us, hc⟩
  · rw [ha]
    refine ⟨.inl ⟨answer, c', rfl, ?_, hd⟩, hs.balance hc⟩
    rw [hc.passes.position]
    exact Nat.lt_add_of_pos_right (List.length_pos_iff.mpr hne)
  · rw [ha]
    exact ⟨.inr ⟨e, c', rfl, he⟩, hs.balance hc⟩

/-- Two parentheses are open after an error, and stay open beside the formula that is read next. -/
theorem consistent_leaked :
    Reaches (start (Token.scan "((→ p")) ⟨Token.scan "→ p", 2, 2⟩ ∧
    (Token.scan "→ p" = (Token.scan "((→ p").drop 2 ∧ 2 ≤ (Token.scan "((→ p").length ∧ 2 ≤ 50) ∧
    Reaches (start (Token.scan "((→ p")) ⟨Token.scan "p", 3, 2⟩ ∧
    Call.answer (.formula .negation) ⟨Token.scan "p", 3, 2⟩ =
      .done (.formula (.atom "p")) ⟨[], 4, 2⟩ ∧
    ((2 : Nat) : Int) - (2 : Nat) = (((Token.scan "((→ p").take 4).drop 3).count Token.opening -
      (((Token.scan "((→ p").take 4).drop 3).count Token.closing := by
  have hparse : Call.answer .parse (start (Token.scan "((→ p")) =
      .fail (.malformed ⟨.unexpected "→", 2⟩) ⟨Token.scan "→ p", 2, 2⟩ := rfl
  have hmalformed : ¬(Call.answer .parse (start (Token.scan "((→ p"))).Exhausted := by
    rw [hparse]
    rintro ⟨_, h⟩
    cases h
  have hfirst : Reaches (start (Token.scan "((→ p")) ⟨Token.scan "→ p", 2, 2⟩ :=
    Reaches.refl.step .parse hmalformed
  have hsecond : Reaches (start (Token.scan "((→ p")) ⟨Token.scan "p", 3, 2⟩ :=
    hfirst.step .advance Outcome.not_exhausted_done
  have hread : Call.answer (.formula .negation) ⟨Token.scan "p", 3, 2⟩ =
      .done (.formula (.atom "p")) ⟨[], 4, 2⟩ := rfl
  obtain ⟨hrest, hposition, hdepth, _⟩ := consistent hfirst
  obtain ⟨_, _, _, _, hcalls⟩ := consistent hsecond
  have hx : ¬(Call.answer (.formula .negation) ⟨Token.scan "p", 3, 2⟩).Exhausted :=
    Outcome.not_exhausted_done
  exact ⟨hfirst, ⟨hrest, hposition, hdepth⟩, hsecond, hread,
    (hcalls (.formula .negation) trivial hx).2⟩

end Cursor

end Propositional
