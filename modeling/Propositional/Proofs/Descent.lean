import Propositional.Proofs.Scan

namespace Propositional

namespace Outcome

/-- A condition on what comes out and one on syntax errors. To run out of calls meets every
condition, to miss a token meets none. -/
def Meets (outcome : Outcome α) (good : α → Cursor → Prop)
    (bad : SyntaxError → Cursor → Prop) : Prop :=
  match outcome with
  | .done result c => good result c
  | .fail (.malformed e) c => bad e c
  | .fail .callsExhausted _ => True
  | .fail .noToken _ => False

theorem Meets.and_then {outcome : Outcome α} {next : α → Cursor → Outcome β}
    (h : outcome.Meets good bad) (hn : ∀ a c, good a c → (next a c).Meets good' bad')
    (hb : ∀ e c, bad e c → bad' e c) : (outcome.andThen next).Meets good' bad' := by
  cases outcome with
  | done a c => exact hn a c h
  | fail failure c =>
    cases failure with
    | malformed e => exact hb e c h
    | callsExhausted => trivial
    | noToken => exact h

theorem Meets.map {outcome : Outcome α} {f : α → β} (h : outcome.Meets good bad)
    (hn : ∀ a c, good a c → good' (f a) c) (hb : ∀ e c, bad e c → bad' e c) :
    (outcome.map f).Meets good' bad' :=
  h.and_then hn hb

theorem Meets.mono {outcome : Outcome α} (h : outcome.Meets good bad)
    (hn : ∀ a c, good a c → good' a c) (hb : ∀ e c, bad e c → bad' e c) :
    outcome.Meets good' bad' := by
  cases outcome with
  | done a c => exact hn a c h
  | fail failure c =>
    cases failure with
    | malformed e => exact hb e c h
    | callsExhausted => trivial
    | noToken => exact h

end Outcome

namespace Cursor

/-- The tokens from one cursor to another, whatever their depths. -/
structure Passes (c : Cursor) (tokens : List Token) (c' : Cursor) : Prop where
  rest : c.rest = tokens ++ c'.rest
  position : c'.position = c.position + tokens.length

theorem Passes.refl (c : Cursor) : c.Passes [] c := ⟨rfl, rfl⟩

theorem Passes.trans {c c' c'' : Cursor} (h : c.Passes ts c') (h' : c'.Passes us c'') :
    c.Passes (ts ++ us) c'' := by
  refine ⟨?_, ?_⟩
  · rw [h.rest, h'.rest, List.append_assoc]
  · rw [h'.position, h.position, List.length_append, Nat.add_assoc]

theorem passes_next {c : Cursor} (h : c.rest = token :: us) : c.Passes [token] c.next := by
  refine ⟨?_, rfl⟩
  simp [next, h]

theorem is_at_iff {c : Cursor} {symbol : String} :
    c.isAt symbol = true ↔ c.rest.head? = some ⟨.operator, symbol⟩ := by
  cases hc : c.rest with
  | nil => simp [isAt, peek, hc]
  | cons token us => simp [isAt, peek, hc, Token.is_operator_iff]

theorem is_at_cons {c : Cursor} (h : c.rest.head? = some token) :
    ∃ us, c.rest = token :: us := by
  cases hc : c.rest with
  | nil => simp [hc] at h
  | cons token' us =>
    rw [hc, List.head?_cons, Option.some.injEq] at h
    exact ⟨us, h ▸ rfl⟩

/-- The scan comes as far as the failure, has to stop there, and complains of the same. -/
def Blocked (s : Scan) (c : Cursor) (e : SyntaxError) (c' : Cursor) : Prop :=
  ∃ ts s', c.Passes ts c' ∧ s.walk ts = some s' ∧ s'.Stuck c'.rest ∧
    e.reason.text = s'.complaint c'.rest.head? ∧ e.position = c'.position ∧
    c'.depth = s'.opened

theorem Blocked.after {c c₁ c' : Cursor} {s s₁ : Scan} (hp : c.Passes ts c₁)
    (hs : s.walk ts = some s₁) (h : c₁.Blocked s₁ e c') : c.Blocked s e c' := by
  obtain ⟨us, s', hu, ho, hrest⟩ := h
  refine ⟨ts ++ us, s', hp.trans hu, ?_, hrest⟩
  rw [Scan.walk_through hs, ho]

end Cursor

/-- The connectives that a level takes along behind an operand. -/
def Level.connectives : Level → List Connective
  | .biconditional => [.iff, .implies, .or, .and]
  | .implication => [.implies, .or, .and]
  | .disjunction => [.or, .and]
  | .conjunction => [.and]
  | .negation | .primary => []

/-- No connective comes next that the level takes along. -/
def Level.StopsAt (level : Level) (rest : List Token) : Prop :=
  ∀ op ∈ level.connectives, rest.head? ≠ some op.token

theorem Level.Joins.connectives (h : Level.Joins level op operand) :
    level.connectives = op :: operand.connectives := by
  cases h <;> rfl

namespace Cursor

/-- A formula of the level reaches from one cursor to the other, and no further. -/
def Reads (level : Level) (c : Cursor) (φ : Formula) (c' : Cursor) : Prop :=
  ∃ ts, c.Passes ts c' ∧ c'.depth = c.depth ∧ Derives (nestingLimit - c.depth) level ts φ ∧
    level.StopsAt c'.rest

/-- Further operands reach from one cursor to the other, and no further. -/
def ReadsMore (level : Level) (op : Connective) (operand : Level) (left : Formula) (c : Cursor)
    (φ : Formula) (c' : Cursor) : Prop :=
  ∃ row, c.Passes (joinTokens op row) c' ∧ c'.depth = c.depth ∧ φ = joinLeft op left row ∧
    (∀ p ∈ row, Derives (nestingLimit - c.depth) operand p.1 p.2) ∧ level.StopsAt c'.rest

/-- A level never leaves the scan of its operand short, nor fails but where the scan stops. -/
def Sound (level : Level) (read : Cursor → Outcome Formula) : Prop :=
  ∀ c, (read c).Meets (c.Reads level) (c.Blocked (.operand c.depth))

theorem more_meets {read : Cursor → Outcome Formula} (shape : Level.Joins level op operand)
    (h : Sound operand read) (c : Cursor) (left : Formula) (hr : c.rest.length ≤ rounds)
    (hs : operand.StopsAt c.rest) :
    (more op read rounds left c).Meets (c.ReadsMore level op operand left)
      (c.Blocked (.operator c.depth)) := by
  induction rounds generalizing left c with
  | zero =>
    have hc : c.rest = [] := List.length_eq_zero_iff.mp (Nat.le_zero.mp hr)
    refine ⟨[], .refl c, rfl, rfl, by simp, ?_⟩
    intro op' _
    simp [hc]
  | succ rounds ih =>
    unfold more
    split
    · rename_i hat
      obtain ⟨us, hc⟩ := is_at_cons (is_at_iff.mp hat)
      have hstep : c.Passes [op.token] c.next := passes_next hc
      have hscan : (Scan.operator c.depth).walk [op.token] = some (.operand c.depth) :=
        Scan.walk_step (Scan.step_connective c.depth op) []
      refine (h c.next).and_then ?_ (fun e c' hb => hb.after hstep hscan)
      intro right c₁ ⟨ts, hp, hd, hder, hstop⟩
      have hd₁ : c₁.depth = c.depth := hd
      have hlen : c₁.rest.length ≤ rounds := by
        have hlen : c.rest.tail.length = (ts ++ c₁.rest).length := congrArg List.length hp.rest
        rw [List.length_tail, List.length_append] at hlen
        omega
      refine (ih c₁ (.binary op left right) hlen hstop).mono ?_ ?_
      · intro φ c' ⟨row, hrow, hd', hφ, hops, hend⟩
        refine ⟨(ts, right) :: row, (hstep.trans hp).trans hrow, hd'.trans hd₁, hφ, ?_, hend⟩
        intro p hp
        rcases List.mem_cons.mp hp with rfl | hp
        · exact hder
        · exact hd₁ ▸ hops p hp
      · intro e c' hb
        refine (hd₁ ▸ hb).after (hstep.trans hp) ?_
        rw [Scan.walk_through hscan]
        exact hder.scan (Nat.le_refl _)
    · rename_i hat
      refine ⟨[], .refl c, rfl, rfl, by simp, ?_⟩
      intro op' hop'
      rw [shape.connectives] at hop'
      rcases List.mem_cons.mp hop' with rfl | hop'
      · exact fun hn => hat (is_at_iff.mpr hn)
      · exact hs op' hop'

theorem joined_sound {read : Cursor → Outcome Formula} (shape : Level.Joins level op operand)
    (h : Sound operand read) : Sound level (joined op read) := by
  intro c
  refine (h c).and_then ?_ (fun e c' hb => hb)
  intro left c₁ ⟨ts, hp, hd, hder, hstop⟩
  refine (more_meets shape h c₁ left (Nat.le_refl _) hstop).mono ?_ ?_
  · intro φ c' ⟨row, hrow, hd', hφ, hops, hend⟩
    refine ⟨ts ++ joinTokens op row, hp.trans hrow, hd'.trans hd, ?_, hend⟩
    rw [hd] at hops
    exact hφ ▸ .joined shape hder hops
  · intro e c' hb
    exact (hd ▸ hb).after hp (hder.scan (Nat.le_refl _))

/-- Behind a formula a scan can only close a parenthesis. -/
theorem stuck_behind (hs : Level.StopsAt .biconditional us) (hc : 0 < d → us.head? ≠ some .closing)
    (hn : d = 0 → us ≠ []) : (Scan.operator d).Stuck us := by
  cases us with
  | nil =>
    intro he
    cases he
    exact hn rfl rfl
  | cons token us =>
    have hop : ∀ op : Connective, token ≠ op.token := by
      intro op he
      refine hs op ?_ (congrArg some he)
      cases op <;> simp [Level.connectives]
    exact Scan.step_none hop (fun hd he => hc hd (congrArg some he))

theorem implication_sound (ho : Sound .disjunction (formula calls .disjunction))
    (hi : Sound .implication (formula calls .implication)) :
    Sound .implication (formula (calls + 1) .implication) := by
  intro c
  unfold formula
  refine (ho c).and_then ?_ (fun e c' hb => hb)
  intro left c₁ ⟨ts, hp, hd, hder, hstop⟩
  have hscan := hder.scan (Nat.le_refl _)
  split
  · rename_i hat
    obtain ⟨us, hc⟩ := is_at_cons (is_at_iff.mp hat)
    have hstep : c₁.Passes [Connective.implies.token] c₁.next := passes_next hc
    refine (hi c₁.next).map ?_ ?_
    · intro right c' ⟨us', hp', hd', hder', hend⟩
      have hd₂ : c₁.next.depth = c.depth := hd
      refine ⟨ts ++ ([Connective.implies.token] ++ us'), hp.trans (hstep.trans hp'),
        hd'.trans hd₂, ?_, hend⟩
      exact .implication hder (hd₂ ▸ hder')
    · intro e c' hb
      have hb' : c₁.next.Blocked (.operand c.depth) e c' := hd ▸ hb
      refine hb'.after (hp.trans hstep) ?_
      rw [Scan.walk_through hscan]
      exact Scan.walk_step (Scan.step_connective c.depth .implies) []
  · rename_i hat
    refine ⟨ts, hp, hd, .disjunction hder, ?_⟩
    intro op hop
    rcases List.mem_cons.mp hop with rfl | hop
    · exact fun hn => hat (is_at_iff.mpr hn)
    · exact hstop op hop

theorem negation_sound (hn : Sound .negation (formula calls .negation))
    (hp : ∀ c : Cursor, ¬c.isAt "¬" →
      (formula calls .primary c).Meets (c.Reads .primary) (c.Blocked (.operand c.depth))) :
    Sound .negation (formula (calls + 1) .negation) := by
  intro c
  unfold formula
  split
  · rename_i hat
    obtain ⟨us, hc⟩ := is_at_cons (is_at_iff.mp hat)
    have hstep : c.Passes [Token.negation] c.next := passes_next hc
    refine (hn c.next).map ?_ ?_
    · intro φ c' ⟨ts, hp, hd, hder, hend⟩
      exact ⟨Token.negation :: ts, hstep.trans hp, hd, .negation hder, hend⟩
    · intro e c' hb
      exact hb.after hstep rfl
  · rename_i hat
    refine (hp c hat).mono ?_ (fun e c' hb => hb)
    intro φ c' ⟨ts, hp, hd, hder, hend⟩
    exact ⟨ts, hp, hd, .primary hder, hend⟩

theorem malformed_meets {c₀ c : Cursor} {s₀ s : Scan} {good : α → Cursor → Prop}
    (hp : c₀.Passes ts c) (ho : s₀.walk ts = some s) (hs : s.Stuck c.rest)
    (ht : reason.text = s.complaint c.rest.head?) (hd : c.depth = s.opened) :
    (c.malformed reason).Meets good (c₀.Blocked s₀) :=
  ⟨ts, s, hp, ho, hs, ht, rfl, hd⟩

theorem parenthesis_meets {read : Cursor → Outcome Formula} (h : Sound .biconditional read)
    (c : Cursor) (hc : c.rest = Token.opening :: us) (hd : c.depth < nestingLimit) :
    ((read c.opened).andThen (fun inner c =>
      if c.isAt ")" then .done inner c.closed else c.malformed .unclosed)).Meets
      (c.Reads .primary) (c.Blocked (.operand c.depth)) := by
  have hstep : c.Passes [Token.opening] c.opened := ⟨(passes_next hc).rest, rfl⟩
  have hscan : (Scan.operand c.depth).walk [Token.opening] = some (.operand (c.depth + 1)) :=
    Scan.walk_step (Scan.step_opening hd) []
  refine (h c.opened).and_then ?_ (fun e c' hb => hb.after hstep hscan)
  intro inner c₁ ⟨ts, hp, hd₁, hder, hstop⟩
  have hd₁ : c₁.depth = c.depth + 1 := hd₁
  split
  · rename_i hat
    obtain ⟨us', hc₁⟩ := is_at_cons (is_at_iff.mp hat)
    have hclose : c₁.Passes [Token.closing] c₁.closed := ⟨(passes_next hc₁).rest, rfl⟩
    refine ⟨[Token.opening] ++ (ts ++ [Token.closing]), hstep.trans (hp.trans hclose), ?_, ?_, ?_⟩
    · simp [closed, hd₁]
    · have he : nestingLimit - c.depth = nestingLimit - (c.depth + 1) + 1 := by omega
      rw [he]
      exact .parenthesized hder
    · intro op hop
      cases hop
  · rename_i hat
    have hnot : c₁.rest.head? ≠ some .closing := fun hn => hat (is_at_iff.mpr hn)
    have hstuck : (Scan.operator (c.depth + 1)).Stuck c₁.rest :=
      stuck_behind hstop (fun _ => hnot) (by omega)
    refine malformed_meets (hstep.trans hp) ?_ hstuck ?_ hd₁
    · rw [Scan.walk_through hscan]
      exact hder.scan (Nat.le_refl _)
    · rw [Scan.complaint, if_pos (Nat.succ_pos _)]
      rfl

/-- The negation level leaves to the primary level all but a `¬`. -/
theorem primary_meets (h : Sound .biconditional (formula calls .biconditional)) (c : Cursor)
    (hn : ¬c.isAt "¬") : (formula (calls + 1) .primary c).Meets (c.Reads .primary)
      (c.Blocked (.operand c.depth)) := by
  unfold formula
  split
  · rename_i hc
    exact malformed_meets (.refl c) (Scan.walk_nil _) (by simp [hc, Scan.Stuck])
      (by rw [hc]; rfl) rfl
  · rename_i token us hc
    have hstep : c.Passes [token] c.next := passes_next hc
    obtain ⟨kind, text⟩ := token
    cases kind with
    | letter =>
      refine ⟨[⟨.letter, text⟩], hstep, rfl, .letter text, ?_⟩
      intro op hop
      cases hop
    | operator =>
      rw [if_neg (by simp)]
      split
      · rename_i ht
        have hne : text ≠ "¬" := by
          rintro rfl
          exact hn (is_at_iff.mpr (by rw [hc]; rfl))
        refine malformed_meets (.refl c) (Scan.walk_nil _) ?_ ?_ rfl
        · simp [hc, Scan.Stuck, Scan.step, hne, ht]
        · have hopen : (⟨.operator, text⟩ : Token) ≠ .opening :=
            fun he => ht (congrArg Token.text he)
          rw [hc, List.head?_cons, Scan.complaint, if_neg hopen]
          rfl
      · rename_i ht
        rw [Decidable.not_not] at ht
        subst ht
        split
        · rename_i hd
          refine malformed_meets (.refl c) (Scan.walk_nil _) ?_ ?_ rfl
          · simp [hc, Scan.Stuck, Scan.step, Nat.not_lt.mpr hd]
          · rw [hc]
            rfl
        · rename_i hd
          exact parenthesis_meets h c hc (Nat.lt_of_not_le hd)

theorem formula_meets (calls : Nat) :
    (∀ level, level ≠ .primary → Sound level (formula calls level)) ∧
    ∀ c : Cursor, ¬c.isAt "¬" →
      (formula calls .primary c).Meets (c.Reads .primary) (c.Blocked (.operand c.depth)) := by
  induction calls with
  | zero => exact ⟨fun _ _ _ => trivial, fun _ _ => trivial⟩
  | succ calls ih =>
    obtain ⟨hl, hp⟩ := ih
    refine ⟨?_, primary_meets (hl .biconditional (by simp))⟩
    intro level hne
    cases level with
    | biconditional => exact joined_sound .biconditional (hl .implication (by simp))
    | implication =>
      exact implication_sound (hl .disjunction (by simp)) (hl .implication (by simp))
    | disjunction => exact joined_sound .disjunction (hl .conjunction (by simp))
    | conjunction => exact joined_sound .conjunction (hl .negation (by simp))
    | negation => exact negation_sound (hl .negation (by simp)) hp
    | primary => exact absurd rfl hne

end Cursor

end Propositional
