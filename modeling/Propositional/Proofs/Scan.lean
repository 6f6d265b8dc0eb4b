import Propositional.Proofs.Grammar

namespace Propositional

/-- All that a scan from the left keeps: whether an operand or an operator comes next, and the
number of parentheses open. -/
inductive Scan
  | operand (opened : Nat)
  | operator (opened : Nat)
  deriving DecidableEq

namespace Scan

def opened : Scan → Nat
  | operand d | operator d => d

def step : Scan → Token → Option Scan
  | operand d, ⟨.letter, _⟩ => some (operator d)
  | operand d, ⟨.operator, text⟩ =>
    if text = "¬" then some (operand d)
    else if text = "(" then if d < nestingLimit then some (operand (d + 1)) else none
    else none
  | operator _, ⟨.letter, _⟩ => none
  | operator d, ⟨.operator, text⟩ =>
    if text ∈ ["∧", "∨", "→", "↔"] then some (operand d)
    else if text = ")" then if 0 < d then some (operator (d - 1)) else none
    else none

/-- Why a scan stops before a token, or at the end. -/
def complaint : Scan → Option Token → String
  | operand _, none => "incomplete expression"
  | operand _, some token =>
    if token = .opening then "expression nested too deeply"
    else "unexpected token: " ++ token.text
  | operator d, _ =>
    if 0 < d then "expected closing parenthesis" else "trailing tokens in expression"

/-- The complaint with the position at which the scan stops, unless it comes to the end behind an
operand and with no parenthesis open. -/
def fault? (s : Scan) (position : Nat) : List Token → Option (String × Nat)
  | [] => if s = operator 0 then none else some (s.complaint none, position)
  | token :: rest =>
    match s.step token with
    | some next => next.fault? (position + 1) rest
    | none => some (s.complaint (some token), position)

/-- The state behind some tokens that the scan takes all of. -/
def walk (s : Scan) (tokens : List Token) : Option Scan := tokens.foldlM step s

/-- The scan takes no token of these and does not accept them either. -/
def Stuck (s : Scan) : List Token → Prop
  | [] => s ≠ operator 0
  | token :: _ => s.step token = none

theorem step_letter (d : Nat) (name : String) :
    (operand d).step ⟨.letter, name⟩ = some (operator d) := rfl

theorem step_negation (d : Nat) : (operand d).step Token.negation = some (operand d) := rfl

theorem step_opening (h : d < nestingLimit) :
    (operand d).step Token.opening = some (operand (d + 1)) := by
  simp [step, Token.opening, h]

theorem opening_some {s : Scan} (h : (operand d).step Token.opening = some s) :
    d < nestingLimit ∧ operand (d + 1) = s := by
  simpa [step, Token.opening] using h

theorem step_connective (d : Nat) (op : Connective) :
    (operator d).step op.token = some (operand d) := by
  cases op <;> rfl

theorem step_closing (d : Nat) : (operator (d + 1)).step Token.closing = some (operator d) := rfl

/-- Behind an operand nothing but a connective or a closing parenthesis takes the scan on. -/
theorem step_none {token : Token} (hop : ∀ op : Connective, token ≠ op.token)
    (hc : 0 < d → token ≠ Token.closing) : (operator d).step token = none := by
  obtain ⟨kind, text⟩ := token
  cases kind with
  | letter => rfl
  | operator =>
    have hm : text ∉ ["∧", "∨", "→", "↔"] := by
      intro hm
      simp only [List.mem_cons, List.not_mem_nil, or_false] at hm
      rcases hm with rfl | rfl | rfl | rfl
      · exact hop .and rfl
      · exact hop .or rfl
      · exact hop .implies rfl
      · exact hop .iff rfl
    simp only [step, if_neg hm]
    split
    · rename_i ht
      exact if_neg (fun hd => hc hd (congrArg (Token.mk .operator) ht))
    · rfl

/-- All that a step can be. -/
inductive Takes : Scan → Token → Scan → Prop
  | letter (d : Nat) (name : String) : Takes (operand d) ⟨.letter, name⟩ (operator d)
  | negation (d : Nat) : Takes (operand d) Token.negation (operand d)
  | opening (h : d < nestingLimit) : Takes (operand d) Token.opening (operand (d + 1))
  | connective (d : Nat) (op : Connective) : Takes (operator d) op.token (operand d)
  | closing (d : Nat) : Takes (operator (d + 1)) Token.closing (operator d)

theorem takes_of_operand (h : (operand d).step ⟨.operator, text⟩ = some next) :
    (operand d).Takes ⟨.operator, text⟩ next := by
  simp only [step] at h
  split at h
  · rename_i ht
    cases h
    subst ht
    exact .negation d
  · split at h
    · rename_i ht
      split at h
      · rename_i hd
        cases h
        subst ht
        exact .opening hd
      · cases h
    · cases h

theorem takes_of_operator (h : (operator d).step ⟨.operator, text⟩ = some next) :
    (operator d).Takes ⟨.operator, text⟩ next := by
  simp only [step] at h
  split at h
  · rename_i ht
    cases h
    simp only [List.mem_cons, List.not_mem_nil, or_false] at ht
    rcases ht with rfl | rfl | rfl | rfl
    · exact .connective d .and
    · exact .connective d .or
    · exact .connective d .implies
    · exact .connective d .iff
  · split at h
    · rename_i ht
      split at h
      · cases h
        subst ht
        obtain ⟨d, rfl⟩ : ∃ k, d = k + 1 := ⟨d - 1, by omega⟩
        exact .closing d
      · cases h
    · cases h

theorem takes_of_step {s next : Scan} (h : s.step token = some next) : s.Takes token next := by
  obtain ⟨kind, text⟩ := token
  cases s with
  | operand d =>
    cases kind with
    | letter =>
      cases h
      exact .letter d text
    | operator => exact takes_of_operand h
  | operator d =>
    cases kind with
    | letter => cases h
    | operator => exact takes_of_operator h

theorem walk_nil (s : Scan) : s.walk [] = some s := rfl

theorem walk_step {s next : Scan} (h : s.step token = some next) (ts : List Token) :
    s.walk (token :: ts) = next.walk ts := by
  simp only [walk, List.foldlM_cons, h, Option.bind_eq_bind, Option.bind_some]

theorem walk_through {s middle : Scan} (h : s.walk ts = some middle) (us : List Token) :
    s.walk (ts ++ us) = middle.walk us := by
  unfold walk at h ⊢
  rw [List.foldlM_append, h]
  rfl

theorem walk_first {s s' : Scan} (h : s.walk (token :: ts) = some s') :
    ∃ next, s.step token = some next := by
  cases hs : s.step token with
  | some next => exact ⟨next, rfl⟩
  | none => simp [walk, hs] at h

theorem walk_left {s s' : Scan} (h : s.walk (ts ++ us) = some s') :
    ∃ middle, s.walk ts = some middle := by
  unfold walk at h ⊢
  rw [List.foldlM_append] at h
  obtain ⟨middle, hm, _⟩ := Option.bind_eq_some_iff.mp h
  exact ⟨middle, hm⟩

theorem walk_row (op : Connective)
    (h : ∀ p ∈ more, (operand d).walk p.1 = some (operator d)) :
    (operator d).walk (joinTokens op more) = some (operator d) := by
  induction more with
  | nil => rfl
  | cons p more ih =>
    rw [join_tokens_cons, walk_step (step_connective d op), walk_through (h p List.mem_cons_self)]
    exact ih (fun q hq => h q (List.mem_cons_of_mem _ hq))

theorem fault_walk {s s' : Scan} (h : s.walk ts = some s') (position : Nat)
    (rest : List Token) :
    s.fault? position (ts ++ rest) = s'.fault? (position + ts.length) rest := by
  induction ts generalizing s position with
  | nil =>
    cases h
    rfl
  | cons token ts ih =>
    obtain ⟨next, hs⟩ := walk_first h
    rw [walk_step hs] at h
    simp only [List.cons_append, fault?, hs, ih h, List.length_cons]
    congr 1
    omega

theorem Stuck.fault {s : Scan} (h : s.Stuck rest) :
    s.fault? position rest = some (s.complaint rest.head?, position) := by
  cases rest with
  | nil => simp only [fault?, if_neg h, List.head?_nil]
  | cons token rest =>
    simp only [Stuck] at h
    simp only [fault?, h, List.head?_cons]

end Scan

/-- A scan takes every token of a derivation and comes out behind an operand, no deeper than it
went in. -/
theorem Derives.scan (h : Derives n level ts φ) (hn : n ≤ nestingLimit - d) :
    (Scan.operand d).walk ts = some (.operator d) := by
  induction h generalizing d with
  | joined shape first rest ihf ihr =>
    rw [Scan.walk_through (ihf hn)]
    exact Scan.walk_row _ (fun p hp => ihr p hp hn)
  | disjunction _ ih => exact ih hn
  | implication _ _ ihl ihr =>
    rw [Scan.walk_through (ihl hn), Scan.walk_step (Scan.step_connective d .implies)]
    exact ihr hn
  | negation _ ih =>
    rw [Scan.walk_step (Scan.step_negation d)]
    exact ih hn
  | primary _ ih => exact ih hn
  | letter name => rfl
  | parenthesized _ ih =>
    have hd : d < nestingLimit := by omega
    rw [Scan.walk_step (Scan.step_opening hd), Scan.walk_through (ih (by omega)),
      Scan.walk_step (Scan.step_closing d)]
    rfl

/-- The operands of a row, each of which a scan that takes the row takes by itself. -/
theorem Scan.walk_row_some {P : List Token × Formula → Prop}
    (h : (operator d).walk (joinTokens op row) = some s)
    (hrow : ∀ p ∈ row, ∀ s, (operand d).walk p.1 = some s → P p ∧
      (operand d).walk p.1 = some (operator d)) : ∀ p ∈ row, P p := by
  induction row with
  | nil => simp
  | cons p row ih =>
    rw [join_tokens_cons, walk_step (step_connective d op)] at h
    obtain ⟨s', hs⟩ := walk_left h
    obtain ⟨hp, hw⟩ := hrow p List.mem_cons_self s' hs
    rw [walk_through hw] at h
    intro q hq
    rcases List.mem_cons.mp hq with rfl | hq
    · exact hp
    · exact ih h (fun r hr => hrow r (List.mem_cons_of_mem _ hr)) q hq

/-- Only as many parentheses are open in a derivation as a scan of its tokens opens. -/
theorem Derives.within (h : Derives n level ts φ) (hs : (Scan.operand d).walk ts = some s) :
    Derives (nestingLimit - d) level ts φ := by
  induction h generalizing d s with
  | joined shape _ _ ihf ihr =>
    obtain ⟨s', hf⟩ := Scan.walk_left hs
    have hfirst := ihf hf
    rw [Scan.walk_through (hfirst.scan (Nat.le_refl _))] at hs
    refine .joined shape hfirst (Scan.walk_row_some hs ?_)
    intro p hp s hs
    exact ⟨ihr p hp hs, (ihr p hp hs).scan (Nat.le_refl _)⟩
  | disjunction _ ih => exact .disjunction (ih hs)
  | implication _ _ ihl ihr =>
    obtain ⟨s', hl⟩ := Scan.walk_left hs
    have hleft := ihl hl
    rw [Scan.walk_through (hleft.scan (Nat.le_refl _)),
      Scan.walk_step (Scan.step_connective d .implies)] at hs
    exact .implication hleft (ihr hs)
  | negation _ ih =>
    rw [Scan.walk_step (Scan.step_negation d)] at hs
    exact .negation (ih hs)
  | primary _ ih => exact .primary (ih hs)
  | letter name => exact .letter name
  | parenthesized _ ih =>
    obtain ⟨s', ho⟩ := Scan.walk_first hs
    obtain ⟨hd, rfl⟩ := Scan.opening_some ho
    rw [Scan.walk_step ho] at hs
    obtain ⟨s', hi⟩ := Scan.walk_left hs
    have he : nestingLimit - d = nestingLimit - (d + 1) + 1 := by omega
    rw [he]
    exact .parenthesized (ih hi)

end Propositional
