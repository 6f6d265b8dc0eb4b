import Mathlib.Data.List.Basic

namespace Propositional

/-- What comes out is good, or what stops it is expected. -/
def Settles (expected : ε → Prop) (x : Except ε α) (good : α → Prop) : Prop :=
  match x with
  | .ok a => good a
  | .error e => expected e

/-- A condition on what comes out, if anything does. -/
abbrev Gives (x : Except ε α) (good : α → Prop) : Prop := Settles (fun _ => True) x good

namespace Settles

theorem ok {expected : ε → Prop} (h : good a) : Settles expected (.ok a) good := h

theorem error {e : ε} {good : α → Prop} : Gives (.error e) good := trivial

theorem of_ok {expected : ε → Prop} (h : Settles expected x good) (hx : x = .ok a) : good a := by
  subst hx
  exact h

theorem anything {x : Except ε α} : Gives x (fun _ => True) := by
  cases x <;> trivial

theorem mono {expected expected' : ε → Prop} {x : Except ε α} {good good' : α → Prop}
    (h : Settles expected x good) (he : ∀ e, expected e → expected' e)
    (hg : ∀ a, good a → good' a) : Settles expected' x good' := by
  cases x with
  | ok a => exact hg a h
  | error e => exact he e h

theorem bind {expected : ε → Prop} {x : Except ε α} {f : α → Except ε β} {good' : β → Prop}
    (h : Settles expected x good) (hf : ∀ a, good a → Settles expected (f a) good') :
    Settles expected (x >>= f) good' := by
  cases x with
  | ok a => exact hf a h
  | error e => exact h

theorem map {expected : ε → Prop} {x : Except ε α} {f : α → β} {good' : β → Prop}
    (h : Settles expected x good) (hf : ∀ a, good a → good' (f a)) :
    Settles expected (x.map f) good' := by
  cases x with
  | ok a => exact hf a h
  | error e => exact h

theorem map_error {expected : ε → Prop} {expected' : ε' → Prop} {x : Except ε α} {f : ε → ε'}
    (h : Settles expected x good) (hf : ∀ e, expected e → expected' (f e)) :
    Settles expected' (x.mapError f) good := by
  cases x with
  | ok a => exact h
  | error e => exact hf e h

end Settles

end Propositional
