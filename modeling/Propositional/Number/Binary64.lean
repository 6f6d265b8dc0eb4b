namespace Propositional

/-- A number with a 53-bit significand, `±significand · 2 ^ exponent`, an infinity, or no
number. A finite one has the least exponent, from -1074 on, that makes the significand fit. -/
inductive Binary64
  | finite (negative : Bool) (significand : Nat) (exponent : Int)
  | infinite (negative : Bool)
  | nan
  deriving DecidableEq

namespace Binary64

/-- The least significand of 53 bits. -/
def leastNormal : Nat := Nat.pow 2 52

def minExponent : Int := -1074
def maxExponent : Int := 971

/-- A quotient rounded to the nearest integer, a half to the even one. -/
def roundHalfEven (num den : Nat) : Nat :=
  let q := num / den
  let twice := 2 * (num % den)
  if twice < den || (twice == den && q % 2 == 0) then q else q + 1

/-- The fraction `num / den` divided by `base ^ power`. -/
def scaleDown (base num den : Nat) (power : Int) : Nat × Nat :=
  if power < 0 then (num * base.pow (-power).toNat, den) else (num, den * base.pow power.toNat)

/-- The number nearest to the positive fraction `num / den`. -/
def nearest (negative : Bool) (num den : Nat) : Binary64 :=
  let guess : Int := (Nat.log2 num : Int) - Nat.log2 den - 52
  let (n, d) := scaleDown 2 num den guess
  let exponent := max minExponent (if n / d < leastNormal then guess - 1 else guess)
  let (n, d) := scaleDown 2 num den exponent
  let significand := roundHalfEven n d
  let (significand, exponent) :=
    if significand == 2 * leastNormal then (leastNormal, exponent + 1) else (significand, exponent)
  if maxExponent < exponent then infinite negative else finite negative significand exponent

/-- The number nearest to `digits · 10 ^ scale`. The powers far outside the format are
answered without being computed. -/
def ofDecimal (negative : Bool) (digits : Nat) (scale : Int) : Binary64 :=
  let places : Int := (Nat.toDigits 10 digits).length + scale
  if digits == 0 || places < -330 then finite negative 0 minExponent
  else if 330 < places then infinite negative
  else
    let (n, d) := scaleDown 10 digits 1 (-scale)
    nearest negative n d

/-- The integer that a number equals, if it has no fraction. -/
def toInt? : Binary64 → Option Int
  | finite negative significand exponent =>
    let sign (n : Nat) : Int := if negative then -n else n
    if 0 ≤ exponent then some (sign (significand * Nat.pow 2 exponent.toNat))
    else
      let unit := Nat.pow 2 (-exponent).toNat
      if significand % unit == 0 then some (sign (significand / unit)) else none
  | _ => none

end Binary64

end Propositional
