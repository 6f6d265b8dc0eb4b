import Propositional.Number.Binary64

namespace Propositional.Binary64

/-- A decimal number `coefficient · 10 ^ scale`. -/
structure Decimal where
  coefficient : Nat
  scale : Int

/-- The open or closed interval of fractions over one denominator that round to a number. -/
structure Neighbourhood where
  low : Nat
  value : Nat
  high : Nat
  den : Nat
  closed : Bool

/-- Below a power of two the next number is only half as far away. -/
def neighbourhood (significand : Nat) (exponent : Int) : Neighbourhood :=
  let up := Nat.pow 2 (exponent - 2).toNat
  let below := if significand == leastNormal && minExponent < exponent then 1 else 2
  { low := (4 * significand - below) * up
    value := 4 * significand * up
    high := (4 * significand + 2) * up
    den := Nat.pow 2 (2 - exponent).toNat
    closed := significand % 2 == 0 }

/-- The decimal exponent of the first digit of a positive fraction. -/
def leadingPlace (num den : Nat) : Int :=
  if den ≤ num then (Nat.toDigits 10 (num / den)).length - 1
  else -(((List.range 400).find? (fun k => den ≤ num * Nat.pow 10 k)).getD 400 : Nat)

/-- Compares a fraction with a decimal number. -/
def compareDecimal (num den : Nat) (d : Decimal) : Ordering :=
  let (n, m) := scaleDown 10 num den d.scale
  compare n (d.coefficient * m)

/-- Of the two neighbours on the grid of `10 ^ scale`, the one in the interval; of two, the
nearer one. -/
def gridPoint (i : Neighbourhood) (scale : Int) : Option Decimal :=
  let (n, m) := scaleDown 10 i.value i.den scale
  let lower : Decimal := ⟨n / m, scale⟩
  let upper : Decimal := ⟨n / m + 1, scale⟩
  let fits (side : Ordering) (outer : Ordering) : Bool :=
    side == outer || (side == .eq && i.closed)
  let lowerFits := fits (compareDecimal i.low i.den lower) .lt
  let upperFits := fits (compareDecimal i.high i.den upper) .gt
  match lowerFits, upperFits with
  | true, true => some (if roundHalfEven n m == lower.coefficient then lower else upper)
  | true, false => some lower
  | false, true => some upper
  | false, false => none

/-- The decimal number with the fewest digits that rounds to the given one; seventeen digits
always do. -/
def shortest (significand : Nat) (exponent : Int) : Decimal :=
  let i := neighbourhood significand exponent
  let place := leadingPlace i.value i.den
  ((List.range 17).findSome? (fun (k : Nat) => gridPoint i (place - k))).getD ⟨0, 0⟩

/-- Positional between `1e-4` and `1e16`, with one digit after the point at least. -/
def Decimal.text (d : Decimal) : String :=
  let all := Nat.toDigits 10 d.coefficient
  let place : Int := all.length - 1 + d.scale
  let digits := (all.reverse.dropWhile (· == '0')).reverse
  let zeros (n : Int) : List Char := List.replicate n.toNat '0'
  if place < -4 || 16 ≤ place then
    let fraction := if digits.length ≤ 1 then [] else '.' :: digits.drop 1
    let power := Nat.toDigits 10 place.natAbs
    String.ofList (digits.take 1 ++ fraction ++ ['e', if place < 0 then '-' else '+'] ++
      zeros (2 - power.length) ++ power)
  else if place < 0 then String.ofList (['0', '.'] ++ zeros (-place - 1) ++ digits)
  else
    let whole := digits.take (place.toNat + 1)
    let fraction := digits.drop (place.toNat + 1)
    String.ofList (whole ++ zeros (place + 1 - whole.length) ++ ['.'] ++
      (if fraction.isEmpty then ['0'] else fraction))

/-- The shortest text that reads back as the same number. -/
def text : Binary64 → String
  | finite negative significand exponent =>
    (if negative then "-" else "") ++
      if significand == 0 then "0.0" else (shortest significand exponent).text
  | infinite negative => if negative then "-inf" else "inf"
  | nan => "nan"

end Propositional.Binary64
