import EvidenceSearch.Number.Basic

/-!
# Rounding to the nearest number

A positive fraction is rounded to the nearest value of the binary64 format, a tie going to the
even neighbour. The format has 53 binary digits and no unit below `2 ^ (-1074)`; a fraction that
rounds to `2 ^ 1024` or more is infinite.
-/

namespace EvidenceSearch

/-- The whole number nearest to `numerator / denominator`; a half goes to the even neighbour. -/
def roundHalfEven (numerator denominator : Nat) : Nat :=
  let quotient := numerator / denominator
  let rest := numerator % denominator
  if 2 * rest < denominator then quotient
  else if denominator < 2 * rest then quotient + 1
  else if quotient % 2 = 0 then quotient
  else quotient + 1

/-- Numerator and denominator of a fraction multiplied by a power of two. -/
def scaleByTwo (numerator denominator : Nat) (exponent : Int) : Nat × Nat :=
  if 0 ≤ exponent then (numerator * Nat.pow 2 exponent.toNat, denominator)
  else (numerator, denominator * Nat.pow 2 (-exponent).toNat)

/-- The exponent of the largest power of two that is not above the fraction. -/
def binaryMagnitude (numerator denominator : Nat) : Int :=
  let estimate : Int := (numerator.log2 : Int) - denominator.log2
  let scaled := scaleByTwo numerator denominator (-estimate)
  if scaled.1 < scaled.2 then estimate - 1 else estimate

/-- The nearest value of the format to a positive fraction, unless that is infinite. -/
def nearestValue (numerator denominator : Nat) : Option Rat :=
  let unit := max (binaryMagnitude numerator denominator - 52) (-1074)
  let scaled := scaleByTwo numerator denominator (-unit)
  let count := roundHalfEven scaled.1 scaled.2
  if 972 ≤ unit || (unit = 971 && count = Nat.pow 2 53) then none
  else
    let value := scaleByTwo count 1 unit
    some (mkRat value.1 value.2)

namespace Number

/-- The number nearest to a fraction with a sign. -/
def ofFraction (negative : Bool) (numerator denominator : Nat) : Number :=
  if numerator = 0 then .finite 0
  else
    match nearestValue numerator denominator with
    | some value => .finite (if negative then -value else value)
    | none => .infinite negative

def ofInt (value : Int) : Number :=
  if value.natAbs ≤ Nat.pow 2 53 then .finite value
  else ofFraction (decide (value < 0)) value.natAbs 1

/-- The number nearest to a natural number. -/
def ofNat (value : Nat) : Number :=
  ofInt value

/-- The number nearest to `coefficient * 10 ^ exponent` with a sign. Beyond `10 ^ 310` and below
`10 ^ (-330)` the answer is known without the power. -/
def ofDecimal (negative : Bool) (coefficient : Nat) (exponent : Int) : Number :=
  if coefficient = 0 then .finite 0
  else
    let point := ((Nat.toDigits 10 coefficient).length : Int) + exponent
    if 310 < point then .infinite negative
    else if point < -330 then .finite 0
    else if 0 ≤ exponent then ofFraction negative (coefficient * Nat.pow 10 exponent.toNat) 1
    else ofFraction negative coefficient (Nat.pow 10 (-exponent).toNat)

end Number
end EvidenceSearch
