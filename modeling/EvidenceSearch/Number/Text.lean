import EvidenceSearch.Number.Rounding

/-!
# Writing numbers

A number is written with the fewest decimal digits that read back as the same number, and of
those the nearest; of two equally near the even one. The point stands among the digits from
`10 ^ (-6)` up to below `10 ^ 21`, and an exponent is written outside these bounds.
-/

namespace EvidenceSearch

/-- Decimal digits, and the place of the point: `digits` read as a fraction after a point, times
`10 ^ point`. -/
structure DecimalForm where
  digits : List Char
  point : Int

/-- Multiply a fraction by a power of ten. -/
def scaleByTen (numerator denominator : Nat) (exponent : Int) : Nat × Nat :=
  if 0 ≤ exponent then (numerator * Nat.pow 10 exponent.toNat, denominator)
  else (numerator, denominator * Nat.pow 10 (-exponent).toNat)

/-- The least exponent of a power of ten above the fraction. -/
def decimalPoint (numerator denominator : Nat) : Int :=
  let estimate : Int :=
    ((Nat.toDigits 10 numerator).length : Int) - (Nat.toDigits 10 denominator).length
  let scaled := scaleByTen numerator denominator (-estimate)
  if scaled.1 < scaled.2 then estimate else estimate + 1

/-- Whether a coefficient at a power of ten reads back as the positive value. -/
def readsBack (value : Rat) (coefficient : Nat) (exponent : Int) : Bool :=
  let scaled := scaleByTen coefficient 1 exponent
  coefficient ≠ 0 && nearestValue scaled.1 scaled.2 == some value

/-- The coefficient of `count` digits that reads back and lies nearest, if one reads back. -/
def coefficientOf? (value : Rat) (point : Int) (count : Nat) : Option Nat :=
  let exponent := point - count
  let scaled := scaleByTen value.num.natAbs value.den (-exponent)
  let lower := scaled.1 / scaled.2
  let rest := scaled.1 % scaled.2
  let upperFirst := scaled.2 < 2 * rest || (scaled.2 = 2 * rest && lower % 2 = 1)
  let choices := if upperFirst then [lower + 1, lower] else [lower, lower + 1]
  choices.find? fun coefficient => readsBack value coefficient exponent

/-- The decimal form of the fewest digits of a positive value. -/
def shortestForm (value : Rat) : DecimalForm :=
  let point := decimalPoint value.num.natAbs value.den
  let found :=
    (List.range 17).findSome? fun index =>
      (coefficientOf? value point (index + 1)).map fun coefficient => (coefficient, index + 1)
  match found with
  | some (coefficient, count) =>
      if coefficient = Nat.pow 10 count then ⟨['1'], point + 1⟩
      else ⟨Nat.toDigits 10 coefficient, point⟩
  | none => ⟨Nat.toDigits 10 value.num.natAbs, point⟩

/-- Write a decimal form, with an exponent where the point would stand too far away. -/
def DecimalForm.write (form : DecimalForm) : List Char :=
  let count : Int := form.digits.length
  if count ≤ form.point && form.point ≤ 21 then
    form.digits ++ List.replicate (form.point - count).toNat '0'
  else if 0 < form.point && form.point ≤ 21 then
    form.digits.take form.point.toNat ++ '.' :: form.digits.drop form.point.toNat
  else if -6 < form.point && form.point ≤ 0 then
    '0' :: '.' :: (List.replicate (-form.point).toNat '0' ++ form.digits)
  else
    let exponent := form.point - 1
    let mark := if exponent < 0 then ['e', '-'] else ['e', '+']
    let power := mark ++ Nat.toDigits 10 exponent.natAbs
    match form.digits with
    | [] => power
    | [digit] => digit :: power
    | digit :: more => digit :: '.' :: (more ++ power)

namespace Number

/-- The text of a finite value. Every digit of a whole number up to `2 ^ 53` counts, so it is
written out in full. -/
def writeValue (value : Rat) : String :=
  if value.den = 1 && value.num.natAbs ≤ Nat.pow 2 53 then toString value.num
  else if value < 0 then String.ofList ('-' :: (shortestForm (-value)).write)
  else String.ofList (shortestForm value).write

def write : Number → String
  | .nan => "NaN"
  | .infinite false => "Infinity"
  | .infinite true => "-Infinity"
  | .finite value => writeValue value

end Number
end EvidenceSearch
