/-!
# Numbers

A number is a finite value, one of the two infinities, or not a number. The finite values that
arise are those of the binary64 format, and they are kept exactly, as fractions; zero has no sign.
Nothing compares with what is not a number, not even it with itself.
-/

namespace EvidenceSearch

/-- A number as settings, arguments and stored rows hold it. -/
inductive Number where
  | nan
  | infinite (negative : Bool)
  | finite (value : Rat)
  deriving DecidableEq

namespace Number

/-- The largest whole number up to which every whole number is a number of its own. -/
def largestSafe : Int := 9007199254740991

def below : Number → Number → Bool
  | .nan, _ => false
  | _, .nan => false
  | .infinite left, .infinite right => left && !right
  | .infinite left, .finite _ => left
  | .finite _, .infinite right => !right
  | .finite left, .finite right => decide (left < right)

/-- Whether two numbers are equal in value. -/
def equals : Number → Number → Bool
  | .nan, _ => false
  | _, .nan => false
  | .infinite left, .infinite right => left == right
  | .finite left, .finite right => decide (left = right)
  | _, _ => false

/-- Whether one number is another or lies below it. -/
def atMost (left right : Number) : Bool :=
  left.below right || left.equals right

/-- Whether the number is neither infinite nor not a number. -/
def isFinite : Number → Bool
  | .finite _ => true
  | _ => false

def wholeValue? : Number → Option Int
  | .finite value => if value.den = 1 then some value.num else none
  | _ => none

/-- The value of a whole number so small that all whole numbers around it are told apart. -/
def safeValue? (number : Number) : Option Int :=
  match number.wholeValue? with
  | some value => if value.natAbs ≤ largestSafe.natAbs then some value else none
  | none => none

end Number
end EvidenceSearch
