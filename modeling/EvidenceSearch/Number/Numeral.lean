import EvidenceSearch.Number.Rounding
import EvidenceSearch.Text.Blank

/-!
# Reading numerals

The numeral grammar of settings: blanks around a numeral do not count, nothing at all is zero, a
prefix `0x`, `0o` or `0b` in either case starts a natural number in that base, and everything else
is a decimal numeral with optional sign, point and exponent, or `Infinity` with optional sign. Any
other text is not a number.
-/

namespace EvidenceSearch

/-- The value of a character as a digit, letters counting on from ten. -/
def digitValue (character : Char) : Option Nat :=
  let code := character.toNat
  if 48 ≤ code && code ≤ 57 then some (code - 48)
  else if 65 ≤ code && code ≤ 90 then some (code - 55)
  else if 97 ≤ code && code ≤ 122 then some (code - 87)
  else none

def isDecimalDigit (character : Char) : Bool :=
  48 ≤ character.toNat && character.toNat ≤ 57

def decimalValue (digits : List Char) : Nat :=
  digits.foldl (fun value digit => value * 10 + (digit.toNat - 48)) 0

/-- The natural number that at least one digit of the base writes, if all characters are such. -/
def naturalInBase (base : Nat) (characters : List Char) : Option Nat :=
  if characters.isEmpty then none
  else
    characters.foldl
      (fun value? character =>
        match value?, digitValue character with
        | some value, some digit => if digit < base then some (value * base + digit) else none
        | _, _ => none)
      (some 0)

/-- Split an optional sign off; `true` stands for minus. -/
def splitSign : List Char → Bool × List Char
  | '-' :: rest => (true, rest)
  | '+' :: rest => (false, rest)
  | characters => (false, characters)

/-- The exponent that follows the digits of a decimal numeral and ends it; none at all is zero. -/
def exponentPart : List Char → Option Int
  | [] => some 0
  | mark :: rest =>
      if mark = 'e' || mark = 'E' then
        let (negative, digits) := splitSign rest
        if digits.isEmpty || !digits.all isDecimalDigit then none
        else if negative then some (-(decimalValue digits : Int))
        else some (decimalValue digits)
      else none

/-- Split off the digits after a point, if a point comes first. -/
def splitFraction : List Char → List Char × List Char
  | '.' :: rest => rest.span isDecimalDigit
  | characters => ([], characters)

/-- The number that a decimal numeral without sign writes. -/
def decimalNumeral (negative : Bool) (characters : List Char) : Number :=
  let (whole, afterWhole) := characters.span isDecimalDigit
  let (fraction, afterFraction) := splitFraction afterWhole
  if whole.isEmpty && fraction.isEmpty then .nan
  else
    match exponentPart afterFraction with
    | some exponent =>
        .ofDecimal negative (decimalValue (whole ++ fraction)) (exponent - fraction.length)
    | none => .nan

def signedNumeral (characters : List Char) : Number :=
  let (negative, rest) := splitSign characters
  if rest = "Infinity".toList then .infinite negative
  else decimalNumeral negative rest

/-- The natural number in a base, or what is not a number. -/
def baseNumeral (base : Nat) (characters : List Char) : Number :=
  match naturalInBase base characters with
  | some value => .ofNat value
  | none => .nan

/-- The number that a text of a setting writes. -/
def Number.ofNumeral (text : String) : Number :=
  match trimCharacters text.toList with
  | [] => .finite 0
  | '0' :: mark :: rest =>
      if mark = 'x' || mark = 'X' then baseNumeral 16 rest
      else if mark = 'o' || mark = 'O' then baseNumeral 8 rest
      else if mark = 'b' || mark = 'B' then baseNumeral 2 rest
      else signedNumeral ('0' :: mark :: rest)
  | characters => signedNumeral characters

end EvidenceSearch
