import EvidenceSearch.Json.Basic
import EvidenceSearch.Json.Fault
import EvidenceSearch.Number.Numeral

/-!
# Reading JSON

Every part of the reader takes the characters that are left and returns what it read together
with the characters after it, or the fault that stopped it. The reader counts its steps down from
a number that the length of the text bounds.
-/

namespace EvidenceSearch

namespace Json

/-- Drop the blanks that may stand between tokens. -/
def skipBlanks (characters : List Char) : List Char :=
  characters.dropWhile fun character =>
    character = ' ' || character = '\t' || character = '\n' || character = '\r'

def fail {Value : Type} (expectation : Expectation) (rest : List Char) : Except Fault Value :=
  .error ⟨expectation, rest⟩

/-- Read the given character, after blanks. -/
def expectCharacter (character : Char) (expectation : Expectation) (text : List Char) :
    Except Fault (List Char) :=
  match skipBlanks text with
  | [] => fail expectation []
  | first :: rest => if first = character then .ok rest else fail expectation (first :: rest)

/-- The value of a hexadecimal digit. -/
def hexValue? (character : Char) : Option Nat :=
  match digitValue character with
  | some value => if value < 16 then some value else none
  | none => none

def readFourDigits : (count : Nat) → (value : Nat) → List Char → Except Fault (Nat × List Char)
  | 0, value, rest => .ok (value, rest)
  | _ + 1, _, [] => fail .hexadecimalEscape []
  | count + 1, value, character :: rest =>
      match hexValue? character with
      | some digit => readFourDigits count (value * 16 + digit) rest
      | none => fail .hexadecimalEscape (character :: rest)

/-- The character that a letter after a backslash stands for. -/
def shortEscape? : Char → Option Char
  | '"' => some '"'
  | '\\' => some '\\'
  | '/' => some '/'
  | 'b' => some '\x08'
  | 'f' => some '\x0c'
  | 'n' => some '\n'
  | 'r' => some '\r'
  | 't' => some '\t'
  | _ => none

/-- Read the rest of a string; `units` holds what has been read, the last unit first. -/
def readString (fuel : Nat) (units : List Nat) (text : List Char) :
    Except Fault (String × List Char) :=
  match fuel, text with
  | 0, _ => fail .closingQuote text
  | _ + 1, [] => fail .closingQuote []
  | _ + 1, '"' :: rest => .ok (String.ofList (charactersOfUnits units.reverse), rest)
  | fuel + 1, '\\' :: 'u' :: rest =>
      match readFourDigits 4 0 rest with
      | .ok (unit, rest) => readString fuel (unit :: units) rest
      | .error fault => .error fault
  | fuel + 1, '\\' :: rest =>
      match rest with
      | [] => fail .token []
      | character :: after =>
          match shortEscape? character with
          | some meant => readString fuel (meant.toNat :: units) after
          | none => fail (if character.toNat < 0x100 then .knownEscape else .token) rest
  | fuel + 1, character :: rest =>
      if character.toNat < 0x20 then fail .noControlCharacter (character :: rest)
      else readString fuel ((characterUnits character).reverse ++ units) rest

/-- Read at least one decimal digit. -/
def readDigits (expectation : Expectation) (text : List Char) :
    Except Fault (List Char × List Char) :=
  let (digits, rest) := text.span isDecimalDigit
  if digits.isEmpty then fail expectation rest else .ok (digits, rest)

/-- Read the digits before the point: a single zero, or digits that do not start with one. -/
def readWhole (text : List Char) : Except Fault (List Char × List Char) :=
  match text with
  | '0' :: next :: rest =>
      if isDecimalDigit next then fail .token (next :: rest) else .ok (['0'], next :: rest)
  | _ => readDigits .digitAfterMinus text

/-- Read a point and the digits after it, if there is a point. -/
def readFraction : List Char → Except Fault (List Char × List Char)
  | '.' :: rest => readDigits .digitAfterPoint rest
  | text => .ok ([], text)

/-- Read an exponent, if there is one. -/
def readExponent : List Char → Except Fault (Int × List Char)
  | [] => .ok (0, [])
  | mark :: rest =>
      if mark = 'e' || mark = 'E' then
        let (negative, digits) := splitSign rest
        match readDigits .digitInExponent digits with
        | .ok (digits, rest) =>
            let value : Int := decimalValue digits
            .ok (if negative then -value else value, rest)
        | .error fault => .error fault
      else .ok (0, mark :: rest)

/-- Read a number that has no sign. -/
def readUnsigned (negative : Bool) (text : List Char) : Except Fault (Json × List Char) := do
  let (whole, rest) ← readWhole text
  let (fraction, rest) ← readFraction rest
  let (exponent, rest) ← readExponent rest
  let value :=
    Number.ofDecimal negative (decimalValue (whole ++ fraction)) (exponent - fraction.length)
  return (.number value, rest)

def readNumber : List Char → Except Fault (Json × List Char)
  | '-' :: rest => readUnsigned true rest
  | text => readUnsigned false text

def readWord (value : Json) : (word : List Char) → List Char → Except Fault (Json × List Char)
  | [], rest => .ok (value, rest)
  | _ :: _, [] => fail .token []
  | expected :: word, character :: rest =>
      if character = expected then readWord value word rest else fail .token (character :: rest)

def readFieldName (fuel : Nat) (expectation : Expectation) (text : List Char) :
    Except Fault (String × List Char) := do
  let rest ← expectCharacter '"' expectation text
  let (name, rest) ← readString fuel [] rest
  let rest ← expectCharacter ':' .colon rest
  return (name, rest)

mutual

/-- Read a value, after blanks. -/
def readValue (fuel : Nat) (text : List Char) : Except Fault (Json × List Char) :=
  match fuel with
  | 0 => fail .token text
  | fuel + 1 =>
      match skipBlanks text with
      | [] => fail .token []
      | '"' :: rest =>
          match readString fuel [] rest with
          | .ok (value, rest) => .ok (.string value, rest)
          | .error fault => .error fault
      | 't' :: rest => readWord (.bool true) ['r', 'u', 'e'] rest
      | 'f' :: rest => readWord (.bool false) ['a', 'l', 's', 'e'] rest
      | 'n' :: rest => readWord .null ['u', 'l', 'l'] rest
      | '[' :: rest =>
          match skipBlanks rest with
          | ']' :: rest => .ok (.array [], rest)
          | rest => readItems fuel [] rest
      | '\x7b' :: rest =>
          match skipBlanks rest with
          | '\x7d' :: rest => .ok (.object [], rest)
          | rest => readFields fuel [] .fieldNameOrClosing rest
      | character :: rest =>
          if character = '-' || isDecimalDigit character then readNumber (character :: rest)
          else fail .token (character :: rest)

/-- Read the items of an array from one of them on; `items` holds those before, the last one
first. -/
def readItems (fuel : Nat) (items : List Json) (text : List Char) :
    Except Fault (Json × List Char) :=
  match fuel with
  | 0 => fail .token text
  | fuel + 1 =>
      match readValue fuel text with
      | .error fault => .error fault
      | .ok (item, rest) =>
          match skipBlanks rest with
          | ',' :: rest => readItems fuel (item :: items) rest
          | ']' :: rest => .ok (.array (item :: items).reverse, rest)
          | rest => fail .commaOrClosingBracket rest

/-- Read the fields of an object from one of them on; `fields` holds those before, the last one
first. -/
def readFields
    (fuel : Nat)
    (fields : List (String × Json))
    (expectation : Expectation)
    (text : List Char) :
    Except Fault (Json × List Char) :=
  match fuel with
  | 0 => fail .token text
  | fuel + 1 =>
      match readFieldName fuel expectation text with
      | .error fault => .error fault
      | .ok (name, rest) =>
          match readValue fuel rest with
          | .error fault => .error fault
          | .ok (value, rest) =>
              match skipBlanks rest with
              | ',' :: rest => readFields fuel ((name, value) :: fields) .quotedFieldName rest
              | '\x7d' :: rest => .ok (ofFields ((name, value) :: fields).reverse, rest)
              | rest => fail .commaOrClosingBrace rest

end

/-- Read a whole text as one value. -/
def read (text : List Char) : Except Fault Json :=
  match readValue (2 * text.length + 2) text with
  | .error fault => .error fault
  | .ok (value, rest) =>
      match skipBlanks rest with
      | [] => .ok value
      | rest => fail .endOfText rest

end Json
end EvidenceSearch
