/-!
# Units of sixteen bits

Positions in a text count units of sixteen bits: a character above `U+FFFF` takes two, the first
from `U+D800` up to `U+DBFF` and the second from `U+DC00` up to `U+DFFF`. A unit of a pair that
stands alone is no character. A text holds it as a stand-in, the character of the last plane with
the same last sixteen bits; the characters of that plane that serve as stand-ins are themselves
held as the stand-ins of their two units. So every sequence of units is held in one way only.
-/

namespace EvidenceSearch

/-! ## Pairs -/

def isFirstOfPair (unit : Nat) : Bool :=
  0xD800 ≤ unit && unit < 0xDC00

def isSecondOfPair (unit : Nat) : Bool :=
  0xDC00 ≤ unit && unit < 0xE000

/-- The code point that a pair writes. -/
def pairCode (first second : Nat) : Nat :=
  0x10000 + (first - 0xD800) * 0x400 + (second - 0xDC00)

/-- The pair that writes a code point above `U+FFFF`. -/
def codePair (code : Nat) : List Nat :=
  [0xD800 + (code - 0x10000) / 0x400, 0xDC00 + (code - 0x10000) % 0x400]

/-! ## Stand-ins -/

/-- The first code point of the last plane. -/
def lastPlane : Nat := 0x100000

def isStandIn (code : Nat) : Bool :=
  lastPlane + 0xD800 ≤ code && code < lastPlane + 0xE000

/-- The character that holds a unit of a pair that stands alone. -/
def standIn (unit : Nat) : Char :=
  Char.ofNat (lastPlane + unit)

/-! ## Symbols -/

/-- A character, or a unit of a pair that stands alone. -/
inductive Symbol where
  | character (value : Char)
  | lone (unit : Nat)
  deriving DecidableEq

/-- The characters that hold a symbol in a text. -/
def Symbol.held : Symbol → List Char
  | .character value =>
      if isStandIn value.toNat then (codePair value.toNat).map standIn else [value]
  | .lone unit => [standIn unit]

/-- What one unit without a partner writes. -/
def singleSymbol (unit : Nat) : Symbol :=
  if isFirstOfPair unit || isSecondOfPair unit then .lone unit else .character (Char.ofNat unit)

def symbolsOfUnits : List Nat → List Symbol
  | [] => []
  | [unit] => [singleSymbol unit]
  | first :: second :: units =>
      if isFirstOfPair first && isSecondOfPair second then
        .character (Char.ofNat (pairCode first second)) :: symbolsOfUnits units
      else singleSymbol first :: symbolsOfUnits (second :: units)

/-! ## Texts -/

/-- The units that one character of a text holds. -/
def characterUnits (character : Char) : List Nat :=
  let code := character.toNat
  if isStandIn code then [code - lastPlane]
  else if code < 0x10000 then [code]
  else codePair code

def textUnits (characters : List Char) : List Nat :=
  characters.flatMap characterUnits

/-- The characters that hold some units in a text. -/
def charactersOfUnits (units : List Nat) : List Char :=
  (symbolsOfUnits units).flatMap Symbol.held

/-- The characters that hold some plain characters in a text. -/
def holdCharacters (characters : List Char) : List Char :=
  characters.flatMap fun character => Symbol.held (.character character)

/-- The text that holds some plain characters. -/
def heldText (plain : String) : String :=
  String.ofList (holdCharacters plain.toList)

/-- The character that stands for what is no character. -/
def replacementCharacter : Char := Char.ofNat 0xFFFD

/-- The character for a symbol where only characters can be written. -/
def Symbol.written : Symbol → Char
  | .character value => value
  | .lone _ => replacementCharacter

/-- A text as plain characters, to be written out. -/
def writtenText (text : String) : String :=
  String.ofList ((symbolsOfUnits (textUnits text.toList)).map Symbol.written)

/-- A text with the replacement character for every unit that stands alone. -/
def repairText (text : String) : String :=
  heldText (writtenText text)

end EvidenceSearch
