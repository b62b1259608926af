import EvidenceSearch.Text.Units

/-!
# Reading bytes as UTF-8

Bytes that are not well formed are replaced: each longest run that starts a character and is then
cut short becomes one replacement character, and so does each byte that can start none.
-/

namespace EvidenceSearch

/-- A character of which some bytes are still due: the bits read so far, how many bytes are due,
and the bounds of the next one. -/
structure PartialCharacter where
  bits : Nat
  due : Nat
  low : Nat
  high : Nat

/-- What the first byte of a character decides: the character, or what is still due. -/
inductive FirstByte where
  | whole (character : Char)
  | opens (started : PartialCharacter)

/-- Read the first byte of a character. -/
def FirstByte.ofNat (byte : Nat) : FirstByte :=
  if byte < 0x80 then .whole (Char.ofNat byte)
  else if 0xC2 ≤ byte && byte ≤ 0xDF then .opens ⟨byte - 0xC0, 1, 0x80, 0xBF⟩
  else if byte = 0xE0 then .opens ⟨0, 2, 0xA0, 0xBF⟩
  else if byte = 0xED then .opens ⟨0xD, 2, 0x80, 0x9F⟩
  else if 0xE1 ≤ byte && byte ≤ 0xEF then .opens ⟨byte - 0xE0, 2, 0x80, 0xBF⟩
  else if byte = 0xF0 then .opens ⟨0, 3, 0x90, 0xBF⟩
  else if byte = 0xF4 then .opens ⟨4, 3, 0x80, 0x8F⟩
  else if 0xF1 ≤ byte && byte ≤ 0xF3 then .opens ⟨byte - 0xF0, 3, 0x80, 0xBF⟩
  else .whole replacementCharacter

/-- Decode the rest of the bytes, with the character that is under way, if any. -/
def decodeBytesFrom : Option PartialCharacter → List UInt8 → List Char
  | none, [] => []
  | some _, [] => [replacementCharacter]
  | none, byte :: rest =>
      match FirstByte.ofNat byte.toNat with
      | .whole character => character :: decodeBytesFrom none rest
      | .opens started => decodeBytesFrom (some started) rest
  | some pending, byte :: rest =>
      let value := byte.toNat
      if pending.low ≤ value && value ≤ pending.high then
        let bits := pending.bits * 64 + (value - 0x80)
        if pending.due ≤ 1 then Char.ofNat bits :: decodeBytesFrom none rest
        else decodeBytesFrom (some ⟨bits, pending.due - 1, 0x80, 0xBF⟩) rest
      else
        replacementCharacter ::
          match FirstByte.ofNat value with
          | .whole character => character :: decodeBytesFrom none rest
          | .opens started => decodeBytesFrom (some started) rest

/-- The text that the bytes stand for. -/
def decodeBytes (bytes : List UInt8) : List Char :=
  holdCharacters (decodeBytesFrom none bytes)

end EvidenceSearch
