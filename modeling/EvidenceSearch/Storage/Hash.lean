import EvidenceSearch.Storage.Error
import EvidenceSearch.Text.Blank
import EvidenceSearch.Text.CaseMapping

/-!
# Hashes

A hash is written as thirty-two hexadecimal digits. Blanks around it and the case of its letters
do not count, and it is kept in lower case.
-/

namespace EvidenceSearch

/-- Whether a character is a decimal digit or a letter from a to f. -/
def isHashDigit (character : Char) : Bool :=
  character.isDigit || ('a' ≤ character && character ≤ 'f')

/-- How many digits a hash has. -/
def hashLength : Nat := 32

/-- The form in which a hash is kept. -/
def normalizeHash (text : String) : Except StorageError String :=
  let normal := lowerCase (trim text)
  if normal.length = hashLength && normal.toList.all isHashDigit then .ok normal
  else .error (.malformedHash text)

end EvidenceSearch
