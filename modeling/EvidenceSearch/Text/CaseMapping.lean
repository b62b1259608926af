import EvidenceSearch.Text.CaseTable
import EvidenceSearch.Text.CasedTable

/-!
# Upper and lower case of texts

Every character is mapped by the case tables, and a capital sigma at the end of a word takes its
final form in lower case: it ends a word if, leaving out characters that case ignores, a cased
character stands before it and none after it.
-/

namespace EvidenceSearch

/-- Whether one of the intervals holds the code point. -/
def inIntervals (intervals : List (Nat × Nat)) (code : Nat) : Bool :=
  intervals.any fun interval => interval.1 ≤ code && code ≤ interval.2

/-- Move a code point by the first run that holds it. -/
def moveByRuns (runs : List CaseRun) (code : Nat) : Nat :=
  match runs.find? fun run => run.holds code with
  | some run => (code + run.distance).toNat
  | none => code

/-- The characters that replace one character under the given tables. -/
def mapCharacter
    (sequences : List (Nat × List Nat))
    (runs : List CaseRun)
    (character : Char) :
    List Char :=
  match sequences.lookup character.toNat with
  | some codes => codes.map Char.ofNat
  | none => [Char.ofNat (moveByRuns runs character.toNat)]

def upperCharacter (character : Char) : List Char :=
  if character.toNat < 128 then [character.toUpper]
  else mapCharacter upperSequences upperRuns character

/-- The lower case of one character, wherever it stands. -/
def lowerCharacter (character : Char) : List Char :=
  if character.toNat < 128 then [character.toLower]
  else mapCharacter lowerSequences lowerRuns character

/-- Whether the first character that case does not ignore is cased. -/
def startsCased : List Char → Bool
  | [] => false
  | character :: rest =>
      if inIntervals caseIgnorableIntervals character.toNat then startsCased rest
      else inIntervals casedIntervals character.toNat

/-- Lower the rest of a text; `before` holds the characters already passed, the last one first. -/
def lowerAfter (before : List Char) : List Char → List Char
  | [] => []
  | character :: rest =>
      (if character = 'Σ' && startsCased before && !startsCased rest then ['ς']
        else lowerCharacter character) ++
        lowerAfter (character :: before) rest

def upperCase (text : String) : String :=
  String.ofList (text.toList.flatMap upperCharacter)

def lowerCase (text : String) : String :=
  String.ofList (lowerAfter [] text.toList)

end EvidenceSearch
