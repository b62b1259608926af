/-!
# Patterns

In a pattern a percent sign stands for any characters, an underscore for any one character, and
the escape character makes the next one stand for itself. All other characters stand for
themselves, the letters from A to Z in either case. A pattern that ends with the escape character
matches nothing.
-/

namespace EvidenceSearch.Sql

/-- One part of a pattern. -/
inductive PatternPart where
  | anything
  | anyOne
  | exactly (character : Char)
  deriving DecidableEq

/-- The parts of a pattern, unless it ends with the escape character. -/
def readPattern (escape : Char) : List Char → Option (List PatternPart)
  | [] => some []
  | character :: rest =>
      if character = escape then
        match rest with
        | [] => none
        | meant :: rest => (readPattern escape rest).map (.exactly meant :: ·)
      else if character = '%' then (readPattern escape rest).map (.anything :: ·)
      else if character = '_' then (readPattern escape rest).map (.anyOne :: ·)
      else (readPattern escape rest).map (.exactly character :: ·)

/-- The letters from A to Z in lower case, and every other character as it is. -/
def foldLetter (character : Char) : Char :=
  character.toLower

/-- Whether some end of the text passes a test. -/
def someEnd (test : List Char → Bool) : List Char → Bool
  | [] => test []
  | character :: rest => test (character :: rest) || someEnd test rest

def partsMatch : List PatternPart → List Char → Bool
  | [], text => text.isEmpty
  | [.anything], _ => true
  | .anything :: parts, text => someEnd (partsMatch parts) text
  | .anyOne :: _, [] => false
  | .anyOne :: parts, _ :: text => partsMatch parts text
  | .exactly _ :: _, [] => false
  | .exactly expected :: parts, character :: text =>
      foldLetter character = foldLetter expected && partsMatch parts text

def patternMatches (escape : Char) (pattern text : List Char) : Bool :=
  match readPattern escape pattern with
  | some parts => partsMatch parts text
  | none => false

/-- Put a backslash before every character that has a meaning of its own in a pattern. -/
def escapePattern : List Char → List Char
  | [] => []
  | character :: rest =>
      if character = '\\' || character = '%' || character = '_' then
        '\\' :: character :: escapePattern rest
      else character :: escapePattern rest

/-- How many bytes a pattern may have. -/
def patternLimit : Nat := 50000

end EvidenceSearch.Sql
