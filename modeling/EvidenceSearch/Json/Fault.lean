import EvidenceSearch.Text.Units

/-!
# Faults of a text that is not JSON

A fault names what the reader missed and holds the characters from which it could not go on. Its
position is counted in units of sixteen bits, and its message also gives the line and the column.
-/

namespace EvidenceSearch

namespace Json

/-- What the reader found missing or out of place. -/
inductive Expectation where
  | fieldNameOrClosing
  | quotedFieldName
  | colon
  | commaOrClosingBracket
  | commaOrClosingBrace
  | digitAfterMinus
  | digitAfterPoint
  | digitInExponent
  | endOfText
  | closingQuote
  | noControlCharacter
  | knownEscape
  | hexadecimalEscape
  | token
  deriving DecidableEq

/-- What was expected, and the characters found instead. -/
structure Fault where
  expectation : Expectation
  rest : List Char

/-- The message for an expectation that is met nowhere else. -/
def Expectation.complaint? : Expectation → Option String
  | .fieldNameOrClosing => some "Expected property name or '\x7d' in JSON"
  | .quotedFieldName => some "Expected double-quoted property name in JSON"
  | .colon => some "Expected ':' after property name in JSON"
  | .commaOrClosingBracket => some "Expected ',' or ']' after array element in JSON"
  | .commaOrClosingBrace => some "Expected ',' or '\x7d' after property value in JSON"
  | .digitAfterMinus => some "No number after minus sign in JSON"
  | .digitAfterPoint => some "Unterminated fractional number in JSON"
  | .digitInExponent => some "Exponent part is missing a number in JSON"
  | .endOfText => some "Unexpected non-whitespace character after JSON"
  | .closingQuote => some "Unterminated string in JSON"
  | .noControlCharacter => some "Bad control character in string literal in JSON"
  | .knownEscape => some "Bad escaped character in JSON"
  | .hexadecimalEscape => some "Bad Unicode escape in JSON"
  | .token => none

/-- Line and column of the next character after some text, both counted from one. -/
def lineAndColumn (line column : Nat) : List Char → Nat × Nat
  | [] => (line, column)
  | '\r' :: '\n' :: rest => lineAndColumn (line + 1) 1 rest
  | character :: rest =>
      if character = '\n' || character = '\r' then lineAndColumn (line + 1) 1 rest
      else lineAndColumn line (column + (characterUnits character).length) rest

def complaintAt (complaint : String) (before : List Char) : String :=
  let place := lineAndColumn 1 1 before
  complaint ++ " at position " ++ toString (textUnits before).length ++
    " (line " ++ toString place.1 ++ " column " ++ toString place.2 ++ ")"

/-- How many units of context are shown on either side. -/
def contextWidth : Nat := 10

/-- The message for a unit that starts no token, with the text around it. -/
def unexpectedUnit (units : List Nat) (position unit : Nat) : String :=
  let shown (part : List Nat) := "\"" ++ String.ofList (charactersOfUnits part) ++ "\""
  let upTo := units.take (position + contextWidth)
  let context :=
    if units.length ≤ 2 * contextWidth then shown units
    else if position < contextWidth then shown upTo ++ "..."
    else if position + contextWidth < units.length then
      "..." ++ shown (upTo.drop (position - contextWidth)) ++ "..."
    else "..." ++ shown (units.drop (position - contextWidth))
  "Unexpected token '" ++ String.ofList (charactersOfUnits [unit]) ++ "', " ++ context ++
    " is not valid JSON"

def wordsQuotedWhole : List String :=
  ["[object Object]", "NaN", "Infinity", "undefined"]

def Fault.message (fault : Fault) (text : List Char) : String :=
  let before := text.take (text.length - fault.rest.length)
  match fault.expectation.complaint? with
  | some complaint => complaintAt complaint before
  | none =>
      match fault.rest with
      | [] => "Unexpected end of JSON input"
      | character :: _ =>
          if character = '-' || character.isDigit then
            complaintAt "Unexpected number in JSON" before
          else if character = '"' then complaintAt "Unexpected string in JSON" before
          else if wordsQuotedWhole.contains (String.ofList text) then
            "\"" ++ String.ofList text ++ "\" is not valid JSON"
          else
            unexpectedUnit (textUnits text) (textUnits before).length
              ((characterUnits character).headD 0)

end Json
end EvidenceSearch
