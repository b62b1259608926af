import EvidenceSearch.Json.Basic
import EvidenceSearch.Text.Units

/-!
# Writing JSON

A value is written either on one line without any blank, or with every item and every field on a
line of its own, indented by two spaces for each level. What is not a finite number is written as
null, and an empty array or object always stands on one line. In a string, a unit of a pair that
stands alone is written as an escape.
-/

namespace EvidenceSearch

/-- The lower-case hexadecimal digit of a value below sixteen. -/
def hexDigit (value : Nat) : Char :=
  (Nat.digitChar value)

namespace Json

/-- The escape of a unit of sixteen bits: its four hexadecimal digits. -/
def unitEscape (unit : Nat) : List Char :=
  ['\\', 'u', hexDigit (unit / 0x1000 % 16), hexDigit (unit / 0x100 % 16),
    hexDigit (unit / 16 % 16), hexDigit (unit % 16)]

/-- A character as it stands inside a quoted string. -/
def quotedCharacter (character : Char) : List Char :=
  if character = '"' then ['\\', '"']
  else if character = '\\' then ['\\', '\\']
  else if character = '\x08' then ['\\', 'b']
  else if character = '\x0c' then ['\\', 'f']
  else if character = '\n' then ['\\', 'n']
  else if character = '\r' then ['\\', 'r']
  else if character = '\t' then ['\\', 't']
  else if character.toNat < 0x20 then unitEscape character.toNat
  else Symbol.held (.character character)

/-- A symbol as it stands inside a quoted string. -/
def quotedSymbol : Symbol → List Char
  | .character value => quotedCharacter value
  | .lone unit => unitEscape unit

def quote (text : String) : String :=
  String.ofList
    ('"' :: (symbolsOfUnits (textUnits text.toList)).flatMap quotedSymbol ++ ['"'])

/-- A number; only a finite one has a numeral. -/
def numeral (value : Number) : String :=
  if value.isFinite then value.write else "null"

mutual

/-- Write a value on one line. -/
def compact : Json → String
  | .null => "null"
  | .bool true => "true"
  | .bool false => "false"
  | .number value => numeral value
  | .string value => quote value
  | .array items => "[" ++ ",".intercalate (compactItems items) ++ "]"
  | .object fields => "\x7b" ++ ",".intercalate (compactFields fields) ++ "\x7d"

/-- Write the items of an array, each on one line. -/
def compactItems : List Json → List String
  | [] => []
  | item :: items => compact item :: compactItems items

/-- Write the fields of an object, each on one line. -/
def compactFields : List (String × Json) → List String
  | [] => []
  | (name, value) :: fields => (quote name ++ ":" ++ compact value) :: compactFields fields

end

/-- Put entries between two brackets, each on a line of its own. -/
def bracketed (indent : String) (opening closing : String) (entries : List String) : String :=
  if entries.isEmpty then opening ++ closing
  else
    opening ++ "\n" ++ (",\n".intercalate (entries.map fun entry => indent ++ "  " ++ entry)) ++
      "\n" ++ indent ++ closing

mutual

/-- Write a value over several lines, the first of which starts after the indentation. -/
def indented (indent : String) : Json → String
  | .null => "null"
  | .bool true => "true"
  | .bool false => "false"
  | .number value => numeral value
  | .string value => quote value
  | .array items => bracketed indent "[" "]" (indentedItems (indent ++ "  ") items)
  | .object fields => bracketed indent "\x7b" "\x7d" (indentedFields (indent ++ "  ") fields)

/-- Write the items of an array over several lines. -/
def indentedItems (indent : String) : List Json → List String
  | [] => []
  | item :: items => indented indent item :: indentedItems indent items

/-- Write the fields of an object over several lines. -/
def indentedFields (indent : String) : List (String × Json) → List String
  | [] => []
  | (name, value) :: fields =>
      (quote name ++ ": " ++ indented indent value) :: indentedFields indent fields

end

/-- Write a value over several lines. -/
def pretty (value : Json) : String :=
  indented "" value

end Json
end EvidenceSearch
