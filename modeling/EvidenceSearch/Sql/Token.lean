import EvidenceSearch.Sql.Literal

/-!
# Tokens of a clause

A clause is a list of tokens. Written out, tokens stand apart by one space, except that nothing
stands before a closing bracket, after an opening one, or around a comma. Reading skips blanks and
ends a quoted text at its closing quote; a quoted text that is never closed, and a character that
starts no token, are read as one token that no clause may hold.
-/

namespace EvidenceSearch.Sql

/-- A token of a clause. -/
inductive Token where
  | word (name : String)
  | numeral (value : Nat)
  | text (content : List Char)
  | opening
  | closing
  | comma
  | equal
  | above
  | atLeast
  | atMost
  | unreadable (characters : List Char)
  deriving DecidableEq

namespace Token

/-- A token as it is written. -/
def characters : Token → List Char
  | .word name => name.toList
  | .numeral value => Nat.toDigits 10 value
  | .text content => quote content
  | .opening => ['(']
  | .closing => [')']
  | .comma => [',']
  | .equal => ['=']
  | .above => ['>']
  | .atLeast => ['>', '=']
  | .atMost => ['<', '=']
  | .unreadable characters => characters

/-- Whether two tokens that follow one another are written without a space between them. -/
def adjoins (left right : Token) : Bool :=
  left = .opening || left = .comma || right = .closing || right = .comma

def write : List Token → List Char
  | [] => []
  | [token] => token.characters
  | left :: right :: tokens =>
      left.characters ++ (if left.adjoins right then [] else [' ']) ++ write (right :: tokens)

def startsWord (character : Char) : Bool :=
  character.isAlpha || character = '_'

def insideWord (character : Char) : Bool :=
  character.isAlphanum || character = '_'

/-- Whether a character stands between tokens. -/
def isSpace (character : Char) : Bool :=
  character = ' ' || character = '\t' || character = '\n' || character = '\r' ||
    character = '\x0c'

/-- Read the first token, given its first character; the rest of the text follows. -/
def next (first : Char) (rest : List Char) : Token × List Char :=
  if first = '(' then (.opening, rest)
  else if first = ')' then (.closing, rest)
  else if first = ',' then (.comma, rest)
  else if first = '=' then (.equal, rest)
  else if first = '\'' then
    match readQuoted [] rest with
    | some (content, rest) => (.text content, rest)
    | none => (.unreadable (first :: rest), [])
  else if first = '>' then
    match rest with
    | '=' :: rest => (.atLeast, rest)
    | rest => (.above, rest)
  else if first = '<' then
    match rest with
    | '=' :: rest => (.atMost, rest)
    | rest => (.unreadable ['<'], rest)
  else if first.isDigit then
    let (digits, rest) := (first :: rest).span Char.isDigit
    (.numeral (digits.foldl (fun value digit => value * 10 + (digit.toNat - 48)) 0), rest)
  else if startsWord first then
    let (letters, rest) := (first :: rest).span insideWord
    (.word (String.ofList letters), rest)
  else (.unreadable [first], rest)

/-- Read tokens, at most as many as `fuel` says; every token takes at least one character. -/
def scanWithin : (fuel : Nat) → List Char → List Token
  | 0, _ => []
  | _ + 1, [] => []
  | fuel + 1, first :: rest =>
      if isSpace first then scanWithin fuel rest
      else
        let (token, rest) := next first rest
        token :: scanWithin fuel rest

def scan (text : List Char) : List Token :=
  scanWithin text.length text

end Token
end EvidenceSearch.Sql
