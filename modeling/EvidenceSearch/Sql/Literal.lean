/-!
# Quoted texts

A quoted text stands between single quotes, and every quote inside is written twice. Reading goes
on to the first quote that is not doubled.
-/

namespace EvidenceSearch.Sql

/-- Write every quote twice. -/
def doubleQuotes : List Char → List Char
  | [] => []
  | character :: rest =>
      if character = '\'' then '\'' :: '\'' :: doubleQuotes rest
      else character :: doubleQuotes rest

def quote (text : List Char) : List Char :=
  '\'' :: (doubleQuotes text ++ ['\''])

/-- Read on after the opening quote, up to the closing one; `done` holds the characters read, the
last one first. The result is the text and what follows it, unless the closing quote is missing. -/
def readQuoted (done : List Char) : List Char → Option (List Char × List Char)
  | [] => none
  | '\'' :: '\'' :: rest => readQuoted ('\'' :: done) rest
  | character :: rest =>
      if character = '\'' then some (done.reverse, rest) else readQuoted (character :: done) rest

end EvidenceSearch.Sql
