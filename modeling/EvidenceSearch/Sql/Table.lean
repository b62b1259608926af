import EvidenceSearch.Number.Text

/-!
# Tables as clauses see them

A table has named columns that hold numbers or texts, and rows with one value for each column;
any value may be missing.
-/

namespace EvidenceSearch.Sql

/-- A value of a row. -/
inductive Value where
  | missing
  | number (value : Number)
  | text (content : String)
  deriving DecidableEq

/-- What a column holds; values compared with it are read accordingly. -/
inductive ColumnType where
  | number
  | text
  deriving DecidableEq

/-- A column of a table. -/
structure Column where
  name : String
  type : ColumnType
  deriving DecidableEq

/-- Rows under named columns. -/
structure Table where
  columns : List Column
  rows : List (List Value)

/-- The tables of a database, by name. -/
abbrev Database := String → Option Table

def Value.ofText? : Option String → Value
  | some content => .text content
  | none => .missing

end EvidenceSearch.Sql
