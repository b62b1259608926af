import EvidenceSearch.Storage.Error

/-!
# What is missing of the tables of a store

A database that was made elsewhere may have some of the tables that a store works on and lack the
others, or have a table under a name of the store but without all of its columns. A statement is
refused if it names what is missing: tables are looked for first, and then columns, both in the
order in which the statement names them.
-/

namespace EvidenceSearch

/-- Something that is missing of the tables of a store. -/
inductive SchemaGap where
  | table (name : String)
  /-- The table is there, but it was made without the column. -/
  | column (table name : String)
  deriving DecidableEq

/-- The names of the tables that are there. -/
def presentTables (names : List String) (gaps : List SchemaGap) : List String :=
  names.filter fun name => !gaps.contains (.table name)

/-- What is missing once a table is created, unless it is there. -/
def gapsWithTable (name : String) (gaps : List SchemaGap) : List SchemaGap :=
  gaps.filter fun gap => gap ≠ .table name

/-- What a statement names: its table, and columns of that table and others, each with its table.
The refusal tells that a table lacks a column. -/
structure ColumnAccess where
  table : String
  columns : List (String × String)
  refusal : (table column : String) → StorageError

namespace ColumnAccess

/-- A question about columns of a table. -/
def selectFrom (table : String) (columns : List String) : ColumnAccess :=
  ⟨table, columns.map (table, ·), fun _ column => .noColumn column⟩

/-- A new row of a table that gives values for some columns. -/
def insertInto (table : String) (columns : List String) : ColumnAccess :=
  ⟨table, columns.map (table, ·), .noColumnToInsert⟩

/-- Fail if something that the statement names is missing. -/
def check (access : ColumnAccess) (gaps : List SchemaGap) : Except StorageError Unit :=
  match access.columns.find? fun (table, _) => gaps.contains (.table table) with
  | some (table, _) => .error (.noTable table)
  | none =>
      match access.columns.find? fun (table, column) => gaps.contains (.column table column) with
      | some (table, column) => .error (access.refusal table column)
      | none => .ok ()

end ColumnAccess

/-- The tables of a store, if a statement finds there what it names. -/
def requireTables {Held : Type} (gaps : Held → List SchemaGap) (access : ColumnAccess) :
    Option Held → Except StorageError Held
  | none => .error (.noTable access.table)
  | some held => do
      access.check (gaps held)
      return held

end EvidenceSearch
