import EvidenceSearch.Record
import EvidenceSearch.Storage.Hash
import EvidenceSearch.Storage.Cell
import EvidenceSearch.Storage.Schema

/-!
# The tables of a central repository

A repository knows correlation types and occurrences. An occurrence says that a file with some
hash was seen in a data source of a case, at a path; no two occurrences are alike. Every attempt
to add one uses up a number, even if nothing is added. One of the tables may be missing, and tables
that were made elsewhere may lack columns.
-/

namespace EvidenceSearch

/-- A file with some hash was seen in a data source of a case. -/
structure Occurrence where
  caseId : Number
  sourceId : Number
  hash : String
  path : String
  deriving DecidableEq

/-- The tables of a repository, with the number of an occurrence that was used up last and with what
is missing. -/
structure RepositoryTables where
  types : List CorrelationType
  occurrences : List Occurrence
  used : Int := 0
  gaps : List SchemaGap := []
  deriving DecidableEq

def CorrelationType.files : CorrelationType :=
  ⟨.finite 0, "Files", "file"⟩

/-- A type as it is read back. -/
def CorrelationType.restored (type : CorrelationType) : CorrelationType :=
  { type with
    displayName := readBack type.displayName
    tableName := readBack type.tableName }

namespace RepositoryTables

/-- No occurrences; the type for files is known. -/
def empty : RepositoryTables :=
  { types := [CorrelationType.files], occurrences := [] }

def names : List String :=
  ["correlation_types", "file_instances"]

/-- The columns of the tables that statements name. -/
def schema : List (String × List String) :=
  [("correlation_types", ["id", "display_name", "db_table_name"]),
    ("file_instances", ["case_id", "data_source_id", "value", "file_path"])]

/-- None of the tables is there. -/
def absent : RepositoryTables :=
  { types := [], occurrences := [], gaps := names.map SchemaGap.table }

/-- The names of the tables that are there. -/
def present (tables : RepositoryTables) : List String :=
  presentTables names tables.gaps

/-- Create a table, unless it is there. -/
def withTable (tables : RepositoryTables) (name : String) : RepositoryTables :=
  { tables with gaps := gapsWithTable name tables.gaps }

/-- Add the type for files, unless there is a type of its id. The result is the new tables and the
id if it was added. -/
def addFilesType (tables : RepositoryTables) : RepositoryTables × Option Int :=
  if tables.types.any fun type => type.id.equals CorrelationType.files.id then (tables, none)
  else ({ tables with types := CorrelationType.files :: tables.types }, some 0)

/-- Add an occurrence; one that is known already, or that misses a value, is left out. The result
is the new tables and the number of the occurrence if it was added. -/
def add
    (tables : RepositoryTables)
    (caseId sourceId : Option Number)
    (hash : String)
    (path : Option String) :
    RepositoryTables × Option Int :=
  let tables := { tables with used := tables.used + 1 }
  match storedNumber? caseId, storedNumber? sourceId, path with
  | some caseId, some sourceId, some path =>
      let occurrence : Occurrence := ⟨caseId, sourceId, hash, path⟩
      if tables.occurrences.contains occurrence then (tables, none)
      else
        ({ tables with occurrences := tables.occurrences ++ [occurrence] }, some tables.used)
  | _, _, _ => (tables, none)

/-- The pairs of a case and a data source in which a hash was seen, each once. -/
def places (tables : RepositoryTables) (hash : String) : List (Number × Number) :=
  ((tables.occurrences.filter fun occurrence => occurrence.hash = hash).map fun occurrence =>
    (occurrence.caseId, occurrence.sourceId)).eraseDups

def type? (tables : RepositoryTables) (id : Number) : Option CorrelationType :=
  (tables.types.find? fun type => type.id.equals id).map CorrelationType.restored

end RepositoryTables
end EvidenceSearch
