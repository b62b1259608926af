import EvidenceSearch.Storage.CaseTables
import EvidenceSearch.Storage.KeyValues
import EvidenceSearch.Storage.RepositoryTables

/-!
# The tables of a database

A database may hold a table of keys and values, the tables of a case, the tables of a central
repository, and further tables of which only the names matter. A statement changes the tables and
may insert a row, or it is refused and changes nothing. The tables of a store are created by a
script of several statements.
-/

namespace EvidenceSearch

/-- The tables of a database. No tables of a store are held if none of them is there. -/
structure Tables where
  keyValues : Option KeyValues := none
  caseTables : Option CaseTables := none
  repositoryTables : Option RepositoryTables := none
  further : List String := []
  deriving DecidableEq

/-- A change of the tables, with the key of the row that it inserts, if it inserts one. -/
abbrev Statement := Tables → Except StorageError (Tables × Option Int)

namespace Tables

def empty : Tables :=
  {}

/-- The name of the further table that can be created. -/
def otherName : String := "other"

/-- The name of the table that keeps the numbers that are used up. -/
def sequenceName : String := "sqlite_sequence"

/-- The tables whose rows are numbered so that no number is given twice. -/
def numbered : List String :=
  ["tsk_files", "blackboard_artifacts", "file_instances"]

/-- The tables of a case that are there. -/
def casePresent (tables : Tables) : List String :=
  (tables.caseTables.map CaseTables.present).getD []

/-- The tables of a repository that are there. -/
def repositoryPresent (tables : Tables) : List String :=
  (tables.repositoryTables.map RepositoryTables.present).getD []

def names (tables : Tables) : List String :=
  let present := tables.casePresent ++ tables.repositoryPresent
  (if tables.keyValues.isSome then [KeyValues.tableName] else []) ++ present ++
    (if present.any numbered.contains then [sequenceName] else []) ++ tables.further

def missing (tables : Tables) (wanted : List String) : List String :=
  wanted.filter fun name => !tables.names.contains name

/-! ## Finding tables -/

def requireKeyValues (tables : Tables) : Except StorageError KeyValues :=
  match tables.keyValues with
  | some rows => .ok rows
  | none => .error (.noTable KeyValues.tableName)

/-- The tables of a case, if a statement finds there what it names. -/
def requireCase (tables : Tables) (access : ColumnAccess) : Except StorageError CaseTables :=
  requireTables CaseTables.gaps access tables.caseTables

/-- The tables of a repository, if a statement finds there what it names. -/
def requireRepository (tables : Tables) (access : ColumnAccess) :
    Except StorageError RepositoryTables :=
  requireTables RepositoryTables.gaps access tables.repositoryTables

/-! ## Statements -/

def createKeyValues : Statement := fun tables =>
  match tables.keyValues with
  | some _ => .error (.tableExists KeyValues.tableName)
  | none => .ok ({ tables with keyValues := some [] }, none)

def createOther : Statement := fun tables =>
  if tables.further.contains otherName then .error (.tableExists otherName)
  else .ok ({ tables with further := otherName :: tables.further }, none)

/-- Create a table of a case, unless it is there. -/
def createCaseTable (name : String) : Statement := fun tables =>
  let caseTables := tables.caseTables.getD CaseTables.absent
  .ok ({ tables with caseTables := some (caseTables.withTable name) }, none)

/-- Index a column of a table of a store. The rows do not change. -/
def createIndex
    {Held : Type} (gaps : Held → List SchemaGap) (held? : Tables → Option Held)
    (index : String × String) :
    Statement := fun tables => do
  let _ ← requireTables gaps (.selectFrom index.1 [index.2]) (held? tables)
  return (tables, none)

/-- Create the tables of a case that are not there, and then the indexes. -/
def createCase : List Statement :=
  (CaseTables.schema.map fun table => createCaseTable table.1) ++
    CaseTables.indexes.map (createIndex CaseTables.gaps Tables.caseTables)

/-- Create a table of a repository, unless it is there. -/
def createRepositoryTable (name : String) : Statement := fun tables =>
  let repositoryTables := tables.repositoryTables.getD RepositoryTables.absent
  .ok ({ tables with repositoryTables := some (repositoryTables.withTable name) }, none)

/-- Insert the type for files, or leave it out if its id is taken. -/
def insertFilesType : Statement := fun tables => do
  let repositoryTables ←
    tables.requireRepository
      (.insertInto "correlation_types" ["id", "display_name", "db_table_name"])
  let (repositoryTables, id?) := repositoryTables.addFilesType
  return ({ tables with repositoryTables := some repositoryTables }, id?)

/-- Create the tables of a repository that are not there, with the type for files, and then the
index. -/
def createRepository : List Statement :=
  [createRepositoryTable "correlation_types", insertFilesType,
    createRepositoryTable "file_instances",
    createIndex RepositoryTables.gaps Tables.repositoryTables ("file_instances", "value")]

def insertKeyValue (key? : Option Number) (value : Option String) : Statement := fun tables => do
  let rows ← tables.requireKeyValues
  let (rows, key) ← rows.insert (← givenKey? key?) value
  return ({ tables with keyValues := some rows }, some key)

/-- Insert a value, or leave it out if it is there. -/
def insertValueOnce (value : Option String) : Statement := fun tables => do
  let rows ← tables.requireKeyValues
  match rows.insert none value with
  | .ok (rows, key) => return ({ tables with keyValues := some rows }, some key)
  | .error _ => return (tables, none)

def deleteKey (key : Number) : Statement := fun tables => do
  let rows ← tables.requireKeyValues
  return ({ tables with keyValues := some (rows.delete key) }, none)

def insertSource (id? : Option Number) (name? : Option String) : Statement := fun tables => do
  let caseTables ← tables.requireCase (.insertInto "data_source_info" ["obj_id", "name"])
  let (caseTables, id) ← caseTables.addSource id? name?
  return ({ tables with caseTables := some caseTables }, some id)

def insertFile (file : NewFile) : Statement := fun tables => do
  let caseTables ←
    tables.requireCase
      (.insertInto "tsk_files"
        ["name", "parent_path", "size", "data_source_obj_id", "mime_type", "md5"])
  let (caseTables, id) ← caseTables.addFile file
  return ({ tables with caseTables := some caseTables }, some id)

/-- Insert an artifact of a keyword hit. -/
def insertArtifact (fileId : Option Number) : Statement := fun tables => do
  let caseTables ←
    tables.requireCase (.insertInto "blackboard_artifacts" ["obj_id", "artifact_type_id"])
  let (caseTables, id) ← caseTables.addArtifact fileId
  return ({ tables with caseTables := some caseTables }, some id)

def insertListName (artifactId : Int) (name : Option String) : Statement := fun tables => do
  let caseTables ←
    tables.requireCase
      (.insertInto "blackboard_attributes"
        ["artifact_id", "artifact_type_id", "attribute_type_id", "value_text"])
  let (caseTables, row) := caseTables.addListName artifactId name
  return ({ tables with caseTables := some caseTables }, some row)

/-- Insert an occurrence, or leave it out if it is there. -/
def insertOccurrence
    (caseId sourceId : Option Number)
    (hash : String)
    (path : Option String) :
    Statement := fun tables => do
  let repositoryTables ←
    tables.requireRepository
      (.insertInto "file_instances" ["case_id", "data_source_id", "value", "file_path"])
  let (repositoryTables, number?) := repositoryTables.add caseId sourceId hash path
  return ({ tables with repositoryTables := some repositoryTables }, number?)

end Tables
end EvidenceSearch
