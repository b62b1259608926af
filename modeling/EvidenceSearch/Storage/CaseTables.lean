import EvidenceSearch.Filter.Clause
import EvidenceSearch.Sql.Selection
import EvidenceSearch.Storage.Cell
import EvidenceSearch.Storage.Schema

/-!
# The tables of a case

A case holds data sources, files, artifacts that were found in files, and attributes of artifacts.
A hit of a keyword list is an artifact of its file with one attribute, the name of the list. The
rows of every table stand in the order of their keys. Files, artifacts and attributes are numbered
in the order in which they are added, and no number is given twice. Some of the tables may be
missing, and tables that were made elsewhere may lack columns.
-/

namespace EvidenceSearch

/-- A data source as its table holds it. -/
structure StoredSource where
  id : Int
  name : String
  deriving DecidableEq

/-- A file as its table holds it. -/
structure StoredFile where
  id : Int
  name : String
  parentPath : String
  size : Number
  sourceId : Number
  mediaType : Option String
  hash : Option String
  deriving DecidableEq

/-- Something that was found in a file. -/
structure StoredArtifact where
  id : Int
  fileId : Number
  type : Nat
  deriving DecidableEq

/-- An attribute of an artifact. -/
structure StoredAttribute where
  artifactId : Int
  artifactType : Nat
  type : Nat
  text : Option String
  deriving DecidableEq

/-- The four tables of a case, with the numbers that were given last and with what is missing. -/
structure CaseTables where
  sources : List StoredSource
  files : List StoredFile
  artifacts : List StoredArtifact
  attributes : List StoredAttribute
  lastFile : Int := 0
  lastArtifact : Int := 0
  lastAttribute : Int := 0
  gaps : List SchemaGap := []
  deriving DecidableEq

/-- A file that is to be added. What is missing must not be, except for media type and hash. -/
structure NewFile where
  name : Option String
  parentPath : Option String
  size : Option Number
  sourceId : Option Number
  mediaType : Option String
  hash : Option String
  deriving DecidableEq

/-- A file as it is read back. -/
def StoredFile.record (file : StoredFile) : FileRecord :=
  { id := .ofInt file.id
    name := readBack file.name
    parentPath := readBack file.parentPath
    size := file.size
    sourceId := file.sourceId
    mediaType := file.mediaType.map readBack
    hash := file.hash.map readBack }

namespace CaseTables

def empty : CaseTables :=
  { sources := [], files := [], artifacts := [], attributes := [] }

def names : List String :=
  ["tsk_files", "data_source_info", "blackboard_artifacts", "blackboard_attributes"]

/-- None of the tables is there. -/
def absent : CaseTables :=
  { empty with gaps := names.map SchemaGap.table }

/-- The names of the tables that are there. -/
def present (tables : CaseTables) : List String :=
  presentTables names tables.gaps

/-- Create a table, unless it is there. -/
def withTable (tables : CaseTables) (name : String) : CaseTables :=
  { tables with gaps := gapsWithTable name tables.gaps }

/-! ## Adding rows -/

/-- Add a data source. The result is the new tables and its id. -/
def addSource (tables : CaseTables) (id? : Option Number) (name? : Option String) :
    Except StorageError (CaseTables × Int) := do
  let given ← givenKey? id?
  let name ← requireCell "data_source_info" "name" name?
  let id := given.getD (keyAfter (tables.sources.map StoredSource.id))
  if tables.sources.any fun source => source.id = id then
    .error (.notUnique "data_source_info" "obj_id")
  else
    return ({ tables with sources := insertByKey StoredSource.id ⟨id, name⟩ tables.sources }, id)

/-- Add a file. The result is the new tables and its id. -/
def addFile (tables : CaseTables) (file : NewFile) : Except StorageError (CaseTables × Int) := do
  let required {Value : Type} (column : String) (value? : Option Value) :=
    requireCell "tsk_files" column value?
  let name ← required "name" file.name
  let parentPath ← required "parent_path" file.parentPath
  let size ← required "size" (storedNumber? file.size)
  let sourceId ← required "data_source_obj_id" (storedNumber? file.sourceId)
  let id := tables.lastFile + 1
  let stored : StoredFile := ⟨id, name, parentPath, size, sourceId, file.mediaType, file.hash⟩
  return ({ tables with files := tables.files ++ [stored], lastFile := id }, id)

/-- Add an artifact of a keyword hit. The result is the new tables and its id. -/
def addArtifact (tables : CaseTables) (fileId : Option Number) :
    Except StorageError (CaseTables × Int) := do
  let fileId ← requireCell "blackboard_artifacts" "obj_id" (storedNumber? fileId)
  let id := tables.lastArtifact + 1
  let stored : StoredArtifact := ⟨id, fileId, keywordHitType⟩
  return ({ tables with artifacts := tables.artifacts ++ [stored], lastArtifact := id }, id)

/-- Add the name of a keyword list to an artifact. The result is the new tables and the number of
the row. -/
def addListName (tables : CaseTables) (artifactId : Int) (name : Option String) :
    CaseTables × Int :=
  let row : StoredAttribute := ⟨artifactId, keywordHitType, listNameType, name⟩
  let number := tables.lastAttribute + 1
  ({ tables with attributes := tables.attributes ++ [row], lastAttribute := number }, number)

/-! ## Reading -/

/-- The data sources in the order of their ids. -/
def listSources (tables : CaseTables) : List DataSource :=
  tables.sources.map fun source => ⟨.ofInt source.id, readBack source.name⟩

/-- The names of the keyword lists that have a hit, each once and in the order of their
characters. -/
def listNames (tables : CaseTables) : List String :=
  let names :=
    tables.attributes.filterMap fun row =>
      if row.artifactType = keywordHitType && row.type = listNameType then
        row.text
      else none
  (names.eraseDups.mergeSort fun left right => left ≤ right).map readBack

/-! ## The tables as clauses see them -/

def fileColumns : List Sql.Column :=
  [⟨"obj_id", .number⟩, ⟨"name", .text⟩, ⟨"parent_path", .text⟩, ⟨"size", .number⟩,
    ⟨"data_source_obj_id", .number⟩, ⟨"mime_type", .text⟩, ⟨"md5", .text⟩]

def fileRow (file : StoredFile) : List Sql.Value :=
  [.number (.finite file.id), .text file.name, .text file.parentPath, .number file.size,
    .number file.sourceId, .ofText? file.mediaType, .ofText? file.hash]

def artifactColumns : List Sql.Column :=
  [⟨"artifact_id", .number⟩, ⟨"obj_id", .number⟩, ⟨"artifact_type_id", .number⟩]

def artifactTable (artifacts : List StoredArtifact) : Sql.Table :=
  { columns := artifactColumns
    rows :=
      artifacts.map fun artifact =>
        [.number (.finite artifact.id), .number artifact.fileId,
          .number (.finite artifact.type)] }

def attributeColumns : List Sql.Column :=
  [⟨"artifact_id", .number⟩, ⟨"artifact_type_id", .number⟩, ⟨"attribute_type_id", .number⟩,
    ⟨"value_text", .text⟩]

def attributeTable (attributes : List StoredAttribute) : Sql.Table :=
  { columns := attributeColumns
    rows :=
      attributes.map fun row =>
        [.number (.finite row.artifactId), .number (.finite row.artifactType),
          .number (.finite row.type), .ofText? row.text] }

/-- The tables in the order in which they are created, with the columns that statements name. -/
def schema : List (String × List String) :=
  [("data_source_info", ["obj_id", "name"]), ("tsk_files", fileColumns.map Sql.Column.name),
    ("blackboard_artifacts", artifactColumns.map Sql.Column.name),
    ("blackboard_attributes", attributeColumns.map Sql.Column.name)]

/-- The columns that are indexed, each with its table. -/
def indexes : List (String × String) :=
  [("tsk_files", "data_source_obj_id"), ("tsk_files", "mime_type"), ("tsk_files", "parent_path"),
    ("blackboard_artifacts", "obj_id"), ("blackboard_attributes", "artifact_id")]

/-- The question for the files that a condition selects. -/
def fileAccess (condition : Sql.Condition) : ColumnAccess :=
  let files := ColumnAccess.selectFrom "tsk_files" (fileColumns.map Sql.Column.name)
  { files with columns := files.columns ++ condition.columns files.table }

/-- The tables that a clause about files may ask. -/
def database (tables : CaseTables) : Sql.Database := fun name =>
  if name = "tsk_files" then some ⟨fileColumns, tables.files.map fileRow⟩
  else if name = "blackboard_artifacts" then some (artifactTable tables.artifacts)
  else if name = "blackboard_attributes" then some (attributeTable tables.attributes)
  else none

/-- The files for which a bound condition is true, in the order of their ids. -/
def filesPassing (test : Sql.Test) :
    List StoredFile → Except Sql.ClauseError (List StoredFile)
  | [] => .ok []
  | file :: files => do
      let truth ← test.evaluate (fileRow file)
      let passing ← filesPassing test files
      return if truth = some true then file :: passing else passing

/-- The files that a condition selects, in the order of their ids. -/
def select (tables : CaseTables) (condition : Sql.Condition) :
    Except Sql.ClauseError (List StoredFile) := do
  let test ← condition.bind tables.database ⟨fileColumns, []⟩
  filesPassing test tables.files

end CaseTables
end EvidenceSearch
