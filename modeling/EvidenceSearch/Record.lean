import EvidenceSearch.Frequency
import EvidenceSearch.Json.Basic

/-!
# Records of a case

A file as the case store describes it, a data source that files come from, and a file with the
frequency that a search found for it.
-/

namespace EvidenceSearch

/-- A file of the case. -/
structure FileRecord where
  id : Number
  name : String
  parentPath : String
  size : Number
  sourceId : Number
  mediaType : Option String
  hash : Option String
  deriving DecidableEq

/-- A data source of the case. -/
structure DataSource where
  id : Number
  name : String
  deriving DecidableEq

/-- What a central repository keeps for one kind of value. -/
structure CorrelationType where
  id : Number
  displayName : String
  tableName : String
  deriving DecidableEq

/-- A file that a search found, with what it learned about it. -/
structure ResultFile where
  file : FileRecord
  frequency : Frequency
  deriving DecidableEq

/-- A file as it enters a search: its frequency is not known yet. -/
def ResultFile.ofRecord (file : FileRecord) : ResultFile :=
  ⟨file, .unknown⟩

/-- The hash of a file, if it has one that is not empty. -/
def FileRecord.hash? (file : FileRecord) : Option String :=
  file.hash.filter fun hash => hash ≠ ""

/-- A text, or null if there is none. -/
def Json.ofText? (text? : Option String) : Json :=
  .ofOption (text?.map .string)

def FileRecord.fields (file : FileRecord) : List (String × Json) :=
  [("objId", .number file.id), ("name", .string file.name),
    ("parentPath", .string file.parentPath), ("size", .number file.size),
    ("dataSourceObjId", .number file.sourceId), ("mimeType", .ofText? file.mediaType),
    ("md5Hash", .ofText? file.hash)]

def FileRecord.toJson (file : FileRecord) : Json :=
  .object file.fields

def ResultFile.toJson (result : ResultFile) : Json :=
  .object (result.file.fields ++ [("frequency", .string result.frequency.name)])

def DataSource.toJson (source : DataSource) : Json :=
  .object [("id", .number source.id), ("name", .string source.name)]

def CorrelationType.toJson (type : CorrelationType) : Json :=
  .object [("id", .number type.id), ("displayName", .string type.displayName),
    ("dbTableName", .string type.tableName)]

end EvidenceSearch
