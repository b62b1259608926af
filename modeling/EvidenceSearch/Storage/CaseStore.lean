import EvidenceSearch.Storage.Handle

/-!
# The case store

What the files, data sources and keyword hits of a case are asked for, and how they are added, on
a handle of the database of the case.
-/

namespace EvidenceSearch

namespace CaseStore

open Handle

/-- Create the tables of a case that are not there. -/
def createTables : HandleM Unit :=
  runScript Tables.createCase

/-- Fail unless the tables of a case are there. -/
def checkTables : HandleM Unit := do
  let missing ← missingTables CaseTables.names
  if !missing.isEmpty then throw (.notCase missing)

/-- The files that a clause selects, in the order of their ids. A clause that can not be read is
reported before tables and columns that are missing. -/
def find (clause : String) : HandleM (List FileRecord) := do
  if (← get).connection = .closed then throw .closed
  match Sql.Condition.ofClause clause.toList with
  | .error error => throw (.clause error)
  | .ok condition =>
      query fun tables => do
        match (← tables.requireCase (CaseTables.fileAccess condition)).select condition with
        | .ok files => return files.map StoredFile.record
        | .error error => throw (.clause error)

/-- The data sources, in the order of their ids. -/
def sources : HandleM (List DataSource) :=
  query fun tables => do
    let caseTables ← tables.requireCase (.selectFrom "data_source_info" ["obj_id", "name"])
    return caseTables.listSources

/-- The names of the keyword lists that have a hit, each once and in order. -/
def keywordLists : HandleM (List String) :=
  query fun tables => do
    let caseTables ←
      tables.requireCase
        (.selectFrom "blackboard_attributes"
          ["value_text", "artifact_type_id", "attribute_type_id"])
    return caseTables.listNames

def addSource (id? : Option Number) (name? : Option String) : HandleM Unit := do
  let _ ← run (Tables.insertSource id? name?)

/-- Add a file. The result is its id. -/
def addFile (file : NewFile) : HandleM Int :=
  run (Tables.insertFile file)

/-- Add a hit of a keyword list in a file: an artifact and its attribute, or nothing. -/
def addKeywordHit (fileId : Option Number) (list : Option String) : HandleM Unit :=
  transaction do
    let artifactId ← run (Tables.insertArtifact fileId)
    let _ ← run (Tables.insertListName artifactId list)

end CaseStore
end EvidenceSearch
