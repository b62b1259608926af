import EvidenceSearch.Storage.Handle

/-!
# The central repository

What the occurrences of hashes are asked for, and how they are added, on a handle of the database
of the repository.
-/

namespace EvidenceSearch

namespace RepositoryStore

open Handle

/-- Create the tables of a repository that are not there. -/
def createTables : HandleM Unit :=
  runScript Tables.createRepository

/-- Fail unless the tables of a repository are there. -/
def checkTables : HandleM Unit := do
  let missing ← missingTables RepositoryTables.names
  if !missing.isEmpty then throw (.notRepository missing)

def typeById (id : Number) : HandleM CorrelationType :=
  query fun tables => do
    let repositoryTables ←
      tables.requireRepository
        (.selectFrom "correlation_types" ["id", "display_name", "db_table_name"])
    match repositoryTables.type? id with
    | some type => return type
    | none => throw (.noCorrelationType id)

/-- Fail unless the values of a type are kept. -/
def checkType (type : CorrelationType) : Except StorageError Unit :=
  if type.id.equals CorrelationType.files.id then .ok ()
  else .error (.unsupportedType type.displayName)

/-- In how many pairs of a case and a data source a hash was seen. -/
def count (hash : String) : HandleM Nat := do
  match normalizeHash hash with
  | .error error => throw error
  | .ok hash =>
      query fun tables => do
        let repositoryTables ←
          tables.requireRepository
            (.selectFrom "file_instances" ["case_id", "data_source_id", "value"])
        return (repositoryTables.places hash).length

def addOccurrence
    (caseId sourceId : Option Number)
    (hash : String)
    (path : Option String) :
    HandleM Unit := do
  match normalizeHash hash with
  | .error error => throw error
  | .ok hash =>
      let _ ← run (Tables.insertOccurrence caseId sourceId hash path)

end RepositoryStore
end EvidenceSearch
