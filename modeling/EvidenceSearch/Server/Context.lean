import EvidenceSearch.Storage.Workspace
import EvidenceSearch.Tools.Response

/-!
# The server context

A server searches one case, which it only reads. It starts if its settings, its file types and the
case can be used; a central repository that can not be used costs only the searches by frequency.
-/

namespace EvidenceSearch

/-- What a server works with. -/
structure ServerContext where
  settings : Settings
  stores : StoreHandles
  fileTypes : List FileType
  databases : List HandleId

namespace ServerContext

open Workspace

/-- Whether searches by frequency are possible. -/
def hasRepository (context : ServerContext) : Bool :=
  context.stores.repositoryHandle.isSome

def requireSettings (environment : Environment) : WorkspaceM Settings :=
  match environment.settings with
  | .ok settings => return settings
  | .error problems => throw (.thresholds problems)

def loadFileTypes (source : FileTypeSource) : WorkspaceM (List FileType) := do
  match FileType.load (← get).files source with
  | .ok types => do
      note .info ("Loaded " ++ toString types.length ++ " file type categories")
      return types
  | .error error => throw (.fileTypes error)

/-- Open a central repository. A repository that lacks its tables is closed again. -/
def openRepository (path : String) : WorkspaceM HandleId := do
  let id ← openHandle (some path) true
  try
    checkRepository id
    return id
  catch error =>
    withFiles Handle.close id
    throw error

/-- Open the central repository that the settings name, if it can be used. -/
def findRepository (path? : Option String) : WorkspaceM (Option HandleId) := do
  match path? with
  | none => do
      note .info "CENTRAL_REPO_DB_PATH not set; frequency filter disabled"
      return none
  | some path =>
      try
        return some (← openRepository path)
      catch error =>
        noteAll
          [⟨.error, "CentralRepository initialization failed (frequency filter disabled):",
            [.string error.message]⟩]
        return none

/-- Start from the environment. -/
def create (environment : Environment) : WorkspaceM ServerContext := do
  let settings ← requireSettings environment
  match settings.stores.casePath with
  | none => throw .noCasePath
  | some casePath => do
      let fileTypes ← loadFileTypes settings.stores.fileTypes
      let caseHandle ← openHandle (some casePath) true
      checkCase caseHandle
      let repositoryHandle ← findRepository settings.stores.repositoryPath
      return {
        settings, fileTypes
        stores := { caseHandle := some caseHandle, repositoryHandle }
        databases := caseHandle :: repositoryHandle.toList }

/-- Close the databases in the order in which they were opened. -/
def closeAll : List HandleId → WorkspaceM Unit
  | [] => return ()
  | id :: ids => do
      try
        withFiles Handle.close id
      catch error =>
        noteAll [⟨.error, "Failed to close database:", [.string error.message]⟩]
      closeAll ids

/-- Close all databases. -/
def close (context : ServerContext) : WorkspaceM Unit :=
  closeAll context.databases

/-- What the open case can be searched for. -/
def catalog (context : ServerContext) : WorkspaceM Catalog :=
  Workspace.catalog context.stores context.fileTypes

/-- Search the open case. -/
def search (context : ServerContext) (catalog : Catalog) (arguments : SearchArguments) :
    WorkspaceM Json := do
  let stores := (← get).searchStores context.stores context.hasRepository
  let outcome ← Workspace.search (searchFiles stores context.settings.search catalog arguments)
  return searchAnswer outcome

end ServerContext
end EvidenceSearch
