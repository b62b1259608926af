import EvidenceSearch.Search.Run
import EvidenceSearch.Settings
import EvidenceSearch.Storage.CaseStore
import EvidenceSearch.Storage.FileTypes
import EvidenceSearch.Storage.RepositoryStore
import EvidenceSearch.Tools.Criteria

/-!
# The workspace

Files, the database handles that were opened on them, the two stores that searches ask, and the
log. A store works on the handle that it was given last; the handles stay open until they are
closed.
-/

namespace EvidenceSearch

/-- Why an operation in the workspace fails. -/
inductive WorkspaceError where
  | storage (error : StorageError)
  | search (failure : Failure)
  | thresholds (problems : List ThresholdProblem)
  | noCasePath
  | fileTypes (error : FileTypeLoadError)
  | noSuchDatabase (name : String)
  deriving DecidableEq

def WorkspaceError.message : WorkspaceError → String
  | .storage error => error.message
  | .search failure => failure.message
  | .thresholds problems => thresholdMessage problems
  | .noCasePath => "CASE_DB_PATH is not set; point it at the case database to search"
  | .fileTypes error => error.message
  | .noSuchDatabase name => "no database " ++ name

/-- The number of a handle, in the order in which handles were opened. -/
abbrev HandleId := Nat

/-- The two stores of a search; a store that was given no database has no handle. -/
structure StoreHandles where
  caseHandle : Option HandleId := none
  repositoryHandle : Option HandleId := none
  deriving DecidableEq

/-- Files, handles, stores and log. -/
structure Workspace where
  files : FileSystem := {}
  handles : List Handle := []
  names : List (String × HandleId) := []
  stores : StoreHandles := {}
  log : List LogEntry := []

/-- An operation in the workspace that may fail. What it changed before it failed stays. -/
abbrev WorkspaceM := ExceptT WorkspaceError (StateM Workspace)

namespace Workspace

/-! ## Log -/

def noteAll (entries : List LogEntry) : WorkspaceM Unit :=
  modify fun workspace => { workspace with log := workspace.log ++ entries }

/-- Add an entry to the log. -/
def note (level : LogLevel) (message : String) : WorkspaceM Unit :=
  noteAll [⟨level, message, []⟩]

/-! ## Handles -/

/-- Add a handle. The result is its number. -/
def addHandle (handle : Handle) : WorkspaceM HandleId := do
  let workspace ← get
  set { workspace with handles := workspace.handles ++ [handle] }
  return workspace.handles.length

/-- The handle of a number; one that was never opened counts as closed. -/
def handle (workspace : Workspace) (id : HandleId) : Handle :=
  workspace.handles.getD id ⟨none, false, false, .closed⟩

/-- Carry out a step on a handle. -/
def onHandle {Value : Type} (id : HandleId) (step : HandleM Value) : WorkspaceM Value := do
  let workspace ← get
  let (outcome, handle) := step.run.run (workspace.handle id)
  set { workspace with handles := workspace.handles.set id handle }
  match outcome with
  | .ok value => return value
  | .error error => throw (.storage error)

def readHandle {Value : Type} (workspace : Workspace) (id : HandleId) (step : HandleM Value) :
    Except StorageError Value :=
  (step.run.run (workspace.handle id)).1

/-- Open a database in a file, or a new one in memory. The result is the number of the handle. -/
def openHandle (path? : Option String) (readOnly : Bool) : WorkspaceM HandleId := do
  match path? with
  | none => addHandle Handle.inMemory
  | some path =>
      match Handle.openFile (← get).files path readOnly with
      | .ok handle => addHandle handle
      | .error error => throw (.storage error)

/-- Write a handle to its file, or close it. -/
def withFiles
    (step : Handle → FileSystem → Except StorageError Handle × FileSystem)
    (id : HandleId) :
    WorkspaceM Unit := do
  let workspace ← get
  let (outcome, files) := step (workspace.handle id) workspace.files
  set { workspace with files }
  match outcome with
  | .ok handle =>
      modify fun workspace => { workspace with handles := workspace.handles.set id handle }
  | .error error => throw (.storage error)

/-- Change the files. -/
def onFiles {Value : Type} (step : FileM Value) : WorkspaceM Value := do
  let workspace ← get
  let (outcome, files) := step.run.run workspace.files
  set { workspace with files }
  match outcome with
  | .ok value => return value
  | .error error => throw (.storage (.file error))

/-! ## Named databases -/

/-- Open a database under a name; the name no longer means a handle that it meant before. The
result says whether the database may only be read. -/
def openDatabase (name : String) (path? : Option String) (readOnly : Bool) : WorkspaceM Bool := do
  let id ← openHandle path? readOnly
  modify fun workspace => { workspace with names := (name, id) :: workspace.names }
  return ((← get).handle id).readOnly

/-- The number of the handle that a name means. -/
def database (name : String) : WorkspaceM HandleId := do
  match (← get).names.lookup name with
  | some id => return id
  | none => throw (.noSuchDatabase name)

/-! ## The stores -/

/-- Create the tables of a case and use them. The store uses the database even if the tables can
not be created. -/
def initializeCase (id : HandleId) : WorkspaceM Unit := do
  modify fun workspace =>
    { workspace with stores := { workspace.stores with caseHandle := some id } }
  onHandle id CaseStore.createTables
  note .info "CaseDatabase initialized"

/-- Fail unless a database has the tables of a case. -/
def checkCase (id : HandleId) : WorkspaceM Unit := do
  onHandle id CaseStore.checkTables
  note .info "CaseDatabase attached"

/-- Use the tables of a case as they are. -/
def attachCase (id : HandleId) : WorkspaceM Unit := do
  checkCase id
  modify fun workspace =>
    { workspace with stores := { workspace.stores with caseHandle := some id } }

/-- Create the tables of a central repository and use them. The store uses the database even if
the tables can not be created. -/
def initializeRepository (id : HandleId) : WorkspaceM Unit := do
  modify fun workspace =>
    { workspace with stores := { workspace.stores with repositoryHandle := some id } }
  onHandle id RepositoryStore.createTables
  note .info "CentralRepository initialized"

/-- Fail unless a database has the tables of a central repository. -/
def checkRepository (id : HandleId) : WorkspaceM Unit := do
  onHandle id RepositoryStore.checkTables
  note .info "CentralRepository attached"

/-- Use the tables of a central repository as they are. -/
def attachRepository (id : HandleId) : WorkspaceM Unit := do
  checkRepository id
  modify fun workspace =>
    { workspace with stores := { workspace.stores with repositoryHandle := some id } }

def caseHandle (stores : StoreHandles) : Except StorageError HandleId :=
  match stores.caseHandle with
  | some id => .ok id
  | none => .error .noCaseDatabase

def repositoryHandle (stores : StoreHandles) : Except StorageError HandleId :=
  match stores.repositoryHandle with
  | some id => .ok id
  | none => .error .noRepositoryDatabase

/-- Give on what a store answers. -/
def ofStorage {Value : Type} : Except StorageError Value → WorkspaceM Value
  | .ok value => return value
  | .error error => throw (.storage error)

def onCase {Value : Type} (stores : StoreHandles) (step : HandleM Value) : WorkspaceM Value := do
  onHandle (← ofStorage (caseHandle stores)) step

/-- Carry out a step on the handle of the central repository. -/
def onRepository {Value : Type} (stores : StoreHandles) (step : HandleM Value) :
    WorkspaceM Value := do
  onHandle (← ofStorage (repositoryHandle stores)) step

/-- In how many pairs of a case and a data source a value of some type was seen. -/
def countOccurrences
    (workspace : Workspace)
    (stores : StoreHandles)
    (type : CorrelationType)
    (value : String) :
    Except StorageError Nat := do
  RepositoryStore.checkType type
  workspace.readHandle (← repositoryHandle stores) (RepositoryStore.count value)

/-! ## Searching -/

/-- The text of an error in place of the error. -/
def describeError {Value : Type} : Except StorageError Value → Except String Value
  | .ok value => .ok value
  | .error error => .error error.message

/-- What a search asks of the case store. -/
def askCase (workspace : Workspace) (stores : StoreHandles) (clause : String) :
    Except String (List FileRecord) :=
  describeError do
    workspace.readHandle (← caseHandle stores) (CaseStore.find clause)

/-- What a search asks of the central repository. -/
def askRepository (workspace : Workspace) (stores : StoreHandles) : Repository where
  typeById id :=
    describeError do
      workspace.readHandle (← repositoryHandle stores) (RepositoryStore.typeById id)
  count type value :=
    (describeError (workspace.countOccurrences stores type value)).map Number.ofNat

def searchStores (workspace : Workspace) (stores : StoreHandles) (withRepository : Bool) :
    SearchStores where
  caseStore := some (workspace.askCase stores)
  repository := if withRepository then some (workspace.askRepository stores) else none

/-- Carry out a search, and keep what it reports. -/
def search {Value : Type} (action : Traced Failure Value) : WorkspaceM (Except Failure Value) := do
  let (outcome, trace) := action.run.run {}
  noteAll trace.log
  return outcome

/-- What the case of the workspace can be searched for, with the given file types. -/
def catalog (stores : StoreHandles) (fileTypes : List FileType) : WorkspaceM Catalog := do
  let sources ← onCase stores CaseStore.sources
  let keywordLists ← onCase stores CaseStore.keywordLists
  return { sources, keywordLists, fileTypes }

end Workspace
end EvidenceSearch
