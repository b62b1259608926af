import EvidenceSearch.Proofs.Storage.Ledger
import EvidenceSearch.Proofs.Storage.Schemas

/-!
# Calls in a workspace

The writers of the two stores are called in a workspace whose stores were prepared on databases
that were new to them. After any calls the handle of the case holds what the ledger says about
files and hits, and the handle of the repository what it says about occurrences; both stores may
use the same handle.
-/

namespace EvidenceSearch

open Handle

/-! ## Steps on a handle of a workspace -/

namespace Workspace

/-- Put a handle in the place of another. -/
def setHandle (workspace : Workspace) (id : HandleId) (handle : Handle) : Workspace :=
  { workspace with handles := workspace.handles.set id handle }

/-- Add a handle behind the others. -/
def added (workspace : Workspace) (handle : Handle) : Workspace :=
  { workspace with handles := workspace.handles ++ [handle] }

variable {Value : Type} {workspace : Workspace} {id other : HandleId} {after : Handle}

/-- Give the store of the case a handle. -/
def withCase (workspace : Workspace) (id : HandleId) : Workspace :=
  { workspace with stores := { workspace.stores with caseHandle := some id } }

/-- Give the store of the repository a handle. -/
def withRepository (workspace : Workspace) (id : HandleId) : Workspace :=
  { workspace with stores := { workspace.stores with repositoryHandle := some id } }

/-- Add a message to the log. -/
def noted (workspace : Workspace) (message : String) : Workspace :=
  { workspace with log := workspace.log ++ [⟨.info, message, []⟩] }

@[simp]
theorem run_note (workspace : Workspace) (message : String) :
    (note .info message).run.run workspace = (.ok (), workspace.noted message) :=
  rfl

@[simp]
theorem run_addHandle (workspace : Workspace) (handle : Handle) :
    (addHandle handle).run.run workspace =
      (.ok workspace.handles.length, workspace.added handle) :=
  rfl

@[simp]
theorem handle_added_self (workspace : Workspace) (handle : Handle) :
    (workspace.added handle).handle workspace.handles.length = handle := by
  rw [added, Workspace.handle, List.getD_eq_getElem?_getD, List.getElem?_concat_length]
  rfl

theorem handle_added_other (different : other ≠ workspace.handles.length) (handle : Handle) :
    (workspace.added handle).handle other = workspace.handle other := by
  rw [added, Workspace.handle, Workspace.handle, List.getD_eq_getElem?_getD,
    List.getD_eq_getElem?_getD]
  by_cases before : other < workspace.handles.length
  · rw [List.getElem?_append_left before]
  · have beyond : (workspace.handles ++ [handle]).length ≤ other := by
      rw [List.length_append, List.length_singleton]
      exact Nat.lt_of_le_of_ne (Nat.le_of_not_lt before) different.symm
    rw [List.getElem?_eq_none beyond, List.getElem?_eq_none (Nat.le_of_not_lt before)]

theorem connection_of_le (unopened : workspace.handles.length ≤ id) :
    (workspace.handle id).connection = .closed := by
  rw [Workspace.handle, List.getD_eq_getElem?_getD, List.getElem?_eq_none unopened]
  rfl

theorem onHandle_of_ok
    {step : HandleM Value} {value : Value}
    (stepped : step.run.run (workspace.handle id) = (.ok value, after)) :
    (onHandle id step).run.run workspace = (.ok value, workspace.setHandle id after) := by
  simp [onHandle, stepped, setHandle, Except.map]

theorem onHandle_of_error
    {step : HandleM Value} {error : StorageError}
    (stepped : step.run.run (workspace.handle id) = (.error error, after)) :
    (onHandle id step).run.run workspace =
      (.error (.storage error), workspace.setHandle id after) := by
  simp [onHandle, stepped, setHandle]

theorem onHandle_after
    (workspace : Workspace) (id : HandleId) (step : HandleM Value) :
    ((onHandle id step).run.run workspace).2 =
      workspace.setHandle id (step.run.run (workspace.handle id)).2 := by
  cases stepped : step.run.run (workspace.handle id) with
  | mk outcome after =>
      cases outcome with
      | error error =>
          rw [onHandle_of_error stepped]
      | ok value =>
          rw [onHandle_of_ok stepped]

/-- A handle that works on tables was opened. -/
theorem lt_length_of_idleOn {tables : Tables} (idle : (workspace.handle id).IdleOn tables) :
    id < workspace.handles.length := by
  by_contra unopened
  obtain ⟨path, dirty, lastKey, same⟩ := idle
  rw [handle, List.getD_eq_getElem?_getD, List.getElem?_eq_none (Nat.le_of_not_lt unopened)] at same
  cases same

theorem handle_setHandle_of_lt
    (opened : id < workspace.handles.length) (after : Handle) :
    (workspace.setHandle id after).handle id = after := by
  rw [setHandle, handle, List.getD_eq_getElem?_getD, List.getElem?_set_self opened]
  rfl

theorem handle_setHandle_self
    {tables : Tables} (idle : (workspace.handle id).IdleOn tables) (after : Handle) :
    (workspace.setHandle id after).handle id = after :=
  handle_setHandle_of_lt (lt_length_of_idleOn idle) after

theorem handle_setHandle_other (different : id ≠ other) (after : Handle) :
    (workspace.setHandle id after).handle other = workspace.handle other := by
  rw [setHandle, handle, handle, List.getD_eq_getElem?_getD, List.getD_eq_getElem?_getD,
    List.getElem?_set_ne different]

/-- A step on one handle keeps what holds of the tables of another, and it keeps that of the same
handle if it keeps it in its own tables. -/
theorem exists_idleOn_setHandle
    (Holds : Tables → Prop) {tables tablesAfter sideTables : Tables}
    (idle : (workspace.handle id).IdleOn tables) (idleAfter : after.IdleOn tablesAfter)
    (keeps : Holds tables → Holds tablesAfter)
    (sideIdle : (workspace.handle other).IdleOn sideTables) (holds : Holds sideTables) :
    ∃ held, ((workspace.setHandle id after).handle other).IdleOn held ∧ Holds held := by
  by_cases same : id = other
  · subst same
    have sameTables := idle.tables_eq sideIdle
    subst sameTables
    refine ⟨tablesAfter, ?_, keeps holds⟩
    rw [handle_setHandle_self idle]
    exact idleAfter
  · refine ⟨sideTables, ?_, holds⟩
    rw [handle_setHandle_other same]
    exact sideIdle

/-- Putting a handle in its own place changes nothing. -/
@[simp]
theorem setHandle_handle (workspace : Workspace) (id : HandleId) :
    workspace.setHandle id (workspace.handle id) = workspace := by
  rw [setHandle, handle, List.getD_eq_getElem?_getD]
  by_cases opened : id < workspace.handles.length
  · rw [List.getElem?_eq_getElem opened, Option.getD_some, List.set_getElem_self]
  · rw [List.set_eq_of_length_le (Nat.le_of_not_lt opened)]

/-- A step that leaves its handle as it is leaves everything as it is. -/
theorem onHandle_of_read
    {step : HandleM Value} {outcome : Except StorageError Value}
    (stepped : step.run.run (workspace.handle id) = (outcome, workspace.handle id)) :
    (onHandle id step).run.run workspace = (outcome.mapError .storage, workspace) := by
  cases outcome with
  | error error =>
      rw [onHandle_of_error stepped, setHandle_handle]
      rfl
  | ok value =>
      rw [onHandle_of_ok stepped, setHandle_handle]
      rfl

theorem withFiles_of_ok
    {step : Handle → FileSystem → Except StorageError Handle × FileSystem} {files : FileSystem}
    (stepped : step (workspace.handle id) workspace.files = (.ok after, files)) :
    (withFiles step id).run.run workspace =
      (.ok (), { workspace.setHandle id after with files }) := by
  simp [withFiles, stepped, setHandle]

theorem withFiles_of_error
    {step : Handle → FileSystem → Except StorageError Handle × FileSystem} {files : FileSystem}
    {error : StorageError}
    (stepped : step (workspace.handle id) workspace.files = (.error error, files)) :
    (withFiles step id).run.run workspace =
      (.error (.storage error), { workspace with files }) := by
  simp [withFiles, stepped]

theorem withFiles_eq_ok
    {step : Handle → FileSystem → Except StorageError Handle × FileSystem} {ended : Workspace}
    (ran : (withFiles step id).run.run workspace = (.ok (), ended)) :
    ∃ after files,
      step (workspace.handle id) workspace.files = (.ok after, files) ∧
        ended = { workspace.setHandle id after with files } := by
  cases stepped : step (workspace.handle id) workspace.files with
  | mk outcome files =>
      cases outcome with
      | error error =>
          rw [withFiles_of_error stepped] at ran
          cases ran
      | ok after =>
          rw [withFiles_of_ok stepped] at ran
          cases ran
          exact ⟨after, files, rfl, rfl⟩

@[simp]
theorem run_ofStorage (outcome : Except StorageError Value) (workspace : Workspace) :
    (ofStorage outcome).run.run workspace = (outcome.mapError .storage, workspace) := by
  cases outcome <;> rfl

theorem onRepository_of_some
    {stores : StoreHandles} (isStore : stores.repositoryHandle = some id) (step : HandleM Value) :
    onRepository stores step = onHandle id step := by
  rw [onRepository, repositoryHandle, isStore]
  rfl

/-- Occurrences are counted on the handle of the repository. -/
theorem countOccurrences_of_supported
    {stores : StoreHandles} {type : CorrelationType} {text : String}
    (isSupported : RepositoryStore.checkType type = .ok ())
    (isStore : stores.repositoryHandle = some id) :
    workspace.countOccurrences stores type text =
      workspace.readHandle id (RepositoryStore.count text) := by
  rw [countOccurrences, isSupported, repositoryHandle, isStore]
  generalize RepositoryStore.count text = step
  rfl

/-! ## Opening and attaching -/

theorem openHandle_of_ok
    {path : String} {readOnly : Bool} {handle : Handle}
    (isOpened : openFile workspace.files path readOnly = .ok handle) :
    (openHandle (some path) readOnly).run.run workspace =
      (.ok workspace.handles.length, workspace.added handle) := by
  rw [openHandle, run_get_bind, isOpened]
  exact run_addHandle workspace handle

theorem openHandle_of_error
    {path : String} {readOnly : Bool} {error : StorageError}
    (refused : openFile workspace.files path readOnly = .error error) :
    (openHandle (some path) readOnly).run.run workspace = (.error (.storage error), workspace) := by
  simp [openHandle, refused]

theorem checkCase_of_hasTables (has : (workspace.handle id).HasTables CaseTables.names) :
    (checkCase id).run.run workspace = (.ok (), workspace.noted "CaseDatabase attached") := by
  have checked := onHandle_of_read (checkMissing_of_hasTables .notCase has)
  exact run_bind_of_ok checked

theorem checkCase_of_not_hasTables
    (hasNot : ¬ (workspace.handle id).HasTables CaseTables.names) :
    ∃ error, (checkCase id).run.run workspace = (.error (.storage error), workspace) := by
  obtain ⟨error, failed⟩ := checkMissing_of_not_hasTables .notCase hasNot
  exact ⟨error, run_bind_of_error (onHandle_of_read failed)⟩

theorem checkRepository_of_hasTables
    (has : (workspace.handle id).HasTables RepositoryTables.names) :
    (checkRepository id).run.run workspace =
      (.ok (), workspace.noted "CentralRepository attached") := by
  have checked := onHandle_of_read (checkMissing_of_hasTables .notRepository has)
  exact run_bind_of_ok checked

theorem checkRepository_of_not_hasTables
    (hasNot : ¬ (workspace.handle id).HasTables RepositoryTables.names) :
    ∃ error, (checkRepository id).run.run workspace = (.error (.storage error), workspace) := by
  obtain ⟨error, failed⟩ := checkMissing_of_not_hasTables .notRepository hasNot
  exact ⟨error, run_bind_of_error (onHandle_of_read failed)⟩

end Workspace

/-! ## Recordings -/

/-- A call of a writer of the case or of the central repository. -/
inductive WriterCall where
  | source (id? : Option Number) (name? : Option String)
  | file (file : NewFile)
  | hit (hit : NewHit)
  | occurrence (occurrence : NewOccurrence)
  deriving DecidableEq

/-- A workspace, with the ledger of the calls that succeeded in it. -/
structure Recording where
  workspace : Workspace
  ledger : Ledger

namespace Recording

/-- Carry out a step in the workspace and enter what it added. -/
def enter
    {Value : Type} (recording : Recording) (step : WorkspaceM Value)
    (add : Ledger → Value → Ledger) :
    Recording :=
  let (outcome, workspace) := step.run.run recording.workspace
  ⟨workspace, recording.ledger.enter add outcome⟩

/-- Make a call. -/
def after (stores : StoreHandles) (recording : Recording) : WriterCall → Recording
  | .source id? name? =>
      recording.enter (Workspace.onCase stores (CaseStore.addSource id? name?))
        fun ledger _ => ledger
  | .file file =>
      recording.enter (Workspace.onCase stores (CaseStore.addFile file)) (Ledger.addFile file)
  | .hit hit =>
      recording.enter (Workspace.onCase stores (CaseStore.addKeywordHit hit.fileId hit.list))
        (Ledger.addHit hit)
  | .occurrence occurrence =>
      recording.enter
        (Workspace.onRepository stores
          (RepositoryStore.addOccurrence occurrence.caseId occurrence.sourceId occurrence.hash
            occurrence.path))
        (Ledger.addOccurrence occurrence)

/-- Make calls one after the other. -/
def run (stores : StoreHandles) (recording : Recording) (calls : List WriterCall) : Recording :=
  calls.foldl (after stores) recording

/-- Prepare the stores of a workspace on two of its handles; nothing is added yet. -/
def start (workspace : Workspace) (caseId repositoryId : HandleId) : Recording :=
  let prepare : WorkspaceM Unit := do
    Workspace.initializeCase caseId
    Workspace.initializeRepository repositoryId
  ⟨(prepare.run.run workspace).2, {}⟩

/-- The handles of the two stores hold what the ledger says. -/
structure Faithful (caseId repositoryId : HandleId) (recording : Recording) : Prop where
  ofCase :
    ∃ tables caseTables,
      (recording.workspace.handle caseId).IdleOn tables ∧ tables.caseTables = some caseTables ∧
        recording.ledger.InCase caseTables
  ofRepository :
    ∃ tables repositoryTables,
      (recording.workspace.handle repositoryId).IdleOn tables ∧
        tables.repositoryTables = some repositoryTables ∧
        recording.ledger.InRepository repositoryTables

variable {Value : Type} {caseId repositoryId : HandleId} {recording : Recording}

theorem enter_onHandle
    {id : HandleId} {step : HandleM Value} {add : Ledger → Value → Ledger}
    {outcome : Except StorageError Value} {after : Handle}
    (stepped : step.run.run (recording.workspace.handle id) = (outcome, after)) :
    recording.enter (Workspace.onHandle id step) add =
      ⟨recording.workspace.setHandle id after, recording.ledger.enter add outcome⟩ := by
  cases outcome with
  | error error =>
      rw [enter, Workspace.onHandle_of_error stepped]
      rfl
  | ok value =>
      rw [enter, Workspace.onHandle_of_ok stepped]
      rfl

/-- A step on the handle of the case keeps a recording faithful, even if the repository uses the
same handle. -/
theorem Faithful.enter_onCase
    {step : HandleM Value} {add : Ledger → Value → Ledger}
    (faithful : recording.Faithful caseId repositoryId) (keeps : KeepsCase step add)
    (sameOccurrences : ∀ ledger value, (add ledger value).occurrences = ledger.occurrences) :
    (recording.enter (Workspace.onHandle caseId step) add).Faithful caseId repositoryId := by
  obtain ⟨tables, caseTables, idle, isCase, inCase⟩ := faithful.ofCase
  obtain ⟨sideTables, repositoryTables, sideIdle, isRepository, inRepository⟩ :=
    faithful.ofRepository
  obtain ⟨outcome, after, caseAfter, stepped, idleAfter, inCaseAfter⟩ := keeps idle isCase inCase
  have inRepositoryAfter : (recording.ledger.enter add outcome).InRepository repositoryTables :=
    inRepository.of_same (Ledger.field_enter sameOccurrences recording.ledger outcome)
  obtain ⟨held, heldIdle, stillRepository⟩ :=
    Workspace.exists_idleOn_setHandle
      (fun tables => tables.repositoryTables = some repositoryTables) idle idleAfter id sideIdle
      isRepository
  rw [enter_onHandle stepped]
  refine
    ⟨⟨{ tables with caseTables := some caseAfter }, caseAfter, ?_, rfl, inCaseAfter⟩,
      held, repositoryTables, heldIdle, stillRepository, inRepositoryAfter⟩
  rw [Workspace.handle_setHandle_self idle]
  exact idleAfter

/-- A step on the handle of the repository keeps a recording faithful, even if the case uses the
same handle. -/
theorem Faithful.enter_onRepository
    {step : HandleM Value} {add : Ledger → Value → Ledger}
    (faithful : recording.Faithful caseId repositoryId) (keeps : KeepsRepository step add)
    (sameFiles : ∀ ledger value, (add ledger value).files = ledger.files)
    (sameHits : ∀ ledger value, (add ledger value).hits = ledger.hits) :
    (recording.enter (Workspace.onHandle repositoryId step) add).Faithful caseId repositoryId := by
  obtain ⟨tables, caseTables, idle, isCase, inCase⟩ := faithful.ofCase
  obtain ⟨sideTables, repositoryTables, sideIdle, isRepository, inRepository⟩ :=
    faithful.ofRepository
  obtain ⟨outcome, after, repositoryAfter, stepped, idleAfter, inRepositoryAfter⟩ :=
    keeps sideIdle isRepository inRepository
  have inCaseAfter : (recording.ledger.enter add outcome).InCase caseTables :=
    inCase.of_same (Ledger.field_enter sameFiles recording.ledger outcome)
      (Ledger.field_enter sameHits recording.ledger outcome)
  obtain ⟨held, heldIdle, stillCase⟩ :=
    Workspace.exists_idleOn_setHandle (fun tables => tables.caseTables = some caseTables) sideIdle
      idleAfter id idle isCase
  rw [enter_onHandle stepped]
  refine
    ⟨⟨held, caseTables, heldIdle, stillCase, inCaseAfter⟩,
      { sideTables with repositoryTables := some repositoryAfter }, repositoryAfter, ?_, rfl,
      inRepositoryAfter⟩
  rw [Workspace.handle_setHandle_self sideIdle]
  exact idleAfter

/-- The stores on two handles. -/
abbrev storesOn (caseId repositoryId : HandleId) : StoreHandles :=
  ⟨some caseId, some repositoryId⟩

/-- The store of the case works on its handle, with a repository or without one. -/
@[simp]
theorem onCase_eq_onHandle (repository? : Option HandleId) (step : HandleM Value) :
    Workspace.onCase ⟨some caseId, repository?⟩ step = Workspace.onHandle caseId step :=
  rfl

@[simp]
theorem onRepository_storesOn (step : HandleM Value) :
    Workspace.onRepository (storesOn caseId repositoryId) step =
      Workspace.onHandle repositoryId step :=
  rfl

theorem Faithful.after
    (faithful : recording.Faithful caseId repositoryId) (call : WriterCall) :
    (recording.after (storesOn caseId repositoryId) call).Faithful caseId repositoryId := by
  cases call with
  | source id? name? =>
      rw [Recording.after, onCase_eq_onHandle]
      exact faithful.enter_onCase (keepsCase_addSource id? name?) fun _ _ => rfl
  | file file =>
      rw [Recording.after, onCase_eq_onHandle]
      exact faithful.enter_onCase (keepsCase_addFile file) fun _ _ => rfl
  | hit hit =>
      rw [Recording.after, onCase_eq_onHandle]
      exact faithful.enter_onCase (keepsCase_addKeywordHit hit) fun _ _ => rfl
  | occurrence occurrence =>
      rw [Recording.after, onRepository_storesOn]
      exact
        faithful.enter_onRepository (keepsRepository_addOccurrence occurrence) (fun _ _ => rfl)
          fun _ _ => rfl

/-- Any calls keep a recording faithful. -/
theorem Faithful.run
    (faithful : recording.Faithful caseId repositoryId) (calls : List WriterCall) :
    (recording.run (storesOn caseId repositoryId) calls).Faithful caseId repositoryId := by
  induction calls generalizing recording with
  | nil =>
      exact faithful
  | cons call calls inductionHypothesis =>
      exact inductionHypothesis (faithful.after call)

/-- The store takes a handle, the script creates its tables there, and this is noted. -/
theorem initialize_ran
    {workspace : Workspace} {id : HandleId} {script : List Statement} {handle : Handle}
    (mark : Workspace → Workspace) (message : String)
    (scriptRan : (runScript script).run.run ((mark workspace).handle id) = (.ok (), handle)) :
    (do
          modify mark
          Workspace.onHandle id (runScript script)
          Workspace.note .info message : WorkspaceM Unit).run.run workspace =
      (.ok (), ((mark workspace).setHandle id handle).noted message) := by
  rw [run_bind_of_ok (run_modify mark workspace),
    run_bind_of_ok (Workspace.onHandle_of_ok scriptRan), Workspace.run_note]

/-- If the script breaks off, the store has its handle nevertheless. -/
theorem initialize_failed
    {workspace : Workspace} {id : HandleId} {script : List Statement} {error : StorageError}
    {handle : Handle} (mark : Workspace → Workspace) (message : String)
    (failed :
      (runScript script).run.run ((mark workspace).handle id) = (.error error, handle)) :
    (do
          modify mark
          Workspace.onHandle id (runScript script)
          Workspace.note .info message : WorkspaceM Unit).run.run workspace =
      (.error (.storage error), (mark workspace).setHandle id handle) := by
  rw [run_bind_of_ok (run_modify mark workspace),
    run_bind_of_error (Workspace.onHandle_of_error failed)]

/-- If the script is refused, nothing happens to the handle. -/
theorem initialize_refused
    {workspace : Workspace} {id : HandleId} {script : List Statement} {error : StorageError}
    (mark : Workspace → Workspace) (message : String)
    (refused :
      (runScript script).run.run ((mark workspace).handle id) =
        (.error error, (mark workspace).handle id)) :
    (do
          modify mark
          Workspace.onHandle id (runScript script)
          Workspace.note .info message : WorkspaceM Unit).run.run workspace =
      (.error (.storage error), mark workspace) := by
  rw [initialize_failed mark message refused, Workspace.setHandle_handle]

/-- The tables of a new store are created on its handle. What holds of the tables of any handle
still holds, if it holds with the new tables too. -/
theorem exists_initialize
    {workspace : Workspace} {id : HandleId} {script : List Statement}
    {tables tablesAfter : Tables} (mark : Workspace → Workspace) (message : String)
    (sameHandles : (mark workspace).handles = workspace.handles)
    (idle : (workspace.handle id).IdleOn tables)
    (executes : Executes script tables tablesAfter) :
    ∃ after,
      (do
            modify mark
            Workspace.onHandle id (runScript script)
            Workspace.note .info message : WorkspaceM Unit).run.run workspace =
          (.ok (), after) ∧
        (after.handle id).IdleOn tablesAfter ∧
        ∀ (Holds : Tables → Prop) {other : HandleId} {sideTables : Tables},
          (Holds tables → Holds tablesAfter) → (workspace.handle other).IdleOn sideTables →
            Holds sideTables → ∃ held, (after.handle other).IdleOn held ∧ Holds held := by
  have sameHandle (other : HandleId) :
      (mark workspace).handle other = workspace.handle other := by
    rw [Workspace.handle, Workspace.handle, sameHandles]
  have idleMarked : ((mark workspace).handle id).IdleOn tables := by
    rw [sameHandle]
    exact idle
  obtain ⟨handle, scriptRan, idleAfter⟩ := idleMarked.runScript_of_executes executes
  refine
    ⟨((mark workspace).setHandle id handle).noted message, initialize_ran mark message scriptRan,
      ?_, ?_⟩
  · rw [← Workspace.handle_setHandle_self idleMarked handle] at idleAfter
    exact idleAfter
  · intro Holds other sideTables keeps sideIdle holds
    rw [← sameHandle other] at sideIdle
    exact Workspace.exists_idleOn_setHandle Holds idleMarked idleAfter keeps sideIdle holds

/-- Once both stores are prepared on databases that were new to them, nothing is added yet. -/
theorem faithful_start
    {workspace : Workspace} {caseSide repositorySide : Tables}
    (caseIdle : (workspace.handle caseId).IdleOn caseSide) (noCase : caseSide.caseTables = none)
    (repositoryIdle : (workspace.handle repositoryId).IdleOn repositorySide)
    (noRepository : repositorySide.repositoryTables = none) :
    (start workspace caseId repositoryId).Faithful caseId repositoryId := by
  obtain ⟨between, caseRan, caseIdleBetween, keepsNew⟩ :=
    exists_initialize (Workspace.withCase · caseId) "CaseDatabase initialized" rfl caseIdle
      (Tables.createCase_of_none noCase)
  obtain ⟨tables, idleBetween, isNew⟩ :=
    keepsNew (fun tables => tables.repositoryTables = none) id repositoryIdle noRepository
  obtain ⟨after, repositoryRan, repositoryIdleAfter, keepsCase⟩ :=
    exists_initialize (Workspace.withRepository · repositoryId) "CentralRepository initialized" rfl
      idleBetween (Tables.createRepository_of_none isNew)
  obtain ⟨held, caseIdleAfter, isCase⟩ :=
    keepsCase (fun tables => tables.caseTables = some CaseTables.empty) id caseIdleBetween rfl
  have started : start workspace caseId repositoryId = ⟨after, {}⟩ := by
    have prepared :
        (do
            Workspace.initializeCase caseId
            Workspace.initializeRepository repositoryId : WorkspaceM Unit).run.run workspace =
          (.ok (), after) := by
      rw [← repositoryRan]
      exact run_bind_of_ok caseRan
    rw [start, prepared]
  rw [started]
  exact
    ⟨⟨held, CaseTables.empty, caseIdleAfter, isCase, Ledger.inCase_empty⟩,
      _, RepositoryTables.empty, repositoryIdleAfter, rfl, Ledger.inRepository_empty⟩

/-! ## A case without a repository -/

/-- The store of a case on a handle; no repository is given. -/
abbrev caseOn (caseId : HandleId) : StoreHandles :=
  ⟨some caseId, none⟩

/-- The handle of the case holds what the ledger says. -/
def HoldsCase (caseId : HandleId) (recording : Recording) : Prop :=
  ∃ tables caseTables,
    (recording.workspace.handle caseId).IdleOn tables ∧ tables.caseTables = some caseTables ∧
      recording.ledger.InCase caseTables

/-- A step on the handle of the case keeps it in agreement with the ledger. -/
theorem HoldsCase.enter
    {step : HandleM Value} {add : Ledger → Value → Ledger}
    (holds : recording.HoldsCase caseId) (keeps : KeepsCase step add) :
    (recording.enter (Workspace.onHandle caseId step) add).HoldsCase caseId := by
  obtain ⟨tables, caseTables, idle, isCase, inCase⟩ := holds
  obtain ⟨outcome, after, caseAfter, stepped, idleAfter, inCaseAfter⟩ := keeps idle isCase inCase
  rw [enter_onHandle stepped]
  refine ⟨{ tables with caseTables := some caseAfter }, caseAfter, ?_, rfl, inCaseAfter⟩
  rw [Workspace.handle_setHandle_self idle]
  exact idleAfter

theorem HoldsCase.after (holds : recording.HoldsCase caseId) (call : WriterCall) :
    (recording.after (caseOn caseId) call).HoldsCase caseId := by
  cases call with
  | source id? name? =>
      rw [Recording.after, onCase_eq_onHandle]
      exact holds.enter (keepsCase_addSource id? name?)
  | file file =>
      rw [Recording.after, onCase_eq_onHandle]
      exact holds.enter (keepsCase_addFile file)
  | hit hit =>
      rw [Recording.after, onCase_eq_onHandle]
      exact holds.enter (keepsCase_addKeywordHit hit)
  | occurrence occurrence =>
      -- without a repository the call is refused before it reaches a handle
      exact holds

/-- Any calls keep the handle of the case in agreement with the ledger. -/
theorem HoldsCase.run (holds : recording.HoldsCase caseId) (calls : List WriterCall) :
    (recording.run (caseOn caseId) calls).HoldsCase caseId := by
  induction calls generalizing recording with
  | nil =>
      exact holds
  | cons call calls inductionHypothesis =>
      exact inductionHypothesis (holds.after call)

/-- What is recorded of calls on a case that was prepared for them. -/
def ofCaseCalls (workspace : Workspace) (caseId : HandleId) (calls : List WriterCall) :
    Recording :=
  run (caseOn caseId) ⟨((Workspace.initializeCase caseId).run.run workspace).2, {}⟩ calls

/-- A case that was prepared on a database that was new to it holds what the calls added. -/
theorem holdsCase_ofCaseCalls
    {workspace : Workspace} {side : Tables} (idle : (workspace.handle caseId).IdleOn side)
    (noCase : side.caseTables = none) (calls : List WriterCall) :
    (ofCaseCalls workspace caseId calls).HoldsCase caseId := by
  obtain ⟨after, prepared, idleAfter, _⟩ :=
    exists_initialize (Workspace.withCase · caseId) "CaseDatabase initialized" rfl idle
      (Tables.createCase_of_none noCase)
  have started : (Workspace.initializeCase caseId).run.run workspace = (.ok (), after) := prepared
  have holds : HoldsCase caseId ⟨((Workspace.initializeCase caseId).run.run workspace).2, {}⟩ := by
    rw [started]
    exact ⟨_, CaseTables.empty, idleAfter, rfl, Ledger.inCase_empty⟩
  exact holds.run calls

end Recording
end EvidenceSearch
