import EvidenceSearch.Proofs.Storage.Hashes
import EvidenceSearch.Proofs.Storage.Looking
import EvidenceSearch.Proofs.Storage.Reopening
import EvidenceSearch.Tools.Response

/-!
# Handles that may only read

A handle that may only read refuses every statement, script and transaction before it looks at it,
and it is never written to its file. What is read depends on the handles of the workspace alone.
So whatever is tried on such a handle, through a store or directly, changes neither handles nor
files, except that closing the handle takes its tables away from it.
-/

namespace EvidenceSearch

open Handle

variable {Value : Type}

/-! ## Refusals -/

namespace Handle

section ReadOnly

variable {handle : Handle} (guarded : handle.readOnly = true)
include guarded

theorem assertWritable_of_readOnly :
    assertWritable.run.run handle = (.error .readOnly, handle) := by
  simp [assertWritable, guarded]

theorem run_of_readOnly (statement : Statement) :
    (run statement).run.run handle = (.error .readOnly, handle) :=
  run_bind_of_error (assertWritable_of_readOnly guarded)

theorem runScript_of_readOnly (script : List Statement) :
    (runScript script).run.run handle = (.error .readOnly, handle) :=
  run_bind_of_error (assertWritable_of_readOnly guarded)

theorem transaction_of_readOnly (body : HandleM Value) :
    (transaction body).run.run handle = (.error .readOnly, handle) :=
  run_bind_of_error (assertWritable_of_readOnly guarded)

theorem persist_of_readOnly (files : FileSystem) :
    handle.persist files = (.ok handle, files) := by
  unfold persist
  cases handle.path with
  | none =>
      rfl
  | some path =>
      rw [guarded]
      rfl

theorem close_of_readOnly (files : FileSystem) :
    handle.close files = (.ok { handle with connection := .closed }, files) := by
  rw [close, persist_of_readOnly guarded]
  rfl

end ReadOnly

end Handle

namespace WriterCall

/-- What the call of a writer does on a handle. -/
def step : WriterCall → HandleM Unit
  | .source id? name? => CaseStore.addSource id? name?
  | .file added => do let _ ← CaseStore.addFile added
  | .hit added => CaseStore.addKeywordHit added.fileId added.list
  | .occurrence added =>
      RepositoryStore.addOccurrence added.caseId added.sourceId added.hash added.path

/-- How a call is refused on a handle that may only read: a malformed hash is seen first. -/
def refusal : WriterCall → StorageError
  | .source _ _ => .readOnly
  | .file _ => .readOnly
  | .hit _ => .readOnly
  | .occurrence added =>
      if (normalizeHash added.hash).isOk then .readOnly else .malformedHash added.hash

/-- What the call does on the handle of its store. -/
def onStores (stores : StoreHandles) : WriterCall → WorkspaceM Unit
  | .occurrence added => Workspace.onRepository stores (WriterCall.occurrence added).step
  | call => Workspace.onCase stores call.step

theorem onStores_storesOn (id : HandleId) (call : WriterCall) :
    call.onStores (Recording.storesOn id id) = Workspace.onHandle id call.step := by
  cases call with
  | source id? name? =>
      exact Recording.onCase_eq_onHandle (some id) _
  | file added =>
      exact Recording.onCase_eq_onHandle (some id) _
  | hit added =>
      exact Recording.onCase_eq_onHandle (some id) _
  | occurrence added =>
      exact Recording.onRepository_storesOn _

theorem step_of_readOnly
    {handle : Handle} (guarded : handle.readOnly = true) (call : WriterCall) :
    call.step.run.run handle = (.error call.refusal, handle) := by
  cases call with
  | source id? name? =>
      exact run_bind_of_error (run_of_readOnly guarded _)
  | file added =>
      exact run_bind_of_error (run_of_readOnly guarded _)
  | hit added =>
      exact transaction_of_readOnly guarded _
  | occurrence added =>
      -- the hash is looked at before the handle is
      rw [step, refusal]
      cases normal : normalizeHash added.hash with
      | error error =>
          rw [addOccurrence_of_malformed normal, eq_malformedHash normal]
          rfl
      | ok hash =>
          rw [addOccurrence_of_normal normal]
          exact run_bind_of_error (run_of_readOnly guarded _)

end WriterCall

/-! ## Attempts and inquiries -/

/-- An attempt to change a database: with a script, a statement, a transaction, by preparing a
store on it, or by the writer of a store. -/
inductive Attempt where
  | script (statements : List Statement)
  | statement (statement : Statement)
  | transaction (body : HandleM Unit)
  | prepareCase
  | prepareRepository
  | call (call : WriterCall)

namespace Attempt

/-- What is attempted on the database of a handle, and on stores that use it. -/
def step (id : HandleId) : Attempt → WorkspaceM Unit
  | .script statements => Workspace.onHandle id (runScript statements)
  | .statement change => Workspace.onHandle id (do let _ ← Handle.run change)
  | .transaction body => Workspace.onHandle id (Handle.transaction body)
  | .prepareCase => Workspace.initializeCase id
  | .prepareRepository => Workspace.initializeRepository id
  | .call writer => writer.onStores (Recording.storesOn id id)

def refusal : Attempt → StorageError
  | .script _ => .readOnly
  | .statement _ => .readOnly
  | .transaction _ => .readOnly
  | .prepareCase => .readOnly
  | .prepareRepository => .readOnly
  | .call writer => writer.refusal

/-- Every attempt on a handle that may only read is refused. -/
theorem exists_refused
    {workspace : Workspace} {id : HandleId} (guarded : (workspace.handle id).readOnly = true)
    (attempt : Attempt) :
    ∃ after,
      (attempt.step id).run.run workspace = (.error (.storage attempt.refusal), after) ∧
        Workspace.SameData after workspace := by
  have refused {between : Workspace} {step : HandleM Unit} {error : StorageError}
      (stepped : step.run.run (between.handle id) = (.error error, between.handle id)) :
      (Workspace.onHandle id step).run.run between = (.error (.storage error), between) :=
    Workspace.onHandle_of_read stepped
  cases attempt with
  | script statements =>
      have failed := refused (runScript_of_readOnly guarded statements)
      exact ⟨workspace, failed, Workspace.SameData.refl _⟩
  | statement change =>
      have stepped :
          (do let _ ← Handle.run change : HandleM Unit).run.run (workspace.handle id) =
            (.error .readOnly, workspace.handle id) :=
        run_bind_of_error (run_of_readOnly guarded change)
      have failed := refused stepped
      exact ⟨workspace, failed, Workspace.SameData.refl _⟩
  | transaction body =>
      have failed := refused (transaction_of_readOnly guarded body)
      exact ⟨workspace, failed, Workspace.SameData.refl _⟩
  | prepareCase =>
      -- the store takes the handle before the handle refuses the script
      have failed :
          (Workspace.initializeCase id).run.run workspace = _ :=
        Recording.initialize_refused (Workspace.withCase · id) "CaseDatabase initialized"
          (runScript_of_readOnly guarded Tables.createCase)
      exact ⟨workspace.withCase id, failed, rfl, rfl⟩
  | prepareRepository =>
      have failed :
          (Workspace.initializeRepository id).run.run workspace = _ :=
        Recording.initialize_refused (Workspace.withRepository · id) "CentralRepository initialized"
          (runScript_of_readOnly guarded Tables.createRepository)
      exact ⟨workspace.withRepository id, failed, rfl, rfl⟩
  | call writer =>
      refine ⟨workspace, ?_, Workspace.SameData.refl _⟩
      rw [step, writer.onStores_storesOn]
      exact refused (writer.step_of_readOnly guarded)

end Attempt

/-- Something that is asked of the database of a handle, of stores that use it, or of a search on
any stores. -/
inductive Inquiry where
  | missingTables (wanted : List String)
  | rows
  | row (key : Number)
  | attachCase
  | attachRepository
  | files (clause : String)
  | sources
  | keywordLists
  | typeById (typeId : Number)
  | count (type : CorrelationType) (text : String)
  | catalog (stores : StoreHandles) (fileTypes : List FileType)
  | run (stores : StoreHandles) (withRepository : Bool) (options : SearchOptions)
      (filters : List Filter)
  | search (stores : StoreHandles) (withRepository : Bool) (options : SearchOptions)
      (catalog : Catalog) (arguments : SearchArguments)

namespace Inquiry

def Answer : Inquiry → Type
  | .missingTables _ => List String
  | .rows => KeyValues
  | .row _ => Option KeyValue
  | .attachCase => Unit
  | .attachRepository => Unit
  | .files _ => List FileRecord
  | .sources => List DataSource
  | .keywordLists => List String
  | .typeById _ => CorrelationType
  | .count _ _ => Nat
  | .catalog _ _ => Catalog
  | .run _ _ _ _ => Except Failure (List ResultFile)
  | .search _ _ _ _ _ => Except Failure FoundFiles

/-- How it is asked. -/
def step (id : HandleId) : (inquiry : Inquiry) → WorkspaceM inquiry.Answer
  | .missingTables wanted => Workspace.onHandle id (Handle.missingTables wanted)
  | .rows => Workspace.onHandle id (query Tables.requireKeyValues)
  | .row key =>
      Workspace.onHandle id (query fun tables => return (← tables.requireKeyValues).row? key)
  | .attachCase => Workspace.attachCase id
  | .attachRepository => Workspace.attachRepository id
  | .files clause => Workspace.onCase (Recording.storesOn id id) (CaseStore.find clause)
  | .sources => Workspace.onCase (Recording.storesOn id id) CaseStore.sources
  | .keywordLists => Workspace.onCase (Recording.storesOn id id) CaseStore.keywordLists
  | .typeById typeId =>
      Workspace.onRepository (Recording.storesOn id id) (RepositoryStore.typeById typeId)
  | .count type text => do
      let workspace ← get
      Workspace.ofStorage (workspace.countOccurrences (Recording.storesOn id id) type text)
  | .catalog stores fileTypes => Workspace.catalog stores fileTypes
  | .run stores withRepository options filters => do
      let workspace ← get
      let asked := workspace.searchStores stores withRepository
      Workspace.search (Search.run filters asked options)
  | .search stores withRepository options offered arguments => do
      let workspace ← get
      let asked := workspace.searchStores stores withRepository
      Workspace.search (searchFiles asked options offered arguments)

theorem looks_step (id : HandleId) (inquiry : Inquiry) : Workspace.Looks (inquiry.step id) := by
  cases inquiry with
  | missingTables wanted =>
      exact Workspace.looks_onHandle (reads_missingTables wanted) id
  | rows =>
      exact Workspace.looks_onHandle (reads_query _) id
  | row key =>
      exact Workspace.looks_onHandle (reads_query _) id
  | attachCase =>
      exact Workspace.looks_attachCase id
  | attachRepository =>
      exact Workspace.looks_attachRepository id
  | files clause =>
      exact Workspace.looks_onCase (reads_find clause) _
  | sources =>
      exact Workspace.looks_onCase reads_sources _
  | keywordLists =>
      exact Workspace.looks_onCase reads_keywordLists _
  | typeById typeId =>
      exact Workspace.looks_onRepository (reads_typeById typeId) _
  | count type text =>
      apply Workspace.looks_get
      · exact fun _ => Workspace.looks_ofStorage _
      · intro left right same
        rw [same.countOccurrences]
  | catalog stores fileTypes =>
      exact Workspace.looks_catalog stores fileTypes
  | run stores withRepository options filters =>
      apply Workspace.looks_get
      · exact fun _ => Workspace.looks_search _
      · intro left right same
        rw [same.searchStores]
  | search stores withRepository options catalog arguments =>
      apply Workspace.looks_get
      · exact fun _ => Workspace.looks_search _
      · intro left right same
        rw [same.searchStores]

end Inquiry

/-! ## Histories of a handle -/

/-- Something that is done with a handle, or with a store that uses it. -/
inductive Access where
  | attempt (attempt : Attempt)
  | inquire (inquiry : Inquiry)
  | persist
  | close

namespace Access

/-- The workspace after an access, whether it succeeded or failed. -/
def after (id : HandleId) (workspace : Workspace) : Access → Workspace
  | .attempt attempted => ((attempted.step id).run.run workspace).2
  | .inquire inquiry => ((inquiry.step id).run.run workspace).2
  | .persist => ((Workspace.withFiles Handle.persist id).run.run workspace).2
  | .close => ((Workspace.withFiles Handle.close id).run.run workspace).2

def run (id : HandleId) (workspace : Workspace) (accesses : List Access) : Workspace :=
  accesses.foldl (after id) workspace

end Access

/-- A handle, or what is left of it when it is closed. -/
def Handle.shutIf (closed : Bool) (handle : Handle) : Handle :=
  if closed then { handle with connection := .closed } else handle

namespace Workspace

variable {workspace opened : Workspace} {id : HandleId}

/-- Nothing but stores and log changed since the workspace was as it was, and the handle is closed
if it is said to be. -/
def Stays (opened : Workspace) (id : HandleId) (closed : Bool) (workspace : Workspace) : Prop :=
  SameData workspace (opened.setHandle id ((opened.handle id).shutIf closed))

theorem stays_refl (opened : Workspace) (id : HandleId) : Stays opened id false opened := by
  have same : opened.setHandle id ((opened.handle id).shutIf false) = opened :=
    setHandle_handle opened id
  rw [Stays, same]
  exact SameData.refl opened

theorem Stays.handle_eq
    {closed : Bool} (stays : Stays opened id closed workspace)
    (isOpened : id < opened.handles.length) :
    workspace.handle id = (opened.handle id).shutIf closed := by
  rw [SameData.handle stays, handle_setHandle_of_lt isOpened]

theorem readOnly_shutIf (closed : Bool) (handle : Handle) :
    (handle.shutIf closed).readOnly = handle.readOnly := by
  cases closed <;> rfl

theorem persist_of_readOnly (guarded : (workspace.handle id).readOnly = true) :
    (withFiles Handle.persist id).run.run workspace = (.ok (), workspace) := by
  rw [withFiles_of_ok (Handle.persist_of_readOnly guarded workspace.files), setHandle_handle]

theorem close_of_readOnly (guarded : (workspace.handle id).readOnly = true) :
    (withFiles Handle.close id).run.run workspace =
      (.ok (), workspace.setHandle id ((workspace.handle id).shutIf true)) :=
  withFiles_of_ok (Handle.close_of_readOnly guarded workspace.files)

/-- An access of a handle that may only read changes nothing but stores and log, and closing the
handle nothing but the handle. -/
theorem Stays.after
    {closed : Bool} (stays : Stays opened id closed workspace)
    (isOpened : id < opened.handles.length) (guarded : (opened.handle id).readOnly = true)
    (access : Access) :
    ∃ closedAfter,
      Stays opened id closedAfter (access.after id workspace) ∧
        (access ≠ .close → closedAfter = closed) := by
  have guardedNow : (workspace.handle id).readOnly = true := by
    rw [stays.handle_eq isOpened, readOnly_shutIf, guarded]
  cases access with
  | attempt attempted =>
      obtain ⟨after, ran, same⟩ := attempted.exists_refused guardedNow
      refine ⟨closed, ?_, fun _ => rfl⟩
      rw [Access.after, ran]
      exact same.trans stays
  | inquire inquiry =>
      exact ⟨closed, ((inquiry.looks_step id).keeps workspace).trans stays, fun _ => rfl⟩
  | persist =>
      refine ⟨closed, ?_, fun _ => rfl⟩
      rw [Access.after, persist_of_readOnly guardedNow]
      exact stays
  | close =>
      refine ⟨true, ?_, fun notClose => absurd rfl notClose⟩
      have shut :
          (workspace.handle id).shutIf true = (opened.handle id).shutIf true := by
        rw [stays.handle_eq isOpened]
        cases closed <;> rfl
      rw [Access.after, close_of_readOnly guardedNow, shut]
      refine ⟨stays.files, ?_⟩
      rw [setHandle, SameData.handles stays]
      exact List.set_set _

theorem Stays.run
    {closed : Bool} (stays : Stays opened id closed workspace)
    (isOpened : id < opened.handles.length) (guarded : (opened.handle id).readOnly = true)
    (accesses : List Access) :
    ∃ closedAfter,
      Stays opened id closedAfter (Access.run id workspace accesses) ∧
        (.close ∉ accesses → closedAfter = closed) := by
  -- a handle that was closed stays closed, so what is known is whether it was closed so far
  induction accesses generalizing closed workspace with
  | nil =>
      exact ⟨closed, stays, fun _ => rfl⟩
  | cons access accesses inductionHypothesis =>
      obtain ⟨between, staysBetween, keepsOpen⟩ := stays.after isOpened guarded access
      obtain ⟨closedAfter, staysAfter, keepsOpenAfter⟩ := inductionHypothesis staysBetween
      refine ⟨closedAfter, staysAfter, fun notClosed => ?_⟩
      obtain ⟨notFirst, notLater⟩ := not_or.mp (mt List.mem_cons.mpr notClosed)
      rw [keepsOpenAfter notLater, keepsOpen (Ne.symm notFirst)]

/-- A file that opens to be read gives a handle of its own. -/
theorem openHandle_readOnly
    {before : Workspace} {path : String}
    (opens : (openHandle (some path) true).run.run before = (.ok id, opened)) :
    ∃ content connection,
      before.files.file? path = some content ∧ connectTo path content = .ok connection ∧
        id = before.handles.length ∧
        opened = before.added ⟨some path, true, false, connection⟩ := by
  cases isOpened : Handle.openFile before.files path true with
  | error error =>
      rw [openHandle_of_error isOpened] at opens
      cases opens
  | ok handle =>
      rw [openHandle_of_ok isOpened] at opens
      obtain ⟨content, connection, stands, connected, rfl⟩ :=
        openFile_readOnly_eq_ok_iff.mp isOpened
      cases opens
      exact ⟨content, connection, stands, connected, rfl, rfl⟩

end Workspace

/-- What holds of a handle that was opened to be read, after some accesses. -/
structure StaysUnchanged (before opened : Workspace) (id : HandleId) (accesses : List Access) :
    Prop where
  /-- Every attempt to change the database fails, also after the handle was closed. -/
  refused :
    ∀ attempt : Attempt,
      ((attempt.step id).run.run (Access.run id opened accesses)).1 =
        .error (.storage attempt.refusal)
  /-- As long as the handle was not closed, the answers are those given right after opening. -/
  answered :
    .close ∉ accesses →
      ∀ inquiry : Inquiry,
        ((inquiry.step id).run.run (Access.run id opened accesses)).1 =
          ((inquiry.step id).run.run opened).1
  persists :
    ((Workspace.withFiles Handle.persist id).run.run (Access.run id opened accesses)).1 = .ok ()
  closes :
    ((Workspace.withFiles Handle.close id).run.run (Access.run id opened accesses)).1 = .ok ()
  noTransaction : ((Access.run id opened accesses).handle id).connection.inTransaction = false
  /-- The other handles are as they were. -/
  others :
    ∀ other, other ≠ id → (Access.run id opened accesses).handle other = before.handle other
  /-- The files are as they were, those beside the file of the handle too. -/
  files : (Access.run id opened accesses).files = before.files

/-- A handle that was opened to be read changes nothing, whatever is done with it. -/
theorem openHandle_stays_unchanged
    {before opened : Workspace} {path : String} {id : HandleId}
    (opens : (Workspace.openHandle (some path) true).run.run before = (.ok id, opened))
    (accesses : List Access) :
    StorageError.readOnly.message = "Database was opened read-only" ∧
      StaysUnchanged before opened id accesses := by
  obtain ⟨content, connection, stands, connected, isId, isAdded⟩ :=
    Workspace.openHandle_readOnly opens
  have isNew : opened.handle id = ⟨some path, true, false, connection⟩ := by
    rw [isId, isAdded, Workspace.handle_added_self]
  have isOpened : id < opened.handles.length := by
    rw [isId, isAdded, Workspace.added, List.length_append, List.length_singleton]
    exact Nat.lt_succ_self _
  have guarded : (opened.handle id).readOnly = true := by
    rw [isNew]
  obtain ⟨closed, stays, staysOpen⟩ :=
    (Workspace.stays_refl opened id).run isOpened guarded accesses
  have guardedNow : ((Access.run id opened accesses).handle id).readOnly = true := by
    rw [stays.handle_eq isOpened, Workspace.readOnly_shutIf, guarded]
  refine ⟨rfl, ?refused, ?answered, ?persists, ?closes, ?noTransaction, ?others, ?files⟩
  case refused =>
    intro attempt
    obtain ⟨after, ran, _⟩ := attempt.exists_refused guardedNow
    rw [ran]
  case answered =>
    intro notClosed inquiry
    obtain rfl := staysOpen notClosed
    exact (inquiry.looks_step id).agrees (stays.trans (Workspace.stays_refl opened id).symm)
  case persists =>
    rw [Workspace.persist_of_readOnly guardedNow]
  case closes =>
    rw [Workspace.close_of_readOnly guardedNow]
  case noTransaction =>
    rw [stays.handle_eq isOpened, isNew]
    cases closed with
    | false =>
        exact (atRest_connectTo connected).inTransaction_eq
    | true =>
        rfl
  case others =>
    intro other different
    rw [Workspace.SameData.handle stays, Workspace.handle_setHandle_other different.symm, isAdded]
    rw [isId] at different
    exact Workspace.handle_added_other different _
  case files =>
    rw [Workspace.SameData.files stays, isAdded]
    rfl

/-- A file with one row of keys and values. -/
def oneRow : Workspace :=
  { files := { files := [("/a.db", .database { keyValues := some [⟨1, some "s1"⟩] })] } }

/-- The handle that reads it. -/
def oneRowReader : Handle :=
  ⟨some "/a.db", true, false, .fresh { keyValues := some [⟨1, some "s1"⟩] }⟩

/-- Attempts to delete the row, alone and in a script, with an empty transaction between them. -/
def deletingAccesses : List Access :=
  [.attempt (.statement (Tables.deleteKey (.finite 1))), .attempt (.transaction (pure ())),
    .inquire .rows, .attempt (.script (Tables.createCase ++ [Tables.deleteKey (.finite 1)])),
    .persist]

theorem oneRow_stays_unchanged :
    (Workspace.openHandle (some "/a.db") true).run.run oneRow =
        (.ok 0, oneRow.added oneRowReader) ∧
      StaysUnchanged oneRow (oneRow.added oneRowReader) 0 deletingAccesses ∧
      ((Inquiry.rows.step 0).run.run
            (Access.run 0 (oneRow.added oneRowReader) deletingAccesses)).1 =
        .ok [⟨1, some "s1"⟩] := by
  have opens :
      (Workspace.openHandle (some "/a.db") true).run.run oneRow =
        (.ok 0, oneRow.added oneRowReader) :=
    rfl
  have unchanged := (openHandle_stays_unchanged opens deletingAccesses).2
  have notClosed : Access.close ∉ deletingAccesses := by
    simp [deletingAccesses]
  refine ⟨opens, unchanged, ?_⟩
  rw [unchanged.answered notClosed]
  rfl

end EvidenceSearch
