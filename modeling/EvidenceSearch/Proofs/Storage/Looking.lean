import EvidenceSearch.Proofs.Storage.Recording

/-!
# Steps that only look

What is read from a handle depends on the tables that it works on, and the handle stays as it is.
What is asked of the stores of a workspace therefore depends on its handles alone: whoever looks
changes neither handles nor files, and two workspaces whose handles show the same tables give the
same answers.
-/

namespace EvidenceSearch

open Handle

variable {Value Image : Type}

/-! ## Reading from a handle -/

/-- The step leaves every handle as it is, and its result depends on the tables. -/
structure Reads (step : HandleM Value) : Prop where
  keeps : ∀ handle, (step.run.run handle).2 = handle
  agrees :
    ∀ {left right : Handle}, left.connection.tables = right.connection.tables →
      (step.run.run left).1 = (step.run.run right).1

theorem Reads.run_eq {step : HandleM Value} (reads : Reads step) (handle : Handle) :
    step.run.run handle = ((step.run.run handle).1, handle) :=
  Prod.ext rfl (reads.keeps handle)

theorem reads_query (read : Tables → Except StorageError Value) : Reads (query read) := by
  constructor
  · intro handle
    rw [run_query]
  · intro left right same
    rw [run_query, run_query, same]

theorem reads_missingTables (wanted : List String) : Reads (missingTables wanted) :=
  reads_query _

theorem reads_sources : Reads CaseStore.sources :=
  reads_query _

theorem reads_keywordLists : Reads CaseStore.keywordLists :=
  reads_query _

theorem reads_typeById (id : Number) : Reads (RepositoryStore.typeById id) :=
  reads_query _

theorem reads_throw (error : StorageError) : Reads (throw error : HandleM Value) :=
  ⟨fun _ => rfl, fun _ => rfl⟩

/-- What is done with the handle itself may depend on its tables. -/
theorem reads_get
    {next : Handle → HandleM Value} (readsNext : ∀ handle, Reads (next handle))
    (sameNext :
      ∀ {left right : Handle}, left.connection.tables = right.connection.tables →
        next left = next right) :
    Reads (get >>= next) := by
  constructor
  · intro handle
    rw [run_get_bind]
    exact (readsNext handle).keeps handle
  · intro left right same
    rw [run_get_bind, run_get_bind, sameNext same]
    exact (readsNext right).agrees same

theorem tables_eq_closed_iff (connection : Connection) :
    connection.tables = .error .closed ↔ connection = .closed := by
  constructor
  · intro shown
    cases connection with
    | live state =>
        cases shown
    | unreadable content fault inTransaction =>
        cases shown
    | closed =>
        rfl
  · rintro rfl
    rfl

theorem reads_find (clause : String) : Reads (CaseStore.find clause) := by
  unfold CaseStore.find
  apply reads_get
  · intro handle
    by_cases closed : handle.connection = .closed
    · rw [if_pos closed]
      exact reads_throw _
    · rw [if_neg closed]
      cases Sql.Condition.ofClause clause.toList with
      | error error =>
          exact reads_throw _
      | ok condition =>
          exact reads_query _
  · intro left right same
    have sameClosed : left.connection = .closed ↔ right.connection = .closed := by
      rw [← tables_eq_closed_iff, ← tables_eq_closed_iff, same]
    simp only [sameClosed]

theorem reads_count (text : String) : Reads (RepositoryStore.count text) := by
  unfold RepositoryStore.count
  cases normalizeHash text with
  | error error =>
      exact reads_throw _
  | ok hash =>
      exact reads_query _

/-- Whether tables are missing depends on the tables. -/
theorem reads_checkMissing (wanted : List String) (refusal : List String → StorageError) :
    Reads (do
      let missing ← missingTables wanted
      if !missing.isEmpty then throw (refusal missing) : HandleM Unit) := by
  constructor
  · intro handle
    rw [run_checkMissing]
  · intro left right same
    rw [run_checkMissing, run_checkMissing, same]

theorem reads_checkCase : Reads CaseStore.checkTables :=
  reads_checkMissing CaseTables.names .notCase

theorem reads_checkRepository : Reads RepositoryStore.checkTables :=
  reads_checkMissing RepositoryTables.names .notRepository

namespace Workspace

/-- The workspaces have the same handles and files. -/
structure SameData (left right : Workspace) : Prop where
  files : left.files = right.files
  handles : left.handles = right.handles

theorem SameData.refl (workspace : Workspace) : SameData workspace workspace :=
  ⟨rfl, rfl⟩

theorem SameData.symm {left right : Workspace} (same : SameData left right) :
    SameData right left :=
  ⟨same.files.symm, same.handles.symm⟩

theorem SameData.trans
    {first second third : Workspace} (left : SameData first second)
    (right : SameData second third) :
    SameData first third :=
  ⟨left.files.trans right.files, left.handles.trans right.handles⟩

theorem SameData.handle
    {left right : Workspace} (same : SameData left right) (id : HandleId) :
    left.handle id = right.handle id := by
  rw [Workspace.handle, Workspace.handle, same.handles]

/-- The step changes neither handles nor files, and its result depends on nothing else. -/
structure Looks (step : WorkspaceM Value) : Prop where
  keeps : ∀ workspace, SameData (step.run.run workspace).2 workspace
  agrees :
    ∀ {left right}, SameData left right → (step.run.run left).1 = (step.run.run right).1

theorem run_onHandle
    {step : HandleM Value} (reads : Reads step) (id : HandleId) (workspace : Workspace) :
    (onHandle id step).run.run workspace =
      ((workspace.readHandle id step).mapError .storage, workspace) :=
  onHandle_of_read (reads.run_eq (workspace.handle id))

theorem looks_onHandle {step : HandleM Value} (reads : Reads step) (id : HandleId) :
    Looks (onHandle id step) := by
  constructor
  · intro workspace
    rw [run_onHandle reads]
    exact SameData.refl workspace
  · intro left right same
    rw [run_onHandle reads, run_onHandle reads, readHandle, readHandle, same.handle]

theorem looks_modify
    {change : Workspace → Workspace} (keeps : ∀ workspace, SameData (change workspace) workspace) :
    Looks (modify change : WorkspaceM PUnit) :=
  ⟨keeps, fun _ => rfl⟩

theorem looks_noteAll (entries : List LogEntry) : Looks (noteAll entries) :=
  looks_modify fun _ => ⟨rfl, rfl⟩

theorem looks_ofStorage (outcome : Except StorageError Value) : Looks (ofStorage outcome) := by
  constructor
  · intro workspace
    rw [run_ofStorage]
    exact SameData.refl workspace
  · intro left right same
    rw [run_ofStorage, run_ofStorage]

theorem Looks.exists_run
    {step : WorkspaceM Value} {left right : Workspace} (looks : Looks step)
    (same : SameData left right) :
    ∃ outcome leftAfter rightAfter,
      step.run.run left = (outcome, leftAfter) ∧ step.run.run right = (outcome, rightAfter) ∧
        SameData leftAfter left ∧ SameData rightAfter right :=
  ⟨(step.run.run left).1, (step.run.run left).2, (step.run.run right).2, rfl,
    Prod.ext (looks.agrees same).symm rfl, looks.keeps left, looks.keeps right⟩

theorem Looks.bind
    {step : WorkspaceM Value} {next : Value → WorkspaceM Image} (looks : Looks step)
    (looksNext : ∀ value, Looks (next value)) :
    Looks (step >>= next) := by
  constructor
  · intro workspace
    obtain ⟨outcome, between, _, stepped, _, kept, _⟩ := looks.exists_run (SameData.refl workspace)
    cases outcome with
    | error error =>
        rw [run_bind_of_error stepped]
        exact kept
    | ok value =>
        rw [run_bind_of_ok stepped]
        exact ((looksNext value).keeps between).trans kept
  · intro left right same
    obtain ⟨outcome, leftAfter, rightAfter, steppedLeft, steppedRight, keptLeft, keptRight⟩ :=
      looks.exists_run same
    cases outcome with
    | error error =>
        rw [run_bind_of_error steppedLeft, run_bind_of_error steppedRight]
    | ok value =>
        rw [run_bind_of_ok steppedLeft, run_bind_of_ok steppedRight]
        exact (looksNext value).agrees (keptLeft.trans (same.trans keptRight.symm))

/-- What is done with the workspace itself may depend on its handles and files. -/
theorem looks_get
    {next : Workspace → WorkspaceM Value} (looksNext : ∀ workspace, Looks (next workspace))
    (sameNext : ∀ {left right}, SameData left right → next left = next right) :
    Looks (get >>= next) := by
  constructor
  · intro workspace
    rw [run_get_bind]
    exact (looksNext workspace).keeps workspace
  · intro left right same
    rw [run_get_bind, run_get_bind, sameNext same]
    exact (looksNext right).agrees same

/-! ## What the stores are asked -/

theorem SameData.countOccurrences
    {left right : Workspace} (same : SameData left right) (stores : StoreHandles)
    (type : CorrelationType) (text : String) :
    left.countOccurrences stores type text = right.countOccurrences stores type text := by
  have sameRead (id : HandleId) :
      left.readHandle id (RepositoryStore.count text) =
        right.readHandle id (RepositoryStore.count text) := by
    rw [readHandle, readHandle, same.handle]
  unfold Workspace.countOccurrences
  simp only [sameRead]

theorem SameData.searchStores
    {left right : Workspace} (same : SameData left right) (stores : StoreHandles)
    (withRepository : Bool) :
    left.searchStores stores withRepository = right.searchStores stores withRepository := by
  obtain ⟨files, handles, _, _, _⟩ := left
  obtain ⟨_, _, _, _, _⟩ := right
  obtain ⟨rfl, rfl⟩ := same
  rfl

theorem looks_pure (value : Value) : Looks (pure value) :=
  ⟨SameData.refl, fun _ => rfl⟩

theorem looks_search (action : Traced Failure Value) : Looks (search action) :=
  ⟨fun _ => ⟨rfl, rfl⟩, fun _ => rfl⟩

theorem looks_onCase
    {step : HandleM Value} (reads : Reads step) (stores : StoreHandles) :
    Looks (onCase stores step) :=
  (looks_ofStorage _).bind fun id => looks_onHandle reads id

theorem looks_onRepository
    {step : HandleM Value} (reads : Reads step) (stores : StoreHandles) :
    Looks (onRepository stores step) :=
  (looks_ofStorage _).bind fun id => looks_onHandle reads id

theorem looks_catalog (stores : StoreHandles) (fileTypes : List FileType) :
    Looks (catalog stores fileTypes) :=
  (looks_onCase reads_sources stores).bind fun _ =>
    (looks_onCase reads_keywordLists stores).bind fun _ => looks_pure _

theorem looks_attachCase (id : HandleId) : Looks (attachCase id) := by
  have checks : Looks (checkCase id) :=
    (looks_onHandle reads_checkCase id).bind fun _ => looks_noteAll _
  exact checks.bind fun _ => looks_modify fun _ => ⟨rfl, rfl⟩

theorem looks_attachRepository (id : HandleId) : Looks (attachRepository id) := by
  have checks : Looks (checkRepository id) :=
    (looks_onHandle reads_checkRepository id).bind fun _ => looks_noteAll _
  exact checks.bind fun _ => looks_modify fun _ => ⟨rfl, rfl⟩

/-! ## Handles that show the same tables -/

section SameTables

variable {left right : Workspace} {leftStores rightStores : StoreHandles}

/-- The handles of both cases show the same tables. -/
def SameCase (left : Workspace) (leftStores : StoreHandles) (right : Workspace)
    (rightStores : StoreHandles) : Prop :=
  ∃ leftId rightId,
    leftStores.caseHandle = some leftId ∧ rightStores.caseHandle = some rightId ∧
      (left.handle leftId).connection.tables = (right.handle rightId).connection.tables

/-- The handles of both repositories show the same tables. -/
def SameRepository (left : Workspace) (leftStores : StoreHandles) (right : Workspace)
    (rightStores : StoreHandles) : Prop :=
  ∃ leftId rightId,
    leftStores.repositoryHandle = some leftId ∧ rightStores.repositoryHandle = some rightId ∧
      (left.handle leftId).connection.tables = (right.handle rightId).connection.tables

theorem onCase_congr
    {step : HandleM Value} (reads : Reads step)
    (same : SameCase left leftStores right rightStores) :
    ∃ outcome,
      (onCase leftStores step).run.run left = (outcome, left) ∧
        (onCase rightStores step).run.run right = (outcome, right) := by
  obtain ⟨leftId, rightId, isLeft, isRight, sameTables⟩ := same
  have onLeft : onCase leftStores step = onHandle leftId step := by
    rw [onCase, caseHandle, isLeft]
    rfl
  have onRight : onCase rightStores step = onHandle rightId step := by
    rw [onCase, caseHandle, isRight]
    rfl
  have sameAnswer : right.readHandle rightId step = left.readHandle leftId step :=
    reads.agrees sameTables.symm
  rw [onLeft, onRight, run_onHandle reads, run_onHandle reads, sameAnswer]
  exact ⟨_, rfl, rfl⟩

theorem catalog_congr
    (same : SameCase left leftStores right rightStores) (fileTypes : List FileType) :
    ∃ outcome,
      (catalog leftStores fileTypes).run.run left = (outcome, left) ∧
        (catalog rightStores fileTypes).run.run right = (outcome, right) := by
  obtain ⟨sources, sourcesLeft, sourcesRight⟩ := onCase_congr reads_sources same
  obtain ⟨lists, listsLeft, listsRight⟩ := onCase_congr reads_keywordLists same
  rw [catalog, catalog]
  cases sources with
  | error error =>
      exact ⟨_, run_bind_of_error sourcesLeft, run_bind_of_error sourcesRight⟩
  | ok sources =>
      rw [run_bind_of_ok sourcesLeft, run_bind_of_ok sourcesRight]
      cases lists with
      | error error =>
          exact ⟨_, run_bind_of_error listsLeft, run_bind_of_error listsRight⟩
      | ok lists =>
          rw [run_bind_of_ok listsLeft, run_bind_of_ok listsRight]
          exact ⟨.ok ⟨sources, lists, fileTypes⟩, rfl, rfl⟩

theorem askCase_congr (same : SameCase left leftStores right rightStores) :
    left.askCase leftStores = right.askCase rightStores := by
  obtain ⟨leftId, rightId, isLeft, isRight, sameTables⟩ := same
  funext clause
  have sameAnswer :
      left.readHandle leftId (CaseStore.find clause) =
        right.readHandle rightId (CaseStore.find clause) :=
    (reads_find clause).agrees sameTables
  rw [askCase, askCase, caseHandle, caseHandle, isLeft, isRight]
  exact congrArg describeError sameAnswer

theorem askRepository_congr (same : SameRepository left leftStores right rightStores) :
    left.askRepository leftStores = right.askRepository rightStores := by
  obtain ⟨leftId, rightId, isLeft, isRight, sameTables⟩ := same
  have sameType (id : Number) :
      left.readHandle leftId (RepositoryStore.typeById id) =
        right.readHandle rightId (RepositoryStore.typeById id) :=
    (reads_typeById id).agrees sameTables
  have sameCount (text : String) :
      left.readHandle leftId (RepositoryStore.count text) =
        right.readHandle rightId (RepositoryStore.count text) :=
    (reads_count text).agrees sameTables
  have onLeft : repositoryHandle leftStores = .ok leftId := by
    rw [repositoryHandle, isLeft]
  have onRight : repositoryHandle rightStores = .ok rightId := by
    rw [repositoryHandle, isRight]
  unfold askRepository countOccurrences
  simp only [onLeft, onRight, bind, Except.bind, sameType, sameCount]

end SameTables

end Workspace

end EvidenceSearch
