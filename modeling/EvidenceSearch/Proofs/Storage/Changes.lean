import EvidenceSearch.Proofs.Storage.Reopening
import EvidenceSearch.Proofs.Storage.Schemas

/-!
# What a change does to a handle

A change that succeeds marks the handle, and one that fails mostly leaves everything as it was. The
exception is a script: one that breaks off after it added to the tables keeps what it added, without
a mark.
-/

namespace EvidenceSearch

namespace Handle

/-! ## Changes -/

/-- A change that is asked of a handle. -/
inductive Change where
  | createKeyValues
  | createOther
  | createCase
  | createRepository
  | seed (first : Option String) (others : List (Option String))
  | insert (key? : Option Number) (value : Option String)
  | insertOnce (value : Option String)
  | delete (key : Number)
  | batch (values : List (Option String)) (nested : Bool) (failure? : Option String)
  | addSource (id? : Option Number) (name? : Option String)
  | addFile (file : NewFile)
  | addKeywordHit (fileId : Option Number) (list : Option String)
  | addOccurrence (caseId sourceId : Option Number) (hash : String) (path : Option String)

/-- Insert the values of a batch. -/
def insertAll : List (Option String) → HandleM Unit
  | [] => return ()
  | value :: values => do
      let _ ← run (Tables.insertKeyValue none value)
      insertAll values

/-- How a batch ends: it begins another transaction if it is nested, and gives up if it is told
so. -/
def endBatch (nested : Bool) (failure? : Option String) : HandleM Unit := do
  if nested then transaction (pure ())
  if let some message := failure? then throw (.abandoned message)

/-- What a batch does in its transaction. -/
def batchBody (values : List (Option String)) (nested : Bool) (failure? : Option String) :
    HandleM Unit := do
  insertAll values
  endBatch nested failure?

/-- The rows that a seed script inserts one by one. -/
def seedScript (first : Option String) (others : List (Option String)) : List Statement :=
  (first :: others).map (Tables.insertKeyValue none)

/-- Carry out a change. -/
def Change.step : Change → HandleM Unit
  | .createKeyValues => runScript [Tables.createKeyValues]
  | .createOther => runScript [Tables.createOther]
  | .createCase => CaseStore.createTables
  | .createRepository => RepositoryStore.createTables
  | .seed first others => runScript (seedScript first others)
  | .insert key? value => do let _ ← run (Tables.insertKeyValue key? value)
  | .insertOnce value => do let _ ← run (Tables.insertValueOnce value)
  | .delete key => do let _ ← run (Tables.deleteKey key)
  | .batch values nested failure? => transaction (batchBody values nested failure?)
  | .addSource id? name? => CaseStore.addSource id? name?
  | .addFile file => do let _ ← CaseStore.addFile file
  | .addKeywordHit fileId list => CaseStore.addKeywordHit fileId list
  | .addOccurrence caseId sourceId hash path =>
      RepositoryStore.addOccurrence caseId sourceId hash path

/-- The statements of a change that is a script. -/
def Change.script? : Change → Option (List Statement)
  | .createKeyValues => some [Tables.createKeyValues]
  | .createOther => some [Tables.createOther]
  | .createCase => some Tables.createCase
  | .createRepository => some Tables.createRepository
  | .seed first others => some (seedScript first others)
  | _ => none

theorem Change.step_of_script
    {change : Change} {script : List Statement} (isScript : change.script? = some script) :
    change.step = runScript script := by
  cases change <;> cases isScript <;> rfl

/-- The handle after a change, whether it succeeded or failed. -/
def Change.perform (change : Change) (handle : Handle) : Handle :=
  (change.step.run.run handle).2

/-- The change fails. -/
def Change.Fails (change : Change) (handle : Handle) : Prop :=
  ∃ error, (change.step.run.run handle).1 = .error error

/-! ## Statements that add to the tables -/

/-- How many tables there are, and rows of those to which a script adds rows. -/
def extent (tables : Tables) : Nat :=
  (tables.keyValues.map fun rows => rows.length + 1).getD 0 +
    (tables.caseTables.getD .absent).present.length +
    (tables.repositoryTables.getD .absent).present.length +
    (tables.repositoryTables.getD .absent).types.length + tables.further.length

/-- The statement leaves everything as it is or adds to the tables, if it is accepted. -/
def Grows (statement : Statement) : Prop :=
  ∀ {tables after : Tables} {key? : Option Int},
    statement tables = .ok (after, key?) →
      after = tables ∧ key? = none ∨ extent tables < extent after

theorem requireKeyValues_eq_ok
    {tables : Tables} {rows : KeyValues} (found : tables.requireKeyValues = .ok rows) :
    tables.keyValues = some rows := by
  rw [Tables.requireKeyValues] at found
  cases isRows : tables.keyValues with
  | none =>
      rw [isRows] at found
      cases found
  | some held =>
      rw [isRows] at found
      cases found
      rfl

theorem length_insertByKey
    {Row : Type} (key : Row → Int) (row : Row) (rows : List Row) :
    (insertByKey key row rows).length = rows.length + 1 := by
  induction rows with
  | nil =>
      rfl
  | cons first rows inductionHypothesis =>
      rw [insertByKey]
      split
      · rfl
      · rw [List.length_cons, inductionHypothesis, List.length_cons]

theorem insertKeyValue_eq_ok
    {key? : Option Number} {value : Option String} {tables after : Tables} {last? : Option Int}
    (accepted : Tables.insertKeyValue key? value tables = .ok (after, last?)) :
    ∃ rows rowsAfter,
      tables.keyValues = some rows ∧ after = { tables with keyValues := some rowsAfter } ∧
        rowsAfter.length = rows.length + 1 := by
  obtain ⟨rows, found, rest⟩ := bind_eq_ok accepted
  obtain ⟨given, _, inserted⟩ := bind_eq_ok rest
  obtain ⟨⟨rowsAfter, key⟩, insertedRow, ended⟩ := bind_eq_ok inserted
  cases ended
  refine ⟨rows, rowsAfter, requireKeyValues_eq_ok found, rfl, ?_⟩
  rw [KeyValues.insert] at insertedRow
  split at insertedRow
  · cases insertedRow
  split at insertedRow
  · cases insertedRow
  obtain ⟨rfl, rfl⟩ := Prod.mk.inj (Except.ok.inj insertedRow)
  exact length_insertByKey KeyValue.key _ rows

theorem grows_insertKeyValue (key? : Option Number) (value : Option String) :
    Grows (Tables.insertKeyValue key? value) := by
  intro tables after last? accepted
  obtain ⟨rows, rowsAfter, isRows, rfl, longer⟩ := insertKeyValue_eq_ok accepted
  right
  simp only [extent, isRows, Option.map_some, Option.getD_some]
  omega

theorem grows_createKeyValues : Grows Tables.createKeyValues := by
  intro tables after last? accepted
  rw [Tables.createKeyValues] at accepted
  split at accepted
  · cases accepted
  · rename_i noRows
    cases accepted
    right
    simp [extent, noRows]

theorem grows_createOther : Grows Tables.createOther := by
  intro tables after last? accepted
  rw [Tables.createOther] at accepted
  split at accepted
  · cases accepted
  · cases accepted
    right
    simp [extent]

theorem grows_createCaseTable {name : String} (isName : name ∈ CaseTables.names) :
    Grows (Tables.createCaseTable name) := by
  intro tables after last? accepted
  cases accepted
  by_cases isMissing : .table name ∈ (tables.caseTables.getD .absent).gaps
  · right
    have longer := length_presentTables_lt isName isMissing
    simp only [extent, CaseTables.present, CaseTables.withTable, Option.getD_some]
    omega
  · left
    cases isCase : tables.caseTables with
    | none =>
        rw [isCase] at isMissing
        exact absurd (List.mem_map_of_mem isName) isMissing
    | some caseTables =>
        rw [isCase] at isMissing
        have same : caseTables.withTable name = caseTables :=
          congrArg (fun gaps => { caseTables with gaps }) (gapsWithTable_of_present isMissing)
        refine ⟨?_, rfl⟩
        rw [Option.getD_some, same, ← isCase]

theorem grows_createRepositoryTable {name : String} (isName : name ∈ RepositoryTables.names) :
    Grows (Tables.createRepositoryTable name) := by
  intro tables after last? accepted
  cases accepted
  by_cases isMissing : .table name ∈ (tables.repositoryTables.getD .absent).gaps
  · right
    have longer := length_presentTables_lt isName isMissing
    simp only [extent, RepositoryTables.present, RepositoryTables.withTable, Option.getD_some]
    omega
  · left
    cases isRepository : tables.repositoryTables with
    | none =>
        rw [isRepository] at isMissing
        exact absurd (List.mem_map_of_mem isName) isMissing
    | some repositoryTables =>
        rw [isRepository] at isMissing
        have same : repositoryTables.withTable name = repositoryTables :=
          congrArg (fun gaps => { repositoryTables with gaps })
            (gapsWithTable_of_present isMissing)
        refine ⟨?_, rfl⟩
        rw [Option.getD_some, same, ← isRepository]

theorem grows_insertFilesType : Grows Tables.insertFilesType := by
  intro tables after last? accepted
  obtain ⟨repositoryTables, found, ended⟩ := bind_eq_ok accepted
  have isRepository : tables.repositoryTables = some repositoryTables := requireTables_eq_ok found
  rcases repositoryTables.addFilesType_cases with isKnown | isNew
  · rw [isKnown] at ended
    obtain ⟨rfl, rfl⟩ := Prod.mk.inj (Except.ok.inj ended)
    exact Or.inl ⟨by rw [← isRepository], rfl⟩
  · rw [isNew] at ended
    obtain ⟨rfl, rfl⟩ := Prod.mk.inj (Except.ok.inj ended)
    right
    simp only [extent, isRepository, RepositoryTables.present, Option.getD_some, List.length_cons]
    omega

/-- A statement that changes nothing does not grow, but it need not. -/
theorem grows_of_idle {statement : Statement} (idle : ∀ tables, Idle statement tables) :
    Grows statement := by
  intro tables after last? accepted
  rcases idle tables with same | ⟨error, refused⟩
  · rw [same] at accepted
    obtain ⟨rfl, rfl⟩ := Prod.mk.inj (Except.ok.inj accepted)
    exact Or.inl ⟨rfl, rfl⟩
  · rw [refused] at accepted
    cases accepted

theorem grows_createCase : ∀ statement ∈ Tables.createCase, Grows statement := by
  have areNames : ∀ table ∈ CaseTables.schema, table.1 ∈ CaseTables.names := by decide
  rw [Tables.createCase, List.forall_mem_append, List.forall_mem_map, List.forall_mem_map]
  constructor
  · exact fun table member => grows_createCaseTable (areNames table member)
  · exact fun _ _ => grows_of_idle (idle_createIndex _ _ _)

theorem grows_createRepository : ∀ statement ∈ Tables.createRepository, Grows statement := by
  have typesName : "correlation_types" ∈ RepositoryTables.names := by decide
  have occurrencesName : "file_instances" ∈ RepositoryTables.names := by decide
  rw [Tables.createRepository, List.forall_mem_cons, List.forall_mem_cons, List.forall_mem_cons,
    List.forall_mem_singleton]
  exact
    ⟨grows_createRepositoryTable typesName, grows_insertFilesType,
      grows_createRepositoryTable occurrencesName,
      grows_of_idle (idle_createIndex _ _ _)⟩

theorem Change.grows
    {change : Change} {script : List Statement} (isScript : change.script? = some script) :
    ∀ statement ∈ script, Grows statement := by
  cases change <;> cases isScript
  case createKeyValues =>
    exact List.forall_mem_singleton.mpr grows_createKeyValues
  case createOther =>
    exact List.forall_mem_singleton.mpr grows_createOther
  case createCase =>
    exact grows_createCase
  case createRepository =>
    exact grows_createRepository
  case seed first others =>
    intro statement member
    obtain ⟨value, _, rfl⟩ := List.mem_map.mp member
    exact grows_insertKeyValue none value

/-! ## Changes of one statement -/

/-- Either nothing happened, or the handle is marked. -/
def Settles (path : String) (before after : Handle) : Prop :=
  Writes path after ∧ (after = before ∨ after.dirty = true)

theorem Settles.refl {path : String} {handle : Handle} (writes : Writes path handle) :
    Settles path handle handle :=
  ⟨writes, Or.inl rfl⟩

/-- A handle of a file that can not be read; it refuses all statements. -/
def broken (path : String) (dirty : Bool) (content : ByteArray) (fault : ImageFault)
    (inTransaction : Bool) :
    Handle :=
  ⟨some path, false, dirty, .unreadable content fault inTransaction⟩

@[simp]
theorem execute_broken
    {path : String} {dirty : Bool} {content : ByteArray} {fault : ImageFault}
    {inTransaction : Bool} (statement : Statement) :
    Connection.execute statement (broken path dirty content fault inTransaction).connection =
      .error (.image fault) :=
  rfl

theorem broken_ne_closed
    (path : String) (dirty : Bool) (content : ByteArray) (fault : ImageFault)
    (inTransaction : Bool) :
    (broken path dirty content fault inTransaction).connection ≠ .closed :=
  Connection.noConfusion

/-- A handle that writes either works on tables outside a transaction, or it is one of a file that
can not be read. -/
theorem Writes.cases
    {path : String} {handle : Handle} (writes : Writes path handle) :
    (∃ dirty tables lastKey, handle = writing (some path) dirty ⟨tables, lastKey, none⟩) ∨
      ∃ dirty content fault, handle = broken path dirty content fault false := by
  obtain ⟨onPath, writable, atRest⟩ := writes
  obtain ⟨handlePath, readOnly, dirty, connection⟩ := handle
  subst onPath
  subst writable
  cases connection with
  | live state =>
      obtain ⟨tables, lastKey, saved⟩ := state
      obtain rfl := atRest
      exact Or.inl ⟨dirty, tables, lastKey, rfl⟩
  | unreadable content fault inTransaction =>
      obtain rfl := atRest.1
      exact Or.inr ⟨dirty, content, fault, rfl⟩
  | closed =>
      exact False.elim atRest

theorem settles_marked
    {path : String} {before : Handle} {tables : Tables} {lastKey : Int} :
    Settles path before (writing (some path) true ⟨tables, lastKey, none⟩) :=
  ⟨⟨rfl, rfl, rfl⟩, Or.inr rfl⟩

theorem run_settles
    {path : String} {handle : Handle} (writes : Writes path handle) (statement : Statement) :
    Settles path handle ((run statement).run.run handle).2 := by
  rcases writes.cases with ⟨dirty, tables, lastKey, rfl⟩ | ⟨dirty, content, fault, rfl⟩
  · cases accepted : statement tables with
    | ok result =>
        obtain ⟨after, key?⟩ := result
        rw [run_of_ok _ _ _ accepted]
        exact settles_marked
    | error error =>
        rw [run_of_error _ _ _ accepted]
        exact Settles.refl writes
  · rw [run_of_refused rfl (execute_broken statement)]
    exact Settles.refl writes

theorem addOccurrence_settles
    {path : String} {handle : Handle} (writes : Writes path handle)
    (caseId sourceId : Option Number) (hash : String) (filePath : Option String) :
    Settles path handle
      ((RepositoryStore.addOccurrence caseId sourceId hash filePath).run.run handle).2 := by
  unfold RepositoryStore.addOccurrence
  cases normalizeHash hash with
  | error error =>
      exact Settles.refl writes
  | ok hash =>
      rw [run_discard]
      exact run_settles writes (Tables.insertOccurrence caseId sourceId hash filePath)

/-! ## Scripts -/

/-- A script stops at the first statement that is refused and keeps what the statements before it
did. -/
theorem exists_executeAll
    (path : Option String) (dirty : Bool) (state : LiveTables) {script : List Statement}
    (grows : ∀ statement ∈ script, Grows statement) :
    ∃ outcome after,
      (executeAll script).run.run (writing path dirty state) =
          (outcome, writing path dirty after) ∧
        after.saved = state.saved ∧
        (after = state ∨ extent state.tables < extent after.tables) := by
  induction script generalizing state with
  | nil =>
      exact ⟨.ok (), state, rfl, rfl, Or.inl rfl⟩
  | cons statement script inductionHypothesis =>
      cases accepted : statement state.tables with
      | error error =>
          exact ⟨.error error, state, executeAll_of_error accepted, rfl, Or.inl rfl⟩
      | ok result =>
          obtain ⟨tables, key?⟩ := result
          obtain ⟨outcome, after, executed, sameSaved, more⟩ :=
            inductionHypothesis (afterStatement state tables key?)
              fun later member => grows later (List.mem_cons_of_mem _ member)
          rw [← executeAll_of_ok accepted] at executed
          refine ⟨outcome, after, executed, sameSaved, ?_⟩
          rcases grows statement List.mem_cons_self accepted with ⟨rfl, rfl⟩ | more'
          · exact more
          · rcases more with rfl | later
            · exact Or.inr more'
            · exact Or.inr (Nat.lt_trans more' later)

/-- A handle of a file that can not be read is not changed by a script, unless the script is
empty. -/
theorem runScript_broken
    (path : String) (dirty : Bool) (content : ByteArray) (fault : ImageFault)
    (script : List Statement) :
    ∃ outcome after,
      (runScript script).run.run (broken path dirty content fault false) = (outcome, after) ∧
        (after = broken path dirty content fault false ∨
          after = broken path true content fault false) := by
  cases script with
  | nil =>
      exact ⟨_, _, rfl, Or.inr rfl⟩
  | cons statement script =>
      exact
        ⟨_, _, runScript_of_refused rfl (broken_ne_closed _ _ _ _ _) (execute_broken statement),
          Or.inl rfl⟩

/-! ## Batches -/

/-- A batch that inserted nothing left everything as it was, any other marked the handle. -/
theorem exists_insertAll
    (path : Option String) (dirty : Bool) (state : LiveTables) (values : List (Option String)) :
    ∃ outcome dirtyAfter after,
      (insertAll values).run.run (writing path dirty state) =
          (outcome, writing path dirtyAfter after) ∧
        after.saved = state.saved ∧ (dirtyAfter = true ∨ dirtyAfter = dirty ∧ after = state) := by
  induction values generalizing dirty state with
  | nil =>
      exact ⟨.ok (), dirty, state, rfl, rfl, Or.inr ⟨rfl, rfl⟩⟩
  | cons value values inductionHypothesis =>
      rw [insertAll]
      cases accepted : Tables.insertKeyValue none value state.tables with
      | error error =>
          have refused := run_of_error path dirty state accepted
          exact
            ⟨.error error, dirty, state, run_bind_of_error refused, rfl, Or.inr ⟨rfl, rfl⟩⟩
      | ok result =>
          obtain ⟨tables, key?⟩ := result
          obtain ⟨outcome, dirtyAfter, after, executed, sameSaved, marks⟩ :=
            inductionHypothesis true (afterStatement state tables key?)
          have isMarked : dirtyAfter = true := by
            rcases marks with isMarked | ⟨isMarked, _⟩
            · exact isMarked
            · exact isMarked
          rw [run_bind_of_ok (run_of_ok _ _ _ accepted)]
          exact ⟨outcome, dirtyAfter, after, executed, sameSaved, Or.inl isMarked⟩

/-- A batch ends without touching its handle. -/
theorem exists_endBatch
    (handle : Handle) (writable : handle.readOnly = false)
    (isOpen : handle.connection.begin = .error .transactionOpen)
    (nested : Bool) (failure? : Option String) :
    ∃ outcome, (endBatch nested failure?).run.run handle = (outcome, handle) := by
  cases nested with
  | true =>
      exact ⟨_, run_bind_of_error (transaction_of_refused writable isOpen)⟩
  | false =>
      cases failure? with
      | some message =>
          exact ⟨.error (.abandoned message), rfl⟩
      | none =>
          exact ⟨.ok (), rfl⟩

theorem exists_batchBody
    (path : Option String) (dirty : Bool) (tables saved : Tables) (lastKey : Int)
    (values : List (Option String)) (nested : Bool) (failure? : Option String) :
    ∃ outcome dirtyAfter tablesAfter lastKeyAfter,
      (batchBody values nested failure?).run.run
            (writing path dirty ⟨tables, lastKey, some saved⟩) =
          (outcome, writing path dirtyAfter ⟨tablesAfter, lastKeyAfter, some saved⟩) ∧
        (dirtyAfter = true ∨ dirtyAfter = dirty ∧ lastKeyAfter = lastKey) := by
  obtain ⟨outcome, dirtyAfter, after, inserted, sameSaved, marks⟩ :=
    exists_insertAll path dirty ⟨tables, lastKey, some saved⟩ values
  obtain ⟨tablesAfter, lastKeyAfter, savedAfter⟩ := after
  obtain rfl := sameSaved
  have marksOrKeeps : dirtyAfter = true ∨ dirtyAfter = dirty ∧ lastKeyAfter = lastKey := by
    rcases marks with isMarked | ⟨sameMark, same⟩
    · exact Or.inl isMarked
    · exact Or.inr ⟨sameMark, congrArg LiveTables.lastKey same⟩
  rw [batchBody]
  cases outcome with
  | error error =>
      exact ⟨_, _, _, _, run_bind_of_error inserted, marksOrKeeps⟩
  | ok _ =>
      rw [run_bind_of_ok inserted]
      obtain ⟨outcome, ended⟩ :=
        exists_endBatch (writing path dirtyAfter ⟨tablesAfter, lastKeyAfter, some saved⟩) rfl rfl
          nested failure?
      exact ⟨_, _, _, _, ended, marksOrKeeps⟩

/-- On a handle of a file that can not be read a batch does nothing to its handle. -/
theorem exists_batchBody_broken
    (path : String) (dirty : Bool) (content : ByteArray) (fault : ImageFault)
    (values : List (Option String)) (nested : Bool) (failure? : Option String) :
    ∃ outcome,
      (batchBody values nested failure?).run.run (broken path dirty content fault true) =
        (outcome, broken path dirty content fault true) := by
  cases values with
  | nil =>
      exact exists_endBatch (broken path dirty content fault true) rfl rfl nested failure?
  | cons value values =>
      have refused :
          (run (Tables.insertKeyValue none value)).run.run (broken path dirty content fault true) =
            (.error (.image fault), broken path dirty content fault true) :=
        run_of_refused rfl (execute_broken (Tables.insertKeyValue none value))
      exact ⟨_, run_bind_of_error (run_bind_of_error refused)⟩

/-! ## All changes -/

/-- A script breaks off on the handle after it changed the tables. -/
def BreaksOff (change : Change) (handle : Handle) : Prop :=
  change.script?.isSome ∧ change.Fails handle ∧
    (change.perform handle).connection.tables ≠ handle.connection.tables

/-- What a change may do to a handle. -/
inductive Effect (change : Change) (before after : Handle) : Prop where
  /-- It leaves everything as it was. -/
  | idle (same : after = before)
  /-- It marks the handle. -/
  | marks (isDirty : after.dirty = true)
  /-- It is a script that breaks off and keeps what it added, without marking the handle. -/
  | overlooks (isScript : change.script?.isSome) (fails : change.Fails before)
      (sameMark : after.dirty = before.dirty) (tables tablesAfter : Tables)
      (had : before.connection.tables = .ok tables)
      (has : after.connection.tables = .ok tablesAfter)
      (more : extent tables < extent tablesAfter)

theorem Settles.effect
    {path : String} {change : Change} {before after : Handle}
    (settles : Settles path before after) :
    Writes path after ∧ Effect change before after := by
  obtain ⟨writes, same | isDirty⟩ := settles
  · exact ⟨writes, .idle same⟩
  · exact ⟨writes, .marks isDirty⟩

theorem script_effect
    {path : String} {handle : Handle} (writes : Writes path handle) {change : Change}
    {script : List Statement} (isScript : change.script? = some script) :
    Writes path (change.perform handle) ∧ Effect change handle (change.perform handle) := by
  rcases writes.cases with ⟨dirty, tables, lastKey, rfl⟩ | ⟨dirty, content, fault, rfl⟩
  · obtain ⟨outcome, after, executed, sameSaved, more⟩ :=
      exists_executeAll (some path) dirty ⟨tables, lastKey, none⟩ (Change.grows isScript)
    obtain ⟨tablesAfter, lastKeyAfter, savedAfter⟩ := after
    obtain rfl := sameSaved
    cases outcome with
    | ok _ =>
        rw [Change.perform, Change.step_of_script isScript, runScript_of_ok executed]
        exact settles_marked.effect
    | error error =>
        have ran := runScript_of_error executed
        have fails : change.Fails (writing (some path) dirty ⟨tables, lastKey, none⟩) := by
          rw [Change.Fails, Change.step_of_script isScript, ran]
          exact ⟨error, rfl⟩
        rw [Change.perform, Change.step_of_script isScript, ran]
        rcases more with same | more
        · rw [same]
          exact (Settles.refl writes).effect
        · have someScript : change.script?.isSome := by
            rw [isScript]
            rfl
          exact
            ⟨⟨rfl, rfl, rfl⟩,
              .overlooks someScript fails rfl tables tablesAfter rfl rfl more⟩
  · obtain ⟨outcome, after, ran, left⟩ := runScript_broken path dirty content fault script
    rw [Change.perform, Change.step_of_script isScript, ran]
    rcases left with rfl | rfl
    · exact (Settles.refl writes).effect
    · exact ⟨⟨rfl, rfl, rfl, writes.atRest.2⟩, .marks rfl⟩

/-- A transaction on a handle of a file that can not be read leaves it as it was if its body
fails. -/
theorem transaction_broken_of_error
    {Value : Type} {path : String} {dirty : Bool} {content : ByteArray} {fault : ImageFault}
    {body : HandleM Value} {error : StorageError}
    (bodyRan :
      body.run.run (broken path dirty content fault true) =
        (.error error, broken path dirty content fault true)) :
    (transaction body).run.run (broken path dirty content fault false) =
      (.error error, broken path dirty content fault false) := by
  have begins :
      (broken path dirty content fault false).connection.begin =
        .ok (.unreadable content fault true) :=
    rfl
  have rollsBack :
      (broken path dirty content fault true).connection.rollback =
        .ok (.unreadable content fault false) :=
    rfl
  exact transaction_of_error rfl begins bodyRan rollsBack

theorem transaction_broken_of_ok
    {Value : Type} {path : String} {dirty : Bool} {content : ByteArray} {fault : ImageFault}
    {body : HandleM Value} {value : Value}
    (bodyRan :
      body.run.run (broken path dirty content fault true) =
        (.ok value, broken path dirty content fault true)) :
    (transaction body).run.run (broken path dirty content fault false) =
      (.ok value, broken path true content fault false) := by
  have begins :
      (broken path dirty content fault false).connection.begin =
        .ok (.unreadable content fault true) :=
    rfl
  have commits :
      (broken path dirty content fault true).connection.commit =
        .ok (.unreadable content fault false) :=
    rfl
  exact transaction_of_ok rfl begins bodyRan commits

theorem batch_settles
    {path : String} {handle : Handle} (writes : Writes path handle)
    (values : List (Option String)) (nested : Bool) (failure? : Option String) :
    Settles path handle (Change.perform (.batch values nested failure?) handle) := by
  rw [Change.perform, Change.step]
  rcases writes.cases with ⟨dirty, tables, lastKey, rfl⟩ | ⟨dirty, content, fault, rfl⟩
  · obtain ⟨outcome, dirtyAfter, tablesAfter, lastKeyAfter, bodyRan, marks⟩ :=
      exists_batchBody (some path) dirty tables tables lastKey values nested failure?
    -- a batch that fails is rolled back, but rows it inserted leave their mark
    cases outcome with
    | ok _ =>
        rw [transaction_writing_of_ok bodyRan]
        exact settles_marked
    | error error =>
        rw [transaction_writing_of_error bodyRan]
        rcases marks with rfl | ⟨rfl, rfl⟩
        · exact settles_marked
        · exact Settles.refl writes
  · obtain ⟨outcome, bodyRan⟩ :=
      exists_batchBody_broken path dirty content fault values nested failure?
    cases outcome with
    | ok _ =>
        rw [transaction_broken_of_ok bodyRan]
        exact ⟨⟨rfl, rfl, rfl, writes.atRest.2⟩, Or.inr rfl⟩
    | error error =>
        rw [transaction_broken_of_error bodyRan]
        exact Settles.refl writes

theorem addKeywordHit_settles
    {path : String} {handle : Handle} (writes : Writes path handle)
    (fileId : Option Number) (list : Option String) :
    Settles path handle ((CaseStore.addKeywordHit fileId list).run.run handle).2 := by
  rcases writes.cases with ⟨dirty, tables, lastKey, rfl⟩ | ⟨dirty, content, fault, rfl⟩
  · cases added : Tables.insertArtifact fileId tables with
    | error error =>
        rw [addKeywordHit_of_error list added]
        exact Settles.refl writes
    | ok result =>
        obtain ⟨between, key?⟩ := result
        obtain ⟨id, rfl⟩ := insertArtifact_eq_ok added
        cases named : Tables.insertListName id list between with
        | error error =>
            rw [addKeywordHit_of_unnamed added named]
            exact settles_marked
        | ok result =>
            obtain ⟨after, row?⟩ := result
            obtain ⟨row, rfl⟩ := insertListName_eq_ok named
            rw [addKeywordHit_of_accepted added named]
            exact settles_marked
  · have artifactRan :
        (run (Tables.insertArtifact fileId)).run.run (broken path dirty content fault true) =
          (.error (.image fault), broken path dirty content fault true) :=
      run_of_refused rfl (execute_broken (Tables.insertArtifact fileId))
    rw [CaseStore.addKeywordHit, transaction_broken_of_error (run_bind_of_error artifactRan)]
    exact Settles.refl writes

theorem Change.effect
    {path : String} {handle : Handle} (writes : Writes path handle) (change : Change) :
    Writes path (change.perform handle) ∧ Effect change handle (change.perform handle) := by
  cases change with
  | createKeyValues =>
      exact script_effect writes rfl
  | createOther =>
      exact script_effect writes rfl
  | createCase =>
      exact script_effect writes rfl
  | createRepository =>
      exact script_effect writes rfl
  | seed first others =>
      exact script_effect writes rfl
  | insert key? value =>
      rw [perform, step, run_discard]
      exact (run_settles writes (Tables.insertKeyValue key? value)).effect
  | insertOnce value =>
      rw [perform, step, run_discard]
      exact (run_settles writes (Tables.insertValueOnce value)).effect
  | delete key =>
      rw [perform, step, run_discard]
      exact (run_settles writes (Tables.deleteKey key)).effect
  | batch values nested failure? =>
      exact (batch_settles writes values nested failure?).effect
  | addSource id? name? =>
      rw [perform, step, CaseStore.addSource, run_discard]
      exact (run_settles writes (Tables.insertSource id? name?)).effect
  | addFile file =>
      rw [perform, step, run_discard]
      exact (run_settles writes (Tables.insertFile file)).effect
  | addKeywordHit fileId list =>
      exact (addKeywordHit_settles writes fileId list).effect
  | addOccurrence caseId sourceId hash filePath =>
      exact (addOccurrence_settles writes caseId sourceId hash filePath).effect

end Handle
end EvidenceSearch
