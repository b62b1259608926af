import EvidenceSearch.Proofs.Steps
import EvidenceSearch.Storage.CaseStore
import EvidenceSearch.Storage.RepositoryStore

/-!
# What steps do to a handle that may write

On a handle that works on tables, a statement that is accepted changes the tables and marks the
handle, and one that is refused changes nothing. A script keeps what its statements did even if it
breaks off, and then it does not mark the handle. A transaction that fails puts the tables back; a
mark that its body left stays.
-/

namespace EvidenceSearch

/-! ## What statements find -/

@[simp]
theorem ColumnAccess.check_nil (access : ColumnAccess) : access.check [] = .ok () := by
  have nothing {Column : Type} (columns : List Column) :
      columns.find? (fun _ => false) = none :=
    List.find?_eq_none.mpr fun _ _ => Bool.false_ne_true
  simp [check, nothing]

theorem requireTables_of_whole
    {Held : Type} {gaps : Held → List SchemaGap} {held : Held} (whole : gaps held = [])
    (access : ColumnAccess) :
    requireTables gaps access (some held) = .ok held := by
  rw [requireTables, whole, ColumnAccess.check_nil]
  rfl

theorem requireTables_eq_ok
    {Held : Type} {gaps : Held → List SchemaGap} {held? : Option Held} {held : Held}
    {access : ColumnAccess} (found : requireTables gaps access held? = .ok held) :
    held? = some held := by
  cases held? with
  | none =>
      cases found
  | some other =>
      obtain ⟨_, _, same⟩ := bind_eq_ok found
      rw [Except.ok.inj same]

/-! ## Names of tables -/

theorem mem_presentTables_iff {names : List String} {gaps : List SchemaGap} {name : String} :
    name ∈ presentTables names gaps ↔ name ∈ names ∧ .table name ∉ gaps := by
  simp [presentTables]

namespace Tables

theorem mem_names_iff {tables : Tables} {name : String} :
    name ∈ tables.names ↔
      tables.keyValues.isSome ∧ name = KeyValues.tableName ∨
        name ∈ tables.casePresent ∨ name ∈ tables.repositoryPresent ∨
        (tables.casePresent ++ tables.repositoryPresent).any numbered.contains ∧
          name = sequenceName ∨
        name ∈ tables.further := by
  simp only [names, List.mem_append, List.mem_ite_nil_right, List.mem_singleton, or_assoc]

theorem casePresent_eq (tables : Tables) :
    tables.casePresent = (tables.caseTables.getD .absent).present := by
  rw [casePresent]
  cases tables.caseTables with
  | none =>
      decide
  | some caseTables =>
      rfl

theorem repositoryPresent_eq (tables : Tables) :
    tables.repositoryPresent = (tables.repositoryTables.getD .absent).present := by
  rw [repositoryPresent]
  cases tables.repositoryTables with
  | none =>
      decide
  | some repositoryTables =>
      rfl

theorem caseNames_subset
    {tables : Tables} {caseTables : CaseTables} (isCase : tables.caseTables = some caseTables)
    (noneMissing : ∀ name ∈ CaseTables.names, .table name ∉ caseTables.gaps) :
    CaseTables.names ⊆ tables.names := by
  intro name member
  rw [mem_names_iff, casePresent_eq, isCase]
  exact Or.inr (Or.inl (mem_presentTables_iff.mpr ⟨member, noneMissing name member⟩))

theorem repositoryNames_subset
    {tables : Tables} {repositoryTables : RepositoryTables}
    (isRepository : tables.repositoryTables = some repositoryTables)
    (noneMissing : ∀ name ∈ RepositoryTables.names, .table name ∉ repositoryTables.gaps) :
    RepositoryTables.names ⊆ tables.names := by
  intro name member
  rw [mem_names_iff, repositoryPresent_eq, isRepository]
  exact
    Or.inr (Or.inr (Or.inl (mem_presentTables_iff.mpr ⟨member, noneMissing name member⟩)))

theorem isEmpty_missing_iff {tables : Tables} {wanted : List String} :
    (tables.missing wanted).isEmpty = true ↔ ∀ name ∈ wanted, name ∈ tables.names := by
  simp [missing]

end Tables

namespace Handle

/-- A handle that may write and works on tables. -/
abbrev writing (path : Option String) (dirty : Bool) (state : LiveTables) : Handle :=
  ⟨path, false, dirty, .live state⟩

variable {path : Option String} {dirty dirtyAfter : Bool} {state after : LiveTables}
variable {Value : Type} {statement : Statement} {error : StorageError}

/-! ## Single steps -/

@[simp]
theorem assertWritable_of_writable
    {handle : Handle} (writable : handle.readOnly = false) :
    assertWritable.run.run handle = (.ok (), handle) := by
  simp [assertWritable, writable]

@[simp]
theorem assertWritable_writing :
    assertWritable.run.run (writing path dirty state) = (.ok (), writing path dirty state) :=
  rfl

theorem connect_of_ok
    {change : Connection → Except StorageError Connection} {handle : Handle}
    {connection : Connection} (changed : change handle.connection = .ok connection) :
    (connect change).run.run handle = (.ok (), { handle with connection }) := by
  simp [connect, changed]

theorem connect_of_error
    {change : Connection → Except StorageError Connection} {handle : Handle}
    (refused : change handle.connection = .error error) :
    (connect change).run.run handle = (.error error, handle) := by
  simp [connect, refused]

/-- The tables after a statement that was accepted, with the key that counts as the last. -/
def afterStatement (state : LiveTables) (tables : Tables) (key? : Option Int) : LiveTables :=
  ⟨tables, key?.getD state.lastKey, state.saved⟩

theorem execute_of_ok
    {tables : Tables} {key? : Option Int}
    (accepted : statement state.tables = .ok (tables, key?)) :
    Connection.execute statement (.live state) =
      .ok (.live (afterStatement state tables key?)) := by
  rw [Connection.execute, accepted]
  rfl

theorem execute_of_error (refused : statement state.tables = .error error) :
    Connection.execute statement (.live state) = .error error := by
  rw [Connection.execute, refused]
  rfl

theorem run_of_ok
    (path : Option String) (dirty : Bool) (state : LiveTables) {tables : Tables}
    {key? : Option Int} (accepted : statement state.tables = .ok (tables, key?)) :
    (run statement).run.run (writing path dirty state) =
      (.ok (key?.getD state.lastKey), writing path true (afterStatement state tables key?)) := by
  rw [run, run_bind_of_ok assertWritable_writing,
    run_bind_of_ok (connect_of_ok (execute_of_ok accepted))]
  rfl

theorem run_of_refused
    {handle : Handle} (writable : handle.readOnly = false)
    (refused : Connection.execute statement handle.connection = .error error) :
    (run statement).run.run handle = (.error error, handle) := by
  rw [run, run_bind_of_ok (assertWritable_of_writable writable)]
  exact run_bind_of_error (connect_of_error refused)

theorem run_of_error
    (path : Option String) (dirty : Bool) (state : LiveTables)
    (refused : statement state.tables = .error error) :
    (run statement).run.run (writing path dirty state) =
      (.error error, writing path dirty state) :=
  run_of_refused rfl (execute_of_error refused)

/-- A question is answered from the tables, and it changes nothing. -/
@[simp]
theorem run_query (read : Tables → Except StorageError Value) (handle : Handle) :
    (query read).run.run handle = (handle.connection.tables >>= read, handle) := by
  rw [query, run_get_bind]
  cases handle.connection.tables with
  | error error =>
      rfl
  | ok tables =>
      dsimp only
      change _ = (read tables, handle)
      cases read tables <;> rfl

/-- Whether tables are missing is told from their names. -/
theorem run_checkMissing
    (wanted : List String) (refusal : List String → StorageError) (handle : Handle) :
    (do
          let missing ← missingTables wanted
          if !missing.isEmpty then throw (refusal missing) : HandleM Unit).run.run handle =
      (do
        let tables ← handle.connection.tables
        if (tables.missing wanted).isEmpty then .ok ()
        else .error (refusal (tables.missing wanted)), handle) := by
  cases readable : handle.connection.tables with
  | error error =>
      have asked : (missingTables wanted).run.run handle = (.error error, handle) := by
        rw [missingTables, run_query, readable]
        rfl
      exact run_bind_of_error asked
  | ok tables =>
      have asked :
          (missingTables wanted).run.run handle = (.ok (tables.missing wanted), handle) := by
        rw [missingTables, run_query, readable]
        rfl
      rw [run_bind_of_ok asked]
      change _ = (if (tables.missing wanted).isEmpty then _ else _, handle)
      cases (tables.missing wanted).isEmpty <;> rfl

section MissingTables

variable {handle : Handle} {wanted : List String}

/-- The handle shows a database with all these tables. -/
def HasTables (handle : Handle) (wanted : List String) : Prop :=
  ∃ tables, handle.connection.tables = .ok tables ∧ ∀ name ∈ wanted, name ∈ tables.names

theorem checkMissing_of_hasTables
    (refusal : List String → StorageError) (has : handle.HasTables wanted) :
    (do
          let missing ← missingTables wanted
          if !missing.isEmpty then throw (refusal missing) : HandleM Unit).run.run handle =
      (.ok (), handle) := by
  obtain ⟨tables, shown, all⟩ := has
  rw [run_checkMissing, shown]
  change (if (tables.missing wanted).isEmpty = true then _ else _, handle) = _
  rw [if_pos (Tables.isEmpty_missing_iff.mpr all)]

theorem checkMissing_of_not_hasTables
    (refusal : List String → StorageError) (hasNot : ¬ handle.HasTables wanted) :
    ∃ error,
      (do
            let missing ← missingTables wanted
            if !missing.isEmpty then throw (refusal missing) : HandleM Unit).run.run handle =
        (.error error, handle) := by
  rw [run_checkMissing]
  cases shown : handle.connection.tables with
  | error error =>
      exact ⟨error, rfl⟩
  | ok tables =>
      have someMissing : ¬ (tables.missing wanted).isEmpty = true := by
        intro noneMissing
        exact hasNot ⟨tables, shown, Tables.isEmpty_missing_iff.mp noneMissing⟩
      refine ⟨refusal (tables.missing wanted), ?_⟩
      change (if (tables.missing wanted).isEmpty = true then _ else _, handle) = _
      rw [if_neg someMissing]

end MissingTables

/-! ## Scripts -/

theorem executeAll_of_ok
    {statements : List Statement} {tables : Tables} {key? : Option Int}
    (accepted : statement state.tables = .ok (tables, key?)) :
    (executeAll (statement :: statements)).run.run (writing path dirty state) =
      (executeAll statements).run.run
        (writing path dirty (afterStatement state tables key?)) := by
  rw [executeAll, run_bind_of_ok (connect_of_ok (execute_of_ok accepted))]

theorem executeAll_of_error
    {statements : List Statement} (refused : statement state.tables = .error error) :
    (executeAll (statement :: statements)).run.run (writing path dirty state) =
      (.error error, writing path dirty state) := by
  rw [executeAll]
  exact run_bind_of_error (connect_of_error (execute_of_error refused))

theorem runScript_of_ok
    {script : List Statement}
    (executed :
      (executeAll script).run.run (writing path dirty state) = (.ok (), writing path dirty after)) :
    (runScript script).run.run (writing path dirty state) = (.ok (), writing path true after) := by
  simp [runScript, markDirty, executed]

theorem runScript_of_error
    {script : List Statement}
    (executed :
      (executeAll script).run.run (writing path dirty state) =
        (.error error, writing path dirty after)) :
    (runScript script).run.run (writing path dirty state) =
      (.error error, writing path dirty after) := by
  simp [runScript, executed]

/-- Where no transaction is open the script goes through, from some tables to others. -/
def Executes (script : List Statement) (tables tablesAfter : Tables) : Prop :=
  ∀ path dirty lastKey, ∃ lastKeyAfter,
    (executeAll script).run.run (writing path dirty ⟨tables, lastKey, none⟩) =
      (.ok (), writing path dirty ⟨tablesAfter, lastKeyAfter, none⟩)

theorem runScript_of_refused
    {handle : Handle} {statements : List Statement} (writable : handle.readOnly = false)
    (notClosed : handle.connection ≠ .closed)
    (refused : Connection.execute statement handle.connection = .error error) :
    (runScript (statement :: statements)).run.run handle = (.error error, handle) := by
  have executed :
      (executeAll (statement :: statements)).run.run handle = (.error error, handle) := by
    rw [executeAll]
    exact run_bind_of_error (connect_of_error refused)
  simp [runScript, writable, notClosed, executed]

/-! ## Transactions -/

variable {body : HandleM Value} {value : Value}

theorem transaction_of_ok
    {before ended : Handle} {opened committed : Connection}
    (writable : before.readOnly = false) (begins : before.connection.begin = .ok opened)
    (bodyRan : body.run.run { before with connection := opened } = (.ok value, ended))
    (commits : ended.connection.commit = .ok committed) :
    (transaction body).run.run before =
      (.ok value, { ended with dirty := true, connection := committed }) := by
  rw [transaction, run_bind_of_ok (assertWritable_of_writable writable),
    run_bind_of_ok (connect_of_ok begins)]
  apply run_tryCatch_of_ok
  rw [complete, run_bind_of_ok bodyRan, run_bind_of_ok (connect_of_ok commits)]
  rfl

theorem transaction_of_error
    {before ended : Handle} {opened restored : Connection}
    (writable : before.readOnly = false) (begins : before.connection.begin = .ok opened)
    (bodyRan : body.run.run { before with connection := opened } = (.error error, ended))
    (rollsBack : ended.connection.rollback = .ok restored) :
    (transaction body).run.run before =
      (.error error, { ended with connection := restored }) := by
  rw [transaction, run_bind_of_ok (assertWritable_of_writable writable),
    run_bind_of_ok (connect_of_ok begins), complete,
    run_tryCatch_of_error (run_bind_of_error bodyRan), abandon,
    run_bind_of_ok (connect_of_ok rollsBack)]
  rfl

/-- A transaction does not start within another. -/
theorem transaction_of_refused
    {handle : Handle} (writable : handle.readOnly = false)
    (refused : handle.connection.begin = .error error) :
    (transaction body).run.run handle = (.error error, handle) := by
  rw [transaction, run_bind_of_ok (assertWritable_of_writable writable)]
  exact run_bind_of_error (connect_of_error refused)

variable {tables tablesAfter saved : Tables} {lastKey lastKeyAfter : Int}

theorem transaction_writing_of_ok
    (bodyRan :
      body.run.run (writing path dirty ⟨tables, lastKey, some tables⟩) =
        (.ok value, writing path dirtyAfter ⟨tablesAfter, lastKeyAfter, some saved⟩)) :
    (transaction body).run.run (writing path dirty ⟨tables, lastKey, none⟩) =
      (.ok value, writing path true ⟨tablesAfter, lastKeyAfter, none⟩) := by
  have begins :
      (writing path dirty ⟨tables, lastKey, none⟩).connection.begin =
        .ok (.live ⟨tables, lastKey, some tables⟩) :=
    rfl
  have commits :
      (writing path dirtyAfter ⟨tablesAfter, lastKeyAfter, some saved⟩).connection.commit =
        .ok (.live ⟨tablesAfter, lastKeyAfter, none⟩) :=
    rfl
  exact transaction_of_ok rfl begins bodyRan commits

/-- A transaction that fails puts back the tables with which it began. -/
theorem transaction_writing_of_error
    (bodyRan :
      body.run.run (writing path dirty ⟨tables, lastKey, some tables⟩) =
        (.error error, writing path dirtyAfter ⟨tablesAfter, lastKeyAfter, some saved⟩)) :
    (transaction body).run.run (writing path dirty ⟨tables, lastKey, none⟩) =
      (.error error, writing path dirtyAfter ⟨saved, lastKeyAfter, none⟩) := by
  have begins :
      (writing path dirty ⟨tables, lastKey, none⟩).connection.begin =
        .ok (.live ⟨tables, lastKey, some tables⟩) :=
    rfl
  have rollsBack :
      (writing path dirtyAfter ⟨tablesAfter, lastKeyAfter, some saved⟩).connection.rollback =
        .ok (.live ⟨saved, lastKeyAfter, none⟩) :=
    rfl
  exact transaction_of_error rfl begins bodyRan rollsBack

/-! ## Keyword hits -/

theorem requireCase_of_some
    {caseTables : CaseTables} (isCase : tables.caseTables = some caseTables)
    (whole : caseTables.gaps = []) (access : ColumnAccess) :
    tables.requireCase access = .ok caseTables := by
  rw [Tables.requireCase, isCase]
  exact requireTables_of_whole whole access

/-- A change of the tables of a case as a statement makes it. -/
theorem changeCase_of_ok
    {caseTables caseAfter : CaseTables} {id : Int}
    {change : CaseTables → Except StorageError (CaseTables × Int)}
    (isCase : tables.caseTables = some caseTables) (whole : caseTables.gaps = [])
    (changed : change caseTables = .ok (caseAfter, id)) (access : ColumnAccess) :
    (do
        let caseTables ← tables.requireCase access
        let (caseTables, id) ← change caseTables
        return ({ tables with caseTables := some caseTables }, some id)) =
      (.ok ({ tables with caseTables := some caseAfter }, some id) :
        Except StorageError (Tables × Option Int)) := by
  rw [requireCase_of_some isCase whole]
  change (do
    let (caseTables, id) ← change caseTables
    return ({ tables with caseTables := some caseTables }, some id)) = _
  rw [changed]
  rfl

theorem changeCase_of_error
    {caseTables : CaseTables} {change : CaseTables → Except StorageError (CaseTables × Int)}
    (isCase : tables.caseTables = some caseTables) (whole : caseTables.gaps = [])
    (refused : change caseTables = .error error) (access : ColumnAccess) :
    (do
        let caseTables ← tables.requireCase access
        let (caseTables, id) ← change caseTables
        return ({ tables with caseTables := some caseTables }, some id)) =
      (.error error : Except StorageError (Tables × Option Int)) := by
  rw [requireCase_of_some isCase whole]
  change (do
    let (caseTables, id) ← change caseTables
    return ({ tables with caseTables := some caseTables }, some id)) = _
  rw [refused]
  rfl

/-- What is changed in a case is nothing but its tables. -/
theorem changeCase_eq_ok
    {change : CaseTables → Except StorageError (CaseTables × Int)} {access : ColumnAccess}
    {key? : Option Int}
    (changed :
      (do
          let caseTables ← tables.requireCase access
          let (caseTables, id) ← change caseTables
          return ({ tables with caseTables := some caseTables }, some id)) =
        (.ok (tablesAfter, key?) : Except StorageError (Tables × Option Int))) :
    ∃ caseTables caseAfter id,
      tables.caseTables = some caseTables ∧ change caseTables = .ok (caseAfter, id) ∧
        tablesAfter = { tables with caseTables := some caseAfter } := by
  obtain ⟨caseTables, found, rest⟩ := bind_eq_ok changed
  obtain ⟨⟨caseAfter, id⟩, isChanged, ended⟩ := bind_eq_ok rest
  obtain ⟨rfl, _⟩ := Prod.mk.inj (Except.ok.inj ended)
  exact ⟨caseTables, caseAfter, id, requireTables_eq_ok found, isChanged, rfl⟩

theorem insertListName_of_some
    {caseTables : CaseTables} (isCase : tables.caseTables = some caseTables)
    (whole : caseTables.gaps = []) (artifactId : Int) (list : Option String) :
    Tables.insertListName artifactId list tables =
      .ok
        ({ tables with caseTables := some (caseTables.addListName artifactId list).1 },
          some (caseTables.addListName artifactId list).2) := by
  rw [Tables.insertListName, requireCase_of_some isCase whole]
  rfl

theorem insertArtifact_eq_ok
    {fileId : Option Number} {key? : Option Int}
    (accepted : Tables.insertArtifact fileId tables = .ok (tablesAfter, key?)) :
    ∃ id, key? = some id := by
  obtain ⟨caseTables, _, rest⟩ := bind_eq_ok accepted
  obtain ⟨⟨caseAfter, id⟩, _, ended⟩ := bind_eq_ok rest
  exact ⟨id, (Prod.mk.inj (Except.ok.inj ended)).2.symm⟩

theorem insertListName_eq_ok
    {artifactId : Int} {list : Option String} {key? : Option Int}
    (accepted : Tables.insertListName artifactId list tables = .ok (tablesAfter, key?)) :
    ∃ row, key? = some row := by
  obtain ⟨caseTables, _, ended⟩ := bind_eq_ok accepted
  exact ⟨_, (Prod.mk.inj (Except.ok.inj ended)).2.symm⟩

/-- A keyword hit whose artifact is refused leaves everything as it was. -/
theorem addKeywordHit_of_error
    {fileId : Option Number} (list : Option String)
    (refused : Tables.insertArtifact fileId tables = .error error) :
    (CaseStore.addKeywordHit fileId list).run.run (writing path dirty ⟨tables, lastKey, none⟩) =
      (.error error, writing path dirty ⟨tables, lastKey, none⟩) := by
  have artifactRan := run_of_error path dirty ⟨tables, lastKey, some tables⟩ refused
  exact transaction_writing_of_error (run_bind_of_error artifactRan)

/-- A keyword hit adds an artifact and its attribute together. -/
theorem addKeywordHit_of_accepted
    {fileId : Option Number} {list : Option String} {between : Tables} {id row : Int}
    (added : Tables.insertArtifact fileId tables = .ok (between, some id))
    (named : Tables.insertListName id list between = .ok (tablesAfter, some row)) :
    (CaseStore.addKeywordHit fileId list).run.run (writing path dirty ⟨tables, lastKey, none⟩) =
      (.ok (), writing path true ⟨tablesAfter, row, none⟩) := by
  have artifactRan := run_of_ok path dirty ⟨tables, lastKey, some tables⟩ added
  have nameRan := run_of_ok path true ⟨between, id, some tables⟩ named
  have bodyRan :
      (do
          let artifactId ← run (Tables.insertArtifact fileId)
          let _ ← run (Tables.insertListName artifactId list) : HandleM Unit).run.run
          (writing path dirty ⟨tables, lastKey, some tables⟩) =
        (.ok (), writing path true ⟨tablesAfter, row, some tables⟩) := by
    rw [run_bind_of_ok artifactRan, Option.getD_some]
    exact run_bind_of_ok nameRan
  exact transaction_writing_of_ok bodyRan

/-- If the attribute is refused, the artifact is taken back, but it leaves its mark. -/
theorem addKeywordHit_of_unnamed
    {fileId : Option Number} {list : Option String} {between : Tables} {id : Int}
    (added : Tables.insertArtifact fileId tables = .ok (between, some id))
    (refused : Tables.insertListName id list between = .error error) :
    (CaseStore.addKeywordHit fileId list).run.run (writing path dirty ⟨tables, lastKey, none⟩) =
      (.error error, writing path true ⟨tables, id, none⟩) := by
  have artifactRan := run_of_ok path dirty ⟨tables, lastKey, some tables⟩ added
  have nameRan := run_of_error path true ⟨between, id, some tables⟩ refused
  have bodyRan :
      (do
          let artifactId ← run (Tables.insertArtifact fileId)
          let _ ← run (Tables.insertListName artifactId list) : HandleM Unit).run.run
          (writing path dirty ⟨tables, lastKey, some tables⟩) =
        (.error error, writing path true ⟨between, id, some tables⟩) := by
    rw [run_bind_of_ok artifactRan, Option.getD_some]
    exact run_bind_of_error nameRan
  exact transaction_writing_of_error bodyRan

theorem gaps_addArtifact
    {caseTables caseAfter : CaseTables} {fileId : Option Number} {id : Int}
    (added : caseTables.addArtifact fileId = .ok (caseAfter, id)) :
    caseAfter.gaps = caseTables.gaps := by
  obtain ⟨_, _, ended⟩ := bind_eq_ok added
  cases ended
  rfl

theorem addKeywordHit_of_ok
    {caseTables caseAfter : CaseTables} {fileId : Option Number} {id : Int}
    (list : Option String) (isCase : tables.caseTables = some caseTables)
    (whole : caseTables.gaps = []) (added : caseTables.addArtifact fileId = .ok (caseAfter, id)) :
    (CaseStore.addKeywordHit fileId list).run.run (writing path dirty ⟨tables, lastKey, none⟩) =
      (.ok (),
        writing path true
          ⟨{ tables with caseTables := some (caseAfter.addListName id list).1 },
            (caseAfter.addListName id list).2, none⟩) := by
  have accepted :
      Tables.insertArtifact fileId tables =
        .ok ({ tables with caseTables := some caseAfter }, some id) :=
    changeCase_of_ok isCase whole added _
  have stillWhole : caseAfter.gaps = [] := (gaps_addArtifact added).trans whole
  exact addKeywordHit_of_accepted accepted (insertListName_of_some rfl stillWhole id list)

end Handle
end EvidenceSearch
