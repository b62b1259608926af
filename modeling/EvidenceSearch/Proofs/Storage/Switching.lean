import EvidenceSearch.Proofs.Storage.Ingesting

/-!
# Giving a store another database

A store checks a database before it takes it, but it takes a database before it creates tables
there. So nothing comes of a database that has no tables to be used, while one that refuses the
tables stays with the store: whatever the store is asked then, that database is asked, until the
store is given another one. A database that can be written may refuse only an index; the tables that
were created before stay there.
-/

namespace EvidenceSearch

open Handle

namespace StoreKind

variable {workspace : Workspace} {id : HandleId}

/-! ## The two stores -/

/-- Use the tables of the store on a handle as they are. -/
def attach : StoreKind → HandleId → WorkspaceM Unit
  | .ofCase => Workspace.attachCase
  | .ofRepository => Workspace.attachRepository

/-- The handle that the store works on. -/
def handle? (stores : StoreHandles) : StoreKind → Option HandleId
  | .ofCase => stores.caseHandle
  | .ofRepository => stores.repositoryHandle

def given (workspace : Workspace) (id : HandleId) : StoreKind → Workspace
  | .ofCase => workspace.withCase id
  | .ofRepository => workspace.withRepository id

/-- Carry out a step on the handle of the store. -/
def onStore {Value : Type} (stores : StoreHandles) (step : HandleM Value) :
    StoreKind → WorkspaceM Value
  | .ofCase => Workspace.onCase stores step
  | .ofRepository => Workspace.onRepository stores step

@[simp]
theorem onStore_given
    {Value : Type} (kind : StoreKind) (workspace : Workspace) (id : HandleId)
    (step : HandleM Value) :
    kind.onStore (kind.given workspace id).stores step = Workspace.onHandle id step := by
  cases kind <;> rfl

@[simp]
theorem handle_given (kind : StoreKind) (workspace : Workspace) (id other : HandleId) :
    (kind.given workspace id).handle other = workspace.handle other := by
  cases kind <;> rfl

theorem given_eq_self_iff (kind : StoreKind) :
    kind.given workspace id = workspace ↔ kind.handle? workspace.stores = some id := by
  obtain ⟨files, handles, names, ⟨caseHandle, repositoryHandle⟩, log⟩ := workspace
  cases kind with
  | ofCase =>
      simp [given, Workspace.withCase, handle?, eq_comm]
  | ofRepository =>
      simp [given, Workspace.withRepository, handle?, eq_comm]

/-! ## Attaching -/

def attached : StoreKind → String
  | .ofCase => "CaseDatabase attached"
  | .ofRepository => "CentralRepository attached"

theorem attach_of_hasTables
    (kind : StoreKind) (has : (workspace.handle id).HasTables kind.names) :
    (kind.attach id).run.run workspace =
      (.ok (), kind.given (workspace.noted kind.attached) id) := by
  cases kind with
  | ofCase =>
      rw [attach, Workspace.attachCase, run_bind_of_ok (Workspace.checkCase_of_hasTables has)]
      rfl
  | ofRepository =>
      rw [attach, Workspace.attachRepository,
        run_bind_of_ok (Workspace.checkRepository_of_hasTables has)]
      rfl

theorem attach_of_not_hasTables
    (kind : StoreKind) (hasNot : ¬ (workspace.handle id).HasTables kind.names) :
    ∃ error, (kind.attach id).run.run workspace = (.error error, workspace) := by
  cases kind with
  | ofCase =>
      obtain ⟨error, failed⟩ := Workspace.checkCase_of_not_hasTables hasNot
      exact ⟨_, run_bind_of_error failed⟩
  | ofRepository =>
      obtain ⟨error, failed⟩ := Workspace.checkRepository_of_not_hasTables hasNot
      exact ⟨_, run_bind_of_error failed⟩

/-- A store that attaches to another handle forgets the one that it had. -/
theorem attach_given
    {other : HandleId} (kind : StoreKind)
    (has : (workspace.handle other).HasTables kind.names) :
    (kind.attach other).run.run (kind.given workspace id) =
      (kind.attach other).run.run workspace := by
  have hasStill : ((kind.given workspace id).handle other).HasTables kind.names := by
    rw [handle_given]
    exact has
  rw [kind.attach_of_hasTables has, kind.attach_of_hasTables hasStill]
  cases kind <;> rfl

/-! ## Preparing -/

/-- The tables of the store can be created on the handle. -/
def TakesTables (kind : StoreKind) (handle : Handle) : Prop :=
  handle.readOnly = false ∧ ∃ tables, handle.connection.tables = .ok tables ∧ kind.Fits tables

/-- The tables of the store were created in part, in a database that can be written: none is lost,
and nothing else changes, not even the mark of unsaved changes. -/
def BreaksOff (kind : StoreKind) (before after : Handle) : Prop :=
  ∃ path dirty tables tablesAfter lastKey lastKeyAfter saved,
    before = writing path dirty ⟨tables, lastKey, saved⟩ ∧
      after = writing path dirty ⟨tablesAfter, lastKeyAfter, saved⟩ ∧
      ¬ kind.Fits tables ∧ kind.beside tablesAfter = kind.beside tables ∧
      tables.names ⊆ tablesAfter.names

theorem runScript_of_takesTables
    {kind : StoreKind} {handle : Handle} (takes : kind.TakesTables handle) :
    ∃ after, (runScript kind.script).run.run handle = (.ok (), after) := by
  obtain ⟨path, readOnly, dirty, connection⟩ := handle
  obtain ⟨rfl, tables, shown, fits⟩ := takes
  cases connection with
  | live state =>
      obtain rfl := Except.ok.inj shown
      obtain ⟨outcome, after, lastKey, executed, succeeds, _⟩ :=
        kind.exists_executeAll_script path dirty state.tables state.lastKey state.saved
      obtain rfl := succeeds.mpr fits
      exact ⟨_, runScript_of_ok executed⟩
  | unreadable content fault inTransaction =>
      cases shown
  | closed =>
      cases shown

/-- Where the tables can not be created, the script is refused at once, or it breaks off. -/
theorem runScript_of_not_takesTables
    {kind : StoreKind} {handle : Handle} (refuses : ¬ kind.TakesTables handle) :
    ∃ error after,
      (runScript kind.script).run.run handle = (.error error, after) ∧
        (after = handle ∨ kind.BreaksOff handle after) := by
  obtain ⟨statement, others, isScript⟩ :
      ∃ statement others, kind.script = statement :: others := by
    cases kind <;> exact ⟨_, _, rfl⟩
  obtain ⟨path, readOnly, dirty, connection⟩ := handle
  cases readOnly with
  | true =>
      exact ⟨.readOnly, _, runScript_of_readOnly rfl _, Or.inl rfl⟩
  | false =>
      cases connection with
      | live state =>
          have unfit : ¬ kind.Fits state.tables :=
            fun fits => refuses ⟨rfl, state.tables, rfl, fits⟩
          obtain ⟨outcome, after, lastKey, executed, succeeds, sameBeside, grows, _⟩ :=
            kind.exists_executeAll_script path dirty state.tables state.lastKey state.saved
          cases outcome with
          | error error =>
              exact
                ⟨error, _, runScript_of_error executed,
                  Or.inr ⟨_, _, _, _, _, _, _, rfl, rfl, unfit, sameBeside, grows⟩⟩
          | ok _ =>
              exact absurd (succeeds.mp rfl) unfit
      | unreadable content fault inTransaction =>
          rw [isScript]
          exact ⟨.image fault, _, runScript_of_refused rfl nofun rfl, Or.inl rfl⟩
      | closed =>
          exact ⟨.closedForScripts, _, rfl, Or.inl rfl⟩

def initialized : StoreKind → String
  | .ofCase => "CaseDatabase initialized"
  | .ofRepository => "CentralRepository initialized"

/-- The store takes the handle first. -/
theorem prepare_eq (kind : StoreKind) (id : HandleId) :
    kind.prepare id = (do
      modify (kind.given · id)
      Workspace.onHandle id (runScript kind.script)
      Workspace.note .info kind.initialized) := by
  cases kind <;> rfl

theorem prepare_of_takesTables
    {kind : StoreKind} (takes : kind.TakesTables (workspace.handle id)) :
    ((kind.prepare id).run.run workspace).1 = .ok () := by
  obtain ⟨handle, created⟩ := runScript_of_takesTables takes
  rw [← handle_given kind workspace id id] at created
  rw [prepare_eq, Recording.initialize_ran (kind.given · id) kind.initialized created]

/-- What is left of the workspace when the tables of the store can not be created on a handle:
everything, but where the script broke off. -/
def Leaves (kind : StoreKind) (id : HandleId) (workspace left : Workspace) : Prop :=
  left = workspace ∨
    ∃ handle,
      kind.BreaksOff (workspace.handle id) handle ∧ left = workspace.setHandle id handle

/-- The store keeps a handle that refuses its tables. -/
theorem prepare_of_not_takesTables
    {kind : StoreKind} (refuses : ¬ kind.TakesTables (workspace.handle id)) :
    ∃ error left,
      (kind.prepare id).run.run workspace = (.error error, kind.given left id) ∧
        kind.Leaves id workspace left := by
  obtain ⟨error, handle, failed, leaves⟩ := runScript_of_not_takesTables refuses
  have failedGiven :
      (runScript kind.script).run.run ((kind.given workspace id).handle id) =
        (.error error, handle) := by
    rw [handle_given]
    exact failed
  have prepared :
      (kind.prepare id).run.run workspace =
        (.error (.storage error), kind.given (workspace.setHandle id handle) id) := by
    rw [prepare_eq, Recording.initialize_failed (kind.given · id) kind.initialized failedGiven]
    cases kind <;> rfl
  refine ⟨_, _, prepared, ?_⟩
  rcases leaves with rfl | breaksOff
  · exact Or.inl (Workspace.setHandle_handle workspace id)
  · exact Or.inr ⟨handle, breaksOff, rfl⟩

theorem stores_of_leaves
    {kind : StoreKind} {left : Workspace} (leaves : kind.Leaves id workspace left) :
    left.stores = workspace.stores := by
  rcases leaves with rfl | ⟨handle, _, rfl⟩ <;> rfl

/-- A store that is prepared on another handle forgets the one that it had. -/
theorem prepare_given
    (kind : StoreKind) (workspace : Workspace) (id other : HandleId) :
    (kind.prepare other).run.run (kind.given workspace id) =
      (kind.prepare other).run.run workspace := by
  cases kind <;> rfl

/-! ## What a failure leaves -/

/-- A store attaches to a database exactly if its tables are there, and a failure leaves everything
as it was. It is prepared on a database exactly if that takes tables. A failure leaves everything as
it was but the tables that it created before it broke off, and the store, which works on the
database that refused: as it did before, if it worked on that one, and until it is prepared on
another one or attached to it. -/
theorem failed_switch_leaves (kind : StoreKind) (id : HandleId) (workspace : Workspace) :
    ((∃ error after, (kind.attach id).run.run workspace = (.error error, after)) ↔
        ¬ (workspace.handle id).HasTables kind.names) ∧
      (∀ error after, (kind.attach id).run.run workspace = (.error error, after) →
        after = workspace) ∧
      ((∃ error after, (kind.prepare id).run.run workspace = (.error error, after)) ↔
        ¬ kind.TakesTables (workspace.handle id)) ∧
      ∀ error after, (kind.prepare id).run.run workspace = (.error error, after) →
        ∃ left,
          kind.Leaves id workspace left ∧ after = kind.given left id ∧
            (after = left ↔ kind.handle? workspace.stores = some id) ∧
            (∀ (Value : Type) (step : HandleM Value),
              kind.onStore after.stores step = Workspace.onHandle id step) ∧
            ∀ other,
              (kind.prepare other).run.run after = (kind.prepare other).run.run left ∧
                ((left.handle other).HasTables kind.names →
                  (kind.attach other).run.run after = (kind.attach other).run.run left) := by
  have attachFails {error : WorkspaceError} {after : Workspace}
      (failed : (kind.attach id).run.run workspace = (.error error, after)) :
      ¬ (workspace.handle id).HasTables kind.names := by
    intro has
    cases failed.symm.trans (kind.attach_of_hasTables has)
  have prepareFails {error : WorkspaceError} {after : Workspace}
      (failed : (kind.prepare id).run.run workspace = (.error error, after)) :
      ¬ kind.TakesTables (workspace.handle id) := by
    intro takes
    have succeeded := prepare_of_takesTables takes
    rw [failed] at succeeded
    cases succeeded
  refine ⟨⟨?_, ?_⟩, ?_, ⟨?_, ?_⟩, ?_⟩
  · rintro ⟨error, after, failed⟩
    exact attachFails failed
  · intro hasNot
    obtain ⟨error, failed⟩ := kind.attach_of_not_hasTables hasNot
    exact ⟨error, workspace, failed⟩
  · intro error after failed
    obtain ⟨_, failedHere⟩ := kind.attach_of_not_hasTables (attachFails failed)
    exact congrArg Prod.snd (failed.symm.trans failedHere)
  · rintro ⟨error, after, failed⟩
    exact prepareFails failed
  · intro refuses
    obtain ⟨error, left, failed, _⟩ := prepare_of_not_takesTables refuses
    exact ⟨error, _, failed⟩
  · intro error after failed
    obtain ⟨_, left, failedHere, leaves⟩ := prepare_of_not_takesTables (prepareFails failed)
    obtain rfl : after = kind.given left id :=
      congrArg Prod.snd (failed.symm.trans failedHere)
    refine
      ⟨left, leaves, rfl, ?_, fun Value step => onStore_given kind left id step,
        fun other => ⟨prepare_given kind left id other, fun has => attach_given kind has⟩⟩
    rw [given_eq_self_iff, stores_of_leaves leaves]

/-- A store of a case with one data source, beside a database without tables that may only be
read. -/
def besideEmpty : Workspace :=
  { handles :=
      [⟨none, false, false,
          .fresh { caseTables := some { CaseTables.empty with sources := [⟨1, "disk"⟩] } }⟩,
        ⟨some "/f.db", true, false, .fresh .empty⟩]
    stores := ⟨some 0, none⟩ }

/-- The store fails to create its tables in the other database, and its data source is gone. -/
theorem besideEmpty_loses_source :
    ∃ after,
      (StoreKind.ofCase.prepare 1).run.run besideEmpty = (.error (.storage .readOnly), after) ∧
        ((StoreKind.ofCase.onStore besideEmpty.stores CaseStore.sources).run.run besideEmpty).1 =
          .ok [⟨.finite 1, "disk"⟩] ∧
        ((StoreKind.ofCase.onStore after.stores CaseStore.sources).run.run after).1 =
          .error (.storage (.noTable "data_source_info")) := by
  obtain ⟨_, _, _, leaves⟩ := failed_switch_leaves .ofCase 1 besideEmpty
  have refused :
      ((StoreKind.ofCase.prepare 1).run.run besideEmpty).1 = .error (.storage .readOnly) :=
    rfl
  obtain ⟨after, failed⟩ := exists_eq_of_fst refused
  obtain ⟨left, isLeft, rfl, _, onRefused, _⟩ := leaves _ after failed
  -- the other database can not be written, so nothing happened to it
  obtain rfl : left = besideEmpty := by
    rcases isLeft with rfl | ⟨_, ⟨_, _, _, _, _, _, _, isWriting, _⟩, _⟩
    · rfl
    · cases congrArg Handle.readOnly isWriting
  refine ⟨_, failed, ?_, ?_⟩
  · decide +kernel
  · rw [onRefused]
    decide +kernel

end StoreKind
end EvidenceSearch
