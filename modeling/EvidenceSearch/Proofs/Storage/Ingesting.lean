import EvidenceSearch.Proofs.Storage.Closing
import EvidenceSearch.Proofs.Storage.Guarding

/-!
# Writing two stores and closing them

The stores of a case and of a central repository are prepared on two handles that write to two
files, their writers are called in any order, and the handles are written to their files at any
time; anything may fail. Every change of the tables marks the handle, so the file of a handle
without a mark holds its tables. The temporary file of a path must not be the other file: then
writing one handle leaves the file of the other alone, and once both handles are closed both files
hold what the handles showed.
-/

namespace EvidenceSearch

open Handle

/-! ## Other files -/

namespace FileSystem

/-- The step leaves what stands at the path, whether it succeeds or fails. -/
def Leaves {Value : Type} (path : String) (step : FileM Value) : Prop :=
  ∀ before : FileSystem, ((step.run.run before).2).file? path = before.file? path

theorem lookup_filter_ne
    {path other : String} (different : other ≠ path) (files : List (String × FileContent)) :
    (files.filter fun file => file.1 ≠ path).lookup other = files.lookup other := by
  induction files with
  | nil =>
      rfl
  | cons file files inductionHypothesis =>
      obtain ⟨name, content⟩ := file
      by_cases removed : name = path
      · have notOther : (other == name) = false := by
          simp [removed, different]
        rw [List.filter_cons_of_neg (by simp [removed]), inductionHypothesis, List.lookup_cons,
          notOther]
      · rw [List.filter_cons_of_pos (by simp [removed]), List.lookup_cons, List.lookup_cons,
          inductionHypothesis]

section Changes

variable {path other : String} {before after : FileSystem} {content : FileContent}

theorem file?_remove_other (different : other ≠ path) (system : FileSystem) :
    (system.remove path).file? other = system.file? other :=
  lookup_filter_ne different system.files

theorem file?_place_other
    (different : other ≠ path) (system : FileSystem) (content : FileContent) :
    (system.place path content).file? other = system.file? other := by
  have notFirst : (other == path) = false := beq_eq_false_iff_ne.mpr different
  rw [file?, place, List.lookup_cons, notFirst]
  exact lookup_filter_ne different system.files

theorem file?_of_makeDirectory (made : before.makeDirectory path = .ok after) :
    after.file? other = before.file? other := by
  rw [makeDirectory] at made
  split at made
  · cases made
    rfl
  split at made
  · cases made
  split at made
  · cases made
  · cases made
    rfl

theorem file?_of_write (different : other ≠ path) (wrote : before.write path content = .ok after) :
    after.file? other = before.file? other := by
  rw [write] at wrote
  split at wrote
  · cases wrote
  split at wrote
  · cases wrote
  split at wrote
  · cases wrote
  · cases wrote
    exact file?_place_other different before content

theorem file?_of_rename
    {source : String} (notSource : other ≠ source) (notPath : other ≠ path)
    (renamed : before.rename source path = .ok after) :
    after.file? other = before.file? other := by
  rw [rename] at renamed
  split at renamed
  · cases renamed
  split at renamed
  · cases renamed
  split at renamed
  · cases renamed
  · cases renamed
    rw [file?_place_other notPath, file?_remove_other notSource]

theorem leaves_change
    {step : FileSystem → Except FileError FileSystem}
    (leaves : ∀ before after, step before = .ok after → after.file? path = before.file? path) :
    Leaves path (change step) := by
  intro before
  have read : (get : FileM FileSystem).run.run before = (.ok before, before) := rfl
  rw [change, run_bind_of_ok read]
  cases stepped : step before with
  | error error =>
      rfl
  | ok after =>
      exact leaves before after stepped

theorem Leaves.bind
    {Value Image : Type} {step : FileM Value} {next : Value → FileM Image}
    (leaves : Leaves path step) (leavesNext : ∀ value, Leaves path (next value)) :
    Leaves path (step >>= next) := by
  intro before
  have left := leaves before
  cases stepped : step.run.run before with
  | mk outcome between =>
      rw [stepped] at left
      cases outcome with
      | error error =>
          rw [run_bind_of_error stepped]
          exact left
      | ok value =>
          rw [run_bind_of_ok stepped, leavesNext value between]
          exact left

/-- Replacing a file leaves every file alone but that one and the temporary one beside it. -/
theorem leaves_replaceFile
    (notPath : other ≠ path) (notTemporary : other ≠ temporaryPath path)
    (content : FileContent) :
    Leaves other (replaceFile path content) := by
  have renames :
      Leaves other
        (do
          change fun system => system.write (temporaryPath path) content
          change fun system => system.rename (temporaryPath path) path) := by
    refine (leaves_change ?_).bind fun _ => leaves_change ?_
    · intro before after wrote
      exact file?_of_write notTemporary wrote
    · intro before after renamed
      exact file?_of_rename notTemporary notPath renamed
  intro before
  have read : (get : FileM FileSystem).run.run before = (.ok before, before) := rfl
  rw [replaceFile, run_bind_of_ok read]
  split
  · refine (Leaves.bind (leaves_change ?_) fun _ => renames) before
    intro earlier later made
    exact file?_of_makeDirectory made
  · exact renames before

end Changes

end FileSystem

namespace Handle

/-- Writing a handle to its file leaves every other file alone, but for the temporary one. -/
theorem file?_persist
    {handle : Handle} {path other : String} (onPath : handle.path = some path)
    (notPath : other ≠ path) (notTemporary : other ≠ FileSystem.temporaryPath path)
    (files : FileSystem) :
    (handle.persist files).2.file? other = files.file? other := by
  rw [persist, onPath]
  dsimp only
  split
  · rfl
  · cases handle.connection.content with
    | error error =>
        rfl
    | ok content =>
        have leaves := FileSystem.leaves_replaceFile notPath notTemporary content files
        dsimp only
        rw [← leaves]
        cases (FileSystem.replaceFile path content).run.run files with
        | mk outcome after =>
            cases outcome <;> rfl

end Handle

/-! ## Marks -/

/-- On a handle with these tables the step creates and loses no table, and it marks the handle if it
changes anything. -/
def MarksOn {Value : Type} (step : HandleM Value) (path : Option String) (dirty : Bool)
    (tables : Tables) (lastKey : Int) : Prop :=
  ∃ outcome dirtyAfter tablesAfter lastKeyAfter,
    step.run.run (writing path dirty ⟨tables, lastKey, none⟩) =
        (outcome, writing path dirtyAfter ⟨tablesAfter, lastKeyAfter, none⟩) ∧
      SameSchema tables tablesAfter ∧
      (dirtyAfter = true ∨ dirtyAfter = dirty ∧ tablesAfter = tables)

/-- The step marks every handle on which it changes anything, and it creates and loses no table. -/
def Marks {Value : Type} (step : HandleM Value) : Prop :=
  ∀ path dirty tables lastKey, MarksOn step path dirty tables lastKey

theorem marksOn_of_error
    {Value : Type} {step : HandleM Value} {path : Option String} {dirty : Bool} {tables : Tables}
    {lastKey : Int} {error : StorageError}
    (failed :
      step.run.run (writing path dirty ⟨tables, lastKey, none⟩) =
        (.error error, writing path dirty ⟨tables, lastKey, none⟩)) :
    MarksOn step path dirty tables lastKey :=
  ⟨.error error, dirty, tables, lastKey, failed, .refl tables, Or.inr ⟨rfl, rfl⟩⟩

theorem marks_run
    {statement : Statement}
    (keeps :
      ∀ tables tablesAfter key?, statement tables = .ok (tablesAfter, key?) →
        SameSchema tables tablesAfter) :
    Marks (do let _ ← run statement) := by
  intro path dirty tables lastKey
  cases stepped : statement tables with
  | error error =>
      exact marksOn_of_error (run_bind_of_error (run_of_error path dirty _ stepped))
  | ok result =>
      obtain ⟨tablesAfter, key?⟩ := result
      exact
        ⟨.ok (), true, tablesAfter, _, run_bind_of_ok (run_of_ok path dirty _ stepped),
          keeps tables tablesAfter key? stepped, Or.inl rfl⟩

theorem marks_addSource (id? : Option Number) (name? : Option String) :
    Marks (CaseStore.addSource id? name?) := by
  apply marks_run
  intro tables tablesAfter key? accepted
  obtain ⟨caseTables, caseAfter, id, isCase, added, rfl⟩ := changeCase_eq_ok accepted
  obtain ⟨sources, rfl⟩ := CaseTables.addSource_eq_ok added
  exact .withCase isCase rfl

theorem marks_addFile (file : NewFile) : Marks (do let _ ← CaseStore.addFile file) := by
  apply marks_run
  intro tables tablesAfter key? accepted
  obtain ⟨caseTables, caseAfter, id, isCase, added, rfl⟩ := changeCase_eq_ok accepted
  rw [CaseTables.addFile_of_complete (CaseTables.addFile_eq_ok added)] at added
  obtain ⟨rfl, _⟩ := Prod.mk.inj (Except.ok.inj added)
  exact .withCase isCase rfl

theorem marks_addKeywordHit (fileId : Option Number) (list : Option String) :
    Marks (CaseStore.addKeywordHit fileId list) := by
  intro path dirty tables lastKey
  cases stepped : Tables.insertArtifact fileId tables with
  | error error =>
      exact marksOn_of_error (addKeywordHit_of_error list stepped)
  | ok result =>
      obtain ⟨between, key?⟩ := result
      obtain ⟨id, rfl⟩ := insertArtifact_eq_ok stepped
      obtain ⟨caseTables, caseAfter, _, isCase, added, rfl⟩ := changeCase_eq_ok stepped
      cases named :
          Tables.insertListName id list { tables with caseTables := some caseAfter } with
      | error error =>
          exact
            ⟨.error error, true, tables, id, addKeywordHit_of_unnamed stepped named,
              .refl tables, Or.inl rfl⟩
      | ok result =>
          obtain ⟨tablesAfter, row?⟩ := result
          obtain ⟨row, rfl⟩ := insertListName_eq_ok named
          obtain ⟨caseBetween, found, ended⟩ := bind_eq_ok named
          obtain rfl : caseAfter = caseBetween :=
            Option.some.inj (requireTables_eq_ok found)
          obtain ⟨rfl, _⟩ := Prod.mk.inj (Except.ok.inj ended)
          have sameGaps : caseAfter.gaps = caseTables.gaps := gaps_addArtifact added
          exact
            ⟨.ok (), true, _, row, addKeywordHit_of_accepted stepped named,
              .withCase isCase sameGaps, Or.inl rfl⟩

theorem marks_addOccurrence (added : NewOccurrence) :
    Marks
      (RepositoryStore.addOccurrence added.caseId added.sourceId added.hash added.path) := by
  cases normal : normalizeHash added.hash with
  | error error =>
      intro path dirty tables lastKey
      exact marksOn_of_error (addOccurrence_of_malformed normal _)
  | ok hash =>
      rw [addOccurrence_of_normal normal]
      apply marks_run
      intro tables tablesAfter key? accepted
      obtain ⟨repositoryTables, found, ended⟩ := bind_eq_ok accepted
      obtain ⟨rfl, _⟩ := Prod.mk.inj (Except.ok.inj ended)
      exact .withRepository (requireTables_eq_ok found) (gaps_add ..)

theorem WriterCall.marks_step (call : WriterCall) : Marks call.step := by
  cases call with
  | source id? name? =>
      exact marks_addSource id? name?
  | file added =>
      exact marks_addFile added
  | hit added =>
      exact marks_addKeywordHit added.fileId added.list
  | occurrence added =>
      exact marks_addOccurrence added

/-! ## Stores -/

namespace StoreKind

/-- Create the tables of the store. -/
def createTables : StoreKind → HandleM Unit
  | .ofCase => CaseStore.createTables
  | .ofRepository => RepositoryStore.createTables

/-- Create the tables of the store on a handle and use them. -/
def prepare : StoreKind → HandleId → WorkspaceM Unit
  | .ofCase => Workspace.initializeCase
  | .ofRepository => Workspace.initializeRepository

theorem createTables_eq (kind : StoreKind) : kind.createTables = runScript kind.script := by
  cases kind <;> rfl

theorem createTables_writing
    (kind : StoreKind) (path : Option String) (dirty : Bool) {tables : Tables} (lastKey : Int)
    (fits : kind.Fits tables) :
    ∃ tablesAfter lastKeyAfter,
      kind.createTables.run.run (writing path dirty ⟨tables, lastKey, none⟩) =
          (.ok (), writing path true ⟨tablesAfter, lastKeyAfter, none⟩) ∧
        kind.names ⊆ tablesAfter.names ∧ kind.Fits tablesAfter := by
  obtain ⟨outcome, tablesAfter, lastKeyAfter, executed, succeeds, _, _, has⟩ :=
    kind.exists_executeAll_script path dirty tables lastKey none
  obtain rfl := succeeds.mpr fits
  rw [createTables_eq]
  exact ⟨tablesAfter, lastKeyAfter, runScript_of_ok executed, has rfl⟩

end StoreKind

/-! ## What a handle holds -/

namespace Handle

/-- The handle writes to the path, no transaction is open, and the tables fit the store. -/
def WritesTo (kind : StoreKind) (handle : Handle) (path : String) : Prop :=
  ∃ dirty tables lastKey,
    handle = writing (some path) dirty ⟨tables, lastKey, none⟩ ∧ kind.Fits tables

/-- The handle writes to the path, and its tables fit the store. Once its store is prepared it has
the tables of the store, and its file holds what it shows unless it is marked. -/
def Holding (kind : StoreKind) (prepared : Prop) (path : String) (handle : Handle)
    (files : FileSystem) : Prop :=
  ∃ dirty tables lastKey,
    handle = writing (some path) dirty ⟨tables, lastKey, none⟩ ∧ kind.Fits tables ∧
      (prepared →
        kind.names ⊆ tables.names ∧
          (dirty = true ∨ files.file? path = some (.database tables)))

variable {kind : StoreKind} {prepared : Prop} {path : String} {handle : Handle}
variable {files after : FileSystem}

theorem Holding.of_marks
    {Value : Type} {step : HandleM Value} (marks : Marks step)
    (holding : Holding kind prepared path handle files) :
    Holding kind prepared path (step.run.run handle).2 files := by
  obtain ⟨dirty, tables, lastKey, rfl, fits, holds⟩ := holding
  obtain ⟨outcome, dirtyAfter, tablesAfter, lastKeyAfter, stepped, same, marked⟩ :=
    marks (some path) dirty tables lastKey
  rw [stepped]
  refine ⟨dirtyAfter, tablesAfter, lastKeyAfter, rfl, same.fits fits, ?_⟩
  intro isPrepared
  obtain ⟨has, kept⟩ := holds isPrepared
  refine ⟨List.Subset.trans has same.names_subset, ?_⟩
  rcases marked with isDirty | ⟨rfl, rfl⟩
  · exact Or.inl isDirty
  · exact kept

theorem Holding.createTables
    (holding : Holding kind prepared path handle files) (after : Prop) :
    Holding kind after path (kind.createTables.run.run handle).2 files := by
  obtain ⟨dirty, tables, lastKey, rfl, fits, _⟩ := holding
  obtain ⟨tablesAfter, lastKeyAfter, created, has, fitsAfter⟩ :=
    kind.createTables_writing (some path) dirty lastKey fits
  rw [created]
  exact ⟨true, tablesAfter, lastKeyAfter, rfl, fitsAfter, fun _ => ⟨has, Or.inl rfl⟩⟩

theorem Holding.of_same
    (holding : Holding kind prepared path handle files)
    (same : after.file? path = files.file? path) :
    Holding kind prepared path handle after := by
  obtain ⟨dirty, tables, lastKey, isHandle, fits, holds⟩ := holding
  refine ⟨dirty, tables, lastKey, isHandle, fits, ?_⟩
  rw [same]
  exact holds

theorem Holding.mono
    {fewer : Prop} (holding : Holding kind prepared path handle files)
    (implies : fewer → prepared) :
    Holding kind fewer path handle files := by
  obtain ⟨dirty, tables, lastKey, isHandle, fits, holds⟩ := holding
  exact ⟨dirty, tables, lastKey, isHandle, fits, fun isFewer => holds (implies isFewer)⟩

theorem persist_marked
    {tables : Tables} {lastKey : Int} {written : Handle}
    (persisted :
      (writing (some path) true ⟨tables, lastKey, none⟩).persist files = (.ok written, after)) :
    written = writing (some path) false ⟨tables, lastKey, none⟩ ∧
      after.file? path = some (.database tables) := by
  have copied :
      (writing (some path) true ⟨tables, lastKey, none⟩).connection.content =
        .ok (.database tables) :=
    rfl
  rw [persist] at persisted
  simp only [Bool.not_true, Bool.or_self, Bool.false_eq_true, if_false] at persisted
  rw [copied] at persisted
  cases replaced : (FileSystem.replaceFile path (.database tables)).run.run files with
  | mk outcome system =>
      simp only [replaced] at persisted
      cases outcome with
      | error error =>
          cases persisted
      | ok _ =>
          cases persisted
          exact ⟨rfl, FileSystem.file?_replaceFile replaced⟩

/-- Once it is written, the file of a store that is prepared holds its tables. -/
theorem Holding.persist_of_ok
    {written : Handle} (holding : Holding kind prepared path handle files)
    (persisted : handle.persist files = (.ok written, after)) :
    Holding kind prepared path written after ∧
      (prepared →
        ∃ tables,
          handle.connection.tables = .ok tables ∧ kind.names ⊆ tables.names ∧
            after.file? path = some (.database tables)) := by
  obtain ⟨dirty, tables, lastKey, rfl, fits, holds⟩ := holding
  have stands (isPrepared : prepared) :
      kind.names ⊆ tables.names ∧ after.file? path = some (.database tables) := by
    obtain ⟨has, kept⟩ := holds isPrepared
    refine ⟨has, ?_⟩
    cases dirty with
    | false =>
        rw [persist_clean rfl] at persisted
        cases persisted
        exact kept.resolve_left Bool.false_ne_true
    | true =>
        exact (persist_marked persisted).2
  constructor
  · refine ⟨false, tables, lastKey, ?_, fits, fun isPrepared => ?_⟩
    · cases dirty with
      | false =>
          rw [persist_clean rfl] at persisted
          cases persisted
          rfl
      | true =>
          exact (persist_marked persisted).1
    · obtain ⟨has, standing⟩ := stands isPrepared
      exact ⟨has, Or.inr standing⟩
  · intro isPrepared
    obtain ⟨has, standing⟩ := stands isPrepared
    exact ⟨tables, rfl, has, standing⟩

/-- A handle that could not be written stays marked. -/
theorem Holding.persist_of_error
    {error : StorageError} (holding : Holding kind prepared path handle files)
    (refused : handle.persist files = (.error error, after)) :
    Holding kind prepared path handle after := by
  obtain ⟨dirty, tables, lastKey, rfl, fits, holds⟩ := holding
  refine ⟨dirty, tables, lastKey, rfl, fits, fun isPrepared => ⟨(holds isPrepared).1, ?_⟩⟩
  cases dirty with
  | false =>
      rw [persist_clean rfl] at refused
      cases refused
  | true =>
      exact Or.inl rfl

end Handle

/-! ## Writing both stores -/

/-- The handles of the two stores and the paths that they write to. -/
structure Targets where
  caseId : HandleId
  casePath : String
  repositoryId : HandleId
  repositoryPath : String

/-- Something that is done with two stores while they are written. -/
inductive Ingestion where
  | prepare (kind : StoreKind)
  | call (call : WriterCall)
  | persist (kind : StoreKind)

/-- The store that the writer belongs to. -/
def WriterCall.kind : WriterCall → StoreKind
  | .occurrence _ => .ofRepository
  | _ => .ofCase

namespace Targets

def id (targets : Targets) : StoreKind → HandleId
  | .ofCase => targets.caseId
  | .ofRepository => targets.repositoryId

def path (targets : Targets) : StoreKind → String
  | .ofCase => targets.casePath
  | .ofRepository => targets.repositoryPath

/-- The stores on their handles. -/
def stores (targets : Targets) : StoreHandles :=
  ⟨some targets.caseId, some targets.repositoryId⟩

/-- The stores are written by two handles to two files, and neither file stands where the other is
written before it takes its place. -/
structure Apart (targets : Targets) : Prop where
  handles : targets.caseId ≠ targets.repositoryId
  paths : targets.casePath ≠ targets.repositoryPath
  caseFile : targets.casePath ≠ FileSystem.temporaryPath targets.repositoryPath
  repositoryFile : targets.repositoryPath ≠ FileSystem.temporaryPath targets.casePath

/-- Every store is on a handle that writes to its path, with tables that fit the store. -/
def Open (targets : Targets) (workspace : Workspace) : Prop :=
  ∀ kind, (workspace.handle (targets.id kind)).WritesTo kind (targets.path kind)

/-- What is done, on the handles of the stores. -/
def step (targets : Targets) : Ingestion → WorkspaceM Unit
  | .prepare kind => kind.prepare (targets.id kind)
  | .call writer => writer.onStores targets.stores
  | .persist kind => Workspace.withFiles Handle.persist (targets.id kind)

/-- The workspace after everything that was done, whether it succeeded or failed. -/
def run (targets : Targets) (workspace : Workspace) (events : List Ingestion) : Workspace :=
  events.foldl (fun between event => ((targets.step event).run.run between).2) workspace

/-- Close the handles of both stores, one after the other. -/
def closeBoth (targets : Targets) (first last : StoreKind) : WorkspaceM Unit := do
  Workspace.withFiles Handle.close (targets.id first)
  Workspace.withFiles Handle.close (targets.id last)

end Targets

namespace Targets

variable {targets : Targets} {workspace : Workspace} {prepared : StoreKind → Prop}
variable {kind other : StoreKind}

theorem Apart.id_ne (apart : targets.Apart) (different : other ≠ kind) :
    targets.id kind ≠ targets.id other := by
  cases kind <;> cases other
  · exact absurd rfl different
  · exact apart.handles
  · exact apart.handles.symm
  · exact absurd rfl different

theorem Apart.path_ne (apart : targets.Apart) (different : other ≠ kind) :
    targets.path other ≠ targets.path kind := by
  cases kind <;> cases other
  · exact absurd rfl different
  · exact apart.paths.symm
  · exact apart.paths
  · exact absurd rfl different

theorem Apart.path_ne_temporary (apart : targets.Apart) (different : other ≠ kind) :
    targets.path other ≠ FileSystem.temporaryPath (targets.path kind) := by
  cases kind <;> cases other
  · exact absurd rfl different
  · exact apart.repositoryFile
  · exact apart.caseFile
  · exact absurd rfl different

/-- What is known about the handles of the stores, some of which are prepared. -/
def Held (targets : Targets) (prepared : StoreKind → Prop) (workspace : Workspace) : Prop :=
  ∀ kind,
    Holding kind (prepared kind) (targets.path kind) (workspace.handle (targets.id kind))
      workspace.files

theorem Held.mono
    {fewer : StoreKind → Prop} (held : targets.Held prepared workspace)
    (implies : ∀ kind, fewer kind → prepared kind) :
    targets.Held fewer workspace :=
  fun kind => (held kind).mono (implies kind)

theorem held_of_open (areOpen : targets.Open workspace) :
    targets.Held (fun _ => False) workspace := by
  intro kind
  obtain ⟨dirty, tables, lastKey, isHandle, fits⟩ := areOpen kind
  exact ⟨dirty, tables, lastKey, isHandle, fits, False.elim⟩

theorem Held.lt_length (held : targets.Held prepared workspace) (kind : StoreKind) :
    targets.id kind < workspace.handles.length := by
  obtain ⟨dirty, tables, lastKey, isHandle, _⟩ := held kind
  exact Workspace.lt_length_of_idleOn ⟨_, dirty, lastKey, isHandle⟩

/-- A step on the handle of one store does not touch what is known about the other, unless it
changes the file of the other. -/
theorem Held.update
    {preparedAfter : StoreKind → Prop} {handle : Handle} {after : Workspace}
    (held : targets.Held prepared workspace) (apart : targets.Apart)
    (handles : after.handles = (workspace.setHandle (targets.id kind) handle).handles)
    (elsewhere :
      ∀ path, path ≠ targets.path kind → path ≠ FileSystem.temporaryPath (targets.path kind) →
        after.files.file? path = workspace.files.file? path)
    (holding : Holding kind (preparedAfter kind) (targets.path kind) handle after.files)
    (same : ∀ other, other ≠ kind → (preparedAfter other ↔ prepared other)) :
    targets.Held preparedAfter after := by
  intro other
  have sameHandle :
      after.handle (targets.id other) =
        (workspace.setHandle (targets.id kind) handle).handle (targets.id other) := by
    rw [Workspace.handle, Workspace.handle, handles]
  rw [sameHandle]
  -- the other store has another handle, and its file is not written
  by_cases isKind : other = kind
  · subst isKind
    rw [Workspace.handle_setHandle_of_lt (held.lt_length other)]
    exact holding
  · rw [Workspace.handle_setHandle_other (apart.id_ne isKind), same other isKind]
    exact
      (held other).of_same (elsewhere _ (apart.path_ne isKind) (apart.path_ne_temporary isKind))

theorem onStores_eq_onHandle (targets : Targets) (call : WriterCall) :
    call.onStores targets.stores = Workspace.onHandle (targets.id call.kind) call.step := by
  cases call with
  | source id? name? =>
      exact Recording.onCase_eq_onHandle (some targets.repositoryId) _
  | file added =>
      exact Recording.onCase_eq_onHandle (some targets.repositoryId) _
  | hit added =>
      exact Recording.onCase_eq_onHandle (some targets.repositoryId) _
  | occurrence added =>
      exact Recording.onRepository_storesOn _

theorem Held.call
    (held : targets.Held prepared workspace) (apart : targets.Apart) (call : WriterCall) :
    targets.Held prepared ((targets.step (.call call)).run.run workspace).2 := by
  rw [step, onStores_eq_onHandle, Workspace.onHandle_after]
  refine held.update apart rfl (fun _ _ _ => rfl) ?_ fun _ _ => Iff.rfl
  exact (held call.kind).of_marks call.marks_step

/-- Preparing a store on a handle that writes creates the tables there and changes no file. -/
theorem prepare_after
    {id : HandleId} {path : String} (writes : (workspace.handle id).WritesTo kind path) :
    ((kind.prepare id).run.run workspace).2.handles =
        (workspace.setHandle id (kind.createTables.run.run (workspace.handle id)).2).handles ∧
      ((kind.prepare id).run.run workspace).2.files = workspace.files := by
  obtain ⟨dirty, tables, lastKey, isHandle, fits⟩ := writes
  obtain ⟨tablesAfter, lastKeyAfter, created, _⟩ :=
    kind.createTables_writing (some path) dirty lastKey fits
  rw [← isHandle] at created
  cases kind with
  | ofCase =>
      have ran :
          (Workspace.initializeCase id).run.run workspace = (.ok (), _) :=
        Recording.initialize_ran (Workspace.withCase · id) "CaseDatabase initialized" created
      rw [StoreKind.prepare, ran, created]
      exact ⟨rfl, rfl⟩
  | ofRepository =>
      have ran :
          (Workspace.initializeRepository id).run.run workspace = (.ok (), _) :=
        Recording.initialize_ran (Workspace.withRepository · id) "CentralRepository initialized"
          created
      rw [StoreKind.prepare, ran, created]
      exact ⟨rfl, rfl⟩

theorem Held.prepare
    (held : targets.Held prepared workspace) (apart : targets.Apart) (kind : StoreKind) :
    targets.Held (fun other => prepared other ∨ other = kind)
      ((targets.step (.prepare kind)).run.run workspace).2 := by
  have writes : (workspace.handle (targets.id kind)).WritesTo kind (targets.path kind) := by
    obtain ⟨dirty, tables, lastKey, isHandle, fits, _⟩ := held kind
    exact ⟨dirty, tables, lastKey, isHandle, fits⟩
  obtain ⟨handles, files⟩ := @prepare_after workspace kind _ _ writes
  rw [step]
  refine held.update apart handles ?_ ?_ ?_
  · intro path _ _
    rw [files]
  · rw [files]
    exact (held kind).createTables _
  · intro other different
    exact or_iff_left different

theorem Held.persist
    (held : targets.Held prepared workspace) (apart : targets.Apart) (kind : StoreKind) :
    targets.Held prepared ((targets.step (.persist kind)).run.run workspace).2 := by
  have onPath : (workspace.handle (targets.id kind)).path = some (targets.path kind) := by
    obtain ⟨_, _, _, isHandle, _⟩ := held kind
    rw [isHandle]
  have elsewhere (other : String) (notPath : other ≠ targets.path kind)
      (notTemporary : other ≠ FileSystem.temporaryPath (targets.path kind)) :=
    file?_persist onPath notPath notTemporary workspace.files
  rw [step]
  cases persisted : (workspace.handle (targets.id kind)).persist workspace.files with
  | mk outcome files =>
      rw [persisted] at elsewhere
      cases outcome with
      | error error =>
          rw [Workspace.withFiles_of_error persisted]
          refine
            held.update apart ?_ elsewhere ((held kind).persist_of_error persisted) fun _ _ =>
              Iff.rfl
          rw [Workspace.setHandle_handle]
      | ok written =>
          rw [Workspace.withFiles_of_ok persisted]
          exact
            held.update apart rfl elsewhere ((held kind).persist_of_ok persisted).1 fun _ _ =>
              Iff.rfl

/-- Everything that is done with the stores keeps what is known, and what was prepared stays
prepared. -/
theorem Held.after
    (held : targets.Held prepared workspace) (apart : targets.Apart) (event : Ingestion) :
    targets.Held (fun kind => prepared kind ∨ event = .prepare kind)
      ((targets.step event).run.run workspace).2 := by
  cases event with
  | prepare kind =>
      refine (held.prepare apart kind).mono ?_
      rintro other (before | same)
      · exact Or.inl before
      · exact Or.inr (Ingestion.prepare.inj same).symm
  | call call =>
      refine (held.call apart call).mono ?_
      rintro kind (before | same)
      · exact before
      · cases same
  | persist kind =>
      refine (held.persist apart kind).mono ?_
      rintro other (before | same)
      · exact before
      · cases same

theorem Held.run
    (held : targets.Held prepared workspace) (apart : targets.Apart) (events : List Ingestion) :
    targets.Held (fun kind => prepared kind ∨ .prepare kind ∈ events)
      (targets.run workspace events) := by
  -- what is prepared grows with the events, so it is general in the induction
  induction events generalizing prepared workspace with
  | nil =>
      exact held.mono fun kind isPrepared => isPrepared.resolve_right List.not_mem_nil
  | cons event events inductionHypothesis =>
      refine (inductionHypothesis (held.after apart event)).mono ?_
      rintro kind (before | member)
      · exact Or.inl (Or.inl before)
      rcases List.mem_cons.mp member with isFirst | later
      · exact Or.inl (Or.inr isFirst.symm)
      · exact Or.inr later

/-! ## Closing both -/

theorem close_stands
    {handle closed : Handle} {path : String} {files after : FileSystem}
    (holding : Holding kind True path handle files)
    (closes : handle.close files = (.ok closed, after)) :
    (∃ tables,
        handle.connection.tables = .ok tables ∧ kind.names ⊆ tables.names ∧
          after.file? path = some (.database tables)) ∧
      ∀ elsewhere, elsewhere ≠ path → elsewhere ≠ FileSystem.temporaryPath path →
        after.file? elsewhere = files.file? elsewhere := by
  obtain ⟨written, persisted, _⟩ := close_eq_ok_iff.mp closes
  refine ⟨(holding.persist_of_ok persisted).2 trivial, ?_⟩
  intro elsewhere notPath notTemporary
  have onPath : handle.path = some path := by
    obtain ⟨_, _, _, isHandle, _⟩ := holding
    rw [isHandle]
  have same := file?_persist onPath notPath notTemporary files
  rw [persisted] at same
  exact same

/-- Once the handles of both stores are closed, both files hold what the handles showed. -/
theorem Held.closeBoth
    {first last : StoreKind} {closed : Workspace}
    (held : targets.Held (fun _ => True) workspace) (apart : targets.Apart)
    (different : first ≠ last)
    (closes : (targets.closeBoth first last).run.run workspace = (.ok (), closed))
    (kind : StoreKind) :
    ∃ tables,
      (workspace.handle (targets.id kind)).connection.tables = .ok tables ∧
        kind.names ⊆ tables.names ∧
        closed.files.file? (targets.path kind) = some (.database tables) := by
  obtain ⟨_, between, firstCloses, rest⟩ := run_bind_eq_ok closes
  obtain ⟨firstClosed, firstFiles, firstStep, rfl⟩ := Workspace.withFiles_eq_ok firstCloses
  obtain ⟨lastClosed, lastFiles, lastStep, rfl⟩ := Workspace.withFiles_eq_ok rest
  obtain ⟨⟨firstTables, firstShown, firstHas, firstStands⟩, firstLeaves⟩ :=
    close_stands (held first) firstStep
  -- the second handle is closed on what the first one left
  have sameHandle :
      (workspace.setHandle (targets.id first) firstClosed).handle (targets.id last) =
        workspace.handle (targets.id last) :=
    Workspace.handle_setHandle_other (apart.id_ne different.symm) firstClosed
  have lastCloses :
      (workspace.handle (targets.id last)).close firstFiles = (.ok lastClosed, lastFiles) := by
    rw [← sameHandle]
    exact lastStep
  have lastHolding : Holding last True (targets.path last) (workspace.handle (targets.id last))
      firstFiles := by
    apply (held last).of_same
    exact
      firstLeaves _ (apart.path_ne different.symm) (apart.path_ne_temporary different.symm)
  obtain ⟨lastStands, lastLeaves⟩ := close_stands lastHolding lastCloses
  by_cases isLast : kind = last
  · subst isLast
    exact lastStands
  · have isFirst : kind = first := by
      cases kind <;> cases first <;> cases last <;> simp_all
    subst isFirst
    refine ⟨firstTables, firstShown, firstHas, ?_⟩
    rw [← firstStands]
    exact lastLeaves _ (apart.path_ne different) (apart.path_ne_temporary different)

end Targets

end EvidenceSearch
