import EvidenceSearch.Proofs.Server.Calls
import EvidenceSearch.Proofs.Storage.Guarding

/-!
# Starting the server

A server starts exactly if its settings, its file types and its case can be used. It works with a
central repository exactly if the repository can be used too. Nothing else about the repository
matters to it: a repository that is refused is closed again, and a search that asks for no
frequency gets the same response with any repository and without one.
-/

namespace EvidenceSearch

open Handle

/-- The variable is set and not blank, and this is the path that it means. -/
def Environment.Names (environment : Environment) (key path : String) : Prop :=
  ∃ value,
    List.lookup key environment = some value ∧ trim value ≠ "" ∧ Path.resolve (trim value) = path

theorem Environment.names_iff {environment : Environment} {key path : String} :
    environment.Names key path ↔ environment.path? key = some path := by
  rw [Names, path?, text?]
  cases List.lookup key environment with
  | none =>
      simp
  | some value =>
      by_cases blank : trim value = "" <;> simp [blank]

/-! ## What a file shows -/

/-- The content is that of a database with these tables: bytes are as long as the head of a
database file, start as one does, and can be read. -/
inductive FileContent.Shows : FileContent → Tables → Prop
  | database (tables : Tables) : Shows (.database tables) tables
  | bytes {content : ByteArray} {image : DatabaseImage}
      (longEnough : DatabaseImage.headerLength ≤ content.size)
      (headed : (content.extract 0 databaseHeader.length).toList = databaseHeader)
      (readable : DatabaseImage.ofBytes content = .ok image) :
      Shows (.bytes content) image.tables

/-- The file at the path shows a database with all these tables. -/
def FileSystem.HasTables (files : FileSystem) (path : String) (wanted : List String) : Prop :=
  ∃ content tables,
    files.file? path = some content ∧ content.Shows tables ∧ ∀ name ∈ wanted, name ∈ tables.names

theorem FileContent.shows_iff {content : FileContent} {path : String} {tables : Tables} :
    content.Shows tables ↔
      ∃ connection, connectTo path content = .ok connection ∧ connection.tables = .ok tables := by
  constructor
  · intro shows
    cases shows with
    | database =>
        exact ⟨.fresh tables, rfl, rfl⟩
    | @bytes content image longEnough headed readable =>
        refine ⟨.fresh image.tables, ?_, rfl⟩
        rw [connectTo, if_neg (Nat.not_lt.mpr longEnough), if_neg (not_not.mpr headed), readable]
  · rintro ⟨connection, connected, shown⟩
    cases content with
    | database stored =>
        obtain rfl := Except.ok.inj connected
        obtain rfl := Except.ok.inj shown
        exact .database _
    | bytes content =>
        rw [connectTo] at connected
        split at connected
        · cases connected
        rename_i longEnough
        split at connected
        · cases connected
        rename_i headed
        cases readable : DatabaseImage.ofBytes content with
        | error fault =>
            rw [readable] at connected
            obtain rfl := Except.ok.inj connected
            cases shown
        | ok image =>
            rw [readable] at connected
            obtain rfl := Except.ok.inj connected
            obtain rfl := Except.ok.inj shown
            exact .bytes (Nat.le_of_not_lt longEnough) (not_not.mp headed) readable

/-- The file has the tables if the handle that is opened to read it has them. -/
theorem FileSystem.hasTables_iff {files : FileSystem} {path : String} {wanted : List String} :
    files.HasTables path wanted ↔
      ∃ handle, openFile files path true = .ok handle ∧ handle.HasTables wanted := by
  constructor
  · rintro ⟨content, tables, stands, shows, has⟩
    obtain ⟨connection, connected, shown⟩ := FileContent.shows_iff.mp shows
    have opened := openFile_readOnly_eq_ok_iff.mpr ⟨content, connection, stands, connected, rfl⟩
    exact ⟨_, opened, tables, shown, has⟩
  · rintro ⟨handle, opened, tables, shown, has⟩
    obtain ⟨content, connection, stands, connected, rfl⟩ := openFile_readOnly_eq_ok_iff.mp opened
    exact ⟨content, tables, stands, FileContent.shows_iff.mpr ⟨connection, connected, shown⟩, has⟩

namespace ServerContext

open Workspace

/-! ## Finding the central repository -/

/-- What the search for a central repository leaves: its handle if it can be used, and no other
that is open. -/
structure Found (path? : Option String) (before : Workspace) (id? : Option HandleId)
    (after : Workspace) : Prop where
  files : after.files = before.files
  kept : ∀ id, id < before.handles.length → after.handle id = before.handle id
  closed :
    ∀ id, before.handles.length ≤ id → id? ≠ some id → (after.handle id).connection = .closed
  usable_iff :
    id?.isSome ↔
      ∃ path, path? = some path ∧ before.files.HasTables path RepositoryTables.names
  opened :
    ∀ id, id? = some id →
      before.handles.length ≤ id ∧
        ∃ path, path? = some path ∧ openFile before.files path true = .ok (after.handle id)

section Finding

variable {workspace after : Workspace} {path : String} {handle : Handle} {id : HandleId}

theorem openRepository_of_hasTables
    (isOpened : openFile workspace.files path true = .ok handle)
    (has : handle.HasTables RepositoryTables.names) :
    (openRepository path).run.run workspace =
      (.ok workspace.handles.length,
        (workspace.added handle).noted "CentralRepository attached") := by
  let answer : Except HandleId HandleId := .error workspace.handles.length
  rw [← handle_added_self workspace handle] at has
  rw [openRepository, run_bind_of_ok (openHandle_of_ok isOpened)]
  -- the answer leaves the block that catches errors early
  refine @run_bind_of_ok _ _ _ _ _ _ _ answer _ ?_
  exact run_tryCatch_of_ok (run_bind_of_ok (checkRepository_of_hasTables has))

theorem openRepository_of_not_hasTables
    (isOpened : openFile workspace.files path true = .ok handle)
    (hasNot : ¬ handle.HasTables RepositoryTables.names) :
    ∃ error,
      (openRepository path).run.run workspace =
        (.error error,
          (workspace.added handle).setHandle workspace.handles.length (handle.shutIf true)) := by
  have guarded : ((workspace.added handle).handle workspace.handles.length).readOnly = true := by
    obtain ⟨_, _, _, _, rfl⟩ := openFile_readOnly_eq_ok_iff.mp isOpened
    rw [handle_added_self]
  have closed := Workspace.close_of_readOnly guarded
  rw [← handle_added_self workspace handle] at hasNot
  obtain ⟨error, failed⟩ := checkRepository_of_not_hasTables hasNot
  rw [handle_added_self] at closed
  refine ⟨.storage error, ?_⟩
  rw [openRepository, run_bind_of_ok (openHandle_of_ok isOpened)]
  apply run_bind_of_error
  rw [run_tryCatch_of_error (run_bind_of_error failed), run_bind_of_ok closed]
  rfl

theorem findRepository_of_ok
    (opened : (openRepository path).run.run workspace = (.ok id, after)) :
    (findRepository (some path)).run.run workspace = (.ok (some id), after) := by
  let answer : Except (Option HandleId) (Option HandleId) := .error (some id)
  refine @run_bind_of_ok _ _ _ _ _ _ _ answer _ ?_
  exact run_tryCatch_of_ok (run_bind_of_ok opened)

/-- An error costs only the repository. -/
theorem findRepository_of_error
    {error : WorkspaceError}
    (failed : (openRepository path).run.run workspace = (.error error, after)) :
    ∃ noted,
      (findRepository (some path)).run.run workspace = (.ok none, noted) ∧
        SameData noted after := by
  let answer : Except (Option HandleId) (Option HandleId) := .error none
  apply Exists.intro
  constructor
  · apply @run_bind_of_ok _ _ _ _ _ _ _ answer
    exact run_tryCatch_of_error (run_bind_of_error failed)
  · exact ⟨rfl, rfl⟩

variable {path? : Option String}

theorem found_of_same
    (unusable :
      ¬ ∃ path, path? = some path ∧ workspace.files.HasTables path RepositoryTables.names)
    (same : SameData after workspace) :
    Found path? workspace none after := by
  refine ⟨same.files, fun id _ => same.handle id, ?_, iff_of_false nofun unusable, nofun⟩
  intro id unopened _
  rw [same.handle]
  exact connection_of_le unopened

theorem found_of_shut
    (unusable :
      ¬ ∃ path, path? = some path ∧ workspace.files.HasTables path RepositoryTables.names)
    (same :
      SameData after
        ((workspace.added handle).setHandle workspace.handles.length (handle.shutIf true))) :
    Found path? workspace none after := by
  refine ⟨same.files, ?_, ?_, iff_of_false nofun unusable, nofun⟩
  · intro id before
    have different := Nat.ne_of_lt before
    rw [same.handle, handle_setHandle_other different.symm, handle_added_other different]
  · intro id unopened _
    rw [same.handle]
    by_cases isId : workspace.handles.length = id
    · have isNew : workspace.handles.length < (workspace.added handle).handles.length := by
        rw [added, List.length_append]
        exact Nat.lt_succ_self _
      rw [← isId, handle_setHandle_of_lt isNew]
      rfl
    · rw [handle_setHandle_other isId, handle_added_other (Ne.symm isId)]
      exact connection_of_le unopened

theorem found_of_opened
    (isOpened : openFile workspace.files path true = .ok handle)
    (has : handle.HasTables RepositoryTables.names)
    (same : SameData after (workspace.added handle)) :
    Found (some path) workspace (some workspace.handles.length) after := by
  have usable := FileSystem.hasTables_iff.mpr ⟨handle, isOpened, has⟩
  refine ⟨same.files, ?_, ?_, iff_of_true rfl ⟨path, rfl, usable⟩, ?_⟩
  · intro id before
    rw [same.handle, handle_added_other (Nat.ne_of_lt before)]
  · intro id unopened notFound
    have different : id ≠ workspace.handles.length :=
      fun isId => notFound (congrArg some isId.symm)
    rw [same.handle, handle_added_other different]
    exact connection_of_le unopened
  · intro id isId
    obtain rfl := Option.some.inj isId
    refine ⟨Nat.le_refl _, path, rfl, ?_⟩
    rw [same.handle, handle_added_self, isOpened]

end Finding

/-- The search for a central repository never fails. -/
theorem exists_findRepository (path? : Option String) (workspace : Workspace) :
    ∃ id? after,
      (findRepository path?).run.run workspace = (.ok id?, after) ∧
        Found path? workspace id? after := by
  cases path? with
  | none =>
      have unusable :
          ¬ ∃ path, none = some path ∧ workspace.files.HasTables path RepositoryTables.names := by
        simp
      exact ⟨none, _, rfl, found_of_same unusable ⟨rfl, rfl⟩⟩
  | some path =>
      cases isOpened : openFile workspace.files path true with
      | error error =>
          have unusable :
              ¬ ∃ named, some path = some named ∧
                workspace.files.HasTables named RepositoryTables.names := by
            rintro ⟨_, ⟨rfl⟩, usable⟩
            obtain ⟨handle, opened, _⟩ := FileSystem.hasTables_iff.mp usable
            rw [isOpened] at opened
            cases opened
          have failed :
              (openRepository path).run.run workspace = (.error (.storage error), workspace) :=
            run_bind_of_error (openHandle_of_error isOpened)
          obtain ⟨after, ran, same⟩ := findRepository_of_error failed
          exact ⟨none, after, ran, found_of_same unusable same⟩
      | ok handle =>
          by_cases has : handle.HasTables RepositoryTables.names
          · have ran := findRepository_of_ok (openRepository_of_hasTables isOpened has)
            exact ⟨_, _, ran, found_of_opened isOpened has ⟨rfl, rfl⟩⟩
          · -- the handle that was opened for it is closed again
            have unusable :
                ¬ ∃ named, some path = some named ∧
                  workspace.files.HasTables named RepositoryTables.names := by
              rintro ⟨_, ⟨rfl⟩, usable⟩
              obtain ⟨other, opened, hasOther⟩ := FileSystem.hasTables_iff.mp usable
              rw [isOpened] at opened
              obtain rfl := Except.ok.inj opened
              exact has hasOther
            obtain ⟨error, failed⟩ := openRepository_of_not_hasTables isOpened has
            obtain ⟨after, ran, same⟩ := findRepository_of_error failed
            exact ⟨none, after, ran, found_of_shut unusable same⟩

/-! ## Starting -/

/-- The central repository that the environment names can be used. -/
def HasRepository (environment : Environment) (files : FileSystem) : Prop :=
  ∃ path,
    environment.Names "CENTRAL_REPO_DB_PATH" path ∧ files.HasTables path RepositoryTables.names

/-- What a server needs: settings that can be read, file types, and a case. -/
structure CanServe (environment : Environment) (files : FileSystem) : Prop where
  settings : ∃ settings, environment.settings = .ok settings
  fileTypes : ∃ types, FileType.load files environment.storeSettings.fileTypes = .ok types
  openCase :
    ∃ path, environment.Names "CASE_DB_PATH" path ∧ files.HasTables path CaseTables.names

/-- What holds of a server that started. -/
structure Started (environment : Environment) (before : Workspace) (context : ServerContext)
    (after : Workspace) : Prop where
  settings : environment.settings = .ok context.settings
  fileTypes :
    FileType.load before.files environment.storeSettings.fileTypes = .ok context.fileTypes
  openCase :
    ∃ id path,
      context.stores.caseHandle = some id ∧ environment.path? "CASE_DB_PATH" = some path ∧
        openFile before.files path true = .ok (after.handle id)
  repository :
    ∀ id, context.stores.repositoryHandle = some id →
      ∃ path,
        environment.path? "CENTRAL_REPO_DB_PATH" = some path ∧
          openFile before.files path true = .ok (after.handle id)
  hasRepository_iff : context.hasRepository = true ↔ HasRepository environment before.files
  databases :
    context.databases =
      context.stores.caseHandle.toList ++ context.stores.repositoryHandle.toList
  distinct : context.databases.Nodup
  /-- Every other handle that was opened is closed again. -/
  closed :
    ∀ id, before.handles.length ≤ id → id ∉ context.databases →
      (after.handle id).connection = .closed
  kept : ∀ id, id < before.handles.length → after.handle id = before.handle id
  files : after.files = before.files

section Starting

variable {environment : Environment} {workspace after : Workspace} {context : ServerContext}

theorem settings_eq_ok {settings : Settings} (areSettings : environment.settings = .ok settings) :
    settings.stores = environment.storeSettings ∧
      environment.searchOptions = .ok settings.search := by
  obtain ⟨search, isSearch, ended⟩ := bind_eq_ok areSettings
  obtain rfl := Except.ok.inj ended
  exact ⟨rfl, isSearch⟩

theorem requireSettings_of_ok
    {settings : Settings} (areSettings : environment.settings = .ok settings) :
    (requireSettings environment).run.run workspace = (.ok settings, workspace) := by
  rw [requireSettings, areSettings]
  rfl

theorem requireSettings_eq_ok
    {settings : Settings}
    (required : (requireSettings environment).run.run workspace = (.ok settings, after)) :
    environment.settings = .ok settings ∧ after = workspace := by
  rw [requireSettings] at required
  cases areSettings : environment.settings with
  | error problems =>
      rw [areSettings] at required
      cases required
  | ok read =>
      rw [areSettings] at required
      cases required
      exact ⟨rfl, rfl⟩

theorem loadFileTypes_of_ok
    {source : FileTypeSource} {types : List FileType}
    (loaded : FileType.load workspace.files source = .ok types) :
    (loadFileTypes source).run.run workspace =
      (.ok types,
        workspace.noted ("Loaded " ++ toString types.length ++ " file type categories")) := by
  simp [loadFileTypes, loaded]

theorem loadFileTypes_eq_ok
    {source : FileTypeSource} {types : List FileType}
    (ran : (loadFileTypes source).run.run workspace = (.ok types, after)) :
    FileType.load workspace.files source = .ok types ∧ after.files = workspace.files := by
  cases loaded : FileType.load workspace.files source with
  | error error =>
      rw [loadFileTypes, run_get_bind, loaded] at ran
      cases ran
  | ok read =>
      rw [loadFileTypes_of_ok loaded] at ran
      cases ran
      exact ⟨rfl, rfl⟩

/-- A case on a new handle and what the search for a repository found make a server. -/
theorem started_of_found
    {settings : Settings} {types : List FileType} {path : String} {handle : Handle}
    {afterCase : Workspace} {repository? : Option HandleId}
    (areSettings : environment.settings = .ok settings)
    (loaded : FileType.load workspace.files environment.storeSettings.fileTypes = .ok types)
    (isPath : environment.path? "CASE_DB_PATH" = some path)
    (isOpened : openFile workspace.files path true = .ok handle)
    (same : SameData afterCase (workspace.added handle))
    (found : Found (environment.path? "CENTRAL_REPO_DB_PATH") afterCase repository? after) :
    Started environment workspace
      ⟨settings, ⟨some workspace.handles.length, repository?⟩, types,
        workspace.handles.length :: repository?.toList⟩
      after := by
  have opened : afterCase.handles.length = workspace.handles.length + 1 := by
    rw [same.handles]
    exact List.length_append
  have keepsCase : after.handle workspace.handles.length = handle := by
    rw [found.kept _ (by omega), same.handle, handle_added_self]
  refine
    ⟨areSettings, loaded, ?openCase, ?repository, ?hasRepository_iff, rfl, ?distinct, ?closed,
      ?kept, found.files.trans same.files⟩
  case openCase =>
    refine ⟨workspace.handles.length, path, rfl, isPath, ?_⟩
    rw [keepsCase, isOpened]
  case repository =>
    intro id isId
    obtain ⟨_, repositoryPath, named, isRepository⟩ := found.opened id isId
    rw [same.files] at isRepository
    exact ⟨repositoryPath, named, isRepository⟩
  case hasRepository_iff =>
    have usable_iff := found.usable_iff
    rw [same.files] at usable_iff
    simp only [HasRepository, Environment.names_iff]
    exact usable_iff
  case distinct =>
    cases repository? with
    | none =>
        exact List.nodup_singleton _
    | some id =>
        have later := (found.opened id rfl).1
        have different : workspace.handles.length ≠ id := by
          omega
        simp [different]
  case closed =>
    intro id unopened notListed
    obtain ⟨notCase, notRepository⟩ := not_or.mp (mt List.mem_cons.mpr notListed)
    apply found.closed id
    · omega
    · intro isRepository
      exact notRepository (Option.mem_toList.mpr isRepository)
  case kept =>
    intro id before
    rw [found.kept id (by omega), same.handle]
    exact handle_added_other (Nat.ne_of_lt before) handle

theorem exists_create (can : CanServe environment workspace.files) :
    ∃ context after,
      (create environment).run.run workspace = (.ok context, after) ∧
        Started environment workspace context after := by
  obtain ⟨settings, areSettings⟩ := can.settings
  obtain ⟨types, loaded⟩ := can.fileTypes
  obtain ⟨path, named, usable⟩ := can.openCase
  have isPath := Environment.names_iff.mp named
  obtain ⟨handle, isOpened, has⟩ := FileSystem.hasTables_iff.mp usable
  have areStores := (settings_eq_ok areSettings).1
  have isCasePath : settings.stores.casePath = some path := by
    rw [areStores]
    exact isPath
  have isRepositoryPath :
      settings.stores.repositoryPath = environment.path? "CENTRAL_REPO_DB_PATH" := by
    rw [areStores]
    rfl
  have typesLoaded : FileType.load workspace.files settings.stores.fileTypes = .ok types := by
    rw [areStores]
    exact loaded
  let afterTypes := workspace.noted ("Loaded " ++ toString types.length ++ " file type categories")
  let afterCase := (afterTypes.added handle).noted "CaseDatabase attached"
  have caseOpened :
      (openHandle (some path) true).run.run afterTypes =
        (.ok workspace.handles.length, afterTypes.added handle) :=
    openHandle_of_ok isOpened
  have checked :
      (checkCase workspace.handles.length).run.run (afterTypes.added handle) =
        (.ok (), afterCase) := by
    apply checkCase_of_hasTables
    rw [← handle_added_self afterTypes handle] at has
    exact has
  obtain ⟨repository?, after, searched, found⟩ :=
    exists_findRepository settings.stores.repositoryPath afterCase
  refine
    ⟨⟨settings, ⟨some workspace.handles.length, repository?⟩, types,
      workspace.handles.length :: repository?.toList⟩, after, ?_, ?_⟩
  · rw [create, run_bind_of_ok (requireSettings_of_ok areSettings), isCasePath]
    dsimp only
    rw [run_bind_of_ok (loadFileTypes_of_ok typesLoaded), run_bind_of_ok caseOpened,
      run_bind_of_ok checked, run_bind_of_ok searched]
    rfl
  · have same : SameData afterCase (workspace.added handle) := ⟨rfl, rfl⟩
    rw [isRepositoryPath] at found
    exact started_of_found areSettings loaded isPath isOpened same found

theorem canServe_of_create
    (created : (create environment).run.run workspace = (.ok context, after)) :
    CanServe environment workspace.files := by
  rw [create] at created
  obtain ⟨settings, _, required, rest⟩ := run_bind_eq_ok created
  obtain ⟨areSettings, rfl⟩ := requireSettings_eq_ok required
  have areStores := (settings_eq_ok areSettings).1
  cases isCasePath : settings.stores.casePath with
  | none =>
      rw [isCasePath] at rest
      cases rest
  | some path =>
      rw [isCasePath] at rest
      obtain ⟨types, afterTypes, ran, rest⟩ := run_bind_eq_ok rest
      obtain ⟨loaded, sameFiles⟩ := loadFileTypes_eq_ok ran
      obtain ⟨id, afterCase, opened, rest⟩ := run_bind_eq_ok rest
      obtain ⟨_, _, checked, _⟩ := run_bind_eq_ok rest
      rw [areStores] at loaded isCasePath
      have named := Environment.names_iff.mpr isCasePath
      refine ⟨⟨settings, areSettings⟩, ⟨types, loaded⟩, path, named, ?_⟩
      rw [← sameFiles, FileSystem.hasTables_iff]
      cases isOpened : openFile afterTypes.files path true with
      | error error =>
          rw [openHandle_of_error isOpened] at opened
          cases opened
      | ok handle =>
          rw [openHandle_of_ok isOpened] at opened
          cases opened
          refine ⟨handle, rfl, ?_⟩
          by_contra hasNot
          rw [← handle_added_self afterTypes handle] at hasNot
          obtain ⟨error, failed⟩ := checkCase_of_not_hasTables hasNot
          rw [failed] at checked
          cases checked

theorem started_of_create
    (created : (create environment).run.run workspace = (.ok context, after)) :
    Started environment workspace context after := by
  obtain ⟨other, otherAfter, createdOther, started⟩ := exists_create (canServe_of_create created)
  rw [created] at createdOther
  cases createdOther
  exact started

theorem Started.length_databases (started : Started environment workspace context after) :
    context.databases.length = if context.hasRepository then 2 else 1 := by
  obtain ⟨id, _, isCase, _, _⟩ := started.openCase
  rw [started.databases, isCase, hasRepository]
  cases context.stores.repositoryHandle <;> rfl

end Starting

/-! ## Two servers that differ in the repository -/

/-- The environments differ in no variable but the path of the central repository, and the files
that stand for the case and for the file types are the same, if there are any. -/
structure DifferInRepository (left : Environment) (leftFiles : FileSystem) (right : Environment)
    (rightFiles : FileSystem) : Prop where
  values :
    ∀ key, key ≠ "CENTRAL_REPO_DB_PATH" → List.lookup key left = List.lookup key right
  caseFile :
    ∀ path, left.path? "CASE_DB_PATH" = some path → leftFiles.file? path = rightFiles.file? path
  typesFile :
    ∀ path, left.path? "FILE_TYPES_PATH" = some path → leftFiles.file? path = rightFiles.file? path

/-- The response to a call of a tool after other requests were answered. -/
def responseAfter (context : ServerContext) (earlier : List ServerRequest) (name : String)
    (arguments : Option Json) (workspace : Workspace) : Except WorkspaceError ToolResponse :=
  ((context.call name arguments).run.run
    ((context.replyAll earlier).run.run workspace).2).1

theorem responseAfter_eq
    (context : ServerContext) (earlier : List ServerRequest) (name : String)
    (arguments : Option Json) (workspace : Workspace) :
    context.responseAfter earlier name arguments workspace =
      ((context.call name arguments).run.run workspace).1 :=
  (looks_call context name arguments).agrees ((looks_replyAll context earlier).keeps workspace)

theorem openFile_readOnly_congr
    {left right : FileSystem} {path : String} {handle : Handle}
    (same : left.file? path = right.file? path) (opened : openFile left path true = .ok handle) :
    openFile right path true = .ok handle := by
  obtain ⟨content, connection, stands, connected, isHandle⟩ :=
    openFile_readOnly_eq_ok_iff.mp opened
  rw [same] at stands
  exact openFile_readOnly_eq_ok_iff.mpr ⟨content, connection, stands, connected, isHandle⟩

section TwoEnvironments

variable {left right : Environment} {leftFiles rightFiles : FileSystem}

theorem load_congr
    {source : FileTypeSource} {types : List FileType}
    (same : ∀ path, source = .file path → leftFiles.file? path = rightFiles.file? path)
    (loaded : FileType.load leftFiles source = .ok types) :
    FileType.load rightFiles source = .ok types := by
  cases source with
  | bundled =>
      exact loaded
  | file path =>
      rw [FileType.load] at loaded
      cases isRead : leftFiles.read path with
      | error error =>
          rw [isRead] at loaded
          cases loaded
      | ok content =>
          have stands := read_eq_ok_iff.mp isRead
          rw [same path rfl] at stands
          rw [isRead] at loaded
          rw [FileType.load, read_eq_ok_iff.mpr stands]
          exact loaded

variable (differ : DifferInRepository left leftFiles right rightFiles)
include differ

theorem DifferInRepository.path?_eq {key : String} (notRepository : key ≠ "CENTRAL_REPO_DB_PATH") :
    left.path? key = right.path? key := by
  rw [Environment.path?, Environment.path?, Environment.text?, Environment.text?,
    differ.values key notRepository]

theorem DifferInRepository.symm : DifferInRepository right rightFiles left leftFiles := by
  refine ⟨fun key notRepository => (differ.values key notRepository).symm, ?_, ?_⟩
  · intro path isPath
    rw [← differ.path?_eq (by decide)] at isPath
    exact (differ.caseFile path isPath).symm
  · intro path isPath
    rw [← differ.path?_eq (by decide)] at isPath
    exact (differ.typesFile path isPath).symm

theorem DifferInRepository.searchOptions_eq : left.searchOptions = right.searchOptions := by
  have sameWhole (key : String) (standard : Number) (notRepository : key ≠ "CENTRAL_REPO_DB_PATH") :
      left.whole key standard = right.whole key standard := by
    rw [Environment.whole, Environment.whole, Environment.text?, Environment.text?,
      differ.values key notRepository]
  rw [Environment.searchOptions, Environment.searchOptions, Environment.thresholds,
    Environment.thresholds, Environment.concurrency, Environment.concurrency,
    sameWhole "FREQUENCY_UNIQUE_MAX_COUNT" _ (by decide),
    sameWhole "FREQUENCY_RARE_MAX_COUNT" _ (by decide),
    sameWhole "ENRICHMENT_CONCURRENCY" _ (by decide)]

theorem DifferInRepository.fileTypes_eq :
    left.storeSettings.fileTypes = right.storeSettings.fileTypes := by
  rw [Environment.storeSettings, Environment.storeSettings]
  have samePath : left.path? "FILE_TYPES_PATH" = right.path? "FILE_TYPES_PATH" :=
    differ.path?_eq (by decide)
  rw [samePath]

theorem DifferInRepository.load_eq_ok
    {types : List FileType}
    (loaded : FileType.load leftFiles left.storeSettings.fileTypes = .ok types) :
    FileType.load rightFiles right.storeSettings.fileTypes = .ok types := by
  rw [← differ.fileTypes_eq]
  refine load_congr ?_ loaded
  intro path isSource
  apply differ.typesFile
  rw [Environment.storeSettings] at isSource
  cases named : left.path? "FILE_TYPES_PATH" with
  | none =>
      rw [named] at isSource
      cases isSource
  | some other =>
      rw [named] at isSource
      exact congrArg some (FileTypeSource.file.inj isSource)

theorem DifferInRepository.canServe (can : CanServe left leftFiles) :
    CanServe right rightFiles := by
  obtain ⟨settings, areSettings⟩ := can.settings
  obtain ⟨types, loaded⟩ := can.fileTypes
  obtain ⟨path, named, content, tables, stands, shows, has⟩ := can.openCase
  have isPath := Environment.names_iff.mp named
  refine ⟨⟨⟨right.storeSettings, settings.search⟩, ?_⟩, ⟨types, differ.load_eq_ok loaded⟩, path,
    ?_, content, tables, ?_, shows, has⟩
  · rw [Environment.settings, ← differ.searchOptions_eq, (settings_eq_ok areSettings).2]
    rfl
  · rw [Environment.names_iff, ← differ.path?_eq (by decide)]
    exact isPath
  · rw [← differ.caseFile path isPath]
    exact stands

end TwoEnvironments

/-- Two servers that differ in nothing but the repository answer every search alike that asks for
no frequency. -/
theorem DifferInRepository.response_eq
    {left right : Environment} {leftBefore rightBefore leftAfter rightAfter : Workspace}
    {leftServer rightServer : ServerContext}
    (differ : DifferInRepository left leftBefore.files right rightBefore.files)
    (leftStarted : Started left leftBefore leftServer leftAfter)
    (rightStarted : Started right rightBefore rightServer rightAfter)
    {arguments : Option Json} (noFrequency : AsksNoFrequency arguments)
    (leftEarlier rightEarlier : List ServerRequest) :
    leftServer.responseAfter leftEarlier "search_files" arguments leftAfter =
      rightServer.responseAfter rightEarlier "search_files" arguments rightAfter := by
  obtain ⟨leftId, path, isLeft, isPath, leftOpened⟩ := leftStarted.openCase
  obtain ⟨rightId, rightPath, isRight, isRightPath, rightOpened⟩ := rightStarted.openCase
  have samePath : path = rightPath := by
    rw [differ.path?_eq (by decide), isRightPath] at isPath
    exact (Option.some.inj isPath).symm
  subst samePath
  have reopened := openFile_readOnly_congr (differ.caseFile path isPath) leftOpened
  have sameHandle : leftAfter.handle leftId = rightAfter.handle rightId := by
    rw [rightOpened] at reopened
    exact (Except.ok.inj reopened).symm
  have sameCase : SameCase leftAfter leftServer.stores rightAfter rightServer.stores :=
    ⟨leftId, rightId, isLeft, isRight, congrArg (·.connection.tables) sameHandle⟩
  have sameTypes : leftServer.fileTypes = rightServer.fileTypes := by
    have reloaded := differ.load_eq_ok leftStarted.fileTypes
    rw [rightStarted.fileTypes] at reloaded
    exact (Except.ok.inj reloaded).symm
  have sameOptions : leftServer.settings.search = rightServer.settings.search := by
    have leftOptions := (settings_eq_ok leftStarted.settings).2
    rw [differ.searchOptions_eq, (settings_eq_ok rightStarted.settings).2] at leftOptions
    exact (Except.ok.inj leftOptions).symm
  rw [responseAfter_eq, responseAfter_eq]
  exact searchCall_congr sameCase sameTypes sameOptions noFrequency

/-- A server starts exactly if its settings, file types and case can be used. It has a repository
exactly if that can be used, and holds one more database then. Any other server that differs from it
in nothing but the repository starts too, and it gives the same response to every search that asks
for no frequency. -/
theorem create_needs_no_repository (environment : Environment) (workspace : Workspace) :
    ((∃ context after, (create environment).run.run workspace = (.ok context, after)) ↔
        CanServe environment workspace.files) ∧
      ∀ context after, (create environment).run.run workspace = (.ok context, after) →
        Started environment workspace context after ∧
          context.databases.length = (if context.hasRepository then 2 else 1) ∧
          ∀ other otherBefore,
            DifferInRepository environment workspace.files other otherBefore.files →
            ∃ otherContext otherAfter,
              (create other).run.run otherBefore = (.ok otherContext, otherAfter) ∧
                ∀ arguments, AsksNoFrequency arguments →
                  ∀ earlier otherEarlier,
                    otherContext.responseAfter otherEarlier "search_files" arguments otherAfter =
                      context.responseAfter earlier "search_files" arguments after := by
  constructor
  · constructor
    · rintro ⟨context, after, created⟩
      exact canServe_of_create created
    · intro can
      obtain ⟨context, after, created, _⟩ := exists_create can
      exact ⟨context, after, created⟩
  · intro context after created
    have started := started_of_create created
    refine ⟨started, started.length_databases, ?_⟩
    intro other otherBefore differ
    obtain ⟨otherContext, otherAfter, otherCreated, otherStarted⟩ :=
      exists_create (differ.canServe (canServe_of_create created))
    refine ⟨otherContext, otherAfter, otherCreated, ?_⟩
    intro arguments noFrequency earlier otherEarlier
    exact differ.symm.response_eq otherStarted started noFrequency otherEarlier earlier

/-- An environment that names a case and a repository. -/
def bothPaths : Environment :=
  [("CASE_DB_PATH", "/case.db"), ("CENTRAL_REPO_DB_PATH", "/repo.db")]

/-- A case without files beside a file for the repository. -/
def caseBeside (repository : FileContent) : Workspace :=
  { files :=
      { files :=
          [("/case.db", .database { caseTables := some .empty }), ("/repo.db", repository)] } }

/-- Without a byte a repository can not be used; with its tables it can. -/
theorem emptyRepository_costs_no_search :
    ∃ context after other otherAfter,
      (create bothPaths).run.run (caseBeside (.bytes .empty)) = (.ok context, after) ∧
        (create bothPaths).run.run (caseBeside (.database { repositoryTables := some .empty })) =
          (.ok other, otherAfter) ∧
        (context.hasRepository = false ∧ context.databases.length = 1) ∧
        (other.hasRepository = true ∧ other.databases.length = 2) ∧
        ∀ earlier otherEarlier,
          other.responseAfter otherEarlier "search_files" none otherAfter =
            context.responseAfter earlier "search_files" none after := by
  let poor := caseBeside (.bytes .empty)
  let rich := caseBeside (.database { repositoryTables := some .empty })
  have casePath : bothPaths.Names "CASE_DB_PATH" "/case.db" := ⟨"/case.db", rfl, by decide, rfl⟩
  have repositoryPath : bothPaths.Names "CENTRAL_REPO_DB_PATH" "/repo.db" :=
    ⟨"/repo.db", rfl, by decide, rfl⟩
  have differ : DifferInRepository bothPaths poor.files bothPaths rich.files := by
    refine ⟨fun _ _ => rfl, ?_, ?_⟩
    · rintro path ⟨rfl⟩
      rfl
    · rintro path ⟨⟩
  have hasCase : poor.files.HasTables "/case.db" CaseTables.names :=
    ⟨_, _, rfl, .database _, by decide⟩
  have can : CanServe bothPaths poor.files :=
    ⟨⟨_, rfl⟩, ⟨_, rfl⟩, "/case.db", casePath, hasCase⟩
  obtain ⟨starts, holds⟩ := create_needs_no_repository bothPaths poor
  obtain ⟨context, after, created⟩ := starts.mpr can
  obtain ⟨started, counted, alike⟩ := holds context after created
  obtain ⟨other, otherAfter, otherCreated, answers⟩ := alike bothPaths rich differ
  obtain ⟨otherStarted, otherCounted, _⟩ :=
    (create_needs_no_repository bothPaths rich).2 other otherAfter otherCreated
  have hasNone : context.hasRepository = false := by
    rw [Bool.eq_false_iff, Ne, started.hasRepository_iff]
    rintro ⟨path, named, content, tables, stands, shows, _⟩
    rw [Environment.names_iff] at named
    obtain rfl : "/repo.db" = path := Option.some.inj named
    obtain rfl : .bytes .empty = content := Option.some.inj stands
    cases shows with
    | bytes longEnough =>
        exact absurd longEnough (by decide)
  have hasOne : other.hasRepository = true := by
    rw [otherStarted.hasRepository_iff]
    exact ⟨"/repo.db", repositoryPath, _, _, rfl, .database _, by decide⟩
  rw [hasNone] at counted
  rw [hasOne] at otherCounted
  exact
    ⟨context, after, other, otherAfter, created, otherCreated, ⟨hasNone, counted⟩,
      ⟨hasOne, otherCounted⟩, answers none (asksNoFrequency_of_absent rfl)⟩

end ServerContext
end EvidenceSearch
