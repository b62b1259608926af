import EvidenceSearch.Proofs.Server.Starting
import EvidenceSearch.Proofs.Storage.Ingesting

/-!
# Serving what was written

Two stores are written to two files and closed. A server that starts on these files has the case
and the central repository, and every call of a tool gets the response that it would have got on
the stores themselves just before they were closed.
-/

namespace EvidenceSearch

namespace ServerContext

/-- A server on the stores as they are while they are written. -/
def onLive (targets : Targets) (settings : Settings) (types : List FileType) : ServerContext :=
  ⟨settings, targets.stores, types, [targets.caseId, targets.repositoryId]⟩

section Serving

variable {environment : Environment} {before after : Workspace} {context : ServerContext}

theorem tables_of_openFile
    {files : FileSystem} {path : String} {handle : Handle} {tables : Tables}
    (stands : files.file? path = some (.database tables))
    (opened : Handle.openFile files path true = .ok handle) :
    handle.connection.tables = .ok tables := by
  obtain ⟨content, connection, standing, connected, rfl⟩ :=
    Handle.openFile_readOnly_eq_ok_iff.mp opened
  rw [stands] at standing
  obtain rfl := Option.some.inj standing
  obtain rfl := Except.ok.inj connected
  rfl

/-- The case of a server that started shows the tables in the file that the environment names. -/
theorem Started.caseTables
    {path : String} {tables : Tables} (started : Started environment before context after)
    (named : environment.Names "CASE_DB_PATH" path)
    (stands : before.files.file? path = some (.database tables)) :
    ∃ id,
      context.stores.caseHandle = some id ∧ (after.handle id).connection.tables = .ok tables := by
  obtain ⟨id, other, isCase, isPath, opened⟩ := started.openCase
  rw [Environment.names_iff, isPath] at named
  obtain rfl := Option.some.inj named
  exact ⟨id, isCase, tables_of_openFile stands opened⟩

theorem Started.repositoryTables
    {path : String} {tables : Tables} (started : Started environment before context after)
    (named : environment.Names "CENTRAL_REPO_DB_PATH" path)
    (stands : before.files.file? path = some (.database tables))
    (has : ∀ name ∈ RepositoryTables.names, name ∈ tables.names) :
    context.hasRepository = true ∧
      ∃ id,
        context.stores.repositoryHandle = some id ∧
          (after.handle id).connection.tables = .ok tables := by
  have hasRepository : context.hasRepository = true := by
    rw [started.hasRepository_iff]
    exact ⟨path, named, _, tables, stands, .database tables, has⟩
  refine ⟨hasRepository, ?_⟩
  obtain ⟨id, isRepository⟩ := Option.isSome_iff_exists.mp hasRepository
  obtain ⟨other, isPath, opened⟩ := started.repository id isRepository
  rw [Environment.names_iff, isPath] at named
  obtain rfl := Option.some.inj named
  exact ⟨id, isRepository, tables_of_openFile stands opened⟩

end Serving

/-- Two stores are prepared on two handles that write to two files, and written in any way; some of
what is done may fail. Once both handles are closed, a server that is given these files starts with
a central repository, and to every call of a tool it gives the response that the stores themselves
would have given just before they were closed. -/
theorem create_serves_what_was_written
    {targets : Targets} (apart : targets.Apart) {workspace : Workspace}
    (areOpen : targets.Open workspace) {events : List Ingestion}
    (prepared : ∀ kind, .prepare kind ∈ events) {first last : StoreKind} (both : first ≠ last)
    {closed : Workspace}
    (closes :
      (targets.closeBoth first last).run.run (targets.run workspace events) = (.ok (), closed))
    {environment : Environment} {settings : Settings} {types : List FileType} {served : Workspace}
    (sameFiles : served.files = closed.files) (areSettings : environment.settings = .ok settings)
    (loaded : FileType.load served.files settings.stores.fileTypes = .ok types)
    (caseNamed : environment.Names "CASE_DB_PATH" targets.casePath)
    (repositoryNamed : environment.Names "CENTRAL_REPO_DB_PATH" targets.repositoryPath) :
    ∃ context after,
      (create environment).run.run served = (.ok context, after) ∧
        context.hasRepository = true ∧
        ∀ earlier name arguments,
          context.responseAfter earlier name arguments after =
            (((onLive targets settings types).call name arguments).run.run
              (targets.run workspace events)).1 := by
  have held : targets.Held (fun _ => True) (targets.run workspace events) :=
    ((Targets.held_of_open areOpen).run apart events).mono fun kind _ => Or.inr (prepared kind)
  obtain ⟨caseTables, caseShown, hasCase, caseStands⟩ :=
    held.closeBoth apart both closes .ofCase
  obtain ⟨repositoryTables, repositoryShown, hasRepository, repositoryStands⟩ :=
    held.closeBoth apart both closes .ofRepository
  rw [← sameFiles] at caseStands repositoryStands
  have areStores := (settings_eq_ok areSettings).1
  rw [areStores] at loaded
  have usable : served.files.HasTables targets.casePath CaseTables.names :=
    ⟨_, caseTables, caseStands, .database caseTables, fun _ member => hasCase member⟩
  have can : CanServe environment served.files :=
    ⟨⟨settings, areSettings⟩, ⟨types, loaded⟩, targets.casePath, caseNamed, usable⟩
  obtain ⟨context, after, created, started⟩ := exists_create can
  obtain ⟨caseId, isCase, caseServed⟩ := started.caseTables caseNamed caseStands
  obtain ⟨isServed, repositoryId, isRepository, repositoryServed⟩ :=
    started.repositoryTables repositoryNamed repositoryStands fun _ member => hasRepository member
  have sameCase :
      Workspace.SameCase after context.stores (targets.run workspace events) targets.stores :=
    ⟨caseId, targets.caseId, isCase, rfl, caseServed.trans caseShown.symm⟩
  have sameRepository :
      Workspace.SameRepository after context.stores (targets.run workspace events)
        targets.stores :=
    ⟨repositoryId, targets.repositoryId, isRepository, rfl,
      repositoryServed.trans repositoryShown.symm⟩
  have sameTypes : context.fileTypes = types := by
    have reloaded := started.fileTypes
    rw [loaded] at reloaded
    exact (Except.ok.inj reloaded).symm
  have sameSettings : context.settings = settings := by
    have reread := started.settings
    rw [areSettings] at reread
    exact (Except.ok.inj reread).symm
  refine ⟨context, after, created, isServed, ?_⟩
  intro earlier name arguments
  rw [responseAfter_eq]
  exact
    @call_congr_of_sameTables context (onLive targets settings types) _ _ sameCase sameTypes
      sameRepository (congrArg Settings.search sameSettings) name arguments

/-! ## A case and a repository in one directory -/

/-- Handles of two new databases, the first for a case. -/
def newDatabases (repositoryPath : String) : Workspace :=
  { files := ⟨[], ["/t"]⟩
    handles :=
      [⟨some "/t/a.db", false, false, .fresh .empty⟩,
        ⟨some repositoryPath, false, false, .fresh .empty⟩] }

def databaseTargets (repositoryPath : String) : Targets :=
  ⟨0, "/t/a.db", 1, repositoryPath⟩

def databasePaths (repositoryPath : String) : Environment :=
  [("CASE_DB_PATH", "/t/a.db"), ("CENTRAL_REPO_DB_PATH", repositoryPath)]

theorem open_newDatabases (repositoryPath : String) :
    (databaseTargets repositoryPath).Open (newDatabases repositoryPath) := by
  intro kind
  cases kind with
  | ofCase =>
      exact ⟨false, .empty, 0, rfl, by decide⟩
  | ofRepository =>
      exact ⟨false, .empty, 0, rfl, by decide⟩

theorem named_case (repositoryPath : String) :
    (databasePaths repositoryPath).Names "CASE_DB_PATH" "/t/a.db" :=
  ⟨"/t/a.db", rfl, by decide, rfl⟩

/-- A file that is added, hits in it, and an occurrence of its hash; a malformed hash is refused,
and the case is written in between. -/
def smallHistory : List Ingestion :=
  [.prepare .ofCase, .prepare .ofRepository, .call (.source (some (.finite 1)) (some "disk")),
    .call
      (.file
        { name := some "a", parentPath := some "/", size := some (.finite 5)
          sourceId := some (.finite 1), mediaType := none
          hash := some "d41d8cd98f00b204e9800998ecf8427e" }),
    .persist .ofCase, .call (.hit ⟨some (.finite 1), some "words"⟩),
    .call (.occurrence ⟨some (.finite 1), some (.finite 1), "abc", some "/a"⟩),
    .call
      (.occurrence
        ⟨some (.finite 1), some (.finite 1), "D41D8CD98F00B204E9800998ECF8427E", some "/a"⟩)]

theorem smallHistory_served :
    ∃ closed context after,
      ((databaseTargets "/t/r.db").closeBoth .ofCase .ofRepository).run.run
            ((databaseTargets "/t/r.db").run (newDatabases "/t/r.db") smallHistory) =
          (.ok (), closed) ∧
        (create (databasePaths "/t/r.db")).run.run closed = (.ok context, after) ∧
        context.hasRepository = true ∧
        ∀ earlier name arguments,
          context.responseAfter earlier name arguments after =
            (((onLive (databaseTargets "/t/r.db")
                  ⟨(databasePaths "/t/r.db").storeSettings, .standard⟩ FileType.bundled).call name
                arguments).run.run
              ((databaseTargets "/t/r.db").run (newDatabases "/t/r.db") smallHistory)).1 := by
  have apart : (databaseTargets "/t/r.db").Apart := ⟨by decide, by decide, by decide, by decide⟩
  have prepared : ∀ kind, Ingestion.prepare kind ∈ smallHistory := by
    intro kind
    cases kind with
    | ofCase =>
        exact List.mem_cons_self
    | ofRepository =>
        exact List.mem_cons_of_mem _ List.mem_cons_self
  have closesBoth :
      (((databaseTargets "/t/r.db").closeBoth .ofCase .ofRepository).run.run
          ((databaseTargets "/t/r.db").run (newDatabases "/t/r.db") smallHistory)).1 =
        .ok () := by
    decide +kernel
  obtain ⟨closed, closes⟩ := exists_eq_of_fst closesBoth
  have named : (databasePaths "/t/r.db").Names "CENTRAL_REPO_DB_PATH" "/t/r.db" :=
    ⟨"/t/r.db", rfl, by decide, rfl⟩
  have areSettings :
      (databasePaths "/t/r.db").settings =
        .ok ⟨(databasePaths "/t/r.db").storeSettings, .standard⟩ :=
    rfl
  have loaded (files : FileSystem) :
      FileType.load files (databasePaths "/t/r.db").storeSettings.fileTypes =
        .ok FileType.bundled :=
    rfl
  have both : StoreKind.ofCase ≠ .ofRepository := nofun
  have sameFiles : closed.files = closed.files := Eq.refl _
  obtain ⟨context, after, created, serves⟩ :=
    create_serves_what_was_written apart (open_newDatabases "/t/r.db") prepared both closes
      sameFiles areSettings (loaded closed.files) (named_case "/t/r.db") named
  exact ⟨closed, context, after, closes, created, serves⟩

/-- Prepare both stores and close them, the repository first. -/
def preparedAndClosed (repositoryPath : String) : Except WorkspaceError Unit × Workspace :=
  ((databaseTargets repositoryPath).closeBoth .ofRepository .ofCase).run.run
    ((databaseTargets repositoryPath).run (newDatabases repositoryPath)
      [.prepare .ofCase, .prepare .ofRepository])

/-- A case and a repository are prepared and closed, and a server that is given their files starts
without a repository. -/
def LosesRepository (repositoryPath : String) : Prop :=
  (databaseTargets repositoryPath).Open (newDatabases repositoryPath) ∧
    (databasePaths repositoryPath).Names "CASE_DB_PATH" "/t/a.db" ∧
    (databasePaths repositoryPath).Names "CENTRAL_REPO_DB_PATH" repositoryPath ∧
    ∃ closed context after,
      preparedAndClosed repositoryPath = (.ok (), closed) ∧
        (create (databasePaths repositoryPath)).run.run closed = (.ok context, after) ∧
        context.hasRepository = false

theorem losesRepository_of_not_hasTables
    {repositoryPath : String} {closed : Workspace}
    (named : (databasePaths repositoryPath).Names "CENTRAL_REPO_DB_PATH" repositoryPath)
    (closes : preparedAndClosed repositoryPath = (.ok (), closed))
    (caseStands : closed.files.file? "/t/a.db" = some (.database { caseTables := some .empty }))
    (lost : ¬ closed.files.HasTables repositoryPath RepositoryTables.names) :
    LosesRepository repositoryPath := by
  have hasCase : closed.files.HasTables "/t/a.db" CaseTables.names :=
    ⟨_, _, caseStands, .database _, by decide⟩
  have can : CanServe (databasePaths repositoryPath) closed.files :=
    ⟨⟨_, rfl⟩, ⟨_, rfl⟩, "/t/a.db", named_case repositoryPath, hasCase⟩
  obtain ⟨context, after, created, started⟩ := exists_create can
  refine
    ⟨open_newDatabases repositoryPath, named_case repositoryPath, named, closed, context, after,
      closes, created, ?_⟩
  rw [Bool.eq_false_iff, Ne, started.hasRepository_iff]
  rintro ⟨path, isPath, usable⟩
  rw [Environment.names_iff] at isPath named
  rw [named] at isPath
  obtain rfl := Option.some.inj isPath
  exact lost usable

/-- What the repository left at its path is gone once the case is closed: the case is first written
to that path, or is written there in the end. -/
theorem repository_lost_to_case : LosesRepository "/t/a.db.tmp" ∧ LosesRepository "/t/a.db" := by
  constructor
  · have closesBoth : (preparedAndClosed "/t/a.db.tmp").1 = .ok () := by
      decide +kernel
    have caseStands :
        (preparedAndClosed "/t/a.db.tmp").2.files.file? "/t/a.db" =
          some (.database { caseTables := some .empty }) := by
      decide +kernel
    have gone : (preparedAndClosed "/t/a.db.tmp").2.files.file? "/t/a.db.tmp" = none := by
      decide +kernel
    obtain ⟨closed, closes⟩ := exists_eq_of_fst closesBoth
    rw [closes] at caseStands gone
    have named : (databasePaths "/t/a.db.tmp").Names "CENTRAL_REPO_DB_PATH" "/t/a.db.tmp" :=
      ⟨"/t/a.db.tmp", rfl, by decide, rfl⟩
    refine losesRepository_of_not_hasTables named closes caseStands ?_
    rintro ⟨content, _, stands, _⟩
    rw [gone] at stands
    cases stands
  · have closesBoth : (preparedAndClosed "/t/a.db").1 = .ok () := by
      decide +kernel
    have caseStands :
        (preparedAndClosed "/t/a.db").2.files.file? "/t/a.db" =
          some (.database { caseTables := some .empty }) := by
      decide +kernel
    obtain ⟨closed, closes⟩ := exists_eq_of_fst closesBoth
    rw [closes] at caseStands
    have named : (databasePaths "/t/a.db").Names "CENTRAL_REPO_DB_PATH" "/t/a.db" :=
      ⟨"/t/a.db", rfl, by decide, rfl⟩
    refine losesRepository_of_not_hasTables named closes caseStands ?_
    rintro ⟨content, tables, stands, shows, has⟩
    rw [caseStands] at stands
    obtain rfl := Option.some.inj stands
    cases shows
    exact absurd (has "file_instances" (by decide)) (by decide)

end ServerContext
end EvidenceSearch
