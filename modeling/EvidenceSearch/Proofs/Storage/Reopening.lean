import EvidenceSearch.Proofs.Steps
import EvidenceSearch.Storage.Handle

/-!
# What opening a file again shows

Opening a path depends only on what stands at that path. Once a database has been written to it,
opening it shows the tables that were written.
-/

namespace EvidenceSearch

namespace FileSystem

theorem file?_place (system : FileSystem) (path : String) (content : FileContent) :
    (system.place path content).file? path = some content := by
  rw [file?, place]
  exact List.lookup_cons_self

theorem change_eq_ok
    {step : FileSystem → Except FileError FileSystem} {before after : FileSystem}
    (changed : (change step).run.run before = (.ok (), after)) :
    step before = .ok after := by
  have read : (get : FileM FileSystem).run.run before = (.ok before, before) := rfl
  rw [change, run_bind_of_ok read] at changed
  cases stepped : step before with
  | error error =>
      rw [stepped] at changed
      cases changed
  | ok system =>
      rw [stepped] at changed
      cases changed
      rfl

/-- A file that was replaced holds what was written. -/
theorem file?_replaceFile
    {path : String} {content : FileContent} {before after : FileSystem}
    (replaced : (replaceFile path content).run.run before = (.ok (), after)) :
    after.file? path = some content := by
  have renames :
      ∃ between : FileSystem,
        (do
            change fun system => system.write (temporaryPath path) content
            change fun system => system.rename (temporaryPath path) path : FileM Unit).run.run
          between = (.ok (), after) := by
    have read : (get : FileM FileSystem).run.run before = (.ok before, before) := rfl
    rw [replaceFile, run_bind_of_ok read] at replaced
    split at replaced
    · obtain ⟨_, between, _, ended⟩ := run_bind_eq_ok replaced
      exact ⟨between, ended⟩
    · exact ⟨before, replaced⟩
  obtain ⟨between, ended⟩ := renames
  obtain ⟨_, written, wrote, renamed⟩ := run_bind_eq_ok ended
  have written_eq := change_eq_ok wrote
  have renamed_eq := change_eq_ok renamed
  rw [FileSystem.write] at written_eq
  split at written_eq
  · cases written_eq
  split at written_eq
  · cases written_eq
  split at written_eq
  · cases written_eq
  obtain rfl := Except.ok.inj written_eq
  rw [rename, file?_place] at renamed_eq
  simp only at renamed_eq
  split at renamed_eq
  · cases renamed_eq
  split at renamed_eq
  · cases renamed_eq
  obtain rfl := Except.ok.inj renamed_eq
  exact file?_place _ _ _

deriving instance DecidableEq for FileContent

/-- The same stands at a path in both: the same file or none, and a directory or none. -/
def AgreeAt (path : String) (left right : FileSystem) : Prop :=
  left.file? path = right.file? path ∧ left.isDirectory path = right.isDirectory path

instance (path : String) (left right : FileSystem) : Decidable (AgreeAt path left right) :=
  inferInstanceAs
    (Decidable
      (left.file? path = right.file? path ∧ left.isDirectory path = right.isDirectory path))

end FileSystem

namespace Handle

/-- What a handle that is opened on the file shows: its tables, or why they can not be read. -/
def shown? (path : String) (files : FileSystem) : Option (Except StorageError Tables) :=
  match openFile files path false with
  | .ok handle => some handle.connection.tables
  | .error _ => none

theorem shown?_eq_some_iff
    {path : String} {files : FileSystem} {tables : Except StorageError Tables} :
    shown? path files = some tables ↔
      ∃ handle, openFile files path false = .ok handle ∧ handle.connection.tables = tables := by
  rw [shown?]
  cases openFile files path false with
  | error error =>
      simp
  | ok handle =>
      simp

theorem shown?_congr
    {path : String} {left right : FileSystem} (agree : FileSystem.AgreeAt path left right) :
    shown? path left = shown? path right := by
  obtain ⟨sameFile, sameDirectory⟩ := agree
  rw [shown?, shown?, openFile, openFile, FileSystem.pathExists, FileSystem.pathExists,
    FileSystem.read, FileSystem.read, sameFile, sameDirectory]
  cases right.file? path with
  | some content =>
      rfl
  | none =>
      cases right.isDirectory path with
      | false =>
          rfl
      | true =>
          rfl

theorem shown?_of_file?
    {path : String} {files : FileSystem} {content : FileContent}
    (stands : files.file? path = some content) :
    shown? path files =
      match connectTo path content with
      | .ok connection => some connection.tables
      | .error _ => none := by
  rw [shown?, openFile, FileSystem.pathExists, FileSystem.read, stands]
  simp only [Option.isSome_some, Bool.true_or, if_true]
  cases connectTo path content with
  | error error =>
      rfl
  | ok connection =>
      rfl

/-! ## Handles between two operations -/

/-- No transaction is open, and tables that can not be read come from a file that was opened. -/
def AtRest (path : String) : Connection → Prop
  | .live state => state.saved = none
  | .unreadable content fault inTransaction =>
      inTransaction = false ∧
        connectTo path (.bytes content) = .ok (.unreadable content fault false)
  | .closed => False

/-- The handle may write to the path, and nothing is under way. -/
structure Writes (path : String) (handle : Handle) : Prop where
  onPath : handle.path = some path
  writable : handle.readOnly = false
  atRest : AtRest path handle.connection

theorem atRest_connectTo
    {path : String} {content : FileContent} {connection : Connection}
    (connected : connectTo path content = .ok connection) :
    AtRest path connection := by
  cases content with
  | database tables =>
      cases connected
      rfl
  | bytes content =>
      have whole := connected
      rw [connectTo] at connected
      split at connected
      · cases connected
      split at connected
      · cases connected
      cases image : DatabaseImage.ofBytes content with
      | ok read =>
          rw [image] at connected
          cases connected
          rfl
      | error fault =>
          rw [image] at connected
          cases connected
          exact ⟨rfl, whole⟩

theorem AtRest.inTransaction_eq
    {path : String} {connection : Connection} (atRest : AtRest path connection) :
    connection.inTransaction = false := by
  cases connection with
  | live state =>
      have noneSaved : state.saved = none := atRest
      rw [Connection.inTransaction, noneSaved]
      rfl
  | unreadable content fault inTransaction =>
      exact atRest.1
  | closed =>
      cases atRest

theorem read_eq_ok_iff {files : FileSystem} {path : String} {content : FileContent} :
    files.read path = .ok content ↔ files.file? path = some content := by
  rw [FileSystem.read]
  cases files.file? path with
  | none =>
      dsimp only
      split
      · simp
      · split <;> simp
  | some stored =>
      simp

/-- To be read, a file has to be there. -/
theorem openFile_readOnly_eq_ok_iff
    {path : String} {files : FileSystem} {handle : Handle} :
    openFile files path true = .ok handle ↔
      ∃ content connection,
        files.file? path = some content ∧ connectTo path content = .ok connection ∧
          handle = ⟨some path, true, false, connection⟩ := by
  constructor
  · intro opened
    rw [openFile] at opened
    split at opened
    · cases isRead : files.read path with
      | error error =>
          rw [isRead] at opened
          cases opened
      | ok content =>
          rw [isRead] at opened
          obtain ⟨connection, connected, same⟩ := bind_eq_ok opened
          exact
            ⟨content, connection, read_eq_ok_iff.mp isRead, connected,
              (Except.ok.inj same).symm⟩
    · cases opened
  · rintro ⟨content, connection, stands, connected, rfl⟩
    rw [openFile, FileSystem.pathExists, read_eq_ok_iff.mpr stands, stands]
    simp only [Option.isSome_some, Bool.true_or, if_true, connected]
    rfl

/-- A handle that was just opened shows what opening the file shows. -/
theorem openFile_writes
    {path : String} {files : FileSystem} {handle : Handle}
    (opened : openFile files path false = .ok handle) :
    Writes path handle ∧ handle.dirty = false ∧
      shown? path files = some handle.connection.tables := by
  have shows : shown? path files = some handle.connection.tables := by
    rw [shown?, opened]
  rw [openFile] at opened
  split at opened
  · cases read : files.read path with
    | error error =>
        rw [read] at opened
        cases opened
    | ok content =>
        rw [read] at opened
        cases connected : connectTo path content with
        | error error =>
            simp only [connected] at opened
            cases opened
        | ok connection =>
            simp only [connected] at opened
            cases opened
            exact ⟨⟨rfl, rfl, atRest_connectTo connected⟩, rfl, shows⟩
  · cases opened
    exact ⟨⟨rfl, rfl, rfl⟩, rfl, shows⟩

/-! ## Writing a handle to its file -/

/-- What is written is taken for what it was. -/
theorem connectTo_content
    {path : String} {connection : Connection} {content : FileContent}
    (atRest : AtRest path connection) (copied : connection.content = .ok content) :
    ∃ reopened, connectTo path content = .ok reopened ∧ reopened.tables = connection.tables := by
  cases connection with
  | live state =>
      obtain rfl := Except.ok.inj copied
      exact ⟨.fresh state.tables, rfl, rfl⟩
  | unreadable bytes fault inTransaction =>
      rw [Connection.content] at copied
      split at copied
      · obtain rfl := Except.ok.inj copied
        exact ⟨_, atRest.2, rfl⟩
      · cases copied
  | closed =>
      cases copied

theorem persist_clean
    {handle : Handle} (notDirty : handle.dirty = false) (files : FileSystem) :
    handle.persist files = (.ok handle, files) := by
  rw [persist]
  cases handle.path with
  | none =>
      rfl
  | some path =>
      rw [notDirty, Bool.not_false, Bool.or_true]
      rfl

/-- A file that a handle was written to shows the tables of the handle. -/
theorem persist_dirty
    {path : String} {handle written : Handle} {files after : FileSystem}
    (writes : Writes path handle) (isDirty : handle.dirty = true)
    (persisted : handle.persist files = (.ok written, after)) :
    written = handle.clean ∧ shown? path after = some handle.connection.tables := by
  rw [persist, writes.onPath, writes.writable, isDirty] at persisted
  simp only [Bool.not_true, Bool.or_self, Bool.false_eq_true, if_false] at persisted
  cases copied : handle.connection.content with
  | error error =>
      rw [copied] at persisted
      cases persisted
  | ok content =>
      rw [copied] at persisted
      cases replaced : (FileSystem.replaceFile path content).run.run files with
      | mk outcome system =>
          simp only [replaced] at persisted
          cases outcome with
          | error error =>
              cases persisted
          | ok _ =>
              cases persisted
              have stands := FileSystem.file?_replaceFile replaced
              obtain ⟨reopened, connected, same⟩ := connectTo_content writes.atRest copied
              refine ⟨rfl, ?_⟩
              rw [shown?_of_file? stands, connected]
              exact congrArg some same

end Handle
end EvidenceSearch
