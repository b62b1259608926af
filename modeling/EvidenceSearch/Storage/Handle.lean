import EvidenceSearch.Storage.FileSystem
import EvidenceSearch.Storage.Image

/-!
# Database handles

A handle works on a copy of a database in memory, read when it is opened. It remembers whether it
changed anything since the copy was last written to its file; a handle without a file, and one
that may only read, never write. Statements take effect one by one, except inside a transaction:
if its body fails, all tables are again as they were before. A file that can not be read as a
database can be opened all the same; it refuses every statement, but not a transaction that does
nothing.
-/

namespace EvidenceSearch

/-- Tables in memory, with the key of the row inserted last, and the tables as they were when the
open transaction began. -/
structure LiveTables where
  tables : Tables
  lastKey : Int
  saved : Option Tables
  deriving DecidableEq

/-- What a handle works on. -/
inductive Connection where
  | live (state : LiveTables)
  | unreadable (content : ByteArray) (fault : ImageFault) (inTransaction : Bool)
  | closed

instance (connection : Connection) : Decidable (connection = .closed) :=
  match connection with
  | .closed => isTrue rfl
  | .live _ => isFalse nofun
  | .unreadable _ _ _ => isFalse nofun

/-- A handle of a database. -/
structure Handle where
  path : Option String
  readOnly : Bool
  dirty : Bool
  connection : Connection

/-- A step on a handle that may fail. What it changed before it failed stays. -/
abbrev HandleM := ExceptT StorageError (StateM Handle)

namespace Connection

/-- A database without tables. -/
def fresh (tables : Tables) : Connection :=
  .live ⟨tables, 0, none⟩

/-- Whether a transaction is open. -/
def inTransaction : Connection → Bool
  | .live state => state.saved.isSome
  | .unreadable _ _ inTransaction => inTransaction
  | .closed => false

/-- Open a transaction. -/
def begin : Connection → Except StorageError Connection
  | .closed => .error .closedForScripts
  | .unreadable _ _ true => .error .transactionOpen
  | .unreadable content fault false => .ok (.unreadable content fault true)
  | .live ⟨tables, lastKey, none⟩ => .ok (.live ⟨tables, lastKey, some tables⟩)
  | .live ⟨_, _, some _⟩ => .error .transactionOpen

/-- Keep what the open transaction changed. -/
def commit : Connection → Except StorageError Connection
  | .closed => .error .closedForScripts
  | .unreadable _ _ false => .error .noTransaction
  | .unreadable content fault true => .ok (.unreadable content fault false)
  | .live ⟨_, _, none⟩ => .error .noTransaction
  | .live ⟨tables, lastKey, some _⟩ => .ok (.live ⟨tables, lastKey, none⟩)

/-- Take back what the open transaction changed; the key of the last row stays. -/
def rollback : Connection → Except StorageError Connection
  | .closed => .error .closedForScripts
  | .unreadable _ _ false => .error .noTransaction
  | .unreadable content fault true => .ok (.unreadable content fault false)
  | .live ⟨_, _, none⟩ => .error .noTransaction
  | .live ⟨_, lastKey, some saved⟩ => .ok (.live ⟨saved, lastKey, none⟩)

/-- The tables in memory. -/
def tables : Connection → Except StorageError Tables
  | .live state => .ok state.tables
  | .unreadable _ fault _ => .error (.image fault)
  | .closed => .error .closed

/-- Carry out a statement. -/
def execute (statement : Statement) : Connection → Except StorageError Connection
  | .live state => do
      let (tables, key?) ← statement state.tables
      return .live { state with tables, lastKey := key?.getD state.lastKey }
  | .unreadable _ fault _ => .error (.image fault)
  | .closed => .error .closed

/-- What is written to a file. -/
def content : Connection → Except StorageError FileContent
  | .live state => .ok (.database state.tables)
  | .unreadable content fault _ =>
      if fault.pagesCountable then .ok (.bytes content) else .error .noCopy
  | .closed => .error .closed

/-- The key of the row inserted last. -/
def lastKey : Connection → Int
  | .live state => state.lastKey
  | _ => 0

end Connection

/-! ## Opening -/

namespace Handle

/-- A handle of a new database in memory. -/
def inMemory : Handle :=
  ⟨none, false, false, .fresh .empty⟩

/-- What a handle works on when it is opened on a file. -/
def connectTo (path : String) : FileContent → Except StorageError Connection
  | .database tables => .ok (.fresh tables)
  | .bytes content =>
      if content.size < DatabaseImage.headerLength then .error (.fileTooSmall path content.size)
      else if (content.extract 0 databaseHeader.length).toList ≠ databaseHeader then
        .error (.badHeader path)
      else
        match DatabaseImage.ofBytes content with
        | .ok image => .ok (.fresh image.tables)
        | .error fault => .ok (.unreadable content fault false)

/-- Open the database in a file. Without a file it is a new one, unless it may only be read. -/
def openFile (files : FileSystem) (path : String) (readOnly : Bool) :
    Except StorageError Handle :=
  if files.pathExists path then
    match files.read path with
    | .error error => .error (.file error)
    | .ok content => do return ⟨some path, readOnly, false, ← connectTo path content⟩
  else if readOnly then .error (.fileNotFound path)
  else .ok ⟨some path, false, false, .fresh .empty⟩

/-! ## Statements and transactions -/

/-- Fail unless the handle may write. -/
def assertWritable : HandleM Unit := do
  if (← get).readOnly then throw .readOnly

/-- Change what the handle works on, if nothing goes wrong. -/
def connect (change : Connection → Except StorageError Connection) : HandleM Unit := do
  let handle ← get
  match change handle.connection with
  | .ok connection => set { handle with connection }
  | .error error => throw error

/-- Remember that there is something to write. -/
def markDirty : HandleM Unit :=
  modify fun handle => { handle with dirty := true }

/-- Carry out a statement. The result is the key of the row inserted last, by this statement or an
earlier one. -/
def run (statement : Statement) : HandleM Int := do
  assertWritable
  connect (Connection.execute statement)
  markDirty
  return (← get).connection.lastKey

/-- Carry out statements one after the other, up to one that is refused. -/
def executeAll : List Statement → HandleM Unit
  | [] => return ()
  | statement :: statements => do
      connect (Connection.execute statement)
      executeAll statements

/-- Carry out a script of statements. A script that breaks off keeps what it did so far, but does
not count as a change. -/
def runScript (script : List Statement) : HandleM Unit := do
  assertWritable
  if (← get).connection = .closed then throw .closedForScripts
  executeAll script
  markDirty

def query {Value : Type} (read : Tables → Except StorageError Value) : HandleM Value := do
  match (← get).connection.tables with
  | .error error => throw error
  | .ok tables =>
      match read tables with
      | .ok value => return value
      | .error error => throw error

/-- Carry out the body of the open transaction, and keep what it changed. -/
def complete {Value : Type} (body : HandleM Value) : HandleM Value := do
  let value ← body
  connect Connection.commit
  markDirty
  return value

/-- Take back what the open transaction changed, and fail. -/
def abandon {Value : Type} (error : StorageError) : HandleM Value := do
  connect Connection.rollback
  throw error

/-- Carry out a body in a transaction. -/
def transaction {Value : Type} (body : HandleM Value) : HandleM Value := do
  assertWritable
  connect Connection.begin
  tryCatch (complete body) abandon

def missingTables (wanted : List String) : HandleM (List String) :=
  query fun tables => .ok (tables.missing wanted)

/-! ## Files -/

/-- Remember that everything is written. -/
def clean (handle : Handle) : Handle :=
  { handle with dirty := false }

/-- Write the database to its file, if there is a file and something to write. The result comes
with the files as they are afterwards. -/
def persist (handle : Handle) (files : FileSystem) : Except StorageError Handle × FileSystem :=
  match handle.path with
  | none => (.ok handle, files)
  | some path =>
      if handle.readOnly || !handle.dirty then (.ok handle, files)
      else
        match handle.connection.content with
        | .error error => (.error error, files)
        | .ok content =>
            let (outcome, files) := (FileSystem.replaceFile path content).run.run files
            match outcome with
            | .ok () => (.ok handle.clean, files)
            | .error error => (.error (.file error), files)

/-- Write the database to its file and give the copy in memory up. -/
def close (handle : Handle) (files : FileSystem) : Except StorageError Handle × FileSystem :=
  let (outcome, files) := handle.persist files
  (outcome.map fun handle => { handle with connection := .closed }, files)

end Handle
end EvidenceSearch
