import EvidenceSearch.Storage.Path
import EvidenceSearch.Storage.Tables

/-!
# Files

A file holds bytes, or a database that was written to it. A file can only be written where its
directory is, and a path that ends with a slash asks for a directory.
-/

namespace EvidenceSearch

/-- What a file holds: bytes, or the tables of a database. -/
inductive FileContent where
  | bytes (content : ByteArray)
  | database (tables : Tables)

/-- The bytes with which every database starts. -/
def databaseHeader : List UInt8 :=
  ("SQLite format 3".toList.map fun character => character.toNat.toUInt8)

/-- The bytes of a file as far as a reader of texts needs them: of a database only the start. -/
def FileContent.textBytes : FileContent → List UInt8
  | .bytes content => content.toList
  | .database _ => databaseHeader ++ [0, 16, 0, 1, 1]

/-- Files by path, and the directories that exist. -/
structure FileSystem where
  files : List (String × FileContent) := []
  directories : List String := []

/-- A change of the files that may fail. What it changed before it failed stays. -/
abbrev FileM := ExceptT FileError (StateM FileSystem)

namespace FileSystem

/-! ## Looking up -/

def file? (system : FileSystem) (path : String) : Option FileContent :=
  system.files.lookup path

def isDirectory (system : FileSystem) (path : String) : Bool :=
  let path := Path.withoutSlash path
  path = "/" ||
    system.directories.any fun directory => directory = path || Path.isBelow directory path

/-- Whether a path names a file or a directory. -/
def pathExists (system : FileSystem) (path : String) : Bool :=
  (system.file? path).isSome || system.isDirectory path

/-- Whether a file stands on the way to a path. -/
def blocks (system : FileSystem) (path : String) : Bool :=
  system.files.any fun file => Path.isBelow path file.1

def read (system : FileSystem) (path : String) : Except FileError FileContent :=
  match system.file? path with
  | some content => .ok content
  | none =>
      if system.isDirectory path then .error .directoryRead
      else if system.blocks path then .error (.notDirectory path)
      else .error (.missing path)

/-! ## Single changes -/

/-- Put a file at a path, whatever was there. -/
def place (system : FileSystem) (path : String) (content : FileContent) : FileSystem :=
  { system with files := (path, content) :: system.files.filter fun file => file.1 ≠ path }

/-- Take the file at a path away. -/
def remove (system : FileSystem) (path : String) : FileSystem :=
  { system with files := system.files.filter fun file => file.1 ≠ path }

def write (system : FileSystem) (path : String) (content : FileContent) :
    Except FileError FileSystem :=
  if system.blocks (Path.withoutSlash path) then .error (.notDirectory path)
  else if !system.isDirectory (Path.parent path) then .error (.missing path)
  else if Path.asksDirectory path || system.isDirectory path then .error (.directoryOpened path)
  else .ok (system.place path content)

/-- Make a directory and those above it, as far as they are missing. -/
def makeDirectory (system : FileSystem) (path : String) : Except FileError FileSystem :=
  if system.isDirectory path then .ok system
  else if (system.file? path).isSome then .error (.fileInPlace path)
  else if system.blocks path then .error (.directoryBlocked path)
  else .ok { system with directories := path :: system.directories }

/-- Give a file another path, whatever file was there. -/
def rename (system : FileSystem) (source target : String) : Except FileError FileSystem :=
  match system.file? source with
  | none => .error (.missing source)
  | some content =>
      if Path.asksDirectory target then .error (.directoryWanted source target)
      else if system.isDirectory target then .error (.directoryReplaced source target)
      else .ok ((system.remove source).place target content)

/-! ## Writing safely -/

/-- Make a change. -/
def change (step : FileSystem → Except FileError FileSystem) : FileM Unit := do
  match step (← get) with
  | .ok system => set system
  | .error error => throw error

/-- Make the directory of a path, and write a file there. -/
def writeWithDirectory (path : String) (content : FileContent) : FileM Unit := do
  change fun system => system.makeDirectory (Path.parent path)
  change fun system => system.write path content

/-- The path of a file while it is being written. -/
def temporaryPath (path : String) : String :=
  path ++ ".tmp"

/-- Replace the file at a path, in a directory that is made if nothing stands there. The new file
is written beside the old one first and then takes its place. -/
def replaceFile (path : String) (content : FileContent) : FileM Unit := do
  let directory := Path.parent path
  if !(← get).pathExists directory then change fun system => system.makeDirectory directory
  change fun system => system.write (temporaryPath path) content
  change fun system => system.rename (temporaryPath path) path

end FileSystem
end EvidenceSearch
