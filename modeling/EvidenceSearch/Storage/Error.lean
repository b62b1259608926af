import EvidenceSearch.Number.Text
import EvidenceSearch.Sql.Error

/-!
# Errors of the stores

Why a file can not be opened, a statement is refused, or a store can not answer.
-/

namespace EvidenceSearch

/-- Why files can not be read or changed. -/
inductive FileError where
  | missing (path : String)
  | directoryRead
  | directoryOpened (path : String)
  /-- A file stands where the path goes on. -/
  | notDirectory (path : String)
  /-- A file stands where a new directory needs one above it. -/
  | directoryBlocked (path : String)
  /-- A file stands in the place of a new directory. -/
  | fileInPlace (path : String)
  /-- A directory stands in the place that a file is to take. -/
  | directoryReplaced (source target : String)
  /-- The place that a file is to take asks for a directory. -/
  | directoryWanted (source target : String)
  deriving DecidableEq

def FileError.message : FileError → String
  | .missing path => "ENOENT: no such file or directory, open '" ++ path ++ "'"
  | .directoryRead => "EISDIR: illegal operation on a directory, read"
  | .directoryOpened path => "EISDIR: illegal operation on a directory, open '" ++ path ++ "'"
  | .notDirectory path => "ENOTDIR: not a directory, open '" ++ path ++ "'"
  | .directoryBlocked path => "ENOTDIR: not a directory, mkdir '" ++ path ++ "'"
  | .fileInPlace path => "EEXIST: file already exists, mkdir '" ++ path ++ "'"
  | .directoryReplaced source target =>
      "EISDIR: illegal operation on a directory, rename '" ++ source ++ "' -> '" ++ target ++ "'"
  | .directoryWanted source target =>
      "ENOTDIR: not a directory, rename '" ++ source ++ "' -> '" ++ target ++ "'"

/-- What keeps the bytes of a file from being read as a database. -/
inductive ImageFault where
  /-- The head of the file is not that of a database. -/
  | notDatabase
  /-- Pages are missing at the end. -/
  | cutShort
  /-- The page that lists the tables can not be read. -/
  | brokenList
  /-- The rows are laid out in a way that is not known. -/
  | unknownLayout
  deriving DecidableEq

def ImageFault.message : ImageFault → String
  | .notDatabase => "file is not a database"
  | .cutShort => "database disk image is malformed"
  | .brokenList => "database disk image is malformed"
  | .unknownLayout => "unsupported file format"

/-- Whether the pages of such a file can be copied all the same. -/
def ImageFault.pagesCountable : ImageFault → Bool
  | .notDatabase => false
  | .cutShort => false
  | .brokenList => true
  | .unknownLayout => true

/-- Why a store or a database fails. -/
inductive StorageError where
  /-- There is no file at the path of a database that may only be read. -/
  | fileNotFound (path : String)
  /-- The file is shorter than the header of a database. -/
  | fileTooSmall (path : String) (size : Nat)
  /-- The file does not start as a database does. -/
  | badHeader (path : String)
  | file (error : FileError)
  | readOnly
  /-- A statement was asked of a database that is closed. -/
  | closed
  /-- A script or a transaction was given to a database that is closed. -/
  | closedForScripts
  /-- The file starts as a database does, but can not be read as one. -/
  | image (fault : ImageFault)
  /-- What can not be read as a database can not be copied to a file either. -/
  | noCopy
  | noTable (name : String)
  | noColumn (name : String)
  /-- A row can not be given a value in a column that its table lacks. -/
  | noColumnToInsert (table column : String)
  | tableExists (name : String)
  | transactionOpen
  | noTransaction
  /-- Another row holds the value. -/
  | notUnique (table column : String)
  | missingValue (table column : String)
  /-- The key of a row is no whole number. -/
  | notWhole
  | clause (error : Sql.ClauseError)
  /-- The body of a transaction gave up. -/
  | abandoned (message : String)
  | noCaseDatabase
  | noRepositoryDatabase
  | notCase (missing : List String)
  | notRepository (missing : List String)
  | noCorrelationType (id : Number)
  | unsupportedType (name : String)
  | malformedHash (text : String)
  deriving DecidableEq

namespace StorageError

def message : StorageError → String
  | .fileNotFound path => "Database file not found: " ++ path
  | .fileTooSmall path size =>
      "Database file too small to be valid SQLite: " ++ path ++ " (" ++ toString size ++ " bytes)"
  | .badHeader path => "Not a valid SQLite database (bad header): " ++ path
  | .file error => error.message
  | .readOnly => "Database was opened read-only"
  | .closed => "out of memory"
  | .closedForScripts => "Database closed"
  | .image fault => fault.message
  | .noCopy => "not an error"
  | .noTable name => "no such table: " ++ name
  | .noColumn name => "no such column: " ++ name
  | .noColumnToInsert table column => "table " ++ table ++ " has no column named " ++ column
  | .tableExists name => "table " ++ name ++ " already exists"
  | .transactionOpen => "cannot start a transaction within a transaction"
  | .noTransaction => "cannot commit - no transaction is active"
  | .notUnique table column => "UNIQUE constraint failed: " ++ table ++ "." ++ column
  | .missingValue table column => "NOT NULL constraint failed: " ++ table ++ "." ++ column
  | .notWhole => "datatype mismatch"
  | .clause error => error.message
  | .abandoned message => message
  | .noCaseDatabase => "CaseDatabase not initialized. Call initialize() or attach() first."
  | .noRepositoryDatabase => "CentralRepository not initialized. Call initialize() first."
  | .notCase missing => "Not a case database, missing tables: " ++ ", ".intercalate missing
  | .notRepository missing =>
      "Not a central repository, missing tables: " ++ ", ".intercalate missing
  | .noCorrelationType id => "Correlation type " ++ id.write ++ " not found"
  | .unsupportedType name => "Unsupported correlation type: " ++ name
  | .malformedHash text => "Data provided is not a valid MD5 hash: \"" ++ text ++ "\""

end StorageError
end EvidenceSearch
