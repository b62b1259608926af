import EvidenceSearch.FileType
import EvidenceSearch.Json.Reader
import EvidenceSearch.Settings
import EvidenceSearch.Storage.FileSystem
import EvidenceSearch.Text.Utf8

/-!
# Loading file types

File types are read from a file that holds a JSON array, or the bundled ones are taken.
-/

namespace EvidenceSearch

/-- Why file types can not be loaded. -/
inductive FileTypeLoadError where
  | file (error : FileError)
  | notJson (message : String)
  | list (error : FileTypeError)
  deriving DecidableEq

def FileTypeLoadError.message : FileTypeLoadError → String
  | .file error => error.message
  | .notJson message => message
  | .list error => error.message

namespace FileType

def listOfBytes (bytes : List UInt8) : Except FileTypeLoadError (List FileType) :=
  let text := decodeBytes bytes
  match Json.read text with
  | .error fault => .error (.notJson (fault.message text))
  | .ok value =>
      match listOfJson value with
      | .ok types => .ok types
      | .error error => .error (.list error)

def load (files : FileSystem) : FileTypeSource → Except FileTypeLoadError (List FileType)
  | .bundled => .ok bundled
  | .file path =>
      match files.read path with
      | .error error => .error (.file error)
      | .ok content => listOfBytes content.textBytes

end FileType
end EvidenceSearch
