import EvidenceSearch.Json.Basic
import EvidenceSearch.Text.Blank
import EvidenceSearch.Text.CaseMapping

/-!
# File types

A file type is a name for a group of media types. Names count as equal when they are equal in
lower case without the blanks around them. A list of file types is read from a JSON array; every
entry that can not be used is reported, and then nothing is read.
-/

namespace EvidenceSearch

/-- A named group of media types. -/
structure FileType where
  name : String
  mediaTypes : List String
  deriving DecidableEq

/-- What is wrong with one entry of a list of file types. -/
inductive EntryProblem where
  | notAnObject (index : Nat)
  | noName (index : Nat)
  | noMediaTypes (name : String)
  | duplicate (name : String)
  deriving DecidableEq

/-- The line that reports a problem with an entry. -/
def EntryProblem.message : EntryProblem → String
  | .notAnObject index => "entry " ++ toString index ++ " is not an object"
  | .noName index => "entry " ++ toString index ++ " has no name"
  | .noMediaTypes name => "category \"" ++ name ++ "\" must list at least one media type"
  | .duplicate name => "duplicate category \"" ++ name ++ "\""

/-- Why a list of file types can not be used. -/
inductive FileTypeError where
  | notAnArray
  | entries (problems : List EntryProblem)
  deriving DecidableEq

def FileTypeError.message : FileTypeError → String
  | .notAnArray => "File type categories must be a JSON array"
  | .entries problems =>
      "Invalid file type categories:\n  - " ++
        "\n  - ".intercalate (problems.map EntryProblem.message)

namespace FileType

/-- The form of a name by which file types are told apart. -/
def key (name : String) : String :=
  lowerCase (trim name)

def find? (types : List FileType) (name : String) : Option FileType :=
  types.find? fun type => lowerCase type.name = key name

def mediaType? : Json → Option String
  | .string text => if text = "" then none else some text
  | _ => none

/-- The media types of an entry, if there is at least one and none is empty. -/
def mediaTypes? (entry : Json) : Option (List String) :=
  match (entry.field? "mediaTypes").bind Json.items? with
  | some (item :: items) => (item :: items).mapM mediaType?
  | _ => none

/-- Whether a value can have fields at all. -/
def hasFields : Json → Bool
  | .object _ => true
  | .array _ => true
  | _ => false

/-- The name of an entry as it stands there, unless it is blank. -/
def entryName? (entry : Json) : Option String :=
  ((entry.field? "name").bind Json.text?).filter fun name => trim name ≠ ""

/-- Read one entry; `known` holds the file types that were read before it. -/
def readEntry (known : List FileType) (index : Nat) (entry : Json) :
    Except EntryProblem FileType :=
  if !hasFields entry then .error (.notAnObject index)
  else
    match entryName? entry with
    | none => .error (.noName index)
    | some name =>
        match mediaTypes? entry with
        | none => .error (.noMediaTypes name)
        | some mediaTypes =>
            if known.any fun type => lowerCase type.name = key name then .error (.duplicate name)
            else .ok ⟨trim name, mediaTypes⟩

def readEntries (known : List FileType) (index : Nat) :
    List Json → List FileType × List EntryProblem
  | [] => (known, [])
  | entry :: entries =>
      match readEntry known index entry with
      | .ok type => readEntries (known ++ [type]) (index + 1) entries
      | .error problem =>
          let (types, problems) := readEntries known (index + 1) entries
          (types, problem :: problems)

def listOfJson : Json → Except FileTypeError (List FileType)
  | .array entries =>
      match readEntries [] 0 entries with
      | (types, []) => .ok types
      | (_, problems) => .error (.entries problems)
  | _ => .error .notAnArray

def toJson (type : FileType) : Json :=
  .object [("name", .string type.name), ("mediaTypes", .ofStrings type.mediaTypes)]

def bundled : List FileType :=
  [
    ⟨"Image",
      ["image/bmp",
        "image/gif",
        "image/jpeg",
        "image/png",
        "image/tiff",
        "image/webp",
        "image/x-icon",
        "image/x-ms-bmp",
        "image/vnd.microsoft.icon",
        "image/vnd.adobe.photoshop",
        "image/x-canon-cr2",
        "image/x-nikon-nef",
        "image/heic"]⟩,
    ⟨"Audio",
      ["audio/midi",
        "audio/mpeg",
        "audio/mp4",
        "audio/ogg",
        "audio/wav",
        "audio/vnd.wave",
        "audio/webm",
        "audio/x-aiff",
        "audio/x-flac",
        "audio/x-ms-wma"]⟩,
    ⟨"Video",
      ["video/3gpp",
        "video/3gpp2",
        "video/mp4",
        "video/mpeg",
        "video/ogg",
        "video/quicktime",
        "video/webm",
        "video/x-flv",
        "video/x-m4v",
        "video/x-ms-wmv",
        "video/x-msvideo"]⟩,
    ⟨"Executable",
      ["application/x-bat",
        "application/x-dosexec",
        "application/vnd.microsoft.portable-executable",
        "application/x-msdownload",
        "application/exe",
        "application/x-exe",
        "application/dos-exe",
        "application/x-winexe",
        "application/msdos-windows",
        "application/x-msdos-program",
        "application/x-executable",
        "application/x-mach-binary"]⟩,
    ⟨"Document",
      ["text/plain",
        "text/csv",
        "text/html",
        "application/rtf",
        "application/pdf",
        "application/msword",
        "application/vnd.openxmlformats-officedocument.wordprocessingml.document",
        "application/vnd.ms-excel",
        "application/vnd.openxmlformats-officedocument.spreadsheetml.sheet",
        "application/vnd.ms-powerpoint",
        "application/vnd.openxmlformats-officedocument.presentationml.presentation",
        "application/vnd.oasis.opendocument.text",
        "application/vnd.oasis.opendocument.spreadsheet",
        "application/vnd.oasis.opendocument.presentation"]⟩]

end FileType
end EvidenceSearch
