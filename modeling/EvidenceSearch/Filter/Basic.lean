import EvidenceSearch.Failure
import EvidenceSearch.FileType
import EvidenceSearch.Record

/-!
# Filters

A filter holds the values of one property that a file may have; a file passes if one of them
applies. There is at least one value, and each was checked when the filter was made.
-/

namespace EvidenceSearch

/-- At least one value. -/
structure Choices (Value : Type) where
  first : Value
  others : List Value
  deriving DecidableEq

namespace Choices

variable {Value Image : Type}

/-- All values, in order. -/
def toList (choices : Choices Value) : List Value :=
  choices.first :: choices.others

/-- The values of a list, if it has any. -/
def ofList? : List Value → Option (Choices Value)
  | [] => none
  | first :: others => some ⟨first, others⟩

end Choices

/-- A path to look for: as the whole parent path of a file, or anywhere in it. -/
structure PathTerm where
  text : String
  whole : Bool
  deriving DecidableEq

/-- A path to look for that is not empty. -/
structure PathChoice where
  term : PathTerm
  filled : term.text ≠ ""
  deriving DecidableEq

/-- A data source that files may come from. -/
structure SourceChoice where
  id : Int
  name : String
  safe : id.natAbs ≤ Number.largestSafe.natAbs
  deriving DecidableEq

/-- A keyword list that may have a hit in a file. -/
structure ListChoice where
  name : String
  filled : name ≠ ""
  deriving DecidableEq

/-- A file type that a file may have. -/
structure TypeChoice where
  type : FileType
  listed : type.mediaTypes ≠ []
  deriving DecidableEq

/-- What is asked of the files of a case. -/
inductive Filter where
  | size (ranges : Choices SizeRange)
  | parent (paths : Choices PathChoice)
  | dataSource (sources : Choices SourceChoice)
  | keywordList (lists : Choices ListChoice)
  | fileType (types : Choices TypeChoice)
  | frequency (frequencies : Choices Frequency)
  deriving DecidableEq

namespace Filter

/-- The property that a filter asks about. -/
def kind : Filter → FilterKind
  | .size _ => .size
  | .parent _ => .parent
  | .dataSource _ => .dataSource
  | .keywordList _ => .keywordList
  | .fileType _ => .fileType
  | .frequency _ => .frequency

/-- The values of a filter, which must not be missing. -/
def requireValues {Value : Type} (kind : FilterKind) (values : List Value) :
    Except Failure (Choices Value) :=
  match Choices.ofList? values with
  | some choices => .ok choices
  | none => .error (.noValues kind)

def checkSize (bounds : SizeBounds) : Except Failure SizeRange :=
  match bounds.check with
  | .ok range => .ok range
  | .error problem => .error (.sizeRange problem)

def checkPath (term : PathTerm) : Except Failure PathChoice :=
  if filled : term.text ≠ "" then .ok ⟨term, filled⟩ else .error .emptyPath

def checkSource (source : DataSource) : Except Failure SourceChoice :=
  match source.id.wholeValue? with
  | none => .error .sourceIdNotWhole
  | some id =>
      if safe : id.natAbs ≤ Number.largestSafe.natAbs then .ok ⟨id, source.name, safe⟩
      else .error .sourceIdNotWhole

def checkList (name : String) : Except Failure ListChoice :=
  if filled : name ≠ "" then .ok ⟨name, filled⟩ else .error .emptyListName

def checkType (type : FileType) : Except Failure TypeChoice :=
  if listed : type.mediaTypes ≠ [] then .ok ⟨type, listed⟩ else .error .typeWithoutMediaTypes

/-- The filter for files whose size lies in one of the ranges. -/
def ofSizes (bounds : List SizeBounds) : Except Failure Filter := do
  return .size (← requireValues .size (← bounds.mapM checkSize))

/-- The filter for files whose parent path matches one of the terms. -/
def ofPaths (terms : List PathTerm) : Except Failure Filter := do
  return .parent (← requireValues .parent (← terms.mapM checkPath))

def ofSources (sources : List DataSource) : Except Failure Filter := do
  return .dataSource (← requireValues .dataSource (← sources.mapM checkSource))

/-- The filter for files with a hit from one of the keyword lists. -/
def ofLists (names : List String) : Except Failure Filter := do
  return .keywordList (← requireValues .keywordList (← names.mapM checkList))

def ofTypes (types : List FileType) : Except Failure Filter := do
  return .fileType (← requireValues .fileType (← types.mapM checkType))

def ofFrequencies (frequencies : List Frequency) : Except Failure Filter := do
  return .frequency (← requireValues .frequency frequencies)

/-- Whether the filter looks at each file that the case store found, instead of asking the
store. -/
def isFrequency : Filter → Bool
  | .frequency _ => true
  | _ => false

def needRepository (filters : List Filter) : Bool :=
  filters.any isFrequency

def pathJson (path : PathChoice) : Json :=
  .object [("searchStr", .string path.term.text), ("isFullPath", .bool path.term.whole)]

def sourceJson (source : SourceChoice) : Json :=
  .object [("id", .ofInt source.id), ("name", .string source.name)]

/-- The name under which the values of a filter are shown, and the values. -/
def valuesJson : Filter → String × List Json
  | .size ranges => ("sizes", ranges.toList.map SizeRange.toJson)
  | .parent paths => ("terms", paths.toList.map pathJson)
  | .dataSource sources => ("dataSources", sources.toList.map sourceJson)
  | .keywordList lists => ("listNames", lists.toList.map fun list => .string list.name)
  | .fileType types => ("categories", types.toList.map fun choice => choice.type.toJson)
  | .frequency frequencies =>
      ("frequencies", frequencies.toList.map fun frequency => .string frequency.name)

def toJson (filter : Filter) : Json :=
  let (name, values) := filter.valuesJson
  .object [("kind", .string filter.kind.name), (name, .array values)]

end Filter
end EvidenceSearch
