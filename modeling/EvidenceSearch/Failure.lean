import EvidenceSearch.Filter.Kind
import EvidenceSearch.Frequency
import EvidenceSearch.Report
import EvidenceSearch.Size

/-!
# Why a search fails

Every way in which a search can fail, from the shape of its arguments to the stores it asks. The
kind, the message and the cause that are reported follow from the failure alone.
-/

namespace EvidenceSearch

/-- The shape that an argument must have. -/
inductive Shape where
  | number
  | string
  | boolean
  | array
  | object
  deriving DecidableEq

/-- A shape with its article. -/
def Shape.phrase : Shape → String
  | .number => "a number"
  | .string => "a string"
  | .boolean => "a boolean"
  | .array => "an array"
  | .object => "an object"

/-- A place among the arguments: an argument, an entry of one, or a field of an entry. -/
inductive ArgumentPlace where
  | argument (key : String)
  | entry (key : String) (index : Nat)
  | field (key : String) (index : Nat) (name : String)
  deriving DecidableEq

/-- A place as it is written in messages. -/
def ArgumentPlace.path : ArgumentPlace → String
  | .argument key => key
  | .entry key index => key ++ "[" ++ toString index ++ "]"
  | .field key index name => key ++ "[" ++ toString index ++ "]." ++ name

/-- Why a search fails. -/
inductive Failure where
  | misshapen (place : ArgumentPlace) (shape : Shape)
  | unknownPreset (name : String) (known : List String)
  | unknownSource (id : Number)
  | unknownFileType (name : String) (known : List String)
  | unknownFrequency (name : String) (known : List String)
  /-- The bounds of a size range can not be used. -/
  | sizeRange (problem : SizeProblem)
  | emptyPath
  /-- The id of a data source is no whole number, or too large a one. -/
  | sourceIdNotWhole
  | emptyListName
  | typeWithoutMediaTypes
  | noValues (kind : FilterKind)
  | noCase
  /-- No filter asks the case store for anything. -/
  | nothingToAsk
  /-- A filter by frequency stands among the filters, and there is no central repository. -/
  | noRepository
  | frequencyWithoutRepository
  /-- Frequencies were to be found for no files at all. -/
  | frequencyOfNothing
  | storeFailed (cause : String)
  | repositoryFailed (cause : String)
  /-- Files could not be looked up at all. -/
  | stageFailed (cause : String)
  deriving DecidableEq

namespace Failure

def kind : Failure → ReportKind
  | .noRepository | .frequencyWithoutRepository => .misconfiguredFilter
  | .storeFailed _ => .storeFailure
  | .repositoryFailed _ | .stageFailed _ => .enrichmentFailure
  | _ => .invalidInput

/-- The message for a name that is not known, with the names that are. -/
def unknownName (what name : String) (known : List String) : String :=
  "Unknown " ++ what ++ " \"" ++ name ++ "\". Expected one of: " ++ ", ".intercalate known

def message : Failure → String
  | .misshapen place shape => place.path ++ " must be " ++ shape.phrase
  | .unknownPreset name known => unknownName "size preset" name known
  | .unknownSource id => "Unknown data source id " ++ id.write
  | .unknownFileType name known => unknownName "file type" name known
  | .unknownFrequency name known => unknownName "frequency" name known
  | .sizeRange problem => "Invalid size range: " ++ problem.message
  | .emptyPath => "Parent path search terms must not be empty"
  | .sourceIdNotWhole => "Data source ids must be integers"
  | .emptyListName => "Keyword list names must not be empty"
  | .typeWithoutMediaTypes => "File type categories must list at least one media type"
  | .noValues kind => kind.title ++ " filter needs at least one value"
  | .noCase => "Case database is required"
  | .nothingToAsk => "Selected filters do not include a case database query"
  | .noRepository => "Frequency filter selected but no central repository is configured"
  | .frequencyWithoutRepository => "Can not run Frequency filter without a central repository"
  | .frequencyOfNothing => "Can not run Frequency filter on an empty list"
  | .storeFailed _ => "Error querying case database"
  | .repositoryFailed _ => "Error querying central repository"
  | .stageFailed _ => "Error applying per-file filter"

def cause : Failure → Option String
  | .storeFailed cause | .repositoryFailed cause | .stageFailed cause => some cause
  | _ => none

def report (failure : Failure) : Report :=
  ⟨failure.kind, failure.message, failure.cause⟩

end Failure
end EvidenceSearch
