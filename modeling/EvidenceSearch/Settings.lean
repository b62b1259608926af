import EvidenceSearch.Number.Numeral
import EvidenceSearch.Search.Enrichment
import EvidenceSearch.Storage.Path

/-!
# Settings

Settings come from the environment. A blank variable counts as unset, and one that does not write
a whole number where a number is wanted counts as unset too.
-/

namespace EvidenceSearch

/-- The variables of the environment with their values. -/
abbrev Environment := List (String × String)

/-- What is wrong with the thresholds. -/
inductive ThresholdProblem where
  | negativeUnique
  | negativeRare
  | uniqueAboveRare
  deriving DecidableEq

/-- The line that reports a problem. -/
def ThresholdProblem.message : ThresholdProblem → String
  | .negativeUnique => "uniqueMaxCount must be non-negative"
  | .negativeRare => "rareMaxCount must be non-negative"
  | .uniqueAboveRare => "uniqueMaxCount must be <= rareMaxCount"

def thresholdMessage (problems : List ThresholdProblem) : String :=
  "Invalid frequency thresholds:\n  - " ++
    "\n  - ".intercalate (problems.map ThresholdProblem.message)

/-- What is wrong with thresholds, each problem once. -/
def Thresholds.problems (thresholds : Thresholds) : List ThresholdProblem :=
  (if thresholds.uniqueMax.below (.finite 0) then [.negativeUnique] else []) ++
    (if thresholds.rareMax.below (.finite 0) then [.negativeRare] else []) ++
      if thresholds.rareMax.below thresholds.uniqueMax then [.uniqueAboveRare] else []

/-- Thresholds that can be used, or what is wrong with them. -/
def Thresholds.check (thresholds : Thresholds) : Except (List ThresholdProblem) Thresholds :=
  match thresholds.problems with
  | [] => .ok thresholds
  | problems => .error problems

/-- Where the list of file types comes from. -/
inductive FileTypeSource where
  | bundled
  | file (path : String)
  deriving DecidableEq

/-- Where the stores are. -/
structure StoreSettings where
  casePath : Option String
  repositoryPath : Option String
  fileTypes : FileTypeSource
  deriving DecidableEq

/-- All settings. -/
structure Settings where
  stores : StoreSettings
  search : SearchOptions
  deriving DecidableEq

namespace Environment

/-- The value of a variable without the blanks around it, unless nothing is left. -/
def text? (environment : Environment) (key : String) : Option String :=
  ((List.lookup key environment).map trim).filter fun value => value ≠ ""

/-- The whole number that a variable writes, or the given one. -/
def whole (environment : Environment) (key : String) (standard : Number) : Number :=
  match environment.text? key with
  | none => standard
  | some value =>
      let number := Number.ofNumeral value
      if number.wholeValue?.isSome then number else standard

/-- The path that a variable names. -/
def path? (environment : Environment) (key : String) : Option String :=
  (environment.text? key).map Path.resolve

def thresholds (environment : Environment) : Thresholds :=
  ⟨environment.whole "FREQUENCY_UNIQUE_MAX_COUNT" Thresholds.standard.uniqueMax,
    environment.whole "FREQUENCY_RARE_MAX_COUNT" Thresholds.standard.rareMax⟩

/-- The largest number of lookups at once. -/
def largestConcurrency : Number :=
  .finite 32

/-- The number of lookups at once that the environment sets, from one up to the largest. -/
def concurrency (environment : Environment) : Number :=
  let wanted := environment.whole "ENRICHMENT_CONCURRENCY" SearchOptions.standard.concurrency
  if wanted.below (.finite 1) then .finite 1
  else if largestConcurrency.below wanted then largestConcurrency
  else wanted

/-- How the environment wants searches to be run. -/
def searchOptions (environment : Environment) :
    Except (List ThresholdProblem) SearchOptions := do
  return ⟨← environment.thresholds.check, environment.concurrency⟩

def storeSettings (environment : Environment) : StoreSettings :=
  { casePath := environment.path? "CASE_DB_PATH"
    repositoryPath := environment.path? "CENTRAL_REPO_DB_PATH"
    fileTypes :=
      match environment.path? "FILE_TYPES_PATH" with
      | some path => .file path
      | none => .bundled }

def settings (environment : Environment) : Except (List ThresholdProblem) Settings := do
  return ⟨environment.storeSettings, ← environment.searchOptions⟩

def logLevel (environment : Environment) : LogLevel :=
  .ofSetting (List.lookup "LOG_LEVEL" environment)

end Environment

def Thresholds.toJson (thresholds : Thresholds) : Json :=
  .object [("uniqueMaxCount", .number thresholds.uniqueMax),
    ("rareMaxCount", .number thresholds.rareMax)]

/-- The path of a list of file types; the bundled one is named by a mark. -/
def FileTypeSource.path : FileTypeSource → String
  | .bundled => "<default-file-types>"
  | .file path => path

def Settings.toJson (settings : Settings) : Json :=
  let path (key : String) (path? : Option String) :=
    (path?.map fun path => (key, Json.string path)).toList
  .object
    [("stores",
        .object
          (path "caseDbPath" settings.stores.casePath ++
            path "centralRepoDbPath" settings.stores.repositoryPath ++
            [("fileTypesPath", .string settings.stores.fileTypes.path)])),
      ("search",
        .object
          [("frequencyThresholds", settings.search.thresholds.toJson),
            ("enrichmentConcurrency", .number settings.search.concurrency)])]

end EvidenceSearch
