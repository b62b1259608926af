import EvidenceSearch.Search.Run
import EvidenceSearch.Tools.Criteria

/-!
# Answers of the two tools

One tool searches the files of the open case and shows the first of those that it found; the other
lists what can be searched for.
-/

namespace EvidenceSearch

/-- What a search found, and the part of it that is shown. -/
structure FoundFiles where
  filters : List String
  total : Nat
  shown : List ResultFile

/-- How many files are shown when no limit is given. -/
def defaultLimit : Nat := 100

/-- The largest number of files that are shown. -/
def largestLimit : Nat := 1000

/-- How many files are shown under a limit: its whole part, but at least one and at most the
largest number. Under a limit that is not a number none are shown. -/
def shownUnder : Option Number → Nat
  | none => defaultLimit
  | some .nan => 0
  | some (.infinite true) => 1
  | some (.infinite false) => largestLimit
  | some (.finite value) => max 1 (min value.floor largestLimit).toNat

/-- Search the files of the open case. -/
def searchFiles
    (stores : SearchStores)
    (options : SearchOptions)
    (catalog : Catalog)
    (arguments : SearchArguments) :
    Traced Failure FoundFiles := do
  match catalog.filters arguments with
  | .error failure => throw failure
  | .ok filters =>
      let results ← Search.run filters stores options
      return ⟨filters.map Filter.describe, results.length,
        results.take (shownUnder arguments.limit)⟩

def FoundFiles.toJson (found : FoundFiles) : Json :=
  .object [("filters", .ofStrings found.filters), ("total", .ofInt found.total),
    ("returned", .ofInt found.shown.length), ("files", .array (found.shown.map ResultFile.toJson))]

/-- The answer of a tool that succeeded. -/
def successJson (data : Json) : Json :=
  .object [("success", .bool true), ("data", data)]

/-- The answer of a tool that failed. -/
def failureJson (failure : Failure) : Json :=
  .object [("success", .bool false), ("error", .string failure.report.summary),
    ("error_kind", .string failure.kind.name)]

def searchAnswer : Except Failure FoundFiles → Json
  | .ok found => successJson found.toJson
  | .error failure => failureJson failure

/-- A named size range as it is offered. -/
def offeredPreset (preset : SizePreset) : Json :=
  .object [("name", .string preset.name), ("label", .string preset.label)]

/-- The answer that lists what can be searched for. -/
def optionsAnswer (catalog : Catalog) (hasRepository : Bool) : Json :=
  successJson <|
    .object [("size_presets", .array (SizePreset.all.map offeredPreset)),
      ("data_sources", .array (catalog.sources.map DataSource.toJson)),
      ("keyword_lists", .ofStrings catalog.keywordLists),
      ("file_types", .ofStrings (catalog.fileTypes.map FileType.name)),
      ("frequencies", .ofStrings (Frequency.all.map Frequency.name)),
      ("frequency_available", .bool hasRepository)]

/-- What a tool gives back: a text, and whether it reports an error. -/
structure ToolResponse where
  text : String
  isError : Bool
  deriving DecidableEq

namespace ToolResponse

/-- The response that shows an answer. It reports an error unless the answer is a success. -/
def ofAnswer (answer : Json) : ToolResponse :=
  ⟨answer.pretty, !((answer.field? "success").any Json.countsAsTrue)⟩

/-- The response that reports an error outside the tool. -/
def ofError (message : String) : ToolResponse :=
  ⟨"Error: " ++ message, true⟩

def toJson (response : ToolResponse) : Json :=
  .object
    [("content",
        .array [.object [("type", .string "text"), ("text", .string response.text)]]),
      ("isError", .bool response.isError)]

end ToolResponse
end EvidenceSearch
