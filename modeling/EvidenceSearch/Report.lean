import EvidenceSearch.Json.Writer

/-!
# Reports of failed searches

What a caller is told about a search that failed: which agreement was broken, a message, and the
text of what caused it if that came from outside.
-/

namespace EvidenceSearch

/-- Which agreement a failed search broke. -/
inductive ReportKind where
  | invalidInput
  | storeFailure
  | enrichmentFailure
  | misconfiguredFilter
  deriving DecidableEq

namespace ReportKind

def all : List ReportKind :=
  [.invalidInput, .storeFailure, .enrichmentFailure, .misconfiguredFilter]

def name : ReportKind → String
  | .invalidInput => "INVALID_INPUT"
  | .storeFailure => "STORE_FAILURE"
  | .enrichmentFailure => "ENRICHMENT_FAILURE"
  | .misconfiguredFilter => "MISCONFIGURED_FILTER"

def ofName? (text : String) : Option ReportKind :=
  all.find? fun kind => kind.name = text

end ReportKind

/-- The report of a failed search. -/
structure Report where
  kind : ReportKind
  message : String
  cause : Option String := none
  deriving DecidableEq

namespace Report

def toJson (report : Report) : Json :=
  .object
    ([("kind", .string report.kind.name), ("message", .string report.message)] ++
      (report.cause.map fun cause => ("cause", Json.string cause)).toList)

/-- Message and cause in one text. -/
def summary (report : Report) : String :=
  match report.cause with
  | some cause => report.message ++ ": " ++ cause
  | none => report.message

end Report
end EvidenceSearch
