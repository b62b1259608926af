import EvidenceSearch.Filter.Basic

/-!
# Describing filters

What a filter asks for, in a line that an investigator can read.
-/

namespace EvidenceSearch

def SizeRange.describe (range : SizeRange) : String :=
  match range.high with
  | none => "(" ++ toString range.low ++ " and up)"
  | some high => "(" ++ toString range.low ++ " to " ++ toString high ++ ")"

/-- A path to look for in words. -/
def PathTerm.describe (term : PathTerm) : String :=
  term.text ++ (if term.whole then " (exact match)" else " (substring)")

/-- A data source in words. -/
def SourceChoice.describe (source : SourceChoice) : String :=
  source.name ++ "(" ++ toString source.id ++ ")"

namespace Filter

/-- Texts of which one may apply. -/
def alternatives {Value : Type} (describe : Value → String) (choices : Choices Value) : String :=
  " or ".intercalate (choices.toList.map describe)

/-- A filter in words. -/
def describe : Filter → String
  | .size ranges => "Files with size in range(s): " ++ alternatives SizeRange.describe ranges
  | .parent paths =>
      "Files with paths matching: " ++ alternatives (fun path => path.term.describe) paths
  | .dataSource sources =>
      "Files in data source(s): " ++ alternatives SourceChoice.describe sources
  | .keywordList lists =>
      "Files with keywords in list(s): " ++
        ", ".intercalate (lists.toList.map fun list => list.name)
  | .fileType types => "Files with type: " ++ alternatives (fun choice => choice.type.name) types
  | .frequency frequencies =>
      "Files with frequency: " ++ alternatives Frequency.name frequencies

end Filter
end EvidenceSearch
