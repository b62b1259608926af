/-!
# Kinds of filters

The six properties of a file that a filter can ask about.
-/

namespace EvidenceSearch

/-- What a filter asks about. -/
inductive FilterKind where
  | size
  | parent
  | dataSource
  | keywordList
  | fileType
  | frequency
  deriving DecidableEq

namespace FilterKind

def name : FilterKind → String
  | .size => "size"
  | .parent => "parent"
  | .dataSource => "dataSource"
  | .keywordList => "keywordList"
  | .fileType => "fileType"
  | .frequency => "frequency"

/-- The name of a kind in messages. -/
def title : FilterKind → String
  | .size => "Size"
  | .parent => "Parent path"
  | .dataSource => "Data source"
  | .keywordList => "Keyword list"
  | .fileType => "File type"
  | .frequency => "Frequency"

end FilterKind
end EvidenceSearch
