import EvidenceSearch.Tools.Arguments

/-!
# From arguments to filters

The names and ids among the arguments of a search are looked up in the catalogue of the open case.
Every argument that has an entry becomes one filter, in a fixed order; named size ranges and given
ones share a filter, the named ones first.
-/

namespace EvidenceSearch

/-- What the open case can be searched for. -/
structure Catalog where
  sources : List DataSource
  keywordLists : List String
  fileTypes : List FileType

namespace Catalog

/-- The filter of an argument, if it has an entry. -/
def filterOf
    {Value : Type}
    (make : List Value → Except Failure Filter)
    (entries : List Value) :
    Except Failure (List Filter) :=
  if entries.isEmpty then .ok [] else do return [← make entries]

def presetBounds (name : String) : Except Failure SizeBounds :=
  match SizePreset.find? name with
  | some preset => .ok preset.range.bounds
  | none => .error (.unknownPreset name (SizePreset.all.map SizePreset.name))

def rangeBounds (range : SizeArgument) : SizeBounds :=
  ⟨range.low, range.high.getD SizeBounds.noMaximum⟩

def source (catalog : Catalog) (id : Number) : Except Failure DataSource :=
  match catalog.sources.find? fun source => source.id.equals id with
  | some source => .ok source
  | none => .error (.unknownSource id)

def fileType (catalog : Catalog) (name : String) : Except Failure FileType :=
  match FileType.find? catalog.fileTypes name with
  | some type => .ok type
  | none => .error (.unknownFileType name (catalog.fileTypes.map FileType.name))

/-- The frequency of that name, whatever its case and the blanks around it. -/
def frequency (name : String) : Except Failure Frequency :=
  match Frequency.ofName? (upperCase (trim name)) with
  | some frequency => .ok frequency
  | none => .error (.unknownFrequency name (Frequency.all.map Frequency.name))

def filters (catalog : Catalog) (arguments : SearchArguments) : Except Failure (List Filter) := do
  let presets ← (arguments.sizePresets.getD []).mapM presetBounds
  let ranges := (arguments.sizeRanges.getD []).map rangeBounds
  let sizes ← filterOf Filter.ofSizes (presets ++ ranges)
  let paths ← filterOf Filter.ofPaths (arguments.parentPaths.getD [])
  let sources ← (arguments.sourceIds.getD []).mapM catalog.source
  let sources ← filterOf Filter.ofSources sources
  let lists ← filterOf Filter.ofLists (arguments.keywordLists.getD [])
  let types ← (arguments.fileTypes.getD []).mapM catalog.fileType
  let types ← filterOf Filter.ofTypes types
  let frequencies ← (arguments.frequencies.getD []).mapM frequency
  let frequencies ← filterOf Filter.ofFrequencies frequencies
  return sizes ++ paths ++ sources ++ lists ++ types ++ frequencies

end Catalog
end EvidenceSearch
