import EvidenceSearch.Proofs.Search.Offering
import EvidenceSearch.Proofs.Search.Presets
import EvidenceSearch.Proofs.Search.Shapes

/-!
# Arguments that become filters

The arguments of a search become filters exactly if every entry can be looked up and used. Each kind
of filter is made once if its argument has an entry, named size ranges and given ones together, and
has one value for each entry, in order. Otherwise the first offence is reported: kind by kind, and
within a kind the names that can not be looked up before the values that can not be used.
-/

namespace EvidenceSearch

/-! ## What entries stand for -/

/-- All kinds, in the order in which filters are made. -/
def FilterKind.inOrder : List FilterKind :=
  [.size, .parent, .dataSource, .keywordList, .fileType, .frequency]

namespace Number

/-- The number is whole, and all whole numbers around it are told apart. -/
def IsSafe (number : Number) : Prop :=
  ∃ value : Int, number = .finite value ∧ value.natAbs ≤ largestSafe.natAbs

theorem wholeValue?_eq_some_iff {number : Number} {value : Int} :
    number.wholeValue? = some value ↔ number = .finite value := by
  constructor
  · exact eq_of_wholeValue?
  · rintro rfl
    rfl

theorem safeValue?_eq_some_iff {number : Number} {value : Int} :
    number.safeValue? = some value ↔
      number = .finite value ∧ value.natAbs ≤ largestSafe.natAbs := by
  rw [← wholeValue?_eq_some_iff, safeValue?]
  cases number.wholeValue? with
  | none =>
      simp
  | some held =>
      simp only [Option.ite_none_right_eq_some, Option.some.injEq]
      rw [and_comm]
      exact and_congr_right fun same => by rw [same]

end Number

namespace SizeArgument

/-- No upper bound is given, or the number that stands for none. -/
def IsOpen (argument : SizeArgument) : Prop :=
  argument.high = none ∨ argument.high = some SizeBounds.noMaximum

/-- The lower bound is a natural number that is told apart from those around it. -/
def HasLow (argument : SizeArgument) (low : Nat) : Prop :=
  argument.low = .finite (low : Int) ∧ low ≤ Number.largestSafe.natAbs

def HasHigh (argument : SizeArgument) (high : Nat) : Prop :=
  argument.high = some (.finite (high : Int)) ∧ high ≤ Number.largestSafe.natAbs

/-- The bounds can be used: the range is open, or its upper bound lies above its lower one. -/
def IsRange (argument : SizeArgument) : Prop :=
  ∃ low, argument.HasLow low ∧
    (argument.IsOpen ∨ ∃ high, argument.HasHigh high ∧ low < high)

/-- The range has the bounds of the argument. -/
def StandsFor (argument : SizeArgument) (range : SizeRange) : Prop :=
  argument.HasLow range.low ∧
    (argument.IsOpen ∧ range.high = none ∨
      ∃ high, argument.HasHigh high ∧ range.high = some high)

end SizeArgument

namespace SearchArguments

/-- Whether there is an entry that a filter of that kind is made of. -/
def gives (arguments : SearchArguments) : FilterKind → Bool
  | .size =>
      !(arguments.sizePresets.getD []).isEmpty || !(arguments.sizeRanges.getD []).isEmpty
  | .parent => !(arguments.parentPaths.getD []).isEmpty
  | .dataSource => !(arguments.sourceIds.getD []).isEmpty
  | .keywordList => !(arguments.keywordLists.getD []).isEmpty
  | .fileType => !(arguments.fileTypes.getD []).isEmpty
  | .frequency => !(arguments.frequencies.getD []).isEmpty

end SearchArguments

/-- The range is that of the named range of that name, whatever its case and the blanks around
it. -/
def NamesRange (name : String) (range : SizeRange) : Prop :=
  ∃ preset ∈ SizePreset.all, preset.name = upperCase (trim name) ∧ preset.range = range

namespace Catalog

variable (catalog : Catalog) (arguments : SearchArguments)

/-- The first data source of the open case with that id. -/
def HasSource (id : Number) (source : DataSource) : Prop :=
  IsFirst (fun source => source.id.equals id = true) catalog.sources source

/-- The first file type with that name, whatever its case and the blanks around it. -/
def HasType (name : String) (type : FileType) : Prop :=
  IsFirst (fun type => lowerCase type.name = lowerCase (trim name)) catalog.fileTypes type

/-- The value names the data source with that id. -/
def StandsForSource (id : Number) (choice : SourceChoice) : Prop :=
  ∃ source, catalog.HasSource id source ∧ source.id = .finite choice.id ∧
    source.name = choice.name

/-- The values of the filter are those of the entries of its argument, one for one and in order. -/
def Gathers : Filter → Prop
  | .size ranges =>
      ∃ named given,
        ranges.toList = named ++ given ∧
          List.Forall₂ NamesRange (arguments.sizePresets.getD []) named ∧
          List.Forall₂ SizeArgument.StandsFor (arguments.sizeRanges.getD []) given
  | .parent paths =>
      List.Forall₂ (fun term path => path.term = term) (arguments.parentPaths.getD [])
        paths.toList
  | .dataSource sources =>
      List.Forall₂ catalog.StandsForSource (arguments.sourceIds.getD []) sources.toList
  | .keywordList lists =>
      List.Forall₂ (fun name list => list.name = name) (arguments.keywordLists.getD [])
        lists.toList
  | .fileType types =>
      List.Forall₂ (fun name choice => catalog.HasType name choice.type)
        (arguments.fileTypes.getD []) types.toList
  | .frequency frequencies =>
      List.Forall₂ (fun name frequency => frequency.name = upperCase (trim name))
        (arguments.frequencies.getD []) frequencies.toList

/-- Every entry can be looked up and used. -/
structure CanUse : Prop where
  sizePresets : ∀ name ∈ arguments.sizePresets.getD [], ∃ range, NamesRange name range
  sizeRanges : ∀ range ∈ arguments.sizeRanges.getD [], range.IsRange
  parentPaths : ∀ path ∈ arguments.parentPaths.getD [], path.text ≠ ""
  sourceIds :
    ∀ id ∈ arguments.sourceIds.getD [],
      id.IsSafe ∧ ∃ source ∈ catalog.sources, source.id = id
  keywordLists : ∀ name ∈ arguments.keywordLists.getD [], name ≠ ""
  fileTypes :
    ∀ name ∈ arguments.fileTypes.getD [],
      ∃ type, catalog.HasType name type ∧ type.mediaTypes ≠ []
  frequencies :
    ∀ name ∈ arguments.frequencies.getD [],
      ∃ frequency : Frequency, frequency.name = upperCase (trim name)

/-! ## What is demanded, in order -/

@[simp]
def presetDemand (name : String) : Demand :=
  ⟨.unknownPreset name (SizePreset.all.map SizePreset.name), ∃ range, NamesRange name range⟩

/-- The lower bound is looked at before the upper one. -/
@[simp]
def rangeDemands (range : SizeArgument) : List Demand :=
  [⟨.sizeRange (.lowerBound range.low), ∃ low, range.HasLow low⟩,
    ⟨.sizeRange (.upperBound range.low (range.high.getD SizeBounds.noMaximum)), range.IsRange⟩]

@[simp]
def pathDemand (path : PathTerm) : Demand :=
  ⟨.emptyPath, path.text ≠ ""⟩

@[simp]
def sourceDemand (id : Number) : Demand :=
  ⟨.unknownSource id, ∃ source, catalog.HasSource id source⟩

@[simp]
def safeDemand (id : Number) : Demand :=
  ⟨.sourceIdNotWhole, id.IsSafe⟩

@[simp]
def listDemand (name : String) : Demand :=
  ⟨.emptyListName, name ≠ ""⟩

@[simp]
def typeDemand (name : String) : Demand :=
  ⟨.unknownFileType name (catalog.fileTypes.map FileType.name),
    ∃ type, catalog.HasType name type⟩

@[simp]
def mediaTypesDemand (name : String) : Demand :=
  ⟨.typeWithoutMediaTypes, ∃ type, catalog.HasType name type ∧ type.mediaTypes ≠ []⟩

@[simp]
def frequencyDemand (name : String) : Demand :=
  ⟨.unknownFrequency name (Frequency.all.map Frequency.name),
    ∃ frequency : Frequency, frequency.name = upperCase (trim name)⟩

/-- What is demanded of the arguments, in the order in which they become filters. Data sources and
file types are all looked up before the first of them is checked. -/
def demands : List Demand :=
  (arguments.sizePresets.getD []).map presetDemand ++
    ((arguments.sizeRanges.getD []).flatMap rangeDemands ++
      ((arguments.parentPaths.getD []).map pathDemand ++
        ((arguments.sourceIds.getD []).map catalog.sourceDemand ++
          ((arguments.sourceIds.getD []).map safeDemand ++
            ((arguments.keywordLists.getD []).map listDemand ++
              ((arguments.fileTypes.getD []).map catalog.typeDemand ++
                ((arguments.fileTypes.getD []).map catalog.mediaTypesDemand ++
                  (arguments.frequencies.getD []).map frequencyDemand)))))))

end Catalog

/-! ## Looking up and checking -/

namespace Catalog

variable {catalog : Catalog} {arguments : SearchArguments}

theorem follows_presetBounds (name : String) :
    Follows [presetDemand name]
      (fun bounds => ∃ preset ∈ SizePreset.all,
        preset.name = upperCase (trim name) ∧ bounds = preset.range.bounds)
      (presetBounds name) := by
  rw [presetBounds]
  split
  · rename_i preset found
    have member := List.mem_of_find?_eq_some found
    have named : preset.name = upperCase (trim name) := by simpa using List.find?_some found
    exact
      Follows.cons ⟨preset.range, preset, member, named, rfl⟩
        (follows_ok ⟨preset, member, named, rfl⟩)
  · rename_i missing
    refine follows_unmet ?_
    rintro ⟨_, preset, member, named, _⟩
    have other := List.find?_eq_none.mp missing preset member
    exact other (decide_eq_true named)

theorem follows_checkSize_named
    {name : String} {bounds : SizeBounds}
    (named :
      ∃ preset ∈ SizePreset.all,
        preset.name = upperCase (trim name) ∧ bounds = preset.range.bounds) :
    Follows [] (NamesRange name) (Filter.checkSize bounds) := by
  obtain ⟨preset, member, isName, rfl⟩ := named
  rw [SizePreset.checkSize_bounds member]
  exact follows_ok ⟨preset, member, isName, rfl⟩

theorem natural?_eq_some_iff {bound : Number} {value : Nat} :
    SizeBounds.natural? bound = some value ↔
      bound = .finite (value : Int) ∧ value ≤ Number.largestSafe.natAbs := by
  constructor
  · intro isNatural
    rw [SizeBounds.natural?] at isNatural
    split at isNatural
    · rename_i held isSafe
      obtain rfl := Option.some.inj isNatural
      exact Number.safeValue?_eq_some_iff.mp isSafe
    · cases isNatural
  · intro isNatural
    have isSafe : bound.safeValue? = some (.ofNat value) :=
      Number.safeValue?_eq_some_iff.mpr isNatural
    rw [SizeBounds.natural?, isSafe]

section Range

variable (range : SizeArgument)

theorem isOpen_rangeBounds_iff : (rangeBounds range).isOpen = true ↔ range.IsOpen := by
  rw [SizeBounds.isOpen, SizeArgument.IsOpen, rangeBounds]
  cases range.high with
  | none =>
      simp [SizeBounds.noMaximum, equals_finite_iff]
  | some high =>
      simp [SizeBounds.noMaximum, equals_finite_iff]

theorem natural?_low_iff (low : Nat) :
    SizeBounds.natural? (rangeBounds range).low = some low ↔ range.HasLow low :=
  natural?_eq_some_iff

theorem natural?_high_iff (high : Nat) :
    SizeBounds.natural? (rangeBounds range).high = some high ↔ range.HasHigh high := by
  rw [natural?_eq_some_iff, SizeArgument.HasHigh, rangeBounds]
  cases range.high with
  | none =>
      -- what stands for no upper bound is no natural number
      have negative : ¬ SizeBounds.noMaximum = .finite (high : Int) := by
        intro same
        have isHigh : ((-1 : Int) : Rat) = ((high : Int) : Rat) := by
          simpa [SizeBounds.noMaximum] using same
        have equal : (-1 : Int) = high := Int.cast_injective isHigh
        omega
      constructor
      · rintro ⟨isHigh, _⟩
        exact absurd isHigh negative
      · rintro ⟨isHigh, _⟩
        cases isHigh
  | some bound =>
      simp

/-- The bounds are checked one after the other, the upper one only if the range is not open. -/
theorem follows_checkSize_given :
    Follows (rangeDemands range) range.StandsFor (Filter.checkSize (rangeBounds range)) := by
  rw [Filter.checkSize, SizeBounds.check]
  cases isLow : SizeBounds.natural? (rangeBounds range).low with
  | none =>
      refine follows_unmet ?_
      rintro ⟨low, hasLow⟩
      rw [(natural?_low_iff range low).mpr hasLow] at isLow
      cases isLow
  | some low =>
      have hasLow := (natural?_low_iff range low).mp isLow
      refine Follows.cons ⟨low, hasLow⟩ ?_
      by_cases isOpen : (rangeBounds range).isOpen = true
      · have opens := (isOpen_rangeBounds_iff range).mp isOpen
        simp only [isOpen, if_true]
        exact Follows.cons ⟨low, hasLow, Or.inl opens⟩ (follows_ok ⟨hasLow, Or.inl ⟨opens, rfl⟩⟩)
      · have bounded := (isOpen_rangeBounds_iff range).not.mp isOpen
        simp only [isOpen]
        cases isHigh : SizeBounds.natural? (rangeBounds range).high with
        | none =>
            refine follows_unmet ?_
            rintro ⟨_, _, opens | ⟨high, hasHigh, _⟩⟩
            · exact bounded opens
            · rw [(natural?_high_iff range high).mpr hasHigh] at isHigh
              cases isHigh
        | some high =>
            have hasHigh := (natural?_high_iff range high).mp isHigh
            by_cases above : low < high
            · simp only [above]
              exact
                Follows.cons ⟨low, hasLow, Or.inr ⟨high, hasHigh, above⟩⟩
                  (follows_ok ⟨hasLow, Or.inr ⟨high, hasHigh, rfl⟩⟩)
            · simp only [above]
              refine follows_unmet ?_
              rintro ⟨otherLow, hasOtherLow, opens | ⟨otherHigh, hasOtherHigh, otherAbove⟩⟩
              · exact bounded opens
              · rw [(natural?_low_iff range otherLow).mpr hasOtherLow] at isLow
                rw [(natural?_high_iff range otherHigh).mpr hasOtherHigh] at isHigh
                rw [Option.some.inj isLow, Option.some.inj isHigh] at otherAbove
                exact above otherAbove

end Range

theorem follows_checkPath (term : PathTerm) :
    Follows [pathDemand term] (fun path => path.term = term) (Filter.checkPath term) :=
  follows_dite Iff.rfl fun _ => rfl

theorem follows_source (id : Number) :
    Follows [catalog.sourceDemand id] (catalog.HasSource id) (catalog.source id) := by
  have isFirst (source : DataSource) :
      (catalog.sources.find? fun source => source.id.equals id) = some source ↔
        catalog.HasSource id source :=
    find?_eq_some_iff_isFirst fun source => Iff.rfl
  refine follows_first isFirst (fun source found => ?_) fun missing => ?_
  · rw [Catalog.source, found]
  · rw [Catalog.source, missing]

theorem follows_checkSource
    {id : Number} {source : DataSource} (found : catalog.HasSource id source) :
    Follows [safeDemand id] (catalog.StandsForSource id) (Filter.checkSource source) := by
  have sameId : source.id = id := ((Number.equals_iff source.id id).mp found.fits).1
  rw [Filter.checkSource]
  split
  · rename_i notWhole
    refine follows_unmet ?_
    rintro ⟨value, isValue, _⟩
    rw [sameId, Number.wholeValue?_eq_some_iff.mpr isValue] at notWhole
    cases notWhole
  · rename_i value isWhole
    have isValue : id = .finite value := sameId ▸ Number.wholeValue?_eq_some_iff.mp isWhole
    have met : (safeDemand id).Met ↔ value.natAbs ≤ Number.largestSafe.natAbs := by
      constructor
      · rintro ⟨other, isOther, safe⟩
        rw [sameId, Number.wholeValue?_eq_some_iff.mpr isOther] at isWhole
        rw [← Option.some.inj isWhole]
        exact safe
      · intro safe
        exact ⟨value, isValue, safe⟩
    exact follows_dite met fun _ => ⟨source, found, sameId.trans isValue, rfl⟩

theorem follows_checkList (name : String) :
    Follows [listDemand name] (fun list => list.name = name) (Filter.checkList name) :=
  follows_dite Iff.rfl fun _ => rfl

theorem follows_fileType (name : String) :
    Follows [catalog.typeDemand name] (catalog.HasType name) (catalog.fileType name) := by
  have isFirst (type : FileType) :
      FileType.find? catalog.fileTypes name = some type ↔ catalog.HasType name type :=
    find?_eq_some_iff_isFirst fun type => decide_eq_true_iff
  refine follows_first isFirst (fun type found => ?_) fun missing => ?_
  · rw [Catalog.fileType, found]
  · rw [Catalog.fileType, missing]

theorem follows_checkType
    {name : String} {type : FileType} (found : catalog.HasType name type) :
    Follows [catalog.mediaTypesDemand name] (fun choice => catalog.HasType name choice.type)
      (Filter.checkType type) := by
  have met : (catalog.mediaTypesDemand name).Met ↔ type.mediaTypes ≠ [] := by
    constructor
    · rintro ⟨other, foundToo, listed⟩
      rw [found.unique foundToo]
      exact listed
    · intro listed
      exact ⟨type, found, listed⟩
  exact follows_dite met fun _ => found

theorem follows_frequency (name : String) :
    Follows [frequencyDemand name] (fun frequency => frequency.name = upperCase (trim name))
      (frequency name) := by
  rw [frequency]
  split
  · rename_i frequency found
    have named : frequency.name = upperCase (trim name) := by simpa using List.find?_some found
    exact Follows.cons ⟨frequency, named⟩ (follows_ok named)
  · rename_i missing
    refine follows_unmet ?_
    rintro ⟨frequency, named⟩
    have other := List.find?_eq_none.mp missing frequency frequency.mem_all
    exact other (decide_eq_true named)

/-! ## Filters of arguments -/

/-- The filter with some values, if there are any. -/
def filterWith {Value : Type} (construct : Choices Value → Filter) (values : List Value) :
    List Filter :=
  ((Choices.ofList? values).map construct).toList

/-- The filters are those of some kinds, in order: there is one of a kind if its argument has an
entry, and its values are those of the entries. -/
structure Makes
    (catalog : Catalog) (arguments : SearchArguments) (kinds : List FilterKind)
    (filters : List Filter) :
    Prop where
  kinds : filters.map Filter.kind = kinds.filter arguments.gives
  gathers : ∀ filter ∈ filters, catalog.Gathers arguments filter

section FilterWith

variable {Entry Value : Type} {kind : FilterKind} {construct : Choices Value → Filter}

theorem filterOf_eq_filterWith
    (construct : Choices Value → Filter) (kind : FilterKind)
    (check : Entry → Except Failure Value) (entries : List Entry) :
    filterOf
        (fun entries => do return construct (← Filter.requireValues kind (← entries.mapM check)))
        entries =
      filterWith construct <$> entries.mapM check := by
  cases entries with
  | nil =>
      rfl
  | cons entry entries =>
      rw [filterOf, List.isEmpty_cons, if_neg Bool.false_ne_true]
      cases checked : (entry :: entries).mapM check with
      | error failure =>
          rfl
      | ok values =>
          obtain ⟨value, others, _, _, rfl⟩ := mapM_eq_ok_cons checked
          rfl

theorem makes_filterWith
    {values : List Value} (isKind : ∀ choices, (construct choices).kind = kind)
    (given : arguments.gives kind = !values.isEmpty)
    (gathers :
      ∀ choices, choices.toList = values → catalog.Gathers arguments (construct choices)) :
    catalog.Makes arguments [kind] (filterWith construct values) := by
  cases values with
  | nil =>
      refine ⟨?_, fun filter member => absurd member List.not_mem_nil⟩
      rw [List.filter_cons_of_neg (by rw [given]; exact Bool.false_ne_true)]
      rfl
  | cons first others =>
      have made : filterWith construct (first :: others) = [construct ⟨first, others⟩] := rfl
      rw [made]
      refine ⟨?_, List.forall_mem_singleton.mpr (gathers ⟨first, others⟩ rfl)⟩
      rw [List.filter_cons_of_pos (by rw [given]; rfl), List.map_singleton, isKind]
      rfl

theorem isEmpty_eq_of_forall₂
    {Relates : Entry → Value → Prop} {entries : List Entry} {values : List Value}
    (related : List.Forall₂ Relates entries values) :
    entries.isEmpty = values.isEmpty := by
  cases related <;> rfl

end FilterWith

/-- An argument whose entries are checked one by one makes the filters of its kind. -/
theorem follows_filterOf
    {Source Entry Value : Type} {kind : FilterKind} {construct : Choices Value → Filter}
    {check : Entry → Except Failure Value} {demandsOf : Source → List Demand}
    {Stands : Source → Entry → Prop} {Relates : Source → Value → Prop} {sources : List Source}
    {entries : List Entry} (stand : List.Forall₂ Stands sources entries)
    (each :
      ∀ source entry, Stands source entry →
        Follows (demandsOf source) (Relates source) (check entry))
    (isKind : ∀ choices, (construct choices).kind = kind)
    (given : arguments.gives kind = !sources.isEmpty)
    (gathers :
      ∀ choices, List.Forall₂ Relates sources choices.toList →
        catalog.Gathers arguments (construct choices)) :
    Follows (sources.flatMap demandsOf) (catalog.Makes arguments [kind])
      (filterOf
        (fun entries => do return construct (← Filter.requireValues kind (← entries.mapM check)))
        entries) := by
  rw [filterOf_eq_filterWith]
  refine (follows_mapM stand each).map fun values related => makes_filterWith isKind ?_ ?_
  · rw [given, isEmpty_eq_of_forall₂ related]
  · rintro choices rfl
    exact gathers choices related

section Kinds

variable (catalog)

/-- Named ranges and given ones are values of one filter. -/
theorem follows_sizes
    {presets : List SizeBounds}
    (named :
      List.Forall₂
        (fun name bounds => ∃ preset ∈ SizePreset.all,
          preset.name = upperCase (trim name) ∧ bounds = preset.range.bounds)
        (arguments.sizePresets.getD []) presets) :
    Follows ((arguments.sizeRanges.getD []).flatMap rangeDemands)
      (catalog.Makes arguments [.size])
      (filterOf Filter.ofSizes
        (presets ++ (arguments.sizeRanges.getD []).map rangeBounds)) := by
  have checkedNames :
      Follows [] (List.Forall₂ NamesRange (arguments.sizePresets.getD []))
        (presets.mapM Filter.checkSize) := by
    -- named ranges were looked up, and their bounds pass every check
    have checked := follows_mapM named fun name bounds => follows_checkSize_named
    have noDemands :
        ((arguments.sizePresets.getD []).flatMap fun _ => ([] : List Demand)) = [] :=
      List.flatMap_eq_nil_iff.mpr fun _ _ => rfl
    rw [noDemands] at checked
    exact checked
  have checkedRanges :
      Follows ((arguments.sizeRanges.getD []).flatMap rangeDemands)
        (List.Forall₂ SizeArgument.StandsFor (arguments.sizeRanges.getD []))
        (((arguments.sizeRanges.getD []).map rangeBounds).mapM Filter.checkSize) := by
    rw [List.mapM_map]
    exact follows_each follows_checkSize_given _
  have checked :
      Follows ((arguments.sizeRanges.getD []).flatMap rangeDemands)
        (fun ranges => ∃ named given,
          ranges = named ++ given ∧
            List.Forall₂ NamesRange (arguments.sizePresets.getD []) named ∧
            List.Forall₂ SizeArgument.StandsFor (arguments.sizeRanges.getD []) given)
        ((presets ++ (arguments.sizeRanges.getD []).map rangeBounds).mapM
          Filter.checkSize) := by
    rw [List.mapM_append]
    exact
      checkedNames.bind fun named areNamed =>
        checkedRanges.map fun given areGiven => ⟨named, given, rfl, areNamed, areGiven⟩
  have made :
      filterOf Filter.ofSizes (presets ++ (arguments.sizeRanges.getD []).map rangeBounds) =
        filterWith .size <$>
          (presets ++ (arguments.sizeRanges.getD []).map rangeBounds).mapM Filter.checkSize :=
    filterOf_eq_filterWith .size .size Filter.checkSize _
  rw [made]
  refine checked.map fun ranges gathered => ?_
  obtain ⟨named, given, rfl, areNamed, areGiven⟩ := gathered
  refine makes_filterWith (fun _ => rfl) ?_ fun choices isChoices =>
    ⟨named, given, isChoices, areNamed, areGiven⟩
  rw [SearchArguments.gives, isEmpty_eq_of_forall₂ areNamed, isEmpty_eq_of_forall₂ areGiven]
  cases named <;> rfl

theorem follows_paths :
    Follows ((arguments.parentPaths.getD []).map pathDemand) (catalog.Makes arguments [.parent])
      (filterOf Filter.ofPaths (arguments.parentPaths.getD [])) := by
  have alike : List.Forall₂ Eq (arguments.parentPaths.getD []) (arguments.parentPaths.getD []) :=
    List.forall₂_refl _
  rw [List.map_eq_flatMap]
  refine
    follows_filterOf alike (fun term entry same => ?_) (fun _ => rfl) rfl
      fun _ related => related
  obtain rfl := same
  exact follows_checkPath term

theorem follows_sources
    {sources : List DataSource}
    (found : List.Forall₂ catalog.HasSource (arguments.sourceIds.getD []) sources) :
    Follows ((arguments.sourceIds.getD []).map safeDemand) (catalog.Makes arguments [.dataSource])
      (filterOf Filter.ofSources sources) := by
  rw [List.map_eq_flatMap]
  exact
    follows_filterOf found (fun id source => follows_checkSource) (fun _ => rfl) rfl
      fun _ related => related

theorem follows_lists :
    Follows ((arguments.keywordLists.getD []).map listDemand)
      (catalog.Makes arguments [.keywordList])
      (filterOf Filter.ofLists (arguments.keywordLists.getD [])) := by
  have alike :
      List.Forall₂ Eq (arguments.keywordLists.getD []) (arguments.keywordLists.getD []) :=
    List.forall₂_refl _
  rw [List.map_eq_flatMap]
  refine
    follows_filterOf alike (fun name entry same => ?_) (fun _ => rfl) rfl
      fun _ related => related
  obtain rfl := same
  exact follows_checkList name

theorem follows_types
    {types : List FileType}
    (found : List.Forall₂ catalog.HasType (arguments.fileTypes.getD []) types) :
    Follows ((arguments.fileTypes.getD []).map catalog.mediaTypesDemand)
      (catalog.Makes arguments [.fileType]) (filterOf Filter.ofTypes types) := by
  rw [List.map_eq_flatMap]
  exact
    follows_filterOf found (fun name type => follows_checkType) (fun _ => rfl) rfl
      fun _ related => related

theorem follows_frequencies
    {frequencies : List Frequency}
    (named :
      List.Forall₂ (fun name frequency => frequency.name = upperCase (trim name))
        (arguments.frequencies.getD []) frequencies) :
    Follows [] (catalog.Makes arguments [.frequency])
      (filterOf Filter.ofFrequencies frequencies) := by
  have made :
      filterOf Filter.ofFrequencies frequencies = .ok (filterWith .frequency frequencies) := by
    cases frequencies <;> rfl
  rw [made]
  refine follows_ok (makes_filterWith (fun _ => rfl) ?_ ?_)
  · rw [← isEmpty_eq_of_forall₂ named]
    rfl
  · rintro choices rfl
    exact named

end Kinds

/-- Filters that are made kind by kind are all that the arguments ask for. -/
theorem Makes.append
    {catalog : Catalog} {first second : List Filter} {kinds others : List FilterKind}
    (makes : catalog.Makes arguments kinds first)
    (makesToo : catalog.Makes arguments others second) :
    catalog.Makes arguments (kinds ++ others) (first ++ second) := by
  refine ⟨?_, List.forall_mem_append.mpr ⟨makes.gathers, makesToo.gathers⟩⟩
  rw [List.map_append, makes.kinds, makesToo.kinds, List.filter_append]

theorem follows_filters (catalog : Catalog) (arguments : SearchArguments) :
    Follows (catalog.demands arguments) (catalog.Makes arguments FilterKind.inOrder)
      (catalog.filters arguments) := by
  have each {Name Entry : Type} {demandOf : Name → Demand} {Relates : Name → Entry → Prop}
      {look : Name → Except Failure Entry}
      (looks : ∀ name, Follows [demandOf name] (Relates name) (look name)) (names : List Name) :
      Follows (names.map demandOf) (List.Forall₂ Relates names) (names.mapM look) := by
    rw [List.map_eq_flatMap]
    exact follows_each looks names
  rw [filters, demands]
  refine (each follows_presetBounds _).bind fun presets named => ?_
  refine (follows_sizes catalog named).bind fun sizes makesSizes => ?_
  refine (follows_paths catalog).bind fun paths makesPaths => ?_
  refine (each follows_source _).bind fun found areFound => ?_
  refine (follows_sources catalog areFound).bind fun sources makesSources => ?_
  refine (follows_lists catalog).bind fun lists makesLists => ?_
  refine (each follows_fileType _).bind fun known areKnown => ?_
  refine (follows_types catalog areKnown).bind fun types makesTypes => ?_
  -- frequencies are not checked once they are looked up
  rw [← List.append_nil ((arguments.frequencies.getD []).map frequencyDemand)]
  refine (each follows_frequency _).bind fun wanted areWanted => ?_
  refine (follows_frequencies catalog areWanted).map fun frequencies makesFrequencies => ?_
  exact
    (((((makesSizes.append makesPaths).append makesSources).append makesLists).append
      makesTypes).append makesFrequencies)

/-- All demands are met exactly if every entry can be looked up and used. -/
theorem demands_met_iff :
    (∀ demand ∈ catalog.demands arguments, demand.Met) ↔ catalog.CanUse arguments := by
  simp only [demands, List.forall_mem_append, List.forall_mem_map, List.forall_mem_flatMap]
  constructor
  · rintro ⟨presets, ranges, paths, found, safe, lists, _, types, frequencies⟩
    refine ⟨presets, fun range member => ?_, paths, fun id member => ⟨safe id member, ?_⟩, lists,
      types, frequencies⟩
    · exact ranges range member _ (List.mem_cons_of_mem _ List.mem_cons_self)
    · obtain ⟨source, first⟩ := found id member
      exact ⟨source, first.mem, ((Number.equals_iff source.id id).mp first.fits).1⟩
  · rintro ⟨presets, ranges, paths, ids, lists, types, frequencies⟩
    refine ⟨presets, fun range member => ?_, paths, fun id member => ?_,
      fun id member => (ids id member).1, lists, fun name member => ?_, types, frequencies⟩
    · obtain ⟨low, hasLow, bounded⟩ := ranges range member
      rw [rangeDemands, List.forall_mem_cons, List.forall_mem_singleton]
      exact ⟨⟨low, hasLow⟩, low, hasLow, bounded⟩
    · obtain ⟨⟨value, rfl, _⟩, source, isSource, sameId⟩ := ids id member
      exact
        exists_isFirst_iff.mpr ⟨source, isSource, (equals_finite_iff source.id value).mpr sameId⟩
    · obtain ⟨type, found, _⟩ := types name member
      exact ⟨type, found⟩

/-- Whatever is demanded, it is the input that is blamed. -/
theorem kind_of_mem_demands :
    ∀ demand ∈ catalog.demands arguments, demand.failure.kind = .invalidInput := by
  simp only [demands, List.forall_mem_append, List.forall_mem_map, List.forall_mem_flatMap]
  simp [Failure.kind]

end Catalog

/-! ## The order of the fields -/

theorem lookup_eq_of_perm
    {fields other : List (String × Json)} (perm : fields.Perm other)
    (distinct : (fields.map Prod.fst).Nodup) (key : String) :
    fields.lookup key = other.lookup key := by
  induction perm with
  | nil =>
      rfl
  | cons field _ inductionHypothesis =>
      obtain ⟨_, distinctOthers⟩ := List.nodup_cons.mp distinct
      rw [List.lookup_cons, List.lookup_cons, inductionHypothesis distinctOthers]
  | swap first second fields =>
      obtain ⟨firstKey, firstValue⟩ := first
      obtain ⟨secondKey, secondValue⟩ := second
      simp only [List.map_cons, List.nodup_cons, List.mem_cons, not_or] at distinct
      simp only [List.lookup_cons]
      by_cases isFirst : key = firstKey
      · have notSecond : (key == secondKey) = false :=
          beq_eq_false_iff_ne.mpr (isFirst ▸ Ne.symm distinct.1.1)
        rw [notSecond]
      · rw [beq_eq_false_iff_ne.mpr isFirst]
  | trans perm _ inductionHypothesis laterHypothesis =>
      have distinctBetween := (perm.map Prod.fst).nodup_iff.mp distinct
      rw [inductionHypothesis distinct, laterHypothesis distinctBetween]

namespace Catalog

/-- The second name is not known, which comes before the media types that the first one lacks. -/
example :
    Catalog.filters ⟨[], [], [⟨"Odd", []⟩]⟩ { fileTypes := some ["odd ", "none"] } =
      .error (.unknownFileType "none" ["Odd"]) := by
  decide +kernel

end Catalog
end EvidenceSearch
