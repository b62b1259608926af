import EvidenceSearch.Proofs.Filter.Selecting
import EvidenceSearch.Proofs.Search.Stages
import EvidenceSearch.Proofs.Storage.Ledger
import EvidenceSearch.Tools.Criteria

/-!
# What the arguments of a search ask for

The arguments of a search are criteria about the files that were added: an argument with entries
asks that one of its entries applies. The filters that are made of the arguments admit the row of a
file exactly if the file meets the criteria.
-/

namespace EvidenceSearch

/-! ## Criteria -/

/-- One of the entries of an argument applies, if it has any. -/
def AnyApplies {Entry : Type} (entries? : Option (List Entry)) (Applies : Entry → Prop) : Prop :=
  entries?.getD [] = [] ∨ ∃ entry ∈ entries?.getD [], Applies entry

/-- The size lies above the lower bound and not above the upper one; if that is the number that
stands for none, the size is not below the lower bound. -/
def SizeBounds.Covers (bounds : SizeBounds) (size : Number) : Prop :=
  if bounds.high = SizeBounds.noMaximum then bounds.low.atMost size = true
  else bounds.low.below size ∧ size.atMost bounds.high

/-- A named range or a given one covers the size, if there are any. -/
def SearchArguments.AllowsSize (arguments : SearchArguments) (size : Number) : Prop :=
  arguments.sizePresets.getD [] = [] ∧ arguments.sizeRanges.getD [] = [] ∨
    (∃ name ∈ arguments.sizePresets.getD [], ∃ preset,
      SizePreset.find? name = some preset ∧ preset.range.Covers size) ∨
    ∃ range ∈ arguments.sizeRanges.getD [], (Catalog.rangeBounds range).Covers size

/-- The file meets all criteria but those about frequency. -/
structure SearchArguments.MetBy
    (arguments : SearchArguments) (fileTypes : List FileType) (ledger : Ledger)
    (added : AddedFile) :
    Prop where
  size : ∃ size, added.file.size = some size ∧ arguments.AllowsSize size
  parentPath :
    AnyApplies arguments.parentPaths fun term =>
      ∃ path, added.file.parentPath = some path ∧ term.Matches path
  source : AnyApplies arguments.sourceIds fun id => added.file.sourceId = some id
  list :
    AnyApplies arguments.keywordLists fun list =>
      ⟨some (.finite added.id), some list⟩ ∈ ledger.hits
  type :
    AnyApplies arguments.fileTypes fun name =>
      ∃ type, FileType.find? fileTypes name = some type ∧
        ∃ mediaType ∈ type.mediaTypes, added.file.mediaType = some mediaType

/-- The frequency is one of those that the arguments name, if they name any. -/
def SearchArguments.AllowsFrequency (arguments : SearchArguments) (frequency : Frequency) : Prop :=
  AnyApplies arguments.frequencies fun name =>
    Frequency.ofName? (upperCase (trim name)) = some frequency

theorem requireShape_eq_ok
    {Value : Type} {place : ArgumentPlace} {shape : Shape} {value? : Option Value} {value : Value}
    (required : requireShape place shape value? = .ok value) :
    value? = some value := by
  cases value? with
  | none =>
      cases required
  | some held =>
      rw [Except.ok.inj required]

/-- The arguments are those that a JSON object gives, each read from its own field. -/
structure SearchArguments.ReadFrom (json : Option Json) (arguments : SearchArguments) : Prop where
  sizePresets : stringsArgument json "size_presets" = .ok arguments.sizePresets
  sizeRanges : readObjects readRange json "size_ranges" = .ok arguments.sizeRanges
  parentPaths : readObjects readPath json "parent_paths" = .ok arguments.parentPaths
  sourceIds : numbersArgument json "data_source_ids" = .ok arguments.sourceIds
  keywordLists : stringsArgument json "keyword_lists" = .ok arguments.keywordLists
  fileTypes : stringsArgument json "file_types" = .ok arguments.fileTypes
  frequencies : stringsArgument json "frequencies" = .ok arguments.frequencies
  limit : numberArgument json "limit" = .ok arguments.limit

theorem SearchArguments.readFrom_of_ofJson
    {json : Option Json} {arguments : SearchArguments}
    (parsed : SearchArguments.ofJson json = .ok arguments) :
    arguments.ReadFrom json := by
  rw [SearchArguments.ofJson] at parsed
  obtain ⟨sizePresets, arePresets, parsed⟩ := bind_eq_ok parsed
  obtain ⟨sizeRanges, areRanges, parsed⟩ := bind_eq_ok parsed
  obtain ⟨parentPaths, arePaths, parsed⟩ := bind_eq_ok parsed
  obtain ⟨sourceIds, areIds, parsed⟩ := bind_eq_ok parsed
  obtain ⟨keywordLists, areLists, parsed⟩ := bind_eq_ok parsed
  obtain ⟨fileTypes, areTypes, parsed⟩ := bind_eq_ok parsed
  obtain ⟨frequencies, areFrequencies, parsed⟩ := bind_eq_ok parsed
  obtain ⟨limit, isLimit, ended⟩ := bind_eq_ok parsed
  obtain rfl := Except.ok.inj ended
  exact ⟨arePresets, areRanges, arePaths, areIds, areLists, areTypes, areFrequencies, isLimit⟩

/-! ## Entries that are checked one by one -/

section Checked

variable {Error Entry Value : Type} {check : Entry → Except Error Value}

theorem mapM_eq_ok_cons
    {entry : Entry} {entries : List Entry} {values : List Value}
    (checked : (entry :: entries).mapM check = .ok values) :
    ∃ value others,
      check entry = .ok value ∧ entries.mapM check = .ok others ∧ values = value :: others := by
  rw [List.mapM_cons] at checked
  obtain ⟨value, isValue, rest⟩ := bind_eq_ok checked
  obtain ⟨others, areOthers, ended⟩ := bind_eq_ok rest
  exact ⟨value, others, isValue, areOthers, (Except.ok.inj ended).symm⟩

/-- What holds of one of the values is asked by one of the entries that they were made of. -/
theorem exists_mem_mapM_iff
    {entries : List Entry} {values : List Value} {Holds : Value → Prop} {Asked : Entry → Prop}
    (checked : entries.mapM check = .ok values)
    (same : ∀ entry value, check entry = .ok value → (Holds value ↔ Asked entry)) :
    (∃ value ∈ values, Holds value) ↔ ∃ entry ∈ entries, Asked entry := by
  induction entries generalizing values with
  | nil =>
      obtain rfl := Except.ok.inj checked
      simp
  | cons entry entries inductionHypothesis =>
      obtain ⟨value, others, isValue, areOthers, rfl⟩ := mapM_eq_ok_cons checked
      rw [List.exists_mem_cons_iff, List.exists_mem_cons_iff, same entry value isValue,
        inductionHypothesis areOthers]

theorem mapM_andThen
    {Image : Type} {next : Value → Except Error Image} {entries : List Entry}
    {values : List Value} {images : List Image} (checked : entries.mapM check = .ok values)
    (checkedNext : values.mapM next = .ok images) :
    (entries.mapM fun entry => check entry >>= next) = .ok images := by
  induction entries generalizing values images with
  | nil =>
      obtain rfl := Except.ok.inj checked
      exact checkedNext
  | cons entry entries inductionHypothesis =>
      obtain ⟨value, others, isValue, areOthers, rfl⟩ := mapM_eq_ok_cons checked
      obtain ⟨image, otherImages, isImage, areImages, rfl⟩ := mapM_eq_ok_cons checkedNext
      have head : (check entry >>= next) = .ok image := by
        rw [isValue]
        exact isImage
      rw [List.mapM_cons, head, inductionHypothesis areOthers areImages]
      rfl

theorem mapM_eq_nil_iff
    {entries : List Entry} {values : List Value} (checked : entries.mapM check = .ok values) :
    values = [] ↔ entries = [] := by
  cases entries with
  | nil =>
      obtain rfl := Except.ok.inj checked
      simp
  | cons entry entries =>
      obtain ⟨value, others, _, _, rfl⟩ := mapM_eq_ok_cons checked
      simp

theorem length_of_mapM_eq_ok
    {entries : List Entry} {values : List Value} (checked : entries.mapM check = .ok values) :
    values.length = entries.length := by
  induction entries generalizing values with
  | nil =>
      obtain rfl := Except.ok.inj checked
      rfl
  | cons entry entries inductionHypothesis =>
      obtain ⟨value, others, _, areOthers, rfl⟩ := mapM_eq_ok_cons checked
      rw [List.length_cons, List.length_cons, inductionHypothesis areOthers]

end Checked

/-! ## Filters of arguments -/

namespace Catalog

variable {Entry Value : Type} {make : List Entry → Except Failure Filter}
variable {entries : List Entry} {filters : List Filter}

theorem filterOf_eq_ok (made : filterOf make entries = .ok filters) :
    entries = [] ∧ filters = [] ∨
      entries ≠ [] ∧ ∃ filter, make entries = .ok filter ∧ filters = [filter] := by
  rw [filterOf] at made
  cases entries with
  | nil =>
      obtain rfl := Except.ok.inj made
      exact Or.inl ⟨rfl, rfl⟩
  | cons entry entries =>
      obtain ⟨filter, isFilter, ended⟩ := bind_eq_ok made
      exact Or.inr ⟨List.cons_ne_nil entry entries, filter, isFilter, (Except.ok.inj ended).symm⟩

theorem exists_choices
    {kind : FilterKind} {construct : Choices Value → Filter} {check : Entry → Except Failure Value}
    {filter : Filter}
    (made :
      (do return construct (← Filter.requireValues kind (← entries.mapM check))) = .ok filter) :
    ∃ choices, filter = construct choices ∧ entries.mapM check = .ok choices.toList := by
  obtain ⟨values, checked, rest⟩ := bind_eq_ok made
  obtain ⟨choices, required, ended⟩ := bind_eq_ok rest
  refine ⟨choices, (Except.ok.inj ended).symm, ?_⟩
  cases values with
  | nil =>
      cases required
  | cons first others =>
      obtain rfl := Except.ok.inj required
      exact checked

/-- The filter of an argument holds if one of its entries applies, provided that it holds exactly
if one of its values does. -/
theorem forall_filterOf_iff
    {kind : FilterKind} {construct : Choices Value → Filter} {check : Entry → Except Failure Value}
    {Holds : Filter → Prop} {Applies : Value → Prop} {Asked : Entry → Prop}
    (made :
      filterOf
          (fun entries => do
            return construct (← Filter.requireValues kind (← entries.mapM check)))
          entries =
        .ok filters)
    (holdsIff : ∀ choices, Holds (construct choices) ↔ ∃ value ∈ choices.toList, Applies value)
    (same : ∀ entry value, check entry = .ok value → (Applies value ↔ Asked entry)) :
    (∀ filter ∈ filters, Holds filter) ↔ entries = [] ∨ ∃ entry ∈ entries, Asked entry := by
  rcases filterOf_eq_ok made with ⟨rfl, rfl⟩ | ⟨filled, filter, isFilter, rfl⟩
  · simp
  · obtain ⟨choices, rfl, checked⟩ := exists_choices isFilter
    rw [List.forall_mem_singleton, holdsIff, exists_mem_mapM_iff checked same, or_iff_right filled]

/-- The same for an argument whose entries are looked up first. -/
theorem forall_filterOf_resolved_iff
    {Name : Type} {kind : FilterKind} {construct : Choices Value → Filter}
    {resolve : Name → Except Failure Entry} {check : Entry → Except Failure Value}
    {Holds : Filter → Prop} {Applies : Value → Prop} {Asked : Name → Prop} {names : List Name}
    (resolved : names.mapM resolve = .ok entries)
    (made :
      filterOf
          (fun entries => do
            return construct (← Filter.requireValues kind (← entries.mapM check)))
          entries =
        .ok filters)
    (holdsIff : ∀ choices, Holds (construct choices) ↔ ∃ value ∈ choices.toList, Applies value)
    (same :
      ∀ name entry value, resolve name = .ok entry → check entry = .ok value →
        (Applies value ↔ Asked name)) :
    (∀ filter ∈ filters, Holds filter) ↔ names = [] ∨ ∃ name ∈ names, Asked name := by
  rw [← mapM_eq_nil_iff resolved]
  rcases filterOf_eq_ok made with ⟨rfl, rfl⟩ | ⟨filled, filter, isFilter, rfl⟩
  · simp
  · obtain ⟨choices, rfl, checked⟩ := exists_choices isFilter
    rw [List.forall_mem_singleton, holdsIff, or_iff_right filled]
    refine exists_mem_mapM_iff (mapM_andThen resolved checked) fun name value isValue => ?_
    obtain ⟨entry, isEntry, isChecked⟩ := bind_eq_ok isValue
    exact same name entry value isEntry isChecked

/-- What holds of every filter of that kind holds of those that an argument makes. -/
theorem forall_of_filterOf
    {kind : FilterKind} {construct : Choices Value → Filter} {check : Entry → Except Failure Value}
    {Holds : Filter → Prop}
    (made :
      filterOf
          (fun entries => do
            return construct (← Filter.requireValues kind (← entries.mapM check)))
          entries =
        .ok filters)
    (holds : ∀ choices, Holds (construct choices)) :
    ∀ filter ∈ filters, Holds filter := by
  rcases filterOf_eq_ok made with ⟨_, rfl⟩ | ⟨_, filter, isFilter, rfl⟩
  · exact fun _ member => absurd member List.not_mem_nil
  · obtain ⟨choices, rfl, _⟩ := exists_choices isFilter
    exact List.forall_mem_singleton.mpr (holds choices)

end Catalog

/-! ## Values of filters and entries of arguments -/

theorem Number.eq_of_wholeValue? {number : Number} {value : Int}
    (isWhole : number.wholeValue? = some value) :
    number = .finite value := by
  cases number with
  | nan =>
      cases isWhole
  | infinite negative =>
      cases isWhole
  | finite held =>
      rw [Number.wholeValue?] at isWhole
      split at isWhole
      · rename_i whole
        obtain rfl := Option.some.inj isWhole
        rw [Rat.coe_int_num_of_den_eq_one whole]
      · cases isWhole

theorem SizeBounds.eq_of_natural? {bound : Number} {value : Nat}
    (isNatural : natural? bound = some value) :
    bound = .finite (value : Int) := by
  rw [natural?] at isNatural
  split at isNatural
  · rename_i whole isSafe
    obtain rfl := Option.some.inj isNatural
    rw [Number.safeValue?] at isSafe
    split at isSafe
    · rename_i held isWhole
      split at isSafe
      · obtain rfl := Option.some.inj isSafe
        exact Number.eq_of_wholeValue? isWhole
      · cases isSafe
    · cases isSafe
  · cases isNatural

/-- Bounds that pass the check are those of the range that they mean. -/
theorem SizeBounds.eq_bounds_of_check {bounds : SizeBounds} {range : SizeRange}
    (checked : bounds.check = .ok range) :
    bounds = range.bounds := by
  obtain ⟨low, high⟩ := bounds
  rw [check] at checked
  split at checked
  · cases checked
  · rename_i least isLeast
    have lowIs := eq_of_natural? isLeast
    split at checked
    · rename_i isOpen
      obtain rfl := Except.ok.inj checked
      have highIs := (equals_finite_iff high (-1)).mp isOpen
      exact congrArg₂ SizeBounds.mk lowIs highIs
    · split at checked
      · cases checked
      · rename_i greatest isGreatest
        split at checked
        · obtain rfl := Except.ok.inj checked
          exact congrArg₂ SizeBounds.mk lowIs (eq_of_natural? isGreatest)
        · cases checked

theorem SizeRange.covers_bounds_iff (range : SizeRange) (size : Number) :
    range.bounds.Covers size ↔ range.Covers size := by
  obtain ⟨low, high, ordered⟩ := range
  cases high with
  | none =>
      have isOpen : (SizeRange.mk low none ordered).bounds.high = SizeBounds.noMaximum := rfl
      rw [SizeBounds.Covers, if_pos isOpen]
      rfl
  | some high =>
      have bounded :
          (SizeRange.mk low (some high) ordered).bounds.high ≠ SizeBounds.noMaximum := by
        intro same
        have negative : ((high : Int) : Rat) = ((-1 : Int) : Rat) := Number.finite.inj same
        have negativeInt : (high : Int) = -1 := Rat.intCast_inj.mp negative
        omega
      rw [SizeBounds.Covers, if_neg bounded]
      rfl

namespace Filter

theorem checkSize_covers_iff
    {bounds : SizeBounds} {range : SizeRange} (checked : checkSize bounds = .ok range)
    (size : Number) :
    range.Covers size ↔ bounds.Covers size := by
  rw [checkSize] at checked
  split at checked
  · rename_i found isRange
    obtain rfl := Except.ok.inj checked
    rw [SizeBounds.eq_bounds_of_check isRange, SizeRange.covers_bounds_iff]
  · cases checked

theorem term_of_checkPath
    {term : PathTerm} {choice : PathChoice} (checked : checkPath term = .ok choice) :
    choice.term = term := by
  rw [checkPath] at checked
  split at checked
  · obtain rfl := Except.ok.inj checked
    rfl
  · cases checked

theorem id_of_checkSource
    {source : DataSource} {choice : SourceChoice} (checked : checkSource source = .ok choice) :
    source.id = .finite choice.id := by
  rw [checkSource] at checked
  split at checked
  · cases checked
  · rename_i id isWhole
    split at checked
    · obtain rfl := Except.ok.inj checked
      exact Number.eq_of_wholeValue? isWhole
    · cases checked

theorem name_of_checkList
    {name : String} {choice : ListChoice} (checked : checkList name = .ok choice) :
    choice.name = name := by
  rw [checkList] at checked
  split at checked
  · obtain rfl := Except.ok.inj checked
    rfl
  · cases checked

theorem type_of_checkType
    {type : FileType} {choice : TypeChoice} (checked : checkType type = .ok choice) :
    choice.type = type := by
  rw [checkType] at checked
  split at checked
  · obtain rfl := Except.ok.inj checked
    rfl
  · cases checked

end Filter

namespace Catalog

variable {catalog : Catalog}

theorem find?_of_presetBounds
    {name : String} {bounds : SizeBounds} (found : presetBounds name = .ok bounds) :
    ∃ preset, SizePreset.find? name = some preset ∧ bounds = preset.range.bounds := by
  rw [presetBounds] at found
  split at found
  · rename_i preset isPreset
    exact ⟨preset, isPreset, (Except.ok.inj found).symm⟩
  · cases found

theorem presetBounds_covers_iff
    {name : String} {bounds : SizeBounds} (found : presetBounds name = .ok bounds)
    (size : Number) :
    bounds.Covers size ↔
      ∃ preset, SizePreset.find? name = some preset ∧ preset.range.Covers size := by
  obtain ⟨preset, isPreset, rfl⟩ := find?_of_presetBounds found
  rw [SizeRange.covers_bounds_iff, isPreset]
  simp

theorem eq_id_of_source
    {id : Number} {source : DataSource} {choice : SourceChoice}
    (found : catalog.source id = .ok source) (checked : Filter.checkSource source = .ok choice) :
    id = .finite choice.id := by
  rw [Catalog.source] at found
  split at found
  · rename_i held isHeld
    obtain rfl := Except.ok.inj found
    have equal := List.find?_some isHeld
    rw [Filter.id_of_checkSource checked] at equal
    exact (finite_equals_iff _ _).mp equal
  · cases found

theorem find?_of_fileType
    {name : String} {type : FileType} (found : catalog.fileType name = .ok type) :
    FileType.find? catalog.fileTypes name = some type := by
  rw [Catalog.fileType] at found
  split at found
  · rename_i held isHeld
    obtain rfl := Except.ok.inj found
    exact isHeld
  · cases found

theorem ofName?_of_frequency
    {name : String} {frequency : Frequency} (found : Catalog.frequency name = .ok frequency) :
    Frequency.ofName? (upperCase (trim name)) = some frequency := by
  rw [Catalog.frequency] at found
  split at found
  · rename_i held isHeld
    obtain rfl := Except.ok.inj found
    exact isHeld
  · cases found

/-! ## One argument -/

section OneArgument

variable {arguments : SearchArguments} {filters : List Filter}

/-- Named ranges and given ones make one filter. -/
theorem admit_sizes_iff
    {presets : List SizeBounds}
    (named : (arguments.sizePresets.getD []).mapM presetBounds = .ok presets)
    (made :
      filterOf Filter.ofSizes (presets ++ (arguments.sizeRanges.getD []).map rangeBounds) =
        .ok filters)
    (tables : CaseTables) (file : StoredFile) :
    (∀ filter ∈ filters, filter.Admits tables file) ↔ arguments.AllowsSize file.size := by
  have covers :
      (∀ filter ∈ filters, filter.Admits tables file) ↔
        presets ++ (arguments.sizeRanges.getD []).map rangeBounds = [] ∨
          ∃ bounds ∈ presets ++ (arguments.sizeRanges.getD []).map rangeBounds,
            bounds.Covers file.size :=
    forall_filterOf_iff made (fun _ => Iff.rfl) fun _ _ checked =>
      Filter.checkSize_covers_iff checked file.size
  rw [covers, SearchArguments.AllowsSize, List.append_eq_nil_iff, List.map_eq_nil_iff,
    mapM_eq_nil_iff named]
  simp only [List.mem_append, or_and_right, exists_or, List.mem_map, exists_exists_and_eq_and]
  rw [exists_mem_mapM_iff named fun _ _ found => presetBounds_covers_iff found file.size]

theorem admit_paths_iff
    (made : filterOf Filter.ofPaths (arguments.parentPaths.getD []) = .ok filters)
    (tables : CaseTables) {added : AddedFile}
    (given : added.file.parentPath = some added.row.parentPath) :
    (∀ filter ∈ filters, filter.Admits tables added.row) ↔
      AnyApplies arguments.parentPaths fun term =>
        ∃ path, added.file.parentPath = some path ∧ term.Matches path := by
  refine forall_filterOf_iff made (fun _ => Iff.rfl) fun term choice checked => ?_
  rw [Filter.term_of_checkPath checked, given]
  simp

theorem admit_sources_iff
    {sources : List DataSource}
    (found : (arguments.sourceIds.getD []).mapM catalog.source = .ok sources)
    (made : filterOf Filter.ofSources sources = .ok filters)
    (tables : CaseTables) {added : AddedFile}
    (given : added.file.sourceId = some added.row.sourceId) :
    (∀ filter ∈ filters, filter.Admits tables added.row) ↔
      AnyApplies arguments.sourceIds fun id => added.file.sourceId = some id := by
  refine
    forall_filterOf_resolved_iff found made (fun _ => Iff.rfl)
      fun id source choice isSource checked => ?_
  rw [eq_id_of_source isSource checked, given, Option.some_inj]

/-- The tables have a hit of a list exactly if one was added. -/
theorem admit_lists_iff
    (made : filterOf Filter.ofLists (arguments.keywordLists.getD []) = .ok filters)
    {ledger : Ledger} {tables : CaseTables} (inCase : ledger.InCase tables) (added : AddedFile) :
    (∀ filter ∈ filters, filter.Admits tables added.row) ↔
      AnyApplies arguments.keywordLists fun list =>
        ⟨some (.finite added.id), some list⟩ ∈ ledger.hits := by
  refine forall_filterOf_iff made (fun _ => Iff.rfl) fun list choice checked => ?_
  rw [Filter.name_of_checkList checked]
  exact inCase.hasHit_iff added list

theorem admit_types_iff
    {types : List FileType}
    (found : (arguments.fileTypes.getD []).mapM catalog.fileType = .ok types)
    (made : filterOf Filter.ofTypes types = .ok filters) (tables : CaseTables)
    (added : AddedFile) :
    (∀ filter ∈ filters, filter.Admits tables added.row) ↔
      AnyApplies arguments.fileTypes fun name =>
        ∃ type, FileType.find? catalog.fileTypes name = some type ∧
          ∃ mediaType ∈ type.mediaTypes, added.file.mediaType = some mediaType := by
  refine
    forall_filterOf_resolved_iff found made (fun _ => Iff.rfl)
      fun name type choice isType checked => ?_
  rw [Filter.type_of_checkType checked, find?_of_fileType isType]
  simp [AddedFile.row]

end OneArgument

/-! ## All arguments together -/

/-- The filters that are made of the arguments are some that admit exactly the rows of files that
meet the criteria, and after them those about frequency. -/
theorem exists_filters
    {arguments : SearchArguments} {filters : List Filter}
    (made : catalog.filters arguments = .ok filters) :
    ∃ others frequencyFilters wanted,
      filters = others ++ frequencyFilters ∧
        (∀ filter ∈ others, filter.isFrequency = false) ∧
        (∀ {ledger : Ledger} {tables : CaseTables} {added : AddedFile},
          ledger.InCase tables → added ∈ ledger.files →
            ((∀ filter ∈ others, filter.Admits tables added.row) ↔
              arguments.MetBy catalog.fileTypes ledger added)) ∧
        (arguments.frequencies.getD []).mapM Catalog.frequency = .ok wanted ∧
        filterOf Filter.ofFrequencies wanted = .ok frequencyFilters := by
  rw [Catalog.filters] at made
  obtain ⟨presets, named, rest⟩ := bind_eq_ok made
  obtain ⟨sizes, madeSizes, rest⟩ := bind_eq_ok rest
  obtain ⟨paths, madePaths, rest⟩ := bind_eq_ok rest
  obtain ⟨found, foundSources, rest⟩ := bind_eq_ok rest
  obtain ⟨sources, madeSources, rest⟩ := bind_eq_ok rest
  obtain ⟨lists, madeLists, rest⟩ := bind_eq_ok rest
  obtain ⟨known, knownTypes, rest⟩ := bind_eq_ok rest
  obtain ⟨types, madeTypes, rest⟩ := bind_eq_ok rest
  obtain ⟨wanted, areWanted, rest⟩ := bind_eq_ok rest
  obtain ⟨frequencyFilters, madeFrequencies, ended⟩ := bind_eq_ok rest
  refine
    ⟨sizes ++ paths ++ sources ++ lists ++ types, frequencyFilters, wanted,
      (Except.ok.inj ended).symm, ?_, ?_, areWanted, madeFrequencies⟩
  · simp only [List.forall_mem_append]
    exact
      ⟨⟨⟨⟨forall_of_filterOf madeSizes fun _ => rfl,
        forall_of_filterOf madePaths fun _ => rfl⟩,
        forall_of_filterOf madeSources fun _ => rfl⟩,
        forall_of_filterOf madeLists fun _ => rfl⟩,
        forall_of_filterOf madeTypes fun _ => rfl⟩
  · intro ledger tables added inCase member
    obtain ⟨_, path, size, sourceId⟩ :=
      AddedFile.given_of_complete (inCase.complete added member)
    have sizesIff := admit_sizes_iff named madeSizes tables added.row
    have pathsIff := admit_paths_iff madePaths tables path
    have sourcesIff := admit_sources_iff foundSources madeSources tables sourceId
    have listsIff := admit_lists_iff madeLists inCase added
    have typesIff := admit_types_iff knownTypes madeTypes tables added
    simp only [List.forall_mem_append]
    rw [sizesIff, pathsIff, sourcesIff, listsIff, typesIff]
    constructor
    · rintro ⟨⟨⟨⟨allowsSize, onPath⟩, fromSource⟩, inList⟩, ofType⟩
      exact ⟨⟨_, size, allowsSize⟩, onPath, fromSource, inList, ofType⟩
    · rintro ⟨⟨held, isSize, allowsSize⟩, onPath, fromSource, inList, ofType⟩
      obtain rfl := Option.some.inj (size.symm.trans isSize)
      exact ⟨⟨⟨⟨allowsSize, onPath⟩, fromSource⟩, inList⟩, ofType⟩

variable {arguments : SearchArguments} {filters : List Filter}

theorem filterOf_ofFrequencies
    {wanted : List Frequency} (made : filterOf Filter.ofFrequencies wanted = .ok filters) :
    wanted = [] ∧ filters = [] ∨
      ∃ choices : Choices Frequency, choices.toList = wanted ∧ filters = [.frequency choices] := by
  rcases filterOf_eq_ok made with empty | ⟨filled, filter, isFilter, rfl⟩
  · exact Or.inl empty
  · obtain ⟨choices, required, ended⟩ := bind_eq_ok isFilter
    obtain rfl := Except.ok.inj ended
    refine Or.inr ⟨choices, ?_, rfl⟩
    cases wanted with
    | nil =>
        exact absurd rfl filled
    | cons first others =>
        obtain rfl := Except.ok.inj required
        rfl

/-- The filters admit the row of a file that was added exactly if it meets the criteria. -/
theorem admit_iff
    {ledger : Ledger} {tables : CaseTables} {added : AddedFile}
    (made : catalog.filters arguments = .ok filters) (inCase : ledger.InCase tables)
    (member : added ∈ ledger.files) :
    (∀ filter ∈ filters, filter.Admits tables added.row) ↔
      arguments.MetBy catalog.fileTypes ledger added := by
  obtain ⟨others, frequencyFilters, wanted, rfl, _, othersIff, _, madeFrequencies⟩ :=
    exists_filters made
  have silent : ∀ filter ∈ frequencyFilters, filter.Admits tables added.row := by
    rcases filterOf_ofFrequencies madeFrequencies with ⟨_, rfl⟩ | ⟨choices, _, rfl⟩
    · exact fun _ isFilter => absurd isFilter List.not_mem_nil
    · exact List.forall_mem_singleton.mpr trivial
  rw [List.forall_mem_append, othersIff inCase member, and_iff_left silent]

/-- The filters want a frequency exactly if the arguments allow it. -/
theorem want_iff (made : catalog.filters arguments = .ok filters) (frequency : Frequency) :
    filters.all (Filter.wants frequency) = true ↔ arguments.AllowsFrequency frequency := by
  obtain ⟨others, frequencyFilters, wanted, rfl, notFrequency, _, areWanted, madeFrequencies⟩ :=
    exists_filters made
  have othersWant : others.all (Filter.wants frequency) = true := by
    rw [List.all_eq_true]
    intro filter isFilter
    have isOther := notFrequency filter isFilter
    cases filter with
    | frequency choices =>
        cases isOther
    | _ =>
        rfl
  have isNamed :
      (∃ held ∈ wanted, held = frequency) ↔
        ∃ name ∈ arguments.frequencies.getD [],
          Frequency.ofName? (upperCase (trim name)) = some frequency := by
    refine exists_mem_mapM_iff areWanted fun name held found => ?_
    rw [ofName?_of_frequency found, Option.some_inj]
  rw [List.all_append, othersWant, Bool.true_and, SearchArguments.AllowsFrequency, AnyApplies,
    ← mapM_eq_nil_iff areWanted, ← isNamed]
  rcases filterOf_ofFrequencies madeFrequencies with ⟨rfl, rfl⟩ | ⟨choices, rfl, rfl⟩
  · simp
  · have filled : choices.toList ≠ [] := List.cons_ne_nil _ _
    rw [or_iff_right filled, List.all_cons, List.all_nil, Bool.and_true, Filter.wants,
      List.contains_iff_mem]
    simp

/-- The filters need a repository exactly if the arguments name a frequency. -/
theorem needRepository_iff (made : catalog.filters arguments = .ok filters) :
    Filter.needRepository filters = true ↔ arguments.frequencies.getD [] ≠ [] := by
  obtain ⟨others, frequencyFilters, wanted, rfl, notFrequency, _, areWanted, madeFrequencies⟩ :=
    exists_filters made
  have othersDoNot : others.any Filter.isFrequency = false := by
    rw [List.any_eq_false]
    intro filter isFilter
    rw [notFrequency filter isFilter]
    exact Bool.false_ne_true
  rw [Filter.needRepository, List.any_append, othersDoNot, Bool.false_or, Ne,
    ← mapM_eq_nil_iff areWanted]
  rcases filterOf_ofFrequencies madeFrequencies with ⟨rfl, rfl⟩ | ⟨choices, rfl, rfl⟩
  · simp
  · have filled : choices.toList ≠ [] := List.cons_ne_nil _ _
    exact ⟨fun _ => filled, fun _ => rfl⟩

end Catalog
end EvidenceSearch
