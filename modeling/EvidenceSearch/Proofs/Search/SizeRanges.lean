import EvidenceSearch.Proofs.Search.Criteria

/-!
# Size ranges among the arguments of a search

An entry of the size ranges gives a lower bound and, unless it is open, an upper one. The clause
that is made of the entries is true of a file exactly if one of them covers its size. The bound of
an open entry belongs to it, that of any other does not. With very many entries the clause has too
many levels to be read.
-/

namespace EvidenceSearch

open Sql CaseTables

/-! ## What entries say -/

/-- The size lies in the range that an entry gives: above its lower bound and not above its upper
one or, if the entry leaves the upper bound out, not below its lower bound. -/
def Json.CoversSize (entry : Json) (size : Number) : Prop :=
  ∃ low,
    (entry.field? "min_bytes").bind Json.number? = some low ∧
      (entry.field? "max_bytes" = none ∧ low.atMost size = true ∨
        ∃ high,
          (entry.field? "max_bytes").bind Json.number? = some high ∧
            low.below size = true ∧ size.atMost high = true)

/-- The entry gives the number that stands for no upper bound as its upper bound. -/
def Json.GivesNoMaximum (entry : Json) : Prop :=
  (entry.field? "max_bytes").bind Json.number? = some SizeBounds.noMaximum

namespace SearchArguments

theorem eq_of_optionalField
    {Value : Type} {place : ArgumentPlace} {shape : Shape} {read? : Json → Option Value}
    {field? : Option Json} {value? : Option Value}
    (shaped : optionalField place shape read? field? = .ok value?) :
    field? = none ∧ value? = none ∨
      ∃ value, field?.bind read? = some value ∧ value? = some value := by
  cases field? with
  | none =>
      exact Or.inl ⟨rfl, (Except.ok.inj shaped).symm⟩
  | some field =>
      obtain ⟨value, isValue, ended⟩ := bind_eq_ok shaped
      exact Or.inr ⟨value, requireShape_eq_ok isValue, (Except.ok.inj ended).symm⟩

/-- The bounds of a range are those of its entry, the number for no upper bound apart. -/
theorem covers_rangeBounds_iff
    {index : Nat} {entry : Json} {range : SizeArgument}
    (read : readRange index entry = .ok range) (regular : ¬ entry.GivesNoMaximum)
    (size : Number) :
    (Catalog.rangeBounds range).Covers size ↔ entry.CoversSize size := by
  obtain ⟨low, isLow, rest⟩ := bind_eq_ok read
  obtain ⟨high?, isHigh, ended⟩ := bind_eq_ok rest
  obtain rfl := Except.ok.inj ended
  have givesLow := requireShape_eq_ok isLow
  rw [SizeBounds.Covers, Json.CoversSize]
  -- an upper bound that is left out becomes the number for none, and no other one does
  rcases eq_of_optionalField isHigh with ⟨omitted, rfl⟩ | ⟨high, givesHigh, rfl⟩
  · have isOpen : (Catalog.rangeBounds ⟨low, none⟩).high = SizeBounds.noMaximum := rfl
    rw [if_pos isOpen]
    constructor
    · intro covered
      exact ⟨low, givesLow, Or.inl ⟨omitted, covered⟩⟩
    · rintro ⟨other, givesOther, ⟨_, covered⟩ | ⟨high, givesHigh, _⟩⟩
      · obtain rfl := Option.some.inj (givesLow.symm.trans givesOther)
        exact covered
      · rw [omitted] at givesHigh
        cases givesHigh
  · have bounded : (Catalog.rangeBounds ⟨low, some high⟩).high ≠ SizeBounds.noMaximum := by
      rintro rfl
      exact regular givesHigh
    rw [if_neg bounded]
    constructor
    · intro covered
      exact ⟨low, givesLow, Or.inr ⟨high, givesHigh, covered⟩⟩
    · rintro ⟨other, givesOther, ⟨omitted, _⟩ | ⟨otherHigh, givesOtherHigh, covered⟩⟩
      · rw [omitted] at givesHigh
        cases givesHigh
      · obtain rfl := Option.some.inj (givesLow.symm.trans givesOther)
        obtain rfl := Option.some.inj (givesHigh.symm.trans givesOtherHigh)
        exact covered

/-! ## Entries that are read one by one -/

section ReadEach

variable {Value : Type} {read : Nat → Json → Except Failure Value} {index : Nat}

theorem readEach_eq_ok_cons
    {item : Json} {items : List Json} {values : List Value}
    (isRead : readEach read index (item :: items) = .ok values) :
    ∃ value others,
      read index item = .ok value ∧ readEach read (index + 1) items = .ok others ∧
        values = value :: others := by
  obtain ⟨value, isValue, rest⟩ := bind_eq_ok isRead
  obtain ⟨others, areOthers, ended⟩ := bind_eq_ok rest
  exact ⟨value, others, isValue, areOthers, (Except.ok.inj ended).symm⟩

theorem length_of_readEach
    {items : List Json} {values : List Value} (isRead : readEach read index items = .ok values) :
    values.length = items.length := by
  induction items generalizing index values with
  | nil =>
      obtain rfl := Except.ok.inj isRead
      rfl
  | cons item items inductionHypothesis =>
      obtain ⟨value, others, _, areOthers, rfl⟩ := readEach_eq_ok_cons isRead
      rw [List.length_cons, List.length_cons, inductionHypothesis areOthers]

/-- What holds of one of the values is asked by one of the items that they were read from. -/
theorem exists_mem_readEach_iff
    {items : List Json} {values : List Value} {Holds : Value → Prop} {Asked : Json → Prop}
    (isRead : readEach read index items = .ok values)
    (same :
      ∀ item ∈ items, ∀ index value, read index item = .ok value → (Holds value ↔ Asked item)) :
    (∃ value ∈ values, Holds value) ↔ ∃ item ∈ items, Asked item := by
  induction items generalizing index values with
  | nil =>
      obtain rfl := Except.ok.inj isRead
      simp
  | cons item items inductionHypothesis =>
      obtain ⟨value, others, isValue, areOthers, rfl⟩ := readEach_eq_ok_cons isRead
      have sameOthers :=
        inductionHypothesis areOthers fun other member =>
          same other (List.mem_cons_of_mem item member)
      rw [List.exists_mem_cons_iff, List.exists_mem_cons_iff,
        same item List.mem_cons_self index value isValue, sameOthers]

theorem eq_of_readEach_objects
    {key : String} {items objects : List Json}
    (isRead :
      readEach (fun index item => requireShape (.entry key index) .object (object? item)) index
          items =
        .ok objects) :
    objects = items := by
  induction items generalizing index objects with
  | nil =>
      exact (Except.ok.inj isRead).symm
  | cons item items inductionHypothesis =>
      obtain ⟨object, others, isObject, areOthers, rfl⟩ := readEach_eq_ok_cons isRead
      have same := requireShape_eq_ok isObject
      rw [object?] at same
      split at same
      · rw [Option.some.inj same, inductionHypothesis areOthers]
      · cases same

end ReadEach

theorem readEach_of_readObjects
    {Value : Type} {read : Nat → Json → Except Failure Value} {arguments : Option Json}
    {key : String} {items : List Json} {values? : Option (List Value)}
    (given : argument? arguments key = some (.array items))
    (isRead : readObjects read arguments key = .ok values?) :
    ∃ values, readEach read 0 items = .ok values ∧ values? = some values := by
  obtain ⟨objects?, areObjects, rest⟩ := bind_eq_ok isRead
  rw [objectsArgument, arrayArgument, given] at areObjects
  obtain ⟨listed, isListed, areObjects⟩ := bind_eq_ok areObjects
  obtain rfl := Except.ok.inj isListed
  obtain ⟨objects, eachObject, ended⟩ := bind_eq_ok areObjects
  obtain rfl := Except.ok.inj ended
  obtain rfl := eq_of_readEach_objects eachObject
  obtain ⟨values, areValues, ended⟩ := bind_eq_ok rest
  exact ⟨values, areValues, (Except.ok.inj ended).symm⟩

end SearchArguments

/-! ## The clause of size ranges -/

theorem SizeRange.le_depth_condition (range : SizeRange) : 2 ≤ range.condition.depth := by
  rw [SizeRange.condition]
  cases range.high with
  | none =>
      exact Nat.le_refl 2
  | some high =>
      exact Nat.le_succ 2

theorem SizeRange.depth_condition_le (range : SizeRange) : range.condition.depth ≤ 3 := by
  rw [SizeRange.condition]
  cases range.high with
  | none =>
      exact Nat.le_succ 2
  | some high =>
      exact Nat.le_refl 3

namespace Filter

theorem depth_sizes_le (ranges : Choices SizeRange) :
    (ranges.condition SizeRange.condition).depth ≤ ranges.toList.length + 2 := by
  have shallow :
      ∀ condition ∈ ranges.others.map SizeRange.condition, condition.depth ≤ 3 := by
    intro condition member
    obtain ⟨range, _, rfl⟩ := List.mem_map.mp member
    exact range.depth_condition_le
  have levels := depth_foldl_le Reading.addsLevel_either shallow ranges.first.condition
  have first := ranges.first.depth_condition_le
  rw [List.length_map] at levels
  rw [Choices.condition, Choices.toList, List.length_cons]
  omega

theorem length_lt_depth_sizes (ranges : Choices SizeRange) :
    ranges.toList.length < (ranges.condition SizeRange.condition).depth := by
  have levels :=
    depth_add_length_le_foldl Reading.addsLevel_either ranges.first.condition
      (ranges.others.map SizeRange.condition)
  have first := ranges.first.le_depth_condition
  rw [List.length_map] at levels
  rw [Choices.condition, Choices.toList, List.length_cons]
  omega

/-- The tokens of several ranges are read as the disjunction of the ranges, unless it has too many
levels. -/
theorem ofTokens_sizes
    {ranges : Choices SizeRange} {tokens : List Token}
    (asks : (Filter.size ranges).tokens? = some tokens) :
    Condition.ofTokens tokens = Reading.checkDepth (ranges.condition SizeRange.condition) := by
  cases listed : ranges.others with
  | nil =>
      have shallow : (ranges.condition SizeRange.condition).depth ≤ depthLimit := by
        rw [Choices.condition, listed]
        exact ranges.first.depth_condition_le.trans (by decide)
      rw [Reading.ofTokens_of_fills (fills_sizes asks) shallow, Reading.checkDepth, if_pos shallow]
  | cons second others =>
      have several : ranges.toList = ranges.first :: second :: others := by
        rw [Choices.toList, listed]
      have written := Option.some.inj asks
      rw [several] at written
      have shallow (range : SizeRange) : range.condition.depth ≤ depthLimit :=
        range.depth_condition_le.trans (by decide)
      have read :=
        Reading.ofTokens_disjunction
          (bracketTokens ranges.first.tokens, ranges.first.condition)
          ((second :: others).map fun range => (bracketTokens range.tokens, range.condition))
          (by
            intro term member
            rcases List.mem_cons.mp member with rfl | isOther
            · exact Reading.isTerm_bracketTokens ranges.first.fills
            · obtain ⟨range, _, rfl⟩ := List.mem_map.mp isOther
              exact Reading.isTerm_bracketTokens range.fills)
          (by
            intro term member
            rcases List.mem_cons.mp member with rfl | isOther
            · exact shallow ranges.first
            · obtain ⟨range, _, rfl⟩ := List.mem_map.mp isOther
              exact shallow range)
      rw [← written, Choices.condition, listed]
      simpa [Function.comp_def] using read

theorem ofClause_sizes (ranges : Choices SizeRange) :
    Condition.ofClause (Filter.size ranges).clause.toList =
      Reading.checkDepth (ranges.condition SizeRange.condition) := by
  obtain ⟨tokens, asks⟩ : ∃ tokens, (Filter.size ranges).tokens? = some tokens := ⟨_, rfl⟩
  have isQuestion :
      (Filter.size ranges).question? = some (tokens, ranges.condition SizeRange.condition) := by
    rw [question?, asks]
    rfl
  have readable : AllReadable True tokens :=
    allReadable_question (fun _ _ isText => absurd isText List.not_mem_nil) isQuestion
  rw [clause, asks, String.toList_ofList,
    Reading.ofClause_write (fun token member => (readable token member).1)
      (fun content member => (readable (.text content) member).2 content rfl trivial),
    ofTokens_sizes asks]

end Filter

/-! ## From arguments to clauses -/

namespace Catalog

variable {catalog : Catalog} {arguments : SearchArguments} {filters : List Filter}

/-- Size ranges make the first filter, one value for each of them; no other filter is about
sizes. -/
theorem exists_sizeFilter
    {ranges : List SizeArgument} (made : catalog.filters arguments = .ok filters)
    (noPresets : arguments.sizePresets.getD [] = []) (given : arguments.sizeRanges = some ranges)
    (filled : ranges ≠ []) :
    ∃ choices others,
      filters = .size choices :: others ∧ (∀ filter ∈ others, filter.kind ≠ .size) ∧
        (ranges.map rangeBounds).mapM Filter.checkSize = .ok choices.toList := by
  rw [Catalog.filters, noPresets, given] at made
  obtain ⟨presets, named, rest⟩ := bind_eq_ok made
  obtain rfl := Except.ok.inj named
  obtain ⟨sizes, madeSizes, rest⟩ := bind_eq_ok rest
  obtain ⟨paths, madePaths, rest⟩ := bind_eq_ok rest
  obtain ⟨found, _, rest⟩ := bind_eq_ok rest
  obtain ⟨sources, madeSources, rest⟩ := bind_eq_ok rest
  obtain ⟨lists, madeLists, rest⟩ := bind_eq_ok rest
  obtain ⟨known, _, rest⟩ := bind_eq_ok rest
  obtain ⟨types, madeTypes, rest⟩ := bind_eq_ok rest
  obtain ⟨wanted, _, rest⟩ := bind_eq_ok rest
  obtain ⟨frequencies, madeFrequencies, ended⟩ := bind_eq_ok rest
  obtain rfl := Except.ok.inj ended
  rcases filterOf_eq_ok madeSizes with ⟨empty, _⟩ | ⟨_, filter, isFilter, rfl⟩
  · exact absurd (List.map_eq_nil_iff.mp empty) filled
  · obtain ⟨choices, rfl, checked⟩ := exists_choices isFilter
    refine
      ⟨choices, paths ++ sources ++ lists ++ types ++ frequencies, by simp, ?_, checked⟩
    simp only [List.forall_mem_append]
    refine
      ⟨⟨⟨⟨forall_of_filterOf madePaths fun _ => by simp [Filter.kind],
        forall_of_filterOf madeSources fun _ => by simp [Filter.kind]⟩,
        forall_of_filterOf madeLists fun _ => by simp [Filter.kind]⟩,
        forall_of_filterOf madeTypes fun _ => by simp [Filter.kind]⟩, ?_⟩
    rcases filterOf_ofFrequencies madeFrequencies with ⟨_, rfl⟩ | ⟨_, _, rfl⟩ <;>
      simp [Filter.kind]

end Catalog

section Entries

variable {arguments : Option Json} {entries : List Json} {parsed : SearchArguments}
  {catalog : Catalog} {filters : List Filter}

/-- The entries are read and checked one by one, and become the values of the first filter. -/
theorem exists_checkedRanges
    (given : argument? arguments "size_ranges" = some (.array entries)) (filled : entries ≠ [])
    (parses : SearchArguments.ofJson arguments = .ok parsed)
    (noPresets : parsed.sizePresets.getD [] = [])
    (builds : catalog.filters parsed = .ok filters) :
    ∃ sizes ranges others,
      filters = .size ranges :: others ∧ (∀ filter ∈ others, filter.kind ≠ .size) ∧
        readEach SearchArguments.readRange 0 entries = .ok sizes ∧
        (sizes.map Catalog.rangeBounds).mapM Filter.checkSize = .ok ranges.toList ∧
        ranges.toList.length = entries.length := by
  obtain ⟨sizes, isRead, isGiven⟩ :=
    SearchArguments.readEach_of_readObjects given
      (SearchArguments.readFrom_of_ofJson parses).sizeRanges
  have sameLength := SearchArguments.length_of_readEach isRead
  have filledSizes : sizes ≠ [] := by
    rintro rfl
    exact filled (List.length_eq_zero_iff.mp sameLength.symm)
  obtain ⟨ranges, others, isFirst, noOther, checked⟩ :=
    Catalog.exists_sizeFilter builds noPresets isGiven filledSizes
  have sameLengths := length_of_mapM_eq_ok checked
  rw [List.length_map, sameLength] at sameLengths
  exact ⟨sizes, ranges, others, isFirst, noOther, isRead, checked, sameLengths⟩

/-- Size ranges that are given without named ones make one filter. Its clause is read as a condition
unless that has too many levels, of which there are one or two more than ranges. The condition is
true of a file exactly if one of the ranges covers its size. -/
theorem sizeRanges_select_covered_sizes
    (given : argument? arguments "size_ranges" = some (.array entries)) (filled : entries ≠ [])
    (regular : ∀ entry ∈ entries, ¬ entry.GivesNoMaximum)
    (parses : SearchArguments.ofJson arguments = .ok parsed)
    (noPresets : parsed.sizePresets.getD [] = [])
    (builds : catalog.filters parsed = .ok filters) :
    ∃ ranges others condition,
      filters = .size ranges :: others ∧ (∀ filter ∈ others, filter.kind ≠ .size) ∧
        Condition.ofClause (Filter.size ranges).clause.toList = Reading.checkDepth condition ∧
        entries.length < condition.depth ∧ condition.depth ≤ entries.length + 2 ∧
        ∀ (tables : CaseTables) (file : StoredFile),
          condition.Decides tables.database ⟨fileColumns, []⟩ (fileRow file)
            (∃ entry ∈ entries, entry.CoversSize file.size) := by
  obtain ⟨sizes, ranges, others, isFirst, noOther, isRead, checked, sameLength⟩ :=
    exists_checkedRanges given filled parses noPresets builds
  have decides (tables : CaseTables) (file : StoredFile) :
      (ranges.condition SizeRange.condition).Decides tables.database ⟨fileColumns, []⟩
        (fileRow file) ((Filter.size ranges).Selects tables file) :=
    Filter.decides_condition tables file rfl fun _ member => absurd member List.not_mem_nil
  refine
    ⟨ranges, others, ranges.condition SizeRange.condition, isFirst, noOther,
      Filter.ofClause_sizes ranges, ?_, ?_, fun tables file => (decides tables file).congr ?_⟩
  · rw [← sameLength]
    exact Filter.length_lt_depth_sizes ranges
  · rw [← sameLength]
    exact Filter.depth_sizes_le ranges
  · calc
      (∃ range ∈ ranges.toList, range.Covers file.size) ↔
          ∃ bounds ∈ sizes.map Catalog.rangeBounds, bounds.Covers file.size :=
        exists_mem_mapM_iff checked fun _ _ isChecked =>
          Filter.checkSize_covers_iff isChecked file.size
      _ ↔ ∃ size ∈ sizes, (Catalog.rangeBounds size).Covers file.size := by
        simp
      _ ↔ ∃ entry ∈ entries, entry.CoversSize file.size :=
        SearchArguments.exists_mem_readEach_iff isRead fun entry member _ _ isRange =>
          SearchArguments.covers_rangeBounds_iff isRange (regular entry member) file.size

end Entries

def sizedFile (size : Number) : StoredFile :=
  ⟨1, "a.bin", "/", size, .finite 1, none, none⟩

/-- The arguments that only give size ranges. -/
def sizeArguments (entries : List Json) : Option Json :=
  some (.object [("size_ranges", .array entries)])

def openEntry (low : Number) : Json :=
  .object [("min_bytes", .number low)]

def boundedEntry (low high : Number) : Json :=
  .object [("min_bytes", .number low), ("max_bytes", .number high)]

/-- A range from 500 up and one from 0 to 10. -/
def twoEntries : List Json :=
  [openEntry (.finite 500), boundedEntry (.finite 0) (.finite 10)]

def twoRanges : SearchArguments :=
  { sizeRanges := some [⟨.finite 500, none⟩, ⟨.finite 0, some (.finite 10)⟩] }

theorem twoEntries_cover_500 : ∃ entry ∈ twoEntries, entry.CoversSize (.finite 500) :=
  ⟨_, List.mem_cons_self, _, rfl, Or.inl ⟨rfl, by decide +kernel⟩⟩

theorem twoEntries_do_not_cover_0 : ¬ ∃ entry ∈ twoEntries, entry.CoversSize (.finite 0) := by
  rintro ⟨entry, member, low, isLow, covered⟩
  simp only [twoEntries, List.mem_cons, List.not_mem_nil, or_false] at member
  rcases member with rfl | rfl
  · obtain rfl := Option.some.inj isLow
    rcases covered with ⟨_, atMost⟩ | ⟨high, isHigh, _⟩
    · exact absurd atMost (by decide +kernel)
    · cases isHigh
  · obtain rfl := Option.some.inj isLow
    rcases covered with ⟨omitted, _⟩ | ⟨high, _, below, _⟩
    · cases omitted
    · exact absurd below (by decide +kernel)

/-- The lower bound belongs to the open range and not to the other one. -/
theorem twoEntries_select_covered_sizes :
    SearchArguments.ofJson (sizeArguments twoEntries) = .ok twoRanges ∧
      ∃ ranges condition,
        Catalog.filters ⟨[], [], []⟩ twoRanges = .ok [.size ranges] ∧
          Condition.ofClause (Filter.size ranges).clause.toList = .ok condition ∧
          condition.Decides CaseTables.empty.database ⟨fileColumns, []⟩
            (fileRow (sizedFile (.finite 500))) True ∧
          condition.Decides CaseTables.empty.database ⟨fileColumns, []⟩
            (fileRow (sizedFile (.finite 0))) False := by
  have regular : ∀ entry ∈ twoEntries, ¬ entry.GivesNoMaximum := by
    simp only [Json.GivesNoMaximum]
    decide +kernel
  have parses : SearchArguments.ofJson (sizeArguments twoEntries) = .ok twoRanges := by
    decide +kernel
  have builds :
      Catalog.filters ⟨[], [], []⟩ twoRanges =
        .ok [.size ⟨⟨500, none, by simp⟩, [⟨0, some 10, by decide⟩]⟩] := by
    decide +kernel
  obtain ⟨ranges, others, condition, isFirst, _, read, _, levels, decides⟩ :=
    sizeRanges_select_covered_sizes rfl (List.cons_ne_nil _ _) regular parses rfl builds
  have noOthers : others = [] := (List.cons.inj isFirst).2.symm
  have shallow : condition.depth ≤ depthLimit := levels.trans (by decide)
  rw [isFirst, noOthers] at builds
  rw [Reading.checkDepth, if_pos shallow] at read
  refine ⟨parses, ranges, condition, builds, read, ?_, ?_⟩
  · exact (decides _ _).congr (iff_true_intro twoEntries_cover_500)
  · exact (decides _ _).congr (iff_false_intro twoEntries_do_not_cover_0)

/-! ## Ranges as they are described -/

/-- The size lies in the range that an entry describes: above its lower bound and, if it gives an
upper one, not above that. -/
def Json.DescribesSize (entry : Json) (size : Number) : Prop :=
  ∃ low,
    (entry.field? "min_bytes").bind Json.number? = some low ∧ low.below size = true ∧
      ∀ bound, entry.field? "max_bytes" = some bound →
        ∃ high, bound.number? = some high ∧ size.atMost high = true

/-- What the clauses of the filters that size ranges make say about a file of some size. -/
def clausesOnSize (entries : List Json) (size : Number) :
    Except Failure (Except ClauseError (List (Option Bool))) := do
  let parsed ← SearchArguments.ofJson (sizeArguments entries)
  let filters ← Catalog.filters ⟨[], [], []⟩ parsed
  return filters.mapM fun filter => do
    let condition ← Condition.ofClause filter.clause.toList
    let test ← condition.bind CaseTables.empty.database ⟨fileColumns, []⟩
    test.evaluate (fileRow (sizedFile size))

/-- As many ranges as a condition may have levels, or more, may be accepted; their clause can not be
read. -/
theorem clausesOnSize_eq_tooDeep
    {entries : List Json} {size : Number} {said : Except ClauseError (List (Option Bool))}
    (many : depthLimit ≤ entries.length) (accepted : clausesOnSize entries size = .ok said) :
    said = .error .tooDeep := by
  obtain ⟨parsed, parses, rest⟩ := bind_eq_ok accepted
  obtain ⟨filters, builds, ended⟩ := bind_eq_ok rest
  obtain rfl := Except.ok.inj ended
  have filled : entries ≠ [] := by
    rintro rfl
    exact absurd many (by decide)
  have noPresets : parsed.sizePresets.getD [] = [] := by
    rw [← Except.ok.inj (SearchArguments.readFrom_of_ofJson parses).sizePresets]
    rfl
  obtain ⟨_, ranges, others, rfl, _, _, _, sameLength⟩ :=
    exists_checkedRanges rfl filled parses noPresets builds
  have levels := Filter.length_lt_depth_sizes ranges
  have deep : ¬ (ranges.condition SizeRange.condition).depth ≤ depthLimit := by omega
  rw [List.mapM_cons, Filter.ofClause_sizes, Reading.checkDepth_eq_error deep]
  rfl

/-- A range without upper bound selects the size that equals its lower bound, which it does not
describe, and a range whose upper bound is the number that stands for none selects larger sizes. A
thousand ranges describe a size and select nothing. -/
theorem sizeRanges_select_undescribed_sizes :
    clausesOnSize [openEntry (.finite 500)] (.finite 500) = .ok (.ok [some true]) ∧
      ¬ (openEntry (.finite 500)).DescribesSize (.finite 500) ∧
      clausesOnSize [boundedEntry (.finite 5) (.finite (-1))] (.finite 7) =
        .ok (.ok [some true]) ∧
      ¬ (boundedEntry (.finite 5) (.finite (-1))).DescribesSize (.finite 7) ∧
      clausesOnSize (List.replicate 1000 (openEntry (.finite 0))) (.finite 7) =
        .ok (.error .tooDeep) ∧
      (openEntry (.finite 0)).DescribesSize (.finite 7) := by
  refine ⟨by decide +kernel, ?_, by decide +kernel, ?_, ?_, ?_⟩
  · rintro ⟨low, isLow, below, _⟩
    obtain rfl := Option.some.inj isLow
    exact absurd below (by decide +kernel)
  · rintro ⟨_, _, _, bounded⟩
    obtain ⟨high, isHigh, atMost⟩ := bounded _ rfl
    obtain rfl := Option.some.inj isHigh
    exact absurd atMost (by decide +kernel)
  · have accepted :
        (clausesOnSize (List.replicate 1000 (openEntry (.finite 0))) (.finite 7)).toOption.isSome =
          true := by
      decide +kernel
    cases said : clausesOnSize (List.replicate 1000 (openEntry (.finite 0))) (.finite 7) with
    | error failure =>
        rw [said] at accepted
        cases accepted
    | ok answers =>
        have many :
            depthLimit ≤ (List.replicate 1000 (openEntry (.finite 0))).length := by
          rw [List.length_replicate]
          rfl
        exact congrArg Except.ok (clausesOnSize_eq_tooDeep many said)
  · exact ⟨.finite 0, rfl, by decide +kernel, nofun⟩

end EvidenceSearch
