import EvidenceSearch.Proofs.Search.Criteria
import EvidenceSearch.Proofs.Search.Demands

/-!
# Shapes of arguments

The arguments of a search are read exactly if every one that is given has its shape, with all its
entries. What is read then stands for what was given, entry by entry. Otherwise the first offence
is reported: the arguments are looked at in a fixed order, the array before its entries, and of
entries that must be objects all are looked at before the fields of the first.
-/

namespace EvidenceSearch

/-! ## Shapes -/

/-- The value that an object of arguments gives for a name, if there are arguments at all. -/
def given? (json : Option Json) (key : String) : Option Json :=
  json.bind fun json => json.field? key

/-- Only names that every object knows are answered without being given. -/
theorem argument?_eq_given?
    {json : Option Json} {key : String} (uncommon : commonAnswer? key = none) :
    argument? json key = given? json key := by
  rw [argument?, given?]
  simp only [uncommon, Option.or_none]

namespace Json

def IsString (json : Json) : Prop :=
  ∃ text, json = .string text

def IsNumber (json : Json) : Prop :=
  ∃ number, json = .number number

def IsFiniteNumber (json : Json) : Prop :=
  ∃ value, json = .number (.finite value)

def IsBoolean (json : Json) : Prop :=
  ∃ value, json = .bool value

def IsArray (json : Json) : Prop :=
  ∃ items, json = .array items

/-- The value is an array, and all its items fit. -/
def IsArrayOf (Fits : Json → Prop) (json : Json) : Prop :=
  ∃ items, json = .array items ∧ ∀ item ∈ items, Fits item

/-- The fields are the bounds of a size range, the upper one of which may be left out. -/
def GivesRange (json : Json) : Prop :=
  (∃ low, json.field? "min_bytes" = some (.number low)) ∧
    ∀ value, json.field? "max_bytes" = some value → value.IsNumber

/-- The fields are a path to look for and, if that is given, whether it is the whole path. -/
def GivesPath (json : Json) : Prop :=
  (∃ text, json.field? "path" = some (.string text)) ∧
    ∀ value, json.field? "exact" = some value → value.IsBoolean

/-- The value is an array of objects with the given fields. -/
def IsObjectsWith (FieldsFit : Json → Prop) : Json → Prop :=
  IsArrayOf fun item => item.isObject = true ∧ FieldsFit item

/-- The value is an array whose items stand for the given values, one for one and in order. -/
def Lists {Value : Type} (Stands : Json → Value → Prop) (json : Json) (values : List Value) :
    Prop :=
  ∃ items, json = .array items ∧ List.Forall₂ Stands items values

/-- The entry is an object that gives the bounds of the range; an upper bound that it leaves out is
left out. -/
def StandsForRange (json : Json) (range : SizeArgument) : Prop :=
  json.field? "min_bytes" = some (.number range.low) ∧
    Option.Rel (fun value high => value = .number high) (json.field? "max_bytes") range.high

/-- The entry is an object that gives the path to look for, anywhere unless it says otherwise. -/
def StandsForPath (json : Json) (path : PathTerm) : Prop :=
  json.field? "path" = some (.string path.text) ∧
    (json.field? "exact" = none ∧ path.whole = false ∨
      json.field? "exact" = some (.bool path.whole))

end Json

namespace SearchArguments

/-- Every argument that is given has its shape. -/
structure WellShaped (json : Option Json) : Prop where
  sizePresets : ∀ value ∈ given? json "size_presets", value.IsArrayOf Json.IsString
  sizeRanges : ∀ value ∈ given? json "size_ranges", value.IsObjectsWith Json.GivesRange
  parentPaths : ∀ value ∈ given? json "parent_paths", value.IsObjectsWith Json.GivesPath
  sourceIds : ∀ value ∈ given? json "data_source_ids", value.IsArrayOf Json.IsFiniteNumber
  keywordLists : ∀ value ∈ given? json "keyword_lists", value.IsArrayOf Json.IsString
  fileTypes : ∀ value ∈ given? json "file_types", value.IsArrayOf Json.IsString
  frequencies : ∀ value ∈ given? json "frequencies", value.IsArrayOf Json.IsString
  limit : ∀ value ∈ given? json "limit", value.IsFiniteNumber

/-- The arguments are those that are given, each absent if it is not given and otherwise with all
its entries. -/
structure StandFor (json : Option Json) (arguments : SearchArguments) : Prop where
  sizePresets :
    Option.Rel (Json.Lists fun item text => item = .string text) (given? json "size_presets")
      arguments.sizePresets
  sizeRanges :
    Option.Rel (Json.Lists Json.StandsForRange) (given? json "size_ranges") arguments.sizeRanges
  parentPaths :
    Option.Rel (Json.Lists Json.StandsForPath) (given? json "parent_paths") arguments.parentPaths
  sourceIds :
    Option.Rel (Json.Lists fun item number => item = .number number)
      (given? json "data_source_ids") arguments.sourceIds
  keywordLists :
    Option.Rel (Json.Lists fun item text => item = .string text) (given? json "keyword_lists")
      arguments.keywordLists
  fileTypes :
    Option.Rel (Json.Lists fun item text => item = .string text) (given? json "file_types")
      arguments.fileTypes
  frequencies :
    Option.Rel (Json.Lists fun item text => item = .string text) (given? json "frequencies")
      arguments.frequencies
  limit :
    Option.Rel (fun value number => value = .number number) (given? json "limit") arguments.limit

/-! ## What is demanded, in order -/

/-- The items of an array with their indices, and nothing of any other value. -/
def indexed (json : Json) : List (Json × Nat) :=
  (json.items?.getD []).zipIdx

/-- An argument that must be an array of items that fit: first it is an array, then its items fit
one after the other. -/
def arrayDemands (key : String) (shape : Shape) (Fits : Json → Prop) (json : Json) :
    List Demand :=
  ⟨.misshapen (.argument key) .array, json.IsArray⟩ ::
    (indexed json).map fun item => ⟨.misshapen (.entry key item.2) shape, Fits item.1⟩

@[simp]
def rangeDemands (entry : Json × Nat) : List Demand :=
  [⟨.misshapen (.field "size_ranges" entry.2 "min_bytes") .number,
      ∃ low, entry.1.field? "min_bytes" = some (.number low)⟩,
    ⟨.misshapen (.field "size_ranges" entry.2 "max_bytes") .number,
      ∀ value, entry.1.field? "max_bytes" = some value → value.IsNumber⟩]

@[simp]
def pathDemands (entry : Json × Nat) : List Demand :=
  [⟨.misshapen (.field "parent_paths" entry.2 "path") .string,
      ∃ text, entry.1.field? "path" = some (.string text)⟩,
    ⟨.misshapen (.field "parent_paths" entry.2 "exact") .boolean,
      ∀ value, entry.1.field? "exact" = some value → value.IsBoolean⟩]

/-- An argument that must be an array of objects: all its items are objects, before the fields of
the first are looked at. -/
def objectDemands (key : String) (fieldDemands : Json × Nat → List Demand) (json : Json) :
    List Demand :=
  arrayDemands key .object (fun item => item.isObject = true) json ++
    (indexed json).flatMap fieldDemands

/-- What is demanded of an argument, which need not be given. -/
def demandsAt (json : Option Json) (key : String) (demandsOf : Json → List Demand) :
    List Demand :=
  (given? json key).toList.flatMap demandsOf

def stringsDemands (json : Option Json) (key : String) : List Demand :=
  demandsAt json key (arrayDemands key .string Json.IsString)

/-- What is demanded of the arguments of a search, in the order in which they are looked at. -/
def demands (json : Option Json) : List Demand :=
  stringsDemands json "size_presets" ++
    (demandsAt json "size_ranges" (objectDemands "size_ranges" rangeDemands) ++
      (demandsAt json "parent_paths" (objectDemands "parent_paths" pathDemands) ++
        (demandsAt json "data_source_ids"
            (arrayDemands "data_source_ids" .number Json.IsFiniteNumber) ++
          (stringsDemands json "keyword_lists" ++
            (stringsDemands json "file_types" ++
              (stringsDemands json "frequencies" ++
                demandsAt json "limit" fun value =>
                  [⟨.misshapen (.argument "limit") .number, value.IsFiniteNumber⟩]))))))

/-! ## Reading follows the demands -/

section Follows

variable {Value : Type} {json : Option Json} {key : String}

theorem follows_requireShape
    {place : ArgumentPlace} {shape : Shape} {value? : Option Value} {Met : Prop}
    (met : Met ↔ ∃ value, value? = some value) :
    Follows [⟨.misshapen place shape, Met⟩] (fun value => value? = some value)
      (requireShape place shape value?) := by
  cases value? with
  | some value =>
      have read : Follows [] (fun held => some value = some held) (Except.ok value) :=
        follows_ok rfl
      exact read.cons (met.mpr ⟨value, rfl⟩)
  | none =>
      refine follows_unmet fun isMet => ?_
      obtain ⟨_, isSome⟩ := met.mp isMet
      cases isSome

theorem follows_optionalField
    {place : ArgumentPlace} {shape : Shape} {read? : Json → Option Value} {Fits : Json → Prop}
    {Stands : Json → Value → Prop} (fits : ∀ json, Fits json ↔ ∃ value, read? json = some value)
    (stands : ∀ json value, read? json = some value → Stands json value) (field? : Option Json) :
    Follows [⟨.misshapen place shape, ∀ value, field? = some value → Fits value⟩]
      (Option.Rel Stands field?) (optionalField place shape read? field?) := by
  cases field? with
  | none =>
      refine (follows_ok .none).cons fun value isSome => ?_
      cases isSome
  | some field =>
      have met : (∀ value, some field = some value → Fits value) ↔
          ∃ value, read? field = some value := by
        rw [← fits field]
        simp
      exact (follows_requireShape met).map fun value isRead => .some (stands field value isRead)

/-- Entries that are read one by one follow the demands of each in turn. -/
theorem follows_readEach
    {read : Nat → Json → Except Failure Value} {demandsOf : Json × Nat → List Demand}
    {Stands : Json → Value → Prop}
    (each : ∀ item index, Follows (demandsOf (item, index)) (Stands item) (read index item))
    (items : List Json) (index : Nat) :
    Follows ((items.zipIdx index).flatMap demandsOf) (List.Forall₂ Stands items)
      (readEach read index items) := by
  induction items generalizing index with
  | nil =>
      exact follows_ok .nil
  | cons item items inductionHypothesis =>
      rw [List.zipIdx_cons, List.flatMap_cons]
      refine (each item index).bind fun value stands => ?_
      exact (inductionHypothesis (index + 1)).map fun values standAll => .cons stands standAll

theorem text?_eq_some_iff {json : Json} {text : String} :
    json.text? = some text ↔ json = .string text := by
  cases json <;> simp [Json.text?]

theorem number?_eq_some_iff {json : Json} {number : Number} :
    json.number? = some number ↔ json = .number number := by
  cases json <;> simp [Json.number?]

theorem bool?_eq_some_iff {json : Json} {value : Bool} :
    json.bool? = some value ↔ json = .bool value := by
  cases json <;> simp [Json.bool?]

theorem items?_eq_some_iff {json : Json} {items : List Json} :
    json.items? = some items ↔ json = .array items := by
  cases json <;> simp [Json.items?]

/-- An argument follows what is demanded of it if it is given, and is absent otherwise. -/
theorem follows_argument
    {demandsOf : Json → List Demand} {Stands : Json → Value → Prop}
    {outcome : Except Failure (Option Value)}
    (absent : given? json key = none → outcome = .ok none)
    (present :
      ∀ value, given? json key = some value →
        Follows (demandsOf value) (Option.Rel Stands (some value)) outcome) :
    Follows (demandsAt json key demandsOf) (Option.Rel Stands (given? json key)) outcome := by
  rw [demandsAt]
  cases isGiven : given? json key with
  | none =>
      rw [absent isGiven]
      exact follows_ok .none
  | some value =>
      rw [Option.toList_some, List.flatMap_singleton]
      exact present value isGiven

theorem follows_arrayArgument
    {shape : Shape} {read? : Json → Option Value} {Fits : Json → Prop}
    {Stands : Json → Value → Prop} (uncommon : commonAnswer? key = none)
    (fits : ∀ json, Fits json ↔ ∃ value, read? json = some value)
    (stands : ∀ json value, read? json = some value → Stands json value) :
    Follows (demandsAt json key (arrayDemands key shape Fits))
      (Option.Rel (Json.Lists Stands) (given? json key))
      (arrayArgument shape read? json key) := by
  rw [arrayArgument, argument?_eq_given? uncommon]
  refine follows_argument (fun absent => by rw [absent]) fun value isGiven => ?_
  rw [isGiven]
  have isArray : value.IsArray ↔ ∃ items, value.items? = some items := by
    simp only [Json.IsArray, items?_eq_some_iff]
  refine (follows_requireShape isArray).bind fun items areItems => ?_
  obtain rfl := items?_eq_some_iff.mp areItems
  have each (item : Json) (index : Nat) :
      Follows [⟨.misshapen (.entry key index) shape, Fits item⟩] (Stands item)
        (requireShape (.entry key index) shape (read? item)) :=
    (follows_requireShape (fits item)).mono (stands item)
  rw [List.map_eq_flatMap]
  exact (follows_readEach each items 0).map fun values standAll => .some ⟨items, rfl, standAll⟩

theorem follows_stringsArgument (uncommon : commonAnswer? key = none) :
    Follows (stringsDemands json key)
      (Option.Rel (Json.Lists fun item text => item = .string text) (given? json key))
      (stringsArgument json key) := by
  refine follows_arrayArgument uncommon (fun json => ?_) fun _ _ => text?_eq_some_iff.mp
  simp only [Json.IsString, text?_eq_some_iff]

theorem finiteNumber?_eq_some_iff {json : Json} {number : Number} :
    finiteNumber? json = some number ↔
      ∃ value, number = .finite value ∧ json = .number (.finite value) := by
  cases json with
  | number held =>
      cases held with
      | finite value =>
          simp [finiteNumber?, Json.number?, Option.filter, Number.isFinite, eq_comm]
      | _ =>
          simp [finiteNumber?, Json.number?, Option.filter, Number.isFinite]
  | _ =>
      simp [finiteNumber?, Json.number?]

theorem isFiniteNumber_iff (json : Json) :
    json.IsFiniteNumber ↔ ∃ number, finiteNumber? json = some number := by
  simp [Json.IsFiniteNumber, finiteNumber?_eq_some_iff]

theorem eq_number_of_finiteNumber?
    {json : Json} {number : Number} (isFinite : finiteNumber? json = some number) :
    json = .number number := by
  obtain ⟨value, rfl, rfl⟩ := finiteNumber?_eq_some_iff.mp isFinite
  rfl

theorem follows_numberArgument (uncommon : commonAnswer? key = none) :
    Follows
      (demandsAt json key fun value =>
        [⟨.misshapen (.argument key) .number, value.IsFiniteNumber⟩])
      (Option.Rel (fun value number => value = .number number) (given? json key))
      (numberArgument json key) := by
  rw [numberArgument, argument?_eq_given? uncommon]
  refine follows_argument (fun absent => by rw [absent]) fun value isGiven => ?_
  rw [isGiven]
  exact
    (follows_requireShape (isFiniteNumber_iff value)).map fun number isFinite =>
      .some (eq_number_of_finiteNumber? isFinite)

theorem follows_readObjects
    {read : Nat → Json → Except Failure Value} {fieldDemands : Json × Nat → List Demand}
    {Stands : Json → Value → Prop} (uncommon : commonAnswer? key = none)
    (each : ∀ item index, Follows (fieldDemands (item, index)) (Stands item) (read index item)) :
    Follows (demandsAt json key (objectDemands key fieldDemands))
      (Option.Rel (Json.Lists Stands) (given? json key)) (readObjects read json key) := by
  have objects :
      Follows
        (demandsAt json key (arrayDemands key .object fun item => item.isObject = true))
        (Option.Rel (Json.Lists Eq) (given? json key)) (objectsArgument json key) := by
    refine follows_arrayArgument uncommon (fun item => ?_) fun item object => ?_ <;>
      cases item <;> simp [object?, Json.isObject]
  rw [readObjects]
  refine follows_argument (fun absent => ?_) fun value isGiven => ?_
  · rw [objectsArgument, arrayArgument, argument?_eq_given? uncommon, absent]
    rfl
  · rw [demandsAt, isGiven, Option.toList_some, List.flatMap_singleton] at objects
    refine objects.bind fun objects? listed => ?_
    cases listed with
    | some listed =>
        -- the entries are known to be objects, and their fields are read from the first one on
        obtain ⟨items, rfl, same⟩ := listed
        rw [List.forall₂_eq_eq_eq] at same
        subst same
        exact
          (follows_readEach each items 0).map fun values standAll => .some ⟨items, rfl, standAll⟩

theorem follows_readRange (entry : Json) (index : Nat) :
    Follows (rangeDemands (entry, index)) entry.StandsForRange (readRange index entry) := by
  have low :
      (∃ low, entry.field? "min_bytes" = some (.number low)) ↔
        ∃ low, (entry.field? "min_bytes").bind Json.number? = some low := by
    simp [Option.bind_eq_some_iff, number?_eq_some_iff]
  have high (json : Json) : json.IsNumber ↔ ∃ number, json.number? = some number := by
    simp only [Json.IsNumber, number?_eq_some_iff]
  refine (follows_requireShape low).bind fun low isLow => ?_
  refine
    (follows_optionalField high (fun _ _ => number?_eq_some_iff.mp) (entry.field? "max_bytes")).map
      fun high? areBoth => ⟨?_, areBoth⟩
  obtain ⟨value, isField, isNumber⟩ := Option.bind_eq_some_iff.mp isLow
  rw [isField, number?_eq_some_iff.mp isNumber]

theorem follows_readPath (entry : Json) (index : Nat) :
    Follows (pathDemands (entry, index)) entry.StandsForPath (readPath index entry) := by
  have path :
      (∃ text, entry.field? "path" = some (.string text)) ↔
        ∃ text, (entry.field? "path").bind Json.text? = some text := by
    simp [Option.bind_eq_some_iff, text?_eq_some_iff]
  have flag (json : Json) : json.IsBoolean ↔ ∃ value, json.bool? = some value := by
    simp only [Json.IsBoolean, bool?_eq_some_iff]
  refine (follows_requireShape path).bind fun text isText => ?_
  refine
    (follows_optionalField flag (fun _ _ => bool?_eq_some_iff.mp) (entry.field? "exact")).map
      fun whole? isWhole => ⟨?_, ?_⟩
  · obtain ⟨value, isField, isString⟩ := Option.bind_eq_some_iff.mp isText
    rw [isField, text?_eq_some_iff.mp isString]
  · generalize entry.field? "exact" = field? at isWhole ⊢
    cases isWhole with
    | none =>
        exact Or.inl ⟨rfl, rfl⟩
    | some isFlag =>
        exact Or.inr (congrArg some isFlag)

/-- Reading the arguments of a search follows what is demanded of them. -/
theorem follows_ofJson (json : Option Json) :
    Follows (demands json) (StandFor json) (ofJson json) := by
  refine (follows_stringsArgument rfl).bind fun presets arePresets => ?_
  refine (follows_readObjects rfl follows_readRange).bind fun ranges areRanges => ?_
  refine (follows_readObjects rfl follows_readPath).bind fun paths arePaths => ?_
  refine
    (follows_arrayArgument rfl isFiniteNumber_iff fun _ _ => eq_number_of_finiteNumber?).bind
      fun ids areIds => ?_
  refine (follows_stringsArgument rfl).bind fun lists areLists => ?_
  refine (follows_stringsArgument rfl).bind fun types areTypes => ?_
  refine (follows_stringsArgument rfl).bind fun frequencies areFrequencies => ?_
  exact
    (follows_numberArgument rfl).map fun limit isLimit =>
      ⟨arePresets, areRanges, arePaths, areIds, areLists, areTypes, areFrequencies, isLimit⟩

end Follows

/-! ## The grammar of the arguments -/

section Demands

variable {json : Option Json} {key : String} {value : Json} {Fits : Json → Prop}

theorem demandsAt_met_iff {demandsOf : Json → List Demand} :
    (∀ demand ∈ demandsAt json key demandsOf, demand.Met) ↔
      ∀ value ∈ given? json key, ∀ demand ∈ demandsOf value, demand.Met := by
  rw [demandsAt]
  cases given? json key <;> simp

theorem forall_mem_indexed_iff {items : List Json} :
    (∀ entry ∈ indexed (.array items), Fits entry.1) ↔ ∀ item ∈ items, Fits item := by
  have values : (indexed (.array items)).map Prod.fst = items := List.zipIdx_map_fst 0 items
  conv_rhs => rw [← values, List.forall_mem_map]

theorem arrayDemands_met_iff {shape : Shape} :
    (∀ demand ∈ arrayDemands key shape Fits value, demand.Met) ↔ value.IsArrayOf Fits := by
  rw [arrayDemands, List.forall_mem_cons, List.forall_mem_map]
  constructor
  · rintro ⟨⟨items, rfl⟩, allFit⟩
    exact ⟨items, rfl, forall_mem_indexed_iff.mp allFit⟩
  · rintro ⟨items, rfl, allFit⟩
    exact ⟨⟨items, rfl⟩, forall_mem_indexed_iff.mpr allFit⟩

theorem objectDemands_met_iff
    {fieldDemands : Json × Nat → List Demand} {FieldsFit : Json → Prop}
    (fieldsFit :
      ∀ entry, (∀ demand ∈ fieldDemands entry, demand.Met) ↔ FieldsFit entry.1) :
    (∀ demand ∈ objectDemands key fieldDemands value, demand.Met) ↔
      value.IsObjectsWith FieldsFit := by
  rw [objectDemands, List.forall_mem_append, arrayDemands_met_iff, List.forall_mem_flatMap]
  simp only [fieldsFit]
  constructor
  · rintro ⟨⟨items, rfl, allObjects⟩, allFit⟩
    have fieldsOf := forall_mem_indexed_iff.mp allFit
    exact ⟨items, rfl, fun item member => ⟨allObjects item member, fieldsOf item member⟩⟩
  · rintro ⟨items, rfl, allFit⟩
    refine ⟨⟨items, rfl, fun item member => (allFit item member).1⟩, ?_⟩
    exact forall_mem_indexed_iff.mpr fun item member => (allFit item member).2

theorem rangeDemands_met_iff (entry : Json × Nat) :
    (∀ demand ∈ rangeDemands entry, demand.Met) ↔ entry.1.GivesRange := by
  simp [Json.GivesRange]

theorem pathDemands_met_iff (entry : Json × Nat) :
    (∀ demand ∈ pathDemands entry, demand.Met) ↔ entry.1.GivesPath := by
  simp [Json.GivesPath]

/-- All demands are met exactly if every argument that is given has its shape. -/
theorem demands_met_iff : (∀ demand ∈ demands json, demand.Met) ↔ WellShaped json := by
  simp only [demands, stringsDemands, List.forall_mem_append, demandsAt_met_iff,
    arrayDemands_met_iff, objectDemands_met_iff rangeDemands_met_iff,
    objectDemands_met_iff pathDemands_met_iff, List.forall_mem_singleton]
  constructor
  · rintro ⟨presets, ranges, paths, ids, lists, types, frequencies, limit⟩
    exact ⟨presets, ranges, paths, ids, lists, types, frequencies, limit⟩
  · rintro ⟨presets, ranges, paths, ids, lists, types, frequencies, limit⟩
    exact ⟨presets, ranges, paths, ids, lists, types, frequencies, limit⟩

/-- Whatever is demanded, the failure names a place and the shape that is wanted there. -/
theorem exists_misshapen (json : Option Json) :
    ∀ demand ∈ demands json, ∃ place shape, demand.failure = .misshapen place shape := by
  simp only [demands, stringsDemands, demandsAt, objectDemands, arrayDemands,
    List.forall_mem_append, List.forall_mem_flatMap, List.forall_mem_cons, List.forall_mem_map]
  simp

end Demands

/-- The names of the arguments of a search, in the order in which they are looked at. -/
def keys : List String :=
  ["size_presets", "size_ranges", "parent_paths", "data_source_ids", "keyword_lists", "file_types",
    "frequencies", "limit"]

theorem ofJson_congr
    {json other : Option Json} (same : ∀ key ∈ keys, given? other key = given? json key) :
    ofJson other = ofJson json := by
  have sameArgument (key : String) (member : key ∈ keys) :
      argument? other key = argument? json key := by
    have uncommon : ∀ key ∈ keys, commonAnswer? key = none := by decide
    rw [argument?_eq_given? (uncommon key member), argument?_eq_given? (uncommon key member),
      same key member]
  simp (disch := decide) only [ofJson, stringsArgument, numbersArgument, readObjects,
    objectsArgument, arrayArgument, numberArgument, sameArgument]

/-- The second entry is no object, which comes before the bound of the first. -/
example :
    ofJson
        (some
          (.object
            [("limit", .null),
              ("size_ranges", .array [.object [("min_bytes", .string "5")], .number .nan])])) =
      .error (.misshapen (.entry "size_ranges" 1) .object) := by
  decide +kernel

end SearchArguments
end EvidenceSearch
