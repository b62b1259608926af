import EvidenceSearch.Proofs.Filter.Conditions
import EvidenceSearch.Proofs.Sql.Deciding

/-!
# What the clause of filters selects

On the row of a file the condition of every filter comes out true exactly if the filter admits the
file, and so does the condition of all filters together. A missing media type leaves its condition
open, which is not true. The limits of the case store stand as a definition of their own: a
condition may not have too many levels, and a pattern may not be too long.
-/

namespace EvidenceSearch

open Sql CaseTables

/-! ## Columns of the row of a file -/

/-- What is not a number equals nothing; everything else equals itself and nothing else. -/
theorem Number.equals_iff (left right : Number) :
    left.equals right = true ↔ left = right ∧ right ≠ .nan := by
  cases left <;> cases right <;> simp [Number.equals]

theorem equals_finite_iff (number : Number) (value : Rat) :
    number.equals (.finite value) = true ↔ number = .finite value := by
  simp [Number.equals_iff]

theorem finite_equals_iff (value : Rat) (number : Number) :
    (Number.finite value).equals number = true ↔ number = .finite value := by
  rw [Number.equals_iff, eq_comm]
  apply and_iff_left_of_imp
  rintro rfl
  simp

theorem place_wholeOperand (table : Table) (value : Int) :
    (wholeOperand value).place table = .ok (.literal (.text (toString value))) := by
  rw [wholeOperand, Operand.place, String.ofList_toList]

theorem decides_wholeNumber
    {database : Database} {table : Table} {row : List Value}
    {column : String} {index : Nat} {number : Number} (relation : Relation) (value : Int)
    (bound : (Operand.column column).place table = .ok (.column index .number))
    (holds : (Place.column index .number).value row = .number number) :
    (Condition.compare (.column column) relation (wholeOperand value)).Decides database table row
      ((Value.number number).related relation (.number (.finite value)) = some true) := by
  have decides :
      (Condition.compare (.column column) relation (wholeOperand value)).Decides
        database table row _ :=
    Condition.decides_compare relation bound (place_wholeOperand table value)
  rw [Condition.related_number_text holds] at decides
  exact decides

theorem related_text_text
    {index : Nat} {row : List Value} {held : Option String}
    (holds : (Place.column index .text).value row = .ofText? held) (content : String) :
    (Place.column index .text).related .equal (.literal (.text content)) row = some true ↔
      held = some content := by
  change
    ((Place.column index .text).value row).related .equal (Value.text content).asText =
        some true ↔ _
  rw [holds]
  cases held with
  | none =>
      simp [Value.ofText?, Value.related]
  | some text =>
      simp [Value.ofText?, Value.asText, Value.related]

theorem related_number_number
    {index : Nat} {row : List Value} {held : Number}
    (holds : (Place.column index .number).value row = .number held) (value : Rat) :
    (Place.column index .number).related .equal (.literal (.number (.finite value))) row =
        some true ↔
      held = .finite value := by
  change
    ((Place.column index .number).value row).related .equal
        (Value.number (.finite value)).asNumber = some true ↔ _
  rw [holds, ← equals_finite_iff]
  exact Option.some_inj

/-! ## Values of filters -/

variable (tables : CaseTables) (file : StoredFile)

theorem SizeRange.decides (range : SizeRange) :
    range.condition.Decides tables.database ⟨fileColumns, []⟩ (fileRow file)
      (range.Covers file.size) := by
  have compares (relation : Relation) (bound : Nat) :
      (Condition.compare (.column "size") relation (wholeOperand bound)).Decides
        tables.database ⟨fileColumns, []⟩ (fileRow file)
        ((Value.number file.size).related relation (.number (.finite (bound : Int))) =
          some true) :=
    decides_wholeNumber relation bound rfl rfl
  rw [SizeRange.condition, SizeRange.Covers]
  cases range.high with
  | none =>
      exact (compares .atLeast range.low).congr Option.some_inj
  | some high =>
      have above := (compares .above range.low).congr Option.some_inj
      have atMost := (compares .atMost high).congr Option.some_inj
      exact above.both atMost

/-- The patterns that a path to look for writes. -/
def PathChoice.pattern? (path : PathChoice) : Option (List Char) :=
  if path.term.whole then none else some (substringPattern path.term.text)

theorem PathChoice.decides
    (path : PathChoice)
    (short :
      ∀ pattern ∈ path.pattern?, (String.ofList pattern).utf8ByteSize ≤ patternLimit) :
    path.condition.Decides tables.database ⟨fileColumns, []⟩ (fileRow file)
      (path.term.Finds file.parentPath) := by
  have bound :
      (Operand.column "parent_path").place ⟨fileColumns, []⟩ = .ok (.column 2 .text) :=
    rfl
  have holds :
      (Place.column 2 .text).value (fileRow file) = .ofText? (some file.parentPath) :=
    rfl
  rw [PathChoice.condition, PathTerm.Finds]
  by_cases whole : path.term.whole = true
  · rw [if_pos whole, if_pos whole]
    have decides :
        (Condition.compare (.column "parent_path") .equal
            (.text path.term.text.toList)).Decides
          tables.database ⟨fileColumns, []⟩ (fileRow file) _ :=
      Condition.decides_compare .equal bound rfl
    rw [String.ofList_toList, related_text_text holds] at decides
    exact decides.congr Option.some_inj
  · rw [if_neg whole, if_neg whole]
    have isPattern : path.pattern? = some (substringPattern path.term.text) := if_neg whole
    have decides :
        (Condition.like (.column "parent_path") (substringPattern path.term.text) '\\').Decides
          tables.database ⟨fileColumns, []⟩ (fileRow file) _ :=
      Condition.decides_like '\\' bound (short _ isPattern) holds
    exact decides.congr (patternMatches_substringPattern _ _)

theorem decides_membership
    {database : Database} {table : Table} {row : List Value} {column : String} {place : Place}
    (bound : (Operand.column column).place table = .ok place) (texts : List String) :
    (membershipCondition column (texts.map String.toList)).Decides database table row
      (∃ text ∈ texts, place.related .equal (.literal (.text text)) row = some true) := by
  have decides :
      (membershipCondition column (texts.map String.toList)).Decides database table row _ :=
    Condition.decides_among (texts.map String.toList) bound
  apply decides.congr
  simp

/-- The ids of data sources are written as texts, and the column reads a text as a number. -/
theorem decides_sources (sources : List SourceChoice) :
    (membershipCondition "data_source_obj_id"
        (sources.map fun source => (toString source.id).toList)).Decides
      tables.database ⟨fileColumns, []⟩ (fileRow file)
      (∃ source ∈ sources, file.sourceId = .finite source.id) := by
  have holds : (Place.column 4 .number).value (fileRow file) = .number file.sourceId :=
    rfl
  have decides :
      (membershipCondition "data_source_obj_id"
          ((sources.map fun source => toString source.id).map String.toList)).Decides
        tables.database ⟨fileColumns, []⟩ (fileRow file) _ :=
    decides_membership rfl _
  rw [List.map_map] at decides
  apply decides.congr
  constructor
  · rintro ⟨_, isText, equal⟩
    obtain ⟨source, isSource, rfl⟩ := List.mem_map.mp isText
    rw [Condition.related_number_text holds] at equal
    exact ⟨source, isSource, (equals_finite_iff _ _).mp (Option.some.inj equal)⟩
  · rintro ⟨source, isSource, same⟩
    refine ⟨_, List.mem_map_of_mem isSource, ?_⟩
    rw [Condition.related_number_text holds]
    exact congrArg some ((equals_finite_iff _ _).mpr same)

/-- A file without a media type has none of those asked for. -/
theorem decides_mediaTypes (mediaTypes : List String) :
    (membershipCondition "mime_type" (mediaTypes.map String.toList)).Decides
      tables.database ⟨fileColumns, []⟩ (fileRow file)
      (∃ mediaType ∈ mediaTypes, file.mediaType = some mediaType) := by
  have holds : (Place.column 5 .text).value (fileRow file) = .ofText? file.mediaType :=
    rfl
  apply (decides_membership rfl mediaTypes).congr
  simp only [related_text_text holds]

/-! ## Hits of keyword lists -/

theorem related_whole
    {index : Nat} {row : List Value} {held : Int}
    (holds : (Place.column index .number).value row = .number (.finite held)) (number : Int) :
    (Place.column index .number).related .equal (.literal (.number (.finite number))) row =
        some true ↔
      held = number := by
  rw [related_number_number holds, Number.finite.injEq, Rat.intCast_inj]

/-- The row of an artifact. -/
def artifactRow (artifact : StoredArtifact) : List Value :=
  [.number (.finite artifact.id), .number artifact.fileId, .number (.finite artifact.type)]

/-- The row of an attribute. -/
def attributeRow (row : StoredAttribute) : List Value :=
  [.number (.finite row.artifactId), .number (.finite row.artifactType),
    .number (.finite row.type), .ofText? row.text]

/-- What the columns of an attribute say about keyword lists. -/
def NamesList (lists : List String) (row : List Value) : Prop :=
  ((Place.column 1 .number).related .equal
          (.literal (.number (.finite (keywordHitType : Int)))) row = some true ∧
      (Place.column 2 .number).related .equal
          (.literal (.number (.finite (listNameType : Int)))) row = some true) ∧
    ∃ list ∈ lists,
      (Place.column 3 .text).related .equal (.literal (.text list)) row = some true

theorem decides_listCondition (lists : List String) (row : List Value) :
    (listCondition lists).Decides tables.database (attributeTable tables.attributes) row
      (NamesList lists row) := by
  have isHit :
      (Condition.compare (.column "artifact_type_id") .equal (.number keywordHitType)).Decides
        tables.database (attributeTable tables.attributes) row
        ((Place.column 1 .number).related .equal
          (.literal (.number (.finite (keywordHitType : Int)))) row = some true) :=
    Condition.decides_compare .equal rfl rfl
  have isName :
      (Condition.compare (.column "attribute_type_id") .equal (.number listNameType)).Decides
        tables.database (attributeTable tables.attributes) row
        ((Place.column 2 .number).related .equal
          (.literal (.number (.finite (listNameType : Int)))) row = some true) :=
    Condition.decides_compare .equal rfl rfl
  have isListed :
      (membershipCondition "value_text" (lists.map String.toList)).Decides
        tables.database (attributeTable tables.attributes) row
        (∃ list ∈ lists,
          (Place.column 3 .text).related .equal (.literal (.text list)) row = some true) :=
    decides_membership rfl lists
  exact (isHit.both isName).both isListed

theorem namesList_attributeRow (lists : List String) (row : StoredAttribute) :
    NamesList lists (attributeRow row) ↔
      row.artifactType = keywordHitType ∧ row.type = listNameType ∧
        ∃ list ∈ lists, row.text = some list := by
  have isHit :
      (Place.column 1 .number).related .equal
            (.literal (.number (.finite (keywordHitType : Int)))) (attributeRow row) = some true ↔
        (row.artifactType : Int) = keywordHitType :=
    related_whole rfl keywordHitType
  have isName :
      (Place.column 2 .number).related .equal
            (.literal (.number (.finite (listNameType : Int)))) (attributeRow row) = some true ↔
        (row.type : Int) = listNameType :=
    related_whole rfl listNameType
  have isListed (list : String) :
      (Place.column 3 .text).related .equal (.literal (.text list)) (attributeRow row) =
          some true ↔
        row.text = some list :=
    related_text_text rfl list
  rw [NamesList, isHit, isName, Int.ofNat_inj, Int.ofNat_inj, and_assoc]
  simp only [isListed]

/-- The attributes are looked through for each artifact. -/
theorem decides_artifactCondition (lists : List String) (row : List Value) :
    (Condition.within (.column "artifact_id") "artifact_id" "blackboard_attributes"
        (listCondition lists)).Decides
      tables.database (artifactTable tables.artifacts) row
      (∃ found ∈ (attributeTable tables.attributes).rows,
        NamesList lists found ∧
          (Place.column 0 .number).related .equal
              (.literal ((Place.column 0 .number).value found)) row = some true) := by
  obtain ⟨test, _, bound, _, _⟩ := decides_listCondition tables lists []
  exact
    Condition.decides_within rfl rfl rfl bound fun found _ =>
      decides_listCondition tables lists found

theorem decides_keywordCondition (lists : List String) :
    (keywordCondition lists).Decides tables.database ⟨fileColumns, []⟩ (fileRow file)
      (∃ list ∈ lists, tables.HasHit file list) := by
  obtain ⟨test, _, bound, _, _⟩ := decides_artifactCondition tables lists []
  have decides :
      (keywordCondition lists).Decides tables.database ⟨fileColumns, []⟩ (fileRow file)
        (∃ found ∈ (artifactTable tables.artifacts).rows,
          (∃ inner ∈ (attributeTable tables.attributes).rows,
            NamesList lists inner ∧
              (Place.column 0 .number).related .equal
                  (.literal ((Place.column 0 .number).value inner)) found = some true) ∧
            (Place.column 0 .number).related .equal
                (.literal ((Place.column 1 .number).value found)) (fileRow file) = some true) :=
    Condition.decides_within rfl rfl rfl bound fun found _ =>
      decides_artifactCondition tables lists found
  apply decides.congr
  have ofFile (artifact : StoredArtifact) :
      (Place.column 0 .number).related .equal
            (.literal ((Place.column 1 .number).value (artifactRow artifact))) (fileRow file) =
          some true ↔
        artifact.fileId = .finite file.id := by
    rw [← finite_equals_iff]
    exact Option.some_inj
  have ofArtifact (artifact : StoredArtifact) (row : StoredAttribute) :
      (Place.column 0 .number).related .equal
            (.literal ((Place.column 0 .number).value (attributeRow row)))
            (artifactRow artifact) = some true ↔
        row.artifactId = artifact.id :=
    (related_whole rfl row.artifactId).trans eq_comm
  constructor
  · rintro ⟨_, isArtifact, ⟨_, isRow, names, joins⟩, hit⟩
    obtain ⟨artifact, artifactMember, rfl⟩ := List.mem_map.mp isArtifact
    obtain ⟨row, rowMember, rfl⟩ := List.mem_map.mp isRow
    obtain ⟨isHit, isName, list, isListed, text⟩ := (namesList_attributeRow lists row).mp names
    exact
      ⟨list, isListed, artifact, artifactMember, row, rowMember, (ofFile artifact).mp hit,
        (ofArtifact artifact row).mp joins, isHit, isName, text⟩
  · rintro
      ⟨list, isListed, artifact, artifactMember, row, rowMember, hit, joins, isHit, isName, text⟩
    have names : NamesList lists (attributeRow row) :=
      (namesList_attributeRow lists row).mpr ⟨isHit, isName, list, isListed, text⟩
    exact
      ⟨artifactRow artifact, List.mem_map_of_mem artifactMember,
        ⟨attributeRow row, List.mem_map_of_mem rowMember, names,
          (ofArtifact artifact row).mpr joins⟩, (ofFile artifact).mpr hit⟩

/-! ## Filters -/

namespace Filter

/-- The patterns that a filter writes. -/
def patterns : Filter → List (List Char)
  | .parent paths => paths.toList.filterMap PathChoice.pattern?
  | _ => []

/-- What the filters write stays within the limits of the case store. -/
def WithinLimits (filters : List Filter) : Prop :=
  (∀ condition ∈ conjunction? filters, condition.depth ≤ depthLimit) ∧
    ∀ filter ∈ filters, ∀ pattern ∈ filter.patterns,
      (String.ofList pattern).utf8ByteSize ≤ patternLimit

/-- The condition of a filter decides whether the filter selects the file. -/
theorem decides_condition
    {filter : Filter} {condition : Condition} (asks : filter.condition? = some condition)
    (short :
      ∀ pattern ∈ filter.patterns, (String.ofList pattern).utf8ByteSize ≤ patternLimit) :
    condition.Decides tables.database ⟨fileColumns, []⟩ (fileRow file)
      (filter.Selects tables file) := by
  cases filter with
  | size ranges =>
      obtain rfl := Option.some.inj asks
      exact Condition.decides_disjunction fun range _ => range.decides tables file
  | parent paths =>
      obtain rfl := Option.some.inj asks
      refine Condition.decides_disjunction fun path member => path.decides tables file ?_
      intro pattern isPattern
      exact short pattern (List.mem_filterMap.mpr ⟨path, member, isPattern⟩)
  | dataSource sources =>
      obtain rfl := Option.some.inj asks
      exact decides_sources tables file sources.toList
  | keywordList lists =>
      obtain rfl := Option.some.inj asks
      apply (decides_keywordCondition tables file _).congr
      simp [Selects, Admits]
  | fileType types =>
      obtain rfl := Option.some.inj asks
      apply (decides_mediaTypes tables file _).congr
      simp only [Selects, Admits, List.mem_flatMap]
      constructor
      · rintro ⟨mediaType, ⟨choice, isChoice, listed⟩, same⟩
        exact ⟨choice, isChoice, mediaType, listed, same⟩
      · rintro ⟨choice, isChoice, mediaType, listed, same⟩
        exact ⟨mediaType, ⟨choice, isChoice, listed⟩, same⟩
  | frequency frequencies =>
      cases asks

theorem selects_of_condition?_eq_none
    {filter : Filter} (silent : filter.condition? = none) :
    filter.Selects tables file := by
  cases filter with
  | frequency frequencies =>
      trivial
  | _ =>
      cases silent

/-- The filters that ask the case store, each with its condition. -/
def asked (filters : List Filter) : List (Filter × Condition) :=
  filters.filterMap fun filter => filter.condition?.map fun condition => (filter, condition)

theorem mem_asked_iff
    {filters : List Filter} {filter : Filter} {condition : Condition} :
    (filter, condition) ∈ asked filters ↔
      filter ∈ filters ∧ filter.condition? = some condition := by
  rw [asked, List.mem_filterMap]
  constructor
  · rintro ⟨other, isMember, asks⟩
    obtain ⟨otherCondition, isCondition, same⟩ := Option.map_eq_some_iff.mp asks
    cases same
    exact ⟨isMember, isCondition⟩
  · rintro ⟨isMember, isCondition⟩
    exact ⟨filter, isMember, by rw [isCondition]; rfl⟩

theorem asked_snd (filters : List Filter) :
    (asked filters).map Prod.snd = filters.filterMap condition? := by
  rw [asked, List.map_filterMap]
  refine List.filterMap_congr fun filter _ => ?_
  cases filter.condition? <;> rfl

theorem asked_select_iff (filters : List Filter) :
    (∀ pair ∈ asked filters, pair.1.Selects tables file) ↔
      ∀ filter ∈ filters, filter.Selects tables file := by
  constructor
  · intro selected filter isMember
    cases isCondition : filter.condition? with
    | none =>
        exact selects_of_condition?_eq_none tables file isCondition
    | some condition =>
        exact selected (filter, condition) (mem_asked_iff.mpr ⟨isMember, isCondition⟩)
  · rintro selected ⟨filter, condition⟩ isAsked
    exact selected filter (mem_asked_iff.mp isAsked).1

/-- The condition of all filters decides whether every filter selects the file; a filter that asks
the case store for nothing selects every file. -/
theorem decides_selects
    {filters : List Filter} {condition : Condition}
    (asks : conjunction? filters = some condition) (limited : WithinLimits filters) :
    condition.Decides tables.database ⟨fileColumns, []⟩ (fileRow file)
      (∀ filter ∈ filters, filter.Selects tables file) := by
  have each :
      ∀ pair ∈ asked filters,
        pair.2.Decides tables.database ⟨fileColumns, []⟩ (fileRow file)
          (pair.1.Selects tables file) := by
    rintro ⟨filter, condition⟩ isAsked
    obtain ⟨isMember, isCondition⟩ := mem_asked_iff.mp isAsked
    exact decides_condition tables file isCondition (limited.2 filter isMember)
  rw [conjunction?, ← asked_snd] at asks
  rw [← asked_select_iff]
  cases pairs : asked filters with
  | nil =>
      rw [pairs] at asks
      cases asks
  | cons first others =>
      rw [pairs] at asks each
      obtain rfl := Option.some.inj asks
      exact Condition.decides_conjunction each

/-- On a parent path without null characters to be selected is to be admitted. -/
theorem decides_conjunction?
    {filters : List Filter} {condition : Condition}
    (asks : conjunction? filters = some condition)
    (plain : '\x00' ∉ file.parentPath.toList) (limited : WithinLimits filters) :
    condition.Decides tables.database ⟨fileColumns, []⟩ (fileRow file)
      (∀ filter ∈ filters, filter.Admits tables file) := by
  refine (decides_selects tables file asks limited).congr ?_
  simp only [selects_iff plain]

theorem filesPassing_eq_ok
    {test : Test} {files : List StoredFile} {Holds : StoredFile → Prop} [DecidablePred Holds]
    (tested :
      ∀ file ∈ files, ∃ truth,
        test.evaluate (fileRow file) = .ok truth ∧ (truth = some true ↔ Holds file)) :
    filesPassing test files = .ok (files.filter Holds) := by
  induction files with
  | nil =>
      rfl
  | cons file files inductionHypothesis =>
      obtain ⟨truth, evaluated, truthIff⟩ := tested file List.mem_cons_self
      have others :=
        inductionHypothesis fun other member => tested other (List.mem_cons_of_mem file member)
      rw [filesPassing, evaluated, others, List.filter_cons]
      by_cases holds : Holds file
      · rw [if_pos (decide_eq_true holds), truthIff.mpr holds]
        rfl
      · have notTrue : truth ≠ some true := fun isTrue => holds (truthIff.mp isTrue)
        rw [if_neg (by simpa using holds)]
        change Except.ok (if truth = some true then _ else _) = _
        rw [if_neg notTrue]

/-- The condition of all filters selects the files that every filter selects. -/
theorem select_eq_selects
    {filters : List Filter} {condition : Condition}
    [DecidablePred fun file => ∀ filter ∈ filters, filter.Selects tables file]
    (asks : conjunction? filters = some condition) (limited : WithinLimits filters) :
    tables.select condition =
      .ok (tables.files.filter fun file => ∀ filter ∈ filters, filter.Selects tables file) := by
  -- binding does not look at rows, so any file will do
  obtain ⟨test, _, bound, _, _⟩ :=
    decides_selects tables ⟨0, "", "", .nan, .nan, none, none⟩ asks limited
  have selected : tables.select condition = filesPassing test tables.files := by
    rw [select, bound]
    rfl
  rw [selected]
  refine filesPassing_eq_ok fun file member => ?_
  obtain ⟨other, truth, otherBound, evaluated, truthIff⟩ :=
    decides_selects tables file asks limited
  obtain rfl := Except.ok.inj (bound.symm.trans otherBound)
  exact ⟨truth, evaluated, truthIff⟩

theorem select_eq_ok
    {filters : List Filter} {condition : Condition}
    [DecidablePred fun file => ∀ filter ∈ filters, filter.Admits tables file]
    (asks : conjunction? filters = some condition)
    (plain : ∀ file ∈ tables.files, '\x00' ∉ file.parentPath.toList)
    (limited : WithinLimits filters) :
    tables.select condition =
      .ok (tables.files.filter fun file => ∀ filter ∈ filters, filter.Admits tables file) := by
  classical
  rw [select_eq_selects tables asks limited]
  refine congrArg Except.ok (List.filter_congr fun file member => ?_)
  simp only [selects_iff (plain file member)]

/-- Whatever texts the filters hold, their clause is written, read back token by token with the
same structure, and true on the row of a file exactly if every filter that asks the case store
admits the file. -/
theorem combinedClause_selects
    {filters : List Filter} (asking : ∃ filter ∈ filters, filter.isFrequency = false)
    (nullFree : ∀ filter ∈ filters, filter.NullFree)
    (plain : '\x00' ∉ file.parentPath.toList) (limited : WithinLimits filters) :
    ∃ clause condition test truth,
      combinedClause filters = .ok clause ∧
        combinedClause (filters.filter fun filter => !filter.isFrequency) = .ok clause ∧
        Token.scan clause.toList = combinedTokens filters ∧
        conjunction? filters = some condition ∧
        Condition.ofClause clause.toList = .ok condition ∧
        condition.bind tables.database ⟨fileColumns, []⟩ = .ok test ∧
        test.evaluate (fileRow file) = .ok truth ∧
        (truth = some true ↔
          ∀ filter ∈ filters, filter.isFrequency = false → filter.Admits tables file) ∧
        (file.mediaType = none → (∃ types, Filter.fileType types ∈ filters) →
          truth ≠ some true) := by
  obtain ⟨condition, asks⟩ := exists_conjunction? asking
  obtain ⟨test, truth, bound, tested, truthIff⟩ :=
    decides_conjunction? tables file asks plain limited
  have written := combinedClause_eq_ok asking
  have askingStill :
      ∃ filter ∈ filters.filter fun filter => !filter.isFrequency,
        filter.isFrequency = false := by
    obtain ⟨filter, isMember, notFrequency⟩ := asking
    exact ⟨filter, List.mem_filter.mpr ⟨isMember, by rw [notFrequency]; rfl⟩, notFrequency⟩
  have writtenStill := combinedClause_eq_ok askingStill
  rw [combinedTokens_filter_isFrequency] at writtenStill
  refine ⟨_, condition, test, truth, written, writtenStill, ?_, asks, ?_, bound, tested, ?_, ?_⟩
  · rw [String.toList_ofList]
    exact scan_combinedTokens nullFree
  · rw [String.toList_ofList]
    exact ofClause_combinedTokens nullFree asks (limited.1 condition asks)
  · rw [truthIff]
    constructor
    · intro admitted filter isMember _
      exact admitted filter isMember
    · intro admitted filter isMember
      cases isFrequency : filter.isFrequency with
      | false =>
          exact admitted filter isMember isFrequency
      | true =>
          cases filter with
          | frequency frequencies =>
              trivial
          | _ =>
              cases isFrequency
  · rintro noMediaType ⟨types, isMember⟩ isTrue
    obtain ⟨choice, _, mediaType, _, same⟩ := truthIff.mp isTrue _ isMember
    rw [noMediaType] at same
    cases same

/-- A range of sizes, a path that holds a quote and marks of patterns, and a frequency. -/
def quotedFilters : List Filter :=
  [.size ⟨⟨0, some 4096, by decide⟩, []⟩, .frequency ⟨.common, []⟩,
    .parent ⟨⟨⟨"it's_100%' OR '", false⟩, by decide⟩, []⟩]

/-- A file without media type whose path holds that text in other case. -/
def quotedFile : StoredFile :=
  ⟨1, "a.bin", "/IT'S_100%' or '/", .finite 12, .finite 1, none, none⟩

/-- A text with a quote and words of clauses stays one text. -/
theorem combinedClause_selects_quotedFile :
    ∃ clause condition test,
      combinedClause quotedFilters = .ok clause ∧
        Condition.ofClause clause.toList = .ok condition ∧
        condition.bind CaseTables.empty.database ⟨fileColumns, []⟩ = .ok test ∧
        test.evaluate (fileRow quotedFile) = .ok (some true) := by
  have asking : ∃ filter ∈ quotedFilters, filter.isFrequency = false :=
    ⟨_, List.mem_cons_self, rfl⟩
  have nullFree : ∀ filter ∈ quotedFilters, filter.NullFree := by
    simp only [NullFree]
    decide
  have limited : WithinLimits quotedFilters := by
    refine ⟨?_, by decide⟩
    rintro condition ⟨rfl⟩
    decide
  have admits :
      ∀ filter ∈ quotedFilters, filter.isFrequency = false →
        filter.Admits CaseTables.empty quotedFile := by
    intro filter isMember _
    simp only [quotedFilters, List.mem_cons, List.not_mem_nil, or_false] at isMember
    rcases isMember with rfl | rfl | rfl
    · exact ⟨_, List.mem_cons_self, by decide, by decide⟩
    · trivial
    · refine ⟨_, List.mem_cons_self, ?_⟩
      change Sql.OccursIn _ _
      rw [Sql.OccursIn]
      decide
  obtain ⟨clause, condition, test, truth, written, _, _, _, read, bound, tested, truthIff, _⟩ :=
    combinedClause_selects CaseTables.empty quotedFile asking nullFree (by decide) limited
  rw [truthIff.mpr admits] at tested
  exact ⟨clause, condition, test, written, read, bound, tested⟩

end Filter
end EvidenceSearch
