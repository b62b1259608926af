import EvidenceSearch.Proofs.Filter.FileTypes
import EvidenceSearch.Proofs.Search.Answers

/-!
# What is offered and what is accepted

The values that a case offers for a search are passed back, each alone in the argument that it
belongs to. Every name and every id is known, so what decides is the check of the filter: a data
source whose id is beyond the safe whole numbers is refused, and so is a keyword list without a
name, although both are offered. All other values make one filter of their kind.
-/

namespace EvidenceSearch

theorem Frequency.mem_all (frequency : Frequency) : frequency ∈ all := by
  cases frequency <;> decide

/-! ## Offers -/

/-- A value that can be searched for. -/
inductive Offer where
  | preset (name : String)
  | source (id : Number)
  | list (name : String)
  | type (name : String)
  | frequency (name : String)
  deriving DecidableEq

/-- What an answer lists under a name. -/
def offeredUnder (answer : Json) (name : String) : List Json :=
  (((answer.field? "data").bind fun data => data.field? name).bind Json.items?).getD []

namespace Offer

/-- The value stands in the answer that lists what can be searched for. -/
def StandsIn (answer : Json) : Offer → Prop
  | .preset name =>
      ∃ preset ∈ offeredUnder answer "size_presets", preset.field? "name" = some (.string name)
  | .source id =>
      ∃ source ∈ offeredUnder answer "data_sources", source.field? "id" = some (.number id)
  | .list name => .string name ∈ offeredUnder answer "keyword_lists"
  | .type name => .string name ∈ offeredUnder answer "file_types"
  | .frequency name => .string name ∈ offeredUnder answer "frequencies"

/-- The value is one that the catalogue names, or one of those that every catalogue has. -/
def IsOf (catalog : Catalog) : Offer → Prop
  | .preset name => ∃ preset ∈ SizePreset.all, preset.name = name
  | .source id => ∃ source ∈ catalog.sources, source.id = id
  | .list name => name ∈ catalog.keywordLists
  | .type name => ∃ type ∈ catalog.fileTypes, type.name = name
  | .frequency name => ∃ frequency : Frequency, frequency.name = name

/-- The kind of the filter that searches for the value. -/
def kind : Offer → FilterKind
  | .preset _ => .size
  | .source _ => .dataSource
  | .list _ => .keywordList
  | .type _ => .fileType
  | .frequency _ => .frequency

/-- The arguments of a search for the value and nothing else. -/
def arguments : Offer → SearchArguments
  | .preset name => { sizePresets := some [name] }
  | .source id => { sourceIds := some [id] }
  | .list name => { keywordLists := some [name] }
  | .type name => { fileTypes := some [name] }
  | .frequency name => { frequencies := some [name] }

/-- The filter of a search for the value, or why there is none. -/
def filter (catalog : Catalog) : Offer → Except Failure Filter
  | .preset name => do Filter.ofSizes [← Catalog.presetBounds name]
  | .source id => do Filter.ofSources [← catalog.source id]
  | .list name => Filter.ofLists [name]
  | .type name => do Filter.ofTypes [← catalog.fileType name]
  | .frequency name => do Filter.ofFrequencies [← Catalog.frequency name]

/-- Why a search for the value is refused, if it is. -/
def refusal? : Offer → Option Failure
  | .source id => if id.safeValue?.isSome then none else some .sourceIdNotWhole
  | .list name => if name = "" then some .emptyListName else none
  | _ => none

/-- A search for the value makes one filter, and that is of the kind of the value. -/
def Accepted (catalog : Catalog) (offer : Offer) : Prop :=
  ∃ filter, catalog.filters offer.arguments = .ok [filter] ∧ filter.kind = offer.kind

/-- The value is refused for its reason if there is one, and accepted otherwise. -/
def Judged (catalog : Catalog) (offer : Offer) : Prop :=
  match offer.refusal? with
  | some failure => catalog.filters offer.arguments = .error failure
  | none => offer.Accepted catalog

variable {catalog : Catalog} {offer : Offer}

/-- An argument with one entry has the filter of that entry. -/
theorem filterOf_single
    {Entry : Type} (make : List Entry → Except Failure Filter) (entry : Entry) :
    Catalog.filterOf make [entry] = (fun filter => [filter]) <$> make [entry] := by
  rw [Catalog.filterOf, List.isEmpty_cons, if_neg Bool.false_ne_true, map_eq_pure_bind]

/-- The arguments that are absent make no filters. -/
theorem filters_arguments (catalog : Catalog) (offer : Offer) :
    catalog.filters offer.arguments = (fun filter => [filter]) <$> offer.filter catalog := by
  have absent {Entry : Type} (make : List Entry → Except Failure Filter) :
      Catalog.filterOf make [] = pure [] := rfl
  cases offer <;> simp [Catalog.filters, arguments, filter, filterOf_single, absent]

theorem accepted_of_filter
    {made : Filter} (isMade : offer.filter catalog = .ok made) (sameKind : made.kind = offer.kind) :
    offer.Accepted catalog := by
  refine ⟨made, ?_, sameKind⟩
  rw [filters_arguments, isMade]
  rfl

theorem refused_of_filter
    {failure : Failure} (refused : offer.filter catalog = .error failure) :
    catalog.filters offer.arguments = .error failure := by
  rw [filters_arguments, refused]
  rfl

/-- A filter with one value is made if the value passes its check. -/
theorem make_single
    {Entry Value : Type} (kind : FilterKind) (construct : Choices Value → Filter)
    (check : Entry → Except Failure Value) (entry : Entry) :
    (do return construct (← Filter.requireValues kind (← [entry].mapM check))) =
      (fun value => construct ⟨value, []⟩) <$> check entry := by
  have required (value : Value) : Filter.requireValues kind [value] = pure ⟨value, []⟩ := rfl
  simp [required]

/-! ## Single offers -/

theorem judged_preset {preset : SizePreset} (member : preset ∈ SizePreset.all) :
    (Offer.preset preset.name).Judged catalog := by
  have allMade :
      ∀ preset ∈ SizePreset.all,
        (Offer.preset preset.name).filter catalog = .ok (.size ⟨preset.range, []⟩) := by
    rw [SizePreset.all]
    simp only [List.forall_mem_cons]
    exact ⟨rfl, rfl, rfl, rfl, rfl, rfl, List.forall_mem_nil _⟩
  exact accepted_of_filter (allMade preset member) rfl

theorem checkSource_of_safe
    {source : DataSource} (safe : source.id.safeValue?.isSome) :
    ∃ choice, Filter.checkSource source = .ok choice := by
  rw [Number.safeValue?] at safe
  rw [Filter.checkSource]
  split at safe
  · rename_i id isWhole
    split at safe
    · rename_i isSafe
      simp only [isWhole]
      rw [dif_pos isSafe]
      exact ⟨_, rfl⟩
    · cases safe
  · cases safe

theorem checkSource_of_not_safe
    {source : DataSource} (notSafe : ¬source.id.safeValue?.isSome) :
    Filter.checkSource source = .error .sourceIdNotWhole := by
  rw [Number.safeValue?] at notSafe
  rw [Filter.checkSource]
  split
  · rfl
  · rename_i id isWhole
    simp only [isWhole] at notSafe
    split at notSafe
    · exact absurd rfl notSafe
    · rename_i beyond
      rw [dif_neg beyond]

theorem exists_source
    {source : DataSource} (member : source ∈ catalog.sources) (isNumber : source.id ≠ .nan) :
    ∃ known, catalog.source source.id = .ok known ∧ known.id = source.id := by
  rw [Catalog.source]
  split
  · rename_i known found
    have equal := List.find?_some found
    exact ⟨known, rfl, ((Number.equals_iff known.id source.id).mp equal).1⟩
  · rename_i unknown
    have equal : source.id.equals source.id = true :=
      (Number.equals_iff _ _).mpr ⟨rfl, isNumber⟩
    exact absurd equal (List.find?_eq_none.mp unknown source member)

/-- An offered data source is known, so only its id can be refused. -/
theorem judged_source
    {source : DataSource} (member : source ∈ catalog.sources) (isNumber : source.id ≠ .nan) :
    (Offer.source source.id).Judged catalog := by
  -- another source may be found in its place, but only one with the same id
  obtain ⟨known, isKnown, sameId⟩ := exists_source member isNumber
  have filterIs :
      (Offer.source source.id).filter catalog =
        (fun choice => .dataSource ⟨choice, []⟩) <$> Filter.checkSource known := by
    rw [filter, isKnown]
    exact make_single .dataSource .dataSource Filter.checkSource known
  rw [Judged, refusal?]
  by_cases safe : source.id.safeValue?.isSome
  · rw [← sameId] at safe
    obtain ⟨choice, checked⟩ := checkSource_of_safe safe
    rw [checked] at filterIs
    rw [if_pos (sameId ▸ safe)]
    exact accepted_of_filter filterIs rfl
  · rw [if_neg safe]
    rw [← sameId] at safe
    rw [checkSource_of_not_safe safe] at filterIs
    exact refused_of_filter filterIs

/-- The names of keyword lists are not looked up; only the empty one is refused. -/
theorem judged_list (name : String) : (Offer.list name).Judged catalog := by
  have filterIs :
      (Offer.list name).filter catalog =
        (fun choice => .keywordList ⟨choice, []⟩) <$> Filter.checkList name :=
    make_single .keywordList .keywordList Filter.checkList name
  rw [Filter.checkList] at filterIs
  rw [Judged, refusal?]
  by_cases empty : name = ""
  · rw [dif_neg (not_not.mpr empty)] at filterIs
    rw [if_pos empty]
    exact refused_of_filter filterIs
  · rw [dif_pos empty] at filterIs
    rw [if_neg empty]
    exact accepted_of_filter filterIs rfl

theorem judged_type
    {type : FileType} (distinguished : FileType.Distinguished catalog.fileTypes)
    (member : type ∈ catalog.fileTypes) :
    (Offer.type type.name).Judged catalog := by
  have known : catalog.fileType type.name = .ok type := by
    rw [Catalog.fileType, distinguished.find?_name member]
  have listed := distinguished.listed type member
  have checked : Filter.checkType type = .ok ⟨type, listed⟩ := dif_pos listed
  have filterIs :
      (Offer.type type.name).filter catalog = .ok (.fileType ⟨⟨type, listed⟩, []⟩) := by
    rw [filter, known]
    have made := make_single .fileType .fileType Filter.checkType type
    rw [checked] at made
    exact made
  exact accepted_of_filter filterIs rfl

theorem judged_frequency (frequency : Frequency) :
    (Offer.frequency frequency.name).Judged catalog := by
  have filterIs :
      (Offer.frequency frequency.name).filter catalog = .ok (.frequency ⟨frequency, []⟩) := by
    cases frequency with
    | _ => rfl
  exact accepted_of_filter filterIs rfl

/-! ## All offers -/

/-- The answer lists what the catalogue holds, and nothing else. -/
theorem standsIn_iff (hasRepository : Bool) :
    offer.StandsIn (optionsAnswer catalog hasRepository) ↔ offer.IsOf catalog := by
  cases offer with
  | preset name =>
      have listed :
          offeredUnder (optionsAnswer catalog hasRepository) "size_presets" =
            SizePreset.all.map offeredPreset :=
        rfl
      rw [StandsIn, IsOf, listed]
      simp [offeredPreset, Json.field?]
  | source id =>
      have listed :
          offeredUnder (optionsAnswer catalog hasRepository) "data_sources" =
            catalog.sources.map DataSource.toJson :=
        rfl
      rw [StandsIn, IsOf, listed]
      simp [DataSource.toJson, Json.field?]
  | list name =>
      have listed :
          offeredUnder (optionsAnswer catalog hasRepository) "keyword_lists" =
            catalog.keywordLists.map .string :=
        rfl
      rw [StandsIn, IsOf, listed]
      simp
  | type name =>
      have listed :
          offeredUnder (optionsAnswer catalog hasRepository) "file_types" =
            (catalog.fileTypes.map FileType.name).map .string :=
        rfl
      rw [StandsIn, IsOf, listed]
      simp
  | frequency name =>
      have listed :
          offeredUnder (optionsAnswer catalog hasRepository) "frequencies" =
            (Frequency.all.map Frequency.name).map .string :=
        rfl
      rw [StandsIn, IsOf, listed]
      simp [Frequency.mem_all]

/-- Every value of a catalogue is judged by its own check alone. -/
theorem IsOf.judged
    (isOf : offer.IsOf catalog) (numbers : ∀ source ∈ catalog.sources, source.id ≠ .nan)
    (distinguished : FileType.Distinguished catalog.fileTypes) :
    offer.Judged catalog := by
  cases offer with
  | preset name =>
      obtain ⟨preset, member, rfl⟩ := isOf
      exact judged_preset member
  | source id =>
      obtain ⟨source, member, rfl⟩ := isOf
      exact judged_source member (numbers source member)
  | list name =>
      exact judged_list name
  | type name =>
      obtain ⟨type, member, rfl⟩ := isOf
      exact judged_type distinguished member
  | frequency name =>
      obtain ⟨frequency, rfl⟩ := isOf
      exact judged_frequency frequency

theorem Judged.accepted_iff (judged : offer.Judged catalog) :
    offer.Accepted catalog ↔ offer.refusal? = none := by
  rw [Judged] at judged
  split at judged
  · rename_i failure refused
    rw [refused, iff_false_right (Option.some_ne_none failure)]
    rintro ⟨filter, made, _⟩
    rw [judged] at made
    cases made
  · rename_i noReason
    rw [noReason, iff_true_right rfl]
    exact judged

theorem Judged.refused
    {failure : Failure} (judged : offer.Judged catalog) (isReason : offer.refusal? = some failure) :
    catalog.filters offer.arguments = .error failure := by
  rw [Judged, isReason] at judged
  exact judged

end Offer

/-! ## Offers of a case -/

namespace Number

theorem ofInt_ne_nan (value : Int) : ofInt value ≠ .nan := by
  rw [ofInt]
  split
  · exact nofun
  · rw [ofFraction]
    split
    · exact nofun
    · split
      · exact nofun
      · exact nofun

end Number

/-- The names that a case lists are those of the hits that were added, each once and in order, and
they are read back. -/
theorem Ledger.InCase.listNames_eq
    {ledger : Ledger} {tables : CaseTables} (inCase : ledger.InCase tables) :
    tables.listNames =
      ((ledger.hits.filterMap NewHit.list).eraseDups.mergeSort fun left right =>
        left ≤ right).map readBack := by
  have names :
      (tables.attributes.filterMap fun row =>
          if row.artifactType = keywordHitType && row.type = listNameType then row.text
          else none) =
        ledger.hits.filterMap NewHit.list := by
    have hits : ledger.hits = (ledger.hits.zipIdx 1).map Prod.fst := by
      rw [List.zipIdx_map_fst]
    conv_rhs => rw [hits, List.filterMap_map]
    rw [inCase.attributes, List.filterMap_map]
    rfl
  rw [CaseTables.listNames, names]

/-- A case offers the keyword lists of which a hit was added, under the names that are read back. -/
theorem Ledger.InCase.mem_listNames_iff
    {ledger : Ledger} {tables : CaseTables} (inCase : ledger.InCase tables) (name : String) :
    name ∈ tables.listNames ↔ ∃ hit ∈ ledger.hits, hit.list.map readBack = some name := by
  rw [inCase.listNames_eq, List.mem_map]
  simp only [List.mem_mergeSort, List.mem_eraseDups, List.mem_filterMap, Option.map_eq_some_iff]
  constructor
  · rintro ⟨text, ⟨hit, isHit, named⟩, read⟩
    exact ⟨hit, isHit, text, named, read⟩
  · rintro ⟨hit, isHit, text, named, read⟩
    exact ⟨text, ⟨hit, isHit, named⟩, read⟩

namespace Offer

open Recording

/-- A case is prepared on a handle whose database was new to it, and its writers are called,
whatever the calls are and whether they succeed or fail. With file types that were read from JSON,
what the case can be searched for can be read: it is what the tables of the case hold, with the
keyword lists of the hits that were added. All of it is offered. Whatever is offered makes one
filter of its kind, except for a keyword list without a name and a data source whose id is beyond
the safe whole numbers. -/
theorem accepted_iff_not_refused
    {workspace : Workspace} {caseId : HandleId} {side : Tables}
    (idle : (workspace.handle caseId).IdleOn side) (noCase : side.caseTables = none)
    (calls : List WriterCall) {json : Json} {fileTypes : List FileType}
    (read : FileType.listOfJson json = .ok fileTypes) :
    ∃ tables caseTables catalog,
      ((ofCaseCalls workspace caseId calls).workspace.handle caseId).IdleOn tables ∧
        tables.caseTables = some caseTables ∧
        catalog = ⟨caseTables.listSources, caseTables.listNames, fileTypes⟩ ∧
        (Workspace.catalog (caseOn caseId) fileTypes).run.run
            (ofCaseCalls workspace caseId calls).workspace =
          (.ok catalog, (ofCaseCalls workspace caseId calls).workspace) ∧
        (∀ name,
          name ∈ catalog.keywordLists ↔
            ∃ hit ∈ (ofCaseCalls workspace caseId calls).ledger.hits,
              hit.list.map readBack = some name) ∧
        ∀ (hasRepository : Bool) (offer : Offer),
          (offer.StandsIn (optionsAnswer catalog hasRepository) ↔ offer.IsOf catalog) ∧
            (offer.StandsIn (optionsAnswer catalog hasRepository) →
              (offer.Accepted catalog ↔ offer.refusal? = none) ∧
                ∀ failure, offer.refusal? = some failure →
                  catalog.filters offer.arguments = .error failure) := by
  obtain ⟨tables, caseTables, idleAfter, isCase, inCase⟩ :=
    holdsCase_ofCaseCalls idle noCase calls
  have isRead :
      (Workspace.catalog (caseOn caseId) fileTypes).run.run
          (ofCaseCalls workspace caseId calls).workspace =
        (.ok ⟨caseTables.listSources, caseTables.listNames, fileTypes⟩,
          (ofCaseCalls workspace caseId calls).workspace) :=
    catalog_of_idleOn idleAfter isCase inCase.whole fileTypes
  refine ⟨tables, caseTables, _, idleAfter, isCase, rfl, isRead, inCase.mem_listNames_iff, ?_⟩
  intro hasRepository offer
  refine ⟨standsIn_iff hasRepository, ?_⟩
  intro offered
  have numbers : ∀ source ∈ caseTables.listSources, source.id ≠ .nan := by
    intro source member
    obtain ⟨stored, _, rfl⟩ := List.mem_map.mp member
    exact Number.ofInt_ne_nan stored.id
  have judged :=
    ((standsIn_iff hasRepository).mp offered).judged numbers
      (FileType.distinguished_of_listOfJson read)
  exact ⟨judged.accepted_iff, fun failure isReason => judged.refused isReason⟩

/-- A data source with the first id beyond the safe ones, and a hit of a list without a name. -/
def oddCalls : List WriterCall :=
  [.source (some (.finite 9007199254740992)) (some "disk"), .hit ⟨some (.finite 1), some ""⟩]

/-- The tables of the case after these calls. -/
def oddCase : CaseTables :=
  { sources := [⟨9007199254740992, "disk"⟩]
    files := []
    artifacts := [⟨1, .finite 1, keywordHitType⟩]
    attributes := [⟨1, keywordHitType, listNameType, some ""⟩]
    lastArtifact := 1
    lastAttribute := 1 }

/-- Both are offered and refused; a file type is offered and accepted. -/
theorem oddCalls_offered_and_refused :
    ∃ catalog,
      (Workspace.catalog (caseOn 0) FileType.bundled).run.run
            (ofCaseCalls newDatabases 0 oddCalls).workspace =
          (.ok catalog, (ofCaseCalls newDatabases 0 oddCalls).workspace) ∧
        (Offer.list "").StandsIn (optionsAnswer catalog false) ∧
        catalog.filters { keywordLists := some [""] } = .error .emptyListName ∧
        (Offer.source (.finite 9007199254740992)).StandsIn (optionsAnswer catalog false) ∧
        catalog.filters { sourceIds := some [.finite 9007199254740992] } =
          .error .sourceIdNotWhole ∧
        (Offer.type "Image").StandsIn (optionsAnswer catalog false) ∧
        (Offer.type "Image").Accepted catalog := by
  have idle : (newDatabases.handle 0).IdleOn .empty := ⟨none, false, 0, rfl⟩
  have read :
      FileType.listOfJson (.array (FileType.bundled.map FileType.toJson)) = .ok FileType.bundled :=
    rfl
  obtain ⟨tables, caseTables, catalog, idleAfter, isCase, isCatalog, isRead, lists, offers⟩ :=
    accepted_iff_not_refused idle rfl oddCalls read
  have held :
      ((ofCaseCalls newDatabases 0 oddCalls).workspace.handle 0).IdleOn
        { caseTables := some oddCase } :=
    ⟨none, true, 1, by cbv⟩
  obtain rfl := held.tables_eq idleAfter
  obtain rfl := Option.some.inj isCase
  have listOffered : (Offer.list "").StandsIn (optionsAnswer catalog false) := by
    rw [(offers false _).1]
    exact (lists "").mpr ⟨⟨some (.finite 1), some ""⟩, by decide +kernel, rfl⟩
  have sourceOffered :
      (Offer.source (.finite 9007199254740992)).StandsIn (optionsAnswer catalog false) := by
    rw [(offers false _).1, isCatalog]
    exact ⟨_, List.mem_cons_self, rfl⟩
  have typeOffered : (Offer.type "Image").StandsIn (optionsAnswer catalog false) := by
    rw [(offers false _).1, isCatalog]
    exact ⟨_, List.mem_cons_self, rfl⟩
  exact
    ⟨catalog, isRead, listOffered, ((offers false _).2 listOffered).2 _ rfl, sourceOffered,
      ((offers false _).2 sourceOffered).2 _ rfl, typeOffered,
      ((offers false _).2 typeOffered).1.mpr rfl⟩

end Offer
end EvidenceSearch
