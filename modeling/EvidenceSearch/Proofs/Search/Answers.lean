import EvidenceSearch.Proofs.Search.Criteria
import EvidenceSearch.Proofs.Storage.Recording
import EvidenceSearch.Tools.Response

/-!
# What a search answers

Two stores are prepared, their writers are called, and the files are searched with arguments that
were read from a JSON object. The search finds exactly the files that were added and meet the
criteria, and shows the first of them. It needs texts without null characters, filters within the
limits of the case store, and well-formed hashes where frequencies are asked for.
-/

namespace EvidenceSearch

open Handle Recording

/-! ## What is expected of an answer -/

/-- The record shows what was added: the id as the nearest number, and texts without the byte order
mark that they may start with. -/
structure AddedFile.ShownAs (added : AddedFile) (record : FileRecord) : Prop where
  id : record.id = .ofInt added.id
  name : added.file.name.map readBack = some record.name
  parentPath : added.file.parentPath.map readBack = some record.parentPath
  size : added.file.size = some record.size
  sourceId : added.file.sourceId = some record.sourceId
  mediaType : record.mediaType = added.file.mediaType.map readBack
  hash : record.hash = added.file.hash.map readBack

/-- How often the hash of the file was seen; without a hash that is unknown. -/
def Ledger.frequency (ledger : Ledger) (thresholds : Thresholds) (added : AddedFile) : Frequency :=
  added.row.record.frequency thresholds ledger.count

/-- How many files may be shown: a hundred if there is no limit, and otherwise the whole part of
the limit, but at least one and at most a thousand. -/
def SearchArguments.ShowsUpTo (arguments : SearchArguments) (count : Nat) : Prop :=
  arguments.limit = none ∧ count = 100 ∨
    ∃ limit, arguments.limit = some (.finite limit) ∧ (count : Int) = ⌊max 1 (min limit 1000)⌋

/-- All files that were added and meet the criteria are counted; the first of them are shown, in
the order of their ids, with the frequency that was looked up for them. -/
def FoundFiles.Answer
    (found : FoundFiles) (arguments : SearchArguments) (fileTypes : List FileType)
    (thresholds : Thresholds) (ledger : Ledger) :
    Prop :=
  ∃ wanted : List AddedFile, ∃ count,
    wanted.Sublist ledger.files ∧
      (wanted.Pairwise fun earlier later => earlier.id < later.id) ∧
      (∀ added ∈ ledger.files,
        added ∈ wanted ↔
          arguments.MetBy fileTypes ledger added ∧
            arguments.AllowsFrequency (ledger.frequency thresholds added)) ∧
      found.total = wanted.length ∧
      arguments.ShowsUpTo count ∧
      List.Forall₂
        (fun added result =>
          added.ShownAs result.file ∧
            result.frequency =
              if arguments.frequencies.getD [] = [] then .unknown
              else ledger.frequency thresholds added)
        (wanted.take count) found.shown

/-- What a search needs of the filters that its arguments mean, of the files that were added, and
of its options. -/
structure Searchable
    (filters : List Filter) (arguments : SearchArguments) (fileTypes : List FileType)
    (options : SearchOptions) (ledger : Ledger) :
    Prop where
  asking : ∃ filter ∈ filters, filter.isFrequency = false
  nullFree : ∀ filter ∈ filters, filter.NullFree
  limited : Filter.WithinLimits filters
  plain :
    ∀ added ∈ ledger.files, ∀ path, added.file.parentPath = some path → '\x00' ∉ path.toList
  isNumber : arguments.frequencies.getD [] ≠ [] → options.concurrency ≠ .nan
  wellFormed :
    arguments.frequencies.getD [] ≠ [] →
      ∀ added ∈ ledger.files, arguments.MetBy fileTypes ledger added →
        ∀ text, added.file.hash.map readBack = some text → text ≠ "" →
          ∃ hash, normalizeHash text = .ok hash

/-! ## Limits -/

/-- A limit that was read from a JSON object is finite. -/
theorem isFinite_of_ofJson
    {json : Option Json} {arguments : SearchArguments}
    (parsed : SearchArguments.ofJson json = .ok arguments) :
    ∀ limit ∈ arguments.limit, limit.isFinite := by
  intro limit member
  have isLimit := (SearchArguments.readFrom_of_ofJson parsed).limit
  rw [Option.mem_def.mp member] at isLimit
  rw [numberArgument] at isLimit
  split at isLimit
  · cases isLimit
  · rename_i value _
    obtain ⟨number, required, isSome⟩ := bind_eq_ok isLimit
    obtain rfl := Option.some.inj (Except.ok.inj isSome)
    exact (Option.filter_eq_some_iff.mp (requireShape_eq_ok required)).2

theorem showsUpTo_shownUnder
    {arguments : SearchArguments} (finite : ∀ limit ∈ arguments.limit, limit.isFinite) :
    arguments.ShowsUpTo (shownUnder arguments.limit) := by
  rw [SearchArguments.ShowsUpTo]
  cases isLimit : arguments.limit with
  | none =>
      exact Or.inl ⟨rfl, rfl⟩
  | some limit =>
      have isFinite := finite limit isLimit
      cases limit with
      | nan =>
          cases isFinite
      | infinite negative =>
          cases isFinite
      | finite limit =>
          refine Or.inr ⟨limit, rfl, ?_⟩
          have floors : ⌊max 1 (min limit 1000)⌋ = max 1 (min ⌊limit⌋ 1000) := by
            rw [Int.floor_mono.map_max, Int.floor_mono.map_min]
            simp
          have sameFloor : limit.floor = ⌊limit⌋ := rfl
          rw [shownUnder, sameFloor, floors, largestLimit]
          omega

/-! ## What the stores answer -/

section Stores

variable {caseId repositoryId : HandleId} {workspace : Workspace} {tables : Tables}

theorem find_of_idleOn
    {handle : Handle} {caseTables : CaseTables} {clause : String} {condition : Sql.Condition}
    {files : List StoredFile} (idle : handle.IdleOn tables)
    (isCase : tables.caseTables = some caseTables) (whole : caseTables.gaps = [])
    (isRead : Sql.Condition.ofClause clause.toList = .ok condition)
    (selected : caseTables.select condition = .ok files) :
    (CaseStore.find clause).run.run handle = (.ok (files.map StoredFile.record), handle) := by
  have notClosed : handle.connection ≠ .closed := by
    obtain ⟨path, dirty, lastKey, rfl⟩ := idle
    exact nofun
  rw [CaseStore.find, run_get_bind, if_neg notClosed, isRead]
  apply idle.query
  rw [requireCase_of_some isCase whole]
  simp only [ok_bind, selected]
  rfl

theorem askCase_of_idleOn
    {caseTables : CaseTables} {clause : String} {condition : Sql.Condition}
    {files : List StoredFile} (idle : (workspace.handle caseId).IdleOn tables)
    (isCase : tables.caseTables = some caseTables) (whole : caseTables.gaps = [])
    (isRead : Sql.Condition.ofClause clause.toList = .ok condition)
    (selected : caseTables.select condition = .ok files) :
    workspace.askCase (storesOn caseId repositoryId) clause =
      .ok (files.map StoredFile.record) := by
  have found := find_of_idleOn idle isCase whole isRead selected
  change Workspace.describeError (workspace.readHandle caseId (CaseStore.find clause)) = _
  rw [Workspace.readHandle, found]
  rfl

theorem typeById_of_idleOn
    {handle : Handle} {repositoryTables : RepositoryTables} (idle : handle.IdleOn tables)
    (isRepository : tables.repositoryTables = some repositoryTables)
    (whole : repositoryTables.gaps = [])
    (isKnown : repositoryTables.types = [CorrelationType.files]) :
    (RepositoryStore.typeById CorrelationType.filesId).run.run handle =
      (.ok CorrelationType.files.restored, handle) := by
  have isType :
      repositoryTables.type? CorrelationType.filesId = some CorrelationType.files.restored := by
    rw [RepositoryTables.type?, isKnown]
    decide
  apply idle.query
  rw [requireRepository_of_some isRepository whole]
  simp only [ok_bind, isType]
  rfl

theorem askRepository_count (stores : StoreHandles) (type : CorrelationType) (text : String) :
    (workspace.askRepository stores).count type text =
      (Workspace.describeError (workspace.countOccurrences stores type text)).map Number.ofNat :=
  rfl

theorem countOccurrences_storesOn (text : String) :
    workspace.countOccurrences (storesOn caseId repositoryId) CorrelationType.files.restored
        text =
      workspace.readHandle repositoryId (RepositoryStore.count text) := by
  have isSupported : RepositoryStore.checkType CorrelationType.files.restored = .ok () := by
    decide
  exact Workspace.countOccurrences_of_supported isSupported rfl

/-- The repository answers for all files whose hashes are well-formed. -/
theorem askRepository_answers
    {repositoryTables : RepositoryTables} {ledger : Ledger} {files : List FileRecord}
    (idle : (workspace.handle repositoryId).IdleOn tables)
    (isRepository : tables.repositoryTables = some repositoryTables)
    (inRepository : ledger.InRepository repositoryTables)
    (wellFormed :
      ∀ file ∈ files, ∀ text, file.hash? = some text → ∃ hash, normalizeHash text = .ok hash) :
    (workspace.askRepository (storesOn caseId repositoryId)).Answers ledger.count files := by
  refine ⟨CorrelationType.files.restored, ?_, ?_⟩
  · have isType := typeById_of_idleOn idle isRepository inRepository.whole inRepository.types
    change Workspace.describeError
      (workspace.readHandle repositoryId (RepositoryStore.typeById CorrelationType.filesId)) = _
    rw [Workspace.readHandle, isType]
    rfl
  · intro file member text isHash
    obtain ⟨hash, normal⟩ := wellFormed file member text isHash
    have counted :
        workspace.countOccurrences (storesOn caseId repositoryId) CorrelationType.files.restored
            text =
          .ok (ledger.places hash).card := by
      rw [countOccurrences_storesOn, Workspace.readHandle,
        count_of_idleOn idle isRepository inRepository.whole normal, inRepository.length_places]
    rw [askRepository_count, counted, ledger.count_of_ok normal]
    rfl

/-- Reading from the case changes nothing in the workspace. -/
theorem onCase_of_read
    {Value : Type} {step : HandleM Value} {outcome : Except StorageError Value}
    {repository? : Option HandleId}
    (stepped : step.run.run (workspace.handle caseId) = (outcome, workspace.handle caseId)) :
    (Workspace.onCase ⟨some caseId, repository?⟩ step).run.run workspace =
      (outcome.mapError .storage, workspace) := by
  rw [onCase_eq_onHandle, Workspace.onHandle_of_read stepped]

theorem keywordLists_of_idleOn
    {handle : Handle} {caseTables : CaseTables} (idle : handle.IdleOn tables)
    (isCase : tables.caseTables = some caseTables) (whole : caseTables.gaps = []) :
    CaseStore.keywordLists.run.run handle = (.ok caseTables.listNames, handle) := by
  apply idle.query
  rw [requireCase_of_some isCase whole]
  rfl

/-- What the case can be searched for can be read, with a repository or without one. -/
theorem catalog_of_idleOn
    {caseTables : CaseTables} {repository? : Option HandleId}
    (idle : (workspace.handle caseId).IdleOn tables)
    (isCase : tables.caseTables = some caseTables) (whole : caseTables.gaps = [])
    (fileTypes : List FileType) :
    (Workspace.catalog ⟨some caseId, repository?⟩ fileTypes).run.run workspace =
      (.ok ⟨caseTables.listSources, caseTables.listNames, fileTypes⟩, workspace) := by
  have sourcesRead :
      CaseStore.sources.run.run (workspace.handle caseId) =
        (.ok caseTables.listSources, workspace.handle caseId) := by
    apply idle.query
    rw [requireCase_of_some isCase whole]
    rfl
  rw [Workspace.catalog, run_bind_of_ok (onCase_of_read sourcesRead),
    run_bind_of_ok (onCase_of_read (keywordLists_of_idleOn idle isCase whole))]
  rfl

end Stores

/-! ## Searching what was added -/

theorem AddedFile.shownAs_record {added : AddedFile} (complete : added.file.Complete) :
    added.ShownAs added.row.record := by
  obtain ⟨name, parentPath, size, sourceId⟩ := AddedFile.given_of_complete complete
  refine ⟨rfl, ?_, ?_, size, sourceId, rfl, rfl⟩
  · rw [name]
    rfl
  · rw [parentPath]
    rfl

theorem hash?_record_eq_some_iff {added : AddedFile} {text : String} :
    added.row.record.hash? = some text ↔
      added.file.hash.map readBack = some text ∧ text ≠ "" := by
  rw [FileRecord.hash?, Option.filter_eq_some_iff]
  simp [AddedFile.row, StoredFile.record]

section Classical

open scoped Classical in
/-- The files of the ledger that meet all criteria but those about frequency. -/
noncomputable def SearchArguments.met
    (arguments : SearchArguments) (fileTypes : List FileType) (ledger : Ledger) :
    List AddedFile :=
  ledger.files.filter fun added => arguments.MetBy fileTypes ledger added

open scoped Classical in
/-- The files of the ledger that meet all criteria. -/
noncomputable def SearchArguments.wanted
    (arguments : SearchArguments) (fileTypes : List FileType) (thresholds : Thresholds)
    (ledger : Ledger) :
    List AddedFile :=
  (arguments.met fileTypes ledger).filter fun added =>
    arguments.AllowsFrequency (ledger.frequency thresholds added)

end Classical

section Searching

variable {recording : Recording} {caseId repositoryId : HandleId} {catalog : Catalog}
variable {arguments : SearchArguments} {filters : List Filter} {options : SearchOptions}

theorem SearchArguments.mem_met_iff
    {fileTypes : List FileType} {ledger : Ledger} {added : AddedFile} :
    added ∈ arguments.met fileTypes ledger ↔
      added ∈ ledger.files ∧ arguments.MetBy fileTypes ledger added := by
  simp only [SearchArguments.met, List.mem_filter, decide_eq_true_eq]

theorem SearchArguments.mem_wanted_iff
    {fileTypes : List FileType} {thresholds : Thresholds} {ledger : Ledger} {added : AddedFile}
    (member : added ∈ ledger.files) :
    added ∈ arguments.wanted fileTypes thresholds ledger ↔
      arguments.MetBy fileTypes ledger added ∧
        arguments.AllowsFrequency (ledger.frequency thresholds added) := by
  simp only [SearchArguments.wanted, List.mem_filter, SearchArguments.mem_met_iff, member,
    true_and, decide_eq_true_eq]

theorem SearchArguments.wanted_sublist
    (fileTypes : List FileType) (thresholds : Thresholds) (ledger : Ledger) :
    (arguments.wanted fileTypes thresholds ledger).Sublist ledger.files :=
  List.filter_sublist.trans List.filter_sublist

/-- The case selects the rows of the files that meet the criteria. -/
theorem select_met
    {ledger : Ledger} {caseTables : CaseTables} {condition : Sql.Condition}
    (made : catalog.filters arguments = .ok filters)
    (searchable : Searchable filters arguments catalog.fileTypes options ledger)
    (inCase : ledger.InCase caseTables)
    (asks : Filter.conjunction? filters = some condition) :
    caseTables.select condition =
      .ok ((arguments.met catalog.fileTypes ledger).map AddedFile.row) := by
  classical
  have plain : ∀ file ∈ caseTables.files, '\x00' ∉ file.parentPath.toList := by
    rw [inCase.files]
    intro file member
    obtain ⟨added, isAdded, rfl⟩ := List.mem_map.mp member
    have isPath := (AddedFile.given_of_complete (inCase.complete added isAdded)).2.1
    exact searchable.plain added isAdded _ isPath
  rw [Filter.select_eq_ok caseTables asks plain searchable.limited, inCase.files,
    List.filter_map]
  congr 2
  refine List.filter_congr fun added member => ?_
  rw [Function.comp_apply, decide_eq_decide]
  exact Catalog.admit_iff made inCase member

theorem askCase_met
    {clause : String} (faithful : recording.Faithful caseId repositoryId)
    (made : catalog.filters arguments = .ok filters)
    (searchable : Searchable filters arguments catalog.fileTypes options recording.ledger)
    (written : Filter.combinedClause filters = .ok clause) :
    recording.workspace.askCase (storesOn caseId repositoryId) clause =
      .ok
        ((arguments.met catalog.fileTypes recording.ledger).map fun added =>
          added.row.record) := by
  obtain ⟨tables, caseTables, idle, isCase, inCase⟩ := faithful.ofCase
  obtain ⟨condition, asks⟩ := Filter.exists_conjunction? searchable.asking
  rw [Filter.combinedClause_eq_ok searchable.asking] at written
  obtain rfl := Except.ok.inj written
  have isRead :
      Sql.Condition.ofClause
          (String.ofList (Sql.Token.write (Filter.combinedTokens filters))).toList =
        .ok condition := by
    rw [String.toList_ofList]
    exact
      Filter.ofClause_combinedTokens searchable.nullFree asks
        (searchable.limited.1 condition asks)
  have selected := select_met made searchable inCase asks
  rw [askCase_of_idleOn idle isCase inCase.whole isRead selected, List.map_map]
  rfl

/-- The repository counts the hashes of the files that meet the criteria. -/
theorem askRepository_met
    (faithful : recording.Faithful caseId repositoryId)
    (made : catalog.filters arguments = .ok filters)
    (searchable : Searchable filters arguments catalog.fileTypes options recording.ledger)
    (needed : Filter.needRepository filters = true) :
    (recording.workspace.askRepository (storesOn caseId repositoryId)).Answers
      recording.ledger.count
      ((arguments.met catalog.fileTypes recording.ledger).map fun added => added.row.record) := by
  obtain ⟨tables, repositoryTables, idle, isRepository, inRepository⟩ := faithful.ofRepository
  apply askRepository_answers idle isRepository inRepository
  intro file member text isHash
  obtain ⟨added, isMet, rfl⟩ := List.mem_map.mp member
  obtain ⟨isAdded, meets⟩ := SearchArguments.mem_met_iff.mp isMet
  obtain ⟨isText, filled⟩ := hash?_record_eq_some_iff.mp isHash
  exact
    searchable.wellFormed ((Catalog.needRepository_iff made).mp needed) added isAdded meets text
      isText filled

theorem wantedFiles_met
    (made : catalog.filters arguments = .ok filters) (thresholds : Thresholds) (ledger : Ledger) :
    Search.wantedFiles filters (FileRecord.frequency thresholds ledger.count)
        ((arguments.met catalog.fileTypes ledger).map fun added => added.row.record) =
      (arguments.wanted catalog.fileTypes thresholds ledger).map fun added =>
        added.row.record := by
  rw [Search.wantedFiles, List.filter_map, SearchArguments.wanted]
  congr 1
  refine List.filter_congr fun added _ => ?_
  rw [Bool.eq_iff_iff]
  simp only [decide_eq_true_eq]
  exact Catalog.want_iff made _

/-- A file as a search shows it. -/
def Ledger.shown
    (ledger : Ledger) (arguments : SearchArguments) (thresholds : Thresholds)
    (added : AddedFile) :
    ResultFile :=
  ⟨added.row.record,
    if arguments.frequencies.getD [] = [] then .unknown else ledger.frequency thresholds added⟩

theorem withFrequency_eq_shown
    (made : catalog.filters arguments = .ok filters) (thresholds : Thresholds) (ledger : Ledger)
    (added : AddedFile) :
    ResultFile.withFrequency
        (Search.frequencyAfter filters (fun _ => .unknown)
          (FileRecord.frequency thresholds ledger.count))
        added.row.record =
      ledger.shown arguments thresholds added := by
  rw [ResultFile.withFrequency, Search.frequencyAfter, Ledger.shown]
  by_cases asked : arguments.frequencies.getD [] = []
  · have notNeeded : Filter.needRepository filters ≠ true := fun needed =>
      (Catalog.needRepository_iff made).mp needed asked
    rw [if_neg notNeeded, if_pos asked]
  · have needed := (Catalog.needRepository_iff made).mpr asked
    rw [if_pos needed, if_neg asked]
    rfl

/-- A search of stores that hold what the ledger says finds the files of the ledger that meet the
criteria. -/
theorem searchFiles_of_faithful
    {json : Option Json} (faithful : recording.Faithful caseId repositoryId)
    (parsed : SearchArguments.ofJson json = .ok arguments)
    (made : catalog.filters arguments = .ok filters)
    (searchable : Searchable filters arguments catalog.fileTypes options recording.ledger)
    (before : Trace) :
    ∃ found after,
      (searchFiles (recording.workspace.searchStores (storesOn caseId repositoryId) true) options
          catalog arguments).run.run before =
        (.ok found, after) ∧
      found.Answer arguments catalog.fileTypes options.thresholds recording.ledger := by
  have answers :
      Filter.needRepository filters = true →
        ∃ repository,
          (recording.workspace.searchStores (storesOn caseId repositoryId) true).repository =
              some repository ∧
            repository.Answers recording.ledger.count
              ((arguments.met catalog.fileTypes recording.ledger).map fun added =>
                added.row.record) :=
    fun needed => ⟨_, rfl, askRepository_met faithful made searchable needed⟩
  have isNumber : Filter.needRepository filters = true → options.concurrency ≠ .nan :=
    fun needed => searchable.isNumber ((Catalog.needRepository_iff made).mp needed)
  obtain ⟨after, ran⟩ :=
    Search.run_yields searchable.asking rfl
      (fun clause written => askCase_met faithful made searchable written) answers isNumber before
  rw [wantedFiles_met made, List.map_map] at ran
  have shows :
      (ResultFile.withFrequency
            (Search.frequencyAfter filters (fun _ => .unknown)
              (FileRecord.frequency options.thresholds recording.ledger.count)) ∘
          fun added : AddedFile => added.row.record) =
        recording.ledger.shown arguments options.thresholds :=
    funext (withFrequency_eq_shown made options.thresholds recording.ledger)
  rw [shows] at ran
  let results :=
    (arguments.wanted catalog.fileTypes options.thresholds recording.ledger).map
      (recording.ledger.shown arguments options.thresholds)
  refine
    ⟨⟨filters.map Filter.describe, results.length, results.take (shownUnder arguments.limit)⟩,
      after, ?_, ?_⟩
  · rw [searchFiles, made]
    exact run_bind_of_ok ran
  · obtain ⟨_, caseTables, _, _, inCase⟩ := faithful.ofCase
    have sublist :=
      arguments.wanted_sublist catalog.fileTypes options.thresholds recording.ledger
    refine ⟨_, shownUnder arguments.limit, sublist, inCase.rising.sublist sublist,
      fun added member => SearchArguments.mem_wanted_iff member, List.length_map _,
      showsUpTo_shownUnder (isFinite_of_ofJson parsed), ?_⟩
    rw [← List.map_take, List.forall₂_map_right_iff, List.forall₂_same]
    intro added member
    have isAdded := sublist.subset (List.mem_of_mem_take member)
    exact ⟨AddedFile.shownAs_record (inCase.complete added isAdded), rfl⟩

end Searching

/-! ## Searching after any calls -/

/-- What is recorded of calls on two stores that were prepared for them. -/
def Recording.ofCalls
    (workspace : Workspace) (caseId repositoryId : HandleId) (calls : List WriterCall) :
    Recording :=
  (start workspace caseId repositoryId).run (storesOn caseId repositoryId) calls

/-- Two new databases in memory. -/
def newDatabases : Workspace :=
  { handles := [.inMemory, .inMemory] }

/-- A small file whose hash is written in upper case. -/
def hashedFile : NewFile :=
  ⟨some "a", some "/", some (.finite 5), some (.finite 1), none,
    some "D41D8CD98F00B204E9800998ECF8427E"⟩

/-- The hit comes before its file, the second file has no name, and the hash of the first is seen
in one place. -/
def mixedCalls : List WriterCall :=
  [.hit ⟨some (.finite 1), some "words"⟩, .file hashedFile,
    .file { hashedFile with name := none },
    .occurrence ⟨some (.finite 1), some (.finite 1), "d41d8cd98f00b204e9800998ecf8427e", some "/a"⟩]

/-- Small files with a hit of the list that were seen in few places. -/
def rareWords : SearchArguments :=
  { sizeRanges := some [⟨.finite 0, some (.finite 10)⟩]
    keywordLists := some ["words"]
    frequencies := some ["RARE"] }

/-- The filters for them. -/
def rareWordsFilters : List Filter :=
  [.size ⟨⟨0, some 10, by decide⟩, []⟩, .keywordList ⟨⟨"words", by decide⟩, []⟩,
    .frequency ⟨.rare, []⟩]

/-- What these calls added. -/
def mixedLedger : Ledger :=
  { files := [⟨1, hashedFile⟩]
    hits := [⟨some (.finite 1), some "words"⟩]
    occurrences :=
      [⟨some (.finite 1), some (.finite 1), "d41d8cd98f00b204e9800998ecf8427e", some "/a"⟩] }

theorem ledger_mixedCalls : (ofCalls newDatabases 0 1 mixedCalls).ledger = mixedLedger := by
  decide +kernel

theorem rareWords_searchable :
    Searchable rareWordsFilters rareWords [] .standard mixedLedger := by
  refine ⟨⟨_, List.mem_cons_self, rfl⟩, ?_, ⟨?_, by decide⟩, ?_, nofun, ?_⟩
  · simp only [Filter.NullFree]
    decide
  · rintro condition ⟨rfl⟩
    decide
  · rw [mixedLedger, List.forall_mem_singleton]
    rintro path ⟨rfl⟩
    decide
  · rw [mixedLedger, List.forall_mem_singleton]
    rintro _ _ text ⟨rfl⟩ _
    exact ⟨"d41d8cd98f00b204e9800998ecf8427e", by decide +kernel⟩

theorem hashedFile_metBy : rareWords.MetBy [] mixedLedger ⟨1, hashedFile⟩ := by
  refine ⟨⟨.finite 5, rfl, ?_⟩, Or.inl rfl, Or.inl rfl, ?_, Or.inl rfl⟩
  · exact Or.inr (Or.inr ⟨_, List.mem_cons_self, by decide, by decide⟩)
  · exact Or.inr ⟨"words", List.mem_cons_self, List.mem_cons_self⟩

/-- A search in a case to which one file was added, by arguments read from a JSON object. -/
def searchOne (file : NewFile) (arguments : SearchArguments) :
    Except WorkspaceError (Except Failure FoundFiles) :=
  let action : WorkspaceM (Except Failure FoundFiles) := do
    let catalog ← Workspace.catalog (storesOn 0 1) []
    let workspace ← get
    match SearchArguments.ofJson (some arguments.toJson) with
    | .error failure => return .error failure
    | .ok arguments =>
        Workspace.search
          (searchFiles (workspace.searchStores (storesOn 0 1) true) .standard catalog arguments)
  (action.run.run (ofCalls newDatabases 0 1 [.file file]).workspace).1

end EvidenceSearch
