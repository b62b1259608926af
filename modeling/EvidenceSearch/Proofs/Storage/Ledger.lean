import EvidenceSearch.Proofs.Storage.Handles
import EvidenceSearch.Proofs.Filter.Meaning
import EvidenceSearch.Storage.Workspace

/-!
# What the writers of the stores add

A ledger keeps what the writers reported as added: files with the ids that they were given, hits of
keyword lists, and occurrences of hashes. Whatever calls are made, in whatever order and whether
they succeed or fail, the tables of the two stores hold what the ledger says and nothing else.
-/

namespace EvidenceSearch

/-! ## Ledgers -/

/-- A file that was added, with the id that it was given. -/
structure AddedFile where
  id : Int
  file : NewFile
  deriving DecidableEq

/-- A hit of a keyword list that is to be added. -/
structure NewHit where
  fileId : Option Number
  list : Option String
  deriving DecidableEq

/-- An occurrence of a hash that is to be added. -/
structure NewOccurrence where
  caseId : Option Number
  sourceId : Option Number
  hash : String
  path : Option String
  deriving DecidableEq

/-- What the writers of the stores reported as added. -/
structure Ledger where
  files : List AddedFile := []
  hits : List NewHit := []
  occurrences : List NewOccurrence := []
  deriving DecidableEq

/-- Everything that a file needs in its table is there. -/
structure NewFile.Complete (file : NewFile) : Prop where
  name : file.name.isSome
  parentPath : file.parentPath.isSome
  size : (storedNumber? file.size).isSome
  sourceId : (storedNumber? file.sourceId).isSome

/-- The row of a file that was added. -/
def AddedFile.row (added : AddedFile) : StoredFile :=
  { id := added.id
    name := added.file.name.getD ""
    parentPath := added.file.parentPath.getD ""
    size := added.file.size.getD .nan
    sourceId := added.file.sourceId.getD .nan
    mediaType := added.file.mediaType
    hash := added.file.hash }

/-- The artifact of the hit of some number. -/
def NewHit.artifact (hit : NewHit) (number : Nat) : StoredArtifact :=
  ⟨number, hit.fileId.getD .nan, keywordHitType⟩

/-- The attribute of the hit of some number. -/
def NewHit.attribute (hit : NewHit) (number : Nat) : StoredAttribute :=
  ⟨number, keywordHitType, listNameType, hit.list⟩

/-- The occurrence that is kept, if the hash is one and nothing is missing. -/
def NewOccurrence.kept? (occurrence : NewOccurrence) : Option Occurrence :=
  match normalizeHash occurrence.hash, storedNumber? occurrence.caseId,
    storedNumber? occurrence.sourceId, occurrence.path with
  | .ok hash, some caseId, some sourceId, some path => some ⟨caseId, sourceId, hash, path⟩
  | _, _, _, _ => none

namespace Ledger

/-- The occurrences that are kept. -/
def seen (ledger : Ledger) : List Occurrence :=
  ledger.occurrences.filterMap NewOccurrence.kept?

/-- The pairs of a case and a data source in which a hash was seen. -/
def places (ledger : Ledger) (hash : String) : Finset (Number × Number) :=
  ((ledger.seen.filter fun occurrence => occurrence.hash = hash).map fun occurrence =>
    (occurrence.caseId, occurrence.sourceId)).toFinset

/-- In how many pairs of a case and a data source the hash was seen that a text writes. A text that
is no hash was seen nowhere. -/
def count (ledger : Ledger) (text : String) : Number :=
  match normalizeHash text with
  | .ok hash => .ofNat (ledger.places hash).card
  | .error _ => .ofNat 0

theorem count_of_ok
    {text hash : String} (ledger : Ledger) (normal : normalizeHash text = .ok hash) :
    ledger.count text = .ofNat (ledger.places hash).card := by
  unfold count
  rw [normal]

/-- The tables of a case hold the files and the hits. Files have rising ids, and the hits are
numbered from one on, each with one artifact and one attribute. None of the tables is missing, and
no column. -/
structure InCase (ledger : Ledger) (tables : CaseTables) : Prop where
  complete : ∀ added ∈ ledger.files, added.file.Complete
  files : tables.files = ledger.files.map AddedFile.row
  rising : ledger.files.Pairwise fun earlier later => earlier.id < later.id
  lastFile : ∀ added ∈ ledger.files, added.id ≤ tables.lastFile
  artifacts : tables.artifacts = (ledger.hits.zipIdx 1).map fun (hit, number) => hit.artifact number
  attributes :
    tables.attributes = (ledger.hits.zipIdx 1).map fun (hit, number) => hit.attribute number
  lastArtifact : tables.lastArtifact = ledger.hits.length
  whole : tables.gaps = []

/-- The tables of a repository hold the occurrences, and the type for files is known. Neither a
table is missing nor a column. -/
structure InRepository (ledger : Ledger) (tables : RepositoryTables) : Prop where
  types : tables.types = [CorrelationType.files]
  occurrences : ∀ occurrence, occurrence ∈ tables.occurrences ↔ occurrence ∈ ledger.seen
  whole : tables.gaps = []

/-- Add a file with its id. -/
def addFile (file : NewFile) (ledger : Ledger) (id : Int) : Ledger :=
  { ledger with files := ledger.files ++ [⟨id, file⟩] }

/-- Add a hit. -/
def addHit (hit : NewHit) (ledger : Ledger) (_ : Unit) : Ledger :=
  { ledger with hits := ledger.hits ++ [hit] }

/-- Add an occurrence. -/
def addOccurrence (occurrence : NewOccurrence) (ledger : Ledger) (_ : Unit) : Ledger :=
  { ledger with occurrences := ledger.occurrences ++ [occurrence] }

/-- Enter what a call added. A call that failed added nothing. -/
def enter {Error Value : Type} (add : Ledger → Value → Ledger) (ledger : Ledger) :
    Except Error Value → Ledger
  | .ok value => add ledger value
  | .error _ => ledger

/-- What no call of its kind adds to stays the same when the call is entered. -/
theorem field_enter
    {Error Value Field : Type} {add : Ledger → Value → Ledger} {field : Ledger → Field}
    (same : ∀ ledger value, field (add ledger value) = field ledger)
    (ledger : Ledger) (outcome : Except Error Value) :
    field (ledger.enter add outcome) = field ledger := by
  cases outcome with
  | error error =>
      rfl
  | ok value =>
      exact same ledger value

theorem inCase_empty : InCase {} CaseTables.empty :=
  have noFile (added : AddedFile) : added ∉ (Ledger.files {}) := List.not_mem_nil
  ⟨fun added member => absurd member (noFile added), rfl, .nil,
    fun added member => absurd member (noFile added), rfl, rfl, rfl, rfl⟩

theorem inRepository_empty : InRepository {} RepositoryTables.empty :=
  ⟨rfl, fun _ => Iff.rfl, rfl⟩

variable {ledger : Ledger} {tables : CaseTables}

/-- Occurrences do not matter to the tables of a case. -/
theorem InCase.of_same
    {other : Ledger} (inCase : ledger.InCase tables) (sameFiles : other.files = ledger.files)
    (sameHits : other.hits = ledger.hits) :
    other.InCase tables := by
  obtain ⟨files, hits, occurrences⟩ := other
  subst sameFiles sameHits
  exact
    ⟨inCase.complete, inCase.files, inCase.rising, inCase.lastFile, inCase.artifacts,
      inCase.attributes, inCase.lastArtifact, inCase.whole⟩

/-- Nothing but the occurrences matters to the tables of a repository. -/
theorem InRepository.of_same
    {other : Ledger} {tables : RepositoryTables} (inRepository : ledger.InRepository tables)
    (same : other.occurrences = ledger.occurrences) :
    other.InRepository tables := by
  refine ⟨inRepository.types, ?_, inRepository.whole⟩
  rw [seen, same]
  exact inRepository.occurrences

theorem InCase.addFile
    {file : NewFile} (inCase : ledger.InCase tables) (complete : file.Complete) :
    (Ledger.addFile file ledger (tables.lastFile + 1)).InCase
      { tables with
        files := tables.files ++ [AddedFile.row ⟨tables.lastFile + 1, file⟩]
        lastFile := tables.lastFile + 1 } := by
  have below : ∀ added ∈ ledger.files, added.id < tables.lastFile + 1 :=
    fun added member => Int.lt_add_one_of_le (inCase.lastFile added member)
  refine
    ⟨?_, ?_, ?_, ?_, inCase.artifacts, inCase.attributes, inCase.lastArtifact, inCase.whole⟩
  · intro added member
    rcases List.mem_append.mp member with earlier | last
    · exact inCase.complete added earlier
    · rw [List.mem_singleton.mp last]
      exact complete
  · rw [Ledger.addFile, List.map_append, ← inCase.files]
    rfl
  · rw [Ledger.addFile, List.pairwise_append]
    refine ⟨inCase.rising, List.pairwise_singleton _ _, ?_⟩
    intro earlier member later last
    rw [List.mem_singleton.mp last]
    exact below earlier member
  · intro added member
    rcases List.mem_append.mp member with earlier | last
    · exact Int.le_of_lt (below added earlier)
    · exact (congrArg AddedFile.id (List.mem_singleton.mp last)).le

theorem InCase.addHit
    {hit : NewHit} (inCase : ledger.InCase tables) (lastAttribute : Int) :
    (Ledger.addHit hit ledger ()).InCase
      { tables with
        artifacts :=
          tables.artifacts ++ [⟨tables.lastArtifact + 1, hit.fileId.getD .nan, keywordHitType⟩]
        attributes :=
          tables.attributes ++ [⟨tables.lastArtifact + 1, keywordHitType, listNameType, hit.list⟩]
        lastArtifact := tables.lastArtifact + 1
        lastAttribute } := by
  have number : tables.lastArtifact + 1 = ((1 + ledger.hits.length : Nat) : Int) := by
    rw [inCase.lastArtifact]
    omega
  refine ⟨inCase.complete, inCase.files, inCase.rising, inCase.lastFile, ?_, ?_, ?_, inCase.whole⟩
  · rw [Ledger.addHit, List.zipIdx_append, List.map_append, ← inCase.artifacts, number]
    rfl
  · rw [Ledger.addHit, List.zipIdx_append, List.map_append, ← inCase.attributes, number]
    rfl
  · rw [Ledger.addHit, List.length_append, number, List.length_singleton, Nat.add_comm]

/-- A hit is in the tables exactly if it was added: its artifact and its attribute have the same
number, and no other hit has that number. -/
theorem InCase.hasHit_iff
    (inCase : ledger.InCase tables) (added : AddedFile) (list : String) :
    tables.HasHit added.row list ↔ ⟨some (.finite added.id), some list⟩ ∈ ledger.hits := by
  have isFileId (hit : NewHit) :
      hit.fileId.getD .nan = .finite added.id ↔ hit.fileId = some (.finite added.id) := by
    cases hit.fileId <;> simp
  rw [CaseTables.HasHit, inCase.artifacts, inCase.attributes]
  constructor
  · rintro ⟨artifact, isArtifact, row, isRow, sameFile, sameNumber, _, _, names⟩
    obtain ⟨⟨hit, number⟩, isHit, rfl⟩ := List.mem_map.mp isArtifact
    obtain ⟨⟨other, otherNumber⟩, isOther, rfl⟩ := List.mem_map.mp isRow
    obtain rfl : otherNumber = number := Int.ofNat_inj.mp sameNumber
    have hitAt := (List.mem_zipIdx_iff_le_and_getElem?_sub.mp isHit).2
    have otherAt := (List.mem_zipIdx_iff_le_and_getElem?_sub.mp isOther).2
    obtain rfl : hit = other := Option.some.inj (hitAt.symm.trans otherAt)
    obtain ⟨fileId, name⟩ := hit
    obtain rfl : fileId = some (.finite added.id) := (isFileId ⟨fileId, name⟩).mp sameFile
    obtain rfl : name = some list := names
    exact List.mem_of_getElem? hitAt
  · intro member
    obtain ⟨index, isHit⟩ := List.mem_iff_getElem?.mp member
    have isNumbered :
        ((⟨some (.finite added.id), some list⟩ : NewHit), index + 1) ∈ ledger.hits.zipIdx 1 := by
      rw [List.mem_zipIdx_iff_le_and_getElem?_sub]
      exact ⟨Nat.le_add_left 1 index, isHit⟩
    exact
      ⟨_, List.mem_map_of_mem isNumbered, _, List.mem_map_of_mem isNumbered, rfl, rfl, rfl, rfl,
        rfl⟩

section Places

variable {Value : Type} [BEq Value] [LawfulBEq Value]

theorem nodup_eraseDups (values : List Value) : values.eraseDups.Nodup := by
  induction hasLength : values.length using Nat.strongRecOn generalizing values with
  | ind length inductionHypothesis =>
      cases values with
      | nil =>
          exact List.nodup_nil
      | cons first others =>
          have shorter : (others.filter fun other => !other == first).length < length := by
            rw [← hasLength, List.length_cons]
            exact Nat.lt_succ_of_le (List.length_filter_le _ _)
          rw [List.eraseDups_cons, List.nodup_cons]
          refine ⟨?_, inductionHypothesis _ shorter _ rfl⟩
          intro member
          have remains := (List.mem_filter.mp (List.mem_eraseDups.mp member)).2
          rw [beq_self_eq_true] at remains
          cases remains

theorem length_eraseDups [DecidableEq Value] (values : List Value) :
    values.eraseDups.length = values.toFinset.card := by
  have sameMembers : values.eraseDups.toFinset = values.toFinset := by
    ext value
    rw [List.mem_toFinset, List.mem_toFinset, List.mem_eraseDups]
  rw [← List.toFinset_card_of_nodup (nodup_eraseDups values), sameMembers]

end Places

/-- The repository counts the pairs in which the ledger has the hash. -/
theorem InRepository.length_places
    {tables : RepositoryTables} (inRepository : ledger.InRepository tables) (hash : String) :
    (tables.places hash).length = (ledger.places hash).card := by
  rw [RepositoryTables.places, length_eraseDups, places]
  congr 1
  ext place
  simp only [List.mem_toFinset, List.mem_map, List.mem_filter, inRepository.occurrences]

end Ledger

/-! ## Rows that are added -/

theorem storedNumber?_getD {number? : Option Number} {fallback stored : Number}
    (isStored : storedNumber? number? = some stored) :
    number?.getD fallback = stored := by
  cases number? with
  | none =>
      cases isStored
  | some number =>
      cases number with
      | nan =>
          cases isStored
      | infinite negative =>
          exact Option.some.inj isStored
      | finite value =>
          exact Option.some.inj isStored

theorem eq_some_of_storedNumber?
    {number? : Option Number} (fallback : Number) (isStored : (storedNumber? number?).isSome) :
    number? = some (number?.getD fallback) := by
  cases number? with
  | none =>
      cases isStored
  | some number =>
      rfl

theorem eq_some_getD {Value : Type} {value? : Option Value} (fallback : Value)
    (isSome : value?.isSome) :
    value? = some (value?.getD fallback) := by
  cases value? with
  | none =>
      cases isSome
  | some value =>
      rfl

/-- The row of a file that misses nothing holds what was given. -/
theorem AddedFile.given_of_complete {added : AddedFile} (complete : added.file.Complete) :
    added.file.name = some added.row.name ∧
      added.file.parentPath = some added.row.parentPath ∧
      added.file.size = some added.row.size ∧ added.file.sourceId = some added.row.sourceId :=
  ⟨eq_some_getD "" complete.name, eq_some_getD "" complete.parentPath,
    eq_some_of_storedNumber? .nan complete.size,
    eq_some_of_storedNumber? .nan complete.sourceId⟩

theorem isSome_of_requireCell
    {Value : Type} {table column : String} {value? : Option Value} {value : Value}
    (found : requireCell table column value? = .ok value) :
    value?.isSome := by
  cases value? with
  | none =>
      cases found
  | some value =>
      rfl

namespace CaseTables

variable {tables : CaseTables}

theorem addSource_eq_ok
    {id? : Option Number} {name? : Option String} {after : CaseTables} {id : Int}
    (accepted : tables.addSource id? name? = .ok (after, id)) :
    ∃ sources, after = { tables with sources } := by
  rw [addSource] at accepted
  obtain ⟨given, _, rest⟩ := bind_eq_ok accepted
  obtain ⟨name, _, rest⟩ := bind_eq_ok rest
  dsimp only at rest
  split at rest
  · cases rest
  · cases rest
    exact ⟨_, rfl⟩

theorem addFile_of_complete {file : NewFile} (complete : file.Complete) :
    tables.addFile file =
      .ok
        ({ tables with
            files := tables.files ++ [AddedFile.row ⟨tables.lastFile + 1, file⟩]
            lastFile := tables.lastFile + 1 },
          tables.lastFile + 1) := by
  obtain ⟨name, isName⟩ := Option.isSome_iff_exists.mp complete.name
  obtain ⟨parentPath, isParentPath⟩ := Option.isSome_iff_exists.mp complete.parentPath
  obtain ⟨size, isSize⟩ := Option.isSome_iff_exists.mp complete.size
  obtain ⟨sourceId, isSourceId⟩ := Option.isSome_iff_exists.mp complete.sourceId
  rw [addFile, AddedFile.row, storedNumber?_getD isSize, storedNumber?_getD isSourceId, isName,
    isParentPath, isSize, isSourceId]
  rfl

theorem addFile_eq_ok {file : NewFile} {added : CaseTables × Int}
    (accepted : tables.addFile file = .ok added) :
    file.Complete := by
  rw [addFile] at accepted
  obtain ⟨name, isName, rest⟩ := bind_eq_ok accepted
  obtain ⟨parentPath, isParentPath, rest⟩ := bind_eq_ok rest
  obtain ⟨size, isSize, rest⟩ := bind_eq_ok rest
  obtain ⟨sourceId, isSourceId, _⟩ := bind_eq_ok rest
  exact
    ⟨isSome_of_requireCell isName, isSome_of_requireCell isParentPath,
      isSome_of_requireCell isSize, isSome_of_requireCell isSourceId⟩

end CaseTables

/-! ## Calls on a handle -/

namespace Handle

/-- The handle may write, no transaction is open, and it works on these tables. -/
def IdleOn (handle : Handle) (tables : Tables) : Prop :=
  ∃ path dirty lastKey, handle = writing path dirty ⟨tables, lastKey, none⟩

variable {Value : Type} {handle : Handle} {tables tablesAfter : Tables}

theorem IdleOn.tables_eq
    {other : Tables} (idle : handle.IdleOn tables) (idleToo : handle.IdleOn other) :
    other = tables := by
  obtain ⟨_, _, _, rfl⟩ := idle
  obtain ⟨_, _, _, same⟩ := idleToo
  cases same
  rfl

theorem IdleOn.run_of_ok
    {statement : Statement} {key? : Option Int} (idle : handle.IdleOn tables)
    (accepted : statement tables = .ok (tablesAfter, key?)) :
    ∃ lastKey after,
      (run statement).run.run handle = (.ok (key?.getD lastKey), after) ∧
        after.IdleOn tablesAfter := by
  obtain ⟨path, dirty, lastKey, rfl⟩ := idle
  exact ⟨lastKey, _, Handle.run_of_ok path dirty _ accepted, path, true, _, rfl⟩

theorem IdleOn.run_of_error
    {statement : Statement} {error : StorageError} (idle : handle.IdleOn tables)
    (refused : statement tables = .error error) :
    (run statement).run.run handle = (.error error, handle) := by
  obtain ⟨path, dirty, lastKey, rfl⟩ := idle
  exact Handle.run_of_error path dirty _ refused

theorem IdleOn.runScript_of_executes
    {script : List Statement} (idle : handle.IdleOn tables)
    (executes : Executes script tables tablesAfter) :
    ∃ after,
      (runScript script).run.run handle = (.ok (), after) ∧ after.IdleOn tablesAfter := by
  obtain ⟨path, dirty, lastKey, rfl⟩ := idle
  obtain ⟨lastKeyAfter, executed⟩ := executes path dirty lastKey
  exact ⟨_, Handle.runScript_of_ok executed, path, true, lastKeyAfter, rfl⟩

theorem IdleOn.query
    {read : Tables → Except StorageError Value} {value : Value} (idle : handle.IdleOn tables)
    (isRead : read tables = .ok value) :
    (Handle.query read).run.run handle = (.ok value, handle) := by
  obtain ⟨path, dirty, lastKey, rfl⟩ := idle
  rw [run_query, ← isRead]
  rfl

end Handle

open Handle

/-- On an idle handle with the tables of a case the step changes nothing but these, and they hold
what the ledger says if the step is entered. -/
def KeepsCase {Value : Type} (step : HandleM Value) (add : Ledger → Value → Ledger) : Prop :=
  ∀ {handle : Handle} {tables : Tables} {caseTables : CaseTables} {ledger : Ledger},
    handle.IdleOn tables → tables.caseTables = some caseTables → ledger.InCase caseTables →
      ∃ outcome after caseAfter,
        step.run.run handle = (outcome, after) ∧
          after.IdleOn { tables with caseTables := some caseAfter } ∧
          (ledger.enter add outcome).InCase caseAfter

/-- On an idle handle with the tables of a repository the step changes nothing but these, and they
hold what the ledger says if the step is entered. -/
def KeepsRepository {Value : Type} (step : HandleM Value) (add : Ledger → Value → Ledger) :
    Prop :=
  ∀ {handle : Handle} {tables : Tables} {repositoryTables : RepositoryTables} {ledger : Ledger},
    handle.IdleOn tables → tables.repositoryTables = some repositoryTables →
      ledger.InRepository repositoryTables →
      ∃ outcome after repositoryAfter,
        step.run.run handle = (outcome, after) ∧
          after.IdleOn { tables with repositoryTables := some repositoryAfter } ∧
          (ledger.enter add outcome).InRepository repositoryAfter

/-- A step that fails may leave everything as it was. -/
theorem exists_case_of_error
    {Value : Type} {step : HandleM Value} {add : Ledger → Value → Ledger} {error : StorageError}
    {handle : Handle} {tables : Tables} {caseTables : CaseTables} {ledger : Ledger}
    (idle : handle.IdleOn tables) (isCase : tables.caseTables = some caseTables)
    (inCase : ledger.InCase caseTables) (stepped : step.run.run handle = (.error error, handle)) :
    ∃ outcome after caseAfter,
      step.run.run handle = (outcome, after) ∧
        after.IdleOn { tables with caseTables := some caseAfter } ∧
        (ledger.enter add outcome).InCase caseAfter := by
  refine ⟨_, _, caseTables, stepped, ?_, inCase⟩
  rw [← isCase]
  exact idle

theorem keepsCase_addSource (id? : Option Number) (name? : Option String) :
    KeepsCase (CaseStore.addSource id? name?) fun ledger _ => ledger := by
  intro handle tables caseTables ledger idle isCase inCase
  cases added : caseTables.addSource id? name? with
  | error error =>
      have refused : Tables.insertSource id? name? tables = .error error :=
        changeCase_of_error isCase inCase.whole added _
      exact
        exists_case_of_error idle isCase inCase (run_bind_of_error (idle.run_of_error refused))
  | ok result =>
      obtain ⟨caseAfter, id⟩ := result
      have accepted :
          Tables.insertSource id? name? tables =
            .ok ({ tables with caseTables := some caseAfter }, some id) :=
        changeCase_of_ok isCase inCase.whole added _
      obtain ⟨lastKey, after, ran, idleAfter⟩ := idle.run_of_ok accepted
      refine ⟨.ok (), after, caseAfter, run_bind_of_ok ran, idleAfter, ?_⟩
      obtain ⟨sources, rfl⟩ := CaseTables.addSource_eq_ok added
      exact
        ⟨inCase.complete, inCase.files, inCase.rising, inCase.lastFile, inCase.artifacts,
          inCase.attributes, inCase.lastArtifact, inCase.whole⟩

theorem keepsCase_addFile (file : NewFile) :
    KeepsCase (CaseStore.addFile file) (Ledger.addFile file) := by
  intro handle tables caseTables ledger idle isCase inCase
  cases added : caseTables.addFile file with
  | error error =>
      have refused : Tables.insertFile file tables = .error error :=
        changeCase_of_error isCase inCase.whole added _
      exact exists_case_of_error idle isCase inCase (idle.run_of_error refused)
  | ok result =>
      have complete := CaseTables.addFile_eq_ok added
      have accepted : Tables.insertFile file tables = .ok (_, _) :=
        changeCase_of_ok isCase inCase.whole (CaseTables.addFile_of_complete complete) _
      obtain ⟨lastKey, after, ran, idleAfter⟩ := idle.run_of_ok accepted
      exact ⟨_, after, _, ran, idleAfter, inCase.addFile complete⟩

/-- A hit in no file is refused. -/
theorem addKeywordHit_of_missing
    {handle : Handle} {tables : Tables} {caseTables : CaseTables} {hit : NewHit}
    (idle : handle.IdleOn tables) (isCase : tables.caseTables = some caseTables)
    (whole : caseTables.gaps = []) (missing : storedNumber? hit.fileId = none) :
    (CaseStore.addKeywordHit hit.fileId hit.list).run.run handle =
      (.error (.missingValue "blackboard_artifacts" "obj_id"), handle) := by
  obtain ⟨path, dirty, lastKey, rfl⟩ := idle
  apply addKeywordHit_of_error
  refine changeCase_of_error isCase whole ?_ _
  rw [CaseTables.addArtifact, missing]
  rfl

theorem keepsCase_addKeywordHit (hit : NewHit) :
    KeepsCase (CaseStore.addKeywordHit hit.fileId hit.list) (Ledger.addHit hit) := by
  intro handle tables caseTables ledger idle isCase inCase
  cases isFileId : storedNumber? hit.fileId with
  | none =>
      exact
        exists_case_of_error idle isCase inCase
          (addKeywordHit_of_missing idle isCase inCase.whole isFileId)
  | some fileId =>
      have added :
          caseTables.addArtifact hit.fileId =
            .ok
              ({ caseTables with
                  artifacts :=
                    caseTables.artifacts ++
                      [⟨caseTables.lastArtifact + 1, hit.fileId.getD .nan, keywordHitType⟩]
                  lastArtifact := caseTables.lastArtifact + 1 },
                caseTables.lastArtifact + 1) := by
        rw [CaseTables.addArtifact, storedNumber?_getD isFileId, isFileId]
        rfl
      obtain ⟨path, dirty, lastKey, rfl⟩ := idle
      exact
        ⟨.ok (), _, _, addKeywordHit_of_ok hit.list isCase inCase.whole added,
          ⟨path, true, _, rfl⟩, inCase.addHit _⟩

/-- Adding an occurrence to the tables adds what is kept of it, once. -/
theorem mem_occurrences_add_iff
    {tables : RepositoryTables} {call : NewOccurrence} {hash : String}
    (normal : normalizeHash call.hash = .ok hash) (occurrence : Occurrence) :
    occurrence ∈ (tables.add call.caseId call.sourceId hash call.path).1.occurrences ↔
      occurrence ∈ tables.occurrences ∨ call.kept? = some occurrence := by
  unfold RepositoryTables.add NewOccurrence.kept?
  rw [normal]
  cases storedNumber? call.caseId with
  | none =>
      simp
  | some caseId =>
      cases storedNumber? call.sourceId with
      | none =>
          simp
      | some sourceId =>
          cases call.path with
          | none =>
              simp
          | some path =>
              by_cases known : (⟨caseId, sourceId, hash, path⟩ : Occurrence) ∈ tables.occurrences
              · have isKnown := List.contains_iff_mem.mpr known
                simp only [isKnown, if_true, Option.some.injEq]
                constructor
                · exact Or.inl
                · rintro (member | rfl)
                  · exact member
                  · exact known
              · have isNew :
                    tables.occurrences.contains ⟨caseId, sourceId, hash, path⟩ = false :=
                  Bool.eq_false_iff.mpr fun isKnown => known (List.contains_iff_mem.mp isKnown)
                simp only [isNew, Bool.false_eq_true, if_false, List.mem_append,
                  List.mem_singleton, Option.some.injEq]
                exact or_congr_right eq_comm

theorem types_add
    (tables : RepositoryTables) (caseId sourceId : Option Number) (hash : String)
    (path : Option String) :
    (tables.add caseId sourceId hash path).1.types = tables.types := by
  unfold RepositoryTables.add
  dsimp only
  split
  · split <;> rfl
  · rfl

theorem gaps_add
    (tables : RepositoryTables) (caseId sourceId : Option Number) (hash : String)
    (path : Option String) :
    (tables.add caseId sourceId hash path).1.gaps = tables.gaps := by
  unfold RepositoryTables.add
  dsimp only
  split
  · split <;> rfl
  · rfl

theorem requireRepository_of_some
    {tables : Tables} {repositoryTables : RepositoryTables}
    (isRepository : tables.repositoryTables = some repositoryTables)
    (whole : repositoryTables.gaps = []) (access : ColumnAccess) :
    tables.requireRepository access = .ok repositoryTables := by
  rw [Tables.requireRepository, isRepository]
  exact requireTables_of_whole whole access

theorem insertOccurrence_of_some
    {tables : Tables} {repositoryTables : RepositoryTables}
    (isRepository : tables.repositoryTables = some repositoryTables)
    (whole : repositoryTables.gaps = []) (caseId sourceId : Option Number) (hash : String)
    (path : Option String) :
    Tables.insertOccurrence caseId sourceId hash path tables =
      .ok
        ({ tables with
            repositoryTables := some (repositoryTables.add caseId sourceId hash path).1 },
          (repositoryTables.add caseId sourceId hash path).2) := by
  rw [Tables.insertOccurrence, requireRepository_of_some isRepository whole]
  rfl

/-- A malformed hash is refused before the handle is asked. -/
theorem addOccurrence_of_malformed
    {call : NewOccurrence} {error : StorageError}
    (malformed : normalizeHash call.hash = .error error) (handle : Handle) :
    (RepositoryStore.addOccurrence call.caseId call.sourceId call.hash call.path).run.run handle =
      (.error error, handle) := by
  unfold RepositoryStore.addOccurrence
  rw [malformed]
  rfl

/-- A hash that is one is stored as a statement of its own. -/
theorem addOccurrence_of_normal
    {call : NewOccurrence} {hash : String} (normal : normalizeHash call.hash = .ok hash) :
    RepositoryStore.addOccurrence call.caseId call.sourceId call.hash call.path =
      (do let _ ← run (Tables.insertOccurrence call.caseId call.sourceId hash call.path)) := by
  unfold RepositoryStore.addOccurrence
  rw [normal]

theorem addOccurrence_of_idleOn
    {handle : Handle} {tables : Tables} {repositoryTables : RepositoryTables}
    {call : NewOccurrence} {hash : String} (idle : handle.IdleOn tables)
    (isRepository : tables.repositoryTables = some repositoryTables)
    (whole : repositoryTables.gaps = []) (normal : normalizeHash call.hash = .ok hash) :
    ∃ after,
      (RepositoryStore.addOccurrence call.caseId call.sourceId call.hash call.path).run.run
          handle = (.ok (), after) ∧
        after.IdleOn
          { tables with
            repositoryTables :=
              some (repositoryTables.add call.caseId call.sourceId hash call.path).1 } := by
  have accepted :=
    insertOccurrence_of_some isRepository whole call.caseId call.sourceId hash call.path
  obtain ⟨lastKey, after, ran, idleAfter⟩ := idle.run_of_ok accepted
  rw [addOccurrence_of_normal normal]
  exact ⟨after, run_bind_of_ok ran, idleAfter⟩

theorem keepsRepository_addOccurrence (call : NewOccurrence) :
    KeepsRepository
      (RepositoryStore.addOccurrence call.caseId call.sourceId call.hash call.path)
      (Ledger.addOccurrence call) := by
  intro handle tables repositoryTables ledger idle isRepository inRepository
  cases normal : normalizeHash call.hash with
  | error error =>
      refine
        ⟨.error error, handle, repositoryTables, addOccurrence_of_malformed normal handle, ?_,
          inRepository⟩
      rw [← isRepository]
      exact idle
  | ok hash =>
      obtain ⟨after, ran, idleAfter⟩ :=
        addOccurrence_of_idleOn idle isRepository inRepository.whole normal
      refine ⟨.ok (), after, _, ran, idleAfter, ?_, ?_, (gaps_add ..).trans inRepository.whole⟩
      · rw [types_add]
        exact inRepository.types
      · intro occurrence
        rw [mem_occurrences_add_iff normal, inRepository.occurrences]
        simp [Ledger.enter, Ledger.addOccurrence, Ledger.seen]

/-! ## Counting -/

theorem count_of_idleOn
    {handle : Handle} {tables : Tables} {repositoryTables : RepositoryTables}
    {text hash : String} (idle : handle.IdleOn tables)
    (isRepository : tables.repositoryTables = some repositoryTables)
    (whole : repositoryTables.gaps = []) (normal : normalizeHash text = .ok hash) :
    (RepositoryStore.count text).run.run handle =
      (.ok (repositoryTables.places hash).length, handle) := by
  unfold RepositoryStore.count
  rw [normal]
  apply idle.query
  rw [requireRepository_of_some isRepository whole]
  rfl

end EvidenceSearch
