import EvidenceSearch.Proofs.Search.Resolving

/-!
# Hits of keyword lists

Several stores may work on the tables of one case, each prepared or attached at any time. Whatever
is done through them, the hits that were added are numbered in the order of their calls: each has an
artifact of its own, with the file of the call, and one attribute, with the list of the call. The
two are joined by a number that is given only once. A search by keyword lists therefore finds
exactly the files with a hit from one of the lists, and the lists that are named are those with a
hit.
-/

namespace EvidenceSearch

open Handle Recording

/-! ## Rows of hits -/

/-- Each hit has an artifact and an attribute of its own, which stand where the hit stands. The
numbers of the artifacts are distinct, so that a number joins exactly these two. -/
structure CaseTables.Records (tables : CaseTables) (hits : List NewHit) : Prop where
  distinct : (tables.artifacts.map StoredArtifact.id).Nodup
  artifactCount : tables.artifacts.length = hits.length
  attributeCount : tables.attributes.length = hits.length
  recorded :
    ∀ (index : Nat) (hit : NewHit), hits[index]? = some hit →
      ∃ (artifact : StoredArtifact) (row : StoredAttribute),
        tables.artifacts[index]? = some artifact ∧ tables.attributes[index]? = some row ∧
          row.artifactId = artifact.id ∧ hit.fileId = some artifact.fileId ∧
          row.text = hit.list ∧ artifact.type = keywordHitType ∧
          row.artifactType = keywordHitType ∧ row.type = listNameType
  artifactOf :
    ∀ row ∈ tables.attributes, ∃ found,
      (tables.artifacts.filter fun artifact => artifact.id = row.artifactId) = [found]
  attributeOf :
    ∀ artifact ∈ tables.artifacts, ∃ found,
      (tables.attributes.filter fun row => row.artifactId = artifact.id) = [found]

theorem exists_filter_key_eq_singleton
    {Row : Type} {key : Row → Int} {rows : List Row} {number : Int}
    (distinct : (rows.map key).Nodup) (isKey : number ∈ rows.map key) :
    ∃ found, (rows.filter fun row => key row = number) = [found] := by
  induction rows with
  | nil =>
      exact absurd isKey List.not_mem_nil
  | cons first rows inductionHypothesis =>
      rw [List.map_cons, List.nodup_cons] at distinct
      rw [List.map_cons, List.mem_cons] at isKey
      rw [List.filter_cons]
      by_cases same : key first = number
      · have noOther : (rows.filter fun row => key row = number) = [] := by
          rw [List.filter_eq_nil_iff]
          intro row isRow sameToo
          exact distinct.1 (same ▸ of_decide_eq_true sameToo ▸ List.mem_map_of_mem isRow)
        rw [if_pos (decide_eq_true same), noOther]
        exact ⟨first, rfl⟩
      · rw [if_neg fun equal => same (of_decide_eq_true equal)]
        exact inductionHypothesis distinct.2 (isKey.resolve_left (Ne.symm same))

namespace Ledger

variable {ledger : Ledger} {tables : CaseTables}

/-- The numbers that hits were given. -/
def hitNumbers (ledger : Ledger) : List Int :=
  (List.range' 1 ledger.hits.length).map Int.ofNat

theorem nodup_hitNumbers (ledger : Ledger) : ledger.hitNumbers.Nodup :=
  (List.nodup_range' 1).map fun _ _ => Int.ofNat.inj

theorem InCase.artifact_ids (inCase : ledger.InCase tables) :
    tables.artifacts.map StoredArtifact.id = ledger.hitNumbers := by
  rw [inCase.artifacts, List.map_map, hitNumbers, ← List.zipIdx_map_snd, List.map_map]
  rfl

theorem InCase.attribute_ids (inCase : ledger.InCase tables) :
    tables.attributes.map StoredAttribute.artifactId = ledger.hitNumbers := by
  rw [inCase.attributes, List.map_map, hitNumbers, ← List.zipIdx_map_snd, List.map_map]
  rfl

/-- The rows of hits whose files were given are those of the hits, each with its number. -/
theorem InCase.records
    (inCase : ledger.InCase tables)
    (given : ∀ hit ∈ ledger.hits, (storedNumber? hit.fileId).isSome) :
    tables.Records ledger.hits := by
  have distinct : (tables.artifacts.map StoredArtifact.id).Nodup := by
    rw [inCase.artifact_ids]
    exact ledger.nodup_hitNumbers
  have distinctRows : (tables.attributes.map StoredAttribute.artifactId).Nodup := by
    rw [inCase.attribute_ids]
    exact ledger.nodup_hitNumbers
  have sameNumbers :
      tables.artifacts.map StoredArtifact.id =
        tables.attributes.map StoredAttribute.artifactId :=
    inCase.artifact_ids.trans inCase.attribute_ids.symm
  refine
    { distinct
      artifactCount := by rw [inCase.artifacts, List.length_map, List.length_zipIdx]
      attributeCount := by rw [inCase.attributes, List.length_map, List.length_zipIdx]
      recorded := ?_
      artifactOf := ?_
      attributeOf := ?_ }
  · intro index hit isHit
    refine
      ⟨hit.artifact (1 + index), hit.attribute (1 + index), ?_, ?_, rfl,
        eq_some_of_storedNumber? .nan (given hit (List.mem_of_getElem? isHit)), rfl, rfl, rfl,
        rfl⟩
    · rw [inCase.artifacts, List.getElem?_map, List.getElem?_zipIdx, isHit]
      rfl
    · rw [inCase.attributes, List.getElem?_map, List.getElem?_zipIdx, isHit]
      rfl
  · intro row isRow
    refine exists_filter_key_eq_singleton distinct ?_
    rw [sameNumbers]
    exact List.mem_map_of_mem isRow
  · intro artifact isArtifact
    refine exists_filter_key_eq_singleton distinctRows ?_
    rw [← sameNumbers]
    exact List.mem_map_of_mem isArtifact

end Ledger

/-! ## Stores that share a case -/

namespace Workspace

variable {workspace : Workspace} {id : HandleId} {tables : Tables}

theorem initializeCase_of_idleOn
    {tablesAfter : Tables} (idle : (workspace.handle id).IdleOn tables)
    (executes : Executes Tables.createCase tables tablesAfter) :
    ∃ after,
      (initializeCase id).run.run workspace = (.ok (), after) ∧
        after.stores = { workspace.stores with caseHandle := some id } ∧
        (after.handle id).IdleOn tablesAfter := by
  have idleTaken : ((workspace.withCase id).handle id).IdleOn tables := idle
  obtain ⟨handle, scriptRan, idleAfter⟩ := idleTaken.runScript_of_executes executes
  rw [← handle_setHandle_self idleTaken handle] at idleAfter
  exact ⟨_, initialize_ran (withCase · id) _ scriptRan, rfl, idleAfter⟩

theorem attachCase_of_idleOn
    {caseTables : CaseTables} (idle : (workspace.handle id).IdleOn tables)
    (isCase : tables.caseTables = some caseTables) (whole : caseTables.gaps = []) :
    ∃ after,
      (attachCase id).run.run workspace = (.ok (), after) ∧
        after.stores = { workspace.stores with caseHandle := some id } ∧
        (after.handle id).IdleOn tables := by
  have noneMissing : ∀ name ∈ CaseTables.names, .table name ∉ caseTables.gaps := by
    rw [whole]
    exact fun _ _ => List.not_mem_nil
  have hasTables : (workspace.handle id).HasTables CaseTables.names := by
    obtain ⟨path, dirty, lastKey, isIdle⟩ := idle
    rw [isIdle]
    exact ⟨tables, rfl, fun name member => Tables.caseNames_subset isCase noneMissing member⟩
  refine ⟨(workspace.noted "CaseDatabase attached").withCase id, ?_, rfl, idle⟩
  rw [attachCase, run_bind_of_ok (checkCase_of_hasTables hasTables)]
  rfl

end Workspace

/-- What is done with one of several stores. -/
inductive StoreAct where
  | prepare
  | attach
  | call (call : WriterCall)
  deriving DecidableEq

/-- A workspace with the ledger of the calls that succeeded in it, and the handles of several
stores. -/
structure Sharing where
  recording : Recording
  stores : Nat → StoreHandles

namespace Sharing

/-- Prepare one of the stores, in the place of the store of the workspace. -/
def prepare (sharing : Sharing) (store : Nat) (step : WorkspaceM Unit) : Sharing :=
  let workspace := sharing.recording.workspace
  let after := (step.run.run { workspace with stores := sharing.stores store }).2
  { recording := ⟨{ after with stores := workspace.stores }, sharing.recording.ledger⟩
    stores := Function.update sharing.stores store after.stores }

/-- Do something with one of the stores on the database of a handle. -/
def step (caseId : HandleId) (sharing : Sharing) (act : Nat × StoreAct) : Sharing :=
  match act.2 with
  | .prepare => sharing.prepare act.1 (Workspace.initializeCase caseId)
  | .attach => sharing.prepare act.1 (Workspace.attachCase caseId)
  | .call call =>
      { sharing with recording := sharing.recording.after (sharing.stores act.1) call }

/-- Stores without a database, in a workspace in which nothing was added yet. -/
def start (workspace : Workspace) : Sharing :=
  ⟨⟨workspace, {}⟩, fun _ => {}⟩

/-- What becomes of stores of which the first was prepared on the database of a handle. -/
def ofActs (workspace : Workspace) (caseId : HandleId) (acts : List (Nat × StoreAct)) : Sharing :=
  ((0, .prepare) :: acts).foldl (step caseId) (start workspace)

/-- The store was prepared or attached at some time; the first store was from the start. -/
def IsPrepared (acts : List (Nat × StoreAct)) (store : Nat) : Prop :=
  store = 0 ∨ (store, .prepare) ∈ acts ∨ (store, .attach) ∈ acts

/-- A store that was prepared works on the handle, and each hit of the ledger has a file. -/
structure Orderly (caseId : HandleId) (sharing : Sharing) : Prop where
  stores : ∀ store, sharing.stores store = {} ∨ sharing.stores store = caseOn caseId
  given : ∀ hit ∈ sharing.recording.ledger.hits, (storedNumber? hit.fileId).isSome

/-- What is more, the database of the handle holds what the ledger says. -/
structure Holds (caseId : HandleId) (sharing : Sharing) : Prop extends sharing.Orderly caseId where
  recording : sharing.recording.HoldsCase caseId

variable {sharing : Sharing} {workspace : Workspace} {caseId : HandleId}

theorem orderly_start (workspace : Workspace) (caseId : HandleId) :
    (start workspace).Orderly caseId :=
  ⟨fun _ => .inl rfl, fun hit member => absurd member (List.not_mem_nil (a := hit))⟩

theorem prepare_of_ok
    {step : WorkspaceM Unit} {after : Workspace} {store : Nat}
    (ran :
      step.run.run { sharing.recording.workspace with stores := sharing.stores store } =
        (.ok (), after)) :
    sharing.prepare store step =
      ⟨⟨{ after with stores := sharing.recording.workspace.stores }, sharing.recording.ledger⟩,
        Function.update sharing.stores store after.stores⟩ := by
  rw [prepare, ran]

/-- A store that is prepared on tables with what the ledger says works on them. -/
theorem Orderly.prepare
    {step : WorkspaceM Unit} {after : Workspace} {tables : Tables} {caseTables : CaseTables}
    {store : Nat} (orderly : sharing.Orderly caseId)
    (ran :
      step.run.run { sharing.recording.workspace with stores := sharing.stores store } =
        (.ok (), after))
    (taken : after.stores = { sharing.stores store with caseHandle := some caseId })
    (idle : (after.handle caseId).IdleOn tables) (isCase : tables.caseTables = some caseTables)
    (inCase : sharing.recording.ledger.InCase caseTables) :
    (sharing.prepare store step).Holds caseId ∧
      (sharing.prepare store step).stores store = caseOn caseId := by
  have works : after.stores = caseOn caseId := by
    rcases orderly.stores store with none | same
    · rw [taken, none]
    · rw [taken, same]
  rw [prepare_of_ok ran]
  refine ⟨⟨⟨?_, orderly.given⟩, tables, caseTables, idle, isCase, inCase⟩, ?_⟩
  · intro other
    by_cases same : other = store
    · subst same
      exact .inr ((Function.update_self ..).trans works)
    · have others := orderly.stores other
      rw [← Function.update_of_ne same after.stores sharing.stores] at others
      exact others
  · exact (Function.update_self ..).trans works

/-- Once the first store is prepared on a database that was new to it, nothing is added yet. -/
theorem holds_start
    {side : Tables} (idle : (workspace.handle caseId).IdleOn side)
    (noCase : side.caseTables = none) :
    (ofActs workspace caseId []).Holds caseId ∧
      (ofActs workspace caseId []).stores 0 = caseOn caseId := by
  have idleStart :
      (({ workspace with stores := (start workspace).stores 0 } : Workspace).handle
        caseId).IdleOn side :=
    idle
  obtain ⟨after, ran, taken, idleAfter⟩ :=
    Workspace.initializeCase_of_idleOn idleStart (Tables.createCase_of_none noCase)
  exact (orderly_start workspace caseId).prepare ran taken idleAfter rfl Ledger.inCase_empty

/-- A store may be prepared or attached again, and other stores may be. -/
theorem Holds.prepare
    (holds : sharing.Holds caseId) (store : Nat) {act : StoreAct}
    (prepares : act = .prepare ∨ act = .attach) :
    (sharing.step caseId (store, act)).Holds caseId ∧
      (sharing.step caseId (store, act)).stores store = caseOn caseId := by
  obtain ⟨tables, caseTables, idle, isCase, inCase⟩ := holds.recording
  have idleStore :
      (({ sharing.recording.workspace with stores := sharing.stores store } : Workspace).handle
        caseId).IdleOn tables :=
    idle
  rcases prepares with rfl | rfl
  · obtain ⟨after, ran, taken, idleAfter⟩ :=
      Workspace.initializeCase_of_idleOn idleStore (Tables.createCase_of_whole isCase inCase.whole)
    exact holds.toOrderly.prepare ran taken idleAfter isCase inCase
  · obtain ⟨after, ran, taken, idleAfter⟩ :=
      Workspace.attachCase_of_idleOn idleStore isCase inCase.whole
    exact holds.toOrderly.prepare ran taken idleAfter isCase inCase

/-- A store without a database refuses every call. -/
theorem after_of_unprepared (recording : Recording) (call : WriterCall) :
    recording.after {} call = recording := by
  cases call with
  | _ => rfl

/-- A call adds no hit but one with a file. -/
theorem given_after
    {recording : Recording} (holds : recording.HoldsCase caseId)
    (given : ∀ hit ∈ recording.ledger.hits, (storedNumber? hit.fileId).isSome)
    (call : WriterCall) :
    ∀ hit ∈ (recording.after (caseOn caseId) call).ledger.hits,
      (storedNumber? hit.fileId).isSome := by
  have same
      {Value : Type} (step : WorkspaceM Value) {add : Ledger → Value → Ledger}
      (sameHits : ∀ ledger value, (add ledger value).hits = ledger.hits) :
      (recording.enter step add).ledger.hits = recording.ledger.hits :=
    Ledger.field_enter sameHits recording.ledger (step.run.run recording.workspace).1
  cases call with
  | source id? name? =>
      rw [Recording.after, same _ fun _ _ => rfl]
      exact given
  | file file =>
      have sameHits : ∀ ledger id, (Ledger.addFile file ledger id).hits = ledger.hits :=
        fun _ _ => rfl
      rw [Recording.after, same _ sameHits]
      exact given
  | occurrence occurrence =>
      exact given
  | hit hit =>
      -- a hit without a file is refused before anything is written
      obtain ⟨tables, caseTables, idle, isCase, inCase⟩ := holds
      rw [Recording.after, onCase_eq_onHandle]
      cases isFileId : storedNumber? hit.fileId with
      | none =>
          rw [enter_onHandle (addKeywordHit_of_missing idle isCase inCase.whole isFileId)]
          exact given
      | some fileId =>
          obtain ⟨outcome, after, _, stepped, _, _⟩ :=
            keepsCase_addKeywordHit hit idle isCase inCase
          rw [enter_onHandle stepped]
          intro other member
          cases outcome with
          | error error =>
              exact given other member
          | ok value =>
              rcases List.mem_append.mp member with earlier | last
              · exact given other earlier
              · rw [List.mem_singleton.mp last, isFileId]
                rfl

/-- Whatever is done with one of the stores, all of them and the ledger stay in agreement with the
database. -/
theorem Holds.step (holds : sharing.Holds caseId) (act : Nat × StoreAct) :
    (sharing.step caseId act).Holds caseId := by
  obtain ⟨store, act⟩ := act
  cases act with
  | prepare =>
      exact (holds.prepare store (.inl rfl)).1
  | attach =>
      exact (holds.prepare store (.inr rfl)).1
  | call call =>
      rw [Sharing.step]
      rcases holds.stores store with unprepared | works
      · simp only [unprepared, after_of_unprepared]
        exact holds
      · simp only [works]
        exact
          ⟨⟨holds.stores, given_after holds.recording holds.given call⟩,
            holds.recording.after call⟩

theorem stores_step
    {store : Nat} (holds : sharing.Holds caseId) (works : sharing.stores store = caseOn caseId)
    (act : Nat × StoreAct) :
    (sharing.step caseId act).stores store = caseOn caseId := by
  have others
      (store' : Nat) (step : WorkspaceM Unit)
      (prepared : (sharing.prepare store' step).stores store' = caseOn caseId) :
      (sharing.prepare store' step).stores store = caseOn caseId := by
    by_cases same : store = store'
    · rw [same]
      exact prepared
    · exact (Function.update_of_ne same _ _).trans works
  obtain ⟨store', act⟩ := act
  cases act with
  | prepare =>
      exact others store' _ (holds.prepare store' (.inl rfl)).2
  | attach =>
      exact others store' _ (holds.prepare store' (.inr rfl)).2
  | call call =>
      exact works

/-- Whatever was done, the stores and the ledger agree with the database, and every store that was
prepared works on it. -/
theorem holds_ofActs
    {side : Tables} (idle : (workspace.handle caseId).IdleOn side)
    (noCase : side.caseTables = none) (acts : List (Nat × StoreAct)) :
    (ofActs workspace caseId acts).Holds caseId ∧
      ∀ store, IsPrepared acts store →
        (ofActs workspace caseId acts).stores store = caseOn caseId := by
  -- the acts are taken from the last one, which is the step
  induction acts using List.reverseRecOn with
  | nil =>
      obtain ⟨holds, works⟩ := holds_start idle noCase
      refine ⟨holds, ?_⟩
      rintro store (rfl | never | never)
      · exact works
      · exact absurd never List.not_mem_nil
      · exact absurd never List.not_mem_nil
  | append_singleton acts act inductionHypothesis =>
      obtain ⟨holds, works⟩ := inductionHypothesis
      have stepped :
          ofActs workspace caseId (acts ++ [act]) =
            (ofActs workspace caseId acts).step caseId act := by
        rw [ofActs, ← List.cons_append, List.foldl_append]
        rfl
      rw [stepped]
      refine ⟨holds.step act, ?_⟩
      rintro store (isFirst | isPrepared | isAttached)
      · exact stores_step holds (works store (.inl isFirst)) act
      · rcases List.mem_append.mp isPrepared with earlier | last
        · exact stores_step holds (works store (.inr (.inl earlier))) act
        · rw [← List.mem_singleton.mp last]
          exact (holds.prepare store (.inl rfl)).2
      · rcases List.mem_append.mp isAttached with earlier | last
        · exact stores_step holds (works store (.inr (.inr earlier))) act
        · rw [← List.mem_singleton.mp last]
          exact (holds.prepare store (.inr rfl)).2

end Sharing

/-! ## What is answered about keyword lists -/

/-- The files that were added and have a hit from one of the lists. -/
def Ledger.filesHit (ledger : Ledger) (names : List String) : List AddedFile :=
  ledger.files.filter fun added =>
    ∃ name ∈ names, (⟨some (.finite added.id), some name⟩ : NewHit) ∈ ledger.hits

namespace Filter

theorem exists_ofLists {names : List String} (filled : names ≠ []) (named : "" ∉ names) :
    ∃ lists : Choices ListChoice,
      ofLists names = .ok (.keywordList lists) ∧ lists.toList.map ListChoice.name = names := by
  have follows := follows_each Catalog.follows_checkList names
  have allMet : ∀ demand ∈ names.flatMap fun name => [Catalog.listDemand name], demand.Met := by
    rw [List.forall_mem_flatMap]
    intro name member
    exact List.forall_mem_singleton.mpr fun isEmpty => named (isEmpty ▸ member)
  obtain ⟨lists, checked⟩ := follows.exists_ok_iff.mpr allMet
  have areNames : lists.map ListChoice.name = names := by
    rw [← List.forall₂_eq_eq_eq, List.forall₂_map_left_iff]
    exact (follows.holds checked).flip
  rw [ofLists, checked]
  cases lists with
  | nil =>
      exact absurd areNames.symm filled
  | cons first others =>
      exact ⟨⟨first, others⟩, rfl, areNames⟩

variable {handle : Handle} {tables : Tables} {caseTables : CaseTables} {ledger : Ledger}

theorem withinLimits_keywordList (lists : Choices ListChoice) :
    WithinLimits [.keywordList lists] := by
  constructor
  · intro condition asks
    obtain rfl := Option.some.inj asks
    have levels : (keywordCondition (lists.toList.map ListChoice.name)).depth = 6 := rfl
    exact levels.trans_le (by decide)
  · intro filter isFilter pattern isPattern
    obtain rfl := List.mem_singleton.mp isFilter
    exact absurd isPattern List.not_mem_nil

/-- The filter of keyword lists finds the files with a hit from one of them. -/
theorem find_lists
    {lists : Choices ListChoice} (idle : handle.IdleOn tables)
    (isCase : tables.caseTables = some caseTables) (inCase : ledger.InCase caseTables)
    (nullFree : (Filter.keywordList lists).NullFree) :
    ∃ clause,
      combinedClause [.keywordList lists] = .ok clause ∧
        (CaseStore.find clause).run.run handle =
          (.ok ((ledger.filesHit (lists.toList.map ListChoice.name)).map fun added =>
            added.row.record), handle) := by
  classical
  have asking :
      ∃ filter ∈ [Filter.keywordList lists], filter.isFrequency = false :=
    ⟨_, List.mem_singleton_self _, rfl⟩
  obtain ⟨condition, asks⟩ := exists_conjunction? asking
  have limited := withinLimits_keywordList lists
  refine ⟨_, combinedClause_eq_ok asking, ?_⟩
  have isRead :
      Sql.Condition.ofClause
          (String.ofList (Sql.Token.write (combinedTokens [.keywordList lists]))).toList =
        .ok condition := by
    rw [String.toList_ofList]
    exact
      ofClause_combinedTokens (List.forall_mem_singleton.mpr nullFree) asks
        (limited.1 condition asks)
  have selected :
      caseTables.select condition =
        .ok ((ledger.filesHit (lists.toList.map ListChoice.name)).map AddedFile.row) := by
    rw [select_eq_selects caseTables asks limited, inCase.files, List.filter_map]
    refine congrArg Except.ok (congrArg (List.map AddedFile.row) ?_)
    refine List.filter_congr fun added _ => ?_
    rw [Function.comp_apply, decide_eq_decide, List.forall_mem_singleton]
    simp only [Selects, Admits, inCase.hasHit_iff, List.mem_map, exists_exists_and_eq_and]
  rw [find_of_idleOn idle isCase inCase.whole isRead selected, List.map_map]
  rfl

end Filter

theorem readBack_of_unmarked {text : String} (unmarked : text.toList.head? ≠ some byteOrderMark) :
    readBack text = text := by
  have same : dropMark text.toList = text.toList := by
    cases letters : text.toList with
    | nil =>
        rfl
    | cons first rest =>
        rw [letters] at unmarked
        exact if_neg fun isMark => unmarked (congrArg some isMark)
  rw [readBack, same, String.ofList_toList]

theorem pairwise_lt_mergeSort (names : List String) :
    (names.eraseDups.mergeSort fun left right => left ≤ right).Pairwise
      fun earlier later => earlier < later := by
  have transitive :
      ∀ first second third : String, decide (first ≤ second) = true →
        decide (second ≤ third) = true → decide (first ≤ third) = true :=
    fun _ _ _ before after =>
      decide_eq_true ((of_decide_eq_true before).trans (of_decide_eq_true after))
  have total :
      ∀ first second : String, (decide (first ≤ second) || decide (second ≤ first)) = true := by
    intro first second
    rw [Bool.or_eq_true, decide_eq_true_eq, decide_eq_true_eq]
    exact le_total first second
  have inOrder := List.pairwise_mergeSort transitive total names.eraseDups
  have distinct :=
    (List.mergeSort_perm names.eraseDups fun left right => decide (left ≤ right)).nodup_iff.mpr
      (Ledger.nodup_eraseDups names)
  exact
    (inOrder.and distinct).imp fun ordered =>
      lt_of_le_of_ne (of_decide_eq_true ordered.1) ordered.2

/-- A store answers what the ledger says about keyword lists. Names that are filled and free of null
characters make a filter that finds the files with a hit from a list of one of the names, each
once and in the order of their ids. The lists are named that have a hit, each once and in order; a
byte order mark before a name is left out. -/
structure Ledger.ToldBy
    (ledger : Ledger) (workspace : Workspace) (stores : StoreHandles) : Prop where
  finds :
    ∀ names : List String, names ≠ [] → (∀ name ∈ names, name ≠ "" ∧ '\x00' ∉ name.toList) →
      ∃ filter clause,
        Filter.ofLists names = .ok filter ∧ Filter.combinedClause [filter] = .ok clause ∧
          (Workspace.onCase stores (CaseStore.find clause)).run.run workspace =
            (.ok ((ledger.filesHit names).map fun added => added.row.record), workspace)
  rising : ∀ names, (ledger.filesHit names).Pairwise fun earlier later => earlier.id < later.id
  lists :
    ∃ names : List String,
      (Workspace.onCase stores CaseStore.keywordLists).run.run workspace =
          (.ok (names.map readBack), workspace) ∧
        names.Pairwise (fun earlier later => earlier < later) ∧
        (∀ name, name ∈ names ↔ ∃ hit ∈ ledger.hits, hit.list = some name) ∧
        ((∀ name ∈ names, name.toList.head? ≠ some byteOrderMark) → names.map readBack = names)

theorem Ledger.InCase.toldBy
    {workspace : Workspace} {caseId : HandleId} {tables : Tables} {caseTables : CaseTables}
    {ledger : Ledger} (inCase : ledger.InCase caseTables)
    (idle : (workspace.handle caseId).IdleOn tables)
    (isCase : tables.caseTables = some caseTables) :
    ledger.ToldBy workspace (caseOn caseId) := by
  refine
    ⟨?_, fun names => inCase.rising.filter _, _, ?_,
      pairwise_lt_mergeSort (ledger.hits.filterMap NewHit.list), ?_, ?_⟩
  · intro names filled plain
    obtain ⟨lists, made, areNames⟩ :=
      Filter.exists_ofLists filled fun isEmpty => (plain "" isEmpty).1 rfl
    have nullFree : (Filter.keywordList lists).NullFree := by
      intro text isText
      rw [Filter.texts, areNames] at isText
      exact (plain text isText).2
    obtain ⟨clause, written, found⟩ := Filter.find_lists idle isCase inCase nullFree
    rw [areNames] at found
    refine ⟨.keywordList lists, clause, made, written, ?_⟩
    rw [onCase_of_read found]
    rfl
  · rw [onCase_of_read (keywordLists_of_idleOn idle isCase inCase.whole), inCase.listNames_eq]
    rfl
  · intro name
    rw [List.mem_mergeSort, List.mem_eraseDups, List.mem_filterMap]
  · intro unmarked
    have same := List.map_congr_left fun name member => readBack_of_unmarked (unmarked name member)
    exact same.trans (List.map_id' _)

namespace Sharing

/-- A hit comes before its file, a store is called before it is attached, and a hit has no file. -/
def mixedActs : List (Nat × StoreAct) :=
  [(0, .call (.hit ⟨some (.finite 1), some "words"⟩)), (1, .call (.file hashedFile)), (1, .attach),
    (1, .call (.file hashedFile)), (0, .call (.hit ⟨none, some "names"⟩)),
    (1, .call (.hit ⟨some (.finite 7), some "names"⟩))]

/-- What was added. -/
def ledgerOfMixedActs : Ledger :=
  { files := [⟨1, hashedFile⟩]
    hits := [⟨some (.finite 1), some "words"⟩, ⟨some (.finite 7), some "names"⟩] }

theorem ledger_mixedActs :
    (ofActs newDatabases 0 mixedActs).recording.ledger = ledgerOfMixedActs := by
  decide +kernel

/-- Two lists have hits, one with a byte order mark before its name. -/
def markedActs : List (Nat × StoreAct) :=
  [(0, .call (.hit ⟨some (.finite 1), some "\uFEFFwords"⟩)),
    (0, .call (.hit ⟨some (.finite 1), some "words"⟩))]

theorem ledger_markedActs :
    (ofActs newDatabases 0 markedActs).recording.ledger.hits =
      [⟨some (.finite 1), some "\uFEFFwords"⟩, ⟨some (.finite 1), some "words"⟩] := by
  decide +kernel

end Sharing
end EvidenceSearch
