import EvidenceSearch.Proofs.Storage.Hashes
import EvidenceSearch.Proofs.Storage.Recording

/-!
# What a central repository counts

A repository is prepared on a database that is new to it, and then called in any way: it is
prepared or attached again, asked, and given occurrences, of which those with a malformed hash are
refused. The ledger takes part in the history as the list of the occurrences whose call succeeded,
and the tables agree with it after every call. What is counted for a hash is therefore settled by
the set of pairs of a case and a data source in which the hash was added, and by nothing else.
-/

namespace EvidenceSearch

open Handle

/-! ## Occurrences in a ledger -/

/-- The call adds the hash in a pair of a case and a data source. -/
structure NewOccurrence.IsSeen
    (occurrence : NewOccurrence) (hash : String) (place : Number × Number) : Prop where
  hash : normalizeHash occurrence.hash = .ok hash
  caseId : storedNumber? occurrence.caseId = some place.1
  sourceId : storedNumber? occurrence.sourceId = some place.2
  path : occurrence.path.isSome

theorem NewOccurrence.isSeen_iff
    {occurrence : NewOccurrence} {hash : String} {place : Number × Number} :
    occurrence.IsSeen hash place ↔
      ∃ kept, occurrence.kept? = some kept ∧ kept.hash = hash ∧
        (kept.caseId, kept.sourceId) = place := by
  constructor
  · rintro ⟨isHash, isCase, isSource, isPath⟩
    obtain ⟨path, isPath⟩ := Option.isSome_iff_exists.mp isPath
    refine ⟨⟨place.1, place.2, hash, path⟩, ?_, rfl, rfl⟩
    unfold kept?
    rw [isHash, isCase, isSource, isPath]
  · rintro ⟨kept, isKept, rfl, rfl⟩
    unfold kept? at isKept
    split at isKept
    · rename_i hash caseId sourceId path isHash isCase isSource isPath
      obtain rfl := Option.some.inj isKept
      exact ⟨isHash, isCase, isSource, isPath ▸ rfl⟩
    · cases isKept

theorem Ledger.mem_places_iff {ledger : Ledger} {hash : String} {place : Number × Number} :
    place ∈ ledger.places hash ↔
      ∃ occurrence ∈ ledger.occurrences, occurrence.IsSeen hash place := by
  simp only [places, seen, List.mem_toFinset, List.mem_map, List.mem_filter, List.mem_filterMap,
    decide_eq_true_eq, NewOccurrence.isSeen_iff]
  constructor
  · rintro ⟨kept, ⟨⟨occurrence, member, isKept⟩, isHash⟩, isPlace⟩
    exact ⟨occurrence, member, kept, isKept, isHash, isPlace⟩
  · rintro ⟨occurrence, member, kept, isKept, isHash, isPlace⟩
    exact ⟨kept, ⟨⟨occurrence, member, isKept⟩, isHash⟩, isPlace⟩

/-! ## Preparing a repository -/

namespace Workspace

variable {workspace : Workspace} {id : HandleId}

theorem initializeRepository_of_idleOn
    {tables tablesAfter : Tables} (idle : (workspace.handle id).IdleOn tables)
    (executes : Executes Tables.createRepository tables tablesAfter) :
    ∃ after,
      (initializeRepository id).run.run workspace = (.ok (), after) ∧
        after.stores.repositoryHandle = some id ∧ (after.handle id).IdleOn tablesAfter := by
  have idleTaken : ((workspace.withRepository id).handle id).IdleOn tables := idle
  obtain ⟨handle, scriptRan, idleAfter⟩ := idleTaken.runScript_of_executes executes
  rw [← handle_setHandle_self idleTaken handle] at idleAfter
  exact ⟨_, Recording.initialize_ran (withRepository · id) _ scriptRan, rfl, idleAfter⟩

theorem attachRepository_of_idleOn
    {tables : Tables} {repositoryTables : RepositoryTables}
    (idle : (workspace.handle id).IdleOn tables)
    (isRepository : tables.repositoryTables = some repositoryTables)
    (whole : repositoryTables.gaps = []) :
    ∃ after,
      (attachRepository id).run.run workspace = (.ok (), after) ∧
        after.stores.repositoryHandle = some id ∧ after.handle id = workspace.handle id := by
  have noneMissing : ∀ name ∈ RepositoryTables.names, .table name ∉ repositoryTables.gaps := by
    rw [whole]
    exact fun _ _ => List.not_mem_nil
  have hasTables : (workspace.handle id).HasTables RepositoryTables.names := by
    obtain ⟨path, dirty, lastKey, isIdle⟩ := idle
    rw [isIdle]
    refine ⟨tables, rfl, ?_⟩
    intro name member
    exact Tables.repositoryNames_subset isRepository noneMissing member
  refine ⟨(workspace.noted "CentralRepository attached").withRepository id, ?_, rfl, rfl⟩
  rw [attachRepository, run_bind_of_ok (checkRepository_of_hasTables hasTables)]
  rfl

end Workspace

/-! ## Calls of a central repository -/

/-- A call of a central repository. -/
inductive RepositoryCall where
  | prepare
  | attach
  | typeById (typeId : Number)
  | count (type : CorrelationType) (text : String)
  | add (occurrence : NewOccurrence)
  deriving DecidableEq

namespace RepositoryCall

/-- What the call does, for a repository on the database of a handle. -/
def step (id : HandleId) : RepositoryCall → WorkspaceM Unit
  | .prepare => Workspace.initializeRepository id
  | .attach => Workspace.attachRepository id
  | .typeById typeId => do
      let workspace ← get
      let _ ← Workspace.onRepository workspace.stores (RepositoryStore.typeById typeId)
  | .count type text => do
      let workspace ← get
      let _ ← Workspace.ofStorage (workspace.countOccurrences workspace.stores type text)
  | .add occurrence => do
      let workspace ← get
      Workspace.onRepository workspace.stores
        (RepositoryStore.addOccurrence occurrence.caseId occurrence.sourceId occurrence.hash
          occurrence.path)

/-- What is entered if the call succeeds. -/
def entry : RepositoryCall → Ledger → Unit → Ledger
  | .add occurrence => Ledger.addOccurrence occurrence
  | _ => fun ledger _ => ledger

end RepositoryCall

namespace Recording

variable {workspace : Workspace} {id : HandleId} {recording : Recording}

/-- Make a call of the repository. -/
def afterRepository (id : HandleId) (recording : Recording) (call : RepositoryCall) : Recording :=
  recording.enter (call.step id) call.entry

/-- What is recorded of calls of a repository that was prepared for them. -/
def ofRepositoryCalls (workspace : Workspace) (id : HandleId) (calls : List RepositoryCall) :
    Recording :=
  (.prepare :: calls).foldl (afterRepository id) ⟨workspace, {}⟩

/-- What the repository answers to the question in how many pairs of a case and a data source a
value was seen. -/
def count (recording : Recording) (type : CorrelationType) (text : String) :
    Except StorageError Nat :=
  recording.workspace.countOccurrences recording.workspace.stores type text

/-- The repository works on the handle, and the tables there hold what the ledger says. -/
structure HoldsRepository (id : HandleId) (recording : Recording) : Prop where
  store : recording.workspace.stores.repositoryHandle = some id
  tables :
    ∃ tables repositoryTables,
      (recording.workspace.handle id).IdleOn tables ∧
        tables.repositoryTables = some repositoryTables ∧
        recording.ledger.InRepository repositoryTables

theorem enter_of_run
    {step : WorkspaceM Unit} {add : Ledger → Unit → Ledger} {outcome : Except WorkspaceError Unit}
    {after : Workspace} (stepped : step.run.run recording.workspace = (outcome, after)) :
    recording.enter step add = ⟨after, recording.ledger.enter add outcome⟩ := by
  rw [enter, stepped]

theorem enter_of_unchanged
    {step : WorkspaceM Unit}
    (unchanged : (step.run.run recording.workspace).2 = recording.workspace) :
    recording.enter step (fun ledger _ => ledger) = recording := by
  have sameLedger (outcome : Except WorkspaceError Unit) :
      recording.ledger.enter (fun ledger _ => ledger) outcome = recording.ledger := by
    cases outcome <;> rfl
  rw [enter_of_run (Prod.mk.eta (p := step.run.run recording.workspace)).symm, unchanged,
    sameLedger]

/-! ## Histories of a repository -/

/-- Once the repository is prepared on a database that was new to it, nothing is added yet. -/
theorem holdsRepository_prepare
    {side : Tables} (idle : (workspace.handle id).IdleOn side)
    (isNew : side.repositoryTables = none) :
    (afterRepository id ⟨workspace, {}⟩ .prepare).HoldsRepository id ∧
      (afterRepository id ⟨workspace, {}⟩ .prepare).ledger.occurrences = [] := by
  obtain ⟨after, ran, isStore, idleAfter⟩ :=
    Workspace.initializeRepository_of_idleOn idle (Tables.createRepository_of_none isNew)
  rw [afterRepository, RepositoryCall.step, enter_of_run ran]
  exact ⟨⟨isStore, _, _, idleAfter, rfl, Ledger.inRepository_empty⟩, rfl⟩

/-- Preparing or attaching the repository again gives it its handle, whose tables stay. -/
theorem HoldsRepository.prepare
    {call : RepositoryCall} (holds : recording.HoldsRepository id)
    (prepares : call = .prepare ∨ call = .attach) :
    ∃ after,
      (call.step id).run.run recording.workspace = (.ok (), after) ∧
        recording.afterRepository id call = ⟨after, recording.ledger⟩ ∧
        HoldsRepository id ⟨after, recording.ledger⟩ := by
  obtain ⟨tables, repositoryTables, idle, isRepository, inRepository⟩ := holds.tables
  rcases prepares with rfl | rfl
  · obtain ⟨after, ran, isStore, idleAfter⟩ :=
      Workspace.initializeRepository_of_idleOn idle (Tables.createRepository_of_whole isRepository
        inRepository.whole (inRepository.types ▸ List.mem_cons_self))
    exact
      ⟨after, ran, enter_of_run ran, isStore, tables, repositoryTables, idleAfter, isRepository,
        inRepository⟩
  · obtain ⟨after, ran, isStore, sameHandle⟩ :=
      Workspace.attachRepository_of_idleOn idle isRepository inRepository.whole
    rw [← sameHandle] at idle
    exact
      ⟨after, ran, enter_of_run ran, isStore, tables, repositoryTables, idle, isRepository,
        inRepository⟩

theorem HoldsRepository.add_malformed
    {occurrence : NewOccurrence} {error : StorageError} (holds : recording.HoldsRepository id)
    (malformed : normalizeHash occurrence.hash = .error error) :
    (RepositoryCall.step id (.add occurrence)).run.run recording.workspace =
        (.error (.storage error), recording.workspace) ∧
      recording.afterRepository id (.add occurrence) = recording := by
  have ran :
      (RepositoryCall.step id (.add occurrence)).run.run recording.workspace =
        (.error (.storage error), recording.workspace) := by
    rw [RepositoryCall.step, run_get_bind,
      Workspace.onRepository_of_some holds.store,
      Workspace.onHandle_of_read (addOccurrence_of_malformed malformed _)]
    rfl
  exact ⟨ran, enter_of_run ran⟩

theorem HoldsRepository.add
    {occurrence : NewOccurrence} {hash : String} (holds : recording.HoldsRepository id)
    (normal : normalizeHash occurrence.hash = .ok hash) :
    (recording.afterRepository id (.add occurrence)).HoldsRepository id ∧
      (recording.afterRepository id (.add occurrence)).ledger =
        recording.ledger.addOccurrence occurrence () := by
  obtain ⟨tables, repositoryTables, idle, isRepository, inRepository⟩ := holds.tables
  obtain ⟨outcome, after, repositoryAfter, stepped, idleAfter, inRepositoryAfter⟩ :=
    keepsRepository_addOccurrence occurrence idle isRepository inRepository
  obtain ⟨_, ran, _⟩ := addOccurrence_of_idleOn idle isRepository inRepository.whole normal
  obtain rfl : outcome = .ok () := congrArg Prod.fst (stepped.symm.trans ran)
  have addRan :
      (RepositoryCall.step id (.add occurrence)).run.run recording.workspace =
        (.ok (), recording.workspace.setHandle id after) := by
    rw [RepositoryCall.step, run_get_bind,
      Workspace.onRepository_of_some holds.store, Workspace.onHandle_of_ok stepped]
  have entered :
      recording.afterRepository id (.add occurrence) =
        ⟨recording.workspace.setHandle id after, recording.ledger.addOccurrence occurrence ()⟩ :=
    enter_of_run addRan
  rw [entered]
  refine
    ⟨⟨holds.store, { tables with repositoryTables := some repositoryAfter }, repositoryAfter, ?_,
      rfl, inRepositoryAfter⟩, rfl⟩
  rw [Workspace.handle_setHandle_self idle]
  exact idleAfter

theorem HoldsRepository.typeById (holds : recording.HoldsRepository id) (typeId : Number) :
    recording.afterRepository id (.typeById typeId) = recording := by
  apply enter_of_unchanged
  rw [RepositoryCall.step, run_get_bind,
    Workspace.onRepository_of_some holds.store, RepositoryStore.typeById, run_discard,
    Workspace.onHandle_of_read (run_query _ _)]

theorem afterRepository_count
    (recording : Recording) (id : HandleId) (type : CorrelationType) (text : String) :
    recording.afterRepository id (.count type text) = recording := by
  apply enter_of_unchanged
  rw [RepositoryCall.step, run_get_bind, run_discard,
    Workspace.run_ofStorage]

/-- The call adds the occurrence, and it succeeds. -/
def Adds (call : RepositoryCall) (occurrence : NewOccurrence) : Prop :=
  call = .add occurrence ∧ ∃ hash, normalizeHash occurrence.hash = .ok hash

/-- A call keeps the tables in agreement with the ledger, which grows by what it adds. -/
theorem HoldsRepository.after
    (holds : recording.HoldsRepository id) (call : RepositoryCall) :
    (recording.afterRepository id call).HoldsRepository id ∧
      ∀ occurrence, occurrence ∈ (recording.afterRepository id call).ledger.occurrences ↔
        occurrence ∈ recording.ledger.occurrences ∨ Adds call occurrence := by
  have unchanged {after : Recording} (holdsAfter : after.HoldsRepository id)
      (sameLedger : after.ledger = recording.ledger) (addsNothing : ∀ added, ¬ Adds call added) :
      after.HoldsRepository id ∧
        ∀ occurrence, occurrence ∈ after.ledger.occurrences ↔
          occurrence ∈ recording.ledger.occurrences ∨ Adds call occurrence := by
    refine ⟨holdsAfter, fun occurrence => ?_⟩
    rw [sameLedger, or_iff_left (addsNothing occurrence)]
  cases call with
  | prepare =>
      obtain ⟨after, _, same, holdsAfter⟩ := holds.prepare (Or.inl rfl)
      rw [same]
      exact unchanged holdsAfter rfl fun _ adds => nomatch adds.1
  | attach =>
      obtain ⟨after, _, same, holdsAfter⟩ := holds.prepare (Or.inr rfl)
      rw [same]
      exact unchanged holdsAfter rfl fun _ adds => nomatch adds.1
  | typeById typeId =>
      rw [holds.typeById]
      exact unchanged holds rfl fun _ adds => nomatch adds.1
  | count type text =>
      rw [afterRepository_count]
      exact unchanged holds rfl fun _ adds => nomatch adds.1
  | add occurrence =>
      cases normal : normalizeHash occurrence.hash with
      | error error =>
          -- the call fails, so nothing is entered
          rw [(holds.add_malformed normal).2]
          apply unchanged holds rfl
          rintro added ⟨same, hash, isHash⟩
          obtain rfl := RepositoryCall.add.inj same
          rw [normal] at isHash
          cases isHash
      | ok hash =>
          obtain ⟨holdsAfter, sameLedger⟩ := holds.add normal
          refine ⟨holdsAfter, fun added => ?_⟩
          have addsOnly : Adds (.add occurrence) added ↔ added = occurrence := by
            constructor
            · rintro ⟨same, _⟩
              exact (RepositoryCall.add.inj same).symm
            · rintro rfl
              exact ⟨rfl, hash, normal⟩
          rw [sameLedger, addsOnly, Ledger.addOccurrence, List.mem_append, List.mem_singleton]

theorem HoldsRepository.run
    (holds : recording.HoldsRepository id) (calls : List RepositoryCall) :
    (calls.foldl (afterRepository id) recording).HoldsRepository id ∧
      ∀ occurrence, occurrence ∈ (calls.foldl (afterRepository id) recording).ledger.occurrences ↔
        occurrence ∈ recording.ledger.occurrences ∨ ∃ call ∈ calls, Adds call occurrence := by
  -- each call starts from a recording that holds, with what was entered before it
  induction calls generalizing recording with
  | nil =>
      exact ⟨holds, fun occurrence => by simp⟩
  | cons call calls inductionHypothesis =>
      obtain ⟨holdsAfter, added⟩ := holds.after call
      obtain ⟨holdsLater, addedLater⟩ := inductionHypothesis holdsAfter
      refine ⟨holdsLater, fun occurrence => ?_⟩
      rw [List.foldl_cons, addedLater, added, or_assoc]
      simp only [List.mem_cons, exists_eq_or_imp]

section Histories

variable {side : Tables} (idle : (workspace.handle id).IdleOn side)
  (isNew : side.repositoryTables = none) (calls : List RepositoryCall)
include idle isNew

theorem holdsRepository_ofRepositoryCalls :
    (ofRepositoryCalls workspace id calls).HoldsRepository id :=
  ((holdsRepository_prepare idle isNew).1.run calls).1

theorem mem_occurrences_ofRepositoryCalls {occurrence : NewOccurrence} :
    occurrence ∈ (ofRepositoryCalls workspace id calls).ledger.occurrences ↔
      .add occurrence ∈ calls ∧ ∃ hash, normalizeHash occurrence.hash = .ok hash := by
  obtain ⟨holds, nothing⟩ := holdsRepository_prepare idle isNew
  rw [ofRepositoryCalls, List.foldl_cons, (holds.run calls).2, nothing]
  simp only [List.not_mem_nil, false_or, Adds]
  constructor
  · rintro ⟨call, member, rfl, isHash⟩
    exact ⟨member, isHash⟩
  · rintro ⟨member, isHash⟩
    exact ⟨_, member, rfl, isHash⟩

theorem mem_places_ofRepositoryCalls {hash : String} {place : Number × Number} :
    place ∈ (ofRepositoryCalls workspace id calls).ledger.places hash ↔
      ∃ occurrence, .add occurrence ∈ calls ∧ occurrence.IsSeen hash place := by
  rw [Ledger.mem_places_iff]
  constructor
  · rintro ⟨occurrence, member, isSeen⟩
    exact ⟨occurrence, ((mem_occurrences_ofRepositoryCalls idle isNew calls).mp member).1, isSeen⟩
  · rintro ⟨occurrence, member, isSeen⟩
    have isHash : ∃ hash, normalizeHash occurrence.hash = .ok hash := ⟨_, isSeen.hash⟩
    exact
      ⟨occurrence, (mem_occurrences_ofRepositoryCalls idle isNew calls).mpr ⟨member, isHash⟩,
        isSeen⟩

end Histories

theorem HoldsRepository.count
    {type : CorrelationType} {text hash : String} (holds : recording.HoldsRepository id)
    (isFiles : type.id = CorrelationType.files.id) (normal : normalizeHash text = .ok hash) :
    recording.count type text = .ok (recording.ledger.places hash).card := by
  obtain ⟨tables, repositoryTables, idle, isRepository, inRepository⟩ := holds.tables
  have isSupported : RepositoryStore.checkType type = .ok () := by
    rw [RepositoryStore.checkType, isFiles]
    rfl
  rw [Recording.count, Workspace.countOccurrences_of_supported isSupported holds.store,
    Workspace.readHandle, count_of_idleOn idle isRepository inRepository.whole normal,
    inRepository.length_places]

/-! ## Exact counts -/

/-- What is counted for a hash after calls of a repository. -/
structure CountsExactly
    (workspace : Workspace) (id : HandleId) (calls : List RepositoryCall) (type : CorrelationType)
    (text hash : String) : Prop where
  /-- The number of pairs in which a call that succeeded added the hash. -/
  counted :
    ∃ places : Finset (Number × Number),
      (ofRepositoryCalls workspace id calls).count type text = .ok places.card ∧
        ∀ place, place ∈ places ↔
          ∃ occurrence ∈ (ofRepositoryCalls workspace id calls).ledger.occurrences,
            occurrence.IsSeen hash place
  /-- The case of the letters and blanks around the digits do not matter. -/
  spelled : ∀ other, Spells other hash → normalizeHash other = .ok hash
  /-- Neither do the order of the calls, their repetition, their paths and their spelling. -/
  settled :
    ∀ others spelling, normalizeHash spelling = .ok hash →
      (∀ place,
        (∃ occurrence, .add occurrence ∈ others ∧ occurrence.IsSeen hash place) ↔
          ∃ occurrence, .add occurrence ∈ calls ∧ occurrence.IsSeen hash place) →
        (ofRepositoryCalls workspace id others).count type spelling =
          (ofRepositoryCalls workspace id calls).count type text
  /-- A malformed hash makes its call fail, and whatever comes later is as if it was not made. -/
  malformed :
    ∀ occurrence error, normalizeHash occurrence.hash = .error error →
      (((RepositoryCall.add occurrence).step id).run.run
            (ofRepositoryCalls workspace id calls).workspace).1 =
          .error (.storage (.malformedHash occurrence.hash)) ∧
        ∀ later,
          ofRepositoryCalls workspace id (calls ++ .add occurrence :: later) =
            ofRepositoryCalls workspace id (calls ++ later)
  /-- The repository can be prepared and attached again, and no later count changes by it. -/
  prepared :
    ∀ call, call = .prepare ∨ call = .attach →
      ((call.step id).run.run (ofRepositoryCalls workspace id calls).workspace).1 = .ok () ∧
        ∀ later,
          (ofRepositoryCalls workspace id (calls ++ call :: later)).count type text =
            (ofRepositoryCalls workspace id (calls ++ later)).count type text

theorem ofRepositoryCalls_append_cons
    (calls later : List RepositoryCall) (call : RepositoryCall) :
    ofRepositoryCalls workspace id (calls ++ call :: later) =
      later.foldl (afterRepository id)
        ((ofRepositoryCalls workspace id calls).afterRepository id call) := by
  rw [ofRepositoryCalls, ← List.cons_append, List.foldl_append, List.foldl_cons]
  rfl

theorem ofRepositoryCalls_append (calls later : List RepositoryCall) :
    ofRepositoryCalls workspace id (calls ++ later) =
      later.foldl (afterRepository id) (ofRepositoryCalls workspace id calls) := by
  rw [ofRepositoryCalls, ← List.cons_append, List.foldl_append]
  rfl

section Histories

variable {side : Tables} {type : CorrelationType} {text hash : String}
  (idle : (workspace.handle id).IdleOn side) (isNew : side.repositoryTables = none)
  (isFiles : type.id = CorrelationType.files.id) (normal : normalizeHash text = .ok hash)
include idle isNew isFiles normal

theorem count_ofRepositoryCalls_congr
    {calls others : List RepositoryCall} {spelling : String}
    (sameHash : normalizeHash spelling = .ok hash)
    (sameAdds :
      ∀ place,
        (∃ occurrence, .add occurrence ∈ others ∧ occurrence.IsSeen hash place) ↔
          ∃ occurrence, .add occurrence ∈ calls ∧ occurrence.IsSeen hash place) :
    (ofRepositoryCalls workspace id others).count type spelling =
      (ofRepositoryCalls workspace id calls).count type text := by
  have samePlaces :
      (ofRepositoryCalls workspace id others).ledger.places hash =
        (ofRepositoryCalls workspace id calls).ledger.places hash := by
    ext place
    rw [mem_places_ofRepositoryCalls idle isNew others,
      mem_places_ofRepositoryCalls idle isNew calls, sameAdds]
  rw [(holdsRepository_ofRepositoryCalls idle isNew others).count isFiles sameHash,
    (holdsRepository_ofRepositoryCalls idle isNew calls).count isFiles normal, samePlaces]

/-- After any calls of a repository that was prepared on a database that was new to it, the count
of a hash is the number of pairs of a case and a data source in which it was added. -/
theorem ofRepositoryCalls_counts (calls : List RepositoryCall) :
    CountsExactly workspace id calls type text hash := by
  have holds := holdsRepository_ofRepositoryCalls idle isNew calls
  refine ⟨?counted, ?spelled, ?settled, ?malformed, ?prepared⟩
  case counted =>
    exact ⟨_, holds.count isFiles normal, fun place => Ledger.mem_places_iff⟩
  case spelled =>
    exact fun other spells => normalizeHash_of_spells normal spells
  case settled =>
    intro others spelling sameHash sameAdds
    exact count_ofRepositoryCalls_congr idle isNew isFiles normal sameHash sameAdds
  case malformed =>
    intro occurrence error malformed
    obtain rfl := eq_malformedHash malformed
    obtain ⟨failed, unchanged⟩ := holds.add_malformed malformed
    refine ⟨by rw [failed], fun later => ?_⟩
    rw [ofRepositoryCalls_append_cons, unchanged, ofRepositoryCalls_append]
  case prepared =>
    intro call prepares
    obtain ⟨after, ran, _⟩ := holds.prepare prepares
    refine ⟨by rw [ran], fun later => ?_⟩
    have addsNothing (occurrence : NewOccurrence) : .add occurrence ≠ call := by
      rcases prepares with rfl | rfl <;> exact nofun
    apply count_ofRepositoryCalls_congr idle isNew isFiles normal normal
    intro place
    simp only [List.mem_append, List.mem_cons, addsNothing, false_or]

end Histories

/-- A new database in memory. -/
def newDatabase : Workspace :=
  { handles := [.inMemory] }

/-- The hash of no bytes. -/
def hashOfNothing : String := "d41d8cd98f00b204e9800998ecf8427e"

/-- Two pairs in which one hash is seen, one of them twice, and a text that is no hash. -/
def spelledCalls : List RepositoryCall :=
  [.add ⟨some (.finite 1), some (.finite 1), hashOfNothing, some "/a"⟩, .prepare,
    .add ⟨some (.finite 1), some (.finite 1), " D41D8CD98F00B204E9800998ECF8427E\n", some "/b"⟩,
    .add ⟨some (.finite 3), some (.finite 1), "xyz", some "/a"⟩, .attach,
    .add ⟨some (.finite 2), some (.finite 1), hashOfNothing, some "/a"⟩]

theorem spelledCalls_counted :
    (ofRepositoryCalls newDatabase 0 spelledCalls).count CorrelationType.files
          "D41D8cd98f00b204e9800998ecf8427e" =
        .ok 2 ∧
      CountsExactly newDatabase 0 spelledCalls CorrelationType.files
        "D41D8cd98f00b204e9800998ecf8427e" hashOfNothing := by
  have idle : (newDatabase.handle 0).IdleOn .empty := ⟨none, false, 0, rfl⟩
  have normal : normalizeHash "D41D8cd98f00b204e9800998ecf8427e" = .ok hashOfNothing := by
    decide +kernel
  exact ⟨by decide +kernel, ofRepositoryCalls_counts idle rfl rfl normal spelledCalls⟩

end Recording
end EvidenceSearch
