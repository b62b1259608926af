import EvidenceSearch.Proofs.Search.Stages

/-!
# Lookups that overlap

The lookups of a stage start in the order of the files, as many at once as the pool admits, and
those under way finish in any order. A file without a hash takes its place in the pool as well, but
the repository is asked nothing for it. The first failure is the one that counts: once it is
noticed, the lookups that still wait are dropped and the stage fails.

Whatever the order is, every run comes to an end. If no count fails, all runs end alike; if some
count fails, no run ends with files.
-/

namespace EvidenceSearch

/-! ## Files that are counted -/

namespace ResultFile

/-- The file with the frequency of its count; without a hash it stays as it is. -/
def counted (thresholds : Thresholds) (count : String → Number) (result : ResultFile) :
    ResultFile :=
  match result.file.hash? with
  | none => result
  | some hash => { result with frequency := thresholds.bucket (count hash) }

theorem lookUp_eq_counted
    {repository : Repository} {thresholds : Thresholds} {type : CorrelationType}
    {count : String → Number} {result : ResultFile}
    (counts : ∀ hash, result.file.hash? = some hash →
      repository.count type hash = .ok (count hash)) :
    result.lookUp repository thresholds type = .ok (result.counted thresholds count) := by
  rw [lookUp, counted]
  cases hashed : result.file.hash? with
  | none =>
      rfl
  | some hash =>
      simp only [counts hash hashed]
      rfl

/-- Only a count can make a lookup fail. -/
theorem lookUp_eq_error_iff
    {repository : Repository} {type : CorrelationType} {cause : String}
    (thresholds : Thresholds) (result : ResultFile) :
    result.lookUp repository thresholds type = .error cause ↔
      ∃ hash, result.file.hash? = some hash ∧ repository.count type hash = .error cause := by
  rw [lookUp]
  cases hashed : result.file.hash? with
  | none =>
      simp
  | some hash =>
      cases answer : repository.count type hash with
      | error other =>
          simp [answer]
      | ok number =>
          simp [answer]

end ResultFile

/-! ## Stages under way -/

/-- How far the lookup of a file has come. -/
inductive LookupPhase where
  | waiting
  | underWay
  | settled
  | dropped
  deriving DecidableEq

/-- The lookup of one file: the file as it came and as it is by now, and what the repository was
asked for its sake. -/
structure Lookup where
  entered : ResultFile
  result : ResultFile
  phase : LookupPhase
  asked : List String
  deriving DecidableEq

namespace Lookup

/-- The lookup of a file that has not been started. -/
def ofFile (result : ResultFile) : Lookup :=
  ⟨result, result, .waiting, []⟩

/-- The lookup holds one of the places of the pool. -/
def holdsPlace (lookup : Lookup) : Bool :=
  lookup.phase = .underWay

/-- The repository has been asked and has not answered yet. -/
def inFlight (lookup : Lookup) : Bool :=
  lookup.holdsPlace && lookup.entered.file.hash?.isSome

def drop (lookup : Lookup) : Lookup :=
  if lookup.phase = .waiting then { lookup with phase := .dropped } else lookup

/-- What is left to do for a lookup: to start it, and to finish it. -/
@[simp]
def remaining (lookup : Lookup) : Nat :=
  match lookup.phase with
  | .waiting => 2
  | .underWay => 1
  | _ => 0

end Lookup

/-- The lookups of all files, the failure that came first, and how the stage ended, if it did. -/
structure Stage where
  lookups : List Lookup
  failed : Option String
  outcome : Option (Except Failure (List ResultFile))

namespace Stage

/-- Every lookup waits. -/
def start (results : List ResultFile) : Stage :=
  ⟨results.map Lookup.ofFile, none, none⟩

/-- How many questions the repository has not answered yet. -/
def inFlight (stage : Stage) : Nat :=
  stage.lookups.countP Lookup.inFlight

/-- What is left to do in a stage: its lookups, and to end it. -/
@[simp]
def remaining (stage : Stage) : Nat :=
  (stage.lookups.map Lookup.remaining).sum + if stage.outcome.isNone then 1 else 0

/-- What the repository was asked for the sake of each file. -/
def asked (stage : Stage) : List (List String) :=
  stage.lookups.map Lookup.asked

end Stage

/-- So many lookups may be under way at once. -/
def Pool.Admits (pool : Pool) (lookups : Nat) : Prop :=
  pool.together lookups = lookups

theorem Pool.Admits.of_le
    {pool : Pool} {lookups fewer : Nat} (admits : pool.Admits lookups) (le : fewer ≤ lookups) :
    pool.Admits fewer := by
  cases pool with
  | sized size =>
      simp only [Pool.Admits, Pool.together] at admits ⊢
      omega
  | unbounded =>
      rfl

theorem Pool.Admits.le_together
    {pool : Pool} {lookups all : Nat} (admits : pool.Admits lookups) (le : lookups ≤ all) :
    lookups ≤ pool.together all := by
  cases pool with
  | sized size =>
      simp only [Pool.Admits, Pool.together] at admits ⊢
      omega
  | unbounded =>
      exact le

/-- A pool always has a first place. -/
theorem Pool.admits_one
    {concurrency : Number} {pool : Pool} (isPool : Pool.ofConcurrency? concurrency = some pool) :
    pool.Admits 1 := by
  cases concurrency with
  | nan =>
      cases isPool
  | infinite negative =>
      cases negative <;>
        · obtain rfl := Option.some.inj isPool
          rfl
  | finite value =>
      obtain rfl := Option.some.inj isPool
      simp only [Pool.Admits, Pool.together]
      omega

/-- What a stage works with. -/
structure Enrichment where
  repository : Repository
  thresholds : Thresholds
  type : CorrelationType
  pool : Pool
  wanted : List Frequency

namespace Enrichment

/-- What the repository says about a file. -/
def lookUp (enrichment : Enrichment) (result : ResultFile) : Except String ResultFile :=
  result.lookUp enrichment.repository enrichment.thresholds enrichment.type

/-- One step of a stage. Lookups under way go on after the stage has failed, but none starts. -/
inductive Step (enrichment : Enrichment) : Stage → Stage → Prop
  /-- The first lookup that waits takes a free place, and the repository is asked. -/
  | start
      {before after : List Lookup} {result : ResultFile} {failed : Option String}
      (first : ∀ lookup ∈ before, lookup.phase ≠ .waiting)
      (free : enrichment.pool.Admits ((before ++ after).countP Lookup.holdsPlace + 1)) :
      Step enrichment ⟨before ++ .ofFile result :: after, failed, none⟩
        ⟨before ++ ⟨result, result, .underWay, result.file.hash?.toList⟩ :: after, failed, none⟩
  /-- One of the lookups under way finishes and gives its place back. -/
  | finish
      {before after : List Lookup} {entered result found : ResultFile} {asked : List String}
      {failed : Option String} {outcome : Option (Except Failure (List ResultFile))}
      (isFound : enrichment.lookUp result = .ok found) :
      Step enrichment ⟨before ++ ⟨entered, result, .underWay, asked⟩ :: after, failed, outcome⟩
        ⟨before ++ ⟨entered, found, .settled, asked⟩ :: after, failed, outcome⟩
  /-- One of the lookups under way fails and gives its place back. -/
  | fail
      {before after : List Lookup} {entered result : ResultFile} {asked : List String}
      {failed : Option String} {outcome : Option (Except Failure (List ResultFile))}
      {cause : String} (fails : enrichment.lookUp result = .error cause) :
      Step enrichment ⟨before ++ ⟨entered, result, .underWay, asked⟩ :: after, failed, outcome⟩
        ⟨before ++ ⟨entered, result, .settled, asked⟩ :: after, failed.or (some cause), outcome⟩
  /-- The failure is noticed. -/
  | reject {lookups : List Lookup} {cause : String} :
      Step enrichment ⟨lookups, some cause, none⟩
        ⟨lookups.map Lookup.drop, some cause, some (.error (.repositoryFailed cause))⟩
  /-- All lookups have finished and none has failed. -/
  | conclude {lookups : List Lookup} (all : ∀ lookup ∈ lookups, lookup.phase = .settled) :
      Step enrichment ⟨lookups, none, none⟩
        ⟨lookups, none,
          some (.ok (ResultFile.keepFrequencies enrichment.wanted (lookups.map Lookup.result)))⟩

/-- The stage can come about when some files are looked up. -/
def Reaches (enrichment : Enrichment) (results : List ResultFile) (stage : Stage) : Prop :=
  Relation.ReflTransGen enrichment.Step (.start results) stage

/-! ## What every step keeps -/

variable {enrichment : Enrichment} {results : List ResultFile} {stage next : Stage}

/-- What is known of a lookup, given the first failure and the way the stage ended. -/
def Tracks
    (enrichment : Enrichment) (failed : Option String)
    (outcome : Option (Except Failure (List ResultFile))) (lookup : Lookup) :
    Prop :=
  match lookup.phase with
  | .waiting => lookup.result = lookup.entered ∧ lookup.asked = []
  | .underWay =>
      lookup.result = lookup.entered ∧ lookup.asked = lookup.entered.file.hash?.toList
  | .settled =>
      lookup.asked = lookup.entered.file.hash?.toList ∧
        (enrichment.lookUp lookup.entered = .ok lookup.result ∨ failed ≠ none)
  | .dropped => outcome ≠ none

/-- How a stage may end: with the wanted files once all lookups have settled, or with the first
failure, and then none waits any more. -/
def EndsSoundly (enrichment : Enrichment) (stage : Stage) : Prop :=
  match stage.outcome with
  | none => True
  | some (.ok kept) =>
      stage.failed = none ∧ (∀ lookup ∈ stage.lookups, lookup.phase = .settled) ∧
        kept = ResultFile.keepFrequencies enrichment.wanted (stage.lookups.map Lookup.result)
  | some (.error failure) =>
      (∀ lookup ∈ stage.lookups, lookup.phase ≠ .waiting) ∧
        ∃ cause, stage.failed = some cause ∧ failure = .repositoryFailed cause

/-- What holds of every stage that can come about. -/
structure Sound (enrichment : Enrichment) (results : List ResultFile) (stage : Stage) : Prop where
  entered : stage.lookups.map Lookup.entered = results
  tracks : ∀ lookup ∈ stage.lookups, enrichment.Tracks stage.failed stage.outcome lookup
  failed : ∀ cause ∈ stage.failed, ∃ result ∈ results, enrichment.lookUp result = .error cause
  admitted : enrichment.pool.Admits (stage.lookups.countP Lookup.holdsPlace)
  ended : enrichment.EndsSoundly stage

theorem Tracks.later
    {failed failedLater : Option String}
    {outcome outcomeLater : Option (Except Failure (List ResultFile))} {lookup : Lookup}
    (tracks : enrichment.Tracks failed outcome lookup)
    (stillFailed : failed ≠ none → failedLater ≠ none)
    (stillEnded : outcome ≠ none → outcomeLater ≠ none) :
    enrichment.Tracks failedLater outcomeLater lookup := by
  unfold Tracks at tracks ⊢
  split at tracks
  · exact tracks
  · exact tracks
  · exact ⟨tracks.1, tracks.2.imp_right stillFailed⟩
  · exact stillEnded tracks

/-- Exchanging one lookup for another that was entered with the same file. -/
theorem Sound.exchange
    {before after : List Lookup} {lookup other : Lookup} {failed failedLater : Option String}
    {outcome : Option (Except Failure (List ResultFile))}
    (sound : enrichment.Sound results ⟨before ++ lookup :: after, failed, outcome⟩)
    (sameEntered : other.entered = lookup.entered)
    (tracks : enrichment.Tracks failedLater outcome other)
    (stillFailed : failed ≠ none → failedLater ≠ none)
    (causes : ∀ cause ∈ failedLater,
      ∃ result ∈ results, enrichment.lookUp result = .error cause)
    (admitted : enrichment.pool.Admits ((before ++ other :: after).countP Lookup.holdsPlace))
    (ended : enrichment.EndsSoundly ⟨before ++ other :: after, failedLater, outcome⟩) :
    enrichment.Sound results ⟨before ++ other :: after, failedLater, outcome⟩ := by
  have earlier := sound.tracks
  simp only [List.forall_mem_append, List.forall_mem_cons] at earlier
  refine ⟨?_, ?_, causes, admitted, ended⟩
  · rw [← sound.entered]
    simp [sameEntered]
  · simp only [List.forall_mem_append, List.forall_mem_cons]
    exact
      ⟨fun lookup member => (earlier.1 lookup member).later stillFailed id, tracks,
        fun lookup member => (earlier.2.2 lookup member).later stillFailed id⟩

/-- A lookup under way gives its place back and is settled. -/
theorem Sound.settle
    {before after : List Lookup} {entered result found : ResultFile} {asked : List String}
    {failed failedLater : Option String} {outcome : Option (Except Failure (List ResultFile))}
    (sound :
      enrichment.Sound results
        ⟨before ++ ⟨entered, result, .underWay, asked⟩ :: after, failed, outcome⟩)
    (settled : enrichment.lookUp result = .ok found ∨ failedLater ≠ none)
    (stillFailed : ∀ cause, failed = some cause → failedLater = some cause)
    (causes : ∀ cause ∈ failedLater,
      ∃ result ∈ results, enrichment.lookUp result = .error cause) :
    enrichment.Sound results
      ⟨before ++ ⟨entered, found, .settled, asked⟩ :: after, failedLater, outcome⟩ := by
  obtain ⟨same, isAsked⟩ :
      result = entered ∧ asked = entered.file.hash?.toList :=
    sound.tracks ⟨entered, result, .underWay, asked⟩ (by simp)
  have ended := sound.ended
  refine sound.exchange rfl ?_ ?_ causes ?_ ?_
  · rw [same] at settled
    exact ⟨isAsked, settled⟩
  · intro hasFailed
    obtain ⟨cause, isCause⟩ := Option.ne_none_iff_exists'.mp hasFailed
    rw [stillFailed cause isCause]
    exact Option.some_ne_none cause
  · refine sound.admitted.of_le ?_
    simp [Lookup.holdsPlace]
  · -- a stage that ended with files has no lookup under way
    cases outcome with
    | none =>
        trivial
    | some outcome =>
        cases outcome with
        | ok kept =>
            have underWay := ended.2.1 ⟨entered, result, .underWay, asked⟩ (by simp)
            cases underWay
        | error failure =>
            obtain ⟨noneWaits, cause, isCause, isFailure⟩ := ended
            refine ⟨?_, cause, stillFailed cause isCause, isFailure⟩
            simp only [List.forall_mem_append, List.forall_mem_cons] at noneWaits ⊢
            exact ⟨noneWaits.1, nofun, noneWaits.2.2⟩

theorem Tracks.drop
    {failed : Option String} {lookup : Lookup}
    (tracks : enrichment.Tracks failed none lookup) (failure : Failure) :
    enrichment.Tracks failed (some (.error failure)) lookup.drop := by
  have isSome : (some (.error failure) : Option (Except Failure (List ResultFile))) ≠ none :=
    Option.some_ne_none _
  rw [Lookup.drop]
  by_cases waits : lookup.phase = .waiting
  · rw [if_pos waits]
    exact isSome
  · rw [if_neg waits]
    exact tracks.later id fun _ => isSome

/-- Every step keeps what holds of a stage. -/
theorem Sound.step
    (sound : enrichment.Sound results stage) (step : enrichment.Step stage next) :
    enrichment.Sound results next := by
  cases step with
  | start first free =>
      refine sound.exchange rfl ⟨rfl, rfl⟩ id sound.failed ?_ trivial
      simpa [Lookup.holdsPlace, ← Nat.add_assoc] using free
  | finish isFound =>
      exact sound.settle (.inl isFound) (fun _ same => same) sound.failed
  | @fail before after entered result asked failed outcome cause fails =>
      have same : result = entered :=
        (sound.tracks ⟨entered, result, .underWay, asked⟩ (by simp)).1
      have isMember : result ∈ results := by
        rw [same, ← sound.entered]
        simp
      refine sound.settle (.inr ?_) ?_ ?_
      · cases failed <;> simp
      · rintro _ rfl
        rfl
      · intro first isFirst
        cases failed with
        | none =>
            obtain rfl := Option.some.inj isFirst
            exact ⟨result, isMember, fails⟩
        | some earlier =>
            obtain rfl := Option.some.inj isFirst
            exact sound.failed earlier rfl
  | @reject lookups cause =>
      have dropped : ∀ lookup : Lookup, lookup.drop.phase ≠ .waiting := by
        intro lookup
        by_cases waits : lookup.phase = .waiting <;> simp [Lookup.drop, waits]
      have samePlaces (lookup : Lookup) : lookup.drop.holdsPlace = lookup.holdsPlace := by
        by_cases waits : lookup.phase = .waiting <;> simp [Lookup.drop, Lookup.holdsPlace, waits]
      have sameEntered (lookup : Lookup) : lookup.drop.entered = lookup.entered := by
        by_cases waits : lookup.phase = .waiting <;> simp [Lookup.drop, waits]
      refine ⟨?_, ?_, sound.failed, ?_, ?_⟩
      · rw [← sound.entered]
        simp [sameEntered]
      · simp only [List.forall_mem_map]
        exact fun lookup member => (sound.tracks lookup member).drop _
      · have admitted := sound.admitted
        simpa [List.countP_map, Function.comp_def, samePlaces] using admitted
      · refine ⟨?_, cause, rfl, rfl⟩
        simp only [List.forall_mem_map]
        exact fun lookup _ => dropped lookup
  | conclude all =>
      refine ⟨sound.entered, ?_, sound.failed, sound.admitted, rfl, all, rfl⟩
      exact fun lookup member => (sound.tracks lookup member).later id nofun

theorem sound_start
    (results : List ResultFile) (admitsNone : enrichment.pool.Admits 0) :
    enrichment.Sound results (.start results) := by
  refine ⟨?_, ?_, nofun, ?_, trivial⟩
  · simp [Stage.start, Lookup.ofFile, Function.comp_def]
  · simp only [Stage.start, List.forall_mem_map]
    exact fun result _ => ⟨rfl, rfl⟩
  · simpa [Stage.start, List.countP_map, Function.comp_def, Lookup.ofFile, Lookup.holdsPlace]
      using admitsNone

theorem Reaches.sound
    (reaches : enrichment.Reaches results stage) (admitsOne : enrichment.pool.Admits 1) :
    enrichment.Sound results stage := by
  induction reaches with
  | refl =>
      exact sound_start results (admitsOne.of_le (Nat.zero_le 1))
  | tail _ step inductionHypothesis =>
      exact inductionHypothesis.step step

/-! ## Every run ends -/

theorem remaining_drop_le (lookups : List Lookup) :
    ((lookups.map Lookup.drop).map Lookup.remaining).sum ≤
      (lookups.map Lookup.remaining).sum := by
  rw [List.map_map]
  refine List.sum_le_sum fun lookup _ => ?_
  by_cases waits : lookup.phase = .waiting <;>
    simp [Lookup.drop, Lookup.remaining, waits]

theorem Step.remaining_lt (step : enrichment.Step stage next) :
    next.remaining < stage.remaining := by
  cases step with
  | start first free =>
      simp [Lookup.ofFile]
  | finish isFound =>
      simp
  | fail fails =>
      simp
  | @reject lookups cause =>
      have dropped := remaining_drop_le lookups
      rw [Stage.remaining, Stage.remaining]
      exact Nat.add_lt_add_of_le_of_lt dropped Nat.zero_lt_one
  | conclude all =>
      simp

/-- No run goes on for ever. -/
theorem wellFounded_step (enrichment : Enrichment) :
    WellFounded fun next stage => enrichment.Step stage next :=
  Subrelation.wf (fun step => step.remaining_lt) (measure Stage.remaining).wf

/-- If some lookup is in a phase, there is a first one. -/
theorem exists_first
    {lookups : List Lookup} {phase : LookupPhase}
    (anyIn : ∃ lookup ∈ lookups, lookup.phase = phase) :
    ∃ before lookup after,
      lookups = before ++ lookup :: after ∧ lookup.phase = phase ∧
        ∀ other ∈ before, other.phase ≠ phase := by
  obtain ⟨lookup, isFirst⟩ :
      ∃ lookup, (lookups.find? fun lookup => lookup.phase = phase) = some lookup := by
    rw [← Option.isSome_iff_exists, List.find?_isSome]
    simpa using anyIn
  obtain ⟨holds, before, after, isSplit, none⟩ := List.find?_eq_some_iff_append.mp isFirst
  refine ⟨before, lookup, after, isSplit, by simpa using holds, ?_⟩
  intro other member
  simpa using none other member

/-- A stage that has not ended can go on: it notices a failure, finishes a lookup, starts one or
returns. -/
theorem Sound.exists_step
    (sound : enrichment.Sound results stage) (admitsOne : enrichment.pool.Admits 1)
    (running : stage.outcome = none) :
    ∃ next, enrichment.Step stage next := by
  obtain ⟨lookups, failed, outcome⟩ := stage
  obtain rfl : outcome = none := running
  cases failed with
  | some cause =>
      exact ⟨_, .reject⟩
  | none =>
      by_cases anyUnderWay : ∃ lookup ∈ lookups, lookup.phase = .underWay
      · obtain ⟨before, ⟨entered, result, phase, asked⟩, after, rfl, rfl, _⟩ :=
          exists_first anyUnderWay
        cases answer : enrichment.lookUp result with
        | ok found =>
            exact ⟨_, .finish answer⟩
        | error cause =>
            exact ⟨_, .fail answer⟩
      · by_cases anyWaits : ∃ lookup ∈ lookups, lookup.phase = .waiting
        · obtain ⟨before, ⟨entered, result, phase, asked⟩, after, rfl, rfl, first⟩ :=
            exists_first anyWaits
          obtain ⟨rfl, rfl⟩ : result = entered ∧ asked = [] :=
            sound.tracks ⟨entered, result, .waiting, asked⟩ (by simp)
          refine ⟨_, .start first ?_⟩
          have noPlaces : (before ++ after).countP Lookup.holdsPlace = 0 := by
            rw [List.countP_eq_zero]
            intro lookup member holds
            refine anyUnderWay ⟨lookup, ?_, by simpa [Lookup.holdsPlace] using holds⟩
            rcases List.mem_append.mp member with isBefore | isAfter
            · exact List.mem_append_left _ isBefore
            · exact List.mem_append_right _ (List.mem_cons_of_mem _ isAfter)
          rw [noPlaces]
          exact admitsOne
        · refine ⟨_, .conclude ?_⟩
          intro lookup member
          have tracks := sound.tracks lookup member
          cases phase : lookup.phase with
          | waiting =>
              exact absurd ⟨lookup, member, phase⟩ anyWaits
          | underWay =>
              exact absurd ⟨lookup, member, phase⟩ anyUnderWay
          | settled =>
              rfl
          | dropped =>
              simp [Tracks, phase] at tracks

/-! ## How runs end -/

theorem Sound.lookups_eq
    {count : String → Number}
    (sound : enrichment.Sound results stage) (noFailure : stage.failed = none)
    (settled : ∀ lookup ∈ stage.lookups, lookup.phase = .settled)
    (counts : ∀ result ∈ results, ∀ hash, result.file.hash? = some hash →
      enrichment.repository.count enrichment.type hash = .ok (count hash)) :
    stage.lookups =
      results.map fun result =>
        ⟨result, result.counted enrichment.thresholds count, .settled,
          result.file.hash?.toList⟩ := by
  rw [← sound.entered, List.map_map]
  refine (List.map_id _).symm.trans (List.map_congr_left fun lookup member => ?_)
  have isEntered : lookup.entered ∈ results := by
    rw [← sound.entered]
    exact List.mem_map_of_mem member
  have isSettled := settled lookup member
  have tracks := sound.tracks lookup member
  obtain ⟨entered, result, phase, asked⟩ := lookup
  obtain rfl : phase = .settled := isSettled
  obtain ⟨isAsked, isFound | hasFailed⟩ := tracks
  · obtain rfl : asked = entered.file.hash?.toList := isAsked
    have isCounted : enrichment.lookUp entered = .ok _ :=
      ResultFile.lookUp_eq_counted (counts entered isEntered)
    obtain rfl := Except.ok.inj (isFound.symm.trans isCounted)
    rfl
  · exact absurd noFailure hasFailed

theorem Sound.inFlight_le
    (sound : enrichment.Sound results stage) :
    stage.inFlight ≤
      enrichment.pool.together (results.filterMap fun result => result.file.hash?).length := by
  have holdPlaces : stage.inFlight ≤ stage.lookups.countP Lookup.holdsPlace := by
    refine List.countP_mono_left fun lookup _ inFlight => ?_
    rw [Lookup.inFlight, Bool.and_eq_true] at inFlight
    exact inFlight.1
  have areHashed :
      stage.inFlight ≤ (results.filterMap fun result => result.file.hash?).length := by
    rw [List.length_filterMap_eq_countP, ← sound.entered, List.countP_map]
    refine List.countP_mono_left fun lookup _ inFlight => ?_
    rw [Lookup.inFlight, Bool.and_eq_true] at inFlight
    exact inFlight.2
  exact (sound.admitted.of_le holdPlaces).le_together areHashed

/-! ## One order of many -/

/-- The lookups of the files that are left, one after the other. -/
def lookUpAll (enrichment : Enrichment) (left : List ResultFile) :
    Except String (List ResultFile) :=
  ResultFile.lookUpAll enrichment.repository enrichment.thresholds enrichment.type left

@[simp]
theorem lookUpAll_cons (enrichment : Enrichment) (result : ResultFile) (left : List ResultFile) :
    enrichment.lookUpAll (result :: left) =
      (do
        let found ← enrichment.lookUp result
        return found :: (← enrichment.lookUpAll left)) :=
  rfl

/-- When all lookups that were started have finished, the first place is free for the next one. -/
theorem Step.start_next
    {done : List Lookup} (admitsOne : enrichment.pool.Admits 1)
    (settled : ∀ lookup ∈ done, lookup.phase = .settled) (result : ResultFile)
    (left : List ResultFile) :
    enrichment.Step ⟨done ++ .ofFile result :: left.map Lookup.ofFile, none, none⟩
      ⟨done ++ ⟨result, result, .underWay, result.file.hash?.toList⟩ :: left.map Lookup.ofFile,
        none, none⟩ := by
  have noneWaits : ∀ lookup ∈ done, lookup.phase ≠ .waiting := by
    intro lookup member
    rw [settled lookup member]
    exact nofun
  have noPlaces : (done ++ left.map Lookup.ofFile).countP Lookup.holdsPlace = 0 := by
    rw [List.countP_eq_zero, List.forall_mem_append, List.forall_mem_map]
    constructor
    · intro lookup member
      simp [Lookup.holdsPlace, settled lookup member]
    · intro waiting _
      simp [Lookup.ofFile, Lookup.holdsPlace]
  apply Step.start noneWaits
  rw [noPlaces]
  exact admitsOne

/-- Lookups may finish in the order of the files, each before the next one starts. Such a run ends
as looking all files up one after the other does. -/
theorem exists_run_in_order
    (enrichment : Enrichment) (admitsOne : enrichment.pool.Admits 1) (done : List Lookup)
    (settled : ∀ lookup ∈ done, lookup.phase = .settled) (left : List ResultFile) :
    ∃ stage,
      Relation.ReflTransGen enrichment.Step
          ⟨done ++ left.map Lookup.ofFile, none, none⟩ stage ∧
        stage.outcome =
          some
            (((enrichment.lookUpAll left).mapError Failure.repositoryFailed).map fun found =>
              ResultFile.keepFrequencies enrichment.wanted (done.map Lookup.result ++ found)) := by
  -- the lookups that are done stay in front of those that are left
  induction left generalizing done with
  | nil =>
      have all : ∀ lookup ∈ done ++ [], lookup.phase = .settled := by
        simpa using settled
      refine ⟨_, .single (.conclude all), ?_⟩
      simp [lookUpAll, ResultFile.lookUpAll, Except.mapError, Except.map]
  | cons result left inductionHypothesis =>
      have started := Step.start_next admitsOne settled result left
      rw [lookUpAll_cons]
      cases answer : enrichment.lookUp result with
      | error cause =>
          exact ⟨_, ((Relation.ReflTransGen.single started).tail (.fail answer)).tail .reject, rfl⟩
      | ok found =>
          let lookup : Lookup := ⟨result, found, .settled, result.file.hash?.toList⟩
          have settledStill : ∀ earlier ∈ done ++ [lookup], earlier.phase = .settled :=
            List.forall_mem_append.mpr ⟨settled, List.forall_mem_singleton.mpr rfl⟩
          obtain ⟨stage, run, outcome⟩ := inductionHypothesis (done ++ [lookup]) settledStill
          rw [List.append_assoc, List.singleton_append] at run
          refine ⟨stage, .head started (.head (.finish answer) run), ?_⟩
          rw [outcome]
          cases enrichment.lookUpAll left with
          | error cause =>
              rfl
          | ok others =>
              simp [lookup, pure, Except.pure, Except.mapError, Except.map]

/-- How a run ends if no count fails: all runs alike. -/
theorem Sound.outcome_eq_ok
    {count : String → Number} {outcome : Except Failure (List ResultFile)}
    (sound : enrichment.Sound results stage) (ended : stage.outcome = some outcome)
    (counts : ∀ result ∈ results, ∀ hash, result.file.hash? = some hash →
      enrichment.repository.count enrichment.type hash = .ok (count hash)) :
    stage.lookups =
        results.map (fun result =>
          ⟨result, result.counted enrichment.thresholds count, .settled,
            result.file.hash?.toList⟩) ∧
      outcome =
        .ok (ResultFile.keepFrequencies enrichment.wanted
          (results.map (ResultFile.counted enrichment.thresholds count))) := by
  have noFailure : stage.failed = none := by
    rw [Option.eq_none_iff_forall_not_mem]
    intro cause isCause
    obtain ⟨result, member, fails⟩ := sound.failed cause isCause
    rw [lookUp, ResultFile.lookUp_eq_counted (counts result member)] at fails
    cases fails
  have endsSoundly := sound.ended
  rw [EndsSoundly, ended] at endsSoundly
  cases outcome with
  | error failure =>
      obtain ⟨_, cause, hasFailed, _⟩ := endsSoundly
      cases noFailure.symm.trans hasFailed
  | ok kept =>
      obtain ⟨_, settled, rfl⟩ := endsSoundly
      have lookups := sound.lookups_eq noFailure settled counts
      refine ⟨lookups, ?_⟩
      rw [lookups, List.map_map]
      rfl

/-- How a run ends if some count fails: with a failure, and nothing starts afterwards. -/
theorem Sound.outcome_eq_error
    {outcome : Except Failure (List ResultFile)} {failing : ResultFile} {hash cause : String}
    (sound : enrichment.Sound results stage) (ended : stage.outcome = some outcome)
    (member : failing ∈ results) (hashed : failing.file.hash? = some hash)
    (fails : enrichment.repository.count enrichment.type hash = .error cause) :
    (∃ first ∈ results, ∃ hash cause,
        first.file.hash? = some hash ∧
          enrichment.repository.count enrichment.type hash = .error cause ∧
          outcome = .error (.repositoryFailed cause)) ∧
      ∀ lookup ∈ stage.lookups, lookup.phase ≠ .waiting := by
  have endsSoundly := sound.ended
  rw [EndsSoundly, ended] at endsSoundly
  cases outcome with
  | ok kept =>
      -- the lookup of the failing file would have settled without a failure
      obtain ⟨noFailure, settled, _⟩ := endsSoundly
      rw [← sound.entered] at member
      obtain ⟨lookup, isLookup, rfl⟩ := List.mem_map.mp member
      have tracks := sound.tracks lookup isLookup
      rw [Tracks, settled lookup isLookup, noFailure] at tracks
      have answer :=
        (ResultFile.lookUp_eq_error_iff enrichment.thresholds lookup.entered).mpr
          ⟨hash, hashed, fails⟩
      rcases tracks.2 with isFound | hasFailed
      · cases answer.symm.trans isFound
      · exact absurd rfl hasFailed
  | error failure =>
      obtain ⟨noneWaits, first, isFirst, rfl⟩ := endsSoundly
      obtain ⟨result, isResult, failed⟩ := sound.failed first isFirst
      obtain ⟨firstHash, isHash, isError⟩ := (ResultFile.lookUp_eq_error_iff _ result).mp failed
      exact ⟨⟨result, isResult, firstHash, first, isHash, isError, rfl⟩, noneWaits⟩

/-- Once a stage has ended it stays so, and the repository is asked nothing more. -/
theorem Step.after_end
    {outcome : Except Failure (List ResultFile)} (step : enrichment.Step stage next)
    (ended : stage.outcome = some outcome) :
    next.outcome = stage.outcome ∧ next.asked = stage.asked := by
  cases step with
  | start first free =>
      cases ended
  | finish isFound =>
      simp [Stage.asked]
  | fail fails =>
      simp [Stage.asked]
  | reject =>
      cases ended
  | conclude all =>
      cases ended

end Enrichment

/-! ## Every order agrees -/

open Enrichment ResultFile in
/-- Files are looked up in a pool of a given size, the lookups under way finishing in any order. So
many questions are never open at once that the pool would not admit them, every run comes to an end,
and one of the runs ends as the search does. If all counts are given, every run asks the repository
once for each file with a hash and never for another, gives each of these files the frequency of its
count, leaves the others as they were, and returns the files with a wanted frequency in their order.
If a count fails, every run fails with what the repository said of some file, and asks nothing
afterwards. -/
theorem every_order_agrees
    {repository : Repository} {options : SearchOptions} {type : CorrelationType}
    {results : List ResultFile} (wanted : List Frequency) (filled : results ≠ [])
    (isNumber : options.concurrency ≠ .nan)
    (isType : repository.typeById CorrelationType.filesId = .ok type) :
    ∃ enrichment : Enrichment,
      enrichment.repository = repository ∧ enrichment.thresholds = options.thresholds ∧
      enrichment.type = type ∧ enrichment.wanted = wanted ∧
      Pool.ofConcurrency? options.concurrency = some enrichment.pool ∧
      (WellFounded fun next stage => enrichment.Step stage next) ∧
      (∀ stage, enrichment.Reaches results stage →
        stage.inFlight ≤
            enrichment.pool.together
              (results.filterMap fun result => result.file.hash?).length ∧
          (stage.outcome = none → ∃ next, enrichment.Step stage next) ∧
          ∀ outcome, stage.outcome = some outcome →
            (∀ next, enrichment.Step stage next →
              next.outcome = some outcome ∧ next.asked = stage.asked) ∧
            (∀ count : String → Number,
              (∀ result ∈ results, ∀ hash, result.file.hash? = some hash →
                repository.count type hash = .ok (count hash)) →
              stage.asked = (results.map fun result => result.file.hash?.toList) ∧
                stage.lookups.map Lookup.result =
                  results.map (counted options.thresholds count) ∧
                outcome =
                  .ok (keepFrequencies wanted
                    (results.map (counted options.thresholds count)))) ∧
            ∀ failing ∈ results, ∀ hash cause,
              failing.file.hash? = some hash → repository.count type hash = .error cause →
                ∃ first ∈ results, ∃ hash cause,
                  first.file.hash? = some hash ∧ repository.count type hash = .error cause ∧
                    outcome = .error (.repositoryFailed cause)) ∧
      ∃ stage sorted,
        enrichment.Reaches results stage ∧
          (sortOut (some repository) options wanted results).Ends sorted ∧
          stage.outcome = some ((sorted.map Prod.snd).mapError StageError.toFailure) := by
  obtain ⟨pool, isPool⟩ := Pool.exists_ofConcurrency? isNumber
  have admitsOne : pool.Admits 1 := Pool.admits_one isPool
  refine
    ⟨⟨repository, options.thresholds, type, pool, wanted⟩, rfl, rfl, rfl, rfl, isPool,
      wellFounded_step _, ?_, ?_⟩
  · intro stage reaches
    have sound := reaches.sound admitsOne
    refine ⟨sound.inFlight_le, sound.exists_step admitsOne, fun outcome ended => ⟨?_, ?_, ?_⟩⟩
    · intro next step
      rw [← ended]
      exact step.after_end ended
    · intro count counts
      obtain ⟨lookups, isOutcome⟩ := sound.outcome_eq_ok ended counts
      refine ⟨?_, ?_, isOutcome⟩
      · rw [Stage.asked, lookups, List.map_map]
        rfl
      · rw [lookups, List.map_map]
        rfl
    · intro failing member hash cause hashed fails
      exact (sound.outcome_eq_error ended member hashed fails).1
  · obtain ⟨stage, run, outcome⟩ :=
      exists_run_in_order ⟨repository, options.thresholds, type, pool, wanted⟩ admitsOne []
        (fun _ member => absurd member List.not_mem_nil) results
    refine ⟨stage, _, run, sortOut_ends wanted filled isPool isType, ?_⟩
    rw [outcome]
    simp only [List.map_nil, List.nil_append, Enrichment.lookUpAll]
    cases ResultFile.lookUpAll repository options.thresholds type results with
    | error cause =>
        rfl
    | ok found =>
        rfl

/-- Two files with the same hash, a common one, and one without a hash that was rare before. -/
def repeatedResults : List ResultFile :=
  [⟨⟨.finite 1, "a", "/", .finite 5, .finite 1, none, some "a1"⟩, .unknown⟩,
    ⟨⟨.finite 2, "b", "/", .finite 5, .finite 1, none, some "b2"⟩, .rare⟩,
    ⟨⟨.finite 3, "c", "/", .finite 5, .finite 1, none, some ""⟩, .rare⟩,
    ⟨⟨.finite 4, "d", "/", .finite 5, .finite 1, none, some "a1"⟩, .common⟩]

/-- With two places for four files every order asks for the same hash twice, and the file without a
hash stays rare. -/
theorem every_order_keeps_rare_files :
    ∃ enrichment : Enrichment,
      enrichment.wanted = [.rare] ∧ enrichment.pool = .sized 2 ∧
      ∀ stage, enrichment.Reaches repeatedResults stage →
        stage.inFlight ≤ 2 ∧
          ∀ outcome, stage.outcome = some outcome →
            stage.asked = [["a1"], ["b2"], [], ["a1"]] ∧
              outcome =
                .ok
                  [⟨⟨.finite 1, "a", "/", .finite 5, .finite 1, none, some "a1"⟩, .rare⟩,
                    ⟨⟨.finite 3, "c", "/", .finite 5, .finite 1, none, some ""⟩, .rare⟩,
                    ⟨⟨.finite 4, "d", "/", .finite 5, .finite 1, none, some "a1"⟩, .rare⟩] := by
  have filled : repeatedResults ≠ [] := List.cons_ne_nil _ _
  have isNumber : (⟨.standard, .finite 2⟩ : SearchOptions).concurrency ≠ .nan := by decide
  have isType :
      (⟨fun id => .ok ⟨id, "Files", "file"⟩, fun _ hash => .ok (Search.mixedCount hash)⟩ :
          Repository).typeById CorrelationType.filesId =
        .ok ⟨CorrelationType.filesId, "Files", "file"⟩ :=
    rfl
  obtain ⟨enrichment, _, _, _, isWanted, isPool, _, reached, _⟩ :=
    every_order_agrees [.rare] filled isNumber isType
  have two : enrichment.pool = .sized 2 := by
    rw [← Option.some.inj isPool]
    decide +kernel
  refine ⟨enrichment, isWanted, two, fun stage reaches => ?_⟩
  obtain ⟨inFlight, _, ends⟩ := reached stage reaches
  rw [two] at inFlight
  refine ⟨inFlight, fun outcome ended => ?_⟩
  obtain ⟨_, counted, _⟩ := ends outcome ended
  obtain ⟨asked, _, isOutcome⟩ := counted Search.mixedCount fun _ _ _ _ => rfl
  refine ⟨asked, isOutcome.trans ?_⟩
  decide +kernel

end EvidenceSearch
