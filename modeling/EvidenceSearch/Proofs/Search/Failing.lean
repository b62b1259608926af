import EvidenceSearch.Proofs.Search.Stages

/-!
# How a search fails

A search is refused before it asks anything if it has no case store, if no filter asks that store
for anything, or if a filter by frequency has no central repository to ask. It fails if the case
store fails. After that only a filter by frequency can make it fail, and only if it has files to
look at: then the number of lookups at once must be a number, and the repository must know the type
of hashes and count every hash of the files. A search for which nothing of this holds finds files.
-/

namespace EvidenceSearch

/-- The repository counts the hash of a file, if the file has one. -/
def Repository.Counts
    (repository : Repository) (type : CorrelationType) (file : FileRecord) : Prop :=
  ∀ hash, file.hash? = some hash → ∃ number, repository.count type hash = .ok number

namespace Search

open ResultFile

/-! ## What can go wrong -/

/-- The case store found files, and a filter by frequency looks at them. -/
structure Enriched
    (filters : List Filter) (stores : SearchStores) (repository : Repository)
    (candidates : List FileRecord) :
    Prop where
  queried : Queried filters stores (.ok candidates)
  filled : candidates ≠ []
  wanting : ∃ filter ∈ filters, filter.isFrequency = true
  hasRepository : stores.repository = some repository

/-- Why a search fails, and what it reports then. Each reason supposes that none of the earlier
ones applies, so at most one does. -/
inductive Fails (filters : List Filter) (stores : SearchStores) (options : SearchOptions) :
    Report → Prop
  | noCase (noStore : stores.caseStore = none) :
      Fails filters stores options ⟨.invalidInput, "Case database is required", none⟩
  | nothingToAsk
      (hasStore : stores.caseStore ≠ none)
      (silent : ∀ filter ∈ filters, filter.isFrequency = true) :
      Fails filters stores options
        ⟨.invalidInput, "Selected filters do not include a case database query", none⟩
  | noRepository
      (hasStore : stores.caseStore ≠ none)
      (asking : ∃ filter ∈ filters, filter.isFrequency = false)
      (wanting : ∃ filter ∈ filters, filter.isFrequency = true)
      (noStore : stores.repository = none) :
      Fails filters stores options
        ⟨.misconfiguredFilter,
          "Frequency filter selected but no central repository is configured", none⟩
  | storeFailed {cause : String} (queried : Queried filters stores (.error cause)) :
      Fails filters stores options ⟨.storeFailure, "Error querying case database", some cause⟩
  | noNumber
      {repository : Repository} {candidates : List FileRecord}
      (enriched : Enriched filters stores repository candidates)
      (noNumber : options.concurrency = .nan) :
      Fails filters stores options
        ⟨.enrichmentFailure, "Error applying per-file filter",
          some "Expected `concurrency` to be a number from 1 and up"⟩
  | typeFailed
      {repository : Repository} {candidates : List FileRecord} {cause : String}
      (enriched : Enriched filters stores repository candidates)
      (isNumber : options.concurrency ≠ .nan)
      (fails : repository.typeById CorrelationType.filesId = .error cause) :
      Fails filters stores options
        ⟨.enrichmentFailure, "Error querying central repository", some cause⟩
  /-- The first file that can not be counted is the one that is reported. -/
  | countFailed
      {repository : Repository} {earlier later : List FileRecord} {file : FileRecord}
      {type : CorrelationType} {hash cause : String}
      (enriched : Enriched filters stores repository (earlier ++ file :: later))
      (isNumber : options.concurrency ≠ .nan)
      (isType : repository.typeById CorrelationType.filesId = .ok type)
      (counted : ∀ other ∈ earlier, repository.Counts type other)
      (hashed : file.hash? = some hash)
      (fails : repository.count type hash = .error cause) :
      Fails filters stores options
        ⟨.enrichmentFailure, "Error querying central repository", some cause⟩

variable {filters : List Filter} {stores : SearchStores} {options : SearchOptions}

/-! ## Searches that are refused -/

theorem run_noCase (noStore : stores.caseStore = none) (before : Trace) :
    (run filters stores options).run.run before = (.error .noCase, before) := by
  rw [run, noStore]
  rfl

theorem combinedClause_eq_error
    (silent : ∀ filter ∈ filters, filter.isFrequency = true) :
    Filter.combinedClause filters = .error .nothingToAsk := by
  have noTokens : filters.filterMap Filter.tokens? = [] := by
    rw [List.filterMap_eq_nil_iff]
    intro filter member
    have isFrequency := silent filter member
    cases filter with
    | frequency wanted =>
        rfl
    | _ =>
        cases isFrequency
  rw [Filter.combinedClause, noTokens]

theorem run_nothingToAsk
    (hasStore : stores.caseStore ≠ none)
    (silent : ∀ filter ∈ filters, filter.isFrequency = true) (before : Trace) :
    (run filters stores options).run.run before = (.error .nothingToAsk, before) := by
  obtain ⟨find, isStore⟩ := Option.ne_none_iff_exists'.mp hasStore
  rw [run, isStore, combinedClause_eq_error silent]
  rfl

theorem run_noRepository
    (hasStore : stores.caseStore ≠ none)
    (asking : ∃ filter ∈ filters, filter.isFrequency = false)
    (wanting : ∃ filter ∈ filters, filter.isFrequency = true)
    (noStore : stores.repository = none) (before : Trace) :
    (run filters stores options).run.run before = (.error .noRepository, before) := by
  obtain ⟨find, isStore⟩ := Option.ne_none_iff_exists'.mp hasStore
  have needed : Filter.needRepository filters = true := List.any_eq_true.mpr wanting
  rw [run, isStore, Filter.combinedClause_eq_ok asking, noStore, needed]
  rfl

/-- A search asks its case store unless it is refused. -/
theorem exists_queried
    (hasStore : stores.caseStore ≠ none)
    (asking : ∃ filter ∈ filters, filter.isFrequency = false)
    (equipped : (∃ filter ∈ filters, filter.isFrequency = true) → stores.repository ≠ none) :
    ∃ answer, Queried filters stores answer := by
  obtain ⟨find, isStore⟩ := Option.ne_none_iff_exists'.mp hasStore
  exact
    ⟨_, asking, equipped, find, _, isStore, Filter.combinedClause_eq_ok asking, rfl⟩

theorem applyFilters_of_silent
    {repository? : Option Repository}
    (noneWanting : ∀ filter ∈ filters, filter.isFrequency = false) (results : List ResultFile) :
    applyFilters repository? options filters results = pure results := by
  induction filters with
  | nil =>
      rfl
  | cons filter filters inductionHypothesis =>
      rw [applyFilters, noneWanting filter List.mem_cons_self]
      exact inductionHypothesis fun other member =>
        noneWanting other (List.mem_cons_of_mem filter member)

/-! ## Stages that fail -/

/-- If no stage can sort the files out, the first filter by frequency fails. -/
theorem applyFilters_ends_error
    {repository? : Option Repository} {results : List ResultFile} {error : StageError}
    (wanting : ∃ filter ∈ filters, filter.isFrequency = true)
    (fails : ∀ wanted, (sortOut repository? options wanted results).Ends (.error error)) :
    (applyFilters repository? options filters results).Ends (.error error.toFailure) := by
  induction filters with
  | nil =>
      simp at wanting
  | cons filter filters inductionHypothesis =>
      by_cases isFrequency : filter.isFrequency = true
      · cases filter with
        | frequency wanted =>
            rw [applyFilters, isFrequency, if_pos rfl]
            exact ((fails wanted.toList).adapt_error _).bind_error _
        | _ =>
            cases isFrequency
      · rw [applyFilters, if_neg isFrequency]
        apply inductionHypothesis
        obtain ⟨other, member, isOther⟩ := wanting
        rcases List.mem_cons.mp member with rfl | inOthers
        · exact absurd isOther isFrequency
        · exact ⟨other, inOthers, isOther⟩

theorem sortOut_ends_noPool
    {repository : Repository} {results : List ResultFile} (wanted : List Frequency)
    (filled : results ≠ []) (noNumber : options.concurrency = .nan) :
    (sortOut (some repository) options wanted results).Ends (.error .noPool) := by
  have notEmpty : results.isEmpty = false := by
    simpa using filled
  have noPool : Pool.ofConcurrency? options.concurrency = none := by
    rw [noNumber]
    rfl
  rw [sortOut, findFrequencies, notEmpty, noPool]
  exact (Traced.Ends.throw _).bind_error _

theorem sortOut_ends_typeFailed
    {repository : Repository} {results : List ResultFile} {cause : String}
    (wanted : List Frequency) (filled : results ≠ []) (isNumber : options.concurrency ≠ .nan)
    (fails : repository.typeById CorrelationType.filesId = .error cause) :
    (sortOut (some repository) options wanted results).Ends
      (.error (.failed (.repositoryFailed cause))) := by
  obtain ⟨pool, isPool⟩ := Pool.exists_ofConcurrency? isNumber
  have notEmpty : results.isEmpty = false := by
    simpa using filled
  rw [sortOut, findFrequencies, notEmpty, isPool, fails]
  apply Traced.Ends.bind_error
  exact Traced.Ends.bind (Traced.Yields.askedType _) (Traced.Ends.throw _)

theorem lookUpAll_eq_error
    {repository : Repository} {type : CorrelationType} {earlier later : List FileRecord}
    {file : FileRecord} {hash cause : String} (thresholds : Thresholds)
    (counted : ∀ other ∈ earlier, repository.Counts type other)
    (hashed : file.hash? = some hash) (fails : repository.count type hash = .error cause) :
    lookUpAll repository thresholds type ((earlier ++ file :: later).map ResultFile.ofRecord) =
      .error cause := by
  induction earlier with
  | nil =>
      have notFound :
          (ResultFile.ofRecord file).lookUp repository thresholds type = .error cause := by
        rw [lookUp, ResultFile.ofRecord, hashed]
        simp only [fails]
        rfl
      rw [List.nil_append, List.map_cons, lookUpAll, notFound]
      rfl
  | cons first earlier inductionHypothesis =>
      have isFound :
          ∃ found, (ResultFile.ofRecord first).lookUp repository thresholds type = .ok found := by
        rw [lookUp, ResultFile.ofRecord]
        cases hashedFirst : first.hash? with
        | none =>
            exact ⟨_, rfl⟩
        | some firstHash =>
            obtain ⟨number, isNumber⟩ := counted first List.mem_cons_self firstHash hashedFirst
            simp only [isNumber]
            exact ⟨_, rfl⟩
      obtain ⟨found, isFound⟩ := isFound
      have others := inductionHypothesis fun other member =>
        counted other (List.mem_cons_of_mem first member)
      rw [List.cons_append, List.map_cons, lookUpAll, isFound, others]
      rfl

theorem sortOut_ends_countFailed
    {repository : Repository} {type : CorrelationType} {earlier later : List FileRecord}
    {file : FileRecord} {hash cause : String} (wanted : List Frequency)
    (isNumber : options.concurrency ≠ .nan)
    (isType : repository.typeById CorrelationType.filesId = .ok type)
    (counted : ∀ other ∈ earlier, repository.Counts type other)
    (hashed : file.hash? = some hash) (fails : repository.count type hash = .error cause) :
    (sortOut (some repository) options wanted
        ((earlier ++ file :: later).map ResultFile.ofRecord)).Ends
      (.error (.failed (.repositoryFailed cause))) := by
  obtain ⟨pool, isPool⟩ := Pool.exists_ofConcurrency? isNumber
  have filled : (earlier ++ file :: later).map ResultFile.ofRecord ≠ [] := by simp
  have ends := sortOut_ends wanted filled isPool isType
  rw [lookUpAll_eq_error options.thresholds counted hashed fails] at ends
  exact ends

/-- A stage whose files can not be sorted out makes the search fail. -/
theorem Enriched.run_ends_error
    {repository : Repository} {candidates : List FileRecord} {error : StageError}
    (enriched : Enriched filters stores repository candidates)
    (fails : ∀ wanted,
      (sortOut (some repository) options wanted (candidates.map ResultFile.ofRecord)).Ends
        (.error error)) :
    (run filters stores options).Ends (.error error.toFailure) := by
  refine enriched.queried.run_ends ?_
  rw [continueWith_of_ne_nil enriched.filled, enriched.hasRepository]
  exact applyFilters_ends_error enriched.wanting fails

theorem Enriched.results_ne_nil
    {repository : Repository} {candidates : List FileRecord}
    (enriched : Enriched filters stores repository candidates) :
    candidates.map ResultFile.ofRecord ≠ [] := by
  have filled := enriched.filled
  simpa using filled

/-! ## Every failure has its reason -/

/-- Each reason makes the search fail with its report. -/
theorem Fails.run_ends
    {report : Report} (fails : Fails filters stores options report) :
    ∃ failure : Failure,
      failure.report = report ∧ (run filters stores options).Ends (.error failure) := by
  cases fails with
  | noCase noStore =>
      exact ⟨.noCase, rfl, fun before => ⟨before, run_noCase noStore before⟩⟩
  | nothingToAsk hasStore silent =>
      exact ⟨.nothingToAsk, rfl, fun before => ⟨before, run_nothingToAsk hasStore silent before⟩⟩
  | noRepository hasStore asking wanting noStore =>
      exact
        ⟨.noRepository, rfl,
          fun before => ⟨before, run_noRepository hasStore asking wanting noStore before⟩⟩
  | storeFailed queried =>
      exact ⟨.storeFailed _, rfl, queried.run_ends (Traced.Ends.throw _)⟩
  | noNumber enriched noNumber =>
      have ends := enriched.run_ends_error fun wanted =>
        sortOut_ends_noPool wanted enriched.results_ne_nil noNumber
      exact ⟨.stageFailed Pool.message, rfl, ends⟩
  | typeFailed enriched isNumber fails =>
      have ends := enriched.run_ends_error fun wanted =>
        sortOut_ends_typeFailed wanted enriched.results_ne_nil isNumber fails
      exact ⟨.repositoryFailed _, rfl, ends⟩
  | countFailed enriched isNumber isType counted hashed fails =>
      have ends := enriched.run_ends_error fun wanted =>
        sortOut_ends_countFailed wanted isNumber isType counted hashed fails
      exact ⟨.repositoryFailed _, rfl, ends⟩

/-- Either the repository counts every file, or there is a first one that it does not count. -/
theorem counts_or_first_failing
    (repository : Repository) (type : CorrelationType) (files : List FileRecord) :
    (∀ file ∈ files, repository.Counts type file) ∨
      ∃ earlier file later hash cause,
        files = earlier ++ file :: later ∧ (∀ other ∈ earlier, repository.Counts type other) ∧
          file.hash? = some hash ∧ repository.count type hash = .error cause := by
  induction files with
  | nil =>
      exact .inl (List.forall_mem_nil _)
  | cons file files inductionHypothesis =>
      by_cases counted : repository.Counts type file
      · rcases inductionHypothesis with
          all | ⟨earlier, failing, later, hash, cause, rfl, before, hashed, fails⟩
        · exact .inl (List.forall_mem_cons.mpr ⟨counted, all⟩)
        · exact
            .inr ⟨file :: earlier, failing, later, hash, cause, rfl,
              List.forall_mem_cons.mpr ⟨counted, before⟩, hashed, fails⟩
      · rw [Repository.Counts] at counted
        push Not at counted
        obtain ⟨hash, hashed, noNumber⟩ := counted
        cases answer : repository.count type hash with
        | ok number =>
            exact absurd answer (noNumber number)
        | error cause =>
            exact
              .inr ⟨[], file, files, hash, cause, rfl, List.forall_mem_nil _, hashed, answer⟩

/-- A repository that counts all files counts them by a function of the hash. -/
theorem exists_answers
    {repository : Repository} {type : CorrelationType} {files : List FileRecord}
    (isType : repository.typeById CorrelationType.filesId = .ok type)
    (counted : ∀ file ∈ files, repository.Counts type file) :
    ∃ count, repository.Answers count files := by
  have exists_number (hash : String) :
      ∃ number,
        (∃ file ∈ files, file.hash? = some hash) → repository.count type hash = .ok number := by
    by_cases hashed : ∃ file ∈ files, file.hash? = some hash
    · obtain ⟨file, member, isHash⟩ := hashed
      obtain ⟨number, isNumber⟩ := counted file member hash isHash
      exact ⟨number, fun _ => isNumber⟩
    · exact ⟨.nan, fun isHashed => absurd isHashed hashed⟩
  choose count counts using exists_number
  exact ⟨count, type, isType, fun file member hash hashed => counts hash ⟨file, member, hashed⟩⟩

/-- Nothing stands in the way of a search: the case store finds files, and if a filter by frequency
looks at any, the repository counts them. -/
structure Unhindered
    (filters : List Filter) (stores : SearchStores) (options : SearchOptions)
    (candidates : List FileRecord) (count : String → Number) :
    Prop where
  queried : Queried filters stores (.ok candidates)
  answers :
    (∃ filter ∈ filters, filter.isFrequency = true) → candidates ≠ [] →
      options.concurrency ≠ .nan ∧
        ∃ repository, stores.repository = some repository ∧ repository.Answers count candidates

theorem Unhindered.yields
    {candidates : List FileRecord} {count : String → Number}
    (unhindered : Unhindered filters stores options candidates count) :
    (run filters stores options).Yields
      ((wantedFiles filters (FileRecord.frequency options.thresholds count) candidates).map
        (withFrequency
          (frequencyAfter filters (fun _ => .unknown)
            (FileRecord.frequency options.thresholds count)))) := by
  refine unhindered.queried.run_ends ?_
  by_cases filled : candidates = []
  · subst filled
    exact Traced.Yields.pure _
  · rw [continueWith_of_ne_nil filled]
    have answers (needed : Filter.needRepository filters = true) :=
      unhindered.answers (List.any_eq_true.mp needed) filled
    exact
      applyFilters_yields filled (fun needed => (answers needed).1)
        (fun needed => (answers needed).2) fun _ _ _ => rfl

/-- A search that has no reason to fail is unhindered. -/
theorem fails_or_unhindered
    (filters : List Filter) (stores : SearchStores) (options : SearchOptions) :
    (∃ report, Fails filters stores options report) ∨
      ∃ candidates count, Unhindered filters stores options candidates count := by
  -- the reasons are tried in the order in which the search meets them
  by_cases noStore : stores.caseStore = none
  · exact .inl ⟨_, .noCase noStore⟩
  by_cases silent : ∀ filter ∈ filters, filter.isFrequency = true
  · exact .inl ⟨_, .nothingToAsk noStore silent⟩
  have asking : ∃ filter ∈ filters, filter.isFrequency = false := by
    simpa using silent
  by_cases unequipped :
    (∃ filter ∈ filters, filter.isFrequency = true) ∧ stores.repository = none
  · exact .inl ⟨_, .noRepository noStore asking unequipped.1 unequipped.2⟩
  have equipped :
      (∃ filter ∈ filters, filter.isFrequency = true) → stores.repository ≠ none :=
    fun wanting absent => unequipped ⟨wanting, absent⟩
  obtain ⟨answer, queried⟩ := exists_queried noStore asking equipped
  cases answer with
  | error cause =>
      exact .inl ⟨_, .storeFailed queried⟩
  | ok candidates =>
      by_cases enriching :
        (∃ filter ∈ filters, filter.isFrequency = true) ∧ candidates ≠ []
      · obtain ⟨wanting, filled⟩ := enriching
        obtain ⟨repository, isRepository⟩ := Option.ne_none_iff_exists'.mp (equipped wanting)
        have enriched : Enriched filters stores repository candidates :=
          ⟨queried, filled, wanting, isRepository⟩
        by_cases noNumber : options.concurrency = .nan
        · exact .inl ⟨_, .noNumber enriched noNumber⟩
        cases isType : repository.typeById CorrelationType.filesId with
        | error cause =>
            exact .inl ⟨_, .typeFailed enriched noNumber isType⟩
        | ok type =>
            rcases counts_or_first_failing repository type candidates with
              all | ⟨earlier, file, later, hash, cause, rfl, counted, hashed, fails⟩
            · obtain ⟨count, answers⟩ := exists_answers isType all
              exact
                .inr ⟨candidates, count, queried,
                  fun _ _ => ⟨noNumber, repository, isRepository, answers⟩⟩
            · exact .inl ⟨_, .countFailed enriched noNumber isType counted hashed fails⟩
      · exact
          .inr ⟨candidates, fun _ => .nan, queried,
            fun wanting filled => absurd ⟨wanting, filled⟩ enriching⟩

/-! ## What is asked -/

theorem run_eq_of_refused
    (refused :
      stores.caseStore = none ∨ (∀ filter ∈ filters, filter.isFrequency = true) ∨
        stores.repository = none ∧ ∃ filter ∈ filters, filter.isFrequency = true)
    (options : SearchOptions) (before : Trace) :
    ((run filters stores options).run.run before).2 = before := by
  by_cases noStore : stores.caseStore = none
  · rw [run_noCase noStore]
  by_cases silent : ∀ filter ∈ filters, filter.isFrequency = true
  · rw [run_nothingToAsk noStore silent]
  have asking : ∃ filter ∈ filters, filter.isFrequency = false := by
    simpa using silent
  rcases refused with isNone | isSilent | ⟨absent, wanting⟩
  · exact absurd isNone noStore
  · exact absurd isSilent silent
  · rw [run_noRepository noStore asking wanting absent]

/-- The repository is asked only if a filter by frequency has files to look at. -/
theorem run_keeps_repository_unasked
    (unasked :
      (∀ filter ∈ filters, filter.isFrequency = false) ∨ Queried filters stores (.ok []))
    (options : SearchOptions) (before : Trace) :
    ((run filters stores options).run.run before).2.typeIds = before.typeIds ∧
      ((run filters stores options).run.run before).2.lookups = before.lookups := by
  rcases unasked with noneWanting | queried
  · have noWanting : ¬ ∃ filter ∈ filters, filter.isFrequency = true := by
      simpa using noneWanting
    by_cases refused :
      stores.caseStore = none ∨ ∀ filter ∈ filters, filter.isFrequency = true
    · rw [run_eq_of_refused (refused.imp_right .inl)]
      exact ⟨rfl, rfl⟩
    · rw [not_or] at refused
      have asking : ∃ filter ∈ filters, filter.isFrequency = false := by
        simpa using refused.2
      obtain ⟨answer, queried⟩ :=
        exists_queried refused.1 asking fun wanting => absurd wanting noWanting
      obtain ⟨between, sameTypes, sameLookups, ran⟩ := queried.run_eq options before
      rw [ran, ← sameTypes, ← sameLookups]
      cases answer with
      | error cause =>
          exact ⟨rfl, rfl⟩
      | ok candidates =>
          by_cases filled : candidates = []
          · subst filled
            exact ⟨rfl, rfl⟩
          · rw [continueWith_of_ne_nil filled, applyFilters_of_silent noneWanting]
            exact ⟨rfl, rfl⟩
  · obtain ⟨between, sameTypes, sameLookups, ran⟩ := queried.run_eq options before
    rw [ran, ← sameTypes, ← sameLookups]
    exact ⟨rfl, rfl⟩

/-! ## Exactly these failures -/

/-- A search fails exactly if it has a reason to, with the report of that reason. A search that is
refused asks nothing at all, and the repository is asked nothing unless a filter by frequency has
files to look at. -/
theorem run_fails_with_reason
    (filters : List Filter) (stores : SearchStores) (options : SearchOptions) (before : Trace) :
    (∀ report,
      ((run filters stores options).run.run before).1.mapError Failure.report = .error report ↔
        Fails filters stores options report) ∧
    (stores.caseStore = none ∨ (∀ filter ∈ filters, filter.isFrequency = true) ∨
        stores.repository = none ∧ (∃ filter ∈ filters, filter.isFrequency = true) →
      ((run filters stores options).run.run before).2 = before) ∧
    ((∀ filter ∈ filters, filter.isFrequency = false) ∨ Queried filters stores (.ok []) →
      ((run filters stores options).run.run before).2.typeIds = before.typeIds ∧
        ((run filters stores options).run.run before).2.lookups = before.lookups) := by
  refine
    ⟨fun report => ⟨fun failed => ?_, fun fails => ?_⟩,
      fun refused => run_eq_of_refused refused options before,
      fun unasked => run_keeps_repository_unasked unasked options before⟩
  · rcases fails_or_unhindered filters stores options with
      ⟨reason, fails⟩ | ⟨candidates, count, unhindered⟩
    · obtain ⟨failure, isReport, ends⟩ := fails.run_ends
      obtain ⟨after, ran⟩ := ends before
      rw [ran] at failed
      obtain rfl : failure.report = report := Except.error.inj failed
      rw [isReport]
      exact fails
    · obtain ⟨after, ran⟩ := unhindered.yields before
      rw [ran] at failed
      cases failed
  · obtain ⟨failure, rfl, ends⟩ := fails.run_ends
    obtain ⟨after, ran⟩ := ends before
    rw [ran]
    rfl

end Search
end EvidenceSearch
