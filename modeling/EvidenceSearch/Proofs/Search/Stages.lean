import EvidenceSearch.Proofs.Filter.Conditions
import EvidenceSearch.Proofs.Steps
import EvidenceSearch.Search.Run

/-!
# What a search finds

A search asks the case store once and then lets every filter by frequency look at the files that
are left. The stages carry the frequencies that were found before and stop as soon as nothing is
left; still the files at the end are those of the case store whose frequency every filter wants,
each with the frequency that a single lookup gives.
-/

namespace EvidenceSearch

/-! ## Steps that succeed -/

/-- The step gives the value, whatever the trace was. -/
def Traced.Yields {Error Value : Type} (step : Traced Error Value) (value : Value) : Prop :=
  ∀ before, ∃ after, step.run.run before = (.ok value, after)

namespace Traced.Yields

variable {Error OtherError Value Image : Type}

theorem pure (value : Value) : Yields (Pure.pure value : Traced Error Value) value :=
  fun before => ⟨before, rfl⟩

theorem bind
    {step : Traced Error Value} {next : Value → Traced Error Image} {value : Value} {image : Image}
    (stepYields : Yields step value) (nextYields : Yields (next value) image) :
    Yields (step >>= next) image := by
  intro before
  obtain ⟨between, stepped⟩ := stepYields before
  obtain ⟨after, ended⟩ := nextYields between
  refine ⟨after, ?_⟩
  rw [run_bind_of_ok stepped]
  exact ended

theorem adapt
    {step : Traced Error Value} {value : Value} (rename : Error → OtherError)
    (yields : Yields step value) :
    Yields (ExceptT.adapt rename step) value := by
  intro before
  obtain ⟨after, stepped⟩ := yields before
  refine ⟨after, ?_⟩
  rw [ExceptT.run_adapt, StateT.run_map, stepped]
  rfl

theorem note (level : LogLevel) (message : String) :
    Yields (Trace.note level message : Traced Error Unit) () :=
  fun _ => ⟨_, rfl⟩

theorem askedType (id : Number) : Yields (Trace.askedType id : Traced Error Unit) () :=
  fun _ => ⟨_, rfl⟩

theorem lookedUp (hashes : List String) (together : Nat) :
    Yields (Trace.lookedUp hashes together : Traced Error Unit) () :=
  fun _ => ⟨_, rfl⟩

end Traced.Yields

/-- The step ends in this way, whatever the trace was. -/
def Traced.Ends
    {Error Value : Type} (step : Traced Error Value) (outcome : Except Error Value) : Prop :=
  ∀ before, ∃ after, step.run.run before = (outcome, after)

namespace Traced.Ends

variable {Error OtherError Value Image : Type}

theorem throw (error : Error) :
    Ends (MonadExcept.throw error : Traced Error Value) (.error error) :=
  fun before => ⟨before, rfl⟩

theorem bind
    {step : Traced Error Value} {next : Value → Traced Error Image} {value : Value}
    {outcome : Except Error Image}
    (stepYields : step.Yields value) (nextEnds : Ends (next value) outcome) :
    Ends (step >>= next) outcome := by
  intro before
  obtain ⟨between, stepped⟩ := stepYields before
  obtain ⟨after, ended⟩ := nextEnds between
  refine ⟨after, ?_⟩
  rw [run_bind_of_ok stepped]
  exact ended

/-- What comes after a step that fails does not matter. -/
theorem bind_error
    {step : Traced Error Value} {error : Error} (fails : Ends step (.error error))
    (next : Value → Traced Error Image) :
    Ends (step >>= next) (.error error) := by
  intro before
  obtain ⟨after, stepped⟩ := fails before
  exact ⟨after, run_bind_of_error stepped⟩

theorem adapt_error
    {step : Traced Error Value} {error : Error} (rename : Error → OtherError)
    (fails : Ends step (.error error)) :
    Ends (ExceptT.adapt rename step) (.error (rename error)) := by
  intro before
  obtain ⟨after, stepped⟩ := fails before
  refine ⟨after, ?_⟩
  rw [ExceptT.run_adapt, StateT.run_map, stepped]
  rfl

end Traced.Ends

/-! ## Frequencies -/

/-- The frequency of a file under a count for every hash; without a hash it stays unknown. -/
def FileRecord.frequency
    (thresholds : Thresholds) (count : String → Number) (file : FileRecord) :
    Frequency :=
  match file.hash? with
  | none => .unknown
  | some hash => thresholds.bucket (count hash)

/-- The repository knows the type of hashes and counts every hash of the files. -/
def Repository.Answers
    (repository : Repository) (count : String → Number) (files : List FileRecord) :
    Prop :=
  ∃ type,
    repository.typeById CorrelationType.filesId = .ok type ∧
      ∀ file ∈ files, ∀ hash, file.hash? = some hash →
        repository.count type hash = .ok (count hash)

theorem Repository.Answers.filter
    {repository : Repository} {count : String → Number} {files : List FileRecord}
    (answers : repository.Answers count files) (keep : FileRecord → Bool) :
    repository.Answers count (files.filter keep) := by
  obtain ⟨type, isType, counts⟩ := answers
  exact ⟨type, isType, fun file member => counts file (List.mem_filter.mp member).1⟩

/-- What a filter by frequency asks; all other filters want every frequency. -/
def Filter.wants (frequency : Frequency) : Filter → Bool
  | .frequency wanted => wanted.toList.contains frequency
  | _ => true

theorem FileRecord.frequency_eq_unknown
    {file : FileRecord} (thresholds : Thresholds) (count : String → Number)
    (noHash : file.hash? = none) :
    file.frequency thresholds count = .unknown := by
  rw [FileRecord.frequency, noHash]

theorem Pool.exists_ofConcurrency?
    {concurrency : Number} (isNumber : concurrency ≠ .nan) :
    ∃ pool, Pool.ofConcurrency? concurrency = some pool := by
  cases concurrency with
  | nan =>
      exact absurd rfl isNumber
  | infinite negative =>
      cases negative
      · exact ⟨_, rfl⟩
      · exact ⟨_, rfl⟩
  | finite value =>
      exact ⟨_, rfl⟩

namespace ResultFile

/-- A file with the frequency that a function gives it. -/
def withFrequency (frequency : FileRecord → Frequency) (file : FileRecord) : ResultFile :=
  ⟨file, frequency file⟩

variable {repository : Repository} {options : SearchOptions} {count : String → Number}
variable {files : List FileRecord} {before : FileRecord → Frequency}

/-- Looking up all files replaces what was found before; a file without a hash must still be
unknown then, since nothing sets its frequency. -/
theorem lookUpAll_eq_ok
    {thresholds : Thresholds} {type : CorrelationType}
    (counts :
      ∀ file ∈ files, ∀ hash, file.hash? = some hash →
        repository.count type hash = .ok (count hash))
    (unknown : ∀ file ∈ files, file.hash? = none → before file = .unknown) :
    lookUpAll repository thresholds type (files.map (withFrequency before)) =
      .ok (files.map (withFrequency (FileRecord.frequency thresholds count))) := by
  induction files with
  | nil =>
      rfl
  | cons file files inductionHypothesis =>
      have lookedUp :
          (withFrequency before file).lookUp repository thresholds type =
            .ok (withFrequency (FileRecord.frequency thresholds count) file) := by
        rw [lookUp, withFrequency, withFrequency, FileRecord.frequency]
        cases hashed : file.hash? with
        | none =>
            rw [unknown file List.mem_cons_self hashed]
        | some hash =>
            simp only [counts file List.mem_cons_self hash hashed]
            rfl
      have others :=
        inductionHypothesis
          (fun other member => counts other (List.mem_cons_of_mem file member))
          (fun other member => unknown other (List.mem_cons_of_mem file member))
      rw [List.map_cons, lookUpAll, lookedUp, others]
      rfl

/-- A stage asks for the type of hashes and then looks all files up. -/
theorem findFrequencies_ends
    {pool : Pool} {type : CorrelationType} {results : List ResultFile} (filled : results ≠ [])
    (isPool : Pool.ofConcurrency? options.concurrency = some pool)
    (isType : repository.typeById CorrelationType.filesId = .ok type) :
    (findFrequencies (some repository) options results).Ends
      (match lookUpAll repository options.thresholds type results with
      | .error cause => .error (.failed (.repositoryFailed cause))
      | .ok found => .ok found) := by
  have notEmpty : results.isEmpty = false := by
    simpa using filled
  rw [findFrequencies, notEmpty, isPool, isType]
  apply Traced.Ends.bind (Traced.Yields.askedType _)
  apply Traced.Ends.bind (Traced.Yields.lookedUp _ _)
  cases lookUpAll repository options.thresholds type results with
  | error cause =>
      exact Traced.Ends.throw _
  | ok found =>
      exact Traced.Yields.pure found

theorem findFrequencies_yields
    (filled : files ≠ []) (isNumber : options.concurrency ≠ .nan)
    (answers : repository.Answers count files)
    (unknown : ∀ file ∈ files, file.hash? = none → before file = .unknown) :
    (findFrequencies (some repository) options (files.map (withFrequency before))).Yields
      (files.map (withFrequency (FileRecord.frequency options.thresholds count))) := by
  obtain ⟨pool, isPool⟩ := Pool.exists_ofConcurrency? isNumber
  obtain ⟨type, isType, counts⟩ := answers
  have notEmpty : files.map (withFrequency before) ≠ [] := by
    simpa using filled
  have ends := findFrequencies_ends notEmpty isPool isType
  rw [lookUpAll_eq_ok counts unknown] at ends
  exact ends

theorem keepFrequencies_map
    (wanted : List Frequency) (frequency : FileRecord → Frequency) (files : List FileRecord) :
    keepFrequencies wanted (files.map (withFrequency frequency)) =
      (files.filter fun file => wanted.contains (frequency file)).map
        (withFrequency frequency) := by
  rw [keepFrequencies, List.filter_map]
  rfl

theorem sortOut_ends
    {pool : Pool} {type : CorrelationType} {results : List ResultFile} (wanted : List Frequency)
    (filled : results ≠ []) (isPool : Pool.ofConcurrency? options.concurrency = some pool)
    (isType : repository.typeById CorrelationType.filesId = .ok type) :
    (sortOut (some repository) options wanted results).Ends
      (match lookUpAll repository options.thresholds type results with
      | .error cause => .error (.failed (.repositoryFailed cause))
      | .ok found => .ok (found, keepFrequencies wanted found)) := by
  have ends := findFrequencies_ends filled isPool isType
  rw [sortOut]
  cases answer : lookUpAll repository options.thresholds type results with
  | error cause =>
      rw [answer] at ends
      exact ends.bind_error _
  | ok found =>
      rw [answer] at ends
      apply Traced.Ends.bind ends
      apply Traced.Ends.bind (Traced.Yields.note _ _)
      exact Traced.Yields.pure _

theorem sortOut_yields
    (wanted : List Frequency) (filled : files ≠ []) (isNumber : options.concurrency ≠ .nan)
    (answers : repository.Answers count files)
    (unknown : ∀ file ∈ files, file.hash? = none → before file = .unknown) :
    (sortOut (some repository) options wanted (files.map (withFrequency before))).Yields
      (files.map (withFrequency (FileRecord.frequency options.thresholds count)),
        (files.filter fun file =>
            wanted.contains (file.frequency options.thresholds count)).map
          (withFrequency (FileRecord.frequency options.thresholds count))) := by
  rw [sortOut]
  apply Traced.Yields.bind (findFrequencies_yields filled isNumber answers unknown)
  apply Traced.Yields.bind (Traced.Yields.note _ _)
  rw [keepFrequencies_map]
  exact Traced.Yields.pure _

end ResultFile

/-! ## Stages -/

namespace Search

open ResultFile

variable {repository? : Option Repository} {options : SearchOptions} {count : String → Number}

/-- A filter by frequency ends the search if it leaves nothing; that may not change what the later
filters would leave. -/
theorem applyFilters_frequency
    {wanted : Choices Frequency} {filters : List Filter} {results found kept last : List ResultFile}
    (sorted : (sortOut repository? options wanted.toList results).Yields (found, kept))
    (stops : kept = [] → last = [])
    (goesOn : kept ≠ [] → (applyFilters repository? options filters kept).Yields last) :
    (applyFilters repository? options (.frequency wanted :: filters) results).Yields last := by
  have isFrequency : (Filter.frequency wanted).isFrequency = true := rfl
  rw [applyFilters, if_pos isFrequency]
  apply Traced.Yields.bind (Traced.Yields.adapt _ sorted)
  cases kept with
  | nil =>
      rw [stops rfl]
      exact Traced.Yields.pure _
  | cons first others =>
      exact goesOn (List.cons_ne_nil first others)

theorem applyFilters_other
    {filter : Filter} {filters : List Filter} {results last : List ResultFile}
    (notFrequency : filter.isFrequency = false)
    (goesOn : (applyFilters repository? options filters results).Yields last) :
    (applyFilters repository? options (filter :: filters) results).Yields last := by
  rw [applyFilters, notFrequency]
  exact goesOn

/-- The files whose frequency all filters want. -/
def wantedFiles
    (filters : List Filter) (frequency : FileRecord → Frequency) (files : List FileRecord) :
    List FileRecord :=
  files.filter fun file => filters.all (Filter.wants (frequency file))

theorem wantedFiles_cons
    (filter : Filter) (filters : List Filter) (frequency : FileRecord → Frequency)
    (files : List FileRecord) :
    wantedFiles (filter :: filters) frequency files =
      wantedFiles filters frequency
        (files.filter fun file => filter.wants (frequency file)) := by
  rw [wantedFiles, wantedFiles, List.filter_filter]
  refine List.filter_congr fun file _ => ?_
  rw [List.all_cons, Bool.and_comm]

theorem filter_wants_other
    {filter : Filter} (notFrequency : filter.isFrequency = false)
    (frequency : FileRecord → Frequency) (files : List FileRecord) :
    (files.filter fun file => filter.wants (frequency file)) = files := by
  rw [List.filter_eq_self]
  intro file _
  cases filter with
  | frequency wanted =>
      cases notFrequency
  | _ =>
      rfl

/-- What the frequencies are once some filters have looked at the files. -/
def frequencyAfter
    (filters : List Filter) (before lookup : FileRecord → Frequency) :
    FileRecord → Frequency :=
  if Filter.needRepository filters then lookup else before

theorem frequencyAfter_frequency
    (wanted : Choices Frequency) (filters : List Filter)
    (before lookup : FileRecord → Frequency) :
    frequencyAfter (.frequency wanted :: filters) before lookup =
      frequencyAfter filters lookup lookup := by
  rw [frequencyAfter, frequencyAfter, ite_self]
  rfl

theorem needRepository_cons_other
    {filter : Filter} (notFrequency : filter.isFrequency = false) (filters : List Filter) :
    Filter.needRepository (filter :: filters) = Filter.needRepository filters := by
  rw [Filter.needRepository, List.any_cons, notFrequency, Bool.false_or]
  rfl

/-- The files that are left carry the frequencies of the last stage. Every stage finds the same
ones, so a file is left exactly if all filters want the frequency of a single lookup. -/
theorem applyFilters_yields
    {filters : List Filter} {files : List FileRecord} {before : FileRecord → Frequency}
    (filled : files ≠ [])
    (isNumber : Filter.needRepository filters = true → options.concurrency ≠ .nan)
    (answers :
      Filter.needRepository filters = true →
        ∃ repository, repository? = some repository ∧ repository.Answers count files)
    (unknown : ∀ file ∈ files, file.hash? = none → before file = .unknown) :
    (applyFilters repository? options filters (files.map (withFrequency before))).Yields
      ((wantedFiles filters (FileRecord.frequency options.thresholds count) files).map
        (withFrequency
          (frequencyAfter filters before (FileRecord.frequency options.thresholds count)))) := by
  induction filters generalizing files before with
  | nil =>
      have all :
          wantedFiles [] (FileRecord.frequency options.thresholds count) files = files :=
        List.filter_true files
      rw [all]
      exact Traced.Yields.pure _
  | cons filter filters inductionHypothesis =>
      rw [wantedFiles_cons]
      by_cases isFrequency : filter.isFrequency = true
      · cases filter with
        | frequency wanted =>
            obtain ⟨repository, isRepository, answersAll⟩ := answers rfl
            have sorted := sortOut_yields wanted.toList filled (isNumber rfl) answersAll unknown
            rw [← isRepository] at sorted
            rw [frequencyAfter_frequency]
            apply applyFilters_frequency sorted
            -- with nothing left the search stops, and later filters would find nothing either
            · intro nothingLeft
              have noFiles := List.map_eq_nil_iff.mp nothingLeft
              have noneWanted :
                  (files.filter fun file => (Filter.frequency wanted).wants
                    (file.frequency options.thresholds count)) = [] :=
                noFiles
              rw [noneWanted]
              rfl
            · intro someLeft
              -- the next stage starts from the frequencies of this one
              refine inductionHypothesis (fun noFiles => someLeft ?_) (fun _ => isNumber rfl) ?_ ?_
              · exact List.map_eq_nil_iff.mpr noFiles
              · intro _
                exact ⟨repository, isRepository, answersAll.filter _⟩
              · intro file _ noHash
                exact FileRecord.frequency_eq_unknown _ _ noHash
        | _ =>
            cases isFrequency
      · have notFrequency : filter.isFrequency = false := Bool.eq_false_iff.mpr isFrequency
        have sameNeed := needRepository_cons_other notFrequency filters
        rw [sameNeed] at answers isNumber
        rw [filter_wants_other notFrequency, frequencyAfter, sameNeed]
        exact applyFilters_other notFrequency (inductionHypothesis filled isNumber answers unknown)

/-! ## Asking the case store -/

/-- The case store is asked what the filters ask, and gives this answer. -/
structure Queried
    (filters : List Filter) (stores : SearchStores) (answer : Except String (List FileRecord)) :
    Prop where
  asking : ∃ filter ∈ filters, filter.isFrequency = false
  equipped : (∃ filter ∈ filters, filter.isFrequency = true) → stores.repository ≠ none
  answered :
    ∃ find clause,
      stores.caseStore = some find ∧ Filter.combinedClause filters = .ok clause ∧
        find clause = answer

variable {filters : List Filter} {stores : SearchStores}

/-- What a search does with the answer of the case store. -/
def continueWith
    (filters : List Filter) (stores : SearchStores) (options : SearchOptions) :
    Except String (List FileRecord) → Traced Failure (List ResultFile)
  | .error cause => throw (.storeFailed cause)
  | .ok [] => return []
  | .ok candidates =>
      applyFilters stores.repository options filters (candidates.map ResultFile.ofRecord)

/-- Up to the answer of the case store nothing is asked of the repository. -/
theorem Queried.run_eq
    {answer : Except String (List FileRecord)} (queried : Queried filters stores answer)
    (options : SearchOptions) (before : Trace) :
    ∃ between : Trace,
      between.typeIds = before.typeIds ∧ between.lookups = before.lookups ∧
        (run filters stores options).run.run before =
          (continueWith filters stores options answer).run.run between := by
  obtain ⟨find, clause, isStore, isClause, isAnswer⟩ := queried.answered
  have mayRun : (stores.repository.isNone && Filter.needRepository filters) = false := by
    by_cases needed : Filter.needRepository filters = true
    · have present := queried.equipped (List.any_eq_true.mp needed)
      simp [present]
    · rw [Bool.eq_false_iff.mpr needed, Bool.and_false]
  have steps :
      run filters stores options = (do
        Trace.note .info (filterList filters)
        Trace.note .info ("Running SQL query: " ++ clause)
        Trace.askedCase clause
        continueWith filters stores options answer) := by
    rw [← isAnswer]
    simp only [run, isStore, isClause, mayRun, Bool.false_eq_true, if_false]
    cases find clause with
    | error cause =>
        rfl
    | ok candidates =>
        cases candidates <;> rfl
  rw [steps]
  exact
    ⟨{ before with
        log :=
          before.log ++ [⟨.info, filterList filters, []⟩] ++
            [⟨.info, "Running SQL query: " ++ clause, []⟩]
        clauses := before.clauses ++ [clause] },
      rfl, rfl, rfl⟩

theorem Queried.run_ends
    {answer : Except String (List FileRecord)} {outcome : Except Failure (List ResultFile)}
    (queried : Queried filters stores answer)
    (ends : (continueWith filters stores options answer).Ends outcome) :
    (run filters stores options).Ends outcome := by
  intro before
  obtain ⟨between, _, _, ran⟩ := queried.run_eq options before
  rw [ran]
  exact ends between

theorem continueWith_of_ne_nil
    {candidates : List FileRecord} (filled : candidates ≠ []) :
    continueWith filters stores options (.ok candidates) =
      applyFilters stores.repository options filters (candidates.map ResultFile.ofRecord) := by
  cases candidates with
  | nil =>
      exact absurd rfl filled
  | cons first others =>
      rfl

theorem run_yields
    {candidates : List FileRecord}
    {find : String → Except String (List FileRecord)}
    (asking : ∃ filter ∈ filters, filter.isFrequency = false)
    (hasCase : stores.caseStore = some find)
    (found : ∀ clause, Filter.combinedClause filters = .ok clause → find clause = .ok candidates)
    (answers :
      Filter.needRepository filters = true →
        ∃ repository, stores.repository = some repository ∧ repository.Answers count candidates)
    (isNumber : Filter.needRepository filters = true → options.concurrency ≠ .nan) :
    (run filters stores options).Yields
      ((wantedFiles filters (FileRecord.frequency options.thresholds count) candidates).map
        (withFrequency
          (frequencyAfter filters (fun _ => .unknown)
            (FileRecord.frequency options.thresholds count)))) := by
  have written := Filter.combinedClause_eq_ok asking
  have equipped :
      (∃ filter ∈ filters, filter.isFrequency = true) → stores.repository ≠ none := by
    intro wanting
    obtain ⟨repository, isRepository, _⟩ := answers (List.any_eq_true.mpr wanting)
    simp [isRepository]
  have queried : Queried filters stores (.ok candidates) :=
    ⟨asking, equipped, find, _, hasCase, written, found _ written⟩
  refine queried.run_ends ?_
  cases candidates with
  | nil =>
      exact Traced.Yields.pure _
  | cons first others =>
      exact applyFilters_yields (List.cons_ne_nil first others) isNumber answers fun _ _ _ => rfl

/-- A search finds exactly the files of the case store whose frequency every filter wants, in the
order of the case store. They are unchanged, and their frequency is the one that a single lookup
gives, or unknown if no filter asks for frequencies. -/
theorem run_finds_wanted_files
    {filters : List Filter} {stores : SearchStores} {candidates : List FileRecord}
    {find : String → Except String (List FileRecord)}
    (asking : ∃ filter ∈ filters, filter.isFrequency = false)
    (hasCase : stores.caseStore = some find)
    (found : ∀ clause, Filter.combinedClause filters = .ok clause → find clause = .ok candidates)
    (answers :
      Filter.needRepository filters = true →
        ∃ repository, stores.repository = some repository ∧ repository.Answers count candidates)
    (isNumber : options.concurrency ≠ .nan) :
    ∀ before, ∃ after,
      (run filters stores options).run.run before =
        (.ok
          ((candidates.filter fun file =>
              filters.all (Filter.wants (file.frequency options.thresholds count))).map
            fun file =>
              ⟨file,
                if Filter.needRepository filters then file.frequency options.thresholds count
                else .unknown⟩),
          after) := by
  intro before
  obtain ⟨after, ran⟩ := run_yields asking hasCase found answers (fun _ => isNumber) before
  have same :
      withFrequency
          (frequencyAfter filters (fun _ => .unknown)
            (FileRecord.frequency options.thresholds count)) =
        fun file =>
          ⟨file,
            if Filter.needRepository filters then file.frequency options.thresholds count
            else .unknown⟩ := by
    funext file
    rw [withFrequency, frequencyAfter]
    split <;> rfl
  rw [same] at ran
  exact ⟨after, ran⟩

/-- A rare file, a common one and one without a hash. -/
def mixedFiles : List FileRecord :=
  [⟨.finite 1, "a", "/", .finite 5, .finite 1, none, some "a1"⟩,
    ⟨.finite 2, "b", "/", .finite 5, .finite 1, none, some "b2"⟩,
    ⟨.finite 3, "c", "/", .finite 5, .finite 1, none, none⟩]

/-- How often the hashes of the mixed files are seen. -/
def mixedCount (hash : String) : Number :=
  .finite (if hash = "a1" then 3 else 20)

/-- Stores that hold the mixed files. -/
def mixedStores : SearchStores :=
  ⟨some fun _ => .ok mixedFiles,
    some ⟨fun id => .ok ⟨id, "Files", "file"⟩, fun _ hash => .ok (mixedCount hash)⟩⟩

/-- Only the rare file is wanted by both filters by frequency. -/
theorem run_finds_rare_file :
    ∃ after,
      (run
          [.frequency ⟨.rare, [.unknown]⟩, .size ⟨⟨0, none, by decide⟩, []⟩,
            .frequency ⟨.rare, [.common]⟩]
          mixedStores .standard).run.run {} =
        (.ok [⟨⟨.finite 1, "a", "/", .finite 5, .finite 1, none, some "a1"⟩, .rare⟩], after) := by
  have asking :
      ∃ filter ∈
          [Filter.frequency ⟨.rare, [.unknown]⟩, .size ⟨⟨0, none, by decide⟩, []⟩,
            .frequency ⟨.rare, [.common]⟩],
        filter.isFrequency = false :=
    ⟨.size ⟨⟨0, none, by decide⟩, []⟩, by decide, rfl⟩
  have answers :
      ∃ repository, mixedStores.repository = some repository ∧
        repository.Answers mixedCount mixedFiles :=
    ⟨_, rfl, ⟨_, rfl, fun _ _ _ _ => rfl⟩⟩
  have isNumber : SearchOptions.standard.concurrency ≠ .nan := by decide
  exact run_finds_wanted_files asking rfl (fun _ _ => rfl) (fun _ => answers) isNumber {}

end Search
end EvidenceSearch
