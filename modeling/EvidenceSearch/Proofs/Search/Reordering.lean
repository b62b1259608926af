import EvidenceSearch.Proofs.Filter.Naming
import EvidenceSearch.Proofs.Search.Answers
import EvidenceSearch.Proofs.Search.Failing

/-!
# Filters in another order

A search does not depend on the order of its filters, on the order of the values in a filter, or on
how often one is given. The clause may be another one, and other files may be looked up, yet the
same files are found with the same frequencies, or the search fails alike. Only a text that holds a
null character shows the order: the clause can not be read then, and the cause that is reported
quotes the first such text.
-/

namespace EvidenceSearch

/-! ## The same filters -/

/-- The same values, in any order, each at least once. -/
def Choices.SameAs {Value : Type} (choices others : Choices Value) : Prop :=
  ∀ value, value ∈ choices.toList ↔ value ∈ others.toList

namespace Filter

/-- Filters of one kind with the same values. -/
inductive SameAs : Filter → Filter → Prop
  | size {ranges others : Choices SizeRange} (same : ranges.SameAs others) :
      SameAs (.size ranges) (.size others)
  | parent {paths others : Choices PathChoice} (same : paths.SameAs others) :
      SameAs (.parent paths) (.parent others)
  | dataSource {sources others : Choices SourceChoice} (same : sources.SameAs others) :
      SameAs (.dataSource sources) (.dataSource others)
  | keywordList {lists others : Choices ListChoice} (same : lists.SameAs others) :
      SameAs (.keywordList lists) (.keywordList others)
  | fileType {types others : Choices TypeChoice} (same : types.SameAs others) :
      SameAs (.fileType types) (.fileType others)
  | frequency {wanted others : Choices Frequency} (same : wanted.SameAs others) :
      SameAs (.frequency wanted) (.frequency others)

/-- The same filters, in any order, each at least once. -/
structure SameFilters (filters others : List Filter) : Prop where
  here : ∀ filter ∈ filters, ∃ other ∈ others, filter.SameAs other
  there : ∀ other ∈ others, ∃ filter ∈ filters, filter.SameAs other

namespace SameAs

theorem refl (filter : Filter) : filter.SameAs filter := by
  cases filter with
  | size ranges =>
      exact .size fun _ => Iff.rfl
  | parent paths =>
      exact .parent fun _ => Iff.rfl
  | dataSource sources =>
      exact .dataSource fun _ => Iff.rfl
  | keywordList lists =>
      exact .keywordList fun _ => Iff.rfl
  | fileType types =>
      exact .fileType fun _ => Iff.rfl
  | frequency wanted =>
      exact .frequency fun _ => Iff.rfl

variable {filter other : Filter}

theorem isFrequency_eq (same : filter.SameAs other) : filter.isFrequency = other.isFrequency := by
  cases same <;> rfl

theorem asksHits_eq (same : filter.SameAs other) : filter.asksHits = other.asksHits := by
  cases same <;> rfl

theorem wants_eq (same : filter.SameAs other) (frequency : Frequency) :
    filter.wants frequency = other.wants frequency := by
  cases same with
  | frequency same =>
      rw [Bool.eq_iff_iff]
      simp only [wants, List.contains_iff_mem, same frequency]
  | _ =>
      rfl

theorem selects_iff
    (same : filter.SameAs other) (tables : CaseTables) (file : StoredFile) :
    filter.Selects tables file ↔ other.Selects tables file := by
  cases same with
  | frequency same =>
      rfl
  | size same | parent same | dataSource same | keywordList same | fileType same =>
      simp only [Selects, Admits, same _]

theorem texts_iff (same : filter.SameAs other) (text : String) :
    text ∈ filter.texts ↔ text ∈ other.texts := by
  cases same with
  | parent same | keywordList same | fileType same =>
      simp only [texts, List.mem_map, List.mem_flatMap, same _]
  | _ =>
      rfl

theorem nullFree_iff (same : filter.SameAs other) : filter.NullFree ↔ other.NullFree := by
  simp only [NullFree, same.texts_iff]

end SameAs

namespace SameFilters

variable {filters others : List Filter}

theorem of_perm (perm : filters.Perm others) : SameFilters filters others :=
  ⟨fun filter member => ⟨filter, perm.mem_iff.mp member, .refl filter⟩,
    fun other member => ⟨other, perm.mem_iff.mpr member, .refl other⟩⟩

theorem forall_iff
    {holds : Filter → Prop} (same : SameFilters filters others)
    (agree : ∀ {filter other : Filter}, filter.SameAs other → (holds filter ↔ holds other)) :
    (∀ filter ∈ filters, holds filter) ↔ ∀ other ∈ others, holds other := by
  constructor
  · intro all other member
    obtain ⟨filter, isFilter, alike⟩ := same.there other member
    exact (agree alike).mp (all filter isFilter)
  · intro all filter member
    obtain ⟨other, isOther, alike⟩ := same.here filter member
    exact (agree alike).mpr (all other isOther)

theorem exists_iff
    {holds : Filter → Prop} (same : SameFilters filters others)
    (agree : ∀ {filter other : Filter}, filter.SameAs other → (holds filter ↔ holds other)) :
    (∃ filter ∈ filters, holds filter) ↔ ∃ other ∈ others, holds other := by
  have none := same.forall_iff fun alike => not_congr (agree alike)
  simpa using not_congr none

theorem exists_isFrequency_iff (same : SameFilters filters others) (truth : Bool) :
    (∃ filter ∈ filters, filter.isFrequency = truth) ↔
      ∃ other ∈ others, other.isFrequency = truth :=
  same.exists_iff fun alike => by rw [alike.isFrequency_eq]

theorem needRepository_eq (same : SameFilters filters others) :
    needRepository filters = needRepository others := by
  rw [Bool.eq_iff_iff, needRepository, needRepository, List.any_eq_true, List.any_eq_true]
  exact same.exists_isFrequency_iff true

theorem all_wants_eq (same : SameFilters filters others) (frequency : Frequency) :
    filters.all (wants frequency) = others.all (wants frequency) := by
  rw [Bool.eq_iff_iff, List.all_eq_true, List.all_eq_true]
  exact same.forall_iff fun alike => by rw [alike.wants_eq]

/-- Clauses of the same filters select the same files. -/
theorem select_eq
    {condition otherCondition : Sql.Condition} (same : SameFilters filters others)
    (asks : conjunction? filters = some condition)
    (othersAsk : conjunction? others = some otherCondition) (limited : WithinLimits filters)
    (othersLimited : WithinLimits others) (tables : CaseTables) :
    tables.select condition = tables.select otherCondition := by
  classical
  rw [select_eq_selects tables asks limited, select_eq_selects tables othersAsk othersLimited]
  refine congrArg Except.ok (List.filter_congr fun file _ => ?_)
  have selected := same.forall_iff fun alike => alike.selects_iff tables file
  simp only [selected]

/-- Clauses of the same filters are refused alike where a table or a column is missing. -/
theorem check_fileAccess_eq
    {condition otherCondition : Sql.Condition} (same : SameFilters filters others)
    (asks : conjunction? filters = some condition)
    (othersAsk : conjunction? others = some otherCondition) (gaps : List SchemaGap) :
    (CaseTables.fileAccess condition).check gaps =
      (CaseTables.fileAccess otherCondition).check gaps := by
  have sameHits : filters.any asksHits = others.any asksHits := by
    rw [Bool.eq_iff_iff, List.any_eq_true, List.any_eq_true]
    exact same.exists_iff fun alike => by rw [alike.asksHits_eq]
  rw [check_fileAccess asks, check_fileAccess othersAsk, sameHits]

end SameFilters
end Filter

theorem Filter.ofClause_written
    {filters : List Filter} {condition : Sql.Condition}
    (nullFree : ∀ filter ∈ filters, filter.NullFree)
    (asks : conjunction? filters = some condition) (shallow : condition.depth ≤ Sql.depthLimit) :
    Sql.Condition.ofClause (String.ofList (Sql.Token.write (combinedTokens filters))).toList =
      .ok condition := by
  rw [String.toList_ofList]
  exact ofClause_combinedTokens nullFree asks shallow

/-! ## The same answers -/

/-- Clauses that select the same files and name the same columns get the same answer. -/
theorem CaseStore.find_congr
    {clause otherClause : String} {condition otherCondition : Sql.Condition}
    (isRead : Sql.Condition.ofClause clause.toList = .ok condition)
    (otherRead : Sql.Condition.ofClause otherClause.toList = .ok otherCondition)
    (sameSelected : ∀ tables : CaseTables,
      tables.select condition = tables.select otherCondition)
    (sameChecked : ∀ gaps,
      (CaseTables.fileAccess condition).check gaps =
        (CaseTables.fileAccess otherCondition).check gaps) :
    CaseStore.find clause = CaseStore.find otherClause := by
  have sameRequired (tables : Tables) :
      tables.requireCase (CaseTables.fileAccess condition) =
        tables.requireCase (CaseTables.fileAccess otherCondition) := by
    rw [Tables.requireCase, Tables.requireCase]
    cases tables.caseTables with
    | none =>
        rfl
    | some caseTables =>
        rw [requireTables, requireTables, sameChecked]
  rw [CaseStore.find, CaseStore.find, isRead, otherRead]
  simp only [sameSelected, sameRequired]

/-- A clause that can not be read is answered with an error, whatever the case holds. -/
theorem Workspace.askCase_eq_error
    {clause : String} {error : Sql.ClauseError}
    (notRead : Sql.Condition.ofClause clause.toList = .error error) (workspace : Workspace)
    (stores : StoreHandles) :
    ∃ cause, workspace.askCase stores clause = .error cause := by
  rw [Workspace.askCase]
  cases Workspace.caseHandle stores with
  | error storageError =>
      exact ⟨_, rfl⟩
  | ok id =>
      change ∃ cause,
        Workspace.describeError
            ((CaseStore.find clause).run.run (workspace.handle id)).1 = .error cause
      rw [CaseStore.find, run_get_bind, notRead]
      by_cases closed : (workspace.handle id).connection = .closed
      · rw [if_pos closed]
        exact ⟨_, rfl⟩
      · rw [if_neg closed]
        exact ⟨_, rfl⟩

namespace Search

open EvidenceSearch.Filter Recording

variable {filters others : List Filter} {stores : SearchStores} {options : SearchOptions}

/-- What a search with some filters asks and gets as an answer, one with other filters gets too. -/
def AnswersAlike (filters others : List Filter) (stores : SearchStores) : Prop :=
  ∀ answer, Queried filters stores answer → Queried others stores answer

theorem answersAlike_of_nullFree
    {workspace : Workspace} {handles : StoreHandles} {repository? : Option Repository}
    (same : SameFilters filters others) (limited : WithinLimits filters)
    (othersLimited : WithinLimits others) (nullFree : ∀ filter ∈ filters, filter.NullFree) :
    AnswersAlike filters others ⟨some (workspace.askCase handles), repository?⟩ := by
  intro answer queried
  have othersFree := (same.forall_iff SameAs.nullFree_iff).mp nullFree
  have othersAsking := (same.exists_isFrequency_iff false).mp queried.asking
  obtain ⟨condition, asks⟩ := exists_conjunction? queried.asking
  obtain ⟨otherCondition, othersAsk⟩ := exists_conjunction? othersAsking
  obtain ⟨find, clause, isStore, written, isAnswer⟩ := queried.answered
  obtain rfl := Option.some.inj isStore
  rw [combinedClause_eq_ok queried.asking] at written
  obtain rfl := Except.ok.inj written
  refine
    ⟨othersAsking, fun wanting => queried.equipped ((same.exists_isFrequency_iff true).mpr wanting),
      _, _, rfl, combinedClause_eq_ok othersAsking, ?_⟩
  have isRead := ofClause_written nullFree asks (limited.1 condition asks)
  have otherRead := ofClause_written othersFree othersAsk (othersLimited.1 otherCondition othersAsk)
  have sameSelected := same.select_eq asks othersAsk limited othersLimited
  rw [← isAnswer, Workspace.askCase, Workspace.askCase,
    CaseStore.find_congr isRead otherRead sameSelected (same.check_fileAccess_eq asks othersAsk)]

/-! ## The same outcome -/

theorem Enriched.alike
    {repository : Repository} {candidates : List FileRecord}
    (enriched : Enriched filters stores repository candidates)
    (same : SameFilters filters others) (alike : AnswersAlike filters others stores) :
    Enriched others stores repository candidates := by
  have wanting := (same.exists_isFrequency_iff true).mp enriched.wanting
  exact ⟨alike _ enriched.queried, enriched.filled, wanting, enriched.hasRepository⟩

/-- A search with the same filters fails for the same reason. -/
theorem Fails.alike
    {report : Report} (fails : Fails filters stores options report)
    (same : SameFilters filters others) (alike : AnswersAlike filters others stores) :
    Fails others stores options report := by
  cases fails with
  | noCase noStore =>
      exact .noCase noStore
  | nothingToAsk hasStore silent =>
      refine .nothingToAsk hasStore ?_
      exact (same.forall_iff fun alike => by rw [alike.isFrequency_eq]).mp silent
  | noRepository hasStore asking wanting noStore =>
      exact
        .noRepository hasStore ((same.exists_isFrequency_iff false).mp asking)
          ((same.exists_isFrequency_iff true).mp wanting) noStore
  | storeFailed queried =>
      exact .storeFailed (alike _ queried)
  | noNumber enriched noNumber =>
      exact .noNumber (enriched.alike same alike) noNumber
  | typeFailed enriched isNumber fails =>
      exact .typeFailed (enriched.alike same alike) isNumber fails
  | countFailed enriched isNumber isType counted hashed fails =>
      exact .countFailed (enriched.alike same alike) isNumber isType counted hashed fails

theorem Unhindered.alike
    {candidates : List FileRecord} {count : String → Number}
    (unhindered : Unhindered filters stores options candidates count)
    (same : SameFilters filters others) (alike : AnswersAlike filters others stores) :
    Unhindered others stores options candidates count :=
  ⟨alike _ unhindered.queried,
    fun wanting => unhindered.answers ((same.exists_isFrequency_iff true).mpr wanting)⟩

/-- Where the answers of the case store agree, so do the outcomes. -/
theorem outcome_alike
    (same : SameFilters filters others) (alike : AnswersAlike filters others stores)
    (options : SearchOptions) (before : Trace) :
    ((run filters stores options).run.run before).1.mapError Failure.report =
      ((run others stores options).run.run before).1.mapError Failure.report := by
  rcases fails_or_unhindered filters stores options with
    ⟨report, fails⟩ | ⟨candidates, count, unhindered⟩
  · obtain ⟨failure, isReport, ends⟩ := fails.run_ends
    obtain ⟨otherFailure, otherReport, othersEnd⟩ := (fails.alike same alike).run_ends
    obtain ⟨after, ran⟩ := ends before
    obtain ⟨otherAfter, othersRan⟩ := othersEnd before
    rw [ran, othersRan]
    exact congrArg Except.error (isReport.trans otherReport.symm)
  · obtain ⟨after, ran⟩ := unhindered.yields before
    obtain ⟨otherAfter, othersRan⟩ := (unhindered.alike same alike).yields before
    rw [ran, othersRan]
    simp only [wantedFiles, frequencyAfter, same.all_wants_eq, same.needRepository_eq]

/-- A search that asks the case store for a text with a null character fails there. -/
theorem storeFailed_of_null
    {workspace : Workspace} {handles : StoreHandles} {repository? : Option Repository}
    {answer : Except String (List FileRecord)}
    (queried : Queried filters ⟨some (workspace.askCase handles), repository?⟩ answer)
    (holdsNull : ∃ filter ∈ filters, ¬ filter.NullFree) (options : SearchOptions) :
    ∃ cause,
      (run filters ⟨some (workspace.askCase handles), repository?⟩ options).Ends
        (.error (.storeFailed cause)) := by
  obtain ⟨find, clause, isStore, written, isAnswer⟩ := queried.answered
  obtain rfl := Option.some.inj isStore
  rw [combinedClause_eq_ok queried.asking] at written
  obtain rfl := Except.ok.inj written
  obtain ⟨error, notRead⟩ := ofClause_combinedTokens_eq_error holdsNull
  rw [← String.toList_ofList (l := Sql.Token.write (combinedTokens filters))] at notRead
  obtain ⟨cause, fails⟩ := Workspace.askCase_eq_error notRead workspace handles
  obtain rfl := isAnswer.symm.trans fails
  exact ⟨cause, queried.run_ends (Traced.Ends.throw _)⟩

/-- Filters in another order, with values in another order, or repeated, give the same outcome: the
same files with the same frequencies, or a failure with the same kind, message and cause. There is
one exception: if a text holds a null character, the case store fails with either order, but the
cause that it gives may differ. -/
theorem order_does_not_matter
    {workspace : Workspace} {handles : StoreHandles}
    (onCase : stores.caseStore = some (workspace.askCase handles))
    (same : SameFilters filters others) (limited : WithinLimits filters)
    (othersLimited : WithinLimits others) (options : SearchOptions) (before : Trace) :
    ((run filters stores options).run.run before).1.mapError Failure.report =
        ((run others stores options).run.run before).1.mapError Failure.report ∨
      (∃ filter ∈ filters, ¬ filter.NullFree) ∧
        ∃ cause otherCause,
          ((run filters stores options).run.run before).1 = .error (.storeFailed cause) ∧
            ((run others stores options).run.run before).1 = .error (.storeFailed otherCause) := by
  obtain ⟨caseStore, repository?⟩ := stores
  obtain rfl : caseStore = some (workspace.askCase handles) := onCase
  by_cases nullFree : ∀ filter ∈ filters, filter.NullFree
  · have alike :
        AnswersAlike filters others ⟨some (workspace.askCase handles), repository?⟩ :=
      answersAlike_of_nullFree same limited othersLimited nullFree
    exact .inl (outcome_alike same alike options before)
  · have holdsNull : ∃ filter ∈ filters, ¬ filter.NullFree := by
      simpa using nullFree
    have othersHoldNull : ∃ other ∈ others, ¬ other.NullFree :=
      (same.exists_iff fun alike => not_congr alike.nullFree_iff).mp holdsNull
    by_cases asks :
      ∃ answer, Queried filters ⟨some (workspace.askCase handles), repository?⟩ answer
    · right
      obtain ⟨answer, queried⟩ := asks
      obtain ⟨otherAnswer, othersQueried⟩ :=
        exists_queried (Option.some_ne_none _)
          ((same.exists_isFrequency_iff false).mp queried.asking)
          fun wanting => queried.equipped ((same.exists_isFrequency_iff true).mpr wanting)
      obtain ⟨cause, ends⟩ := storeFailed_of_null queried holdsNull options
      obtain ⟨otherCause, othersEnd⟩ := storeFailed_of_null othersQueried othersHoldNull options
      obtain ⟨after, ran⟩ := ends before
      obtain ⟨otherAfter, othersRan⟩ := othersEnd before
      exact ⟨holdsNull, cause, otherCause, congrArg Prod.fst ran, congrArg Prod.fst othersRan⟩
    · refine .inl (outcome_alike same ?_ options before)
      exact fun answer queried => absurd ⟨answer, queried⟩ asks

theorem words_filled : "words" ≠ "" := by
  decide

theorem small_ordered : ∀ bound ∈ some 10, 0 < bound := by
  decide

/-- The filters for small files with rare words, in another order and some of them repeated. -/
def rareWordsRepeated : List Filter :=
  [.frequency ⟨.rare, [.rare]⟩, .keywordList ⟨⟨"words", words_filled⟩, []⟩,
    .size ⟨⟨0, some 10, small_ordered⟩, [⟨0, some 10, small_ordered⟩]⟩, .frequency ⟨.rare, []⟩]

theorem rareWords_sameFilters : SameFilters rareWordsFilters rareWordsRepeated := by
  have sizes :
      Choices.SameAs (⟨⟨0, some 10, by decide⟩, []⟩ : Choices SizeRange)
        ⟨⟨0, some 10, by decide⟩, [⟨0, some 10, by decide⟩]⟩ := by
    simp [Choices.SameAs, Choices.toList]
  have frequencies :
      Choices.SameAs (⟨.rare, []⟩ : Choices Frequency) ⟨.rare, [.rare]⟩ := by
    simp [Choices.SameAs, Choices.toList]
  constructor
  · intro filter member
    simp only [rareWordsFilters, List.mem_cons, List.not_mem_nil, or_false] at member
    rcases member with rfl | rfl | rfl
    · exact ⟨_, by simp [rareWordsRepeated], .size sizes⟩
    · exact ⟨_, by simp [rareWordsRepeated], .refl _⟩
    · exact ⟨_, by simp [rareWordsRepeated], .frequency frequencies⟩
  · intro other member
    simp only [rareWordsRepeated, List.mem_cons, List.not_mem_nil, or_false] at member
    rcases member with rfl | rfl | rfl | rfl
    · exact ⟨_, by simp [rareWordsFilters], .frequency frequencies⟩
    · exact ⟨_, by simp [rareWordsFilters], .refl _⟩
    · exact ⟨_, by simp [rareWordsFilters], .size sizes⟩
    · exact ⟨_, by simp [rareWordsFilters], .refl _⟩

/-- The stores after some calls. -/
def mixedWorkspaceStores : SearchStores :=
  (ofCalls newDatabases 0 1 mixedCalls).workspace.searchStores (storesOn 0 1) true

theorem order_of_rareWords :
    ((run rareWordsFilters mixedWorkspaceStores .standard).run.run {}).1.mapError Failure.report =
      ((run rareWordsRepeated mixedWorkspaceStores .standard).run.run {}).1.mapError
        Failure.report := by
  have nullFree : ∀ filter ∈ rareWordsFilters, filter.NullFree := by
    simp only [NullFree]
    decide
  have limited : WithinLimits rareWordsFilters := by
    refine ⟨?_, by decide⟩
    rintro condition ⟨rfl⟩
    decide
  have othersLimited : WithinLimits rareWordsRepeated := by
    refine ⟨?_, by decide⟩
    rintro condition ⟨rfl⟩
    decide
  have onCase :
      mixedWorkspaceStores.caseStore =
        some ((ofCalls newDatabases 0 1 mixedCalls).workspace.askCase (storesOn 0 1)) :=
    rfl
  rcases order_does_not_matter onCase rareWords_sameFilters limited othersLimited .standard {} with
    alike | ⟨⟨filter, member, holdsNull⟩, _⟩
  · exact alike
  · exact absurd (nullFree filter member) holdsNull

/-- Searches for two whole paths that hold null characters. -/
def nullPaths : List Filter :=
  [.parent ⟨⟨⟨"a\x00", true⟩, by decide⟩, []⟩, .parent ⟨⟨⟨"b\x00", true⟩, by decide⟩, []⟩]

/-- A new case, and no central repository. -/
def newCaseStores : SearchStores :=
  (ofCalls newDatabases 0 1 []).workspace.searchStores (storesOn 0 1) false

/-- With null characters the cause that is reported quotes the text that comes first. -/
theorem order_shows_in_cause :
    SameFilters nullPaths nullPaths.reverse ∧ WithinLimits nullPaths ∧
      WithinLimits nullPaths.reverse ∧
      ((run nullPaths newCaseStores .standard).run.run {}).1 =
        .error (.storeFailed "unrecognized token: \"'a\"") ∧
      ((run nullPaths.reverse newCaseStores .standard).run.run {}).1 =
        .error (.storeFailed "unrecognized token: \"'b\"") := by
  refine ⟨.of_perm (List.reverse_perm _).symm, ⟨?_, by decide⟩, ⟨?_, by decide⟩, ?_, ?_⟩
  · rintro condition ⟨rfl⟩
    decide
  · rintro condition ⟨rfl⟩
    decide
  · decide +kernel
  · decide +kernel

end Search
end EvidenceSearch
