import EvidenceSearch.Settings
import EvidenceSearch.Proofs.Filter.FileTypes
import EvidenceSearch.Proofs.Listing
import EvidenceSearch.Proofs.Server.Answering

/-!
# Options that the environment sets

A variable means the whole number that it writes, and the standard one if it is unset or blank or
writes no whole number. Thresholds that would leave no room for a bucket are refused, and the
number of lookups at once is brought between one and the largest. So every count falls into the
bucket between the thresholds around it, and no search with such options lacks a pool for its
lookups.
-/

namespace EvidenceSearch

variable {environment : Environment} {options : SearchOptions} {problems : List ThresholdProblem}

/-! ## Whole numbers in the environment -/

theorem ofNumeral_trim (text : String) : Number.ofNumeral (trim text) = Number.ofNumeral text := by
  rw [Number.ofNumeral, Number.ofNumeral, trim, String.toList_ofList, trimCharacters_trimCharacters]

namespace Environment

/-- The whole number that a variable means. -/
def meant (environment : Environment) (key : String) (standard : Int) : Int :=
  match List.lookup key environment with
  | none => standard
  | some text =>
      if trim text = "" then standard
      else (Number.ofNumeral text).wholeValue?.getD standard

theorem whole_eq_meant (environment : Environment) (key : String) (standard : Int) :
    environment.whole key (.finite standard) = .finite (environment.meant key standard) := by
  cases isText : List.lookup key environment with
  | none =>
      rw [whole, text?, meant, isText]
      rfl
  | some text =>
      by_cases isBlank : trim text = ""
      · have noText : environment.text? key = none := by
          rw [text?, isText]
          simp [isBlank]
        rw [whole, noText, meant, isText]
        simp only [isBlank, if_true]
      · have hasText : environment.text? key = some (trim text) := by
          rw [text?, isText]
          simp [isBlank]
        rw [whole, hasText, meant, isText]
        simp only [isBlank, if_false, ofNumeral_trim]
        cases isWhole : (Number.ofNumeral text).wholeValue? with
        | none =>
            rfl
        | some value =>
            exact Number.eq_of_wholeValue? isWhole

/-- The largest count of a unique file that the environment means. -/
def uniqueMax (environment : Environment) : Int :=
  environment.meant "FREQUENCY_UNIQUE_MAX_COUNT" 0

/-- The largest count of a rare file that the environment means. -/
def rareMax (environment : Environment) : Int :=
  environment.meant "FREQUENCY_RARE_MAX_COUNT" 10

/-- The number of lookups at once that the environment means. -/
def lookupsMeant (environment : Environment) : Int :=
  environment.meant "ENRICHMENT_CONCURRENCY" 4

theorem thresholds_eq (environment : Environment) :
    environment.thresholds = ⟨.finite environment.uniqueMax, .finite environment.rareMax⟩ := by
  have unique := environment.whole_eq_meant "FREQUENCY_UNIQUE_MAX_COUNT" 0
  have rare := environment.whole_eq_meant "FREQUENCY_RARE_MAX_COUNT" 10
  exact congrArg₂ Thresholds.mk unique rare

theorem below_finite (left right : Int) :
    (Number.finite left).below (.finite right) = decide (left < right) := by
  rw [Number.below]
  exact decide_eq_decide.mpr Int.cast_lt

theorem concurrency_eq (environment : Environment) :
    environment.concurrency = .finite (min 32 (max 1 environment.lookupsMeant) : Int) := by
  have isMeant :
      environment.whole "ENRICHMENT_CONCURRENCY" SearchOptions.standard.concurrency =
        .finite environment.lookupsMeant :=
    environment.whole_eq_meant "ENRICHMENT_CONCURRENCY" 4
  have tooFew := below_finite environment.lookupsMeant 1
  have tooMany := below_finite 32 environment.lookupsMeant
  rw [Int.cast_one] at tooFew
  rw [Int.cast_ofNat] at tooMany
  rw [concurrency, isMeant, largestConcurrency]
  simp only [tooFew, tooMany, decide_eq_true_iff]
  by_cases few : environment.lookupsMeant < 1
  · rw [if_pos few, max_eq_left few.le]
    rfl
  · rw [if_neg few, max_eq_right (not_lt.mp few)]
    by_cases many : 32 < environment.lookupsMeant
    · rw [if_pos many, min_eq_left many.le]
      rfl
    · rw [if_neg many, min_eq_right (not_lt.mp many)]

end Environment

/-! ## Thresholds that are refused -/

namespace ThresholdProblem

/-- All problems, in the order in which they are listed. -/
def inOrder : List ThresholdProblem :=
  [.negativeUnique, .negativeRare, .uniqueAboveRare]

/-- Whether the thresholds have the problem. -/
def occurs (unique rare : Int) : ThresholdProblem → Bool
  | .negativeUnique => unique < 0
  | .negativeRare => rare < 0
  | .uniqueAboveRare => rare < unique

/-- The problems that the thresholds have, each once and in order. -/
def occurring (unique rare : Int) : List ThresholdProblem :=
  inOrder.filter (occurs unique rare)

theorem occurring_eq_nil_iff (unique rare : Int) :
    occurring unique rare = [] ↔ 0 ≤ unique ∧ 0 ≤ rare ∧ unique ≤ rare := by
  simp [occurring, inOrder, occurs]

theorem message_plain (problem : ThresholdProblem) : '\n' ∉ problem.message.toList := by
  cases problem <;> decide

end ThresholdProblem

theorem Thresholds.problems_eq (unique rare : Int) :
    (Thresholds.mk (.finite unique) (.finite rare)).problems =
      ThresholdProblem.occurring unique rare := by
  have isUnique := Environment.below_finite unique 0
  have isRare := Environment.below_finite rare 0
  rw [Int.cast_zero] at isUnique isRare
  rw [problems, isUnique, isRare, Environment.below_finite, ThresholdProblem.occurring,
    ThresholdProblem.inOrder]
  by_cases lowUnique : unique < 0 <;> by_cases lowRare : rare < 0 <;>
    by_cases above : rare < unique <;>
    simp [ThresholdProblem.occurs, lowUnique, lowRare, above]

theorem thresholdMessage_lists (problems : List ThresholdProblem) :
    thresholdMessage problems =
      "Invalid frequency thresholds:" ++ "\n  - " ++
        "\n  - ".intercalate (problems.map ThresholdProblem.message) := by
  have start :
      "Invalid frequency thresholds:\n  - " = "Invalid frequency thresholds:" ++ "\n  - " := by
    decide
  exact congrArg (· ++ _) start

/-- The message has one line for each problem, below a line above them. -/
theorem splitOn_thresholdMessage (reported : problems ≠ []) :
    (thresholdMessage problems).toList.splitOn '\n' =
      "Invalid frequency thresholds:".toList ::
        problems.map fun problem => (listed problem.message).toList := by
  have plain : ∀ message ∈ problems.map ThresholdProblem.message, '\n' ∉ message.toList := by
    intro message isMessage
    obtain ⟨problem, _, rfl⟩ := List.mem_map.mp isMessage
    exact problem.message_plain
  rw [splitOn_of_listing (thresholdMessage_lists problems) (mt List.map_eq_nil_iff.mp reported)
    (by decide) plain, List.map_map]
  rfl

namespace Environment

theorem searchOptions_eq (environment : Environment) :
    environment.searchOptions =
      if ThresholdProblem.occurring environment.uniqueMax environment.rareMax = [] then
        .ok ⟨⟨.finite environment.uniqueMax, .finite environment.rareMax⟩, environment.concurrency⟩
      else .error (ThresholdProblem.occurring environment.uniqueMax environment.rareMax) := by
  rw [searchOptions, thresholds_eq, Thresholds.check, Thresholds.problems_eq]
  cases ThresholdProblem.occurring environment.uniqueMax environment.rareMax <;> rfl

end Environment

/-! ## Buckets -/

theorem atMost_finite (count bound : Int) :
    (Number.finite count).atMost (.finite bound) = decide (count ≤ bound) := by
  rw [Number.atMost, Environment.below_finite, Number.equals, ← Bool.decide_or]
  exact decide_eq_decide.mpr ((or_congr_right Int.cast_inj).trans le_iff_lt_or_eq.symm)

theorem Thresholds.bucket_finite (unique rare count : Int) :
    (Thresholds.mk (.finite unique) (.finite rare)).bucket (.finite count) =
      if count ≤ unique then .unique else if count ≤ rare then .rare else .common := by
  rw [bucket, atMost_finite, atMost_finite]
  simp only [decide_eq_true_iff]

/-- The frequency is the bucket of the count, between the thresholds. -/
structure IsBucket (uniqueMax rareMax : Int) (count : Nat) (frequency : Frequency) : Prop where
  unique : frequency = .unique ↔ count ≤ uniqueMax
  rare : frequency = .rare ↔ uniqueMax < count ∧ count ≤ rareMax
  common : frequency = .common ↔ rareMax < count

theorem isBucket_bucket {unique rare : Int} (ordered : unique ≤ rare) (count : Nat) :
    IsBucket unique rare count
      ((Thresholds.mk (.finite unique) (.finite rare)).bucket (.finite count)) := by
  have isBucket := Thresholds.bucket_finite unique rare count
  rw [Int.cast_natCast] at isBucket
  rw [isBucket]
  by_cases few : (count : Int) ≤ unique
  · rw [if_pos few]
    exact
      ⟨iff_of_true rfl few, iff_of_false nofun (by omega), iff_of_false nofun (by omega)⟩
  · by_cases several : (count : Int) ≤ rare
    · rw [if_neg few, if_pos several]
      exact
        ⟨iff_of_false nofun few, iff_of_true rfl (by omega), iff_of_false nofun (by omega)⟩
    · rw [if_neg few, if_neg several]
      exact
        ⟨iff_of_false nofun few, iff_of_false nofun (by omega), iff_of_true rfl (by omega)⟩

/-! ## Pools -/

theorem ofConcurrency?_finite {lookups : Int} (positive : 1 ≤ lookups) :
    Pool.ofConcurrency? (.finite lookups) = some (.sized lookups.toNat) := by
  rw [Pool.ofConcurrency?]
  have atLeastOne : 1 ≤ lookups.toNat := by omega
  simp [atLeastOne]

namespace ResultFile

/-- Where the number of lookups at once is a number, no stage lacks a pool. -/
theorem sortOut_ne_noPool
    (isNumber : options.concurrency ≠ .nan) (repository? : Option Repository)
    (wanted : List Frequency) (results : List ResultFile) (before : Trace) :
    ((sortOut repository? options wanted results).run.run before).1 ≠ .error .noPool := by
  have of_ends {outcome : Except StageError (List ResultFile × List ResultFile)}
      (ends : (sortOut repository? options wanted results).Ends outcome)
      (other : outcome ≠ .error .noPool) :
      ((sortOut repository? options wanted results).run.run before).1 ≠ .error .noPool := by
    obtain ⟨after, ran⟩ := ends before
    rw [ran]
    exact other
  cases repository? with
  | none =>
      have fails :
          (findFrequencies none options results).Ends
            (.error (.failed .frequencyWithoutRepository)) :=
        Traced.Ends.throw _
      exact of_ends (fails.bind_error _) nofun
  | some repository =>
      by_cases empty : results = []
      · subst empty
        have fails :
            (findFrequencies (some repository) options []).Ends
              (.error (.failed .frequencyOfNothing)) :=
          Traced.Ends.throw _
        exact of_ends (fails.bind_error _) nofun
      · obtain ⟨pool, isPool⟩ := Pool.exists_ofConcurrency? isNumber
        cases isType : repository.typeById CorrelationType.filesId with
        | error cause =>
            have fails := Search.sortOut_ends_typeFailed wanted empty isNumber isType
            exact of_ends fails nofun
        | ok type =>
            have ends := sortOut_ends wanted empty isPool isType
            refine of_ends ends ?_
            cases lookUpAll repository options.thresholds type results <;> nofun

end ResultFile

/-- Where the number of lookups at once is a number, no search fails for want of a pool. -/
theorem Search.run_ne_stageFailed
    (isNumber : options.concurrency ≠ .nan) (filters : List Filter) (stores : SearchStores)
    (before : Trace) (cause : String) :
    ((Search.run filters stores options).run.run before).1 ≠ .error (.stageFailed cause) := by
  rcases fails_or_unhindered filters stores options with
    ⟨report, fails⟩ | ⟨candidates, count, unhindered⟩
  · obtain ⟨failure, isReport, ends⟩ := fails.run_ends
    obtain ⟨after, ran⟩ := ends before
    rw [ran]
    intro same
    obtain rfl := Except.error.inj same
    have isMessage : "Error applying per-file filter" = report.message :=
      congrArg Report.message isReport
    cases fails with
    | noNumber _ noNumber =>
        exact isNumber noNumber
    | _ =>
        dsimp only at isMessage
        revert isMessage
        decide
  · obtain ⟨after, ran⟩ := unhindered.yields before
    rw [ran]
    nofun

theorem searchFiles_ne_stageFailed
    (isNumber : options.concurrency ≠ .nan) (stores : SearchStores) (catalog : Catalog)
    (arguments : SearchArguments) (before : Trace) (cause : String) :
    ((searchFiles stores options catalog arguments).run.run before).1 ≠
      .error (.stageFailed cause) := by
  cases made : catalog.filters arguments with
  | error failure =>
      rw [run_searchFiles_of_unknown made]
      intro same
      obtain rfl := Except.error.inj same
      cases catalog.blamesInput_filters arguments _ made
  | ok filters =>
      cases ran : (Search.run filters stores options).run.run before with
      | mk outcome after =>
          have notFailed := Search.run_ne_stageFailed isNumber filters stores before cause
          rw [ran] at notFailed
          rw [run_searchFiles_of_made made ran]
          cases outcome with
          | error failure =>
              exact fun same => notFailed (congrArg Except.error (Except.error.inj same))
          | ok results =>
              nofun

/-! ## Options that can not be broken -/

/-- What can be said of the options that an environment sets: the thresholds are the whole numbers
that it means, and they are in order; the number of lookups at once is a whole number from one to
the largest; every count falls into the bucket between the thresholds, also where files are looked
up; and no stage and no search lacks a pool. -/
structure Environment.SetsSound (environment : Environment) (options : SearchOptions) : Prop where
  thresholds : options.thresholds = ⟨.finite environment.uniqueMax, .finite environment.rareMax⟩
  ordered : 0 ≤ environment.uniqueMax ∧ environment.uniqueMax ≤ environment.rareMax
  concurrency :
    ∃ lookups : Int, options.concurrency = .finite lookups ∧ 1 ≤ lookups ∧ lookups ≤ 32 ∧
      lookups = min 32 (max 1 environment.lookupsMeant)
  buckets :
    ∀ count : Nat,
      IsBucket environment.uniqueMax environment.rareMax count
        (options.thresholds.bucket (.finite count))
  lookUps :
    ∀ (repository : Repository) (type : CorrelationType) (result found : ResultFile)
      (hash : String) (count : Nat),
      result.file.hash? = some hash → repository.count type hash = .ok (.finite count) →
        result.lookUp repository options.thresholds type = .ok found →
          IsBucket environment.uniqueMax environment.rareMax count found.frequency
  pool :
    ∃ size, Pool.ofConcurrency? options.concurrency = some (.sized size) ∧ 1 ≤ size ∧ size ≤ 32
  stages :
    ∀ repository? wanted results before,
      ((ResultFile.sortOut repository? options wanted results).run.run before).1 ≠ .error .noPool
  searches :
    ∀ filters stores before cause,
      ((Search.run filters stores options).run.run before).1 ≠ .error (.stageFailed cause)
  tools :
    ∀ stores catalog arguments before cause,
      ((searchFiles stores options catalog arguments).run.run before).1 ≠
        .error (.stageFailed cause)

theorem Environment.setsSound_of_searchOptions
    (isSet : environment.searchOptions = .ok options) : environment.SetsSound options := by
  rw [searchOptions_eq] at isSet
  by_cases noProblem :
    ThresholdProblem.occurring environment.uniqueMax environment.rareMax = []
  · rw [if_pos noProblem] at isSet
    obtain rfl := Except.ok.inj isSet
    obtain ⟨nonnegative, _, ordered⟩ := (ThresholdProblem.occurring_eq_nil_iff _ _).mp noProblem
    have isConcurrency := environment.concurrency_eq
    have isNumber : environment.concurrency ≠ .nan := by
      rw [isConcurrency]
      nofun
    have positive : 1 ≤ min 32 (max 1 environment.lookupsMeant) := by omega
    have buckets (count : Nat) := isBucket_bucket ordered count
    exact
      { thresholds := rfl
        ordered := ⟨nonnegative, ordered⟩
        concurrency := ⟨_, isConcurrency, positive, by omega, rfl⟩
        buckets := buckets
        lookUps := by
          intro repository type result found hash count hashed counted looked
          rw [ResultFile.lookUp, hashed] at looked
          simp only [counted] at looked
          obtain rfl := Except.ok.inj looked
          exact buckets count
        pool :=
          ⟨_, (congrArg Pool.ofConcurrency? isConcurrency).trans (ofConcurrency?_finite positive),
            by omega, by omega⟩
        stages := ResultFile.sortOut_ne_noPool isNumber
        searches := Search.run_ne_stageFailed isNumber
        tools := searchFiles_ne_stageFailed isNumber }
  · rw [if_neg noProblem] at isSet
    cases isSet

/-- The options of an environment are refused exactly if the thresholds that it means are negative
or out of order, and then the message has a line for each problem that occurs. Otherwise they can
not be broken. -/
theorem searchOptions_refused_or_sound (environment : Environment) :
    ((∃ problems, environment.searchOptions = .error problems) ↔
        environment.uniqueMax < 0 ∨ environment.rareMax < 0 ∨
          environment.rareMax < environment.uniqueMax) ∧
      (∀ problems, environment.searchOptions = .error problems →
        problems = ThresholdProblem.occurring environment.uniqueMax environment.rareMax ∧
          (thresholdMessage problems).toList.splitOn '\n' =
            "Invalid frequency thresholds:".toList ::
              problems.map fun problem => (listed problem.message).toList) ∧
      ∀ options, environment.searchOptions = .ok options → environment.SetsSound options := by
  have isOptions := environment.searchOptions_eq
  have noneOccurs :=
    ThresholdProblem.occurring_eq_nil_iff environment.uniqueMax environment.rareMax
  refine ⟨?_, ?_, fun options => Environment.setsSound_of_searchOptions⟩
  · rw [isOptions]
    constructor
    · rintro ⟨problems, refused⟩
      by_cases noProblem :
        ThresholdProblem.occurring environment.uniqueMax environment.rareMax = []
      · rw [if_pos noProblem] at refused
        cases refused
      · rw [noneOccurs] at noProblem
        omega
    · intro violated
      exact ⟨_, if_neg fun noProblem => by have := noneOccurs.mp noProblem; omega⟩
  · intro problems refused
    rw [isOptions] at refused
    by_cases noProblem :
      ThresholdProblem.occurring environment.uniqueMax environment.rareMax = []
    · rw [if_pos noProblem] at refused
      cases refused
    · rw [if_neg noProblem] at refused
      obtain rfl := Except.error.inj refused
      exact ⟨rfl, splitOn_thresholdMessage noProblem⟩

/-- An environment that sets one threshold in another base, one above it with blanks around it, and
too many lookups. -/
def generousEnvironment : Environment :=
  [("FREQUENCY_UNIQUE_MAX_COUNT", "0x2"), ("FREQUENCY_RARE_MAX_COUNT", " 1e1 "),
    ("ENRICHMENT_CONCURRENCY", "64")]

/-- An environment whose thresholds are negative and out of order. -/
def brokenEnvironment : Environment :=
  [("FREQUENCY_UNIQUE_MAX_COUNT", "-1"), ("FREQUENCY_RARE_MAX_COUNT", "-2")]

theorem sound_generousEnvironment_refused_brokenEnvironment :
    generousEnvironment.SetsSound ⟨⟨.finite 2, .finite 10⟩, .finite 32⟩ ∧
      (∃ problems, brokenEnvironment.searchOptions = .error problems) ∧
      (thresholdMessage [.negativeUnique, .negativeRare, .uniqueAboveRare]).toList.splitOn '\n' =
        ["Invalid frequency thresholds:".toList, "  - uniqueMaxCount must be non-negative".toList,
          "  - rareMaxCount must be non-negative".toList,
          "  - uniqueMaxCount must be <= rareMaxCount".toList] := by
  obtain ⟨_, _, sound⟩ := searchOptions_refused_or_sound generousEnvironment
  obtain ⟨refused, listing, _⟩ := searchOptions_refused_or_sound brokenEnvironment
  refine ⟨sound _ (by decide +kernel), refused.mpr (Or.inl (by decide +kernel)), ?_⟩
  exact (listing _ (by decide +kernel)).2

end EvidenceSearch
