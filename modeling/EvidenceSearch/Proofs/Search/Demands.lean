import EvidenceSearch.Failure
import EvidenceSearch.Proofs.Steps

/-!
# Demands in order

Input that is checked has to meet demands, which stand in the order in which they are looked at. A
check follows its demands if it succeeds exactly when all of them are met, and otherwise fails for
the first that is not. Checks that are made one after the other follow the demands of the one and
then those of the other.
-/

namespace EvidenceSearch

/-! ## First values -/

/-- Of some values this is the first that fits. -/
def IsFirst {Value : Type} (Fits : Value → Prop) (values : List Value) (value : Value) : Prop :=
  ∃ before after,
    values = before ++ value :: after ∧ (∀ other ∈ before, ¬ Fits other) ∧ Fits value

section First

variable {Value : Type} {Fits : Value → Prop} {values : List Value} {value : Value}

theorem IsFirst.mem (first : IsFirst Fits values value) : value ∈ values := by
  obtain ⟨before, after, rfl, _⟩ := first
  exact List.mem_append_right before List.mem_cons_self

theorem IsFirst.fits (first : IsFirst Fits values value) : Fits value := by
  obtain ⟨_, _, _, _, fits⟩ := first
  exact fits

theorem find?_eq_some_iff_isFirst
    {test : Value → Bool} (tests : ∀ value, test value = true ↔ Fits value) :
    values.find? test = some value ↔ IsFirst Fits values value := by
  rw [List.find?_eq_some_iff_append]
  constructor
  · rintro ⟨passes, before, after, rfl, noneBefore⟩
    refine ⟨before, after, rfl, fun other member fits => ?_, (tests value).mp passes⟩
    have fails := noneBefore other member
    rw [(tests other).mpr fits] at fails
    cases fails
  · rintro ⟨before, after, rfl, noneBefore, fits⟩
    refine ⟨(tests value).mpr fits, before, after, rfl, fun other member => ?_⟩
    have fails : test other ≠ true :=
      fun passes => noneBefore other member ((tests other).mp passes)
    rw [Bool.eq_false_of_not_eq_true fails]
    rfl

theorem exists_isFirst_iff :
    (∃ value, IsFirst Fits values value) ↔ ∃ value ∈ values, Fits value := by
  classical
  have isFirst (value : Value) :
      (values.find? fun value => Fits value) = some value ↔ IsFirst Fits values value :=
    find?_eq_some_iff_isFirst fun value => decide_eq_true_iff
  constructor
  · rintro ⟨value, first⟩
    exact ⟨value, first.mem, first.fits⟩
  · rintro ⟨value, member, fits⟩
    have found : (values.find? fun value => Fits value).isSome = true :=
      List.find?_isSome.mpr ⟨value, member, decide_eq_true fits⟩
    obtain ⟨first, isFound⟩ := Option.isSome_iff_exists.mp found
    exact ⟨first, (isFirst first).mp isFound⟩

theorem isFirst_cons_iff {first : Value} {others : List Value} :
    IsFirst Fits (first :: others) value ↔
      value = first ∧ Fits first ∨ ¬ Fits first ∧ IsFirst Fits others value := by
  constructor
  · rintro ⟨before, after, same, noneBefore, fits⟩
    cases before with
    | nil =>
        obtain ⟨rfl, rfl⟩ := List.cons.inj same
        exact Or.inl ⟨rfl, fits⟩
    | cons other before =>
        obtain ⟨rfl, rfl⟩ := List.cons.inj same
        obtain ⟨notFirst, noneBefore⟩ := List.forall_mem_cons.mp noneBefore
        exact Or.inr ⟨notFirst, before, after, rfl, noneBefore, fits⟩
  · rintro (⟨rfl, fits⟩ | ⟨notFirst, before, after, rfl, noneBefore, fits⟩)
    · exact ⟨[], others, rfl, List.forall_mem_nil _, fits⟩
    · exact
        ⟨first :: before, after, rfl, List.forall_mem_cons.mpr ⟨notFirst, noneBefore⟩, fits⟩

theorem IsFirst.unique
    {other : Value} (first : IsFirst Fits values value) (otherFirst : IsFirst Fits values other) :
    value = other := by
  induction values with
  | nil =>
      exact absurd first.mem List.not_mem_nil
  | cons head tail inductionHypothesis =>
      rcases isFirst_cons_iff.mp first with ⟨rfl, fits⟩ | ⟨unfit, later⟩
      · rcases isFirst_cons_iff.mp otherFirst with ⟨rfl, _⟩ | ⟨unfit, _⟩
        · rfl
        · exact absurd fits unfit
      · rcases isFirst_cons_iff.mp otherFirst with ⟨_, fits⟩ | ⟨_, otherLater⟩
        · exact absurd fits unfit
        · exact inductionHypothesis later otherLater

theorem IsFirst.append_right
    (first : IsFirst Fits values value) (others : List Value) :
    IsFirst Fits (values ++ others) value := by
  obtain ⟨before, after, rfl, noneBefore, fits⟩ := first
  exact ⟨before, after ++ others, by simp, noneBefore, fits⟩

theorem IsFirst.append_left
    {others : List Value} (none : ∀ other ∈ others, ¬ Fits other)
    (first : IsFirst Fits values value) :
    IsFirst Fits (others ++ values) value := by
  obtain ⟨before, after, rfl, noneBefore, fits⟩ := first
  exact
    ⟨others ++ before, after, by simp, List.forall_mem_append.mpr ⟨none, noneBefore⟩, fits⟩

end First

/-! ## Demands -/

/-- What is demanded of some input, and why a search fails if that is not met. -/
structure Demand where
  failure : Failure
  Met : Prop

/-- The failure is that of the first demand that is not met. -/
def FailsFor (demands : List Demand) (failure : Failure) : Prop :=
  ∃ demand, IsFirst (fun demand => ¬ demand.Met) demands demand ∧ demand.failure = failure

/-- The check succeeds with a value for which the statement holds, if all demands are met, and it
fails for the first that is not. -/
inductive Follows {Value : Type} (demands : List Demand) (Holds : Value → Prop) :
    Except Failure Value → Prop where
  | met {value : Value} :
      (∀ demand ∈ demands, demand.Met) → Holds value → Follows demands Holds (.ok value)
  | unmet {failure : Failure} : FailsFor demands failure → Follows demands Holds (.error failure)

section Follows

variable {Entry Value Image : Type} {first second demands : List Demand}
variable {Holds : Value → Prop} {Yields : Image → Prop} {outcome : Except Failure Value}

theorem FailsFor.not_all_met
    {failure : Failure} (fails : FailsFor demands failure) :
    ¬ ∀ demand ∈ demands, demand.Met := by
  obtain ⟨demand, isFirst, _⟩ := fails
  exact fun allMet => isFirst.fits (allMet demand isFirst.mem)

theorem FailsFor.unique
    {failure other : Failure} (fails : FailsFor demands failure)
    (failsOther : FailsFor demands other) :
    failure = other := by
  obtain ⟨demand, isFirst, rfl⟩ := fails
  obtain ⟨otherDemand, isFirstToo, rfl⟩ := failsOther
  rw [isFirst.unique isFirstToo]

/-- A check that follows its demands succeeds exactly if they are met. -/
theorem Follows.exists_ok_iff (follows : Follows demands Holds outcome) :
    (∃ value, outcome = .ok value) ↔ ∀ demand ∈ demands, demand.Met := by
  cases follows with
  | met allMet holds =>
      exact iff_of_true ⟨_, rfl⟩ allMet
  | unmet fails =>
      refine iff_of_false ?_ fails.not_all_met
      rintro ⟨value, ended⟩
      cases ended

theorem Follows.holds
    {value : Value} (follows : Follows demands Holds outcome) (ended : outcome = .ok value) :
    Holds value := by
  subst ended
  cases follows with
  | met _ holds =>
      exact holds

/-- It fails with the failure of the first demand that is not met, and with no other. -/
theorem Follows.eq_error_iff
    {failure : Failure} (follows : Follows demands Holds outcome) :
    outcome = .error failure ↔ FailsFor demands failure := by
  cases follows with
  | met allMet holds =>
      refine iff_of_false ?_ fun fails => fails.not_all_met allMet
      exact nofun
  | unmet fails =>
      constructor
      · rintro ⟨⟩
        exact fails
      · intro failsToo
        rw [fails.unique failsToo]

theorem Follows.mono
    {Other : Value → Prop} (follows : Follows demands Holds outcome)
    (weaker : ∀ value, Holds value → Other value) :
    Follows demands Other outcome := by
  cases follows with
  | met allMet holds =>
      exact .met allMet (weaker _ holds)
  | unmet fails =>
      exact .unmet fails

theorem follows_ok {value : Value} (holds : Holds value) : Follows [] Holds (.ok value) :=
  .met (List.forall_mem_nil _) holds

theorem follows_unmet {demand : Demand} (unmet : ¬ demand.Met) :
    Follows (demand :: demands) Holds (.error demand.failure) :=
  .unmet ⟨demand, isFirst_cons_iff.mpr (Or.inl ⟨rfl, unmet⟩), rfl⟩

theorem Follows.cons
    {demand : Demand} (met : demand.Met) (follows : Follows demands Holds outcome) :
    Follows (demand :: demands) Holds outcome := by
  cases follows with
  | met allMet holds =>
      exact .met (List.forall_mem_cons.mpr ⟨met, allMet⟩) holds
  | unmet fails =>
      obtain ⟨other, isFirst, isFailure⟩ := fails
      exact .unmet ⟨other, isFirst_cons_iff.mpr (Or.inr ⟨not_not.mpr met, isFirst⟩), isFailure⟩

/-- A check that succeeds under a condition demands that condition. -/
theorem follows_dite
    {demand : Demand} {condition : Prop} [Decidable condition] {make : condition → Value}
    (met : demand.Met ↔ condition) (holds : ∀ isMet, Holds (make isMet)) :
    Follows [demand] Holds
      (if isMet : condition then .ok (make isMet) else .error demand.failure) := by
  by_cases isMet : condition
  · rw [dif_pos isMet]
    exact Follows.cons (met.mpr isMet) (follows_ok (holds isMet))
  · rw [dif_neg isMet]
    exact follows_unmet (met.not.mpr isMet)

/-- A lookup from the front demands that there is a first value. -/
theorem follows_first
    {Fits : Value → Prop} {values : List Value} {found? : Option Value} {failure : Failure}
    (isFirst : ∀ value, found? = some value ↔ IsFirst Fits values value)
    (present : ∀ value, found? = some value → outcome = .ok value)
    (absent : found? = none → outcome = .error failure) :
    Follows [⟨failure, ∃ value, IsFirst Fits values value⟩] (IsFirst Fits values) outcome := by
  cases found : found? with
  | some value =>
      have first := (isFirst value).mp found
      rw [present value found]
      exact Follows.cons ⟨value, first⟩ (follows_ok first)
  | none =>
      rw [absent found]
      refine follows_unmet ?_
      rintro ⟨value, first⟩
      rw [(isFirst value).mpr first] at found
      cases found

/-- Of two checks the demands of the first come first. -/
theorem Follows.bind
    {next : Value → Except Failure Image} (follows : Follows first Holds outcome)
    (followsNext : ∀ value, Holds value → Follows second Yields (next value)) :
    Follows (first ++ second) Yields (outcome >>= next) := by
  cases follows with
  | unmet fails =>
      obtain ⟨demand, isFirst, isFailure⟩ := fails
      exact .unmet ⟨demand, isFirst.append_right second, isFailure⟩
  | @met value allMet holds =>
      -- the first check is over, and its demands stand before all that can still fail
      change Follows (first ++ second) Yields (next value)
      have follows := followsNext value holds
      generalize next value = image at follows ⊢
      cases follows with
      | met allMetNext yields =>
          exact .met (List.forall_mem_append.mpr ⟨allMet, allMetNext⟩) yields
      | unmet fails =>
          obtain ⟨demand, isFirst, isFailure⟩ := fails
          exact
            .unmet
              ⟨demand, isFirst.append_left fun other member => not_not.mpr (allMet other member),
                isFailure⟩

theorem Follows.map
    {change : Value → Image} (follows : Follows demands Holds outcome)
    (yields : ∀ value, Holds value → Yields (change value)) :
    Follows demands Yields (change <$> outcome) := by
  cases follows with
  | met allMet holds =>
      exact .met allMet (yields _ holds)
  | unmet fails =>
      exact .unmet fails

/-- Entries that are checked one by one follow the demands of each in turn. -/
theorem follows_mapM
    {Source : Type} {Stands : Source → Entry → Prop} {Relates : Source → Value → Prop}
    {check : Entry → Except Failure Value} {demandsOf : Source → List Demand}
    {sources : List Source} {entries : List Entry} (stand : List.Forall₂ Stands sources entries)
    (each :
      ∀ source entry, Stands source entry →
        Follows (demandsOf source) (Relates source) (check entry)) :
    Follows (sources.flatMap demandsOf) (List.Forall₂ Relates sources) (entries.mapM check) := by
  induction stand with
  | nil =>
      exact follows_ok .nil
  | @cons source entry sources entries stands _ inductionHypothesis =>
      rw [List.mapM_cons, List.flatMap_cons]
      refine (each source entry stands).bind fun value relates => ?_
      exact inductionHypothesis.map fun values related => .cons relates related

theorem follows_each
    {Relates : Entry → Value → Prop} {check : Entry → Except Failure Value}
    {demandsOf : Entry → List Demand}
    (each : ∀ entry, Follows (demandsOf entry) (Relates entry) (check entry))
    (entries : List Entry) :
    Follows (entries.flatMap demandsOf) (List.Forall₂ Relates entries) (entries.mapM check) := by
  have alike : List.Forall₂ Eq entries entries := List.forall₂_refl entries
  refine follows_mapM alike fun entry other same => ?_
  obtain rfl := same
  exact each entry

end Follows
end EvidenceSearch
