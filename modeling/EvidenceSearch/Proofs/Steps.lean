import Mathlib

/-!
# Steps that keep a state and may fail

How a sequence of steps runs follows from how its first step ends: if it gives a value, the others
go on from there; if it fails, the sequence fails in the same state.
-/

namespace EvidenceSearch

variable {State Error Value Image : Type}
variable {step : ExceptT Error (StateM State) Value}
variable {before between after : State} {value : Value} {image : Image} {error : Error}

/-! ## Single steps

Where the outcomes of its steps are known, `simp` runs a sequence. -/

@[simp]
theorem id_pure (value : Value) : (pure value : Id Value) = value := by
  simp [pure]

@[simp]
theorem id_map (change : Value → Image) (value : Id Value) :
    change <$> value = (change value : Id Image) := by
  simp [Functor.map]

@[simp]
theorem id_bind (value : Id Value) (next : Value → Id Image) : value >>= next = next value := by
  simp [bind]

@[simp]
theorem run_get (before : State) :
    (get : ExceptT Error (StateM State) State).run.run before = (.ok before, before) :=
  rfl

@[simp]
theorem run_set (before after : State) :
    (set after : ExceptT Error (StateM State) PUnit).run.run before = (.ok ⟨⟩, after) :=
  Prod.ext rfl rfl

@[simp]
theorem run_modify (change : State → State) (before : State) :
    (modify change : ExceptT Error (StateM State) PUnit).run.run before =
      (.ok ⟨⟩, change before) :=
  rfl

/-! ## Sequences -/

theorem run_bind_of_ok
    {next : Value → ExceptT Error (StateM State) Image}
    (stepped : step.run.run before = (.ok value, between)) :
    (step >>= next).run.run before = (next value).run.run between := by
  rw [ExceptT.run_bind, StateT.run_bind, stepped]
  rfl

/-- A sequence that starts by looking at the state goes on from there. -/
theorem run_get_bind (next : State → ExceptT Error (StateM State) Image) (before : State) :
    (get >>= next).run.run before = (next before).run.run before :=
  run_bind_of_ok (run_get before)

theorem run_bind_of_error
    {next : Value → ExceptT Error (StateM State) Image}
    (stepped : step.run.run before = (.error error, between)) :
    (step >>= next).run.run before = (.error error, between) := by
  rw [ExceptT.run_bind, StateT.run_bind, stepped]
  rfl

/-- A step whose value is not used changes what it changes with its value. -/
theorem run_discard (step : ExceptT Error (StateM State) Value) (before : State) :
    ((do let _ ← step : ExceptT Error (StateM State) Unit).run.run before).2 =
      (step.run.run before).2 := by
  cases stepped : step.run.run before with
  | mk outcome after =>
      cases outcome with
      | ok value =>
          rw [run_bind_of_ok stepped]
          rfl
      | error error =>
          rw [run_bind_of_error stepped]

/-- A sequence that gives a value went through all its steps. -/
theorem run_bind_eq_ok
    {next : Value → ExceptT Error (StateM State) Image}
    (ended : (step >>= next).run.run before = (.ok image, after)) :
    ∃ value between,
      step.run.run before = (.ok value, between) ∧
        (next value).run.run between = (.ok image, after) := by
  cases stepped : step.run.run before with
  | mk outcome between =>
      cases outcome with
      | error error =>
          rw [run_bind_of_error stepped] at ended
          cases ended
      | ok value =>
          rw [run_bind_of_ok stepped] at ended
          exact ⟨value, between, rfl, ended⟩

theorem exists_eq_of_fst
    {ran : Except Error Value × State} {outcome : Except Error Value} (ended : ran.1 = outcome) :
    ∃ after, ran = (outcome, after) :=
  ⟨ran.2, Prod.ext ended rfl⟩

theorem run_tryCatch_of_ok
    {handler : Error → ExceptT Error (StateM State) Value}
    (stepped : step.run.run before = (.ok value, after)) :
    (tryCatch step handler).run.run before = (.ok value, after) := by
  rw [ExceptT.run_tryCatch, StateT.run_bind, stepped]
  rfl

theorem run_tryCatch_of_error
    {handler : Error → ExceptT Error (StateM State) Value}
    (stepped : step.run.run before = (.error error, between)) :
    (tryCatch step handler).run.run before = (handler error).run.run between := by
  rw [ExceptT.run_tryCatch, StateT.run_bind, stepped]
  rfl

/-! ## Outcomes -/

@[simp]
theorem ok_bind (value : Value) (next : Value → Except Error Image) :
    Except.ok value >>= next = next value := by
  simp [bind, Except.bind]

@[simp]
theorem map_ok (change : Value → Image) (value : Value) :
    (Except.ok value : Except Error Value).map change = .ok (change value) := by
  simp [Except.map]

theorem bind_eq_ok
    {first : Except Error Value} {next : Value → Except Error Image}
    (ended : (first >>= next) = .ok image) :
    ∃ value, first = .ok value ∧ next value = .ok image := by
  cases first with
  | error error =>
      cases ended
  | ok value =>
      exact ⟨value, rfl, ended⟩

end EvidenceSearch
