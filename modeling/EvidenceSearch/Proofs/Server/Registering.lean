import EvidenceSearch.Tools.Registry
import Mathlib.Data.List.Induction
import Mathlib.Data.List.Nodup

/-!
# Registering tools

Registering a list of tools adds those before the first one whose name is taken, by a tool that is
registered or by one before it in the list. What is registered stays as it is and where it is, so
whatever is registered, listed and called, the registry holds the tools in the order in which they
were registered, and each name means the tool that was registered under it.
-/

namespace EvidenceSearch

namespace Registry

variable {Handler : Type} {registered given before later : List (Tool Handler)}
  {tool : Tool Handler} {name : String}

/-! ## Names that are taken -/

/-- The name of a tool is taken, by a registered tool or by one before it in its list. -/
def Taken (registered before : List (Tool Handler)) (tool : Tool Handler) : Prop :=
  tool.name ∈ registered.map Tool.name ∨ tool.name ∈ before.map Tool.name

/-- No tool of the list has a name that is taken. -/
def Fresh (registered given : List (Tool Handler)) : Prop :=
  ∀ before tool later, given = before ++ tool :: later → ¬ Taken registered before tool

theorem taken_cons (first : Tool Handler) :
    Taken registered (first :: before) tool ↔ Taken (registered ++ [first]) before tool := by
  simp only [Taken, List.map_append, List.map_cons, List.map_nil, List.mem_append, List.mem_cons,
    List.not_mem_nil, or_false, or_assoc]

theorem fresh_nil : Fresh registered ([] : List (Tool Handler)) := by
  intro before tool later isSplit
  cases before <;> cases isSplit

theorem fresh_cons_iff :
    Fresh registered (tool :: given) ↔
      tool.name ∉ registered.map Tool.name ∧ Fresh (registered ++ [tool]) given := by
  constructor
  · intro fresh
    refine ⟨fun taken => fresh [] tool given rfl (Or.inl taken), ?_⟩
    rintro before other later rfl taken
    exact fresh (tool :: before) other later rfl ((taken_cons tool).mpr taken)
  · rintro ⟨notTaken, fresh⟩ before other later isSplit taken
    cases before with
    | nil =>
        obtain ⟨rfl, rfl⟩ := List.cons.inj isSplit
        rcases taken with isRegistered | inNothing
        · exact notTaken isRegistered
        · cases inNothing
    | cons first before =>
        obtain ⟨rfl, rfl⟩ := List.cons.inj isSplit
        exact fresh before other later rfl ((taken_cons _).mp taken)

theorem Fresh.nodup
    (fresh : Fresh registered given) (distinct : (registered.map Tool.name).Nodup) :
    ((registered ++ given).map Tool.name).Nodup := by
  induction given generalizing registered with
  | nil =>
      rw [List.append_nil]
      exact distinct
  | cons tool given inductionHypothesis =>
      obtain ⟨notTaken, freshRest⟩ := fresh_cons_iff.mp fresh
      have distinctSoFar : ((registered ++ [tool]).map Tool.name).Nodup := by
        rw [List.map_append, List.map_singleton, List.nodup_append]
        refine ⟨distinct, List.nodup_singleton _, ?_⟩
        intro name isRegistered other isTool
        obtain rfl := List.mem_singleton.mp isTool
        rintro rfl
        exact notTaken isRegistered
      rw [List.append_cons]
      exact inductionHypothesis freshRest distinctSoFar

/-! ## One list -/

theorem isSome_find?_iff (registry : Registry Handler) :
    (registry.find? name).isSome = true ↔ name ∈ registry.tools.map Tool.name := by
  rw [find?, List.find?_isSome, List.mem_map]
  simp only [decide_eq_true_iff]

/-- A list is registered as a whole, or up to the first tool whose name is taken. -/
theorem register_cases (registry : Registry Handler) (given : List (Tool Handler)) :
    (Fresh registry.tools given ∧
      registry.register given = (⟨registry.tools ++ given⟩, .ok ())) ∨
    ∃ before tool later,
      given = before ++ tool :: later ∧ Fresh registry.tools before ∧
        Taken registry.tools before tool ∧
        registry.register given = (⟨registry.tools ++ before⟩, .error (.duplicate tool.name)) := by
  induction given generalizing registry with
  | nil =>
      exact Or.inl ⟨fresh_nil, by rw [register, List.append_nil]⟩
  | cons tool given inductionHypothesis =>
      by_cases taken : tool.name ∈ registry.tools.map Tool.name
      · refine Or.inr ⟨[], tool, given, rfl, fresh_nil, Or.inl taken, ?_⟩
        rw [register, if_pos (registry.isSome_find?_iff.mpr taken), List.append_nil]
      · rw [register, if_neg (mt registry.isSome_find?_iff.mp taken)]
        rcases inductionHypothesis ⟨registry.tools ++ [tool]⟩ with
          ⟨fresh, ran⟩ | ⟨before, other, later, rfl, fresh, takenLater, ran⟩
        · exact Or.inl ⟨fresh_cons_iff.mpr ⟨taken, fresh⟩, by rw [ran, ← List.append_cons]⟩
        · refine
            Or.inr ⟨tool :: before, other, later, rfl, fresh_cons_iff.mpr ⟨taken, fresh⟩,
              (taken_cons tool).mpr takenLater, ?_⟩
          rw [ran, ← List.append_cons]

theorem register_of_fresh
    {registry : Registry Handler} (fresh : Fresh registry.tools given) :
    registry.register given = (⟨registry.tools ++ given⟩, .ok ()) := by
  rcases registry.register_cases given with
    ⟨_, ran⟩ | ⟨before, tool, later, isSplit, _, taken, _⟩
  · exact ran
  · exact absurd taken (fresh before tool later isSplit)

/-- The first tool whose name is taken is the only one behind tools whose names are not. -/
theorem register_of_taken
    {registry : Registry Handler} (fresh : Fresh registry.tools before)
    (taken : Taken registry.tools before tool) :
    registry.register (before ++ tool :: later) =
      (⟨registry.tools ++ before⟩, .error (.duplicate tool.name)) := by
  induction before generalizing registry with
  | nil =>
      have isRegistered : tool.name ∈ registry.tools.map Tool.name :=
        taken.resolve_right List.not_mem_nil
      rw [List.nil_append, register, if_pos (registry.isSome_find?_iff.mpr isRegistered),
        List.append_nil]
  | cons first before inductionHypothesis =>
      obtain ⟨notTaken, freshRest⟩ := fresh_cons_iff.mp fresh
      have ran := @inductionHypothesis ⟨registry.tools ++ [first]⟩ freshRest
        ((taken_cons first).mp taken)
      rw [List.cons_append, register, if_neg (mt registry.isSome_find?_iff.mp notTaken), ran,
        ← List.append_cons]

/-- A list is refused exactly if a name in it is taken. -/
theorem exists_refused_iff (registry : Registry Handler) (given : List (Tool Handler)) :
    (∃ error, (registry.register given).2 = .error error) ↔
      ∃ before tool later,
        given = before ++ tool :: later ∧ Taken registry.tools before tool := by
  constructor
  · rintro ⟨error, refused⟩
    rcases registry.register_cases given with
      ⟨_, ran⟩ | ⟨before, tool, later, isSplit, _, taken, _⟩
    · rw [ran] at refused
      cases refused
    · exact ⟨before, tool, later, isSplit, taken⟩
  · rintro ⟨before, tool, later, isSplit, taken⟩
    rcases registry.register_cases given with ⟨fresh, _⟩ | ⟨_, _, _, _, _, _, ran⟩
    · exact absurd taken (fresh before tool later isSplit)
    · exact ⟨_, congrArg Prod.snd ran⟩

/-! ## Steps -/

/-- What is done with a registry. -/
inductive Step (Handler : Type) where
  | register (given : List (Tool Handler))
  | list
  | call (name : String)

/-- What a step answers; a call is answered with the handler that it runs. -/
inductive Answer (Handler : Type) where
  | registered (outcome : Except RegistryError Unit)
  | listed (tools : Json)
  | called (outcome : Except RegistryError Handler)

/-- The registry after a step, with the answer. -/
def step (registry : Registry Handler) : Step Handler → Registry Handler × Answer Handler
  | .register given =>
      let (after, outcome) := registry.register given
      (after, .registered outcome)
  | .list => (registry, .listed registry.toJson)
  | .call name => (registry, .called ((registry.require name).map Tool.handler))

/-- The registry after some steps from the start. -/
def after (steps : List (Step Handler)) : Registry Handler :=
  steps.foldl (fun registry next => (registry.step next).1) empty

/-- The tools that some steps try to register and those that they register, in the order in which
they do. The tool at which a list is refused is tried, and those behind it are not. -/
inductive Registers :
    List (Step Handler) → List (Tool Handler) → List (Tool Handler) → Prop where
  | start : Registers [] [] []
  | all {steps : List (Step Handler)} {tried registered given : List (Tool Handler)} :
      Registers steps tried registered → Fresh registered given →
      Registers (steps ++ [.register given]) (tried ++ given) (registered ++ given)
  | part {steps : List (Step Handler)} {tried registered before later : List (Tool Handler)}
      {tool : Tool Handler} :
      Registers steps tried registered → Fresh registered before →
      Taken registered before tool →
      Registers (steps ++ [.register (before ++ tool :: later)]) (tried ++ (before ++ [tool]))
        (registered ++ before)
  | list {steps : List (Step Handler)} {tried registered : List (Tool Handler)} :
      Registers steps tried registered → Registers (steps ++ [.list]) tried registered
  | call {steps : List (Step Handler)} {tried registered : List (Tool Handler)} {name : String} :
      Registers steps tried registered → Registers (steps ++ [.call name]) tried registered

variable {steps : List (Step Handler)} {tried : List (Tool Handler)}

theorem after_concat (steps : List (Step Handler)) (next : Step Handler) :
    after (steps ++ [next]) = ((after steps).step next).1 := by
  rw [after, after, List.foldl_append]
  rfl

theorem Registers.exists_step
    (registers : Registers steps tried registered) (next : Step Handler) :
    ∃ triedThen registeredThen, Registers (steps ++ [next]) triedThen registeredThen := by
  cases next with
  | register given =>
      rcases register_cases ⟨registered⟩ given with
        ⟨fresh, _⟩ | ⟨before, tool, later, rfl, fresh, taken, _⟩
      · exact ⟨_, _, registers.all fresh⟩
      · exact ⟨_, _, registers.part fresh taken⟩
  | list =>
      exact ⟨_, _, registers.list⟩
  | call name =>
      exact ⟨_, _, registers.call⟩

theorem exists_registers (steps : List (Step Handler)) :
    ∃ tried registered, Registers steps tried registered := by
  induction steps using List.reverseRecOn with
  | nil =>
      exact ⟨[], [], .start⟩
  | append_singleton steps next inductionHypothesis =>
      obtain ⟨tried, registered, registers⟩ := inductionHypothesis
      exact registers.exists_step next

/-- The registry has the tools that the steps registered. -/
theorem Registers.after_eq (registers : Registers steps tried registered) :
    after steps = ⟨registered⟩ := by
  induction registers with
  | start =>
      rfl
  | all _ fresh isAfter =>
      rw [after_concat, isAfter, Registry.step, register_of_fresh fresh]
  | part _ fresh taken isAfter =>
      rw [after_concat, isAfter, Registry.step, register_of_taken fresh taken]
  | list _ isAfter =>
      rw [after_concat, isAfter]
      rfl
  | call _ isAfter =>
      rw [after_concat, isAfter]
      rfl

theorem Registers.nodup (registers : Registers steps tried registered) :
    (registered.map Tool.name).Nodup := by
  induction registers with
  | start =>
      exact List.nodup_nil
  | all _ fresh distinct =>
      exact fresh.nodup distinct
  | part _ fresh _ distinct =>
      exact fresh.nodup distinct
  | list _ distinct =>
      exact distinct
  | call _ distinct =>
      exact distinct

/-- The registered tools are those that were tried first under their names, in the order in which
they were tried. -/
structure Firsts (tried registered : List (Tool Handler)) : Prop where
  order : registered.Sublist tried
  first :
    ∀ name, (registered.find? fun tool => tool.name = name) =
      tried.find? fun tool => tool.name = name

theorem Firsts.append (firsts : Firsts tried registered) (given : List (Tool Handler)) :
    Firsts (tried ++ given) (registered ++ given) := by
  refine ⟨firsts.order.append (List.Sublist.refl given), fun name => ?_⟩
  rw [List.find?_append, List.find?_append, firsts.first]

/-- A tool whose name is taken is not the first of that name. -/
theorem Firsts.concat_of_taken
    (firsts : Firsts tried registered) (taken : tool.name ∈ registered.map Tool.name) :
    Firsts (tried ++ [tool]) registered := by
  refine ⟨firsts.order.trans (List.sublist_append_left tried [tool]), fun name => ?_⟩
  rw [List.find?_append, ← firsts.first]
  by_cases same : tool.name = name
  · obtain ⟨first, found⟩ := Option.isSome_iff_exists.mp ((isSome_find?_iff ⟨registered⟩).mpr taken)
    rw [find?, same] at found
    rw [found]
    rfl
  · rw [List.find?_singleton, if_neg (by simpa using same), Option.or_none]

theorem Registers.firsts (registers : Registers steps tried registered) :
    Firsts tried registered := by
  induction registers with
  | start =>
      exact ⟨List.Sublist.refl [], fun _ => rfl⟩
  | all _ _ firsts =>
      exact firsts.append _
  | @part _ tried registered before _ tool _ _ taken firsts =>
      rw [← List.append_assoc]
      apply (firsts.append before).concat_of_taken
      rw [List.map_append, List.mem_append]
      exact taken
  | list _ firsts =>
      exact firsts
  | call _ firsts =>
      exact firsts

/-- A step keeps what is registered where it is. -/
theorem tools_prefix_step (registry : Registry Handler) (next : Step Handler) :
    registry.tools <+: (registry.step next).1.tools := by
  cases next with
  | register given =>
      rcases registry.register_cases given with ⟨_, ran⟩ | ⟨before, _, _, _, _, _, ran⟩
      · rw [step, ran]
        exact List.prefix_append _ _
      · rw [step, ran]
        exact List.prefix_append _ _
  | list =>
      exact List.prefix_rfl
  | call name =>
      exact List.prefix_rfl

theorem tools_prefix_after (steps more : List (Step Handler)) :
    (after steps).tools <+: (after (steps ++ more)).tools := by
  induction more using List.reverseRecOn with
  | nil =>
      simp only [List.append_nil, List.prefix_rfl]
  | append_singleton more next inductionHypothesis =>
      rw [← List.append_assoc, after_concat]
      exact inductionHypothesis.trans (tools_prefix_step _ next)

/-! ## Names and tools -/

/-- A name means the tool that was registered under it. -/
theorem find?_eq_some_iff
    {registry : Registry Handler} (distinct : (registry.tools.map Tool.name).Nodup) :
    registry.find? name = some tool ↔ tool ∈ registry.tools ∧ tool.name = name := by
  constructor
  · intro found
    have isNamed := List.find?_some found
    exact ⟨List.mem_of_find?_eq_some found, of_decide_eq_true isNamed⟩
  · rintro ⟨member, rfl⟩
    obtain ⟨other, found⟩ := Option.isSome_iff_exists.mp
      (registry.isSome_find?_iff.mpr (List.mem_map_of_mem member))
    have isNamed := List.find?_some found
    have isOther := List.mem_of_find?_eq_some found
    rw [found, List.inj_on_of_nodup_map distinct isOther member (of_decide_eq_true isNamed)]

theorem find?_eq_none_iff (registry : Registry Handler) (name : String) :
    registry.find? name = none ↔ ∀ tool ∈ registry.tools, tool.name ≠ name := by
  rw [find?, List.find?_eq_none]
  exact forall₂_congr fun tool _ => not_congr decide_eq_true_iff

/-- The registry holds the tools, in their order. It lists them with their descriptions and schemas;
a call runs the handler of the tool with the name, and fails exactly if there is none; neither
changes anything. A list is refused exactly if a name in it is taken. Then the tools before the
first such name are added, and otherwise all, behind those that were there. -/
structure Holds (registry : Registry Handler) (registered : List (Tool Handler)) : Prop where
  tools : registry.tools = registered
  distinct : (registered.map Tool.name).Nodup
  list :
    registry.step .list =
      (registry,
        .listed (.array (registered.map fun tool =>
          .object [("name", .string tool.name), ("description", .string tool.description),
            ("inputSchema", tool.inputSchema)])))
  call :
    ∀ tool ∈ registered, registry.step (.call tool.name) = (registry, .called (.ok tool.handler))
  callUnknown :
    ∀ name, registry.step (.call name) = (registry, .called (.error (.unknown name))) ↔
      ∀ tool ∈ registered, tool.name ≠ name
  refused :
    ∀ given, (∃ error, (registry.register given).2 = .error error) ↔
      ∃ before tool later, given = before ++ tool :: later ∧ Taken registered before tool
  part :
    ∀ before tool later, Fresh registered before → Taken registered before tool →
      registry.step (.register (before ++ tool :: later)) =
        (⟨registered ++ before⟩, .registered (.error (.duplicate tool.name)))
  all :
    ∀ given, Fresh registered given →
      registry.step (.register given) = (⟨registered ++ given⟩, .registered (.ok ()))

theorem holds_of_nodup
    {registry : Registry Handler} (distinct : (registry.tools.map Tool.name).Nodup) :
    Holds registry registry.tools := by
  have call : ∀ tool ∈ registry.tools,
      registry.step (.call tool.name) = (registry, .called (.ok tool.handler)) := by
    intro tool member
    rw [step, require, (find?_eq_some_iff distinct).mpr ⟨member, rfl⟩]
    rfl
  refine
    { tools := rfl
      distinct := distinct
      list := rfl
      call := call
      callUnknown := fun name => ⟨?_, ?_⟩
      refused := registry.exists_refused_iff
      part := ?_
      all := ?_ }
  · rintro unknown tool member rfl
    rw [call tool member] at unknown
    cases unknown
  · intro absent
    rw [step, require, (registry.find?_eq_none_iff name).mpr absent]
    rfl
  · intro before tool later fresh taken
    rw [step, register_of_taken fresh taken]
  · intro given fresh
    rw [step, register_of_fresh fresh]

/-- After any steps the registry holds the tools that were the first to be tried under their names,
in the order in which they were, and it holds them in these places for good. -/
theorem holds_what_was_registered (steps : List (Step Handler)) :
    (∃ tried registered, Registers steps tried registered) ∧
      ∀ tried registered, Registers steps tried registered →
        Firsts tried registered ∧ Holds (after steps) registered ∧
          ∀ more, registered <+: (after (steps ++ more)).tools := by
  refine ⟨exists_registers steps, fun tried registered registers => ?_⟩
  have isAfter := registers.after_eq
  have remain := tools_prefix_after steps
  rw [isAfter] at remain ⊢
  exact ⟨registers.firsts, holds_of_nodup registers.nodup, remain⟩

/-- A tool that is handled by a number. -/
def numbered (name : String) (handler : Nat) : Tool Nat :=
  ⟨name, "", .object [], handler⟩

/-- A list that is refused at its third tool, a call of the tool behind that one, and a list that
registers it. -/
def someSteps : List (Step Nat) :=
  [.register [numbered "a" 1, numbered "b" 2, numbered "a" 3, numbered "c" 4], .call "c", .list,
    .register [numbered "c" 5]]

/-- The second tool with the first name is refused, and the one behind it is not even tried. -/
theorem holds_after_someSteps :
    Firsts [numbered "a" 1, numbered "b" 2, numbered "a" 3, numbered "c" 5]
        [numbered "a" 1, numbered "b" 2, numbered "c" 5] ∧
      Holds (after someSteps) [numbered "a" 1, numbered "b" 2, numbered "c" 5] := by
  have fresh : Fresh [] [numbered "a" 1, numbered "b" 2] :=
    fresh_cons_iff.mpr ⟨by decide, fresh_cons_iff.mpr ⟨by decide, fresh_nil⟩⟩
  have taken : Taken [] [numbered "a" 1, numbered "b" 2] (numbered "a" 3) := Or.inr (by decide)
  have freshThen : Fresh [numbered "a" 1, numbered "b" 2] [numbered "c" 5] :=
    fresh_cons_iff.mpr ⟨by decide, fresh_nil⟩
  have first :
      Registers
        [.register ([numbered "a" 1, numbered "b" 2] ++ numbered "a" 3 :: [numbered "c" 4])]
        [numbered "a" 1, numbered "b" 2, numbered "a" 3] [numbered "a" 1, numbered "b" 2] :=
    Registers.start.part fresh taken
  have registers :
      Registers someSteps [numbered "a" 1, numbered "b" 2, numbered "a" 3, numbered "c" 5]
        [numbered "a" 1, numbered "b" 2, numbered "c" 5] :=
    first.call.list.all freshThen
  obtain ⟨firsts, holds, _⟩ := (holds_what_was_registered someSteps).2 _ _ registers
  exact ⟨firsts, holds⟩

end Registry

end EvidenceSearch
