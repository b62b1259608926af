import EvidenceSearch.Proofs.Search.Criteria
import EvidenceSearch.Proofs.Search.Failing
import EvidenceSearch.Proofs.Storage.Looking
import EvidenceSearch.Server.Process

/-!
# Calls of the tools

A server only looks at its databases when it answers. So a call gets the same response whatever
was asked before it, and two servers give the same response if their cases show the same tables
and the central repository does not matter, or shows the same tables too.
-/

namespace EvidenceSearch

/-! ## Searches that need no repository -/

/-- Without filters by frequency the repository is not asked. -/
theorem Search.run_ignores_repository
    {filters : List Filter} {left right : SearchStores}
    (noNeed : Filter.needRepository filters = false) (sameCase : left.caseStore = right.caseStore)
    (options : SearchOptions) :
    Search.run filters left options = Search.run filters right options := by
  have silent : ∀ filter ∈ filters, filter.isFrequency = false := by
    intro filter member
    have noneWanting := List.any_eq_false.mp noNeed filter member
    exact Bool.eq_false_iff.mpr noneWanting
  unfold Search.run
  simp only [sameCase, noNeed, Bool.and_false, Bool.false_eq_true, if_false,
    applyFilters_of_silent silent]

theorem searchFiles_ignores_repository
    {left right : SearchStores} {arguments : SearchArguments}
    (noFrequencies : arguments.frequencies.getD [] = [])
    (sameCase : left.caseStore = right.caseStore) (options : SearchOptions) (catalog : Catalog) :
    searchFiles left options catalog arguments = searchFiles right options catalog arguments := by
  unfold searchFiles
  cases made : catalog.filters arguments with
  | error failure =>
      rfl
  | ok filters =>
      dsimp only
      have noNeed : Filter.needRepository filters = false := by
        rw [Bool.eq_false_iff, Ne, Catalog.needRepository_iff made]
        exact not_not.mpr noFrequencies
      rw [Search.run_ignores_repository noNeed sameCase]

/-- The arguments ask for no frequency, as far as they can be read. -/
def AsksNoFrequency (arguments : Option Json) : Prop :=
  ∀ parsed, SearchArguments.ofJson arguments = .ok parsed → parsed.frequencies.getD [] = []

theorem asksNoFrequency_of_absent
    {arguments : Option Json} (absent : argument? arguments "frequencies" = none) :
    AsksNoFrequency arguments := by
  intro parsed isParsed
  have noStrings : stringsArgument arguments "frequencies" = .ok none := by
    rw [stringsArgument, arrayArgument, absent]
  have isRead := (SearchArguments.readFrom_of_ofJson isParsed).frequencies
  rw [noStrings] at isRead
  rw [← Except.ok.inj isRead]
  rfl

namespace ServerContext

open Workspace

/-! ## Answering only looks -/

theorem looks_runTool (context : ServerContext) (arguments : Option Json) (tool : ServerTool) :
    Looks (context.runTool arguments tool) := by
  cases tool with
  | searchFiles =>
      unfold runTool searchFilesAnswer
      cases SearchArguments.ofJson arguments with
      | error failure =>
          exact looks_pure _
      | ok parsed =>
          refine (looks_catalog _ _).bind fun catalog => ?_
          apply looks_get
          · exact fun _ => (looks_search _).bind fun _ => looks_pure _
          · intro left right same
            rw [same.searchStores]
  | listSearchOptions =>
      exact (looks_catalog _ _).bind fun _ => looks_pure _

/-- The response that tells how a tool ended. -/
def responseTo : Except WorkspaceError Json → ToolResponse
  | .ok answer => .ofAnswer answer
  | .error error => .ofError error.message

/-- A call of a tool always gets a response. -/
theorem run_call
    {context : ServerContext} {name : String} {tool : Tool ServerTool} {arguments : Option Json}
    {workspace after : Workspace} {outcome : Except WorkspaceError Json}
    (required : serverRegistry.require name = .ok tool)
    (ran : (context.runTool arguments tool.handler).run.run workspace = (outcome, after)) :
    (context.call name arguments).run.run workspace = (.ok (responseTo outcome), after) := by
  let response : Except ToolResponse ToolResponse := .error (responseTo outcome)
  unfold call
  rw [required]
  -- the response leaves the block that catches errors early
  refine @run_bind_of_ok _ _ _ _ _ _ after response _ ?_
  cases outcome with
  | error error =>
      exact run_tryCatch_of_error (run_bind_of_error ran)
  | ok answer =>
      exact run_tryCatch_of_ok (run_bind_of_ok ran)

theorem looks_call (context : ServerContext) (name : String) (arguments : Option Json) :
    Looks (context.call name arguments) := by
  cases required : serverRegistry.require name with
  | error error =>
      unfold call
      rw [required]
      exact looks_pure _
  | ok tool =>
      have looks := looks_runTool context arguments tool.handler
      constructor
      · intro workspace
        obtain ⟨_, _, _, ran, _, kept, _⟩ := looks.exists_run (SameData.refl workspace)
        rw [run_call required ran]
        exact kept
      · intro left right same
        obtain ⟨_, _, _, ranLeft, ranRight, _, _⟩ := looks.exists_run same
        rw [run_call required ranLeft, run_call required ranRight]

theorem looks_replyToCall (context : ServerContext) (params : Option Json) :
    Looks (context.replyToCall params) := by
  unfold replyToCall
  split
  · exact looks_pure _
  · dsimp only
    split
    · exact looks_pure _
    · exact (looks_call context _ _).bind fun _ => looks_pure _

theorem looks_reply (context : ServerContext) (request : ServerRequest) :
    Looks (context.reply request) := by
  unfold reply
  split
  · exact looks_pure _
  split
  · exact looks_replyToCall context _
  split
  · exact looks_pure _
  split <;> exact looks_pure _

/-- A server that answers requests changes neither handles nor files. -/
theorem looks_replyAll (context : ServerContext) (requests : List ServerRequest) :
    Looks (context.replyAll requests) := by
  induction requests with
  | nil =>
      exact looks_pure _
  | cons request requests inductionHypothesis =>
      exact (looks_reply context request).bind fun _ =>
        inductionHypothesis.bind fun _ => looks_pure _

/-! ## Two servers -/

/-- A search asks the stores as they are, and tells what was found. -/
theorem run_search
    (context : ServerContext) (catalog : Catalog) (arguments : SearchArguments)
    (workspace : Workspace) :
    ((context.search catalog arguments).run.run workspace).1 =
      .ok (searchAnswer
        ((searchFiles (workspace.searchStores context.stores context.hasRepository)
          context.settings.search catalog arguments).run.run {}).1) :=
  rfl

section TwoServers

variable {left right : ServerContext} {leftSpace rightSpace : Workspace}

/-- Two servers give the same response to a call if the tools that they run answer alike. -/
theorem call_congr
    {name : String} {arguments : Option Json}
    (sameAnswer :
      ∀ tool, serverRegistry.require name = .ok tool →
        ((left.runTool arguments tool.handler).run.run leftSpace).1 =
          ((right.runTool arguments tool.handler).run.run rightSpace).1) :
    ((left.call name arguments).run.run leftSpace).1 =
      ((right.call name arguments).run.run rightSpace).1 := by
  cases required : serverRegistry.require name with
  | error error =>
      unfold call
      rw [required]
      rfl
  | ok tool =>
      rw [run_call required (Prod.mk.eta (p := (left.runTool _ _).run.run leftSpace)).symm,
        run_call required (Prod.mk.eta (p := (right.runTool _ _).run.run rightSpace)).symm,
        sameAnswer tool required]

variable (sameCase : SameCase leftSpace left.stores rightSpace right.stores)
  (sameTypes : left.fileTypes = right.fileTypes)
include sameCase sameTypes

theorem exists_catalog :
    ∃ outcome,
      left.catalog.run.run leftSpace = (outcome, leftSpace) ∧
        right.catalog.run.run rightSpace = (outcome, rightSpace) := by
  rw [catalog, catalog, sameTypes]
  exact catalog_congr sameCase right.fileTypes

theorem optionsAnswer_congr (sameRepository : left.hasRepository = right.hasRepository) :
    (left.optionsAnswer.run.run leftSpace).1 = (right.optionsAnswer.run.run rightSpace).1 := by
  obtain ⟨outcome, leftRead, rightRead⟩ := exists_catalog sameCase sameTypes
  unfold optionsAnswer
  cases outcome with
  | error error =>
      rw [run_bind_of_error leftRead, run_bind_of_error rightRead]
  | ok catalog =>
      rw [run_bind_of_ok leftRead, run_bind_of_ok rightRead, sameRepository]
      rfl

theorem searchFilesAnswer_congr
    {arguments : Option Json}
    (sameSearch :
      ∀ parsed catalog, SearchArguments.ofJson arguments = .ok parsed →
        searchFiles (leftSpace.searchStores left.stores left.hasRepository) left.settings.search
            catalog parsed =
          searchFiles (rightSpace.searchStores right.stores right.hasRepository)
            right.settings.search catalog parsed) :
    ((left.searchFilesAnswer arguments).run.run leftSpace).1 =
      ((right.searchFilesAnswer arguments).run.run rightSpace).1 := by
  obtain ⟨outcome, leftRead, rightRead⟩ := exists_catalog sameCase sameTypes
  unfold searchFilesAnswer
  cases isParsed : SearchArguments.ofJson arguments with
  | error failure =>
      rfl
  | ok parsed =>
      dsimp only
      cases outcome with
      | error error =>
          rw [run_bind_of_error leftRead, run_bind_of_error rightRead]
      | ok catalog =>
          rw [run_bind_of_ok leftRead, run_bind_of_ok rightRead, run_search, run_search,
            sameSearch parsed catalog isParsed]

/-- Without frequencies the response does not depend on the repository. -/
theorem searchCall_congr
    {arguments : Option Json} (sameOptions : left.settings.search = right.settings.search)
    (noFrequency : AsksNoFrequency arguments) :
    ((left.call "search_files" arguments).run.run leftSpace).1 =
      ((right.call "search_files" arguments).run.run rightSpace).1 := by
  have sameStore :
      (leftSpace.searchStores left.stores left.hasRepository).caseStore =
        (rightSpace.searchStores right.stores right.hasRepository).caseStore :=
    congrArg some (askCase_congr sameCase)
  apply call_congr
  rintro tool ⟨rfl⟩
  apply searchFilesAnswer_congr sameCase sameTypes
  intro parsed catalog isParsed
  rw [sameOptions]
  exact searchFiles_ignores_repository (noFrequency parsed isParsed) sameStore _ catalog

/-- If the repositories show the same tables too, no call tells two servers apart. -/
theorem call_congr_of_sameTables
    (sameRepository : SameRepository leftSpace left.stores rightSpace right.stores)
    (sameOptions : left.settings.search = right.settings.search) (name : String)
    (arguments : Option Json) :
    ((left.call name arguments).run.run leftSpace).1 =
      ((right.call name arguments).run.run rightSpace).1 := by
  have sameHas : left.hasRepository = right.hasRepository := by
    obtain ⟨leftId, rightId, isLeft, isRight, _⟩ := sameRepository
    rw [hasRepository, hasRepository, isLeft, isRight]
    rfl
  have sameStores :
      leftSpace.searchStores left.stores left.hasRepository =
        rightSpace.searchStores right.stores right.hasRepository := by
    rw [searchStores, searchStores, askCase_congr sameCase, askRepository_congr sameRepository,
      sameHas]
  apply call_congr
  intro tool _
  cases tool.handler with
  | searchFiles =>
      apply searchFilesAnswer_congr sameCase sameTypes
      intro parsed catalog _
      rw [sameStores, sameOptions]
  | listSearchOptions =>
      exact optionsAnswer_congr sameCase sameTypes sameHas

end TwoServers

end ServerContext
end EvidenceSearch
