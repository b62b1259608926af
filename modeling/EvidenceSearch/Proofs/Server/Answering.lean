import EvidenceSearch.Proofs.Json.Reading
import EvidenceSearch.Proofs.Server.Starting

/-!
# Answers to calls

No request makes a server fail. A call of the search tool is told how the search ended: it goes
through three stages, and the first that fails gives the answer its kind and its text. The other
tool always succeeds on a case, and a tool that is not there is reported by name.
-/

namespace EvidenceSearch

/-! ## Input at fault -/

/-- If this fails, the input is at fault. -/
def BlamesInput {Value : Type} (outcome : Except Failure Value) : Prop :=
  ∀ failure, outcome = .error failure → failure.kind = .invalidInput

section BlamesInput

variable {Value Entry Image : Type}

theorem blamesInput_ok (value : Value) : BlamesInput (.ok value) :=
  nofun

theorem blamesInput_error
    {failure : Failure} (isInput : failure.kind = .invalidInput) :
    BlamesInput (.error failure : Except Failure Value) := by
  intro other same
  obtain rfl := Except.error.inj same
  exact isInput

theorem blamesInput_dite
    {condition : Prop} [Decidable condition] {value : condition → Value} {failure : Failure}
    (isInput : failure.kind = .invalidInput) :
    BlamesInput (if holds : condition then .ok (value holds) else .error failure) := by
  split
  · exact blamesInput_ok _
  · exact blamesInput_error isInput

theorem BlamesInput.bind
    {first : Except Failure Value} {next : Value → Except Failure Image}
    (blames : BlamesInput first) (blamesNext : ∀ value, BlamesInput (next value)) :
    BlamesInput (first >>= next) := by
  cases first with
  | error failure =>
      exact blamesInput_error (blames failure rfl)
  | ok value =>
      exact blamesNext value

theorem blamesInput_mapM
    {check : Entry → Except Failure Value} (blames : ∀ entry, BlamesInput (check entry))
    (entries : List Entry) :
    BlamesInput (entries.mapM check) := by
  induction entries with
  | nil =>
      exact blamesInput_ok []
  | cons entry entries inductionHypothesis =>
      rw [List.mapM_cons]
      exact
        (blames entry).bind fun _ => inductionHypothesis.bind fun _ => blamesInput_ok _

/-! ### Reading arguments -/

theorem blamesInput_requireShape (place : ArgumentPlace) (shape : Shape) (value? : Option Value) :
    BlamesInput (requireShape place shape value?) := by
  cases value? with
  | none =>
      exact blamesInput_error rfl
  | some value =>
      exact blamesInput_ok value

theorem blamesInput_readEach
    {read : Nat → Json → Except Failure Value}
    (blames : ∀ index item, BlamesInput (read index item)) (index : Nat) (items : List Json) :
    BlamesInput (readEach read index items) := by
  induction items generalizing index with
  | nil =>
      exact blamesInput_ok []
  | cons item items inductionHypothesis =>
      exact
        (blames index item).bind fun _ =>
          (inductionHypothesis (index + 1)).bind fun _ => blamesInput_ok _

theorem blamesInput_numberArgument (arguments : Option Json) (key : String) :
    BlamesInput (numberArgument arguments key) := by
  rw [numberArgument]
  split
  · exact blamesInput_ok none
  · exact (blamesInput_requireShape _ _ _).bind fun _ => blamesInput_ok _

theorem blamesInput_arrayArgument
    (shape : Shape) (read? : Json → Option Value) (arguments : Option Json) (key : String) :
    BlamesInput (arrayArgument shape read? arguments key) := by
  rw [arrayArgument]
  split
  · exact blamesInput_ok none
  · exact
      (blamesInput_requireShape _ _ _).bind fun _ =>
        (blamesInput_readEach (fun _ _ => blamesInput_requireShape _ _ _) _ _).bind fun _ =>
          blamesInput_ok _

namespace SearchArguments

theorem blamesInput_optionalField
    (place : ArgumentPlace) (shape : Shape) (read? : Json → Option Value)
    (value? : Option Json) :
    BlamesInput (optionalField place shape read? value?) := by
  cases value? with
  | none =>
      exact blamesInput_ok none
  | some value =>
      exact (blamesInput_requireShape _ _ _).bind fun _ => blamesInput_ok _

theorem blamesInput_readRange (index : Nat) (entry : Json) :
    BlamesInput (readRange index entry) :=
  (blamesInput_requireShape _ _ _).bind fun _ =>
    (blamesInput_optionalField _ _ _ _).bind fun _ => blamesInput_ok _

theorem blamesInput_readPath (index : Nat) (entry : Json) :
    BlamesInput (readPath index entry) :=
  (blamesInput_requireShape _ _ _).bind fun _ =>
    (blamesInput_optionalField _ _ _ _).bind fun _ => blamesInput_ok _

theorem blamesInput_readObjects
    {read : Nat → Json → Except Failure Value}
    (blames : ∀ index item, BlamesInput (read index item)) (arguments : Option Json)
    (key : String) :
    BlamesInput (readObjects read arguments key) := by
  refine (blamesInput_arrayArgument _ _ _ _).bind fun entries? => ?_
  cases entries? with
  | none =>
      exact blamesInput_ok none
  | some entries =>
      exact (blamesInput_readEach blames 0 entries).bind fun _ => blamesInput_ok _

/-- Arguments that can not be read are wrong input. -/
theorem blamesInput_ofJson (arguments : Option Json) : BlamesInput (ofJson arguments) :=
  (blamesInput_arrayArgument _ _ _ _).bind fun _ =>
    (blamesInput_readObjects blamesInput_readRange _ _).bind fun _ =>
      (blamesInput_readObjects blamesInput_readPath _ _).bind fun _ =>
        (blamesInput_arrayArgument _ _ _ _).bind fun _ =>
          (blamesInput_arrayArgument _ _ _ _).bind fun _ =>
            (blamesInput_arrayArgument _ _ _ _).bind fun _ =>
              (blamesInput_arrayArgument _ _ _ _).bind fun _ =>
                (blamesInput_numberArgument _ _).bind fun _ => blamesInput_ok _

end SearchArguments

/-! ### Looking arguments up -/

namespace Filter

theorem blamesInput_checkSize (bounds : SizeBounds) : BlamesInput (checkSize bounds) := by
  rw [checkSize]
  split
  · exact blamesInput_ok _
  · exact blamesInput_error rfl

theorem blamesInput_checkPath (term : PathTerm) : BlamesInput (checkPath term) :=
  blamesInput_dite rfl

theorem blamesInput_checkSource (source : DataSource) : BlamesInput (checkSource source) := by
  rw [checkSource]
  split
  · exact blamesInput_error rfl
  · exact blamesInput_dite rfl

theorem blamesInput_checkList (name : String) : BlamesInput (checkList name) :=
  blamesInput_dite rfl

theorem blamesInput_checkType (type : FileType) : BlamesInput (checkType type) :=
  blamesInput_dite rfl

theorem blamesInput_requireValues (kind : FilterKind) (values : List Value) :
    BlamesInput (requireValues kind values) := by
  rw [requireValues]
  split
  · exact blamesInput_ok _
  · exact blamesInput_error rfl

theorem blamesInput_ofChecked
    {check : Entry → Except Failure Value} (blames : ∀ entry, BlamesInput (check entry))
    (kind : FilterKind) (construct : Choices Value → Filter) (entries : List Entry) :
    BlamesInput (do return construct (← requireValues kind (← entries.mapM check))) :=
  (blamesInput_mapM blames entries).bind fun _ =>
    (blamesInput_requireValues kind _).bind fun _ => blamesInput_ok _

end Filter

namespace Catalog

theorem blamesInput_presetBounds (name : String) : BlamesInput (presetBounds name) := by
  rw [presetBounds]
  split
  · exact blamesInput_ok _
  · exact blamesInput_error rfl

theorem blamesInput_source (catalog : Catalog) (id : Number) :
    BlamesInput (catalog.source id) := by
  rw [source]
  split
  · exact blamesInput_ok _
  · exact blamesInput_error rfl

theorem blamesInput_fileType (catalog : Catalog) (name : String) :
    BlamesInput (catalog.fileType name) := by
  rw [fileType]
  split
  · exact blamesInput_ok _
  · exact blamesInput_error rfl

theorem blamesInput_frequency (name : String) : BlamesInput (frequency name) := by
  rw [frequency]
  split
  · exact blamesInput_ok _
  · exact blamesInput_error rfl

theorem blamesInput_filterOf
    {make : List Value → Except Failure Filter} {entries : List Value}
    (blames : BlamesInput (make entries)) :
    BlamesInput (filterOf make entries) := by
  rw [filterOf]
  split
  · exact blamesInput_ok []
  · exact blames.bind fun _ => blamesInput_ok _

/-- Arguments that can not be looked up are wrong input. -/
theorem blamesInput_filters (catalog : Catalog) (arguments : SearchArguments) :
    BlamesInput (catalog.filters arguments) :=
  (blamesInput_mapM blamesInput_presetBounds _).bind fun _ =>
    (blamesInput_filterOf (Filter.blamesInput_ofChecked Filter.blamesInput_checkSize _ _ _)).bind
      fun _ =>
    (blamesInput_filterOf (Filter.blamesInput_ofChecked Filter.blamesInput_checkPath _ _ _)).bind
      fun _ =>
    (blamesInput_mapM catalog.blamesInput_source _).bind fun _ =>
    (blamesInput_filterOf (Filter.blamesInput_ofChecked Filter.blamesInput_checkSource _ _ _)).bind
      fun _ =>
    (blamesInput_filterOf (Filter.blamesInput_ofChecked Filter.blamesInput_checkList _ _ _)).bind
      fun _ =>
    (blamesInput_mapM catalog.blamesInput_fileType _).bind fun _ =>
    (blamesInput_filterOf (Filter.blamesInput_ofChecked Filter.blamesInput_checkType _ _ _)).bind
      fun _ =>
    (blamesInput_mapM blamesInput_frequency _).bind fun _ =>
    (blamesInput_filterOf
      ((Filter.blamesInput_requireValues _ _).bind fun _ => blamesInput_ok _)).bind fun _ =>
    blamesInput_ok _

end Catalog

end BlamesInput

/-! ## Stages of a search -/

section Stages

variable (catalog : Catalog) (stores : SearchStores) (options : SearchOptions)
  (arguments : Option Json)

/-- The arguments can be read and looked up, and the search finds files. -/
def SearchSucceeds : Prop :=
  ∃ parsed filters results,
    SearchArguments.ofJson arguments = .ok parsed ∧ catalog.filters parsed = .ok filters ∧
      ((Search.run filters stores options).run.run {}).1 = .ok results

/-- The arguments can be read, and what they name makes filters. -/
def MakesFilters : Prop :=
  ∃ parsed filters,
    SearchArguments.ofJson arguments = .ok parsed ∧ catalog.filters parsed = .ok filters

/-- The first stage that fails, with the kind under which it is reported. -/
inductive FirstFailure : ReportKind → Failure → Prop where
  | reading {failure : Failure} :
      SearchArguments.ofJson arguments = .error failure →
      FirstFailure .invalidInput failure
  | lookingUp {failure : Failure} {parsed : SearchArguments} :
      SearchArguments.ofJson arguments = .ok parsed →
      catalog.filters parsed = .error failure →
      FirstFailure .invalidInput failure
  | searching {failure : Failure} {parsed : SearchArguments} {filters : List Filter} :
      SearchArguments.ofJson arguments = .ok parsed →
      catalog.filters parsed = .ok filters →
      ((Search.run filters stores options).run.run {}).1 = .error failure →
      FirstFailure failure.kind failure

/-- The answer of the search tool. -/
def answerOf : Json :=
  match SearchArguments.ofJson arguments with
  | .error failure => failureJson failure
  | .ok parsed => searchAnswer ((searchFiles stores options catalog parsed).run.run {}).1

end Stages

variable {catalog : Catalog} {stores : SearchStores} {options : SearchOptions}
  {arguments : Option Json}

theorem FirstFailure.kind_eq
    {kind : ReportKind} {failure : Failure}
    (first : FirstFailure catalog stores options arguments kind failure) :
    failure.kind = kind := by
  cases first with
  | reading unreadable =>
      exact SearchArguments.blamesInput_ofJson arguments failure unreadable
  | lookingUp _ unknown =>
      exact catalog.blamesInput_filters _ failure unknown
  | searching _ _ _ =>
      rfl

theorem FirstFailure.kind_of_not_makesFilters
    {kind : ReportKind} {failure : Failure}
    (first : FirstFailure catalog stores options arguments kind failure)
    (unmade : ¬ MakesFilters catalog arguments) : kind = .invalidInput := by
  cases first with
  | reading _ =>
      rfl
  | lookingUp _ _ =>
      rfl
  | searching isRead made _ =>
      exact absurd ⟨_, _, isRead, made⟩ unmade

theorem SearchSucceeds.makesFilters
    (succeeds : SearchSucceeds catalog stores options arguments) :
    MakesFilters catalog arguments := by
  obtain ⟨parsed, filters, _, isRead, made, _⟩ := succeeds
  exact ⟨parsed, filters, isRead, made⟩

theorem answerOf_of_unreadable
    {failure : Failure} (unreadable : SearchArguments.ofJson arguments = .error failure) :
    answerOf catalog stores options arguments = failureJson failure := by
  rw [answerOf, unreadable]

theorem answerOf_of_readable
    {parsed : SearchArguments} (isRead : SearchArguments.ofJson arguments = .ok parsed) :
    answerOf catalog stores options arguments =
      searchAnswer ((searchFiles stores options catalog parsed).run.run {}).1 := by
  rw [answerOf, isRead]

theorem run_searchFiles_of_unknown
    {parsed : SearchArguments} {failure : Failure}
    (unknown : catalog.filters parsed = .error failure) (before : Trace) :
    (searchFiles stores options catalog parsed).run.run before = (.error failure, before) := by
  rw [searchFiles, unknown]
  rfl

theorem run_searchFiles_of_made
    {parsed : SearchArguments} {filters : List Filter} {outcome : Except Failure (List ResultFile)}
    {before after : Trace} (made : catalog.filters parsed = .ok filters)
    (ran : (Search.run filters stores options).run.run before = (outcome, after)) :
    (searchFiles stores options catalog parsed).run.run before =
      (outcome.map fun results =>
        ⟨filters.map Filter.describe, results.length, results.take (shownUnder parsed.limit)⟩,
        after) := by
  rw [searchFiles, made]
  cases outcome with
  | error failure =>
      exact run_bind_of_error ran
  | ok results =>
      exact run_bind_of_ok ran

/-- The answer is that of a search that went through all stages, or it tells the first failure. -/
theorem answerOf_cases
    (catalog : Catalog) (stores : SearchStores) (options : SearchOptions)
    (arguments : Option Json) :
    (SearchSucceeds catalog stores options arguments ∧
        ∃ data, answerOf catalog stores options arguments = successJson data) ∨
      ∃ kind failure,
        FirstFailure catalog stores options arguments kind failure ∧
          answerOf catalog stores options arguments = failureJson failure := by
  cases isRead : SearchArguments.ofJson arguments with
  | error failure =>
      exact Or.inr ⟨_, failure, .reading isRead, answerOf_of_unreadable isRead⟩
  | ok parsed =>
      rw [answerOf_of_readable isRead]
      cases made : catalog.filters parsed with
      | error failure =>
          rw [run_searchFiles_of_unknown made]
          exact Or.inr ⟨_, failure, .lookingUp isRead made, rfl⟩
      | ok filters =>
          cases ran : (Search.run filters stores options).run.run {} with
          | mk outcome trace =>
              rw [run_searchFiles_of_made made ran]
              cases outcome with
              | error failure =>
                  exact
                    Or.inr ⟨_, failure, .searching isRead made (congrArg Prod.fst ran), rfl⟩
              | ok results =>
                  exact
                    Or.inl
                      ⟨⟨parsed, filters, results, isRead, made, congrArg Prod.fst ran⟩, _, rfl⟩

theorem FirstFailure.unique
    {kind otherKind : ReportKind} {failure other : Failure}
    (first : FirstFailure catalog stores options arguments kind failure)
    (firstToo : FirstFailure catalog stores options arguments otherKind other) :
    failure = other := by
  cases first with
  | reading unreadable =>
      cases firstToo with
      | reading unreadableToo =>
          exact Except.error.inj (unreadable.symm.trans unreadableToo)
      | lookingUp isRead _ =>
          cases unreadable.symm.trans isRead
      | searching isRead _ _ =>
          cases unreadable.symm.trans isRead
  | lookingUp isRead unknown =>
      cases firstToo with
      | reading unreadable =>
          cases isRead.symm.trans unreadable
      | lookingUp isReadToo unknownToo =>
          obtain rfl := Except.ok.inj (isRead.symm.trans isReadToo)
          exact Except.error.inj (unknown.symm.trans unknownToo)
      | searching isReadToo made _ =>
          obtain rfl := Except.ok.inj (isRead.symm.trans isReadToo)
          cases unknown.symm.trans made
  | searching isRead made fails =>
      cases firstToo with
      | reading unreadable =>
          cases isRead.symm.trans unreadable
      | lookingUp isReadToo unknown =>
          obtain rfl := Except.ok.inj (isRead.symm.trans isReadToo)
          cases made.symm.trans unknown
      | searching isReadToo madeToo failsToo =>
          obtain rfl := Except.ok.inj (isRead.symm.trans isReadToo)
          obtain rfl := Except.ok.inj (made.symm.trans madeToo)
          exact Except.error.inj (fails.symm.trans failsToo)

theorem not_succeeds_of_firstFailure
    {kind : ReportKind} {failure : Failure}
    (first : FirstFailure catalog stores options arguments kind failure) :
    ¬ SearchSucceeds catalog stores options arguments := by
  rintro ⟨parsed, filters, results, isRead, made, ran⟩
  cases first with
  | reading unreadable =>
      cases isRead.symm.trans unreadable
  | lookingUp isReadToo unknown =>
      obtain rfl := Except.ok.inj (isRead.symm.trans isReadToo)
      cases made.symm.trans unknown
  | searching isReadToo madeToo fails =>
      obtain rfl := Except.ok.inj (isRead.symm.trans isReadToo)
      obtain rfl := Except.ok.inj (made.symm.trans madeToo)
      cases ran.symm.trans fails

/-- The text of the response writes an object, and this object tells how the search ended: its flag
of success is the opposite of the flag of the response, and an answer without success tells the
kind of the first failure, and its message with what caused it. Arguments that make no filters are
to blame themselves. Texts are told unit by unit. -/
structure TellsSearch
    (catalog : Catalog) (stores : SearchStores) (options : SearchOptions)
    (arguments : Option Json) (response : ToolResponse) (shown : Json) :
    Prop where
  reads : Json.read response.text.toList = .ok shown
  isObject : shown.isObject = true
  success : shown.field? "success" = some (.bool !response.isError)
  succeeds : response.isError = false ↔ SearchSucceeds catalog stores options arguments
  blamesInput :
    ¬ MakesFilters catalog arguments →
      shown.field? "error_kind" = some (.string "INVALID_INPUT")
  fails :
    response.isError = true →
      ∃ kind failure text,
        FirstFailure catalog stores options arguments kind failure ∧
          response.text = (failureJson failure).pretty ∧
          shown.field? "error_kind" = some (.string kind.name) ∧
          shown.field? "error" = some (.string text) ∧
          (failure.cause = none →
            textUnits text.toList = textUnits failure.message.toList) ∧
          ∀ cause, failure.cause = some cause →
            textUnits text.toList = textUnits (failure.message ++ ": " ++ cause).toList

@[simp]
theorem rereadText_name (kind : ReportKind) : Json.rereadText kind.name = kind.name := by
  cases kind <;> decide +kernel

theorem reread_successJson (data : Json) :
    (successJson data).reread = .object [("success", .bool true), ("data", data.reread)] := by
  have plain : Json.PlainNames ["success", "data"] :=
    ⟨by decide, by decide, by decide +kernel⟩
  exact Json.reread_object plain

theorem reread_failureJson (failure : Failure) :
    (failureJson failure).reread =
      .object
        [("success", .bool false), ("error", .string (Json.rereadText failure.report.summary)),
          ("error_kind", .string failure.kind.name)] := by
  have plain : Json.PlainNames ["success", "error", "error_kind"] :=
    ⟨by decide, by decide, by decide +kernel⟩
  rw [← rereadText_name failure.kind]
  exact Json.reread_object plain

theorem tellsSearch_of_success
    {data : Json} (succeeds : SearchSucceeds catalog stores options arguments) :
    TellsSearch catalog stores options arguments (.ofAnswer (successJson data))
      (successJson data).reread := by
  have isObject := reread_successJson data
  refine ⟨Json.read_pretty _, ?_, ?_, ⟨fun _ => succeeds, fun _ => rfl⟩, ?_, nofun⟩
  · rw [isObject]
    rfl
  · rw [isObject]
    rfl
  · intro unmade
    exact absurd succeeds.makesFilters unmade

theorem tellsSearch_of_failure
    {kind : ReportKind} {failure : Failure}
    (first : FirstFailure catalog stores options arguments kind failure) :
    TellsSearch catalog stores options arguments (.ofAnswer (failureJson failure))
      (failureJson failure).reread := by
  have fails := not_succeeds_of_firstFailure first
  have isObject := reread_failureJson failure
  have sameUnits := Json.textUnits_rereadText failure.report.summary
  have isKind :
      (failureJson failure).reread.field? "error_kind" = some (.string kind.name) := by
    rw [isObject, ← first.kind_eq]
    rfl
  refine
    ⟨Json.read_pretty _, ?_, ?_, ⟨nofun, fun succeeds => absurd succeeds fails⟩, ?_, fun _ => ?_⟩
  · rw [isObject]
    rfl
  · rw [isObject]
    rfl
  · intro unmade
    rw [isKind, first.kind_of_not_makesFilters unmade]
    rfl
  refine ⟨kind, failure, Json.rereadText failure.report.summary, first, rfl, isKind, ?_, ?_, ?_⟩
  · rw [isObject]
    rfl
  · intro noCause
    rw [sameUnits, Report.summary, Failure.report, noCause]
  · intro cause isCause
    rw [sameUnits, Report.summary, Failure.report, isCause]

theorem tellsSearch_answerOf
    (catalog : Catalog) (stores : SearchStores) (options : SearchOptions)
    (arguments : Option Json) :
    TellsSearch catalog stores options arguments
      (.ofAnswer (answerOf catalog stores options arguments))
      (answerOf catalog stores options arguments).reread := by
  rcases answerOf_cases catalog stores options arguments with
    ⟨succeeds, data, isAnswer⟩ | ⟨kind, failure, first, isAnswer⟩
  · rw [isAnswer]
    exact tellsSearch_of_success succeeds
  · rw [isAnswer]
    exact tellsSearch_of_failure first

namespace ServerContext

open Workspace

variable {context : ServerContext} {workspace : Workspace} {caseTables : CaseTables}

/-! ## A server that has a case -/

/-- The handle of the case shows the tables of a case, and no table or column is missing there. -/
def ServesCase
    (context : ServerContext) (workspace : Workspace) (caseTables : CaseTables) : Prop :=
  ∃ id tables,
    context.stores.caseHandle = some id ∧ (workspace.handle id).connection.tables = .ok tables ∧
      tables.caseTables = some caseTables ∧ caseTables.gaps = []

def offered (context : ServerContext) (caseTables : CaseTables) : Catalog :=
  ⟨caseTables.listSources, caseTables.listNames, context.fileTypes⟩

theorem run_onCase
    {Value : Type} {read : CaseTables → Value} (serves : context.ServesCase workspace caseTables)
    (access : ColumnAccess) :
    (onCase context.stores
        (Handle.query fun tables => return read (← tables.requireCase access))).run.run workspace =
      (.ok (read caseTables), workspace) := by
  obtain ⟨id, tables, isCase, shown, isSome, whole⟩ := serves
  have onId (step : HandleM Value) : onCase context.stores step = onHandle id step := by
    rw [onCase, caseHandle, isCase]
    rfl
  rw [onId, run_onHandle (reads_query _), readHandle, Handle.run_query, shown]
  change (Except.mapError _ (tables.requireCase access >>= fun caseTables => .ok (read caseTables)),
    workspace) = _
  rw [Handle.requireCase_of_some isSome whole]
  rfl

theorem run_catalog (serves : context.ServesCase workspace caseTables) :
    context.catalog.run.run workspace = (.ok (context.offered caseTables), workspace) := by
  have sources : (onCase context.stores CaseStore.sources).run.run workspace = _ :=
    run_onCase serves (.selectFrom "data_source_info" ["obj_id", "name"])
  have lists : (onCase context.stores CaseStore.keywordLists).run.run workspace = _ :=
    run_onCase serves
      (.selectFrom "blackboard_attributes" ["value_text", "artifact_type_id", "attribute_type_id"])
  rw [catalog, Workspace.catalog, run_bind_of_ok sources, run_bind_of_ok lists]
  rfl

theorem run_searchFilesAnswer
    (serves : context.ServesCase workspace caseTables) (arguments : Option Json) :
    ((context.searchFilesAnswer arguments).run.run workspace).1 =
      .ok
        (answerOf (context.offered caseTables)
          (workspace.searchStores context.stores context.hasRepository) context.settings.search
          arguments) := by
  unfold searchFilesAnswer answerOf
  cases SearchArguments.ofJson arguments with
  | error failure =>
      rfl
  | ok parsed =>
      dsimp only
      rw [run_bind_of_ok (run_catalog serves), run_search]

theorem run_optionsAnswer (serves : context.ServesCase workspace caseTables) :
    (context.optionsAnswer.run.run workspace).1 =
      .ok (EvidenceSearch.optionsAnswer (context.offered caseTables) context.hasRepository) := by
  unfold optionsAnswer
  rw [run_bind_of_ok (run_catalog serves)]
  rfl

/-! ## Every call gets a response -/

theorem run_call_of_unknown
    {name : String} {error : RegistryError} (unknown : serverRegistry.require name = .error error)
    (arguments : Option Json) (workspace : Workspace) :
    (context.call name arguments).run.run workspace =
      (.ok (.ofError error.message), workspace) := by
  unfold call
  rw [unknown]
  rfl

theorem exists_response
    (context : ServerContext) (name : String) (arguments : Option Json) (workspace : Workspace) :
    ∃ response after, (context.call name arguments).run.run workspace = (.ok response, after) := by
  cases required : serverRegistry.require name with
  | error error =>
      exact ⟨_, _, run_call_of_unknown required arguments workspace⟩
  | ok tool =>
      cases ran : (context.runTool arguments tool.handler).run.run workspace with
      | mk outcome after =>
          exact ⟨_, after, run_call required ran⟩

theorem exists_replyToCall
    (context : ServerContext) (params : Option Json) (workspace : Workspace) :
    ∃ reply after, (context.replyToCall params).run.run workspace = (.ok reply, after) := by
  unfold replyToCall
  split
  · exact ⟨_, _, rfl⟩
  · rename_i name _
    dsimp only
    split
    · exact ⟨_, _, rfl⟩
    · obtain ⟨response, after, called⟩ :=
        exists_response context name (params.bind (Json.field? "arguments")) workspace
      exact ⟨_, after, run_bind_of_ok called⟩

theorem exists_reply
    (context : ServerContext) (request : ServerRequest) (workspace : Workspace) :
    ∃ reply after, (context.reply request).run.run workspace = (.ok reply, after) := by
  unfold reply
  split
  · exact ⟨_, _, rfl⟩
  split
  · exact exists_replyToCall context request.params workspace
  -- what is left is answered without looking at the stores
  split
  · exact ⟨_, _, rfl⟩
  split <;> exact ⟨_, _, rfl⟩

/-- Requests never make a server fail, and each gets a reply. -/
theorem exists_replies
    (context : ServerContext) (requests : List ServerRequest) (workspace : Workspace) :
    ∃ replies after,
      (context.replyAll requests).run.run workspace = (.ok replies, after) ∧
        replies.length = requests.length := by
  induction requests generalizing workspace with
  | nil =>
      exact ⟨[], workspace, rfl, rfl⟩
  | cons request requests inductionHypothesis =>
      obtain ⟨first, between, replied⟩ := exists_reply context request workspace
      obtain ⟨others, after, repliedAll, sameLength⟩ := inductionHypothesis between
      refine ⟨first :: others, after, ?_, congrArg (· + 1) sameLength⟩
      rw [replyAll, run_bind_of_ok replied, run_bind_of_ok repliedAll]
      rfl

theorem run_reply_of_call
    {name : String} {params : Json} {response : ToolResponse} {after : Workspace}
    (named : (params.field? "name").bind Json.text? = some name)
    (objects : ∀ value, params.field? "arguments" = some value → value.isObject = true)
    (called :
      (context.call name (params.field? "arguments")).run.run workspace = (.ok response, after)) :
    (context.reply ⟨"tools/call", some params⟩).run.run workspace =
      (.ok (.result response.toJson), after) := by
  have allowed : ((params.field? "arguments").any fun value => !value.isObject) = false := by
    cases given : params.field? "arguments" with
    | none =>
        rfl
    | some value =>
        rw [Option.any_some, objects value given]
        rfl
  unfold reply replyToCall
  simp only [Option.bind_some, named, allowed]
  exact run_bind_of_ok called

theorem require_of_not_mem
    {name : String} (unregistered : name ∉ serverRegistry.tools.map Tool.name) :
    serverRegistry.require name = .error (.unknown name) := by
  have notFound : serverRegistry.find? name = none := by
    rw [Registry.find?, List.find?_eq_none]
    intro tool member isNamed
    exact unregistered (of_decide_eq_true isNamed ▸ List.mem_map_of_mem member)
  rw [Registry.require, notFound]

theorem run_searchCall
    (serves : context.ServesCase workspace caseTables) (arguments : Option Json) :
    ((context.call "search_files" arguments).run.run workspace).1 =
      .ok
        (.ofAnswer
          (answerOf (context.offered caseTables)
            (workspace.searchStores context.stores context.hasRepository)
            context.settings.search arguments)) := by
  obtain ⟨after, ran⟩ := exists_eq_of_fst (run_searchFilesAnswer serves arguments)
  have required : serverRegistry.require "search_files" = .ok searchFilesTool := rfl
  rw [run_call required ran, responseTo]

theorem run_optionsCall
    (serves : context.ServesCase workspace caseTables) (arguments : Option Json) :
    ((context.call "list_search_options" arguments).run.run workspace).1 =
      .ok
        (.ofAnswer
          (EvidenceSearch.optionsAnswer (context.offered caseTables) context.hasRepository)) := by
  obtain ⟨after, ran⟩ := exists_eq_of_fst (run_optionsAnswer serves)
  have required : serverRegistry.require "list_search_options" = .ok listSearchOptionsTool := rfl
  have ranTool :
      (context.runTool arguments listSearchOptionsTool.handler).run.run workspace = (_, after) :=
    ran
  rw [run_call required ranTool, responseTo]

/-- Every request gets a reply, and every call of a tool gets a response, whatever was asked
before. On a case, the text of the response to a search is read as an object that tells how the
search ended, and the response of the other tool reports no error; a name without a tool is
reported. -/
theorem call_always_answered
    (serves : context.ServesCase workspace caseTables) (name : String)
    (arguments : Option Json) :
    (∀ requests, ∃ replies after,
        (context.replyAll requests).run.run workspace = (.ok replies, after) ∧
          replies.length = requests.length) ∧
      ∃ response,
        (∀ earlier, context.responseAfter earlier name arguments workspace = .ok response) ∧
        (∀ params : Json, (params.field? "name").bind Json.text? = some name →
          params.field? "arguments" = arguments →
          (∀ value, arguments = some value → value.isObject = true) →
            ((context.reply ⟨"tools/call", some params⟩).run.run workspace).1 =
              .ok (.result response.toJson)) ∧
        (name = "search_files" →
          ∃ shown,
            TellsSearch (context.offered caseTables)
              (workspace.searchStores context.stores context.hasRepository)
              context.settings.search arguments response shown) ∧
        (name = "list_search_options" → response.isError = false) ∧
        (name ∉ serverRegistry.tools.map Tool.name →
          response = ⟨"Error: Unknown tool: " ++ name, true⟩) := by
  refine ⟨fun requests => exists_replies context requests workspace, ?_⟩
  obtain ⟨response, after, called⟩ := exists_response context name arguments workspace
  refine ⟨response, ?_, ?_, ?_, ?_, ?_⟩
  · intro earlier
    rw [responseAfter_eq, called]
  · rintro params named rfl objects
    rw [run_reply_of_call named objects called]
  · rintro rfl
    have isResponse := run_searchCall serves arguments
    rw [called] at isResponse
    obtain rfl := Except.ok.inj isResponse
    exact ⟨_, tellsSearch_answerOf _ _ _ arguments⟩
  · rintro rfl
    have isResponse := run_optionsCall serves arguments
    rw [called] at isResponse
    obtain rfl := Except.ok.inj isResponse
    rfl
  · intro unregistered
    rw [run_call_of_unknown (require_of_not_mem unregistered)] at called
    exact (Except.ok.inj (congrArg Prod.fst called)).symm

/-- A server on a case without files, and without a repository. -/
def withoutRepository : ServerContext :=
  ⟨⟨⟨some "/case.db", none, .bundled⟩, .standard⟩, ⟨some 0, none⟩, [], [0]⟩

def emptyCase : Workspace :=
  { handles := [⟨some "/case.db", true, false, .fresh { caseTables := some .empty }⟩] }

/-- Rare files with a hit from a keyword list. -/
def rareWords : Json :=
  .object
    [("keyword_lists", .array [.string "words"]), ("frequencies", .array [.string "rare"])]

theorem rareWords_need_repository :
    withoutRepository.ServesCase emptyCase .empty ∧
      ∃ response : ToolResponse, ∃ shown : Json,
        withoutRepository.responseAfter [] "search_files" (some rareWords) emptyCase =
            .ok response ∧
          response.isError = true ∧
          response.text =
            "\x7b\n  \"success\": false,\n  \"error\": " ++
              "\"Frequency filter selected but no central repository is configured\",\n" ++
              "  \"error_kind\": \"MISCONFIGURED_FILTER\"\n\x7d" ∧
          Json.read response.text.toList = .ok shown ∧
          shown.field? "success" = some (.bool false) ∧
          shown.field? "error_kind" = some (.string "MISCONFIGURED_FILTER") := by
  have serves : withoutRepository.ServesCase emptyCase .empty := ⟨0, _, rfl, rfl, rfl, rfl⟩
  refine ⟨serves, ?_⟩
  obtain ⟨_, response, responds, _, tells, _⟩ :=
    call_always_answered serves "search_files" (some rareWords)
  obtain ⟨shown, told⟩ := tells rfl
  have isRead :
      SearchArguments.ofJson (some rareWords) =
        .ok { keywordLists := some ["words"], frequencies := some ["rare"] } := by
    decide +kernel
  have made :
      (withoutRepository.offered .empty).filters
          { keywordLists := some ["words"], frequencies := some ["rare"] } =
        .ok [.keywordList ⟨⟨"words", by decide⟩, []⟩, .frequency ⟨.rare, []⟩] := by
    decide +kernel
  have refused :
      (Search.run [.keywordList ⟨⟨"words", by decide⟩, []⟩, .frequency ⟨.rare, []⟩]
          (emptyCase.searchStores withoutRepository.stores withoutRepository.hasRepository)
          withoutRepository.settings.search).run.run {} =
        (.error .noRepository, {}) :=
    Search.run_noRepository (Option.some_ne_none _) (by simp [Filter.isFrequency])
      (by simp [Filter.isFrequency]) rfl {}
  have first := FirstFailure.searching isRead made (congrArg Prod.fst refused)
  have isError : response.isError = true := by
    rw [← Bool.not_eq_false, told.succeeds]
    exact not_succeeds_of_firstFailure first
  obtain ⟨kind, failure, text, firstToo, isText, isKind, _⟩ := told.fails isError
  obtain rfl := first.unique firstToo
  refine ⟨response, shown, responds [], isError, ?_, told.reads, ?_, ?_⟩
  · rw [isText]
    decide +kernel
  · rw [told.success, isError]
    rfl
  · rw [isKind, ← firstToo.kind_eq]
    rfl

end ServerContext
end EvidenceSearch
