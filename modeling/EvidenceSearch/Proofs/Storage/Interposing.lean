import EvidenceSearch.Proofs.Storage.Persisting

/-!
# Writing a handle in between

A handle may be written to its file at any time. Nothing that is done later can tell: not what is
asked of the handle or of the stores that use it, not what is added, and not whether it can be
written again and closed. Only the answer of a statement that inserts no row would show that the
key of an earlier row was lost.
-/

namespace EvidenceSearch

open Handle

variable {Value Image : Type}

/-! ## Workspaces whose handles are alike -/

namespace Workspace

/-- The workspaces have the same stores, and each handle of the one is alike to that of the
other. -/
structure AlikeHandles (left right : Workspace) : Prop where
  stores : left.stores = right.stores
  count : left.handles.length = right.handles.length
  handles : ∀ id, Handle.Alike (left.handle id) (right.handle id)

/-- The files are the same, and every handle was carried on. -/
structure Continues (before after : Workspace) : Prop where
  files : after.files = before.files
  handles : ∀ id, Carried (before.handle id) (after.handle id)

theorem Continues.refl (workspace : Workspace) : Continues workspace workspace :=
  ⟨rfl, fun _ => Carried.refl _⟩

theorem Continues.trans {first second third : Workspace} (left : Continues first second)
    (right : Continues second third) : Continues first third :=
  ⟨right.files.trans left.files, fun id => (left.handles id).trans (right.handles id)⟩

/-- Write a handle to its file, which may close it. First its database is copied, if there is
something to write, and `renew` says what then becomes of the key of the row inserted last. -/
def writing (renew : Int → Int)
    (step : Handle → FileSystem → Except StorageError Handle × FileSystem) (id : HandleId) :
    WorkspaceM Unit := do
  modify fun workspace => workspace.setHandle id ((workspace.handle id).renewed renew)
  withFiles step id

/-- The step answers the same in workspaces with handles that are alike, and leaves such
workspaces. It changes no file, and it carries the handles on. -/
structure Indifferent (step : WorkspaceM Value) : Prop where
  agrees :
    ∀ {left right}, AlikeHandles left right → (step.run.run left).1 = (step.run.run right).1
  keeps :
    ∀ {left right}, AlikeHandles left right →
      AlikeHandles (step.run.run left).2 (step.run.run right).2
  continues : ∀ workspace, Continues workspace (step.run.run workspace).2

variable {step : WorkspaceM Value} {left right : Workspace}

theorem handle_setHandle (workspace : Workspace) (id other : HandleId) (after : Handle) :
    (workspace.setHandle id after).handle other = workspace.handle other ∨
      id = other ∧ (workspace.setHandle id after).handle other = after := by
  by_cases same : id = other
  · subst same
    by_cases opened : id < workspace.handles.length
    · exact Or.inr ⟨rfl, handle_setHandle_of_lt opened after⟩
    · left
      rw [setHandle, List.set_eq_of_length_le (Nat.le_of_not_lt opened)]
  · exact Or.inl (handle_setHandle_other same after)

theorem AlikeHandles.setHandle
    (alike : AlikeHandles left right) (id : HandleId) {leftAfter rightAfter : Handle}
    (alikeAfter : Handle.Alike leftAfter rightAfter) :
    AlikeHandles (left.setHandle id leftAfter) (right.setHandle id rightAfter) := by
  refine ⟨alike.stores, ?_, fun other => ?_⟩
  · rw [Workspace.setHandle, Workspace.setHandle, List.length_set, List.length_set, alike.count]
  · by_cases same : id = other
    · subst same
      by_cases opened : id < left.handles.length
      · rw [handle_setHandle_of_lt opened, handle_setHandle_of_lt (alike.count ▸ opened)]
        exact alikeAfter
      · have openedToo : ¬ id < right.handles.length := alike.count ▸ opened
        rw [Workspace.setHandle, Workspace.setHandle,
          List.set_eq_of_length_le (Nat.le_of_not_lt opened),
          List.set_eq_of_length_le (Nat.le_of_not_lt openedToo)]
        exact alike.handles id
    · rw [handle_setHandle_other same, handle_setHandle_other same]
      exact alike.handles other

theorem indifferent_onHandle
    {program : HandleM Value} (respects : Respects program) (tends : Tends program)
    (id : HandleId) :
    Indifferent (onHandle id program) := by
  have answer (workspace : Workspace) :
      ((onHandle id program).run.run workspace).1 =
        ((program.run.run (workspace.handle id)).1).mapError .storage := by
    cases ran : program.run.run (workspace.handle id) with
    | mk outcome after =>
        cases outcome with
        | error error =>
            rw [onHandle_of_error ran]
            rfl
        | ok value =>
            rw [onHandle_of_ok ran]
            rfl
  refine ⟨fun {left right} alike => ?_, fun {left right} alike => ?_, fun workspace => ?_⟩
  · rw [answer, answer, respects.agrees (alike.handles id)]
  · rw [onHandle_after, onHandle_after]
    exact alike.setHandle id (respects.keeps (alike.handles id))
  · rw [onHandle_after]
    refine ⟨rfl, fun other => ?_⟩
    rcases workspace.handle_setHandle id other _ with same | ⟨rfl, isAfter⟩
    · rw [same]
      exact Carried.refl _
    · rw [isAfter]
      exact tends _

theorem Indifferent.exists_run
    (indifferent : Indifferent step) (alike : AlikeHandles left right) :
    ∃ outcome leftAfter rightAfter,
      step.run.run left = (outcome, leftAfter) ∧ step.run.run right = (outcome, rightAfter) ∧
        AlikeHandles leftAfter rightAfter :=
  ⟨(step.run.run left).1, (step.run.run left).2, (step.run.run right).2, rfl,
    Prod.ext (indifferent.agrees alike).symm rfl, indifferent.keeps alike⟩

theorem Indifferent.bind
    {next : Value → WorkspaceM Image} (indifferent : Indifferent step)
    (indifferentNext : ∀ value, Indifferent (next value)) :
    Indifferent (step >>= next) := by
  have together {left right : Workspace} (alike : AlikeHandles left right) :
      ((step >>= next).run.run left).1 = ((step >>= next).run.run right).1 ∧
        AlikeHandles ((step >>= next).run.run left).2 ((step >>= next).run.run right).2 := by
    obtain ⟨outcome, leftAfter, rightAfter, ranLeft, ranRight, between⟩ :=
      indifferent.exists_run alike
    cases outcome with
    | error error =>
        rw [run_bind_of_error ranLeft, run_bind_of_error ranRight]
        exact ⟨rfl, between⟩
    | ok value =>
        rw [run_bind_of_ok ranLeft, run_bind_of_ok ranRight]
        exact ⟨(indifferentNext value).agrees between, (indifferentNext value).keeps between⟩
  refine ⟨fun alike => (together alike).1, fun alike => (together alike).2, fun workspace => ?_⟩
  have between := indifferent.continues workspace
  cases ran : step.run.run workspace with
  | mk outcome after =>
      rw [ran] at between
      cases outcome with
      | error error =>
          rw [run_bind_of_error ran]
          exact between
      | ok value =>
          rw [run_bind_of_ok ran]
          exact between.trans ((indifferentNext value).continues after)

/-- What is done with the workspace itself may depend on what workspaces with alike handles
share. -/
theorem indifferent_get
    {next : Workspace → WorkspaceM Value}
    (indifferentNext : ∀ workspace, Indifferent (next workspace))
    (sameNext : ∀ {left right}, AlikeHandles left right → next left = next right) :
    Indifferent (get >>= next) := by
  refine ⟨fun {left right} alike => ?_, fun {left right} alike => ?_, fun workspace => ?_⟩
  · rw [run_get_bind, run_get_bind, sameNext alike]
    exact (indifferentNext right).agrees alike
  · rw [run_get_bind, run_get_bind, sameNext alike]
    exact (indifferentNext right).keeps alike
  · rw [run_get_bind]
    exact (indifferentNext workspace).continues workspace

theorem indifferent_modify
    {change : Workspace → Workspace}
    (keeps : ∀ {left right}, AlikeHandles left right → AlikeHandles (change left) (change right))
    (continues : ∀ workspace, Continues workspace (change workspace)) :
    Indifferent (modify change : WorkspaceM PUnit) :=
  ⟨fun _ => rfl, keeps, continues⟩

theorem indifferent_noteAll (entries : List LogEntry) : Indifferent (noteAll entries) :=
  indifferent_modify (fun alike => ⟨alike.stores, alike.count, alike.handles⟩)
    fun _ => ⟨rfl, fun _ => Carried.refl _⟩

theorem indifferent_pure (value : Value) : Indifferent (pure value) :=
  ⟨fun _ => rfl, fun alike => alike, Continues.refl⟩

theorem indifferent_ofStorage (outcome : Except StorageError Value) :
    Indifferent (ofStorage outcome) := by
  refine ⟨fun {left right} _ => ?_, fun {left right} alike => ?_, fun workspace => ?_⟩
  · rw [run_ofStorage, run_ofStorage]
  · rw [run_ofStorage, run_ofStorage]
    exact alike
  · rw [run_ofStorage]
    exact Continues.refl workspace

theorem indifferent_search (action : Traced Failure Value) : Indifferent (search action) :=
  ⟨fun _ => rfl, fun alike => ⟨alike.stores, alike.count, alike.handles⟩,
    fun _ => ⟨rfl, fun _ => Carried.refl _⟩⟩

theorem indifferent_read
    {program : HandleM Value} (reads : Reads program) (id : HandleId) :
    Indifferent (onHandle id program) :=
  indifferent_onHandle (respects_of_reads reads) (tends_of_keeping reads.keeps) id

/-! ## What stores and searches ask -/

theorem AlikeHandles.readHandle
    {program : HandleM Value} (alike : AlikeHandles left right) (reads : Reads program)
    (id : HandleId) :
    left.readHandle id program = right.readHandle id program :=
  reads.agrees (alike.handles id).tables

theorem AlikeHandles.countOccurrences
    (alike : AlikeHandles left right) (stores : StoreHandles) (type : CorrelationType)
    (text : String) :
    left.countOccurrences stores type text = right.countOccurrences stores type text := by
  have sameRead (id : HandleId) := alike.readHandle (reads_count text) id
  unfold Workspace.countOccurrences
  simp only [sameRead]

theorem AlikeHandles.searchStores
    (alike : AlikeHandles left right) (withRepository : Bool) :
    left.searchStores left.stores withRepository =
      right.searchStores right.stores withRepository := by
  have sameFind (clause : String) (id : HandleId) := alike.readHandle (reads_find clause) id
  have sameType (type : Number) (id : HandleId) := alike.readHandle (reads_typeById type) id
  have sameCount := alike.countOccurrences right.stores
  have sameCase : left.askCase right.stores = right.askCase right.stores := by
    funext clause
    unfold Workspace.askCase
    simp only [sameFind]
  have sameRepository : left.askRepository right.stores = right.askRepository right.stores := by
    unfold Workspace.askRepository
    simp only [sameType, sameCount]
  rw [Workspace.searchStores, Workspace.searchStores, alike.stores, sameCase, sameRepository]

theorem indifferent_onStore
    {program : HandleM Value} (respects : Respects program) (tends : Tends program)
    (stores : StoreHandles) (kind : StoreKind) :
    Indifferent (kind.onStore stores program) := by
  cases kind with
  | ofCase =>
      exact (indifferent_ofStorage _).bind fun id => indifferent_onHandle respects tends id
  | ofRepository =>
      exact (indifferent_ofStorage _).bind fun id => indifferent_onHandle respects tends id

theorem indifferent_given (kind : StoreKind) (id : HandleId) :
    Indifferent (modify (kind.given · id) : WorkspaceM PUnit) := by
  refine indifferent_modify (fun {left right} alike => ?_) fun workspace => ?_
  · refine ⟨?_, ?_, fun other => ?_⟩
    · cases kind with
      | ofCase =>
          rw [StoreKind.given, StoreKind.given, withCase, withCase, alike.stores]
      | ofRepository =>
          rw [StoreKind.given, StoreKind.given, withRepository, withRepository, alike.stores]
    · cases kind <;> exact alike.count
    · rw [StoreKind.handle_given, StoreKind.handle_given]
      exact alike.handles other
  · refine ⟨?_, fun other => ?_⟩
    · cases kind <;> rfl
    · rw [StoreKind.handle_given]
      exact Carried.refl _

theorem indifferent_prepare (kind : StoreKind) (id : HandleId) :
    Indifferent (kind.prepare id) := by
  rw [StoreKind.prepare_eq]
  exact
    (indifferent_given kind id).bind fun _ =>
      (indifferent_onHandle (respects_runScript _) (tends_runScript _) id).bind fun _ =>
        indifferent_noteAll _

theorem indifferent_attach (kind : StoreKind) (id : HandleId) :
    Indifferent (kind.attach id) := by
  cases kind with
  | ofCase =>
      have checks : Indifferent (checkCase id) :=
        (indifferent_read reads_checkCase id).bind fun _ => indifferent_noteAll _
      exact checks.bind fun _ => indifferent_given .ofCase id
  | ofRepository =>
      have checks : Indifferent (checkRepository id) :=
        (indifferent_read reads_checkRepository id).bind fun _ => indifferent_noteAll _
      exact checks.bind fun _ => indifferent_given .ofRepository id

theorem indifferent_catalog (stores : StoreHandles) (fileTypes : List FileType) :
    Indifferent (catalog stores fileTypes) :=
  (indifferent_onStore (respects_of_reads reads_sources) (tends_of_keeping reads_sources.keeps)
        stores .ofCase).bind fun _ =>
    (indifferent_onStore (respects_of_reads reads_keywordLists)
          (tends_of_keeping reads_keywordLists.keeps) stores .ofCase).bind fun _ =>
      indifferent_pure _

end Workspace

/-! ## What is done with a handle and its stores -/

/-- What a store is asked or told. -/
inductive StoreRequest where
  | addSource (id? : Option Number) (name? : Option String)
  | addFile (file : NewFile)
  | addKeywordHit (fileId : Option Number) (list : Option String)
  | addOccurrence (caseId sourceId : Option Number) (hash : String) (path : Option String)
  | files (clause : String)
  | sources
  | keywordLists
  | typeById (typeId : Number)

namespace StoreRequest

def kind : StoreRequest → StoreKind
  | .addOccurrence _ _ _ _ | .typeById _ => .ofRepository
  | _ => .ofCase

def Answer : StoreRequest → Type
  | .addSource _ _ => Unit
  | .addFile _ => Int
  | .addKeywordHit _ _ => Unit
  | .addOccurrence _ _ _ _ => Unit
  | .files _ => List FileRecord
  | .sources => List DataSource
  | .keywordLists => List String
  | .typeById _ => CorrelationType

/-- What the request does on the handle of its store. -/
def program : (request : StoreRequest) → HandleM request.Answer
  | .addSource id? name? => CaseStore.addSource id? name?
  | .addFile file => CaseStore.addFile file
  | .addKeywordHit fileId list => CaseStore.addKeywordHit fileId list
  | .addOccurrence caseId sourceId hash path =>
      RepositoryStore.addOccurrence caseId sourceId hash path
  | .files clause => CaseStore.find clause
  | .sources => CaseStore.sources
  | .keywordLists => CaseStore.keywordLists
  | .typeById typeId => RepositoryStore.typeById typeId

/-- A hit is written with the key that its own first row was given. -/
theorem later_addKeywordHit (fileId : Option Number) (list : Option String) :
    Later (CaseStore.addKeywordHit fileId list) := by
  have inserts : Inserts (Tables.insertArtifact fileId) := by
    intro tables after key? accepted
    obtain ⟨_, _, rest⟩ := bind_eq_ok accepted
    obtain ⟨_, _, ended⟩ := bind_eq_ok rest
    cases ended
    rfl
  exact .transaction (.bind (.insert inserts) fun artifactId => .carryOut _)

theorem later_addOccurrence
    (caseId sourceId : Option Number) (text : String) (path : Option String) :
    Later (RepositoryStore.addOccurrence caseId sourceId text path) := by
  unfold RepositoryStore.addOccurrence
  cases normalizeHash text with
  | error error =>
      exact .throw error
  | ok hash =>
      exact .carryOut _

theorem later_program (request : StoreRequest) : Later request.program := by
  cases request with
  | addSource id? name? =>
      exact .carryOut _
  | addFile file =>
      exact .insert (inserts_insertFile file)
  | addKeywordHit fileId list =>
      exact later_addKeywordHit fileId list
  | addOccurrence caseId sourceId hash path =>
      exact later_addOccurrence caseId sourceId hash path
  | files clause =>
      exact .read (reads_find clause)
  | sources =>
      exact .read reads_sources
  | keywordLists =>
      exact .read reads_keywordLists
  | typeById typeId =>
      exact .read (reads_typeById typeId)

end StoreRequest

/-- Something that is done with a handle or with the stores of the workspace. Programs may run on
any handle; one handle is written to its file and closed. -/
inductive Use : Type 1 where
  | program {Result : Type} (target : HandleId) (carried : HandleM Result) (later : Later carried)
  | statement (target : HandleId) (carried : Statement)
  | prepare (kind : StoreKind) (target : HandleId)
  | attach (kind : StoreKind) (target : HandleId)
  | request (asked : StoreRequest)
  | count (type : CorrelationType) (text : String)
  | catalog (fileTypes : List FileType)
  | run (withRepository : Bool) (options : SearchOptions) (filters : List Filter)
  | search (withRepository : Bool) (options : SearchOptions) (offered : Catalog)
      (arguments : SearchArguments)
  | persist
  | close

namespace Use

def Answer : Use → Type
  | @program Result _ _ _ => Result
  | .statement _ _ => Option Int
  | .prepare _ _ => Unit
  | .attach _ _ => Unit
  | .request asked => asked.Answer
  | .count _ _ => Nat
  | .catalog _ => Catalog
  | .run _ _ _ => Except Failure (List ResultFile)
  | .search _ _ _ _ => Except Failure FoundFiles
  | .persist => Unit
  | .close => Unit

/-- How it is done; `renew` says what becomes of the key of the last row when the handle is
copied. -/
def step (renew : Int → Int) (id : HandleId) : (use : Use) → WorkspaceM use.Answer
  | .program target carried _ => Workspace.onHandle target carried
  | .statement target carried => Workspace.onHandle target (runInserting carried)
  | .prepare kind target => kind.prepare target
  | .attach kind target => kind.attach target
  | .request asked => do
      let workspace ← get
      asked.kind.onStore workspace.stores asked.program
  | .count type text => do
      let workspace ← get
      Workspace.ofStorage (workspace.countOccurrences workspace.stores type text)
  | .catalog fileTypes => do
      let workspace ← get
      Workspace.catalog workspace.stores fileTypes
  | .run withRepository options filters => do
      let workspace ← get
      let stores := workspace.searchStores workspace.stores withRepository
      Workspace.search (Search.run filters stores options)
  | .search withRepository options offered arguments => do
      let workspace ← get
      let stores := workspace.searchStores workspace.stores withRepository
      Workspace.search (searchFiles stores options offered arguments)
  | .persist => Workspace.writing renew Handle.persist id
  | .close => Workspace.writing renew Handle.close id

/-- The use writes a handle to its file. -/
def Writes : Use → Prop
  | .persist | .close => True
  | _ => False

theorem indifferent_step
    (renew : Int → Int) (id : HandleId) {use : Use} (silent : ¬ use.Writes) :
    Workspace.Indifferent (use.step renew id) := by
  cases use with
  | program target carried later =>
      exact Workspace.indifferent_onHandle later.respects later.tends target
  | statement target carried =>
      exact
        Workspace.indifferent_onHandle (respects_runInserting carried)
          (tends_runInserting carried) target
  | prepare kind target =>
      exact Workspace.indifferent_prepare kind target
  | attach kind target =>
      exact Workspace.indifferent_attach kind target
  | request asked =>
      have later := asked.later_program
      refine Workspace.indifferent_get (fun workspace => ?_) fun alike => ?_
      · exact Workspace.indifferent_onStore later.respects later.tends _ _
      · rw [alike.stores]
  | count type text =>
      refine Workspace.indifferent_get (fun _ => Workspace.indifferent_ofStorage _) fun alike => ?_
      rw [alike.stores, alike.countOccurrences]
  | catalog fileTypes =>
      refine Workspace.indifferent_get (fun _ => Workspace.indifferent_catalog _ _) fun alike => ?_
      rw [alike.stores]
  | run withRepository options filters =>
      refine Workspace.indifferent_get (fun _ => Workspace.indifferent_search _) fun alike => ?_
      rw [alike.searchStores]
  | search withRepository options offered arguments =>
      refine Workspace.indifferent_get (fun _ => Workspace.indifferent_search _) fun alike => ?_
      rw [alike.searchStores]
  | persist =>
      exact absurd trivial silent
  | close =>
      exact absurd trivial silent

end Use

/-! ## Workspaces that can not be told apart -/

namespace Workspace

variable {left right workspace : Workspace} {path : String} {renew : Int → Int}
  {step : Handle → FileSystem → Except StorageError Handle × FileSystem} {final : Handle → Handle}

theorem AlikeHandles.symm (alike : AlikeHandles left right) : AlikeHandles right left :=
  ⟨alike.stores.symm, alike.count.symm, fun id => (alike.handles id).symm⟩

theorem AlikeHandles.trans
    {first second third : Workspace} (alike : AlikeHandles first second)
    (alikeThen : AlikeHandles second third) : AlikeHandles first third :=
  ⟨alike.stores.trans alikeThen.stores, alike.count.trans alikeThen.count,
    fun id => (alike.handles id).trans (alikeThen.handles id)⟩

theorem lt_length_of_path
    {id : HandleId} (onPath : (workspace.handle id).path = some path) :
    id < workspace.handles.length := by
  by_contra notOpened
  rw [handle, List.getD_eq_default _ _ (Nat.le_of_not_lt notOpened)] at onPath
  cases onPath

theorem run_writing
    (renew : Int → Int)
    (step : Handle → FileSystem → Except StorageError Handle × FileSystem) (id : HandleId)
    (workspace : Workspace) :
    (writing renew step id).run.run workspace =
      (withFiles step id).run.run
        (workspace.setHandle id ((workspace.handle id).renewed renew)) :=
  rfl

/-- If the copy keeps the key, a handle is written just as the workspace writes it. -/
theorem writing_id : writing id = withFiles := by
  funext step id workspace
  change (writing _ step id).run.run workspace = (withFiles step id).run.run workspace
  rw [run_writing, renewed_id, setHandle_handle]

theorem AlikeHandles.refl (workspace : Workspace) : AlikeHandles workspace workspace :=
  ⟨rfl, rfl, fun _ => Alike.refl _⟩

theorem exists_writing
    {id : HandleId} (writes : WritesAs step final) (renew : Int → Int)
    (rewritable : Rewritable path (workspace.handle id) workspace.files) :
    ∃ after,
      (writing renew step id).run.run workspace = (.ok (), after) ∧
        AlikeHandles after (workspace.setHandle id (final (workspace.handle id))) ∧
        Rewritable path (after.handle id) after.files := by
  have opened := lt_length_of_path rewritable.onPath
  have isRenewed := handle_setHandle_of_lt opened ((workspace.handle id).renewed renew)
  obtain ⟨written, files, stepped, rewritableAfter, alikeAfter⟩ :=
    writes.returns (rewritable_renewed.mpr rewritable)
  rw [← isRenewed] at stepped
  have alikeFinal := alikeAfter.trans (writes.keeps (alike_renewed renew (workspace.handle id)))
  have sameWorkspace :
      (workspace.setHandle id ((workspace.handle id).renewed renew)).setHandle id written =
        workspace.setHandle id written := by
    rw [setHandle, setHandle, List.set_set]
    rfl
  rw [run_writing, withFiles_of_ok stepped, sameWorkspace]
  have alike := (AlikeHandles.refl workspace).setHandle id alikeFinal
  refine ⟨_, rfl, ⟨alike.stores, alike.count, alike.handles⟩, ?_⟩
  change Rewritable path ((workspace.setHandle id written).handle id) files
  rw [handle_setHandle_of_lt opened]
  exact rewritableAfter

/-- The workspaces are the same, or their handles are alike and the one that is written and closed
can be written in both whenever that is needed. -/
inductive Seems (id : HandleId) : Workspace → Workspace → Prop where
  | same (workspace : Workspace) : Seems id workspace workspace
  | written {left right : Workspace} {path : String} :
      AlikeHandles left right →
      Rewritable path (left.handle id) left.files →
      Rewritable path (right.handle id) right.files →
      Seems id left right

/-- Where writing a handle returns there was nothing to write, or it can be written again. -/
theorem rewritable_of_returns
    {id : HandleId}
    (returns : ((writing renew Handle.persist id).run.run workspace).1 = .ok ()) :
    ((writing renew Handle.persist id).run.run workspace).2 = workspace ∨
      ∃ path, Rewritable path (workspace.handle id) workspace.files := by
  cases needed : (workspace.handle id).hasToWrite with
  | false =>
      left
      rw [run_writing, renewed_of_not_hasToWrite needed, setHandle_handle,
        withFiles_of_ok (persist_of_not_hasToWrite needed _), setHandle_handle]
  | true =>
      right
      obtain ⟨ended, ran⟩ := exists_eq_of_fst returns
      rw [run_writing] at ran
      obtain ⟨written, files, stepped, _⟩ := withFiles_eq_ok ran
      obtain ⟨path, connection, isHandle⟩ := eq_of_hasToWrite needed
      have opened : id < workspace.handles.length :=
        lt_length_of_path (congrArg Handle.path isHandle)
      rw [handle_setHandle_of_lt opened] at stepped
      obtain ⟨path, rewritable⟩ :=
        rewritable_of_persist ((hasToWrite_renewed renew _).trans needed) stepped
      exact ⟨path, rewritable_renewed.mp rewritable⟩

/-- Writing the handle once more makes no difference, if it returns. -/
theorem Seems.persist
    {id : HandleId} (seems : Seems id left right)
    (returns : ((writing renew Handle.persist id).run.run right).1 = .ok ()) :
    Seems id left ((writing renew Handle.persist id).run.run right).2 := by
  have alikeAfter {path : String} (rewritable : Rewritable path (right.handle id) right.files) :
      AlikeHandles ((writing renew Handle.persist id).run.run right).2 right ∧
        Rewritable path (((writing renew Handle.persist id).run.run right).2.handle id)
          ((writing renew Handle.persist id).run.run right).2.files := by
    obtain ⟨after, ran, alike, rewritableAfter⟩ :=
      Workspace.exists_writing writesAs_persist renew rewritable
    rw [id_eq, setHandle_handle] at alike
    rw [ran]
    exact ⟨alike, rewritableAfter⟩
  cases seems with
  | same =>
      rcases rewritable_of_returns returns with unchanged | ⟨path, rewritable⟩
      · rw [unchanged]
        exact .same left
      · obtain ⟨alike, rewritableAfter⟩ := alikeAfter rewritable
        exact .written alike.symm rewritable rewritableAfter
  | written alike leftRewritable rightRewritable =>
      obtain ⟨alikeRight, rewritableAfter⟩ := alikeAfter rightRewritable
      exact .written (alike.trans alikeRight.symm) leftRewritable rewritableAfter

theorem Seems.exists_writing
    {id : HandleId} (seems : Seems id left right) (writes : WritesAs step final)
    (renew : Int → Int) :
    ∃ outcome leftAfter rightAfter,
      (writing renew step id).run.run left = (outcome, leftAfter) ∧
        (writing renew step id).run.run right = (outcome, rightAfter) ∧
        Seems id leftAfter rightAfter := by
  cases seems with
  | same =>
      exact ⟨_, _, _, rfl, rfl, .same _⟩
  | written alike leftRewritable rightRewritable =>
      obtain ⟨leftAfter, ranLeft, alikeLeft, leftStill⟩ :=
        Workspace.exists_writing writes renew leftRewritable
      obtain ⟨rightAfter, ranRight, alikeRight, rightStill⟩ :=
        Workspace.exists_writing writes renew rightRewritable
      have between := alike.setHandle id (writes.keeps (alike.handles id))
      exact
        ⟨_, leftAfter, rightAfter, ranLeft, ranRight,
          .written (alikeLeft.trans (between.trans alikeRight.symm)) leftStill rightStill⟩

theorem Seems.exists_run
    {id : HandleId} (seems : Seems id left right) {program : WorkspaceM Value}
    (indifferent : Indifferent program) :
    ∃ outcome leftAfter rightAfter,
      program.run.run left = (outcome, leftAfter) ∧
        program.run.run right = (outcome, rightAfter) ∧ Seems id leftAfter rightAfter := by
  cases seems with
  | same =>
      exact ⟨_, _, _, rfl, rfl, .same _⟩
  | written alike leftRewritable rightRewritable =>
      obtain ⟨outcome, leftAfter, rightAfter, ranLeft, ranRight, alikeAfter⟩ :=
        indifferent.exists_run alike
      have leftContinues := indifferent.continues left
      have rightContinues := indifferent.continues right
      rw [ranLeft] at leftContinues
      rw [ranRight] at rightContinues
      have leftStill := leftRewritable.carried (leftContinues.handles id)
      have rightStill := rightRewritable.carried (rightContinues.handles id)
      rw [← leftContinues.files] at leftStill
      rw [← rightContinues.files] at rightStill
      exact
        ⟨outcome, leftAfter, rightAfter, ranLeft, ranRight,
          .written alikeAfter leftStill rightStill⟩

end Workspace

/-! ## Writing in between -/

namespace Use

variable {id : HandleId} {left right : Workspace}

/-- Whatever is done in workspaces that can not be told apart, it answers the same in both. -/
theorem exists_step
    (renew : Int → Int) (seems : Workspace.Seems id left right) (use : Use) :
    ∃ answer leftAfter rightAfter,
      (use.step renew id).run.run left = (answer, leftAfter) ∧
        (use.step renew id).run.run right = (answer, rightAfter) ∧
        Workspace.Seems id leftAfter rightAfter := by
  cases use with
  | persist =>
      exact seems.exists_writing writesAs_persist renew
  | close =>
      exact seems.exists_writing writesAs_close renew
  | _ =>
      exact seems.exists_run (indifferent_step renew id fun writes => writes)

end Use

/-- What happens next: something is done, or the handle is written to its file once more. -/
inductive Turn : Type 1 where
  | use (done : Use)
  | persist

namespace Turn

/-- Something is done that is not only an extra writing. -/
def isUse : Turn → Bool
  | .use _ => true
  | .persist => false

/-- What is done in the turns, each time with its answer. -/
def answers (renew : Int → Int) (id : HandleId) :
    Workspace → List Turn → List (Σ use : Use, Except WorkspaceError use.Answer)
  | _, [] => []
  | workspace, .use done :: turns =>
      let (answer, after) := (done.step renew id).run.run workspace
      ⟨done, answer⟩ :: answers renew id after turns
  | workspace, .persist :: turns =>
      let (_, after) := (Workspace.writing renew Handle.persist id).run.run workspace
      answers renew id after turns

/-- Every extra writing returns. -/
def PersistsReturn (renew : Int → Int) (id : HandleId) : Workspace → List Turn → Prop
  | _, [] => True
  | workspace, .use done :: turns =>
      PersistsReturn renew id ((done.step renew id).run.run workspace).2 turns
  | workspace, .persist :: turns =>
      ((Workspace.writing renew Handle.persist id).run.run workspace).1 = .ok () ∧
        PersistsReturn renew id
          ((Workspace.writing renew Handle.persist id).run.run workspace).2 turns

instance decidablePersistsReturn (renew : Int → Int) (id : HandleId) :
    (workspace : Workspace) → (turns : List Turn) →
      Decidable (PersistsReturn renew id workspace turns)
  | _, [] => isTrue trivial
  | workspace, .use done :: turns =>
      decidablePersistsReturn renew id ((done.step renew id).run.run workspace).2 turns
  | _, .persist :: turns =>
      @instDecidableAnd _ _ (decEq _ _) (decidablePersistsReturn renew id _ turns)

variable {renew : Int → Int} {id : HandleId}

theorem answers_of_seems
    {left right : Workspace} (seems : Workspace.Seems id left right) {turns : List Turn}
    (returns : PersistsReturn renew id right turns) :
    answers renew id right turns = answers renew id left (turns.filter isUse) := by
  induction turns generalizing left right with
  | nil =>
      rfl
  | cons turn turns inductionHypothesis =>
      cases turn with
      | use done =>
          obtain ⟨answer, leftAfter, rightAfter, ranLeft, ranRight, seemsAfter⟩ :=
            Use.exists_step renew seems done
          rw [PersistsReturn, ranRight] at returns
          rw [List.filter_cons_of_pos rfl, answers, answers, ranLeft, ranRight]
          exact congrArg (⟨done, answer⟩ :: ·) (inductionHypothesis seemsAfter returns)
      | persist =>
          obtain ⟨returnsHere, returnsLater⟩ := returns
          rw [List.filter_cons_of_neg Bool.false_ne_true]
          exact inductionHypothesis (seems.persist returnsHere) returnsLater

/-- Whatever is done with handles and stores, in whatever workspace and whatever becomes of the
key of the row inserted last when a database is copied: if a handle is written to its file once
more here and there, and that returns, everything answers as it does without. -/
theorem answers_eq_answers_without_persists
    (renew : Int → Int) (id : HandleId) {workspace : Workspace} {turns : List Turn}
    (returns : PersistsReturn renew id workspace turns) :
    answers renew id workspace turns = answers renew id workspace (turns.filter isUse) :=
  answers_of_seems (.same workspace) returns

/-- A handle of a new case, with a table of values beside it. -/
def newCase : Workspace :=
  { handles :=
      [⟨some "/a.db", false, false,
          .fresh { keyValues := some [], caseTables := some CaseTables.empty }⟩]
    stores := ⟨some 0, none⟩ }

/-- A file, a hit of a keyword list in it, a value and the deletion of another one, questions about
them, and the end, with extra writings in between. -/
def caseTurns : List Turn :=
  [.use (.request (.addFile ⟨some "a.txt", some "/", some (.finite 1), some (.finite 1), none,
      none⟩)),
    .persist,
    .use (.request (.addKeywordHit (some (.finite 1)) (some "names"))),
    .persist,
    .persist,
    .use (.statement 0 (Tables.deleteKey (.finite 7))),
    .persist,
    .use (.statement 0 (Tables.insertKeyValue (some (.finite 5)) (some "v"))),
    .use (.request .keywordLists),
    .persist,
    .use .close]

/-- Every one of these extra writings returns, and the key of the last row is lost each time. -/
theorem answers_caseTurns :
    PersistsReturn (fun _ => 0) 0 newCase caseTurns ∧
      answers (fun _ => 0) 0 newCase caseTurns =
        answers (fun _ => 0) 0 newCase (caseTurns.filter isUse) := by
  have returns : PersistsReturn (fun _ => 0) 0 newCase caseTurns := by
    decide +kernel
  exact ⟨returns, answers_eq_answers_without_persists (fun _ => 0) 0 returns⟩

end Turn

/-! ## Writing as the workspace does it -/

namespace Workspace

/-- Once a handle was written to its file, whatever is done with handles and stores answers as it
would have without that, and so it does if the handle is written more often still. -/
theorem answers_after_persist
    {target : HandleId} {workspace after : Workspace}
    (persisted : (withFiles Handle.persist target).run.run workspace = (.ok (), after))
    {turns : List Turn} (returns : Turn.PersistsReturn id target after turns) :
    Turn.answers id target after turns =
      Turn.answers id target workspace (turns.filter Turn.isUse) := by
  have written : (writing id Handle.persist target).run.run workspace = (.ok (), after) := by
    rw [writing_id]
    exact persisted
  have seems := (Seems.same workspace).persist (congrArg Prod.fst written)
  rw [written] at seems
  exact Turn.answers_of_seems seems returns

end Workspace

end EvidenceSearch
