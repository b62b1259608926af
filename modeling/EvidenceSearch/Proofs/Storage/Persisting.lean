import EvidenceSearch.Proofs.Storage.Replacing
import EvidenceSearch.Proofs.Storage.Switching
import EvidenceSearch.Proofs.Storage.Transactions

/-!
# What writing a handle leaves

Writing a handle to its file changes the file and the mark of the handle, and the key of the row
inserted last may be lost, because the copy that is written comes from a connection that is made
anew. A handle that was written can be written again whenever that is needed, whatever programs
were carried out on it before or since: they leave it on its path and open if it was open, and what
could be copied still can. A closed handle has nothing to write.
-/

namespace EvidenceSearch

open Handle

variable {Value Image : Type}

/-! ## Writing a handle -/

/-- The connection with another key of the row inserted last. -/
def Connection.renewKey (renew : Int → Int) : Connection → Connection
  | .live state => .live { state with lastKey := renew state.lastKey }
  | connection => connection

namespace Handle

theorem Alike.symm {left right : Handle} (alike : Alike left right) : Alike right left :=
  ⟨alike.path.symm, alike.readOnly.symm, alike.connection.symm⟩

theorem Alike.trans {first second third : Handle} (alike : Alike first second)
    (alikeThen : Alike second third) : Alike first third :=
  ⟨alike.path.trans alikeThen.path, alike.readOnly.trans alikeThen.readOnly,
    alike.connection.trans alikeThen.connection⟩

/-- There is something to write, and a file that may be written. -/
def hasToWrite (handle : Handle) : Bool :=
  handle.path.isSome && !handle.readOnly && handle.dirty

/-- The handle after its database was copied, if there is something to write. -/
def renewed (renew : Int → Int) (handle : Handle) : Handle :=
  if handle.hasToWrite then { handle with connection := handle.connection.renewKey renew }
  else handle

variable {handle written : Handle} {files after : FileSystem}

theorem persist_of_not_hasToWrite (notNeeded : handle.hasToWrite = false) (files : FileSystem) :
    handle.persist files = (.ok handle, files) := by
  obtain ⟨path, readOnly, dirty, connection⟩ := handle
  cases path with
  | none =>
      rfl
  | some path =>
      have idle : (readOnly || !dirty) = true := by
        cases readOnly <;> cases dirty <;> simp_all [hasToWrite]
      rw [persist]
      dsimp only
      rw [if_pos idle]

theorem eq_of_hasToWrite (needed : handle.hasToWrite = true) :
    ∃ path connection, handle = ⟨some path, false, true, connection⟩ := by
  obtain ⟨path, readOnly, dirty, connection⟩ := handle
  cases path with
  | none =>
      cases needed
  | some path =>
      obtain ⟨rfl, rfl⟩ : readOnly = false ∧ dirty = true := by
        cases readOnly <;> cases dirty <;> simp_all [hasToWrite]
      exact ⟨path, connection, rfl⟩

/-- What has to be written is written if it can be copied and the copy can take the place of the
file, and only then. -/
theorem persist_eq_ok_iff_of_hasToWrite (needed : handle.hasToWrite = true) :
    handle.persist files = (.ok written, after) ↔
      ∃ path content,
        handle.path = some path ∧ handle.connection.content = .ok content ∧
          (FileSystem.replaceFile path content).run.run files = (.ok (), after) ∧
          handle.clean = written := by
  obtain ⟨path, connection, rfl⟩ := eq_of_hasToWrite needed
  rw [persist]
  simp only [Bool.not_true, Bool.or_self, Bool.false_eq_true, if_false]
  constructor
  · intro persisted
    cases copied : connection.content with
    | error error =>
        rw [copied] at persisted
        cases persisted
    | ok content =>
        cases replaced : (FileSystem.replaceFile path content).run.run files with
        | mk outcome system =>
            simp only [copied, replaced] at persisted
            cases outcome with
            | error error =>
                cases persisted
            | ok _ =>
                cases persisted
                exact ⟨path, content, rfl, rfl, replaced, rfl⟩
  · rintro ⟨path, content, isPath, copied, replaced, rfl⟩
    cases isPath
    simp only [copied, replaced]

/-- The handle writes to the path and can be written there whenever that is needed: it is closed
and has nothing to write, or it can be copied. -/
structure Rewritable (path : String) (handle : Handle) (files : FileSystem) : Prop where
  onPath : handle.path = some path
  writable : handle.readOnly = false
  copied :
    handle.connection = .closed ∧ handle.dirty = false ∨
      ∃ content, handle.connection.content = .ok content
  replaceable : files.Replaceable path

variable {path : String} {renew : Int → Int}

/-- A handle that can be written whenever that is needed can be written now, and then again. -/
theorem Rewritable.exists_persist (rewritable : Rewritable path handle files) :
    ∃ after, handle.persist files = (.ok handle.clean, after) ∧ after.Replaceable path := by
  cases needed : handle.hasToWrite with
  | false =>
      have notDirty : handle.dirty = false := by
        simpa [hasToWrite, rewritable.onPath, rewritable.writable] using needed
      have isClean : handle.clean = handle := by
        rw [clean, ← notDirty]
      refine ⟨files, ?_, rewritable.replaceable⟩
      rw [persist_of_not_hasToWrite needed, isClean]
  | true =>
      have isCopied : ∃ content, handle.connection.content = .ok content := by
        rcases rewritable.copied with ⟨_, notDirty⟩ | copied
        · simp [hasToWrite, notDirty] at needed
        · exact copied
      obtain ⟨content, copied⟩ := isCopied
      obtain ⟨after, replaced⟩ := rewritable.replaceable content
      refine ⟨after, ?_, (FileSystem.replaceable_of_replaced replaced).2⟩
      exact
        (persist_eq_ok_iff_of_hasToWrite needed).mpr
          ⟨path, content, rewritable.onPath, copied, replaced, rfl⟩

theorem Rewritable.cleaned
    (rewritable : Rewritable path handle files) (replaceable : after.Replaceable path) :
    Rewritable path handle.clean after := by
  refine ⟨rewritable.onPath, rewritable.writable, ?_, replaceable⟩
  rcases rewritable.copied with ⟨closed, _⟩ | copied
  · exact Or.inl ⟨closed, rfl⟩
  · exact Or.inr copied

/-- The step writes the handle whenever that is needed, and leaves it like the final one. -/
structure WritesAs (step : Handle → FileSystem → Except StorageError Handle × FileSystem)
    (final : Handle → Handle) : Prop where
  returns :
    ∀ {path : String} {handle : Handle} {files : FileSystem}, Rewritable path handle files →
      ∃ written after,
        step handle files = (.ok written, after) ∧ Rewritable path written after ∧
          Alike written (final handle)
  keeps : ∀ {left right : Handle}, Alike left right → Alike (final left) (final right)

theorem writesAs_persist : WritesAs persist id := by
  refine ⟨fun {path handle files} rewritable => ?_, fun alike => alike⟩
  obtain ⟨after, persisted, replaceable⟩ := rewritable.exists_persist
  exact ⟨_, after, persisted, rewritable.cleaned replaceable, ⟨rfl, rfl, rfl⟩⟩

theorem writesAs_close :
    WritesAs close fun handle => { handle with connection := .closed } := by
  refine ⟨fun {path handle files} rewritable => ?_, fun alike => ⟨alike.path, alike.readOnly, rfl⟩⟩
  obtain ⟨after, persisted, replaceable⟩ := rewritable.exists_persist
  rw [close, persisted]
  exact
    ⟨_, after, rfl, ⟨rewritable.onPath, rewritable.writable, Or.inl ⟨rfl, rfl⟩, replaceable⟩,
      ⟨rfl, rfl, rfl⟩⟩

/-- A handle that was written can be written again. -/
theorem rewritable_of_persist
    (needed : handle.hasToWrite = true) (persisted : handle.persist files = (.ok written, after)) :
    ∃ path, Rewritable path handle files := by
  obtain ⟨path, content, onPath, copied, replaced, _⟩ :=
    (persist_eq_ok_iff_of_hasToWrite needed).mp persisted
  have writable : handle.readOnly = false := by
    obtain ⟨_, _, rfl⟩ := eq_of_hasToWrite needed
    rfl
  exact
    ⟨path, onPath, writable, Or.inr ⟨content, copied⟩,
      (FileSystem.replaceable_of_replaced replaced).1⟩

/-! ## A handle whose database was copied -/

theorem renewKey_id (connection : Connection) : connection.renewKey id = connection := by
  cases connection <;> rfl

/-- A copy that keeps the key changes nothing. -/
theorem renewed_id (handle : Handle) : handle.renewed id = handle := by
  rw [renewed, renewKey_id, ite_self]

theorem renewed_of_not_hasToWrite (notNeeded : handle.hasToWrite = false) :
    handle.renewed renew = handle := by
  rw [renewed, notNeeded]
  rfl

theorem alike_renewed (renew : Int → Int) (handle : Handle) :
    Alike (handle.renewed renew) handle := by
  rw [renewed]
  split
  · refine ⟨rfl, rfl, ?_⟩
    cases handle.connection <;> rfl
  · exact Alike.refl handle

theorem hasToWrite_renewed (renew : Int → Int) (handle : Handle) :
    (handle.renewed renew).hasToWrite = handle.hasToWrite := by
  rw [renewed]
  split <;> rfl

theorem rewritable_renewed :
    Rewritable path (handle.renewed renew) files ↔ Rewritable path handle files := by
  rw [renewed]
  split
  · have sameContent : (handle.connection.renewKey renew).content = handle.connection.content := by
      cases handle.connection <;> rfl
    have closedToo : handle.connection.renewKey renew = .closed ↔ handle.connection = .closed := by
      cases handle.connection <;> simp [Connection.renewKey]
    constructor
    · rintro ⟨onPath, writable, copied, replaceable⟩
      rw [closedToo, sameContent] at copied
      exact ⟨onPath, writable, copied, replaceable⟩
    · rintro ⟨onPath, writable, copied, replaceable⟩
      refine ⟨onPath, writable, ?_, replaceable⟩
      rw [closedToo, sameContent]
      exact copied
  · rfl

/-! ## What programs leave of a handle -/

/-- The handle is on the same path, it can still be copied if it could, and nothing happened to it
if it was closed. -/
structure Carried (before after : Handle) : Prop where
  path : after.path = before.path
  readOnly : after.readOnly = before.readOnly
  copied :
    ∀ content, before.connection.content = .ok content →
      ∃ contentAfter, after.connection.content = .ok contentAfter
  shut : before.connection = .closed → after = before

theorem Carried.refl (handle : Handle) : Carried handle handle :=
  ⟨rfl, rfl, fun content copied => ⟨content, copied⟩, fun _ => rfl⟩

theorem Carried.trans {first second third : Handle} (left : Carried first second)
    (right : Carried second third) : Carried first third := by
  refine
    ⟨right.path.trans left.path, right.readOnly.trans left.readOnly, fun content copied => ?_,
      fun closed => ?_⟩
  · obtain ⟨between, copiedBetween⟩ := left.copied content copied
    exact right.copied between copiedBetween
  · have same := left.shut closed
    rw [right.shut (same ▸ closed), same]

theorem Carried.marked
    {before between : Handle} (carried : Carried before between)
    (isOpen : before.connection ≠ .closed) :
    Carried before { between with dirty := true } :=
  ⟨carried.path, carried.readOnly, carried.copied, fun closed => absurd closed isOpen⟩

/-- The program carries every handle on. -/
def Tends (program : HandleM Value) : Prop :=
  ∀ handle, Carried handle (program.run.run handle).2

theorem tends_of_keeping
    {program : HandleM Value} (keeps : ∀ handle, (program.run.run handle).2 = handle) :
    Tends program := by
  intro handle
  rw [keeps handle]
  exact Carried.refl handle

theorem Tends.bind
    {program : HandleM Value} {next : Value → HandleM Image} (tends : Tends program)
    (tendsNext : ∀ value, Tends (next value)) :
    Tends (program >>= next) := by
  intro handle
  have between := tends handle
  cases ran : program.run.run handle with
  | mk outcome after =>
      rw [ran] at between
      cases outcome with
      | error error =>
          rw [run_bind_of_error ran]
          exact between
      | ok value =>
          rw [run_bind_of_ok ran]
          exact between.trans (tendsNext value after)

theorem Tends.tryCatch
    {program : HandleM Value} {handler : StorageError → HandleM Value}
    (tends : Tends program) (tendsHandler : ∀ error, Tends (handler error)) :
    Tends (tryCatch program handler) := by
  intro handle
  have between := tends handle
  cases ran : program.run.run handle with
  | mk outcome after =>
      rw [ran] at between
      cases outcome with
      | ok value =>
          rw [run_tryCatch_of_ok ran]
          exact between
      | error error =>
          rw [run_tryCatch_of_error ran]
          exact between.trans (tendsHandler error after)

theorem tends_assertWritable : Tends assertWritable := by
  refine tends_of_keeping fun handle => ?_
  cases mayWrite : handle.readOnly with
  | false =>
      rw [assertWritable_of_writable mayWrite]
  | true =>
      rw [assertWritable_of_readOnly mayWrite]

/-- The change is refused on a closed connection, and what could be copied still can. -/
structure KeepsCopied (change : Connection → Except StorageError Connection) : Prop where
  refused : ∃ error, change .closed = .error error
  copied :
    ∀ {before after : Connection} {content : FileContent},
      change before = .ok after → before.content = .ok content →
        ∃ contentAfter, after.content = .ok contentAfter

theorem keepsCopied_begin : KeepsCopied Connection.begin := by
  refine ⟨⟨_, rfl⟩, fun {before after content} changed copied => ?_⟩
  rcases before with ⟨tables, lastKey, _ | saved⟩ | ⟨bytes, fault, _ | _⟩ | _ <;> cases changed
  · exact ⟨_, rfl⟩
  · exact ⟨content, copied⟩

theorem keepsCopied_commit : KeepsCopied Connection.commit := by
  refine ⟨⟨_, rfl⟩, fun {before after content} changed copied => ?_⟩
  rcases before with ⟨tables, lastKey, _ | saved⟩ | ⟨bytes, fault, _ | _⟩ | _ <;> cases changed
  · exact ⟨_, rfl⟩
  · exact ⟨content, copied⟩

theorem keepsCopied_rollback : KeepsCopied Connection.rollback := by
  refine ⟨⟨_, rfl⟩, fun {before after content} changed copied => ?_⟩
  rcases before with ⟨tables, lastKey, _ | saved⟩ | ⟨bytes, fault, _ | _⟩ | _ <;> cases changed
  · exact ⟨_, rfl⟩
  · exact ⟨content, copied⟩

theorem keepsCopied_execute (statement : Statement) :
    KeepsCopied (Connection.execute statement) := by
  refine ⟨⟨_, rfl⟩, fun {before after content} changed copied => ?_⟩
  rcases before with state | ⟨bytes, fault, inTransaction⟩ | _
  · obtain ⟨_, _, ended⟩ := bind_eq_ok changed
    cases ended
    exact ⟨_, rfl⟩
  · cases changed
  · cases changed

theorem KeepsCopied.carried
    {change : Connection → Except StorageError Connection} (keeps : KeepsCopied change)
    {handle : Handle} {connection : Connection}
    (changed : change handle.connection = .ok connection) :
    Carried handle { handle with connection } := by
  refine ⟨rfl, rfl, fun content copied => keeps.copied changed copied, fun closed => ?_⟩
  obtain ⟨error, refused⟩ := keeps.refused
  rw [closed, refused] at changed
  cases changed

theorem KeepsCopied.isOpen
    {change : Connection → Except StorageError Connection} (keeps : KeepsCopied change)
    {connection after : Connection} (changed : change connection = .ok after) :
    connection ≠ .closed := by
  rintro rfl
  obtain ⟨error, refused⟩ := keeps.refused
  rw [refused] at changed
  cases changed

theorem tends_connect
    {change : Connection → Except StorageError Connection} (keeps : KeepsCopied change) :
    Tends (connect change) := by
  intro handle
  cases changed : change handle.connection with
  | error error =>
      rw [connect_of_error changed]
      exact Carried.refl handle
  | ok connection =>
      rw [connect_of_ok changed]
      exact keeps.carried changed

/-- A handle is marked only after something was done with its connection. -/
theorem tends_connect_markDirty
    {change : Connection → Except StorageError Connection} (keeps : KeepsCopied change) :
    Tends (connect change >>= fun _ => markDirty) := by
  intro handle
  cases changed : change handle.connection with
  | error error =>
      rw [run_bind_of_error (connect_of_error changed)]
      exact Carried.refl handle
  | ok connection =>
      rw [run_bind_of_ok (connect_of_ok changed)]
      exact (keeps.carried changed).marked (keeps.isOpen changed)

theorem tends_run (statement : Statement) : Tends (run statement) := by
  have executes :=
    (tends_connect_markDirty (keepsCopied_execute statement)).bind fun _ =>
      (tends_of_keeping fun _ => rfl :
        Tends (do return (← get).connection.lastKey : HandleM Int))
  rw [bind_assoc] at executes
  exact tends_assertWritable.bind fun _ => executes

theorem tends_executeAll (statements : List Statement) : Tends (executeAll statements) := by
  induction statements with
  | nil =>
      exact tends_of_keeping fun _ => rfl
  | cons statement statements inductionHypothesis =>
      exact (tends_connect (keepsCopied_execute statement)).bind fun _ => inductionHypothesis

theorem tends_runScript (script : List Statement) : Tends (runScript script) := by
  refine tends_assertWritable.bind fun _ handle => ?_
  rw [run_get_bind]
  by_cases closed : handle.connection = .closed
  · rw [if_pos closed]
    exact Carried.refl handle
  · rw [if_neg closed]
    change Carried handle ((executeAll script >>= fun _ => markDirty).run.run handle).2
    have between := tends_executeAll script handle
    cases ran : (executeAll script).run.run handle with
    | mk outcome after =>
        rw [ran] at between
        cases outcome with
        | error error =>
            rw [run_bind_of_error ran]
            exact between
        | ok value =>
            rw [run_bind_of_ok ran]
            exact between.marked closed

theorem tends_transaction {body : HandleM Value} (tends : Tends body) :
    Tends (transaction body) := by
  have completes : Tends (complete body) := by
    refine tends.bind fun value => ?_
    have commits :=
      (tends_connect_markDirty keepsCopied_commit).bind fun _ =>
        (tends_of_keeping fun _ => rfl : Tends (pure value : HandleM Value))
    rw [bind_assoc] at commits
    exact commits
  have abandons (error : StorageError) : Tends (abandon error : HandleM Value) :=
    (tends_connect keepsCopied_rollback).bind fun _ => tends_of_keeping fun _ => rfl
  exact
    tends_assertWritable.bind fun _ =>
      (tends_connect keepsCopied_begin).bind fun _ => completes.tryCatch abandons

theorem Later.tends {program : HandleM Value} (later : Later program) : Tends program := by
  induction later with
  | pure value =>
      exact tends_of_keeping fun _ => rfl
  | throw error =>
      exact tends_of_keeping fun _ => rfl
  | bind _ _ tends tendsNext =>
      exact tends.bind tendsNext
  | tryCatch _ _ tends tendsHandler =>
      exact tends.tryCatch tendsHandler
  | read reads =>
      exact tends_of_keeping reads.keeps
  | insert _ =>
      exact tends_run _
  | carryOut statement =>
      exact (tends_run statement).bind fun _ => tends_of_keeping fun _ => rfl
  | script script =>
      exact tends_runScript script
  | transaction _ tends =>
      exact tends_transaction tends

theorem Rewritable.carried
    {after : Handle} (rewritable : Rewritable path handle files) (carried : Carried handle after) :
    Rewritable path after files := by
  refine
    ⟨carried.path.trans rewritable.onPath, carried.readOnly.trans rewritable.writable, ?_,
      rewritable.replaceable⟩
  rcases rewritable.copied with ⟨closed, notDirty⟩ | ⟨content, copied⟩
  · rw [carried.shut closed]
    exact Or.inl ⟨closed, notDirty⟩
  · exact Or.inr (carried.copied content copied)

/-! ## Statements and the keys of their rows -/

/-- The key of the row that a statement inserts where these tables are shown, if it inserts one. -/
def rowKey? (statement : Statement) (shown : Except StorageError Tables) : Option Int :=
  (shown >>= statement).toOption.bind Prod.snd

/-- Carry out a statement, and answer with the key that it gives if it inserts a row. -/
def runInserting (statement : Statement) : HandleM (Option Int) := do
  let inserted := rowKey? statement (← get).connection.tables
  let key ← run statement
  return inserted.map fun _ => key

theorem run_runInserting (statement : Statement) (handle : Handle) :
    (runInserting statement).run.run handle =
      (((run statement).run.run handle).1.map fun key =>
          (rowKey? statement handle.connection.tables).map fun _ => key,
        ((run statement).run.run handle).2) := by
  rw [runInserting, run_get_bind]
  dsimp only
  cases ran : (run statement).run.run handle with
  | mk outcome after =>
      cases outcome with
      | error error =>
          rw [run_bind_of_error ran]
          rfl
      | ok key =>
          rw [run_bind_of_ok ran]
          rfl

theorem respects_runInserting (statement : Statement) : Respects (runInserting statement) := by
  constructor
  · intro left right alike
    rw [run_runInserting, run_runInserting, alike.tables]
    cases mayWrite : right.readOnly with
    | true =>
        rw [run_of_readOnly mayWrite, run_of_readOnly (alike.readOnly.trans mayWrite)]
    | false =>
        rw [run_answer statement mayWrite, run_answer statement (alike.readOnly.trans mayWrite),
          alike.tables]
        cases right.connection.tables with
        | error error =>
            rfl
        | ok tables =>
            dsimp only [bind, Except.bind]
            cases accepted : statement tables with
            | error error =>
                rfl
            | ok result =>
                obtain ⟨after, _ | key⟩ := result
                · -- the key that counts as the last is not told
                  have noRow : rowKey? statement (.ok tables) = none := by
                    rw [rowKey?]
                    change (statement tables).toOption.bind Prod.snd = none
                    rw [accepted]
                    rfl
                  rw [noRow]
                  rfl
                · rfl
  · intro left right alike
    rw [run_runInserting, run_runInserting, ← run_discard _ left, ← run_discard _ right]
    exact (respects_carryOut statement).keeps alike

theorem tends_runInserting (statement : Statement) : Tends (runInserting statement) := by
  intro handle
  rw [run_runInserting]
  exact tends_run statement handle

end Handle

end EvidenceSearch
