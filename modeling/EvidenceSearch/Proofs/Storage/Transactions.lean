import EvidenceSearch.Proofs.Storage.Guarding

/-!
# Transactions

The body of a transaction inserts rows and goes on with their keys. If the transaction succeeds,
the connection is as if the same statements had taken effect one by one; if it fails, nothing but
the key of the last row tells the handle from what it was. So no program that is carried out later
can find out about a transaction that failed, and no transaction is left open.
-/

namespace EvidenceSearch

namespace Handle

variable {Value Image : Type} {statement : Statement} {error : StorageError}

/-! ## Bodies -/

/-- The body of a transaction. After each row it goes on with the key that counts as the last; it
may carry out another transaction, and it may give up. -/
inductive Body (Value : Type) where
  | done (value : Value)
  | insert (statement : Statement) (next : Int → Body Value)
  | nest (inner : HandleM Unit) (rest : Body Value)
  | giveUp (error : StorageError)

namespace Body

def run : Body Value → HandleM Value
  | .done value => return value
  | .insert statement next => do
      let key ← Handle.run statement
      (next key).run
  | .nest inner rest => do
      transaction inner
      rest.run
  | .giveUp error => throw error

/-- Each statement of the body takes effect by itself, one after the other, and the body ends with
the value. -/
inductive Completes : Body Value → Connection → Value → Connection → Prop where
  | done {value : Value} {connection : Connection} :
      Completes (.done value) connection value connection
  | insert {statement : Statement} {next : Int → Body Value} {before between after : Connection}
      {value : Value} :
      before.execute statement = .ok between →
      Completes (next between.lastKey) between value after →
      Completes (.insert statement next) before value after

/-- The statements of the body take effect one after the other, up to one that is refused, or up to
the place where the body begins another transaction or gives up. -/
inductive Fails : Body Value → Connection → StorageError → Prop where
  | refused {statement : Statement} {next : Int → Body Value} {before : Connection}
      {error : StorageError} :
      before.execute statement = .error error →
      Fails (.insert statement next) before error
  | insert {statement : Statement} {next : Int → Body Value} {before between : Connection}
      {error : StorageError} :
      before.execute statement = .ok between →
      Fails (next between.lastKey) between error →
      Fails (.insert statement next) before error
  | nest {inner : HandleM Unit} {rest : Body Value} {before : Connection} :
      Fails (.nest inner rest) before .transactionOpen
  | giveUp {before : Connection} {error : StorageError} :
      Fails (.giveUp error) before error

/-- A hit of a keyword list is an artifact with its attribute. -/
def keywordHit (fileId : Option Number) (list : Option String) : Body Unit :=
  .insert (Tables.insertArtifact fileId) fun artifactId =>
    .insert (Tables.insertListName artifactId list) fun _ => .done ()

theorem addKeywordHit_eq_transaction (fileId : Option Number) (list : Option String) :
    CaseStore.addKeywordHit fileId list = transaction (keywordHit fileId list).run :=
  rfl

/-! ## A body inside its transaction -/

/-- Inside the transaction each statement does to the tables what it does outside. -/
theorem run_live
    (body : Body Value) (path : Option String) (dirty : Bool) (tables saved : Tables)
    (lastKey : Int) :
    (∃ value dirtyAfter tablesAfter lastKeyAfter,
      body.Completes (.live ⟨tables, lastKey, none⟩) value
          (.live ⟨tablesAfter, lastKeyAfter, none⟩) ∧
        body.run.run.run (writing path dirty ⟨tables, lastKey, some saved⟩) =
          (.ok value, writing path dirtyAfter ⟨tablesAfter, lastKeyAfter, some saved⟩)) ∨
      ∃ error dirtyAfter tablesAfter lastKeyAfter,
        body.Fails (.live ⟨tables, lastKey, none⟩) error ∧
          body.run.run.run (writing path dirty ⟨tables, lastKey, some saved⟩) =
            (.error error, writing path dirtyAfter ⟨tablesAfter, lastKeyAfter, some saved⟩) := by
  induction body generalizing dirty tables lastKey with
  | done value =>
      exact Or.inl ⟨value, dirty, tables, lastKey, .done, rfl⟩
  | insert statement next inductionHypothesis =>
      cases accepted : statement tables with
      | error error =>
          refine Or.inr ⟨error, dirty, tables, lastKey, .refused (execute_of_error accepted), ?_⟩
          exact run_bind_of_error (run_of_error path dirty ⟨tables, lastKey, some saved⟩ accepted)
      | ok result =>
          obtain ⟨tablesBetween, key?⟩ := result
          have executed :
              Connection.execute statement (.live ⟨tables, lastKey, none⟩) =
                .ok (.live (afterStatement ⟨tables, lastKey, none⟩ tablesBetween key?)) :=
            execute_of_ok accepted
          have ran := run_of_ok path dirty ⟨tables, lastKey, some saved⟩ accepted
          rw [run, run_bind_of_ok ran]
          rcases inductionHypothesis (key?.getD lastKey) true tablesBetween (key?.getD lastKey) with
            ⟨value, dirtyAfter, tablesAfter, lastKeyAfter, completes, ended⟩ |
              ⟨error, dirtyAfter, tablesAfter, lastKeyAfter, fails, ended⟩
          · exact
              Or.inl
                ⟨value, dirtyAfter, tablesAfter, lastKeyAfter, .insert executed completes, ended⟩
          · exact
              Or.inr ⟨error, dirtyAfter, tablesAfter, lastKeyAfter, .insert executed fails, ended⟩
  | nest inner rest =>
      -- the transaction of the body is open, so none can begin, and the rest is not reached
      refine Or.inr ⟨.transactionOpen, dirty, tables, lastKey, .nest, ?_⟩
      exact run_bind_of_error (transaction_of_refused rfl rfl)
  | giveUp error =>
      exact Or.inr ⟨error, dirty, tables, lastKey, .giveUp, rfl⟩

/-- On a file that can not be read, a body ends at its first statement. -/
theorem run_unreadable
    (body : Body Value) {handle : Handle} {content : ByteArray} {fault : ImageFault}
    (writable : handle.readOnly = false)
    (isUnreadable : handle.connection = .unreadable content fault true) :
    (∃ value,
      body.Completes (.unreadable content fault false) value (.unreadable content fault false) ∧
        body.run.run.run handle = (.ok value, handle)) ∨
      ∃ error,
        body.Fails (.unreadable content fault false) error ∧
          body.run.run.run handle = (.error error, handle) := by
  cases body with
  | done value =>
      exact Or.inl ⟨value, .done, rfl⟩
  | insert statement next =>
      have refused : Connection.execute statement handle.connection = .error (.image fault) := by
        rw [isUnreadable]
        rfl
      exact
        Or.inr
          ⟨.image fault, .refused rfl, run_bind_of_error (run_of_refused writable refused)⟩
  | nest inner rest =>
      have refused : handle.connection.begin = .error .transactionOpen := by
        rw [isUnreadable]
        rfl
      exact
        Or.inr
          ⟨.transactionOpen, .nest, run_bind_of_error (transaction_of_refused writable refused)⟩
  | giveUp error =>
      exact Or.inr ⟨error, .giveUp, rfl⟩

end Body

/-! ## Handles that are alike -/

/-- A connection without the key of the row inserted last. -/
def withoutKey : Connection → Connection
  | .live state => .live { state with lastKey := 0 }
  | connection => connection

/-- The handles differ at most in their marks and in the keys of the rows inserted last. -/
structure Alike (left right : Handle) : Prop where
  path : left.path = right.path
  readOnly : left.readOnly = right.readOnly
  connection : withoutKey left.connection = withoutKey right.connection

theorem Alike.refl (handle : Handle) : Alike handle handle :=
  ⟨rfl, rfl, rfl⟩

theorem tables_withoutKey (connection : Connection) :
    (withoutKey connection).tables = connection.tables := by
  cases connection <;> rfl

theorem Alike.tables {left right : Handle} (alike : Alike left right) :
    left.connection.tables = right.connection.tables := by
  rw [← tables_withoutKey left.connection, alike.connection, tables_withoutKey]

/-- What the change does to a connection does not depend on the key of the row inserted last. -/
def IgnoresKey (change : Connection → Except StorageError Connection) : Prop :=
  ∀ connection,
    (change (withoutKey connection)).map withoutKey = (change connection).map withoutKey

theorem ignoresKey_begin : IgnoresKey Connection.begin := by
  rintro (⟨tables, lastKey, _ | saved⟩ | ⟨content, fault, _ | _⟩ | _) <;> rfl

theorem ignoresKey_commit : IgnoresKey Connection.commit := by
  rintro (⟨tables, lastKey, _ | saved⟩ | ⟨content, fault, _ | _⟩ | _) <;> rfl

theorem ignoresKey_rollback : IgnoresKey Connection.rollback := by
  rintro (⟨tables, lastKey, _ | saved⟩ | ⟨content, fault, _ | _⟩ | _) <;> rfl

theorem ignoresKey_execute (statement : Statement) :
    IgnoresKey (Connection.execute statement) := by
  rintro (⟨tables, lastKey, saved⟩ | ⟨content, fault, inTransaction⟩ | _)
  · cases accepted : statement tables with
    | error error =>
        rw [withoutKey, execute_of_error accepted, execute_of_error accepted]
    | ok result =>
        rw [withoutKey, execute_of_ok accepted, execute_of_ok accepted]
        rfl
  · rfl
  · rfl

/-! ## Programs that do not tell alike handles apart -/

/-- Carried out on handles that are alike, the program gives the same answer and leaves handles
that are alike. -/
structure Respects (program : HandleM Value) : Prop where
  agrees : ∀ {left right}, Alike left right → (program.run.run left).1 = (program.run.run right).1
  keeps :
    ∀ {left right}, Alike left right → Alike (program.run.run left).2 (program.run.run right).2

theorem respects_of_keeping
    {program : HandleM Value} {outcome : Except StorageError Value}
    (ran : ∀ handle, program.run.run handle = (outcome, handle)) :
    Respects program := by
  constructor
  · intro left right _
    rw [ran left, ran right]
  · intro left right alike
    rw [ran left, ran right]
    exact alike

theorem respects_pure (value : Value) : Respects (pure value) :=
  respects_of_keeping fun _ => rfl

theorem respects_throw (error : StorageError) : Respects (throw error : HandleM Value) :=
  respects_of_keeping fun _ => rfl

theorem Respects.exists_run
    {program : HandleM Value} {left right : Handle} (respects : Respects program)
    (alike : Alike left right) :
    ∃ outcome leftAfter rightAfter,
      program.run.run left = (outcome, leftAfter) ∧
        program.run.run right = (outcome, rightAfter) ∧ Alike leftAfter rightAfter :=
  ⟨(program.run.run left).1, (program.run.run left).2, (program.run.run right).2, rfl,
    Prod.ext (respects.agrees alike).symm rfl, respects.keeps alike⟩

theorem Respects.of_exists_run
    {program : HandleM Value}
    (runs :
      ∀ {left right}, Alike left right →
        ∃ outcome leftAfter rightAfter,
          program.run.run left = (outcome, leftAfter) ∧
            program.run.run right = (outcome, rightAfter) ∧ Alike leftAfter rightAfter) :
    Respects program := by
  constructor
  · intro left right alike
    obtain ⟨outcome, leftAfter, rightAfter, ranLeft, ranRight, _⟩ := runs alike
    rw [ranLeft, ranRight]
  · intro left right alike
    obtain ⟨outcome, leftAfter, rightAfter, ranLeft, ranRight, alikeAfter⟩ := runs alike
    rw [ranLeft, ranRight]
    exact alikeAfter

theorem Respects.bind
    {program : HandleM Value} {next : Value → HandleM Image} (respects : Respects program)
    (respectsNext : ∀ value, Respects (next value)) :
    Respects (program >>= next) := by
  refine .of_exists_run fun alike => ?_
  obtain ⟨outcome, leftAfter, rightAfter, ranLeft, ranRight, alikeAfter⟩ :=
    respects.exists_run alike
  cases outcome with
  | error error =>
      exact
        ⟨.error error, leftAfter, rightAfter, run_bind_of_error ranLeft,
          run_bind_of_error ranRight, alikeAfter⟩
  | ok value =>
      rw [run_bind_of_ok ranLeft, run_bind_of_ok ranRight]
      exact (respectsNext value).exists_run alikeAfter

theorem Respects.tryCatch
    {program : HandleM Value} {handler : StorageError → HandleM Value}
    (respects : Respects program) (respectsHandler : ∀ error, Respects (handler error)) :
    Respects (tryCatch program handler) := by
  refine .of_exists_run fun alike => ?_
  obtain ⟨outcome, leftAfter, rightAfter, ranLeft, ranRight, alikeAfter⟩ :=
    respects.exists_run alike
  cases outcome with
  | error error =>
      rw [run_tryCatch_of_error ranLeft, run_tryCatch_of_error ranRight]
      exact (respectsHandler error).exists_run alikeAfter
  | ok value =>
      exact
        ⟨.ok value, leftAfter, rightAfter, run_tryCatch_of_ok ranLeft,
          run_tryCatch_of_ok ranRight, alikeAfter⟩

theorem respects_of_reads {program : HandleM Value} (reads : Reads program) : Respects program := by
  constructor
  · intro left right alike
    exact reads.agrees alike.tables
  · intro left right alike
    rw [reads.keeps left, reads.keeps right]
    exact alike

theorem respects_assertWritable : Respects assertWritable := by
  refine .of_exists_run fun {left right} alike => ?_
  cases mayWrite : left.readOnly with
  | false =>
      exact
        ⟨.ok (), left, right, assertWritable_of_writable mayWrite,
          assertWritable_of_writable (alike.readOnly ▸ mayWrite), alike⟩
  | true =>
      exact
        ⟨.error .readOnly, left, right, assertWritable_of_readOnly mayWrite,
          assertWritable_of_readOnly (alike.readOnly ▸ mayWrite), alike⟩

theorem respects_markDirty : Respects markDirty :=
  ⟨fun _ => rfl, fun alike => ⟨alike.path, alike.readOnly, alike.connection⟩⟩

theorem respects_connect
    {change : Connection → Except StorageError Connection} (ignores : IgnoresKey change) :
    Respects (connect change) := by
  refine .of_exists_run fun {left right} alike => ?_
  have same :
      (change left.connection).map withoutKey = (change right.connection).map withoutKey := by
    rw [← ignores left.connection, alike.connection, ignores]
  cases changedLeft : change left.connection with
  | error error =>
      cases changedRight : change right.connection with
      | error other =>
          rw [changedLeft, changedRight] at same
          obtain rfl := Except.error.inj same
          exact
            ⟨.error error, left, right, connect_of_error changedLeft,
              connect_of_error changedRight, alike⟩
      | ok connection =>
          rw [changedLeft, changedRight] at same
          cases same
  | ok connection =>
      cases changedRight : change right.connection with
      | error other =>
          rw [changedLeft, changedRight] at same
          cases same
      | ok other =>
          rw [changedLeft, changedRight] at same
          exact
            ⟨.ok (), _, _, connect_of_ok changedLeft, connect_of_ok changedRight,
              ⟨alike.path, alike.readOnly, Except.ok.inj same⟩⟩

theorem respects_executeAll (statements : List Statement) : Respects (executeAll statements) := by
  induction statements with
  | nil =>
      exact respects_pure ()
  | cons statement statements inductionHypothesis =>
      exact (respects_connect (ignoresKey_execute statement)).bind fun _ => inductionHypothesis

/-- What is done with the handle itself may depend on what alike handles share. -/
theorem respects_get
    {next : Handle → HandleM Value} (respectsNext : ∀ handle, Respects (next handle))
    (sameNext : ∀ {left right}, Alike left right → next left = next right) :
    Respects (get >>= next) := by
  refine .of_exists_run fun {left right} alike => ?_
  rw [run_get_bind, run_get_bind, sameNext alike]
  exact (respectsNext right).exists_run alike

theorem respects_runScript (script : List Statement) : Respects (runScript script) := by
  unfold runScript
  refine respects_assertWritable.bind fun _ => respects_get ?_ ?_
  · intro handle
    have executes : Respects (executeAll script >>= fun _ => markDirty) :=
      (respects_executeAll script).bind fun _ => respects_markDirty
    by_cases closed : handle.connection = .closed
    · rw [if_pos closed]
      exact (respects_throw .closedForScripts).bind fun _ => executes
    · rw [if_neg closed]
      exact executes
  · intro left right alike
    have sameClosed : left.connection = .closed ↔ right.connection = .closed := by
      rw [← tables_eq_closed_iff, ← tables_eq_closed_iff, alike.tables]
    simp only [sameClosed]

theorem respects_transaction {body : HandleM Value} (respects : Respects body) :
    Respects (transaction body) := by
  have completes : Respects (complete body) :=
    respects.bind fun value =>
      (respects_connect ignoresKey_commit).bind fun _ =>
        respects_markDirty.bind fun _ => respects_pure value
  have abandons (error : StorageError) : Respects (abandon error : HandleM Value) :=
    (respects_connect ignoresKey_rollback).bind fun _ => respects_throw error
  exact
    respects_assertWritable.bind fun _ =>
      (respects_connect ignoresKey_begin).bind fun _ => completes.tryCatch abandons

/-! ## Keys of rows -/

/-- The statement is accepted only with a new row. -/
def Inserts (statement : Statement) : Prop :=
  ∀ {tables after : Tables} {key? : Option Int},
    statement tables = .ok (after, key?) → key?.isSome

theorem inserts_insertFile (file : NewFile) : Inserts (Tables.insertFile file) := by
  intro tables after key? accepted
  obtain ⟨_, _, rest⟩ := bind_eq_ok accepted
  obtain ⟨_, _, ended⟩ := bind_eq_ok rest
  cases ended
  rfl

/-- A statement answers with the key of its row, or with the one that was the last before. -/
theorem run_answer (statement : Statement) {handle : Handle} (writable : handle.readOnly = false) :
    ((run statement).run.run handle).1 = (do
      let tables ← handle.connection.tables
      let (_, key?) ← statement tables
      return key?.getD handle.connection.lastKey) := by
  obtain ⟨path, readOnly, dirty, connection⟩ := handle
  subst writable
  cases connection with
  | live state =>
      change _ = (do
        let (_, key?) ← statement state.tables
        return key?.getD state.lastKey)
      cases accepted : statement state.tables with
      | error error =>
          rw [run_of_error path dirty state accepted]
          rfl
      | ok result =>
          obtain ⟨tables, key?⟩ := result
          rw [run_of_ok path dirty state accepted]
          rfl
  | unreadable content fault inTransaction =>
      have refused :
          Connection.execute statement (.unreadable content fault inTransaction) =
            .error (.image fault) :=
        rfl
      rw [run_of_refused rfl refused]
      rfl
  | closed =>
      have refused : Connection.execute statement .closed = .error .closed := rfl
      rw [run_of_refused rfl refused]
      rfl

/-- Whether a statement is accepted, and what it changes, does not depend on the last key. -/
theorem respects_carryOut (statement : Statement) :
    Respects (do let _ ← run statement) := by
  simp only [run, bind_assoc, pure_bind]
  exact
    respects_assertWritable.bind fun _ =>
      (respects_connect (ignoresKey_execute statement)).bind fun _ =>
        respects_markDirty.bind fun _ =>
          respects_get (fun _ => respects_pure _) fun _ => rfl

theorem respects_run (inserts : Inserts statement) : Respects (run statement) := by
  constructor
  · intro left right alike
    cases mayWrite : right.readOnly with
    | true =>
        rw [run_of_readOnly mayWrite, run_of_readOnly (alike.readOnly.trans mayWrite)]
    | false =>
        rw [run_answer statement mayWrite, run_answer statement (alike.readOnly.trans mayWrite),
          alike.tables]
        cases right.connection.tables with
        | error error =>
            rfl
        | ok tables =>
            change (do
              let (_, key?) ← statement tables
              return key?.getD left.connection.lastKey) = (do
                let (_, key?) ← statement tables
                return key?.getD right.connection.lastKey)
            cases accepted : statement tables with
            | error error =>
                rfl
            | ok result =>
                obtain ⟨after, key?⟩ := result
                obtain ⟨key, rfl⟩ := Option.isSome_iff_exists.mp (inserts accepted)
                rfl
  · intro left right alike
    rw [← run_discard _ left, ← run_discard _ right]
    exact (respects_carryOut statement).keeps alike

/-! ## Open transactions -/

/-- Whether a transaction is open, if the connection is. -/
def openTransaction? : Connection → Option Bool
  | .live state => some state.saved.isSome
  | .unreadable _ _ inTransaction => some inTransaction
  | .closed => none

theorem begins_iff (connection : Connection) :
    (∃ opened, connection.begin = .ok opened) ↔ openTransaction? connection = some false := by
  rcases connection with ⟨tables, lastKey, _ | saved⟩ | ⟨content, fault, _ | _⟩ | _ <;>
    simp [Connection.begin, openTransaction?]

theorem begin_of_inTransaction {connection : Connection}
    (within : connection.inTransaction = true) :
    connection.begin = .error .transactionOpen := by
  rcases connection with ⟨tables, lastKey, _ | saved⟩ | ⟨content, fault, _ | _⟩ | _ <;>
    first
      | rfl
      | cases within

theorem openTransaction?_begin {connection opened : Connection}
    (begins : connection.begin = .ok opened) :
    openTransaction? opened = some true := by
  rcases connection with ⟨tables, lastKey, _ | saved⟩ | ⟨content, fault, _ | _⟩ | _ <;>
    cases begins <;> rfl

theorem exists_commit {connection : Connection} (isOpen : openTransaction? connection = some true) :
    ∃ committed, connection.commit = .ok committed ∧ openTransaction? committed = some false := by
  rcases connection with ⟨tables, lastKey, _ | saved⟩ | ⟨content, fault, _ | _⟩ | _ <;>
    first
      | exact ⟨_, rfl, rfl⟩
      | cases isOpen

theorem exists_rollback
    {connection : Connection} (isOpen : openTransaction? connection = some true) :
    ∃ restored, connection.rollback = .ok restored ∧ openTransaction? restored = some false := by
  rcases connection with ⟨tables, lastKey, _ | saved⟩ | ⟨content, fault, _ | _⟩ | _ <;>
    first
      | exact ⟨_, rfl, rfl⟩
      | cases isOpen

theorem openTransaction?_execute
    {connection after : Connection} (executed : connection.execute statement = .ok after) :
    openTransaction? after = openTransaction? connection := by
  rcases connection with state | ⟨content, fault, inTransaction⟩ | _
  · obtain ⟨_, _, ended⟩ := bind_eq_ok executed
    cases ended
    rfl
  · cases executed
  · cases executed

/-- The program ends with a transaction open exactly if it began with one. -/
def Balanced (program : HandleM Value) : Prop :=
  ∀ handle,
    (program.run.run handle).2.readOnly = handle.readOnly ∧
      openTransaction? (program.run.run handle).2.connection = openTransaction? handle.connection

theorem balanced_of_keeping
    {program : HandleM Value} (keeps : ∀ handle, (program.run.run handle).2 = handle) :
    Balanced program := by
  intro handle
  rw [keeps handle]
  exact ⟨rfl, rfl⟩

theorem Balanced.bind
    {program : HandleM Value} {next : Value → HandleM Image} (balanced : Balanced program)
    (balancedNext : ∀ value, Balanced (next value)) :
    Balanced (program >>= next) := by
  intro handle
  cases ran : program.run.run handle with
  | mk outcome after =>
      have between := balanced handle
      rw [ran] at between
      cases outcome with
      | error error =>
          rw [run_bind_of_error ran]
          exact between
      | ok value =>
          rw [run_bind_of_ok ran]
          have ended := balancedNext value after
          exact ⟨ended.1.trans between.1, ended.2.trans between.2⟩

theorem Balanced.tryCatch
    {program : HandleM Value} {handler : StorageError → HandleM Value}
    (balanced : Balanced program) (balancedHandler : ∀ error, Balanced (handler error)) :
    Balanced (tryCatch program handler) := by
  intro handle
  cases ran : program.run.run handle with
  | mk outcome after =>
      have between := balanced handle
      rw [ran] at between
      cases outcome with
      | error error =>
          rw [run_tryCatch_of_error ran]
          have ended := balancedHandler error after
          exact ⟨ended.1.trans between.1, ended.2.trans between.2⟩
      | ok value =>
          rw [run_tryCatch_of_ok ran]
          exact between

theorem balanced_assertWritable : Balanced assertWritable := by
  refine balanced_of_keeping fun handle => ?_
  cases mayWrite : handle.readOnly with
  | false =>
      rw [assertWritable_of_writable mayWrite]
  | true =>
      rw [assertWritable_of_readOnly mayWrite]

theorem balanced_markDirty : Balanced markDirty :=
  fun _ => ⟨rfl, rfl⟩

theorem balanced_execute (statement : Statement) :
    Balanced (connect (Connection.execute statement)) := by
  intro handle
  cases executed : Connection.execute statement handle.connection with
  | error error =>
      rw [connect_of_error executed]
      exact ⟨rfl, rfl⟩
  | ok connection =>
      rw [connect_of_ok executed]
      exact ⟨rfl, openTransaction?_execute executed⟩

theorem balanced_run (statement : Statement) : Balanced (run statement) :=
  balanced_assertWritable.bind fun _ =>
    (balanced_execute statement).bind fun _ =>
      balanced_markDirty.bind fun _ => balanced_of_keeping fun _ => rfl

theorem balanced_executeAll (statements : List Statement) : Balanced (executeAll statements) := by
  induction statements with
  | nil =>
      exact balanced_of_keeping fun _ => rfl
  | cons statement statements inductionHypothesis =>
      exact (balanced_execute statement).bind fun _ => inductionHypothesis

theorem balanced_runScript (script : List Statement) : Balanced (runScript script) := by
  unfold runScript
  refine balanced_assertWritable.bind fun _ => ?_
  have executes : Balanced (executeAll script >>= fun _ => markDirty) :=
    (balanced_executeAll script).bind fun _ => balanced_markDirty
  intro handle
  rw [run_get_bind]
  by_cases closed : handle.connection = .closed
  · rw [if_pos closed]
    exact ⟨rfl, rfl⟩
  · rw [if_neg closed]
    exact executes handle

/-- A transaction is over when it is left, whether its body succeeds or fails. -/
theorem balanced_transaction {body : HandleM Value} (balanced : Balanced body) :
    Balanced (transaction body) := by
  intro handle
  cases mayWrite : handle.readOnly with
  | true =>
      rw [transaction_of_readOnly mayWrite]
      exact ⟨mayWrite, rfl⟩
  | false =>
      cases begins : handle.connection.begin with
      | error error =>
          rw [transaction_of_refused mayWrite begins]
          exact ⟨mayWrite, rfl⟩
      | ok opened =>
          have wasNone := (begins_iff handle.connection).mp ⟨opened, begins⟩
          cases bodyRan : body.run.run { handle with connection := opened } with
          | mk outcome ended =>
              obtain ⟨sameAccess, sameState⟩ := balanced { handle with connection := opened }
              rw [bodyRan] at sameAccess sameState
              rw [openTransaction?_begin begins] at sameState
              cases outcome with
              | ok value =>
                  obtain ⟨committed, commits, isOver⟩ := exists_commit sameState
                  rw [transaction_of_ok mayWrite begins bodyRan commits, wasNone]
                  exact ⟨sameAccess.trans mayWrite, isOver⟩
              | error error =>
                  obtain ⟨restored, rollsBack, isOver⟩ := exists_rollback sameState
                  rw [transaction_of_error mayWrite begins bodyRan rollsBack, wasNone]
                  exact ⟨sameAccess.trans mayWrite, isOver⟩

/-! ## Whatever is carried out later -/

/-- A program that is carried out on a handle: it reads, inserts rows and goes on with their keys,
carries out other statements, scripts and transactions, and may catch errors. -/
inductive Later : {Value : Type} → HandleM Value → Prop where
  | pure {Value : Type} (value : Value) : Later (pure value)
  | throw {Value : Type} (error : StorageError) : Later (throw error : HandleM Value)
  | bind {Value Image : Type} {program : HandleM Value} {next : Value → HandleM Image} :
      Later program → (∀ value, Later (next value)) → Later (program >>= next)
  | tryCatch {Value : Type} {program : HandleM Value} {handler : StorageError → HandleM Value} :
      Later program → (∀ error, Later (handler error)) → Later (tryCatch program handler)
  | read {Value : Type} {program : HandleM Value} : Reads program → Later program
  | insert {statement : Statement} : Inserts statement → Later (run statement)
  | carryOut (statement : Statement) : Later (do let _ ← run statement)
  | script (script : List Statement) : Later (runScript script)
  | transaction {Value : Type} {body : HandleM Value} : Later body → Later (transaction body)

theorem Later.respects {program : HandleM Value} (later : Later program) : Respects program := by
  induction later with
  | pure value =>
      exact respects_pure value
  | throw error =>
      exact respects_throw error
  | bind _ _ respects respectsNext =>
      exact respects.bind respectsNext
  | tryCatch _ _ respects respectsHandler =>
      exact respects.tryCatch respectsHandler
  | read reads =>
      exact respects_of_reads reads
  | insert inserts =>
      exact respects_run inserts
  | carryOut statement =>
      exact respects_carryOut statement
  | script script =>
      exact respects_runScript script
  | transaction _ respects =>
      exact respects_transaction respects

theorem Later.balanced {program : HandleM Value} (later : Later program) : Balanced program := by
  induction later with
  | pure value =>
      exact balanced_of_keeping fun _ => rfl
  | throw error =>
      exact balanced_of_keeping fun _ => rfl
  | bind _ _ balanced balancedNext =>
      exact balanced.bind balancedNext
  | tryCatch _ _ balanced balancedHandler =>
      exact balanced.tryCatch balancedHandler
  | read reads =>
      exact balanced_of_keeping reads.keeps
  | insert _ =>
      exact balanced_run _
  | carryOut statement =>
      exact (balanced_run statement).bind fun _ => balanced_of_keeping fun _ => rfl
  | script script =>
      exact balanced_runScript script
  | transaction _ balanced =>
      exact balanced_transaction balanced

/-- No program that is carried out later answers differently on the two handles, and after it a
statement that inserts a row gives the same key on both. -/
def Indistinguishable (left right : Handle) : Prop :=
  ∀ {Answer : Type} {later : HandleM Answer}, Later later →
    (later.run.run left).1 = (later.run.run right).1 ∧
      ∀ {statement : Statement} {tables after : Tables} {key : Int},
        (later.run.run right).2.connection.tables = .ok tables →
        statement tables = .ok (after, some key) →
        ((run statement).run.run (later.run.run left).2).1 =
          ((run statement).run.run (later.run.run right).2).1

theorem Alike.indistinguishable {left right : Handle} (alike : Alike left right) :
    Indistinguishable left right := by
  intro Answer program later
  refine ⟨later.respects.agrees alike, ?_⟩
  intro statement tables after key shown accepted
  have alikeAfter := later.respects.keeps alike
  cases mayWrite : (program.run.run right).2.readOnly with
  | true =>
      rw [run_of_readOnly mayWrite, run_of_readOnly (alikeAfter.readOnly.trans mayWrite)]
  | false =>
      rw [run_answer statement mayWrite, run_answer statement (alikeAfter.readOnly.trans mayWrite),
        alikeAfter.tables, shown]
      change (do
        let (_, key?) ← statement tables
        return key?.getD _) = (do
          let (_, key?) ← statement tables
          return key?.getD _)
      rw [accepted]
      rfl

/-- Whatever is carried out later, it leaves no transaction open, and a transaction can begin. -/
def StaysAtRest (handle : Handle) : Prop :=
  ∀ {Answer : Type} {later : HandleM Answer}, Later later →
    (later.run.run handle).2.connection.inTransaction = false ∧
      ∃ opened, (later.run.run handle).2.connection.begin = .ok opened

theorem openTransaction?_eq_some_false_iff (connection : Connection) :
    openTransaction? connection = some false ↔
      connection ≠ .closed ∧ connection.inTransaction = false := by
  rcases connection with ⟨tables, lastKey, _ | saved⟩ | ⟨content, fault, _ | _⟩ | _ <;>
    simp [openTransaction?, Connection.inTransaction]

theorem staysAtRest {handle : Handle} (atRest : openTransaction? handle.connection = some false) :
    StaysAtRest handle := by
  intro Answer program later
  have ended := (later.balanced handle).2.trans atRest
  exact
    ⟨((openTransaction?_eq_some_false_iff _).mp ended).2, (begins_iff _).mpr ended⟩

theorem Alike.openTransaction?_eq {left right : Handle} (alike : Alike left right) :
    openTransaction? left.connection = openTransaction? right.connection := by
  have forgets (connection : Connection) :
      openTransaction? (withoutKey connection) = openTransaction? connection := by
    cases connection <;> rfl
  rw [← forgets left.connection, alike.connection, forgets]

namespace Body

theorem Completes.openTransaction?_eq
    {body : Body Value} {before after : Connection} {value : Value}
    (completes : body.Completes before value after) :
    openTransaction? after = openTransaction? before := by
  induction completes with
  | done =>
      rfl
  | insert executed _ inductionHypothesis =>
      exact inductionHypothesis.trans (openTransaction?_execute executed)

/-- A transaction does all that its body does, or nothing. -/
theorem transaction_run
    (body : Body Value) {handle : Handle} (writable : handle.readOnly = false)
    (atRest : openTransaction? handle.connection = some false) :
    (∃ value ended,
      body.Completes handle.connection value ended ∧
        (transaction body.run).run.run handle =
          (.ok value, { handle with dirty := true, connection := ended })) ∨
      ∃ error after,
        body.Fails handle.connection error ∧
          (transaction body.run).run.run handle = (.error error, after) ∧ Alike after handle := by
  obtain ⟨path, readOnly, dirty, connection⟩ := handle
  subst writable
  rcases connection with ⟨tables, lastKey, _ | saved⟩ | ⟨content, fault, _ | _⟩ | _
  · rcases body.run_live path dirty tables tables lastKey with
      ⟨value, dirtyAfter, tablesAfter, lastKeyAfter, completes, ended⟩ |
        ⟨error, dirtyAfter, tablesAfter, lastKeyAfter, fails, ended⟩
    · exact Or.inl ⟨value, _, completes, transaction_writing_of_ok ended⟩
    · exact
        Or.inr ⟨error, _, fails, transaction_writing_of_error ended, ⟨rfl, rfl, rfl⟩⟩
  · cases atRest
  · -- a transaction can begin and end on a file that can not be read
    let before : Handle := ⟨path, false, dirty, .unreadable content fault false⟩
    let inside : Handle := { before with connection := .unreadable content fault true }
    have writable : before.readOnly = false := rfl
    have begins : before.connection.begin = .ok (.unreadable content fault true) := rfl
    have isInside : inside.connection = .unreadable content fault true := rfl
    have commits : inside.connection.commit = .ok (.unreadable content fault false) := rfl
    have rollsBack : inside.connection.rollback = .ok (.unreadable content fault false) := rfl
    rcases body.run_unreadable rfl isInside with
      ⟨value, completes, ended⟩ | ⟨error, fails, ended⟩
    · have ran := transaction_of_ok writable begins ended commits
      exact Or.inl ⟨value, _, completes, ran⟩
    · have ran := transaction_of_error writable begins ended rollsBack
      exact Or.inr ⟨error, _, fails, ran, Alike.refl before⟩
  · cases atRest
  · cases atRest

end Body

/-! ## All or nothing -/

/-- On a handle that may write, open and outside a transaction: if a transaction succeeds, the
statements of its body took effect one after the other, with the keys that they give one by one.
If it fails, it does so with the error of its body, and whatever is carried out later answers as if
it had never been tried. Either way no transaction stays open. One that is started within another
is refused, and with it the outer one fails. A hit of a keyword list that fails leaves neither the
artifact nor the attribute. -/
theorem transaction_all_or_nothing
    (body : Body Value) (handle : Handle) (writable : handle.readOnly = false)
    (isOpen : handle.connection ≠ .closed)
    (outside : handle.connection.inTransaction = false) :
    ∃ outcome after,
      (transaction body.run).run.run handle = (outcome, after) ∧
        (∀ value, outcome = .ok value →
          ∃ ended,
            body.Completes handle.connection value ended ∧
              after = { handle with dirty := true, connection := ended }) ∧
        (∀ error, outcome = .error error →
          body.Fails handle.connection error ∧
            after.connection.tables = handle.connection.tables ∧
              Indistinguishable after handle) ∧
        StaysAtRest after ∧
        (∀ (inner : HandleM Unit) (during : Handle),
          during.readOnly = false → during.connection.inTransaction = true →
            (transaction inner).run.run during = (.error .transactionOpen, during)) ∧
        ∀ fileId list error,
          ((CaseStore.addKeywordHit fileId list).run.run handle).1 = .error error →
            ((CaseStore.addKeywordHit fileId list).run.run handle).2.connection.tables =
              handle.connection.tables := by
  have atRest := (openTransaction?_eq_some_false_iff handle.connection).mpr ⟨isOpen, outside⟩
  have hitUndone (fileId : Option Number) (list : Option String) (error : StorageError)
      (failed : ((CaseStore.addKeywordHit fileId list).run.run handle).1 = .error error) :
      ((CaseStore.addKeywordHit fileId list).run.run handle).2.connection.tables =
        handle.connection.tables := by
    rw [Body.addKeywordHit_eq_transaction] at failed ⊢
    rcases (Body.keywordHit fileId list).transaction_run writable atRest with
      ⟨value, ended, _, ran⟩ | ⟨_, after, _, ran, alike⟩
    · rw [ran] at failed
      cases failed
    · rw [ran]
      exact alike.tables
  have nested (inner : HandleM Unit) (during : Handle) (mayWrite : during.readOnly = false)
      (within : during.connection.inTransaction = true) :
      (transaction inner).run.run during = (.error .transactionOpen, during) :=
    transaction_of_refused mayWrite (begin_of_inTransaction within)
  rcases body.transaction_run writable atRest with
    ⟨value, ended, completes, ran⟩ | ⟨error, after, fails, ran, alike⟩
  · refine ⟨.ok value, _, ran, ?_, nofun, ?_, nested, hitUndone⟩
    · intro other isOther
      obtain rfl := Except.ok.inj isOther
      exact ⟨ended, completes, rfl⟩
    · exact staysAtRest (completes.openTransaction?_eq.trans atRest)
  · refine ⟨.error error, after, ran, nofun, ?_, ?_, nested, hitUndone⟩
    · intro other isOther
      obtain rfl := Except.error.inj isOther
      exact ⟨fails, alike.tables, alike.indistinguishable⟩
    · exact staysAtRest (alike.openTransaction?_eq.trans atRest)

/-- A case in memory, with a table that holds one value. -/
def oneValueInMemory : Handle :=
  ⟨none, false, false,
    .fresh { keyValues := some [⟨1, some "first"⟩], caseTables := some CaseTables.empty }⟩

def emptyFile : NewFile :=
  ⟨some "a.txt", some "/", some (.finite 0), some (.finite 1), none, none⟩

/-- A file is added together with a value that is there already. -/
def collidingBody : Body Int :=
  .insert (Tables.insertFile emptyFile) fun id =>
    .insert (Tables.insertKeyValue none (some "first")) fun _ => .done id

/-- The file is gone after the value was refused, and the next file takes its id. -/
theorem transaction_undone_by_collision :
    oneValueInMemory.readOnly = false ∧ oneValueInMemory.connection ≠ .closed ∧
      oneValueInMemory.connection.inTransaction = false ∧
        ∃ after,
          (transaction collidingBody.run).run.run oneValueInMemory =
              (.error (.notUnique "kv" "v"), after) ∧
            after.connection.tables = oneValueInMemory.connection.tables ∧
              ((CaseStore.addFile emptyFile).run.run after).1 = .ok 1 := by
  have writable : oneValueInMemory.readOnly = false := rfl
  have isOpen : oneValueInMemory.connection ≠ .closed := nofun
  have outside : oneValueInMemory.connection.inTransaction = false := rfl
  refine ⟨writable, isOpen, outside, ?_⟩
  obtain ⟨outcome, after, ran, _, undone, _⟩ :=
    transaction_all_or_nothing collidingBody oneValueInMemory writable isOpen outside
  have refused :
      ((transaction collidingBody.run).run.run oneValueInMemory).1 =
        .error (.notUnique "kv" "v") := by
    decide +kernel
  have alone : ((CaseStore.addFile emptyFile).run.run oneValueInMemory).1 = .ok 1 := by
    decide +kernel
  rw [ran] at refused
  obtain rfl : outcome = .error (.notUnique "kv" "v") := refused
  obtain ⟨_, sameTables, same⟩ := undone _ rfl
  refine ⟨after, ran, sameTables, ?_⟩
  exact (same (.insert (inserts_insertFile emptyFile))).1.trans alone

end Handle
end EvidenceSearch
