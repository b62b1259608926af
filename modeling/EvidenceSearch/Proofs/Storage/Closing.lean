import EvidenceSearch.Proofs.Storage.Changes

/-!
# What a file holds after its handle is closed

A handle that may write is opened on a path, and any changes are asked of it, each of which may
succeed or fail; in between it is written to its file, and other programs change other files. When
it is closed, opening the path again shows what the handle showed, with one exception: what a script
left behind when it broke off on a handle without a mark is lost unless the handle is marked later.
-/

namespace EvidenceSearch

namespace Handle

/-! ## Sessions -/

/-- A handle and the files around it. -/
structure Session where
  handle : Handle
  files : FileSystem

/-- What happens while a handle is open. -/
inductive Operation where
  | change (change : Change)
  /-- The handle is written to its file. -/
  | persist
  /-- Other programs change files, but nothing at the path of the handle. -/
  | elsewhere (change : FileSystem → FileSystem)

/-- Carry out an operation on a path. A handle that can not be written stays as it was. -/
def Session.after (path : String) (session : Session) : Operation → Session
  | .change change => { session with handle := change.perform session.handle }
  | .persist =>
      let (outcome, files) := session.handle.persist session.files
      match outcome with
      | .ok handle => ⟨handle, files⟩
      | .error _ => { session with files }
  | .elsewhere change =>
      if FileSystem.AgreeAt path (change session.files) session.files then
        { session with files := change session.files }
      else session

/-- Carry out operations one after the other. -/
def Session.run (path : String) (session : Session) (operations : List Operation) :
    Session :=
  operations.foldl (Session.after path) session

theorem Session.run_append_singleton
    (path : String) (session : Session) (operations : List Operation) (operation : Operation) :
    session.run path (operations ++ [operation]) =
      (session.run path operations).after path operation := by
  rw [run, List.foldl_append]
  rfl

/-! ## What is lost -/

/-- A script broke off after it changed the tables, and the handle has had no mark ever since. -/
def Overlooked (path : String) (session : Session) (operations : List Operation) : Prop :=
  ∃ earlier change later,
    operations = earlier ++ .change change :: later ∧
      BreaksOff change (session.run path earlier).handle ∧
      ∀ part, part <+: later →
        (session.run path (earlier ++ .change change :: part)).handle.dirty = false

variable {path : String} {session : Session} {operations : List Operation}

theorem Overlooked.dirty_eq_false (overlooked : Overlooked path session operations) :
    (session.run path operations).handle.dirty = false := by
  obtain ⟨earlier, change, later, rfl, _, unmarked⟩ := overlooked
  exact unmarked later (List.prefix_refl later)

theorem not_overlooked_nil (session : Session) : ¬ Overlooked path session [] := by
  rintro ⟨earlier, change, later, split, _, _⟩
  exact absurd split.symm (by simp)

/-- An operation leaves something overlooked if it leaves no mark and either something was
overlooked before or it is a script that breaks off. -/
theorem overlooked_append_singleton_iff (operation : Operation) :
    Overlooked path session (operations ++ [operation]) ↔
      (session.run path (operations ++ [operation])).handle.dirty = false ∧
        (Overlooked path session operations ∨
          ∃ change, operation = .change change ∧
            BreaksOff change (session.run path operations).handle) := by
  constructor
  · intro overlooked
    refine ⟨overlooked.dirty_eq_false, ?_⟩
    obtain ⟨earlier, change, later, split, breaksOff, unmarked⟩ := overlooked
    -- the script that broke off is the last operation, or it came before that
    rcases List.eq_nil_or_concat later with rfl | ⟨before, last, rfl⟩
    · obtain ⟨rfl, same⟩ := List.append_inj' split rfl
      exact Or.inr ⟨change, (List.cons.inj same).1, breaksOff⟩
    · rw [List.concat_eq_append, ← List.cons_append, ← List.append_assoc] at split
      obtain ⟨rfl, _⟩ := List.append_inj' split rfl
      refine Or.inl ⟨earlier, change, before, rfl, breaksOff, ?_⟩
      intro part isPrefix
      apply unmarked
      rw [List.concat_eq_append]
      exact isPrefix.trans (List.prefix_append before [last])
  · rintro ⟨notDirty, overlooked | ⟨change, rfl, breaksOff⟩⟩
    · obtain ⟨earlier, change, later, rfl, breaksOff, unmarked⟩ := overlooked
      refine ⟨earlier, change, later ++ [operation], by simp, breaksOff, ?_⟩
      intro part isPrefix
      rcases List.prefix_concat_iff.mp isPrefix with rfl | before
      · simpa using notDirty
      · exact unmarked part before
    · refine ⟨operations, change, [], rfl, breaksOff, ?_⟩
      intro part isPrefix
      rw [List.prefix_nil.mp isPrefix]
      exact notDirty

/-! ## What the file holds -/

/-- What is known about a session between two operations. The file of a handle without a mark shows
what the handle shows, unless something was overlooked; then the handle has more. -/
structure Holds (path : String) (start : Session) (operations : List Operation) : Prop where
  writes : Writes path (start.run path operations).handle
  shows :
    (start.run path operations).handle.dirty = false →
      ¬ Overlooked path start operations ∧
          shown? path (start.run path operations).files =
            some (start.run path operations).handle.connection.tables ∨
        Overlooked path start operations ∧
          ∃ tables tablesAfter,
            shown? path (start.run path operations).files = some (.ok tables) ∧
              (start.run path operations).handle.connection.tables = .ok tablesAfter ∧
              extent tables < extent tablesAfter

theorem holds_nil
    {files : FileSystem} {handle : Handle}
    (opened : openFile files path false = .ok handle) :
    Holds path ⟨handle, files⟩ [] := by
  obtain ⟨writes, _, shows⟩ := openFile_writes opened
  exact ⟨writes, fun _ => Or.inl ⟨not_overlooked_nil _, shows⟩⟩

/-- Nothing that matters changed: what is known stays known. -/
theorem Holds.unchanged
    {start : Session} {operation : Operation} (holds : Holds path start operations)
    (sameHandle :
      (start.run path (operations ++ [operation])).handle = (start.run path operations).handle)
    (sameShown :
      (start.run path operations).handle.dirty = false →
        shown? path (start.run path (operations ++ [operation])).files =
          shown? path (start.run path operations).files)
    (notBreaking :
      ∀ change, operation = .change change →
        ¬ BreaksOff change (start.run path operations).handle) :
    Holds path start (operations ++ [operation]) := by
  have overlookedIff :
      Overlooked path start (operations ++ [operation]) ↔ Overlooked path start operations := by
    rw [overlooked_append_singleton_iff, sameHandle]
    constructor
    · rintro ⟨_, overlooked | ⟨change, isChange, breaksOff⟩⟩
      · exact overlooked
      · exact absurd breaksOff (notBreaking change isChange)
    · intro overlooked
      exact ⟨overlooked.dirty_eq_false, Or.inl overlooked⟩
  refine ⟨?_, ?_⟩
  · rw [sameHandle]
    exact holds.writes
  · rw [sameHandle, overlookedIff]
    intro notDirty
    rw [sameShown notDirty]
    exact holds.shows notDirty

theorem Holds.marked
    {start : Session} {operation : Operation}
    (writes : Writes path (start.run path (operations ++ [operation])).handle)
    (isDirty : (start.run path (operations ++ [operation])).handle.dirty = true) :
    Holds path start (operations ++ [operation]) := by
  refine ⟨writes, fun notDirty => ?_⟩
  rw [isDirty] at notDirty
  cases notDirty

/-- What a script left behind without a mark is not in the file. -/
theorem Holds.overlooked
    {start : Session} {change : Change} (holds : Holds path start operations)
    (writes : Writes path (change.perform (start.run path operations).handle))
    (isScript : change.script?.isSome)
    (fails : change.Fails (start.run path operations).handle)
    (sameMark :
      (change.perform (start.run path operations).handle).dirty =
        (start.run path operations).handle.dirty)
    {tables tablesAfter : Tables}
    (had : (start.run path operations).handle.connection.tables = .ok tables)
    (has : (change.perform (start.run path operations).handle).connection.tables = .ok tablesAfter)
    (more : extent tables < extent tablesAfter) :
    Holds path start (operations ++ [.change change]) := by
  have breaksOff : BreaksOff change (start.run path operations).handle := by
    refine ⟨isScript, fails, ?_⟩
    rw [had, has]
    intro same
    rw [Except.ok.inj same] at more
    exact absurd more (Nat.lt_irrefl _)
  have after :
      start.run path (operations ++ [.change change]) =
        ⟨change.perform (start.run path operations).handle, (start.run path operations).files⟩ :=
    Session.run_append_singleton path start operations _
  refine ⟨?_, ?_⟩
  · rw [after]
    exact writes
  · rw [overlooked_append_singleton_iff, after]
    intro notDirty
    rw [sameMark] at notDirty
    refine Or.inr ⟨⟨sameMark.trans notDirty, Or.inr ⟨change, rfl, breaksOff⟩⟩, ?_⟩
    -- the file shows what was there before this script, or even less after an earlier one
    rcases holds.shows notDirty with ⟨_, shows⟩ | ⟨_, held, _, shows, current, less⟩
    · rw [had] at shows
      exact ⟨tables, tablesAfter, shows, has, more⟩
    · rw [had] at current
      obtain rfl := Except.ok.inj current
      exact ⟨held, tablesAfter, shows, has, Nat.lt_trans less more⟩

/-- A change keeps what is known about a session. -/
theorem Holds.change
    {start : Session} (holds : Holds path start operations) (change : Change) :
    Holds path start (operations ++ [.change change]) := by
  have after :
      start.run path (operations ++ [.change change]) =
        ⟨change.perform (start.run path operations).handle,
          (start.run path operations).files⟩ :=
    Session.run_append_singleton path start operations _
  obtain ⟨writes, effect⟩ := change.effect holds.writes
  cases effect with
  | idle same =>
      refine holds.unchanged ?_ ?_ ?_
      · rw [after]
        exact same
      · rw [after]
        exact fun _ => rfl
      · rintro other isChange ⟨_, _, differs⟩
        rw [← Operation.change.inj isChange, same] at differs
        exact differs rfl
  | marks isDirty =>
      refine Holds.marked ?_ ?_
      · rw [after]
        exact writes
      · rw [after]
        exact isDirty
  | overlooks isScript fails sameMark tables tablesAfter had has more =>
      exact holds.overlooked writes isScript fails sameMark had has more

/-- A handle that was written shows the same as its file. -/
theorem Holds.written
    {start : Session} {written : Handle} {files : FileSystem}
    (holds : Holds path start operations)
    (isDirty : (start.run path operations).handle.dirty = true)
    (persisted :
      (start.run path operations).handle.persist (start.run path operations).files =
        (.ok written, files)) :
    Holds path start (operations ++ [.persist]) := by
  have after : start.run path (operations ++ [.persist]) = ⟨written, files⟩ := by
    rw [Session.run_append_singleton, Session.after, persisted]
  obtain ⟨rfl, shows⟩ := persist_dirty holds.writes isDirty persisted
  have notOverlooked : ¬ Overlooked path start (operations ++ [.persist]) := by
    rw [overlooked_append_singleton_iff]
    rintro ⟨_, overlooked | ⟨change, isChange, _⟩⟩
    · rw [overlooked.dirty_eq_false] at isDirty
      cases isDirty
    · cases isChange
  refine ⟨?_, ?_⟩
  · rw [after]
    exact ⟨holds.writes.onPath, holds.writes.writable, holds.writes.atRest⟩
  · rw [after]
    exact fun _ => Or.inl ⟨notOverlooked, shows⟩

/-- Writing a handle to its file keeps what is known about a session. -/
theorem Holds.persist
    {start : Session} (holds : Holds path start operations) :
    Holds path start (operations ++ [.persist]) := by
  have after :
      start.run path (operations ++ [.persist]) =
        (start.run path operations).after path .persist :=
    Session.run_append_singleton path start operations _
  rw [Session.after] at after
  by_cases isDirty : (start.run path operations).handle.dirty = true
  · cases persisted : (start.run path operations).handle.persist
        (start.run path operations).files with
    | mk outcome files =>
        cases outcome with
        | error error =>
            rw [persisted] at after
            simp only at after
            refine holds.unchanged ?_ ?_ ?_
            · rw [after]
            · intro notDirty
              rw [isDirty] at notDirty
              cases notDirty
            · intro change isChange
              cases isChange
        | ok written =>
            exact holds.written isDirty persisted
  · have notDirty := Bool.eq_false_iff.mpr isDirty
    rw [persist_clean notDirty] at after
    simp only at after
    refine holds.unchanged ?_ ?_ ?_
    · rw [after]
    · intro _
      rw [after]
    · intro change isChange
      cases isChange

/-- What other programs do elsewhere keeps what is known about a session. -/
theorem Holds.elsewhere
    {start : Session} (holds : Holds path start operations)
    (change : FileSystem → FileSystem) :
    Holds path start (operations ++ [.elsewhere change]) := by
  have after :
      start.run path (operations ++ [.elsewhere change]) =
        (start.run path operations).after path (.elsewhere change) :=
    Session.run_append_singleton path start operations _
  rw [Session.after] at after
  refine holds.unchanged ?_ ?_ ?_
  · rw [after]
    split <;> rfl
  · intro _
    rw [after]
    split
    · rename_i agree
      exact shown?_congr agree
    · rfl
  · intro other isChange
    cases isChange

/-- What is known about a session holds after any operations on a handle that was opened. -/
theorem holds_run
    {files : FileSystem} {handle : Handle} (opened : openFile files path false = .ok handle)
    (operations : List Operation) :
    Holds path ⟨handle, files⟩ operations := by
  induction operations using List.reverseRecOn with
  | nil =>
      exact holds_nil opened
  | append_singleton operations operation inductionHypothesis =>
      cases operation with
      | change change =>
          exact inductionHypothesis.change change
      | persist =>
          exact inductionHypothesis.persist
      | elsewhere change =>
          exact inductionHypothesis.elsewhere change

/-! ## Closing and opening again -/

/-- Opening the file succeeds and shows what the handle shows. -/
def Reopens (path : String) (session : Session) (files : FileSystem) : Prop :=
  ∃ reopened,
    openFile files path false = .ok reopened ∧
      reopened.connection.tables = session.handle.connection.tables

/-- The handle can be copied, and the copy can take the place of its file. -/
def CanBeWritten (path : String) (session : Session) : Prop :=
  ∃ content after,
    session.handle.connection.content = .ok content ∧
      (FileSystem.replaceFile path content).run.run session.files = (.ok (), after)

theorem reopens_iff (path : String) (session : Session) (files : FileSystem) :
    Reopens path session files ↔
      shown? path files = some session.handle.connection.tables :=
  shown?_eq_some_iff.symm

theorem persist_eq_ok_iff
    {session : Session} (writes : Writes path session.handle) :
    (∃ written after, session.handle.persist session.files = (.ok written, after)) ↔
      (session.handle.dirty = true → CanBeWritten path session) := by
  by_cases isDirty : session.handle.dirty = true
  · rw [persist, writes.onPath, writes.writable, isDirty]
    simp only [Bool.not_true, Bool.or_self, Bool.false_eq_true, if_false, forall_const]
    cases copied : session.handle.connection.content with
    | error error =>
        constructor
        · rintro ⟨_, _, persisted⟩
          cases persisted
        · rintro ⟨content, _, isContent, _⟩
          rw [copied] at isContent
          cases isContent
    | ok content =>
        cases replaced : (FileSystem.replaceFile path content).run.run session.files with
        | mk outcome after =>
            simp only [replaced]
            cases outcome with
            | error error =>
                constructor
                · rintro ⟨_, _, persisted⟩
                  cases persisted
                · rintro ⟨other, afterOther, isContent, replacedOther⟩
                  rw [copied] at isContent
                  obtain rfl := Except.ok.inj isContent
                  rw [replaced] at replacedOther
                  cases replacedOther
            | ok _ =>
                constructor
                · intro _
                  exact ⟨content, after, copied, replaced⟩
                · intro _
                  exact ⟨_, after, rfl⟩
  · have notDirty := Bool.eq_false_iff.mpr isDirty
    constructor
    · intro _ isDirtyToo
      exact absurd isDirtyToo isDirty
    · intro _
      exact ⟨_, _, persist_clean notDirty session.files⟩

theorem close_eq_ok_iff {handle closed : Handle} {files after : FileSystem} :
    handle.close files = (.ok closed, after) ↔
      ∃ written,
        handle.persist files = (.ok written, after) ∧
          closed = { written with connection := .closed } := by
  rw [close]
  cases handle.persist files with
  | mk outcome system =>
      cases outcome with
      | error error =>
          simp [Except.map]
      | ok written =>
          simp only [Except.map, Prod.mk.injEq, Except.ok.injEq]
          constructor
          · rintro ⟨rfl, rfl⟩
            exact ⟨written, ⟨rfl, rfl⟩, rfl⟩
          · rintro ⟨other, ⟨rfl, rfl⟩, rfl⟩
            exact ⟨rfl, rfl⟩

theorem Holds.reopens_clean
    {start : Session} (holds : Holds path start operations)
    (notDirty : (start.run path operations).handle.dirty = false) :
    Reopens path (start.run path operations) (start.run path operations).files ↔
      ¬ Overlooked path start operations := by
  rw [reopens_iff]
  rcases holds.shows notDirty with ⟨notOverlooked, shows⟩ | ⟨overlooked, _, _, shows, has, less⟩
  · exact iff_of_true shows notOverlooked
  · rw [shows, has]
    constructor
    · intro same
      rw [Except.ok.inj (Option.some.inj same)] at less
      exact absurd less (Nat.lt_irrefl _)
    · intro notOverlooked
      exact absurd overlooked notOverlooked

theorem Holds.reopens_written
    {start : Session} (holds : Holds path start operations)
    (isDirty : (start.run path operations).handle.dirty = true)
    {written : Handle} {after : FileSystem}
    (persisted :
      (start.run path operations).handle.persist (start.run path operations).files =
        (.ok written, after)) :
    Reopens path (start.run path operations) after ↔ ¬ Overlooked path start operations := by
  rw [reopens_iff]
  obtain ⟨_, shows⟩ := persist_dirty holds.writes isDirty persisted
  refine iff_of_true shows ?_
  intro overlooked
  rw [overlooked.dirty_eq_false] at isDirty
  cases isDirty

/-- After any operations on a handle that was opened to write, closing succeeds unless something
that is to be written can not be. Then opening the path again shows what the handle showed, unless
what a script left when it broke off was overlooked. Under the same condition the file of a handle
without a mark holds its content already. -/
theorem close_keeps_iff
    {files : FileSystem} {handle : Handle} (opened : openFile files path false = .ok handle)
    (operations : List Operation) :
    ((∃ closed after,
        (Session.run path ⟨handle, files⟩ operations).handle.close
            (Session.run path ⟨handle, files⟩ operations).files =
          (.ok closed, after)) ↔
      ((Session.run path ⟨handle, files⟩ operations).handle.dirty = true →
        CanBeWritten path (Session.run path ⟨handle, files⟩ operations))) ∧
      (∀ closed after,
        (Session.run path ⟨handle, files⟩ operations).handle.close
            (Session.run path ⟨handle, files⟩ operations).files =
          (.ok closed, after) →
        (Reopens path (Session.run path ⟨handle, files⟩ operations) after ↔
          ¬ Overlooked path ⟨handle, files⟩ operations)) ∧
      ((Session.run path ⟨handle, files⟩ operations).handle.dirty = false →
        (Reopens path (Session.run path ⟨handle, files⟩ operations)
            (Session.run path ⟨handle, files⟩ operations).files ↔
          ¬ Overlooked path ⟨handle, files⟩ operations)) := by
  have holds := holds_run opened operations
  refine ⟨?_, ?_, holds.reopens_clean⟩
  · rw [← persist_eq_ok_iff holds.writes]
    constructor
    · rintro ⟨closed, after, isClosed⟩
      obtain ⟨written, persisted, _⟩ := close_eq_ok_iff.mp isClosed
      exact ⟨written, after, persisted⟩
    · rintro ⟨written, after, persisted⟩
      exact ⟨_, after, close_eq_ok_iff.mpr ⟨written, persisted, rfl⟩⟩
  · intro closed after isClosed
    obtain ⟨written, persisted, _⟩ := close_eq_ok_iff.mp isClosed
    by_cases isDirty : (Session.run path ⟨handle, files⟩ operations).handle.dirty = true
    · exact holds.reopens_written isDirty persisted
    · have notDirty := Bool.eq_false_iff.mpr isDirty
      rw [persist_clean notDirty] at persisted
      obtain ⟨_, rfl⟩ := Prod.mk.inj persisted
      exact holds.reopens_clean notDirty

/-- A file that holds one value. -/
def oneValue : FileSystem :=
  ⟨[("/a.db", .database { keyValues := some [⟨1, some "s2"⟩] })], []⟩

/-- A handle of that file. -/
def oneValueHandle : Handle :=
  ⟨some "/a.db", false, false, .fresh { keyValues := some [⟨1, some "s2"⟩] }⟩

/-- The second row of the seed is there already, so the first one stays without a mark. -/
theorem close_loses_row_of_seed :
    ∃ closed after,
      (Session.run "/a.db" ⟨oneValueHandle, oneValue⟩
            [.change (.seed (some "s1") [some "s2"])]).handle.close oneValue =
          (.ok closed, after) ∧
        ¬ Reopens "/a.db"
            (Session.run "/a.db" ⟨oneValueHandle, oneValue⟩
              [.change (.seed (some "s1") [some "s2"])]) after := by
  have opened : openFile oneValue "/a.db" false = .ok oneValueHandle := rfl
  obtain ⟨closes, keeps, _⟩ :=
    close_keeps_iff opened [.change (.seed (some "s1") [some "s2"])]
  have notDirty :
      (Session.run "/a.db" ⟨oneValueHandle, oneValue⟩
        [.change (.seed (some "s1") [some "s2"])]).handle.dirty = false := by
    decide +kernel
  have overlooked :
      Overlooked "/a.db" ⟨oneValueHandle, oneValue⟩ [.change (.seed (some "s1") [some "s2"])] := by
    refine ⟨[], .seed (some "s1") [some "s2"], [], rfl,
      ⟨rfl, ⟨.notUnique "kv" "v", ?_⟩, ?_⟩, ?_⟩
    · decide +kernel
    · decide +kernel
    · intro part isPrefix
      rw [List.prefix_nil.mp isPrefix]
      exact notDirty
  obtain ⟨closed, after, isClosed⟩ := closes.mpr fun isDirty => by
    rw [notDirty] at isDirty
    cases isDirty
  refine ⟨closed, after, isClosed, ?_⟩
  intro reopens
  exact (keeps closed after isClosed).mp reopens overlooked

end Handle
end EvidenceSearch
