import EvidenceSearch.Proofs.Storage.Reopening

/-!
# Files that can be replaced

Whether a file can be replaced depends on the directories and on the files that stand in the way,
and not on what is written. A file never stands in the way of its own temporary file, and the
directory that is made for it stays. So a path whose file was replaced once could have been given
any other content, and its file can be replaced again.
-/

namespace EvidenceSearch

namespace Path

/-! ## The names in a path -/

/-- The names on the way to what a path names, the last one being its own. -/
def names (path : String) : List (List Char) :=
  (path.toList.splitOn '/').filter fun name => name ≠ []

theorem filter_steps (path : String) :
    (steps path).filter (· ≠ "") = (names path).map String.ofList := by
  rw [steps, names, List.filter_map]
  congr 1
  apply List.filter_congr
  intro name _
  simp only [Function.comp_apply, ne_eq, String.ofList_eq_empty_iff]

theorem toList_join (parts : List (List Char)) :
    ("/" ++ "/".intercalate (parts.map String.ofList)).toList =
      '/' :: ['/'].intercalate parts := by
  rw [String.toList_append, String.toList_intercalate, List.map_map, String.toList_comp_ofList,
    List.map_id]
  rfl

theorem parent_congr
    {left right : String} (same : (names left).dropLast = (names right).dropLast) :
    parent left = parent right := by
  rw [parent, parent, filter_steps, filter_steps, ← List.map_dropLast, ← List.map_dropLast, same]

theorem not_mem_of_mem_splitOn
    {separator : Char} {characters piece : List Char}
    (isPiece : piece ∈ characters.splitOn separator) : separator ∉ piece := by
  induction characters generalizing piece with
  | nil =>
      obtain rfl := List.mem_singleton.mp isPiece
      exact List.not_mem_nil
  | cons first rest inductionHypothesis =>
      rw [List.splitOn_cons_eq_if_modifyHead] at isPiece
      by_cases isSeparator : first = separator
      · rw [if_pos (beq_iff_eq.mpr isSeparator)] at isPiece
        rcases List.mem_cons.mp isPiece with rfl | inRest
        · exact List.not_mem_nil
        · exact inductionHypothesis inRest
      · rw [if_neg fun equal => isSeparator (beq_iff_eq.mp equal)] at isPiece
        obtain ⟨head, tail, isSplit⟩ :=
          List.exists_cons_of_ne_nil (List.splitOn_ne_nil separator rest)
        rw [isSplit, List.modifyHead_cons] at isPiece
        rw [isSplit] at inductionHypothesis
        rcases List.mem_cons.mp isPiece with rfl | inTail
        · rw [List.mem_cons, not_or]
          exact ⟨Ne.symm isSeparator, inductionHypothesis List.mem_cons_self⟩
        · exact inductionHypothesis (List.mem_cons_of_mem head inTail)

theorem exists_lastName (characters : List Char) :
    '/' ∉ characters ∨
      ∃ before last, '/' ∉ last ∧ characters = before ++ '/' :: last := by
  induction characters using List.reverseRecOn with
  | nil =>
      exact Or.inl List.not_mem_nil
  | append_singleton characters final inductionHypothesis =>
      by_cases isSlash : final = '/'
      · exact Or.inr ⟨characters, [], List.not_mem_nil, by rw [isSlash]⟩
      · have plain : '/' ∉ [final] := fun member => isSlash (List.mem_singleton.mp member).symm
        rcases inductionHypothesis with noSlash | ⟨before, last, noSlash, rfl⟩
        · exact Or.inl fun member => (List.mem_append.mp member).elim noSlash plain
        · refine Or.inr ⟨before, last ++ [final], ?_, by simp⟩
          exact fun member => (List.mem_append.mp member).elim noSlash plain

/-- What is put behind the last name of a path lengthens that name. -/
theorem exists_names_append
    {path : String} (isNamed : withoutSlash path ≠ "/") (isPlain : asksDirectory path = false) :
    ∃ before last,
      last ≠ [] ∧ names path = before ++ [last] ∧
        ∀ ending : String, '/' ∉ ending.toList →
          names (path ++ ending) = before ++ [last ++ ending.toList] := by
  rcases exists_lastName path.toList with noSlash | ⟨before, last, noSlash, isSplit⟩
  · have isFilled : path.toList ≠ [] := by
      intro isEmpty
      apply isNamed
      obtain rfl : path = "" := String.toList_eq_nil_iff.mp isEmpty
      rfl
    refine ⟨[], path.toList, isFilled, ?_, fun ending noSlashAfter => ?_⟩
    · rw [names, List.splitOn_eq_singleton noSlash,
        List.filter_cons_of_pos (by simpa using isFilled)]
      rfl
    · have noSlashAtAll : '/' ∉ (path ++ ending).toList := by
        rw [String.toList_append]
        exact fun member => (List.mem_append.mp member).elim noSlash noSlashAfter
      rw [names, List.splitOn_eq_singleton noSlashAtAll, String.toList_append]
      simp [isFilled]
  · have isFilled : last ≠ [] := by
      rintro rfl
      have endsWithSlash : asksDirectory path = true := by
        rw [asksDirectory, ← String.endsWith_toSlice, String.Slice.endsWith_string_iff]
        exact ⟨before, by simp [isSplit]⟩
      rw [endsWithSlash] at isPlain
      cases isPlain
    refine
      ⟨(before.splitOn '/').filter fun name => name ≠ [], last, isFilled, ?_,
        fun ending noSlashAfter => ?_⟩
    · rw [names, isSplit, List.splitOn_append_cons_self, List.splitOn_eq_singleton noSlash]
      simp [isFilled]
    · have noSlashStill : '/' ∉ last ++ ending.toList :=
        fun member => (List.mem_append.mp member).elim noSlash noSlashAfter
      rw [names, String.toList_append, isSplit, List.append_assoc, List.cons_append,
        List.splitOn_append_cons_self, List.splitOn_eq_singleton noSlashStill]
      simp [isFilled]

theorem splitOn_names {path : String} (isNamed : names path ≠ []) :
    (withoutSlash path).toList.splitOn '/' = [] :: names path := by
  have plain : ∀ name ∈ names path, '/' ∉ name :=
    fun name member => not_mem_of_mem_splitOn (List.mem_filter.mp member).1
  rw [withoutSlash, filter_steps, toList_join, List.splitOn_cons_eq_if_modifyHead,
    List.splitOn_intercalate '/' plain isNamed]
  rfl

/-- A file does not stand in the way of its temporary file. -/
theorem not_isBelow_temporary
    {path : String} (isNamed : withoutSlash path ≠ "/") (isPlain : asksDirectory path = false) :
    isBelow (withoutSlash (FileSystem.temporaryPath path)) path = false := by
  obtain ⟨before, last, _, isNames, lengthens⟩ := exists_names_append isNamed isPlain
  have isTemporary : names (FileSystem.temporaryPath path) = before ++ [last ++ ".tmp".toList] :=
    lengthens ".tmp" (by decide)
  have hasNames : names (FileSystem.temporaryPath path) ≠ [] := by
    rw [isTemporary]
    exact List.concat_ne_nil _ _
  have isSplit := splitOn_names hasNames
  rw [← Bool.not_eq_true, isBelow, String.startsWith_string_iff]
  rintro ⟨rest, same⟩
  -- the path would have the names of its temporary path, the last one not lengthened
  rw [String.toList_append] at same
  have together : path.toList ++ "/".toList ++ rest = path.toList ++ '/' :: rest := by simp
  rw [← same, together, List.splitOn_append_cons_self] at isSplit
  have filtered := congrArg (List.filter fun name => name ≠ []) isSplit
  have isFiltered :
      (names (FileSystem.temporaryPath path)).filter (fun name => name ≠ []) =
        names (FileSystem.temporaryPath path) :=
    List.filter_eq_self.mpr fun name member => (List.mem_filter.mp member).2
  rw [List.filter_append, List.filter_cons_of_neg (by simp), isFiltered, isTemporary] at filtered
  change names path ++ _ = _ at filtered
  rw [isNames, List.append_assoc] at filtered
  have sameLast := (List.cons.inj (List.append_cancel_left filtered)).1
  have longer := congrArg List.length sameLast
  simp at longer

theorem parent_temporary
    {path : String} (isNamed : withoutSlash path ≠ "/") (isPlain : asksDirectory path = false) :
    parent (FileSystem.temporaryPath path) = parent path := by
  obtain ⟨before, last, _, isNames, lengthens⟩ := exists_names_append isNamed isPlain
  apply parent_congr
  rw [isNames, FileSystem.temporaryPath, lengthens ".tmp" (by decide), List.dropLast_concat,
    List.dropLast_concat]

end Path

/-! ## Replacing a file -/

namespace FileSystem

variable {path : String} {content : FileContent} {before after : FileSystem}

/-- The files in which a path has a directory, which is made if nothing stands there. -/
def withParent (system : FileSystem) (path : String) : Except FileError FileSystem :=
  if system.pathExists (Path.parent path) then .ok system
  else system.makeDirectory (Path.parent path)

/-- The temporary file of a path can be written and renamed. -/
structure Clear (system : FileSystem) (path : String) : Prop where
  unblocked : system.blocks (Path.withoutSlash (temporaryPath path)) = false
  hasDirectory : system.isDirectory (Path.parent (temporaryPath path)) = true
  temporaryIsFile : (Path.asksDirectory (temporaryPath path) ||
    system.isDirectory (temporaryPath path)) = false
  isPlain : Path.asksDirectory path = false
  isFile : system.isDirectory path = false

/-- The files after a temporary file was written and renamed. -/
def renamed (system : FileSystem) (path : String) (content : FileContent) : FileSystem :=
  ((system.place (temporaryPath path) content).remove (temporaryPath path)).place path content

theorem run_change_eq_ok_iff
    {step : FileSystem → Except FileError FileSystem} :
    (change step).run.run before = (.ok (), after) ↔ step before = .ok after := by
  refine ⟨change_eq_ok, fun stepped => ?_⟩
  have read : (get : FileM FileSystem).run.run before = (.ok before, before) := rfl
  rw [change, run_bind_of_ok read, stepped]
  rfl

theorem run_change_bind_eq_ok_iff
    {step : FileSystem → Except FileError FileSystem} {next : FileM Unit} :
    (change step >>= fun _ => next).run.run before = (.ok (), after) ↔
      ∃ between, step before = .ok between ∧ next.run.run between = (.ok (), after) := by
  constructor
  · intro ran
    obtain ⟨_, between, stepped, ended⟩ := run_bind_eq_ok ran
    exact ⟨between, change_eq_ok stepped, ended⟩
  · rintro ⟨between, stepped, ended⟩
    rw [run_bind_of_ok (run_change_eq_ok_iff.mpr stepped)]
    exact ended

theorem write_eq_ok_iff :
    before.write path content = .ok after ↔
      before.blocks (Path.withoutSlash path) = false ∧
        before.isDirectory (Path.parent path) = true ∧
        (Path.asksDirectory path || before.isDirectory path) = false ∧
        before.place path content = after := by
  rw [write]
  split_ifs <;> grind

theorem rename_eq_ok_iff
    {source : String} (stands : before.file? source = some content) :
    before.rename source path = .ok after ↔
      Path.asksDirectory path = false ∧ before.isDirectory path = false ∧
        (before.remove source).place path content = after := by
  rw [rename, stands]
  dsimp only
  split_ifs <;> simp_all

theorem replaceFile_eq_ok_iff :
    (replaceFile path content).run.run before = (.ok (), after) ↔
      ∃ between,
        before.withParent path = .ok between ∧ between.Clear path ∧
          between.renamed path content = after := by
  have finishes (between : FileSystem) :
      (do
          change fun system => system.write (temporaryPath path) content
          change fun system => system.rename (temporaryPath path) path : FileM Unit).run.run
          between = (.ok (), after) ↔
        between.Clear path ∧ between.renamed path content = after := by
    have stands := file?_place between (temporaryPath path) content
    rw [run_change_bind_eq_ok_iff]
    simp only [run_change_eq_ok_iff, write_eq_ok_iff]
    constructor
    · rintro ⟨_, ⟨unblocked, hasDirectory, temporaryIsFile, rfl⟩, renames⟩
      obtain ⟨isPlain, isFile, same⟩ := (rename_eq_ok_iff stands).mp renames
      exact ⟨⟨unblocked, hasDirectory, temporaryIsFile, isPlain, isFile⟩, same⟩
    · rintro ⟨clear, same⟩
      exact
        ⟨_, ⟨clear.unblocked, clear.hasDirectory, clear.temporaryIsFile, rfl⟩,
          (rename_eq_ok_iff stands).mpr ⟨clear.isPlain, clear.isFile, same⟩⟩
  have read : (get : FileM FileSystem).run.run before = (.ok before, before) := rfl
  rw [replaceFile, run_bind_of_ok read, withParent]
  by_cases there : before.pathExists (Path.parent path) = true
  · rw [if_pos there, there]
    simp only [Except.ok.injEq, exists_eq_left']
    exact finishes before
  · rw [if_neg there, Bool.eq_false_of_not_eq_true there]
    exact
      run_change_bind_eq_ok_iff.trans
        (exists_congr fun between => and_congr_right fun _ => finishes between)

/-- The file at the path can be replaced, whatever it is to hold. -/
def Replaceable (system : FileSystem) (path : String) : Prop :=
  ∀ content, ∃ after, (replaceFile path content).run.run system = (.ok (), after)

theorem Clear.isNamed (clear : before.Clear path) : Path.withoutSlash path ≠ "/" := by
  intro isRoot
  have isDirectory := clear.isFile
  rw [FileSystem.isDirectory, isRoot] at isDirectory
  simp at isDirectory

/-- After a replacement nothing stands in the way of the next one: the file that was written does
not block its own temporary file. -/
theorem Clear.renamed (clear : before.Clear path) (content : FileContent) :
    (before.renamed path content).Clear path := by
  refine ⟨?_, clear.hasDirectory, clear.temporaryIsFile, clear.isPlain, clear.isFile⟩
  have notBelow := Path.not_isBelow_temporary clear.isNamed clear.isPlain
  have unblocked := clear.unblocked
  rw [blocks, List.any_eq_false] at unblocked ⊢
  intro file member
  rcases List.mem_cons.mp member with rfl | isOther
  · rw [notBelow]
    exact Bool.false_ne_true
  · have inRemoved := (List.mem_filter.mp isOther).1
    have inPlaced := (List.mem_filter.mp inRemoved).1
    rcases List.mem_cons.mp inPlaced with rfl | isOld
    · exact absurd (List.mem_filter.mp inRemoved).2 (by simp)
    · exact unblocked file (List.mem_filter.mp isOld).1

theorem Clear.withParent (clear : before.Clear path) : before.withParent path = .ok before := by
  have isParent := clear.hasDirectory
  rw [Path.parent_temporary clear.isNamed clear.isPlain] at isParent
  rw [FileSystem.withParent, pathExists, isParent, Bool.or_true, if_pos rfl]

/-- A file that was replaced could have been given any content, and can be replaced again. -/
theorem replaceable_of_replaced
    (replaced : (replaceFile path content).run.run before = (.ok (), after)) :
    before.Replaceable path ∧ after.Replaceable path := by
  obtain ⟨between, prepared, clear, rfl⟩ := replaceFile_eq_ok_iff.mp replaced
  constructor
  · intro other
    exact ⟨_, replaceFile_eq_ok_iff.mpr ⟨between, prepared, clear, rfl⟩⟩
  · intro other
    have clearAfter := clear.renamed content
    exact ⟨_, replaceFile_eq_ok_iff.mpr ⟨_, clearAfter.withParent, clearAfter, rfl⟩⟩

end FileSystem

end EvidenceSearch
