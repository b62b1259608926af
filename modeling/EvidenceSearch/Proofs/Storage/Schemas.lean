import EvidenceSearch.Proofs.Storage.Handles

/-!
# Creating the tables of a store

The script of a store creates the tables that are not there and leaves alone those that are. Then
it names columns of the tables. So it goes through exactly if no table that was made elsewhere lacks
one of these columns; where it breaks off, the tables that it created stay.
-/

namespace EvidenceSearch

open Handle

/-! ## Columns that are asked for -/

theorem mem_gapsWithTable_iff {name : String} {gaps : List SchemaGap} {gap : SchemaGap} :
    gap ∈ gapsWithTable name gaps ↔ gap ∈ gaps ∧ gap ≠ .table name := by
  simp [gapsWithTable]

@[simp]
theorem gapsWithTable_nil (name : String) : gapsWithTable name [] = [] :=
  rfl

/-- A table that is there stays there if no gap is added. -/
theorem presentTables_subset
    {names : List String} {gaps fewer : List SchemaGap} (isFewer : ∀ gap ∈ fewer, gap ∈ gaps) :
    presentTables names gaps ⊆ presentTables names fewer := by
  intro name member
  rw [mem_presentTables_iff] at member ⊢
  exact ⟨member.1, fun isGap => member.2 (isFewer _ isGap)⟩

theorem gapsWithTable_of_present
    {name : String} {gaps : List SchemaGap} (isPresent : .table name ∉ gaps) :
    gapsWithTable name gaps = gaps := by
  refine List.filter_eq_self.mpr fun gap isGap => ?_
  rw [decide_eq_true_eq]
  rintro rfl
  exact isPresent isGap

/-- A table that was missing makes one more. -/
theorem length_presentTables_lt
    {names : List String} {gaps : List SchemaGap} {name : String} (isName : name ∈ names)
    (isMissing : .table name ∈ gaps) :
    (presentTables names gaps).length <
      (presentTables names (gapsWithTable name gaps)).length := by
  have sameFilter :
      presentTables names gaps =
        (presentTables names (gapsWithTable name gaps)).filter fun other =>
          !gaps.contains (.table other) := by
    rw [presentTables, presentTables, List.filter_filter]
    refine List.filter_congr fun other _ => ?_
    by_cases isGap : .table other ∈ gaps
    · simp [isGap]
    · simp [isGap, mem_gapsWithTable_iff]
  rw [sameFilter, List.length_filter_lt_length_iff_exists]
  refine ⟨name, mem_presentTables_iff.mpr ⟨isName, ?_⟩, by simp [isMissing]⟩
  exact fun isGap => (mem_gapsWithTable_iff.mp isGap).2 rfl

/-- The statement finds what it names: no table is missing of those that have the columns, and none
of the columns. -/
def ColumnAccess.Finds (access : ColumnAccess) (gaps : List SchemaGap) : Prop :=
  ∀ name ∈ access.columns, .table name.1 ∉ gaps ∧ .column name.1 name.2 ∉ gaps

theorem ColumnAccess.check_eq_ok_iff {access : ColumnAccess} {gaps : List SchemaGap} :
    access.check gaps = .ok () ↔ access.Finds gaps := by
  rw [check, Finds]
  constructor
  · intro accepted
    split at accepted
    · cases accepted
    rename_i noTable
    split at accepted
    · cases accepted
    rename_i noColumn
    intro name member
    have tableThere := List.find?_eq_none.mp noTable name member
    have columnThere := List.find?_eq_none.mp noColumn name member
    simp only [List.contains_iff_mem] at tableThere columnThere
    exact ⟨tableThere, columnThere⟩
  · intro finds
    have noTable :
        access.columns.find? (fun name => gaps.contains (.table name.1)) = none :=
      List.find?_eq_none.mpr fun name member => by simpa using (finds name member).1
    have noColumn :
        access.columns.find? (fun name => gaps.contains (.column name.1 name.2)) = none :=
      List.find?_eq_none.mpr fun name member => by simpa using (finds name member).2
    rw [noTable, noColumn]

theorem ColumnAccess.finds_selectFrom_single_iff {table column : String} {gaps : List SchemaGap} :
    (ColumnAccess.selectFrom table [column]).Finds gaps ↔
      .table table ∉ gaps ∧ .column table column ∉ gaps :=
  List.forall_mem_singleton

theorem ColumnAccess.exists_check_eq_error
    {access : ColumnAccess} {gaps : List SchemaGap} (lacks : ¬ access.Finds gaps) :
    ∃ error, access.check gaps = .error error := by
  cases checked : access.check gaps with
  | error error =>
      exact ⟨error, rfl⟩
  | ok _ =>
      exact absurd (check_eq_ok_iff.mp checked) lacks

/-! ## Scripts -/

namespace Handle

variable {path : Option String} {dirty : Bool} {tables : Tables} {lastKey : Int}
  {saved : Option Tables}

theorem executeAll_append (first second : List Statement) :
    executeAll (first ++ second) = (do executeAll first; executeAll second) := by
  induction first with
  | nil =>
      rfl
  | cons statement first inductionHypothesis =>
      rw [List.cons_append, executeAll, executeAll, inductionHypothesis, bind_assoc]

/-- The statement changes nothing, whether it is accepted or refused. -/
def Idle (statement : Statement) (tables : Tables) : Prop :=
  statement tables = .ok (tables, none) ∨ ∃ error, statement tables = .error error

/-- Idle statements are carried out if all of them are accepted. -/
theorem exists_executeAll_of_idle
    (path : Option String) (dirty : Bool) (lastKey : Int) (saved : Option Tables)
    {script : List Statement} (idle : ∀ statement ∈ script, Idle statement tables) :
    ∃ outcome,
      (executeAll script).run.run (writing path dirty ⟨tables, lastKey, saved⟩) =
          (outcome, writing path dirty ⟨tables, lastKey, saved⟩) ∧
        (outcome = .ok () ↔ ∀ statement ∈ script, statement tables = .ok (tables, none)) := by
  induction script with
  | nil =>
      exact ⟨.ok (), rfl, iff_of_true rfl fun _ member => absurd member List.not_mem_nil⟩
  | cons statement script inductionHypothesis =>
      rw [List.forall_mem_cons] at idle
      obtain ⟨outcome, executed, succeeds⟩ := inductionHypothesis idle.2
      rcases idle.1 with accepted | ⟨error, refused⟩
      · refine ⟨outcome, ?_, ?_⟩
        · rw [executeAll_of_ok accepted]
          exact executed
        · rw [succeeds, List.forall_mem_cons]
          exact (and_iff_right accepted).symm
      · refine ⟨.error error, executeAll_of_error refused, iff_of_false nofun ?_⟩
        intro allAccepted
        have accepted := allAccepted statement List.mem_cons_self
        rw [refused] at accepted
        cases accepted

/-- A statement that creates an index changes nothing. -/
theorem idle_createIndex
    {Held : Type} (gaps : Held → List SchemaGap) (held? : Tables → Option Held)
    (index : String × String) (tables : Tables) :
    Idle (Tables.createIndex gaps held? index) tables := by
  rw [Idle, Tables.createIndex]
  cases requireTables gaps (.selectFrom index.1 [index.2]) (held? tables) with
  | error error =>
      exact Or.inr ⟨error, rfl⟩
  | ok held =>
      exact Or.inl rfl

theorem createIndex_eq_ok_iff
    {Held : Type} {held : Held} (gaps : Held → List SchemaGap) (held? : Tables → Option Held)
    (index : String × String) (isHeld : held? tables = some held) :
    Tables.createIndex gaps held? index tables = .ok (tables, none) ↔
      (ColumnAccess.selectFrom index.1 [index.2]).Finds (gaps held) := by
  rw [← ColumnAccess.check_eq_ok_iff, Tables.createIndex, isHeld, requireTables]
  cases (ColumnAccess.selectFrom index.1 [index.2]).check (gaps held) with
  | error error =>
      constructor
      · intro accepted
        cases accepted
      · intro accepted
        cases accepted
  | ok _ =>
      exact iff_of_true rfl rfl

end Handle

/-! ## The tables of a case -/

namespace CaseTables

/-- The columns that the script names, each with its table. -/
def needs : List (String × String) :=
  (["data_source_obj_id", "mime_type", "parent_path"].map fun column => ("tsk_files", column)) ++
    [("blackboard_artifacts", "obj_id"), ("blackboard_attributes", "artifact_id")]

theorem indexes_eq_needs : indexes = needs :=
  rfl

/-- The tables once those that were missing are created. -/
def created (caseTables? : Option CaseTables) : CaseTables :=
  (schema.map Prod.fst).foldl withTable (caseTables?.getD absent)

theorem created_none : created none = empty := by
  decide

theorem created_of_whole {tables : CaseTables} (whole : tables.gaps = []) :
    created (some tables) = tables := by
  obtain ⟨sources, files, artifacts, attributes, lastFile, lastArtifact, lastAttribute, gaps⟩ :=
    tables
  obtain rfl := whole
  rfl

theorem mem_gaps_created_iff {caseTables? : Option CaseTables} {gap : SchemaGap} :
    gap ∈ (created caseTables?).gaps ↔
      gap ∈ (caseTables?.getD absent).gaps ∧ ∀ name ∈ names, gap ≠ .table name := by
  simp only [created, schema, List.map_cons, List.map_nil, List.foldl_cons, List.foldl_nil,
    withTable, mem_gapsWithTable_iff, names, List.forall_mem_cons]
  tauto

end CaseTables

namespace Tables

variable {tables : Tables} {path : Option String} {dirty : Bool} {lastKey : Int}
  {saved : Option Tables}

/-- No table is lost if nothing more is missing of the stores, and no other table is lost. -/
theorem names_subset_of_gaps
    {after : Tables} (sameValues : after.keyValues = tables.keyValues)
    (ofCase :
      ∀ gap ∈ (after.caseTables.getD .absent).gaps,
        gap ∈ (tables.caseTables.getD .absent).gaps)
    (ofRepository :
      ∀ gap ∈ (after.repositoryTables.getD .absent).gaps,
        gap ∈ (tables.repositoryTables.getD .absent).gaps)
    (sameFurther : after.further = tables.further) :
    tables.names ⊆ after.names := by
  have caseKept : tables.casePresent ⊆ after.casePresent := by
    rw [casePresent_eq, casePresent_eq]
    exact presentTables_subset ofCase
  have repositoryKept : tables.repositoryPresent ⊆ after.repositoryPresent := by
    rw [repositoryPresent_eq, repositoryPresent_eq]
    exact presentTables_subset ofRepository
  have kept :
      tables.casePresent ++ tables.repositoryPresent ⊆
        after.casePresent ++ after.repositoryPresent :=
    List.append_subset.mpr
      ⟨List.subset_append_of_subset_left _ caseKept,
        List.subset_append_of_subset_right _ repositoryKept⟩
  intro name member
  rw [mem_names_iff] at member ⊢
  rw [sameValues, sameFurther]
  rcases member with isValues | inCase | inRepository | ⟨numbers, isSequence⟩ | isFurther
  · exact Or.inl isValues
  · exact Or.inr (Or.inl (caseKept inCase))
  · exact Or.inr (Or.inr (Or.inl (repositoryKept inRepository)))
  · obtain ⟨table, isPresent, isNumbered⟩ := List.any_eq_true.mp numbers
    have stillNumbers := List.any_eq_true.mpr ⟨table, kept isPresent, isNumbered⟩
    exact Or.inr (Or.inr (Or.inr (Or.inl ⟨stillNumbers, isSequence⟩)))
  · exact Or.inr (Or.inr (Or.inr (Or.inr isFurther)))

/-- The tables with one of a case more. -/
def withCaseTable (tables : Tables) (name : String) : Tables :=
  { tables with caseTables := some ((tables.caseTables.getD .absent).withTable name) }

theorem executeAll_createCaseTables (names : List String) :
    (executeAll (names.map createCaseTable)).run.run
        (writing path dirty ⟨tables, lastKey, saved⟩) =
      (.ok (), writing path dirty ⟨names.foldl withCaseTable tables, lastKey, saved⟩) := by
  induction names generalizing tables with
  | nil =>
      rfl
  | cons name names inductionHypothesis =>
      have accepted : createCaseTable name tables = .ok (tables.withCaseTable name, none) := rfl
      rw [List.map_cons, executeAll_of_ok accepted]
      exact inductionHypothesis

/-- The script of a case creates the tables that were missing, and it goes through if no column is
missing that is to be indexed. -/
theorem exists_executeAll_createCase
    (path : Option String) (dirty : Bool) (tables : Tables) (lastKey : Int)
    (saved : Option Tables) :
    ∃ outcome,
      (executeAll createCase).run.run (writing path dirty ⟨tables, lastKey, saved⟩) =
          (outcome,
            writing path dirty
              ⟨{ tables with caseTables := some (CaseTables.created tables.caseTables) }, lastKey,
                saved⟩) ∧
        (outcome = .ok () ↔
          ∀ name ∈ CaseTables.needs,
            .column name.1 name.2 ∉ (tables.caseTables.getD .absent).gaps) := by
  have created :
      (executeAll (CaseTables.schema.map fun table => createCaseTable table.1)).run.run
          (writing path dirty ⟨tables, lastKey, saved⟩) =
        (.ok (),
          writing path dirty
            ⟨{ tables with caseTables := some (CaseTables.created tables.caseTables) }, lastKey,
              saved⟩) :=
    executeAll_createCaseTables (CaseTables.schema.map Prod.fst)
  have idle :
      ∀ statement ∈ CaseTables.indexes.map (createIndex CaseTables.gaps Tables.caseTables),
        Idle statement
          { tables with caseTables := some (CaseTables.created tables.caseTables) } := by
    rw [List.forall_mem_map]
    exact fun index _ => idle_createIndex _ _ index _
  obtain ⟨outcome, indexed, succeeds⟩ :=
    exists_executeAll_of_idle path dirty lastKey saved idle
  refine ⟨outcome, ?_, succeeds.trans ?_⟩
  · rw [createCase, executeAll_append, run_bind_of_ok created]
    exact indexed
  · rw [List.forall_mem_map, CaseTables.indexes_eq_needs]
    refine forall₂_congr fun index member => ?_
    have isName : ∀ index ∈ CaseTables.needs, index.1 ∈ CaseTables.names := by decide
    refine (createIndex_eq_ok_iff CaseTables.gaps Tables.caseTables index rfl).trans ?_
    rw [ColumnAccess.finds_selectFrom_single_iff, CaseTables.mem_gaps_created_iff,
      CaseTables.mem_gaps_created_iff]
    simp [isName index member]

theorem createCase_of_none (noCase : tables.caseTables = none) :
    Executes createCase tables { tables with caseTables := some CaseTables.empty } := by
  intro path dirty lastKey
  obtain ⟨outcome, executed, succeeds⟩ :=
    exists_executeAll_createCase path dirty tables lastKey none
  rw [noCase, CaseTables.created_none] at executed
  rw [noCase] at succeeds
  obtain rfl := succeeds.mpr (by decide)
  exact ⟨lastKey, executed⟩

/-- Preparing a case once more changes nothing. -/
theorem createCase_of_whole
    {caseTables : CaseTables} (isCase : tables.caseTables = some caseTables)
    (whole : caseTables.gaps = []) :
    Executes createCase tables tables := by
  intro path dirty lastKey
  obtain ⟨outcome, executed, succeeds⟩ :=
    exists_executeAll_createCase path dirty tables lastKey none
  rw [isCase, CaseTables.created_of_whole whole, ← isCase] at executed
  rw [isCase, Option.getD_some, whole] at succeeds
  obtain rfl := succeeds.mpr fun _ _ => List.not_mem_nil
  exact ⟨lastKey, executed⟩

end Tables

/-! ## The tables of a repository -/

namespace RepositoryTables

/-- The columns that the script names, each with its table. -/
def needs : List (String × String) :=
  (["id", "display_name", "db_table_name"].map fun column => ("correlation_types", column)) ++
    [("file_instances", "value")]

/-- The tables once there is one for types. -/
def begun (repositoryTables? : Option RepositoryTables) : RepositoryTables :=
  (repositoryTables?.getD absent).withTable "correlation_types"

/-- The tables once those that were missing are created and the type for files is known. -/
def created (repositoryTables? : Option RepositoryTables) : RepositoryTables :=
  (begun repositoryTables?).addFilesType.1.withTable "file_instances"

/-- The key of the type for files, if it was missing. -/
def createdKey? (repositoryTables? : Option RepositoryTables) : Option Int :=
  (begun repositoryTables?).addFilesType.2

theorem created_none : created none = empty := by
  decide

/-- The type for files is known, or it is added. -/
theorem addFilesType_cases (tables : RepositoryTables) :
    tables.addFilesType = (tables, none) ∨
      tables.addFilesType =
        ({ tables with types := CorrelationType.files :: tables.types }, some 0) := by
  rw [addFilesType]
  split
  · exact Or.inl rfl
  · exact Or.inr rfl

theorem gaps_addFilesType (tables : RepositoryTables) :
    tables.addFilesType.1.gaps = tables.gaps := by
  rcases tables.addFilesType_cases with isKnown | isNew
  · rw [isKnown]
  · rw [isNew]

theorem created_of_whole
    {tables : RepositoryTables} (whole : tables.gaps = [])
    (known : CorrelationType.files ∈ tables.types) :
    created (some tables) = tables ∧ createdKey? (some tables) = none := by
  have begunIs : begun (some tables) = tables := by
    obtain ⟨types, occurrences, used, gaps⟩ := tables
    obtain rfl := whole
    rfl
  have isKnown : (tables.types.any fun type => type.id.equals CorrelationType.files.id) = true :=
    List.any_eq_true.mpr ⟨_, known, by decide⟩
  have nothingAdded : tables.addFilesType = (tables, none) := by
    rw [addFilesType, if_pos isKnown]
  constructor
  · rw [created, begunIs, nothingAdded, withTable, whole, gapsWithTable_nil, ← whole]
  · rw [createdKey?, begunIs, nothingAdded]

theorem mem_gaps_begun_iff {repositoryTables? : Option RepositoryTables} {gap : SchemaGap} :
    gap ∈ (begun repositoryTables?).gaps ↔
      gap ∈ (repositoryTables?.getD absent).gaps ∧ gap ≠ .table "correlation_types" :=
  mem_gapsWithTable_iff

theorem mem_gaps_created_iff {repositoryTables? : Option RepositoryTables} {gap : SchemaGap} :
    gap ∈ (created repositoryTables?).gaps ↔
      gap ∈ (repositoryTables?.getD absent).gaps ∧ ∀ name ∈ names, gap ≠ .table name := by
  rw [created, withTable, mem_gapsWithTable_iff, gaps_addFilesType, mem_gaps_begun_iff, names,
    List.forall_mem_cons, List.forall_mem_singleton, and_assoc]

theorem finds_begun_iff {repositoryTables? : Option RepositoryTables} :
    (ColumnAccess.insertInto "correlation_types" ["id", "display_name", "db_table_name"]).Finds
        (begun repositoryTables?).gaps ↔
      ∀ column ∈ ["id", "display_name", "db_table_name"],
        .column "correlation_types" column ∉ (repositoryTables?.getD absent).gaps := by
  rw [ColumnAccess.Finds, ColumnAccess.insertInto, List.forall_mem_map]
  refine forall₂_congr fun column _ => ?_
  simp [mem_gaps_begun_iff]

theorem finds_created_iff {repositoryTables? : Option RepositoryTables} :
    (ColumnAccess.selectFrom "file_instances" ["value"]).Finds (created repositoryTables?).gaps ↔
      .column "file_instances" "value" ∉ (repositoryTables?.getD absent).gaps := by
  rw [ColumnAccess.finds_selectFrom_single_iff, mem_gaps_created_iff, mem_gaps_created_iff]
  simp [names]

end RepositoryTables

namespace Tables

variable {tables : Tables}

theorem insertFilesType_of_some
    {repositoryTables : RepositoryTables}
    (isRepository : tables.repositoryTables = some repositoryTables)
    (finds :
      (ColumnAccess.insertInto "correlation_types" ["id", "display_name", "db_table_name"]).Finds
        repositoryTables.gaps) :
    insertFilesType tables =
      .ok
        ({ tables with repositoryTables := some repositoryTables.addFilesType.1 },
          repositoryTables.addFilesType.2) := by
  rw [insertFilesType, requireRepository, isRepository, requireTables,
    ColumnAccess.check_eq_ok_iff.mpr finds]
  rfl

theorem exists_insertFilesType_eq_error
    {repositoryTables : RepositoryTables}
    (isRepository : tables.repositoryTables = some repositoryTables)
    (lacks :
      ¬ (ColumnAccess.insertInto "correlation_types" ["id", "display_name", "db_table_name"]).Finds
        repositoryTables.gaps) :
    ∃ error, insertFilesType tables = .error error := by
  obtain ⟨error, refused⟩ := ColumnAccess.exists_check_eq_error lacks
  refine ⟨error, ?_⟩
  rw [insertFilesType, requireRepository, isRepository, requireTables, refused]
  rfl

/-- The script of a repository creates tables that were missing, and it goes through if no column is
missing that it names. -/
theorem exists_executeAll_createRepository
    (path : Option String) (dirty : Bool) (tables : Tables) (lastKey : Int)
    (saved : Option Tables) :
    ∃ outcome after lastKeyAfter,
      (executeAll createRepository).run.run (writing path dirty ⟨tables, lastKey, saved⟩) =
          (outcome,
            writing path dirty
              ⟨{ tables with repositoryTables := some after }, lastKeyAfter, saved⟩) ∧
        (∀ gap ∈ after.gaps, gap ∈ (tables.repositoryTables.getD .absent).gaps) ∧
        (outcome = .ok () ↔
          ∀ name ∈ RepositoryTables.needs,
            .column name.1 name.2 ∉ (tables.repositoryTables.getD .absent).gaps) ∧
        (outcome = .ok () →
          after = .created tables.repositoryTables ∧
            lastKeyAfter =
              (RepositoryTables.createdKey? tables.repositoryTables).getD lastKey) := by
  have begins :
      createRepositoryTable "correlation_types" tables =
        .ok ({ tables with repositoryTables := some (.begun tables.repositoryTables) }, none) :=
    rfl
  have isBegun :
      ({ tables with repositoryTables := some (.begun tables.repositoryTables) } :
          Tables).repositoryTables =
        some (.begun tables.repositoryTables) :=
    rfl
  rw [createRepository, executeAll_of_ok begins, RepositoryTables.needs, List.forall_mem_append,
    List.forall_mem_map, ← RepositoryTables.finds_begun_iff, List.forall_mem_singleton,
    ← RepositoryTables.finds_created_iff]
  by_cases finds :
      (ColumnAccess.insertInto "correlation_types" ["id", "display_name", "db_table_name"]).Finds
        (RepositoryTables.begun tables.repositoryTables).gaps
  · have idle :
        ∀ statement ∈
            [createIndex RepositoryTables.gaps Tables.repositoryTables ("file_instances", "value")],
          Idle statement
            { tables with repositoryTables := some (.created tables.repositoryTables) } :=
      List.forall_mem_singleton.mpr (idle_createIndex _ _ _ _)
    obtain ⟨outcome, indexed, succeeds⟩ := exists_executeAll_of_idle path dirty _ saved idle
    rw [executeAll_of_ok (insertFilesType_of_some isBegun finds), executeAll_of_ok rfl]
    refine ⟨outcome, .created tables.repositoryTables, _, indexed, ?_, ?_, fun _ => ⟨rfl, rfl⟩⟩
    · exact fun gap isGap => (RepositoryTables.mem_gaps_created_iff.mp isGap).1
    · rw [succeeds, List.forall_mem_singleton, and_iff_right finds]
      exact
        createIndex_eq_ok_iff RepositoryTables.gaps Tables.repositoryTables
          ("file_instances", "value") rfl
  · obtain ⟨error, refused⟩ := exists_insertFilesType_eq_error isBegun finds
    refine
      ⟨.error error, .begun tables.repositoryTables, lastKey, executeAll_of_error refused, ?_,
        iff_of_false nofun fun needed => finds needed.1, nofun⟩
    exact fun gap isGap => (RepositoryTables.mem_gaps_begun_iff.mp isGap).1

theorem createRepository_of_none (noRepository : tables.repositoryTables = none) :
    Executes createRepository tables
      { tables with repositoryTables := some RepositoryTables.empty } := by
  intro path dirty lastKey
  obtain ⟨outcome, after, lastKeyAfter, executed, _, succeeds, completes⟩ :=
    exists_executeAll_createRepository path dirty tables lastKey none
  rw [noRepository] at succeeds completes
  obtain rfl := succeeds.mpr (by decide)
  obtain ⟨rfl, _⟩ := completes rfl
  rw [RepositoryTables.created_none] at executed
  exact ⟨lastKeyAfter, executed⟩

/-- Preparing a repository once more changes nothing. -/
theorem createRepository_of_whole
    {repositoryTables : RepositoryTables}
    (isRepository : tables.repositoryTables = some repositoryTables)
    (whole : repositoryTables.gaps = []) (known : CorrelationType.files ∈ repositoryTables.types) :
    Executes createRepository tables tables := by
  intro path dirty lastKey
  obtain ⟨outcome, after, lastKeyAfter, executed, _, succeeds, completes⟩ :=
    exists_executeAll_createRepository path dirty tables lastKey none
  rw [isRepository, Option.getD_some, whole] at succeeds
  obtain rfl := succeeds.mpr fun _ _ => List.not_mem_nil
  rw [isRepository] at completes
  obtain ⟨rfl, _⟩ := completes rfl
  rw [(RepositoryTables.created_of_whole whole known).1, ← isRepository] at executed
  exact ⟨lastKeyAfter, executed⟩

end Tables

/-! ## The two stores -/

/-- The stores that are written. -/
inductive StoreKind where
  | ofCase
  | ofRepository
  deriving DecidableEq

namespace StoreKind

def names : StoreKind → List String
  | .ofCase => CaseTables.names
  | .ofRepository => RepositoryTables.names

/-- The statements that create the tables of the store. -/
def script : StoreKind → List Statement
  | .ofCase => Tables.createCase
  | .ofRepository => Tables.createRepository

/-- What is missing of the tables of the store. -/
def gaps (tables : Tables) : StoreKind → List SchemaGap
  | .ofCase => (tables.caseTables.getD .absent).gaps
  | .ofRepository => (tables.repositoryTables.getD .absent).gaps

/-- The columns that the script names, each with its table. -/
def needs : StoreKind → List (String × String)
  | .ofCase => CaseTables.needs
  | .ofRepository => RepositoryTables.needs

/-- No table that was made elsewhere lacks a column that the script names. -/
def Fits (kind : StoreKind) (tables : Tables) : Prop :=
  ∀ name ∈ kind.needs, .column name.1 name.2 ∉ kind.gaps tables

instance (kind : StoreKind) (tables : Tables) : Decidable (kind.Fits tables) :=
  inferInstanceAs (Decidable (∀ name ∈ kind.needs, .column name.1 name.2 ∉ kind.gaps tables))

/-- The tables without those of the store. -/
def beside (tables : Tables) : StoreKind → Tables
  | .ofCase => { tables with caseTables := none }
  | .ofRepository => { tables with repositoryTables := none }

/-- The script of a store changes nothing but the tables of the store, it loses none of them, and it
goes through exactly if they fit. Then the store has its tables, and they still fit. -/
theorem exists_executeAll_script
    (kind : StoreKind) (path : Option String) (dirty : Bool) (tables : Tables) (lastKey : Int)
    (saved : Option Tables) :
    ∃ outcome tablesAfter lastKeyAfter,
      (executeAll kind.script).run.run (writing path dirty ⟨tables, lastKey, saved⟩) =
          (outcome, writing path dirty ⟨tablesAfter, lastKeyAfter, saved⟩) ∧
        (outcome = .ok () ↔ kind.Fits tables) ∧ kind.beside tablesAfter = kind.beside tables ∧
        tables.names ⊆ tablesAfter.names ∧
        (outcome = .ok () → kind.names ⊆ tablesAfter.names ∧ kind.Fits tablesAfter) := by
  cases kind with
  | ofCase =>
      obtain ⟨outcome, executed, succeeds⟩ :=
        Tables.exists_executeAll_createCase path dirty tables lastKey saved
      refine
        ⟨outcome, _, lastKey, executed, succeeds, rfl, ?_, fun succeeded => ⟨?_, ?_⟩⟩
      · exact
          Tables.names_subset_of_gaps rfl
            (fun _ isGap => (CaseTables.mem_gaps_created_iff.mp isGap).1) (fun _ isGap => isGap) rfl
      · refine Tables.caseNames_subset rfl fun name member isGap => ?_
        exact (CaseTables.mem_gaps_created_iff.mp isGap).2 name member rfl
      · intro name member isGap
        exact succeeds.mp succeeded name member (CaseTables.mem_gaps_created_iff.mp isGap).1
  | ofRepository =>
      obtain ⟨outcome, after, lastKeyAfter, executed, fewer, succeeds, completes⟩ :=
        Tables.exists_executeAll_createRepository path dirty tables lastKey saved
      refine
        ⟨outcome, _, lastKeyAfter, executed, succeeds, rfl,
          Tables.names_subset_of_gaps rfl (fun _ isGap => isGap) fewer rfl,
          fun succeeded => ⟨?_, ?_⟩⟩
      · obtain ⟨rfl, _⟩ := completes succeeded
        refine Tables.repositoryNames_subset rfl fun name member isGap => ?_
        exact (RepositoryTables.mem_gaps_created_iff.mp isGap).2 name member rfl
      · intro name member isGap
        exact succeeds.mp succeeded name member (fewer _ isGap)

end StoreKind

/-! ## Rows do not matter -/

/-- The same tables are there, and the same is missing. -/
structure SameSchema (before after : Tables) : Prop where
  keyValues : after.keyValues = before.keyValues
  ofCase : after.caseTables.map CaseTables.gaps = before.caseTables.map CaseTables.gaps
  ofRepository :
    after.repositoryTables.map RepositoryTables.gaps =
      before.repositoryTables.map RepositoryTables.gaps
  further : after.further = before.further

namespace SameSchema

variable {before after : Tables}

theorem refl (tables : Tables) : SameSchema tables tables :=
  ⟨rfl, rfl, rfl, rfl⟩

theorem withCase
    {tables : Tables} {caseTables caseAfter : CaseTables}
    (isCase : tables.caseTables = some caseTables) (sameGaps : caseAfter.gaps = caseTables.gaps) :
    SameSchema tables { tables with caseTables := some caseAfter } := by
  refine ⟨rfl, ?_, rfl, rfl⟩
  rw [isCase, Option.map_some, Option.map_some, sameGaps]

theorem withRepository
    {tables : Tables} {repositoryTables repositoryAfter : RepositoryTables}
    (isRepository : tables.repositoryTables = some repositoryTables)
    (sameGaps : repositoryAfter.gaps = repositoryTables.gaps) :
    SameSchema tables { tables with repositoryTables := some repositoryAfter } := by
  refine ⟨rfl, rfl, ?_, rfl⟩
  rw [isRepository, Option.map_some, Option.map_some, sameGaps]

theorem gaps (same : SameSchema before after) (kind : StoreKind) :
    kind.gaps after = kind.gaps before := by
  have caseGaps (tables : Tables) :
      (tables.caseTables.getD .absent).gaps =
        (tables.caseTables.map CaseTables.gaps).getD CaseTables.absent.gaps := by
    cases tables.caseTables <;> rfl
  have repositoryGaps (tables : Tables) :
      (tables.repositoryTables.getD .absent).gaps =
        (tables.repositoryTables.map RepositoryTables.gaps).getD RepositoryTables.absent.gaps := by
    cases tables.repositoryTables <;> rfl
  cases kind with
  | ofCase =>
      rw [StoreKind.gaps, StoreKind.gaps, caseGaps, caseGaps, same.ofCase]
  | ofRepository =>
      rw [StoreKind.gaps, StoreKind.gaps, repositoryGaps, repositoryGaps, same.ofRepository]

theorem fits (same : SameSchema before after) {kind : StoreKind} (fits : kind.Fits before) :
    kind.Fits after := by
  rw [StoreKind.Fits, same.gaps kind]
  exact fits

theorem names_subset (same : SameSchema before after) : before.names ⊆ after.names :=
  Tables.names_subset_of_gaps same.keyValues
    (fun gap => (congrArg (gap ∈ ·) (same.gaps .ofCase)).mp)
    (fun gap => (congrArg (gap ∈ ·) (same.gaps .ofRepository)).mp) same.further

end SameSchema
end EvidenceSearch
