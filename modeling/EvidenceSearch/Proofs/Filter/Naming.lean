import EvidenceSearch.Proofs.Filter.Conditions

/-!
# What clauses name

The question for files names all columns of the files that are shown, and then those that its
clause names. A clause of filters names further columns only if it asks for hits of keyword lists,
and which ones does not depend on the lists. So what is missing of a case is noticed whatever the
values of the filters are, and in whatever order they stand.
-/

namespace EvidenceSearch

open Sql (Condition Operand)

/-- Conditions that are joined name what each of them names. -/
theorem Sql.Condition.columns_foldl
    {join : Condition → Condition → Condition} {table : String}
    (joins : ∀ left right,
      (join left right).columns table = left.columns table ++ right.columns table)
    (first : Condition) (others : List Condition) :
    (others.foldl join first).columns table =
      first.columns table ++ others.flatMap (Condition.columns table) := by
  induction others generalizing first with
  | nil =>
      exact (List.append_nil _).symm
  | cons other others inductionHypothesis =>
      rw [List.foldl_cons, inductionHypothesis, joins, List.flatMap_cons, List.append_assoc]

theorem columns_membershipCondition (table column : String) (texts : List (List Char)) :
    (membershipCondition column texts).columns table = [(table, column)] := by
  have noColumns : (texts.map Operand.text).flatMap (Operand.columns table) = [] := by
    rw [List.flatMap_eq_nil_iff, List.forall_mem_map]
    exact fun _ _ => rfl
  rw [membershipCondition, Condition.columns, noColumns]
  rfl

namespace Filter

/-- The columns of the files that are shown. -/
def shownColumns : List (String × String) :=
  (CaseTables.fileColumns.map Sql.Column.name).map ("tsk_files", ·)

/-- The columns that a question for hits of keyword lists names. -/
def hitColumns : List (String × String) :=
  [("blackboard_artifacts", "obj_id"), ("blackboard_attributes", "artifact_id"),
    ("blackboard_attributes", "artifact_type_id"),
    ("blackboard_attributes", "attribute_type_id"), ("blackboard_attributes", "value_text"),
    ("blackboard_artifacts", "artifact_id"), ("tsk_files", "obj_id")]

/-- The filter asks for hits of keyword lists. -/
def asksHits : Filter → Bool
  | .keywordList _ => true
  | _ => false

/-- The question for files, with the columns of keyword hits or without them. -/
def accessWith (hits : Bool) : ColumnAccess :=
  { ColumnAccess.selectFrom "tsk_files" [] with
    columns := shownColumns ++ if hits then hitColumns else [] }

/-- The condition names only columns of the files that are shown. -/
def NamesShown (condition : Condition) : Prop :=
  condition.columns "tsk_files" ⊆ shownColumns

theorem namesShown_membershipCondition
    {column : String} (isShown : ("tsk_files", column) ∈ shownColumns)
    (texts : List (List Char)) :
    NamesShown (membershipCondition column texts) := by
  rw [NamesShown, columns_membershipCondition]
  exact List.cons_subset.mpr ⟨isShown, List.nil_subset _⟩

theorem namesShown_choices
    {Entry : Type} {write : Entry → Condition} (shown : ∀ entry, NamesShown (write entry))
    (choices : Choices Entry) :
    NamesShown (choices.condition write) := by
  rw [NamesShown, Choices.condition, Condition.columns_foldl fun _ _ => rfl, List.append_subset]
  refine ⟨shown choices.first, fun name member => ?_⟩
  obtain ⟨condition, isOther, isNamed⟩ := List.mem_flatMap.mp member
  obtain ⟨entry, _, rfl⟩ := List.mem_map.mp isOther
  exact shown entry isNamed

theorem namesShown_size (range : SizeRange) : NamesShown range.condition := by
  rw [SizeRange.condition]
  split
  · change [("tsk_files", "size")] ⊆ shownColumns
    decide
  · change [("tsk_files", "size"), ("tsk_files", "size")] ⊆ shownColumns
    decide

theorem namesShown_path (path : PathChoice) : NamesShown path.condition := by
  have isShown : [("tsk_files", "parent_path")] ⊆ shownColumns := by
    decide
  rw [PathChoice.condition]
  split <;> exact isShown

/-- A filter names the columns of keyword hits, or only columns of the files that are shown. -/
theorem columns_of_condition?
    {filter : Filter} {condition : Condition} (asks : filter.condition? = some condition) :
    filter.asksHits = true ∧ condition.columns "tsk_files" = hitColumns ∨
      filter.asksHits = false ∧ NamesShown condition := by
  cases filter with
  | keywordList lists =>
      obtain rfl := Option.some.inj asks
      refine Or.inl ⟨rfl, ?_⟩
      simp only [keywordCondition, listCondition, Condition.columns,
        columns_membershipCondition]
      rfl
  | size ranges =>
      obtain rfl := Option.some.inj asks
      exact Or.inr ⟨rfl, namesShown_choices namesShown_size ranges⟩
  | parent paths =>
      obtain rfl := Option.some.inj asks
      exact Or.inr ⟨rfl, namesShown_choices namesShown_path paths⟩
  | dataSource sources =>
      obtain rfl := Option.some.inj asks
      exact Or.inr ⟨rfl, namesShown_membershipCondition (by decide) _⟩
  | fileType types =>
      obtain rfl := Option.some.inj asks
      exact Or.inr ⟨rfl, namesShown_membershipCondition (by decide) _⟩
  | frequency wanted =>
      cases asks

/-- Among the columns that filters name, the first of a kind is one of keyword hits, if it is not
one of the files that are shown. -/
theorem find?_columns
    {isMissing : String × String → Bool} (noneShown : shownColumns.find? isMissing = none)
    (filters : List Filter) :
    ((filters.filterMap condition?).flatMap (Condition.columns "tsk_files")).find? isMissing =
      (if filters.any asksHits then hitColumns else []).find? isMissing := by
  induction filters with
  | nil =>
      rfl
  | cons filter filters inductionHypothesis =>
      cases asks : filter.condition? with
      | none =>
          have noHits : filter.asksHits = false := by
            cases filter with
            | frequency wanted => rfl
            | _ => cases asks
          rw [List.filterMap_cons_none asks, List.any_cons, noHits, Bool.false_or]
          exact inductionHypothesis
      | some condition =>
          rw [List.filterMap_cons_some asks, List.flatMap_cons, List.find?_append, List.any_cons]
          rw [inductionHypothesis]
          rcases columns_of_condition? asks with ⟨hits, isHits⟩ | ⟨noHits, shown⟩
          · rw [hits, isHits, Bool.true_or, if_pos rfl]
            split
            · exact Option.or_self
            · exact Option.or_none
          · have noneHere : (condition.columns "tsk_files").find? isMissing = none :=
              List.find?_eq_none.mpr fun name member =>
                List.find?_eq_none.mp noneShown name (shown member)
            rw [noHits, noneHere, Bool.false_or, Option.none_or]

/-- What is missing is noticed in the same way by all clauses that ask for keyword hits, and by all
that do not. -/
theorem check_fileAccess
    {filters : List Filter} {condition : Condition} (asks : conjunction? filters = some condition)
    (gaps : List SchemaGap) :
    (CaseTables.fileAccess condition).check gaps =
      (accessWith (filters.any asksHits)).check gaps := by
  have named :
      condition.columns "tsk_files" =
        (filters.filterMap condition?).flatMap (Condition.columns "tsk_files") := by
    rw [conjunction?] at asks
    split at asks
    · cases asks
    · rename_i first others written
      obtain rfl := Option.some.inj asks
      rw [written, Condition.columns_foldl fun _ _ => rfl, List.flatMap_cons]
  have sameFound (isMissing : String × String → Bool) :
      (CaseTables.fileAccess condition).columns.find? isMissing =
        (accessWith (filters.any asksHits)).columns.find? isMissing := by
    change (shownColumns ++ condition.columns "tsk_files").find? isMissing =
      (shownColumns ++ if filters.any asksHits then hitColumns else []).find? isMissing
    rw [List.find?_append, List.find?_append, named]
    cases shown : shownColumns.find? isMissing with
    | some name =>
        rfl
    | none =>
        rw [find?_columns shown]
  rw [ColumnAccess.check, ColumnAccess.check, sameFound, sameFound]
  rfl

end Filter
end EvidenceSearch
