import EvidenceSearch.Proofs.Search.SizeRanges

/-!
# Named size ranges

The bounded ones among the named size ranges adjoin each other: where one begins, the next one ends.
Together with the open one they hold every size once, but for two. The lower bound of a bounded
range does not belong to it, so no file without bytes is found; that of the open range does, and
the range below ends there.
-/

namespace EvidenceSearch

open Sql CaseTables

/-! ## Sizes in a range -/

namespace SizeRange

/-- Whether so many bytes lie in the range. -/
def contains (range : SizeRange) (size : Nat) : Bool :=
  match range.high with
  | none => range.low ≤ size
  | some high => range.low < size && size ≤ high

theorem covers_iff_contains (range : SizeRange) (size : Nat) :
    range.Covers (.finite (size : Int)) ↔ range.contains size = true := by
  rw [Covers, contains]
  cases range.high with
  | none =>
      simp [Number.atMost, Number.below, Number.equals, Nat.le_iff_lt_or_eq]
  | some high =>
      simp [Number.atMost, Number.below, Number.equals, Nat.le_iff_lt_or_eq]

theorem contains_bounded
    {range : SizeRange} {high : Nat} (bounded : range.high = some high) (size : Nat) :
    range.contains size = true ↔ range.low < size ∧ size ≤ high := by
  rw [contains, bounded]
  simp

end SizeRange

/-! ## Ranges that adjoin each other -/

namespace SizePreset

/-- The first range ends at the given size, and each other one where the one before it begins. -/
def Adjoin (high : Nat) : List SizePreset → Prop
  | [] => True
  | preset :: presets => preset.range.high = some high ∧ Adjoin preset.range.low presets

/-- Where the last of the ranges begins, the first of which ends at the given size. -/
def lowest (high : Nat) : List SizePreset → Nat
  | [] => high
  | preset :: presets => lowest preset.range.low presets

/-- The named ranges that hold a size. -/
def around (presets : List SizePreset) (size : Nat) : List SizePreset :=
  presets.filter fun preset => preset.range.contains size

section Adjoin

variable {high size : Nat} {preset : SizePreset} {presets : List SizePreset}

theorem around_cons_of_contains (holds : preset.range.contains size = true) :
    around (preset :: presets) size = preset :: around presets size :=
  List.filter_cons_of_pos holds

theorem around_cons_of_not (outside : ¬ preset.range.contains size = true) :
    around (preset :: presets) size = around presets size :=
  List.filter_cons_of_neg outside

theorem around_eq_nil_of_lt (adjoin : Adjoin high presets) (above : high < size) :
    around presets size = [] := by
  induction presets generalizing high with
  | nil =>
      rfl
  | cons preset presets inductionHypothesis =>
      obtain ⟨bounded, adjoinLower⟩ := adjoin
      have ordered : preset.range.low < high := preset.range.ordered high bounded
      have outside : ¬ preset.range.contains size = true := by
        rw [SizeRange.contains_bounded bounded]
        omega
      rw [around_cons_of_not outside]
      exact inductionHypothesis adjoinLower (ordered.trans above)

/-- Ranges that adjoin each other hold each size between their ends once. -/
theorem exists_around_eq
    (adjoin : Adjoin high presets) (above : lowest high presets < size) (atMost : size ≤ high) :
    ∃ preset, around presets size = [preset] := by
  -- from the highest range down; `high` is where the ranges that are left end
  induction presets generalizing high with
  | nil =>
      exact absurd atMost (Nat.not_le_of_lt above)
  | cons preset presets inductionHypothesis =>
      obtain ⟨bounded, adjoinLower⟩ := adjoin
      rcases Nat.lt_or_ge preset.range.low size with inside | lower
      · have holds : preset.range.contains size = true :=
          (SizeRange.contains_bounded bounded size).mpr ⟨inside, atMost⟩
        refine ⟨preset, ?_⟩
        rw [around_cons_of_contains holds, around_eq_nil_of_lt adjoinLower inside]
      · have outside : ¬ preset.range.contains size = true := by
          rw [SizeRange.contains_bounded bounded]
          omega
        rw [around_cons_of_not outside]
        exact inductionHypothesis adjoinLower above lower

end Adjoin

theorem adjoin_tail_all : Adjoin (10 * gigabyte) all.tail :=
  ⟨rfl, rfl, rfl, rfl, rfl, trivial⟩

/-- One named range holds a size, unless there are no bytes or as many as where the open range
begins. -/
theorem exists_around_all_eq
    {size : Nat} (filled : size ≠ 0) (noBoundary : size ≠ 10 * gigabyte) :
    ∃ preset, around all size = [preset] := by
  obtain ⟨largest, listed, isLow, isOpen⟩ :
      ∃ largest,
        all = largest :: all.tail ∧ largest.range.low = 10 * gigabyte ∧
          largest.range.high = none :=
    ⟨_, rfl, rfl, rfl⟩
  have holds : largest.range.contains size = true ↔ 10 * gigabyte ≤ size := by
    rw [SizeRange.contains, isOpen, isLow]
    exact decide_eq_true_iff
  rw [listed]
  rcases Nat.lt_or_gt_of_ne noBoundary with below | above
  · rw [around_cons_of_not (holds.not.mpr (Nat.not_le_of_lt below))]
    exact exists_around_eq adjoin_tail_all (Nat.pos_of_ne_zero filled) below.le
  · rw [around_cons_of_contains (holds.mpr above.le), around_eq_nil_of_lt adjoin_tail_all above]
    exact ⟨largest, rfl⟩

/-! ## The clauses of the named ranges -/

/-- What the clause of the filter that a named range makes says about a file. -/
def clauseOn (tables : CaseTables) (file : StoredFile) (preset : SizePreset) :
    Except Failure (Except ClauseError (Option Bool)) := do
  let filter ← Filter.ofSizes [preset.range.bounds]
  return do
    let condition ← Condition.ofClause filter.clause.toList
    let test ← condition.bind tables.database ⟨fileColumns, []⟩
    test.evaluate (fileRow file)

/-- The named ranges whose clauses are true of a file. -/
def trueOn (tables : CaseTables) (file : StoredFile) : List SizePreset :=
  all.filter fun preset => decide (preset.clauseOn tables file = .ok (.ok (some true)))

theorem checkSize_bounds {preset : SizePreset} (member : preset ∈ all) :
    Filter.checkSize preset.range.bounds = .ok preset.range := by
  simp only [all, List.mem_cons, List.not_mem_nil, or_false] at member
  rcases member with rfl | rfl | rfl | rfl | rfl | rfl <;> decide +kernel

theorem ofSizes_bounds {preset : SizePreset} (member : preset ∈ all) :
    Filter.ofSizes [preset.range.bounds] = .ok (.size ⟨preset.range, []⟩) := by
  rw [Filter.ofSizes, List.mapM_cons, checkSize_bounds member]
  rfl

/-- The clause of a named range is read and evaluated, and is true of the files of a size in the
range. -/
theorem exists_clauseOn
    {preset : SizePreset} (member : preset ∈ all) (tables : CaseTables) (file : StoredFile) :
    ∃ truth,
      preset.clauseOn tables file = .ok (.ok truth) ∧
        (truth = some true ↔ preset.range.Covers file.size) := by
  obtain ⟨test, truth, bound, tested, isTrue⟩ := SizeRange.decides tables file preset.range
  have shallow : preset.range.condition.depth ≤ depthLimit :=
    preset.range.depth_condition_le.trans (by decide)
  have read :
      Condition.ofClause (Filter.size ⟨preset.range, []⟩).clause.toList =
        .ok preset.range.condition := by
    rw [Filter.ofClause_sizes]
    exact if_pos shallow
  refine ⟨truth, ?_, isTrue⟩
  rw [clauseOn, ofSizes_bounds member]
  simp [read, bound, tested]

theorem trueOn_eq_around (tables : CaseTables) (file : StoredFile) (size : Nat) :
    trueOn tables { file with size := .finite (size : Int) } = around all size := by
  refine List.filter_congr fun preset member => ?_
  obtain ⟨truth, evaluated, isTrue⟩ :=
    exists_clauseOn member tables { file with size := .finite (size : Int) }
  rw [evaluated, Bool.eq_iff_iff, decide_eq_true_iff, Except.ok.injEq, Except.ok.injEq, isTrue]
  exact preset.range.covers_iff_contains size

end SizePreset

open SizePreset in
/-- Each clause of a named range is true of the files of a size in the range. Every size makes
exactly one of them true, but for two: no clause is true of a file without bytes, and two are true
of one as large as the lower bound of the open range. -/
theorem sizePresets_hold_once (tables : CaseTables) (file : StoredFile) (size : Nat) :
    (∀ preset ∈ SizePreset.all, ∃ truth,
      preset.clauseOn tables { file with size := .finite (size : Int) } = .ok (.ok truth) ∧
        (truth = some true ↔ preset.range.Covers (.finite (size : Int)))) ∧
    (size = 0 → trueOn tables { file with size := .finite (size : Int) } = []) ∧
    (size = 10 * gigabyte →
      (trueOn tables { file with size := .finite (size : Int) }).map SizePreset.name =
        ["XXLARGE", "XLARGE"]) ∧
    (size ≠ 0 → size ≠ 10 * gigabyte →
      ∃ preset, trueOn tables { file with size := .finite (size : Int) } = [preset]) := by
  rw [trueOn_eq_around]
  refine ⟨fun preset member => exists_clauseOn member tables _, ?_, ?_, exists_around_all_eq⟩
  · rintro rfl
    decide +kernel
  · rintro rfl
    decide +kernel

/-- No clause is true of a file without bytes, and two are true of one of ten gigabytes. -/
theorem sizePresets_miss_and_share_sizes :
    SizePreset.trueOn CaseTables.empty (sizedFile (.finite 0)) = [] ∧
      (SizePreset.trueOn CaseTables.empty (sizedFile (.finite 10737418240))).map
          SizePreset.name =
        ["XXLARGE", "XLARGE"] := by
  decide +kernel

end EvidenceSearch
