import EvidenceSearch.Filter.Clause
import EvidenceSearch.Sql.Pattern
import Mathlib

/-!
# Matching a text anywhere

The pattern of a substring search matches exactly where the text occurs, the letters from A to Z
compared without their case. No character of the text keeps a meaning of its own in the pattern.
-/

namespace EvidenceSearch.Sql

/-- The text occurs somewhere in the content, the letters from A to Z in either case. -/
def OccursIn (text content : List Char) : Prop :=
  text.map foldLetter <:+: content.map foldLetter

theorem readPattern_escaped
    (escape character : Char) (rest : List Char) :
    readPattern escape (escape :: character :: rest) =
      (readPattern escape rest).map fun parts => .exactly character :: parts := by
  rw [readPattern.eq_def]
  simp

theorem readPattern_anything
    {escape : Char} (notEscape : '%' ≠ escape) (rest : List Char) :
    readPattern escape ('%' :: rest) =
      (readPattern escape rest).map fun parts => .anything :: parts := by
  rw [readPattern.eq_def]
  simp [notEscape]

theorem readPattern_anyOne
    {escape : Char} (notEscape : '_' ≠ escape) (rest : List Char) :
    readPattern escape ('_' :: rest) =
      (readPattern escape rest).map fun parts => .anyOne :: parts := by
  rw [readPattern.eq_def]
  simp [notEscape]

theorem readPattern_plain
    {escape character : Char} (notEscape : character ≠ escape)
    (notPercent : character ≠ '%') (notUnderscore : character ≠ '_') (rest : List Char) :
    readPattern escape (character :: rest) =
      (readPattern escape rest).map fun parts => .exactly character :: parts := by
  rw [readPattern.eq_def]
  simp [notEscape, notPercent, notUnderscore]

theorem readPattern_escapePattern
    (text rest : List Char) :
    readPattern '\\' (escapePattern text ++ rest) =
      (readPattern '\\' rest).map fun parts => text.map .exactly ++ parts := by
  induction text with
  | nil =>
      simp [escapePattern]
  | cons character text inductionHypothesis =>
      by_cases special : character = '\\' ∨ character = '%' ∨ character = '_'
      · have escaped :
            escapePattern (character :: text) = '\\' :: character :: escapePattern text := by
          rcases special with rfl | rfl | rfl <;> simp [escapePattern]
        rw [escaped, List.cons_append, List.cons_append, readPattern_escaped,
          inductionHypothesis, Option.map_map]
        rfl
      · simp only [not_or] at special
        obtain ⟨notEscape, notPercent, notUnderscore⟩ := special
        have kept : escapePattern (character :: text) = character :: escapePattern text := by
          simp [escapePattern, notEscape, notPercent, notUnderscore]
        rw [kept, List.cons_append, readPattern_plain notEscape notPercent notUnderscore,
          inductionHypothesis, Option.map_map]
        rfl

theorem mem_escapePattern_iff
    {character : Char} (notEscape : character ≠ '\\') (text : List Char) :
    character ∈ escapePattern text ↔ character ∈ text := by
  induction text with
  | nil =>
      simp [escapePattern]
  | cons first text inductionHypothesis =>
      rw [escapePattern]
      split <;> simp [inductionHypothesis, notEscape]

theorem mem_substringPattern_iff
    {character : Char} (notEscape : character ≠ '\\') (notPercent : character ≠ '%')
    {text : String} :
    character ∈ substringPattern text ↔ character ∈ text.toList := by
  simp [substringPattern, mem_escapePattern_iff notEscape, notPercent]

theorem partsMatch_exactly_anything
    (text content : List Char) :
    partsMatch (text.map .exactly ++ [.anything]) content ↔
      text.map foldLetter <+: content.map foldLetter := by
  induction text generalizing content with
  | nil =>
      simp [partsMatch]
  | cons character text inductionHypothesis =>
      cases content with
      | nil =>
          simp [partsMatch]
      | cons first content =>
          have rest := inductionHypothesis content
          simp only [List.map_cons, List.cons_append, partsMatch, Bool.and_eq_true,
            decide_eq_true_eq, List.cons_prefix_cons, rest]
          constructor
          · rintro ⟨same, follows⟩
            exact ⟨same.symm, follows⟩
          · rintro ⟨same, follows⟩
            exact ⟨same.symm, follows⟩

theorem someEnd_iff
    (test : List Char → Bool) (content : List Char) :
    someEnd test content ↔ ∃ final, final <:+ content ∧ test final := by
  induction content with
  | nil =>
      simp [someEnd, List.suffix_nil]
  | cons first content inductionHypothesis =>
      simp only [someEnd, Bool.or_eq_true, inductionHypothesis, List.suffix_cons_iff]
      constructor
      · rintro (passes | ⟨final, isEnd, passes⟩)
        · exact ⟨first :: content, Or.inl rfl, passes⟩
        · exact ⟨final, Or.inr isEnd, passes⟩
      · rintro ⟨final, rfl | isEnd, passes⟩
        · exact Or.inl passes
        · exact Or.inr ⟨final, isEnd, passes⟩

theorem occursIn_iff_exists_suffix
    (text content : List Char) :
    OccursIn text content ↔
      ∃ final, final <:+ content ∧ text.map foldLetter <+: final.map foldLetter := by
  rw [OccursIn, List.infix_iff_prefix_suffix]
  constructor
  · rintro ⟨folded, isPrefix, before, split⟩
    obtain ⟨first, final, rfl, _, rfl⟩ := List.map_eq_append_iff.mp split.symm
    exact ⟨final, List.suffix_append first final, isPrefix⟩
  · rintro ⟨final, ⟨first, rfl⟩, isPrefix⟩
    refine ⟨final.map foldLetter, isPrefix, ?_⟩
    rw [List.map_append]
    exact List.suffix_append _ _

/-- Every character of a text stands for itself in its pattern. -/
theorem readPattern_substringPattern (text : String) :
    readPattern '\\' (substringPattern text) =
      some (.anything :: (text.toList.map .exactly ++ [.anything])) := by
  have notEscape : '%' ≠ '\\' := by decide
  rw [substringPattern, readPattern_anything notEscape, readPattern_escapePattern,
    readPattern_anything notEscape]
  rfl

/-- The pattern of a text matches exactly the contents in which the text occurs. -/
theorem patternMatches_substringPattern
    (text : String) (content : List Char) :
    patternMatches '\\' (substringPattern text) content ↔ OccursIn text.toList content := by
  have anywhere :
      partsMatch (.anything :: (text.toList.map .exactly ++ [.anything])) content =
        someEnd (partsMatch (text.toList.map .exactly ++ [.anything])) content := by
    rw [partsMatch]
    simp
  rw [patternMatches, readPattern_substringPattern]
  simp only [anywhere, someEnd_iff, partsMatch_exactly_anything, occursIn_iff_exists_suffix]

end EvidenceSearch.Sql
