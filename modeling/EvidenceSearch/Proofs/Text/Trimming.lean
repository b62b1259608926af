import EvidenceSearch.Text.Blank
import Mathlib.Data.List.DropRight

/-!
# Texts without the blanks around them

Trimming a text takes away the blanks that it starts and ends with, and nothing else. What is left
starts and ends with no blank, so that trimming it again changes nothing.
-/

namespace EvidenceSearch

variable {before word after characters : List Char}

/-- The word is what a text holds between the blanks around it. -/
structure Trims (characters word : List Char) : Prop where
  split :
    ∃ before after, characters = before ++ word ++ after ∧
      (∀ blank ∈ before, isBlank blank = true) ∧ ∀ blank ∈ after, isBlank blank = true
  starts : ∀ first ∈ word.head?, isBlank first = false
  ends : ∀ last ∈ word.getLast?, isBlank last = false

theorem dropWhile_eq_self_iff_starts :
    characters.dropWhile isBlank = characters ↔
      ∀ first ∈ characters.head?, isBlank first = false := by
  cases characters <;> simp

/-- Dropping at the end keeps a first character that is not dropped. -/
theorem dropWhile_rdropWhile
    {drops : Char → Bool} (started : characters.dropWhile drops = characters) :
    (characters.rdropWhile drops).dropWhile drops = characters.rdropWhile drops := by
  rw [List.dropWhile_eq_self_iff] at started ⊢
  intro filled
  have shorter := (List.rdropWhile_prefix drops characters).length_le
  have first : (characters.rdropWhile drops)[0] = characters[0] :=
    (List.rdropWhile_prefix drops characters).getElem filled
  rw [first]
  exact started (by omega)

theorem trimCharacters_eq (characters : List Char) :
    trimCharacters characters = (characters.dropWhile isBlank).rdropWhile isBlank :=
  rfl

theorem dropWhile_trimCharacters (characters : List Char) :
    (trimCharacters characters).dropWhile isBlank = trimCharacters characters :=
  dropWhile_rdropWhile (List.dropWhile_idempotent isBlank characters)

theorem trimCharacters_trimCharacters (characters : List Char) :
    trimCharacters (trimCharacters characters) = trimCharacters characters := by
  rw [trimCharacters_eq (trimCharacters characters), dropWhile_trimCharacters, trimCharacters_eq,
    List.rdropWhile_idempotent]

/-- A text that was trimmed has no blanks around it. -/
theorem trim_trim (text : String) : trim (trim text) = trim text := by
  rw [trim, trim, String.toList_ofList, trimCharacters_trimCharacters]

theorem exists_trimCharacters_split (characters : List Char) :
    ∃ before after, characters = before ++ trimCharacters characters ++ after ∧
      (∀ blank ∈ before, isBlank blank = true) ∧ ∀ blank ∈ after, isBlank blank = true := by
  have front := List.takeWhile_append_dropWhile (p := isBlank) (l := characters)
  have back :=
    List.takeWhile_append_dropWhile (p := isBlank) (l := (characters.dropWhile isBlank).reverse)
  refine ⟨characters.takeWhile isBlank,
    ((characters.dropWhile isBlank).reverse.takeWhile isBlank).reverse, ?_,
    fun blank member => List.mem_takeWhile_imp member, fun blank member => ?_⟩
  · rw [trimCharacters, List.append_assoc, ← List.reverse_append, back, List.reverse_reverse, front]
  · exact List.mem_takeWhile_imp (List.mem_reverse.mp member)

theorem trims_trimCharacters (characters : List Char) :
    Trims characters (trimCharacters characters) where
  split := exists_trimCharacters_split characters
  starts := dropWhile_eq_self_iff_starts.mp (dropWhile_trimCharacters characters)
  ends := by
    intro last isLast
    obtain ⟨filled, rfl⟩ := List.mem_getLast?_eq_getLast isLast
    rw [← Bool.not_eq_true]
    exact List.rdropWhile_last_not isBlank (characters.dropWhile isBlank) filled

/-- Trimming gives the one word that stands between the blanks. -/
theorem trimCharacters_of_trims (trims : Trims characters word) :
    trimCharacters characters = word := by
  obtain ⟨⟨before, after, rfl, blankBefore, blankAfter⟩, starts, ends⟩ := trims
  cases word with
  | nil =>
      have allBlank : ∀ blank ∈ before ++ [] ++ after, isBlank blank = true := by
        simpa [or_imp, forall_and] using ⟨blankBefore, blankAfter⟩
      rw [trimCharacters, List.dropWhile_eq_nil_iff.mpr allBlank]
      rfl
  | cons first word =>
      have blankReversed : ∀ blank ∈ after.reverse, isBlank blank = true := by
        simpa using blankAfter
      have startsWhole : (first :: word ++ after).dropWhile isBlank = first :: word ++ after :=
        dropWhile_eq_self_iff_starts.mpr starts
      have startsReversed :
          (first :: word).reverse.dropWhile isBlank = (first :: word).reverse := by
        rw [dropWhile_eq_self_iff_starts, List.head?_reverse]
        exact ends
      rw [trimCharacters, List.append_assoc, List.dropWhile_append_of_pos blankBefore, startsWhole,
        List.reverse_append, List.dropWhile_append_of_pos blankReversed, startsReversed,
        List.reverse_reverse]

theorem trim_eq_iff {text word : String} : trim text = word ↔ Trims text.toList word.toList := by
  constructor
  · rintro rfl
    rw [trim, String.toList_ofList]
    exact trims_trimCharacters text.toList
  · intro trims
    rw [trim, trimCharacters_of_trims trims, String.ofList_toList]

/-- A word without blanks is what trimming leaves of it, whatever blanks stand around it. -/
theorem trims_of_blanks
    (blankBefore : ∀ blank ∈ before, isBlank blank = true)
    (blankAfter : ∀ blank ∈ after, isBlank blank = true)
    (notBlank : ∀ character ∈ word, isBlank character = false) :
    Trims (before ++ word ++ after) word where
  split := ⟨before, after, rfl, blankBefore, blankAfter⟩
  starts := fun first isFirst => notBlank first (List.mem_of_mem_head? isFirst)
  ends := fun last isLast => notBlank last (List.mem_of_mem_getLast? isLast)

end EvidenceSearch
