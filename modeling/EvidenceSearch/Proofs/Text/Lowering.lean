import EvidenceSearch.Text.CaseMapping
import Mathlib

/-!
# Hexadecimal digits in lower case

Lower case may replace a character by several, and a capital sigma by one of two, depending on
what stands around it. Yet the hexadecimal digits of a lowered text are those of the text, in order
and in lower case: every other character is replaced by characters that are no such digits.
-/

namespace EvidenceSearch

/-! ## ASCII letters -/

theorem isUpper_iff {character : Char} :
    character.isUpper = true ↔ 65 ≤ character.toNat ∧ character.toNat ≤ 90 := by
  simp only [Char.isUpper, decide_eq_true_eq, ge_iff_le, UInt32.le_iff_toNat_le]
  rfl

theorem toNat_toLower (character : Char) :
    character.toLower.toNat =
      if 65 ≤ character.toNat ∧ character.toNat ≤ 90 then character.toNat + 32
      else character.toNat := by
  by_cases upper : character.isUpper = true
  · have bounds := isUpper_iff.mp upper
    have valid : (character.toNat + 32).isValidChar := Or.inl (by omega)
    rw [Char.toLower_eq_of_isUpper upper, Char.toNat_ofNat, if_pos valid, if_pos bounds]
  · rw [Char.toLower_eq_of_not_isUpper upper, if_neg (mt isUpper_iff.mpr upper)]

theorem toLower_toLower (character : Char) : character.toLower.toLower = character.toLower := by
  rw [← Char.toNat_inj, toNat_toLower, toNat_toLower]
  split_ifs <;> omega

/-! ## Hexadecimal digits -/

/-- The hexadecimal digits, the letters in both cases. -/
def hexDigits : List Char :=
  ['0', '1', '2', '3', '4', '5', '6', '7', '8', '9', 'a', 'b', 'c', 'd', 'e', 'f', 'A', 'B', 'C',
    'D', 'E', 'F']

theorem mem_hexDigits_iff {character : Char} :
    character ∈ hexDigits ↔
      48 ≤ character.toNat ∧ character.toNat ≤ 57 ∨ 65 ≤ character.toNat ∧ character.toNat ≤ 70 ∨
        97 ≤ character.toNat ∧ character.toNat ≤ 102 := by
  constructor
  · have each :
        ∀ digit ∈ hexDigits,
          48 ≤ digit.toNat ∧ digit.toNat ≤ 57 ∨ 65 ≤ digit.toNat ∧ digit.toNat ≤ 70 ∨
            97 ≤ digit.toNat ∧ digit.toNat ≤ 102 := by
      simp [hexDigits]
    exact each character
  · have each :
        ∀ code < 103, 48 ≤ code ∧ code ≤ 57 ∨ 65 ≤ code ∧ code ≤ 70 ∨ 97 ≤ code ∧ code ≤ 102 →
          Char.ofNat code ∈ hexDigits := by
      decide +kernel
    intro bounds
    have isDigit := each character.toNat (by omega) bounds
    rwa [Char.ofNat_toNat] at isDigit

theorem toLower_mem_hexDigits_iff {character : Char} :
    character.toLower ∈ hexDigits ↔ character ∈ hexDigits := by
  rw [mem_hexDigits_iff, mem_hexDigits_iff, toNat_toLower]
  split_ifs <;> omega

theorem ofNat_not_mem_hexDigits {code : Nat} (far : 102 < code) : Char.ofNat code ∉ hexDigits := by
  rw [mem_hexDigits_iff, Char.toNat_ofNat]
  split_ifs <;> omega

/-! ## Characters beyond ASCII -/

/-- No run of the table leads to a digit: the nearest that it comes is the letter k. -/
theorem lowerRuns_far : ∀ run ∈ lowerRuns, 102 < run.first + run.distance := by
  decide +kernel

theorem lowerSequences_far :
    ∀ entry ∈ lowerSequences, entry.2 ≠ [] ∧ ∀ code ∈ entry.2, 102 < code := by
  decide +kernel

theorem moveByRuns_far {code : Nat} (beyond : 128 ≤ code) : 102 < moveByRuns lowerRuns code := by
  rw [moveByRuns]
  split
  · rename_i run found
    have far := lowerRuns_far run (List.mem_of_find?_eq_some found)
    have holds := List.find?_some found
    simp only [CaseRun.holds, Bool.and_eq_true, decide_eq_true_eq] at holds
    omega
  · omega

theorem mapCharacter_far {character : Char} (beyond : 128 ≤ character.toNat) :
    mapCharacter lowerSequences lowerRuns character ≠ [] ∧
      ∀ lowered ∈ mapCharacter lowerSequences lowerRuns character, lowered ∉ hexDigits := by
  rw [mapCharacter]
  split
  · rename_i codes found
    obtain ⟨front, back, isEntry, _⟩ := List.lookup_eq_some_iff.mp found
    have member : (character.toNat, codes) ∈ lowerSequences := by
      rw [isEntry]
      simp
    obtain ⟨filled, far⟩ := lowerSequences_far _ member
    refine ⟨mt List.map_eq_nil_iff.mp filled, fun lowered isLowered => ?_⟩
    obtain ⟨code, isCode, rfl⟩ := List.mem_map.mp isLowered
    exact ofNat_not_mem_hexDigits (far code isCode)
  · refine ⟨List.cons_ne_nil _ _, fun lowered isLowered => ?_⟩
    rw [List.mem_singleton.mp isLowered]
    exact ofNat_not_mem_hexDigits (moveByRuns_far beyond)

/-! ## Lowering a text -/

/-- What replaces a character in the lower case of a text, given what stands around it. -/
def lowerImage (before : List Char) (character : Char) (rest : List Char) : List Char :=
  if character = 'Σ' && startsCased before && !startsCased rest then ['ς']
  else lowerCharacter character

@[simp]
theorem lowerAfter_cons (before : List Char) (character : Char) (rest : List Char) :
    lowerAfter before (character :: rest) =
      lowerImage before character rest ++ lowerAfter (character :: before) rest :=
  rfl

theorem lowerImage_of_ascii
    (before : List Char) {character : Char} (rest : List Char) (ascii : character.toNat < 128) :
    lowerImage before character rest = [character.toLower] := by
  have notSigma : character ≠ 'Σ' := by
    rintro rfl
    exact absurd ascii (by decide)
  simp [lowerImage, notSigma, lowerCharacter, ascii]

/-- The characters of an ASCII text go to lower case one by one. -/
theorem lowerAfter_of_ascii
    (before : List Char) {characters : List Char}
    (ascii : ∀ character ∈ characters, character.toNat < 128) :
    lowerAfter before characters = characters.map Char.toLower := by
  induction characters generalizing before with
  | nil =>
      rfl
  | cons character rest inductionHypothesis =>
      obtain ⟨first, others⟩ := List.forall_mem_cons.mp ascii
      rw [lowerAfter_cons, lowerImage_of_ascii before rest first,
        inductionHypothesis _ others]
      rfl

/-- A character beyond ASCII is replaced by something, and by no hexadecimal digit. -/
theorem lowerImage_of_beyond
    (before : List Char) {character : Char} (rest : List Char) (beyond : 128 ≤ character.toNat) :
    lowerImage before character rest ≠ [] ∧
      ∀ lowered ∈ lowerImage before character rest, lowered ∉ hexDigits := by
  have notAscii : ¬ character.toNat < 128 := Nat.not_lt.mpr beyond
  rw [lowerImage]
  split
  · simp [hexDigits]
  · rw [lowerCharacter, if_neg notAscii]
    exact mapCharacter_far beyond

/-- The hexadecimal digits of a lowered text are those of the text, each in lower case. -/
theorem filter_lowerAfter (before characters : List Char) :
    (lowerAfter before characters).filter (fun character => character ∈ hexDigits) =
      (characters.filter fun character => character ∈ hexDigits).map Char.toLower := by
  induction characters generalizing before with
  | nil =>
      rfl
  | cons character rest inductionHypothesis =>
      rw [lowerAfter_cons, List.filter_append, inductionHypothesis]
      rcases Nat.lt_or_ge character.toNat 128 with ascii | beyond
      · rw [lowerImage_of_ascii before rest ascii]
        by_cases isDigit : character ∈ hexDigits <;>
          simp [isDigit, toLower_mem_hexDigits_iff]
      · have noDigits := (lowerImage_of_beyond before rest beyond).2
        have notDigit : character ∉ hexDigits := by
          rw [mem_hexDigits_iff]
          omega
        have none :
            (lowerImage before character rest).filter (fun character => character ∈ hexDigits) =
              [] := by
          simpa [List.filter_eq_nil_iff] using noDigits
        simp [none, notDigit]

/-- Lower case leaves no character out. -/
theorem length_le_length_lowerAfter (before characters : List Char) :
    characters.length ≤ (lowerAfter before characters).length := by
  induction characters generalizing before with
  | nil =>
      exact Nat.zero_le _
  | cons character rest inductionHypothesis =>
      have filled : 0 < (lowerImage before character rest).length := by
        rcases Nat.lt_or_ge character.toNat 128 with ascii | beyond
        · rw [lowerImage_of_ascii before rest ascii]
          exact Nat.zero_lt_one
        · exact List.length_pos_iff.mpr (lowerImage_of_beyond before rest beyond).1
      have shorter := inductionHypothesis (character :: before)
      rw [lowerAfter_cons, List.length_cons, List.length_append]
      omega

/-- If nothing but hexadecimal digits is left in lower case, nothing else was there before: the
digits alone already make up the length. -/
theorem hexDigits_of_lowerAfter
    {before characters : List Char}
    (lowered : ∀ character ∈ lowerAfter before characters, character ∈ hexDigits) :
    (∀ character ∈ characters, character ∈ hexDigits) ∧
      lowerAfter before characters = characters.map Char.toLower := by
  have kept :
      (lowerAfter before characters).filter (fun character => character ∈ hexDigits) =
        lowerAfter before characters :=
    List.filter_eq_self.mpr fun character member => decide_eq_true (lowered character member)
  have digits := (filter_lowerAfter before characters).symm.trans kept
  have whole :
      (characters.filter fun character => character ∈ hexDigits).length = characters.length := by
    apply Nat.le_antisymm (List.length_filter_le _ _)
    calc
      characters.length ≤ (lowerAfter before characters).length :=
        length_le_length_lowerAfter before characters
      _ = (characters.filter fun character => character ∈ hexDigits).length := by
        rw [← digits, List.length_map]
  have all := List.length_filter_eq_length_iff.mp whole
  rw [List.filter_eq_self.mpr all] at digits
  exact ⟨fun character member => of_decide_eq_true (all character member), digits.symm⟩

end EvidenceSearch
