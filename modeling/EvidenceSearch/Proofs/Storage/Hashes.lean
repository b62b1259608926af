import EvidenceSearch.Proofs.Steps
import EvidenceSearch.Proofs.Text.Lowering
import EvidenceSearch.Proofs.Text.Trimming
import EvidenceSearch.Storage.Hash

/-!
# How a hash is spelled

A text is kept as a hash exactly if thirty-two hexadecimal digits stand between the blanks around
it. The digits are ASCII characters and no blanks, so the blanks are all that trimming takes away
and each digit goes to lower case by itself: every spelling of a hash is kept in the same form. No
other character turns into a digit in lower case, so nothing else is taken for a hash.
-/

namespace EvidenceSearch

/-- The text has the digits of the hash, in upper or lower case, with any blanks around them. -/
def Spells (text hash : String) : Prop :=
  ∃ before digits after : List Char,
    text.toList = before ++ digits ++ after ∧ (∀ blank ∈ before, isBlank blank = true) ∧
      (∀ blank ∈ after, isBlank blank = true) ∧ digits.map Char.toLower = hash.toList

/-- The text is thirty-two hexadecimal digits. -/
def IsHash (text : String) : Prop :=
  text.length = 32 ∧ ∀ digit ∈ text.toList, digit ∈ hexDigits

variable {text hash : String} {digit : Char}

/-! ## Digits -/

/-- The digits of a hash that is kept are those that lower case leaves alone. -/
theorem isHashDigit_iff : isHashDigit digit = true ↔ digit ∈ hexDigits ∧ digit.toLower = digit := by
  have bounds :
      isHashDigit digit = true ↔
        48 ≤ digit.toNat ∧ digit.toNat ≤ 57 ∨ 97 ≤ digit.toNat ∧ digit.toNat ≤ 102 := by
    simp only [isHashDigit, Char.isDigit, Bool.or_eq_true, Bool.and_eq_true, decide_eq_true_eq,
      ge_iff_le, UInt32.le_iff_toNat_le, Char.le_def]
    rfl
  rw [bounds, mem_hexDigits_iff, ← Char.toNat_inj, toNat_toLower]
  split_ifs <;> omega

theorem isBlank_of_mem_hexDigits (isDigit : digit ∈ hexDigits) : isBlank digit = false := by
  have bounds := mem_hexDigits_iff.mp isDigit
  simp only [isBlank, Bool.or_eq_false_iff, Bool.and_eq_false_iff, decide_eq_false_iff_not,
    beq_eq_false_iff_ne]
  omega

theorem IsHash.lowerCase_eq (isHash : IsHash text) :
    lowerCase text = String.ofList (text.toList.map Char.toLower) := by
  have ascii : ∀ digit ∈ text.toList, digit.toNat < 128 := by
    intro digit member
    have bounds := mem_hexDigits_iff.mp (isHash.2 digit member)
    omega
  rw [lowerCase, lowerAfter_of_ascii [] ascii]

/-! ## Texts that are kept -/

theorem normalizeHash_eq_ok_iff :
    normalizeHash text = .ok hash ↔
      lowerCase (trim text) = hash ∧ hash.length = hashLength ∧
        ∀ digit ∈ hash.toList, isHashDigit digit = true := by
  rw [normalizeHash]
  simp only [Bool.and_eq_true, decide_eq_true_eq, List.all_eq_true]
  constructor
  · intro normal
    split at normal
    · rename_i isHash
      obtain rfl := Except.ok.inj normal
      exact ⟨rfl, isHash⟩
    · cases normal
  · rintro ⟨rfl, isHash⟩
    rw [if_pos isHash]

theorem eq_malformedHash {error : StorageError} (malformed : normalizeHash text = .error error) :
    error = .malformedHash text := by
  rw [normalizeHash] at malformed
  split at malformed
  · cases malformed
  · exact (Except.error.inj malformed).symm

/-- A text is kept exactly if it is a hash without the blanks around it, and its digits are kept in
lower case. -/
theorem normalizeHash_eq_ok_iff_isHash :
    normalizeHash text = .ok hash ↔
      IsHash (trim text) ∧ hash = String.ofList ((trim text).toList.map Char.toLower) := by
  rw [normalizeHash_eq_ok_iff]
  constructor
  · rintro ⟨rfl, isLength, digits⟩
    rw [lowerCase, String.toList_ofList] at digits
    obtain ⟨allDigits, lowered⟩ :=
      hexDigits_of_lowerAfter fun digit member => (isHashDigit_iff.mp (digits digit member)).1
    rw [lowerCase, lowered, String.length_ofList, List.length_map, String.length_toList,
      hashLength] at isLength
    exact ⟨⟨isLength, allDigits⟩, congrArg String.ofList lowered⟩
  · rintro ⟨isHash, rfl⟩
    refine ⟨isHash.lowerCase_eq, ?_, ?_⟩
    · rw [String.length_ofList, List.length_map, String.length_toList, isHash.1, hashLength]
    · intro digit member
      rw [String.toList_ofList] at member
      obtain ⟨given, isGiven, rfl⟩ := List.mem_map.mp member
      exact
        isHashDigit_iff.mpr
          ⟨toLower_mem_hexDigits_iff.mpr (isHash.2 given isGiven), toLower_toLower given⟩

/-- Every other text is refused. -/
theorem normalizeHash_eq_error_iff {error : StorageError} :
    normalizeHash text = .error error ↔
      ¬ IsHash (trim text) ∧ error = .malformedHash text := by
  cases normal : normalizeHash text with
  | ok hash =>
      have isHash := (normalizeHash_eq_ok_iff_isHash.mp normal).1
      simp [isHash]
  | error found =>
      have notHash : ¬ IsHash (trim text) := by
        intro isHash
        have kept := normalizeHash_eq_ok_iff_isHash.mpr ⟨isHash, rfl⟩
        rw [normal] at kept
        cases kept
      obtain rfl := eq_malformedHash normal
      simp [notHash, eq_comm]

/-! ## Spellings -/

/-- Every spelling of a hash is kept as the same hash. -/
theorem normalizeHash_of_spells
    {spelled : String} (normal : normalizeHash text = .ok hash) (spells : Spells spelled hash) :
    normalizeHash spelled = .ok hash := by
  obtain ⟨_, isLength, lowDigits⟩ := normalizeHash_eq_ok_iff.mp normal
  obtain ⟨before, digits, after, isSpelled, blankBefore, blankAfter, lowered⟩ := spells
  have allDigits : ∀ digit ∈ digits, digit ∈ hexDigits := by
    intro digit member
    have isLow : digit.toLower ∈ hash.toList := by
      rw [← lowered]
      exact List.mem_map_of_mem member
    exact toLower_mem_hexDigits_iff.mp (isHashDigit_iff.mp (lowDigits _ isLow)).1
  have trimmed : trim spelled = String.ofList digits := by
    rw [trim, isSpelled,
      trimCharacters_of_trims (trims_of_blanks blankBefore blankAfter fun digit member =>
        isBlank_of_mem_hexDigits (allDigits digit member))]
  rw [normalizeHash_eq_ok_iff_isHash, trimmed, String.toList_ofList, lowered, String.ofList_toList]
  refine ⟨⟨?_, ?_⟩, rfl⟩
  · rw [String.length_ofList, ← List.length_map Char.toLower, lowered, String.length_toList,
      isLength, hashLength]
  · rwa [String.toList_ofList]

/-- A hash that is kept spells itself. -/
theorem spells_self (normal : normalizeHash text = .ok hash) : Spells hash hash := by
  obtain ⟨_, _, lowDigits⟩ := normalizeHash_eq_ok_iff.mp normal
  have unchanged : hash.toList.map Char.toLower = hash.toList.map id :=
    List.map_congr_left fun digit member => (isHashDigit_iff.mp (lowDigits digit member)).2
  rw [List.map_id] at unchanged
  exact ⟨[], hash.toList, [], by simp, List.forall_mem_nil _, List.forall_mem_nil _, unchanged⟩

theorem hashes_eq_iff
    {other otherHash : String} (normal : normalizeHash text = .ok hash)
    (otherNormal : normalizeHash other = .ok otherHash) :
    hash = otherHash ↔
      (trim text).toList.map Char.toLower = (trim other).toList.map Char.toLower := by
  obtain ⟨_, rfl⟩ := normalizeHash_eq_ok_iff_isHash.mp normal
  obtain ⟨_, rfl⟩ := normalizeHash_eq_ok_iff_isHash.mp otherNormal
  rw [← String.toList_inj, String.toList_ofList, String.toList_ofList]

/-- What is kept of a text as a hash: its thirty-two hexadecimal digits in lower case, if these are
all that stands between the blanks around it. Any other text is refused, and quoted as it was given.
What is kept is kept again as it is, two texts are kept alike if they differ in the case of letters
alone, and no character beyond ASCII is ever taken for a digit. -/
theorem normalizeHash_keeps_digits (text : String) :
    (∀ word, trim text = word ↔ Trims text.toList word.toList) ∧
      (∀ hash, normalizeHash text = .ok hash ↔
        IsHash (trim text) ∧ hash = String.ofList ((trim text).toList.map Char.toLower)) ∧
      (∀ error, normalizeHash text = .error error ↔
        ¬ IsHash (trim text) ∧ error = .malformedHash text) ∧
      (StorageError.malformedHash text).message =
        "Data provided is not a valid MD5 hash: \"" ++ text ++ "\"" ∧
      (∀ hash, normalizeHash text = .ok hash → normalizeHash hash = .ok hash) ∧
      (∀ other hash otherHash,
        normalizeHash text = .ok hash → normalizeHash other = .ok otherHash →
          (hash = otherHash ↔
            (trim text).toList.map Char.toLower = (trim other).toList.map Char.toLower)) ∧
      ∀ before character rest, 128 ≤ character.toNat →
        ∃ image,
          lowerAfter before (character :: rest) = image ++ lowerAfter (character :: before) rest ∧
            image ≠ [] ∧ ∀ lowered ∈ image, lowered ∉ hexDigits := by
  refine ⟨fun word => trim_eq_iff, fun hash => normalizeHash_eq_ok_iff_isHash,
    fun error => normalizeHash_eq_error_iff, rfl,
    fun hash normal => normalizeHash_of_spells normal (spells_self normal),
    fun other hash otherHash => hashes_eq_iff, fun before character rest beyond => ?_⟩
  exact
    ⟨lowerImage before character rest, lowerAfter_cons before character rest,
      lowerImage_of_beyond before rest beyond⟩

/-- A hash in capitals, between blanks. -/
def spacedHash : String := " D41D8CD98F00B204E9800998ECF8427E\n"

theorem spacedHash_kept :
    normalizeHash spacedHash = .ok "d41d8cd98f00b204e9800998ecf8427e" ∧
      normalizeHash "d41d8cd98f00b204e9800998ecf8427e" =
        .ok "d41d8cd98f00b204e9800998ecf8427e" := by
  obtain ⟨_, _, _, _, again, _⟩ := normalizeHash_keeps_digits spacedHash
  have kept : normalizeHash spacedHash = .ok "d41d8cd98f00b204e9800998ecf8427e" := by
    decide +kernel
  exact ⟨kept, again _ kept⟩

end EvidenceSearch
