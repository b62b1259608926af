import EvidenceSearch.Json.Reader
import EvidenceSearch.Json.Writer
import EvidenceSearch.Proofs.Text.Units

/-!
# Texts in quotation marks

A text is written in quotation marks, with escapes for the characters that can not stand there. What
is written for a symbol is read as the units of the symbol, so the text is read back as the text
that its units make: one that holds the same units.
-/

namespace EvidenceSearch

namespace Json

/-! ## Escapes -/

theorem hexValue?_hexDigit {value : Nat} (small : value < 16) :
    hexValue? (hexDigit value) = some value := by
  have all : ∀ value < 16, hexValue? (hexDigit value) = some value := by
    decide
  exact all value small

theorem readFourDigits_unit {unit : Nat} (small : unit < unitBound) (rest : List Char) :
    readFourDigits 4 0
        (hexDigit (unit / 0x1000 % 16) :: hexDigit (unit / 0x100 % 16) ::
          hexDigit (unit / 16 % 16) :: hexDigit (unit % 16) :: rest) =
      .ok (unit, rest) := by
  have digit (value : Nat) : hexValue? (hexDigit (value % 16)) = some (value % 16) :=
    hexValue?_hexDigit (Nat.mod_lt value (by decide))
  have whole :
      (((0 * 16 + unit / 0x1000 % 16) * 16 + unit / 0x100 % 16) * 16 + unit / 16 % 16) * 16 +
          unit % 16 =
        unit := by
    unfold unitBound at small
    omega
  simp only [readFourDigits, digit, whole]

/-- Where this is written in a string, the reader of the string takes it for these units. -/
def Contributes (written : List Char) (units : List Nat) : Prop :=
  ∃ steps, steps ≤ written.length ∧
    ∀ fuel known rest,
      readString (fuel + steps) known (written ++ rest) =
        readString fuel (units.reverse ++ known) rest

theorem Contributes.append
    {first second : List Char} {units unitsAfter : List Nat}
    (contributes : Contributes first units) (contributesAfter : Contributes second unitsAfter) :
    Contributes (first ++ second) (units ++ unitsAfter) := by
  obtain ⟨steps, few, reads⟩ := contributes
  obtain ⟨stepsAfter, fewAfter, readsAfter⟩ := contributesAfter
  refine ⟨stepsAfter + steps, ?_, fun fuel known rest => ?_⟩
  · rw [List.length_append]
    omega
  · rw [← Nat.add_assoc, List.append_assoc, reads, readsAfter, List.reverse_append,
      List.append_assoc]

theorem contributes_flatMap
    {Item : Type} {write : Item → List Char} {units : Item → List Nat} {items : List Item}
    (each : ∀ item ∈ items, Contributes (write item) (units item)) :
    Contributes (items.flatMap write) (items.flatMap units) := by
  induction items with
  | nil =>
      exact ⟨0, Nat.le_refl 0, fun _ _ _ => rfl⟩
  | cons item items inductionHypothesis =>
      rw [List.flatMap_cons, List.flatMap_cons]
      exact
        (each item List.mem_cons_self).append
          (inductionHypothesis fun later member => each later (List.mem_cons_of_mem item member))

theorem contributes_unitEscape {unit : Nat} (small : unit < unitBound) :
    Contributes (unitEscape unit) [unit] := by
  refine ⟨1, Nat.succ_pos _, fun fuel known rest => ?_⟩
  rw [unitEscape]
  simp only [List.cons_append, List.nil_append, readString, readFourDigits_unit small]
  rfl

theorem contributes_shortEscape
    {letter meant : Char} (escapes : shortEscape? letter = some meant) :
    Contributes ['\\', letter] [meant.toNat] := by
  refine ⟨1, Nat.succ_pos _, fun fuel known rest => ?_⟩
  have notUnit : letter ≠ 'u' := by
    rintro rfl
    cases escapes
  rw [List.cons_append, List.cons_append, List.nil_append, readString]
  · simp only [escapes]
    rfl
  · intro after isUnit
    exact notUnit (List.cons.inj isUnit).1

theorem contributes_plain
    {character : Char} (notQuote : character ≠ '"') (notEscape : character ≠ '\\')
    (printed : ¬ character.toNat < 0x20) :
    Contributes [character] (characterUnits character) := by
  refine ⟨1, Nat.succ_pos _, fun fuel known rest => ?_⟩
  rw [List.cons_append, List.nil_append, readString, if_neg printed]
  · exact notQuote
  · intro after isEscape _
    exact notEscape isEscape
  · exact notEscape

theorem contributes_held
    {character : Char} (notQuote : character ≠ '"') (notEscape : character ≠ '\\')
    (printed : ¬ character.toNat < 0x20) :
    Contributes (Symbol.character character).held (Symbol.character character).units := by
  have proper : (Symbol.character character).IsProper := trivial
  rw [← textUnits_held proper]
  have plain (part : Char) (member : part ∈ (Symbol.character character).held) :
      Contributes [part] (characterUnits part) := by
    rw [Symbol.held] at member
    split at member
    · rename_i stands
      obtain ⟨low, high⟩ := isStandIn_iff.mp stands
      obtain ⟨unit, isUnit, rfl⟩ := List.mem_map.mp member
      have far := le_toNat_standIn (isHalf_of_mem_codePair (by omega) (by omega) isUnit)
      refine contributes_plain ?_ ?_ (by omega)
      · rintro same
        rw [same] at far
        exact absurd far (by decide)
      · rintro same
        rw [same] at far
        exact absurd far (by decide)
    · rw [List.mem_singleton.mp member]
      exact contributes_plain notQuote notEscape printed
  have whole := contributes_flatMap plain
  rw [List.flatMap_singleton'] at whole
  exact whole

theorem contributes_quotedCharacter (character : Char) :
    Contributes (quotedCharacter character) (Symbol.character character).units := by
  rw [quotedCharacter]
  -- seven characters have an escape of one letter
  iterate 7
    split
    · rename_i same
      rw [same]
      exact contributes_shortEscape rfl
  split
  · rename_i control
    have small : character.toNat < unitBound := Nat.lt_trans control (by decide)
    rw [Symbol.units, if_pos small]
    exact contributes_unitEscape small
  · rename_i notQuote notEscape _ _ _ _ _ printed
    exact contributes_held notQuote notEscape printed

theorem contributes_quotedSymbol {symbol : Symbol} (proper : symbol.IsProper) :
    Contributes (quotedSymbol symbol) symbol.units := by
  cases symbol with
  | character value =>
      exact contributes_quotedCharacter value
  | lone unit =>
      exact contributes_unitEscape (Nat.lt_trans proper.2 (by decide))

/-! ## Whole texts -/

/-- A text that is rebuilt from the units that it holds. -/
def rereadText (text : String) : String :=
  String.ofList (charactersOfUnits (textUnits text.toList))

@[simp]
theorem textUnits_rereadText (text : String) :
    textUnits (rereadText text).toList = textUnits text.toList := by
  rw [rereadText, String.toList_ofList]
  exact textUnits_charactersOfUnits fun _ => lt_unitBound_of_mem_textUnits

/-- What stands between the quotation marks around a text. -/
def quotedBody (text : String) : List Char :=
  (symbolsOfUnits (textUnits text.toList)).flatMap quotedSymbol

@[simp]
theorem toList_quote (text : String) : (quote text).toList = '"' :: (quotedBody text ++ ['"']) := by
  rw [quote, String.toList_ofList]
  rfl

/-- A text in quotation marks is read as the text that its units make. -/
theorem readString_quotedBody
    {text : String} {fuel : Nat} (enough : (quotedBody text).length < fuel) (rest : List Char) :
    readString fuel [] (quotedBody text ++ '"' :: rest) = .ok (rereadText text, rest) := by
  have contributes : Contributes (quotedBody text) (textUnits text.toList) := by
    have whole :=
      contributes_flatMap fun symbol (member : symbol ∈ symbolsOfUnits (textUnits text.toList)) =>
        contributes_quotedSymbol (isProper_of_mem_symbolsOfUnits member)
    rw [flatMap_units_symbolsOfUnits fun _ => lt_unitBound_of_mem_textUnits] at whole
    exact whole
  obtain ⟨steps, few, reads⟩ := contributes
  obtain ⟨left, rfl⟩ : ∃ left, fuel = left + 1 + steps := ⟨fuel - steps - 1, by omega⟩
  rw [reads, List.append_nil, readString, List.reverse_reverse]
  rfl

end Json
end EvidenceSearch
