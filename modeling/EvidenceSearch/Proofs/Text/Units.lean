import EvidenceSearch.Text.Units
import Mathlib.Data.List.Basic

/-!
# What texts hold

A text holds units of sixteen bits. Units that are put into a text come out of it again, whether
or not each of them has its partner; so a text that is rebuilt from its units holds the same units.
-/

namespace EvidenceSearch

/-- Units lie below this bound. -/
def unitBound : Nat := 0x10000

/-! ## Codes -/

theorem isFirstOfPair_iff {unit : Nat} :
    isFirstOfPair unit = true ↔ 0xD800 ≤ unit ∧ unit < 0xDC00 := by
  simp [isFirstOfPair]

theorem isSecondOfPair_iff {unit : Nat} :
    isSecondOfPair unit = true ↔ 0xDC00 ≤ unit ∧ unit < 0xE000 := by
  simp [isSecondOfPair]

theorem isStandIn_iff {code : Nat} :
    isStandIn code = true ↔ 0x10D800 ≤ code ∧ code < 0x10E000 := by
  unfold isStandIn lastPlane
  rw [Bool.and_eq_true, decide_eq_true_iff, decide_eq_true_iff]

theorem toNat_ofNat_of_isValid {code : Nat} (valid : code.isValidChar) :
    (Char.ofNat code).toNat = code := by
  rw [Char.ofNat, dif_pos valid]
  rfl

theorem toNat_lt_bound (character : Char) : character.toNat < 0x110000 := by
  rcases character.valid with low | ⟨_, high⟩
  · exact Nat.lt_trans low (by decide)
  · exact high

/-- The two units of a code above `U+FFFF` are a pair. -/
theorem isHalf_of_mem_codePair
    {code unit : Nat} (low : 0x10000 ≤ code) (high : code < 0x110000)
    (member : unit ∈ codePair code) :
    0xD800 ≤ unit ∧ unit < 0xE000 := by
  unfold codePair at member
  simp only [List.mem_cons, List.not_mem_nil, or_false] at member
  omega

theorem codePair_pairCode {first second : Nat} (isFirst : isFirstOfPair first = true)
    (isSecond : isSecondOfPair second = true) :
    codePair (pairCode first second) = [first, second] := by
  rw [isFirstOfPair_iff] at isFirst
  rw [isSecondOfPair_iff] at isSecond
  unfold codePair pairCode
  simp only [List.cons.injEq, and_true]
  omega

/-! ## Symbols -/

/-- The units that write a symbol. -/
def Symbol.units : Symbol → List Nat
  | .character value =>
      if value.toNat < unitBound then [value.toNat] else codePair value.toNat
  | .lone unit => [unit]

/-- A unit that stands alone is half of a pair. -/
def Symbol.IsProper : Symbol → Prop
  | .character _ => True
  | .lone unit => 0xD800 ≤ unit ∧ unit < 0xE000

theorem isProper_singleSymbol (unit : Nat) : (singleSymbol unit).IsProper := by
  rw [singleSymbol]
  split
  · rename_i isHalf
    rw [Bool.or_eq_true, isFirstOfPair_iff, isSecondOfPair_iff] at isHalf
    simp only [Symbol.IsProper]
    omega
  · trivial

theorem units_singleSymbol {unit : Nat} (small : unit < unitBound) :
    (singleSymbol unit).units = [unit] := by
  rw [singleSymbol]
  split
  · rfl
  · rename_i isWhole
    rw [Bool.or_eq_true, isFirstOfPair_iff, isSecondOfPair_iff] at isWhole
    have bounded : unit < 0x10000 := small
    have valid : unit.isValidChar := by
      simp only [Nat.isValidChar]
      omega
    rw [Symbol.units, toNat_ofNat_of_isValid valid, if_pos small]

theorem units_of_pair {first second : Nat} (isFirst : isFirstOfPair first = true)
    (isSecond : isSecondOfPair second = true) :
    (Symbol.character (Char.ofNat (pairCode first second))).units = [first, second] := by
  have pair := codePair_pairCode isFirst isSecond
  rw [isFirstOfPair_iff] at isFirst
  rw [isSecondOfPair_iff] at isSecond
  have large : ¬ pairCode first second < unitBound := by
    unfold pairCode unitBound
    omega
  have valid : (pairCode first second).isValidChar := by
    unfold pairCode Nat.isValidChar
    omega
  rw [Symbol.units, toNat_ofNat_of_isValid valid, if_neg large, pair]

theorem isProper_of_mem_symbolsOfUnits
    {units : List Nat} {symbol : Symbol} (member : symbol ∈ symbolsOfUnits units) :
    symbol.IsProper := by
  induction units using symbolsOfUnits.induct with
  | case1 =>
      cases member
  | case2 unit =>
      rw [symbolsOfUnits, List.mem_singleton] at member
      rw [member]
      exact isProper_singleSymbol unit
  | case3 first second units isPair inductionHypothesis =>
      rw [symbolsOfUnits, if_pos isPair, List.mem_cons] at member
      rcases member with rfl | member
      · trivial
      · exact inductionHypothesis member
  | case4 first second units noPair inductionHypothesis =>
      rw [symbolsOfUnits, if_neg noPair, List.mem_cons] at member
      rcases member with rfl | member
      · exact isProper_singleSymbol first
      · exact inductionHypothesis member

/-- The symbols that some units write are written by these units. -/
theorem flatMap_units_symbolsOfUnits
    {units : List Nat} (small : ∀ unit ∈ units, unit < unitBound) :
    (symbolsOfUnits units).flatMap Symbol.units = units := by
  induction units using symbolsOfUnits.induct with
  | case1 =>
      rfl
  | case2 unit =>
      rw [symbolsOfUnits, List.flatMap_singleton, units_singleSymbol (small unit (by simp))]
  | case3 first second units isPair inductionHypothesis =>
      obtain ⟨isFirst, isSecond⟩ := Bool.and_eq_true_iff.mp isPair
      rw [symbolsOfUnits, if_pos isPair, List.flatMap_cons, units_of_pair isFirst isSecond,
        inductionHypothesis fun unit member => small unit (by simp [member])]
      rfl
  | case4 first second units noPair inductionHypothesis =>
      rw [symbolsOfUnits, if_neg noPair, List.flatMap_cons,
        units_singleSymbol (small first (by simp)),
        inductionHypothesis fun unit member => small unit (List.mem_cons_of_mem _ member)]
      rfl

/-! ## Texts -/

theorem lt_unitBound_of_mem_textUnits
    {characters : List Char} {unit : Nat} (member : unit ∈ textUnits characters) :
    unit < unitBound := by
  obtain ⟨character, _, held⟩ := List.mem_flatMap.mp member
  have high := toNat_lt_bound character
  unfold characterUnits at held
  unfold unitBound
  dsimp only at held
  split at held
  · rename_i stands
    rw [isStandIn_iff] at stands
    rw [List.mem_singleton] at held
    unfold lastPlane at held
    omega
  split at held
  · rw [List.mem_singleton] at held
    omega
  · have inPair := isHalf_of_mem_codePair (by omega) high held
    omega

theorem characterUnits_standIn {unit : Nat} (isHalf : 0xD800 ≤ unit ∧ unit < 0xE000) :
    characterUnits (standIn unit) = [unit] := by
  have valid : (lastPlane + unit).isValidChar := by
    unfold lastPlane Nat.isValidChar
    omega
  have stands : isStandIn (lastPlane + unit) = true := by
    rw [isStandIn_iff]
    unfold lastPlane
    omega
  rw [characterUnits, standIn, toNat_ofNat_of_isValid valid, if_pos stands, Nat.add_sub_cancel_left]

/-- The characters that hold units that stand alone lie in the last plane. -/
theorem le_toNat_standIn {unit : Nat} (isHalf : 0xD800 ≤ unit ∧ unit < 0xE000) :
    0x10D800 ≤ (standIn unit).toNat := by
  have valid : (lastPlane + unit).isValidChar := by
    unfold lastPlane Nat.isValidChar
    omega
  rw [standIn, toNat_ofNat_of_isValid valid]
  unfold lastPlane
  omega

/-- A character that holds a symbol alone holds its units. -/
theorem characterUnits_of_not_isStandIn
    {character : Char} (notStandIn : isStandIn character.toNat = false) :
    characterUnits character = (Symbol.character character).units := by
  rw [characterUnits, notStandIn]
  rfl

theorem textUnits_held {symbol : Symbol} (proper : symbol.IsProper) :
    textUnits symbol.held = symbol.units := by
  cases symbol with
  | lone unit =>
      rw [Symbol.held, textUnits, List.flatMap_singleton, characterUnits_standIn proper]
      rfl
  | character value =>
      cases stands : isStandIn value.toNat with
      | false =>
          rw [Symbol.held, stands, ← characterUnits_of_not_isStandIn stands]
          exact List.flatMap_singleton _ _
      | true =>
          obtain ⟨low, high⟩ := isStandIn_iff.mp stands
          have large : ¬ value.toNat < unitBound := by
            rw [unitBound]
            omega
          have pairUnits (unit : Nat) (member : unit ∈ codePair value.toNat) :
              characterUnits (standIn unit) = [unit] :=
            characterUnits_standIn (isHalf_of_mem_codePair (by omega) (by omega) member)
          rw [Symbol.held, stands, if_pos rfl, Symbol.units, if_neg large, textUnits,
            List.flatMap_map, List.flatMap_congr pairUnits, List.flatMap_singleton']

/-- The characters that hold some units hold these units. -/
theorem textUnits_charactersOfUnits
    {units : List Nat} (small : ∀ unit ∈ units, unit < unitBound) :
    textUnits (charactersOfUnits units) = units := by
  rw [charactersOfUnits, textUnits, List.flatMap_assoc]
  have held (symbol : Symbol) (member : symbol ∈ symbolsOfUnits units) :
      symbol.held.flatMap characterUnits = symbol.units :=
    textUnits_held (isProper_of_mem_symbolsOfUnits member)
  rw [List.flatMap_congr held, flatMap_units_symbolsOfUnits small]

end EvidenceSearch
