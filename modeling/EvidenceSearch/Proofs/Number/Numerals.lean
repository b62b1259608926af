import EvidenceSearch.Json.Reader
import EvidenceSearch.Number.Text
import EvidenceSearch.Proofs.Sql.Scanning
import EvidenceSearch.Proofs.Text.Trimming

/-!
# Numerals that numbers are written as

A finite number is written as a decimal numeral with a sign: digits that start with no zero but a
single one, digits after a point, and an exponent. Wherever such a numeral stands, both readers of
numerals, that of settings and that of JSON, take it for the same number.
-/

namespace EvidenceSearch

open Json
open Sql.Token (span_append_of_ends)

/-! ## Decimal numerals -/

/-- A decimal numeral without sign: digits, digits after a point, and the digits of an exponent that
may be negative. -/
structure DecimalNumeral where
  whole : List Char
  fraction : List Char
  power : Option (Bool × List Char)

def AllDigits (characters : List Char) : Prop :=
  ∀ character ∈ characters, isDecimalDigit character = true

/-- The digits start with no zero. -/
structure Significant (digits : List Char) : Prop where
  allDigits : AllDigits digits
  filled : digits ≠ []
  noZero : digits.head? ≠ some '0'

namespace DecimalNumeral

variable {numeral : DecimalNumeral} {rest : List Char}

/-- A point and the digits after it, if there are any. -/
def fractionPart (digits : List Char) : List Char :=
  if digits.isEmpty then [] else '.' :: digits

def powerPart : Option (Bool × List Char) → List Char
  | none => []
  | some (negative, digits) => 'e' :: (if negative then '-' else '+') :: digits

def write (numeral : DecimalNumeral) : List Char :=
  numeral.whole ++ (fractionPart numeral.fraction ++ powerPart numeral.power)

/-- The digits before the point start with no zero but a single one, and an exponent has digits. -/
structure WellFormed (numeral : DecimalNumeral) : Prop where
  whole : numeral.whole = ['0'] ∨ Significant numeral.whole
  fraction : AllDigits numeral.fraction
  power : ∀ negative digits, numeral.power = some (negative, digits) →
    AllDigits digits ∧ digits ≠ []

def exponent (numeral : DecimalNumeral) : Int :=
  match numeral.power with
  | none => 0
  | some (negative, digits) =>
      if negative then -(decimalValue digits : Int) else decimalValue digits

/-- The number that a numeral writes after its sign. -/
def value (negative : Bool) (numeral : DecimalNumeral) : Number :=
  .ofDecimal negative (decimalValue (numeral.whole ++ numeral.fraction))
    (numeral.exponent - numeral.fraction.length)

/-- What follows a numeral does not go on with it. -/
def EndsNumeral (rest : List Char) : Prop :=
  ∀ next ∈ rest.head?, isDecimalDigit next = false ∧ next ≠ '.' ∧ next ≠ 'e' ∧ next ≠ 'E'

theorem EndsNumeral.not_isDigit (ends : EndsNumeral rest) :
    ∀ next ∈ rest.head?, isDecimalDigit next = false :=
  fun next isNext => (ends next isNext).1

theorem endsNumeral_nil : EndsNumeral [] :=
  nofun

theorem powerPart_not_isDigit (ends : EndsNumeral rest) (power : Option (Bool × List Char)) :
    ∀ next ∈ (powerPart power ++ rest).head?, isDecimalDigit next = false ∧ next ≠ '.' := by
  cases power with
  | none =>
      exact fun next isNext => ⟨(ends next isNext).1, (ends next isNext).2.1⟩
  | some power =>
      intro next isNext
      obtain rfl := Option.some.inj isNext
      decide

theorem fractionPart_not_isDigit
    (ends : EndsNumeral rest) (fraction : List Char) (power : Option (Bool × List Char)) :
    ∀ next ∈ (fractionPart fraction ++ (powerPart power ++ rest)).head?,
      isDecimalDigit next = false := by
  cases fraction with
  | nil =>
      exact fun next isNext => (powerPart_not_isDigit ends power next isNext).1
  | cons digit digits =>
      intro next isNext
      obtain rfl := Option.some.inj isNext
      decide

/-! ## Reading as JSON -/

theorem readDigits_append
    {digits : List Char} (allDigits : AllDigits digits) (filled : digits ≠ [])
    (ends : ∀ next ∈ rest.head?, isDecimalDigit next = false) (expectation : Expectation) :
    readDigits expectation (digits ++ rest) = .ok (digits, rest) := by
  rw [readDigits, span_append_of_ends digits rest allDigits ends]
  simp [filled]

theorem readWhole_append
    {whole : List Char} (isWhole : whole = ['0'] ∨ Significant whole)
    (ends : ∀ next ∈ rest.head?, isDecimalDigit next = false) :
    readWhole (whole ++ rest) = .ok (whole, rest) := by
  rcases isWhole with rfl | ⟨allDigits, filled, noZero⟩
  · cases rest with
    | nil =>
        rfl
    | cons next rest =>
        have notDigit : isDecimalDigit next = false := ends next rfl
        rw [List.singleton_append, readWhole, notDigit]
        rfl
  · obtain ⟨first, others, rfl⟩ := List.exists_cons_of_ne_nil filled
    rw [List.cons_append, readWhole, ← List.cons_append]
    · exact readDigits_append allDigits filled ends _
    · intro next after isZero
      obtain ⟨rfl, _⟩ := List.cons.inj isZero
      exact noZero rfl

theorem readFraction_append
    {fraction : List Char} (allDigits : AllDigits fraction)
    (ends : ∀ next ∈ rest.head?, isDecimalDigit next = false ∧ next ≠ '.') :
    readFraction (fractionPart fraction ++ rest) = .ok (fraction, rest) := by
  cases fraction with
  | nil =>
      rw [fractionPart, if_pos List.isEmpty_nil, List.nil_append, readFraction]
      rintro after rfl
      exact (ends '.' rfl).2 rfl
  | cons digit digits =>
      exact
        readDigits_append allDigits (List.cons_ne_nil digit digits)
          (fun next isNext => (ends next isNext).1) _

theorem readExponent_append
    (ends : EndsNumeral rest) (wellFormed : numeral.WellFormed) :
    readExponent (powerPart numeral.power ++ rest) = .ok (numeral.exponent, rest) := by
  rw [exponent]
  cases isPower : numeral.power with
  | none =>
      cases rest with
      | nil =>
          rfl
      | cons next rest =>
          obtain ⟨_, _, notSmall, notLarge⟩ := ends next rfl
          rw [powerPart, List.nil_append, readExponent]
          simp [notSmall, notLarge]
  | some power =>
      obtain ⟨negative, digits⟩ := power
      obtain ⟨allDigits, filled⟩ := wellFormed.power negative digits isPower
      have read := readDigits_append allDigits filled ends.not_isDigit .digitInExponent
      cases negative <;>
        simp [powerPart, readExponent, splitSign, read]

theorem readUnsigned_append
    (wellFormed : numeral.WellFormed) (ends : EndsNumeral rest) (negative : Bool) :
    readUnsigned negative (numeral.write ++ rest) =
      .ok (.number (numeral.value negative), rest) := by
  have readsWhole :=
    readWhole_append wellFormed.whole
      (fractionPart_not_isDigit ends numeral.fraction numeral.power)
  have readsFraction :=
    readFraction_append wellFormed.fraction (powerPart_not_isDigit ends numeral.power)
  have readsExponent := readExponent_append ends wellFormed
  rw [write, List.append_assoc, List.append_assoc, readUnsigned, readsWhole]
  change (readFraction _ >>= _) = _
  rw [readsFraction]
  change (readExponent _ >>= _) = _
  rw [readsExponent]
  rfl

/-! ## Reading as settings -/

theorem exponentPart_powerPart (wellFormed : numeral.WellFormed) :
    exponentPart (powerPart numeral.power) = some numeral.exponent := by
  rw [exponent]
  cases isPower : numeral.power with
  | none =>
      rfl
  | some power =>
      obtain ⟨negative, digits⟩ := power
      obtain ⟨allDigits, filled⟩ := wellFormed.power negative digits isPower
      have all : digits.all isDecimalDigit = true := List.all_eq_true.mpr allDigits
      cases negative <;>
        simp [powerPart, exponentPart, splitSign, filled, all]

theorem splitFraction_append
    {fraction : List Char} (allDigits : AllDigits fraction)
    (ends : ∀ next ∈ rest.head?, isDecimalDigit next = false ∧ next ≠ '.') :
    splitFraction (fractionPart fraction ++ rest) = (fraction, rest) := by
  cases fraction with
  | nil =>
      rw [fractionPart, if_pos List.isEmpty_nil, List.nil_append, splitFraction]
      rintro after rfl
      exact (ends '.' rfl).2 rfl
  | cons digit digits =>
      exact
        span_append_of_ends (digit :: digits) rest allDigits fun next isNext =>
          (ends next isNext).1

theorem WellFormed.exists_whole_cons (wellFormed : numeral.WellFormed) :
    ∃ first others, numeral.whole = first :: others ∧ isDecimalDigit first = true := by
  rcases wellFormed.whole with isZero | ⟨allDigits, filled, _⟩
  · exact ⟨'0', [], isZero, rfl⟩
  · obtain ⟨first, others, isWhole⟩ := List.exists_cons_of_ne_nil filled
    exact ⟨first, others, isWhole, allDigits first (by simp [isWhole])⟩

theorem WellFormed.allDigits_whole (wellFormed : numeral.WellFormed) :
    AllDigits numeral.whole := by
  rcases wellFormed.whole with isZero | significant
  · rw [isZero]
    exact List.forall_mem_singleton.mpr rfl
  · exact significant.allDigits

theorem decimalNumeral_write (wellFormed : numeral.WellFormed) (negative : Bool) :
    decimalNumeral negative numeral.write = numeral.value negative := by
  have splitsWhole :=
    span_append_of_ends numeral.whole _ wellFormed.allDigits_whole
      (fractionPart_not_isDigit endsNumeral_nil numeral.fraction numeral.power)
  have splitsFraction :=
    splitFraction_append wellFormed.fraction (powerPart_not_isDigit endsNumeral_nil numeral.power)
  rw [List.append_nil] at splitsWhole splitsFraction
  obtain ⟨first, others, isWhole, _⟩ := wellFormed.exists_whole_cons
  have filled : numeral.whole.isEmpty = false := by
    rw [isWhole]
    rfl
  rw [decimalNumeral, write, splitsWhole]
  dsimp only
  rw [splitsFraction]
  dsimp only
  rw [filled, exponentPart_powerPart wellFormed]
  rfl

end DecimalNumeral

/-! ## Digits of natural numbers -/

theorem isDecimalDigit_of_isDigit {character : Char} (digit : character.isDigit = true) :
    isDecimalDigit character = true := by
  simpa [isDecimalDigit, Char.isDigit_iff_toNat] using digit

theorem allDigits_toDigits (value : Nat) : AllDigits (Nat.toDigits 10 value) := by
  intro digit member
  exact isDecimalDigit_of_isDigit (Nat.isDigit_of_mem_toDigits (by omega) (by omega) member)

theorem head?_toDigits_ne_zero {value : Nat} (positive : value ≠ 0) :
    (Nat.toDigits 10 value).head? ≠ some '0' := by
  induction value using Nat.strongRecOn with
  | ind value inductionHypothesis =>
      by_cases small : value < 10
      · have notZero : ∀ digit < 10, digit ≠ 0 → digit.digitChar ≠ '0' := by
          decide
        rw [Nat.toDigits_of_lt_base small]
        intro isZero
        exact notZero value small positive (Option.some.inj isZero)
      · have shorter := inductionHypothesis (value / 10) (by omega) (by omega)
        rw [Nat.toDigits_of_base_le (by omega) (by omega), List.head?_append_of_ne_nil]
        · exact shorter
        · exact Nat.toDigits_ne_nil

theorem significant_toDigits {value : Nat} (positive : value ≠ 0) :
    Significant (Nat.toDigits 10 value) :=
  ⟨allDigits_toDigits value, Nat.toDigits_ne_nil, head?_toDigits_ne_zero positive⟩

/-! ## Decimal forms -/

theorem allDigits_append
    {first second : List Char} (allFirst : AllDigits first) (allSecond : AllDigits second) :
    AllDigits (first ++ second) :=
  List.forall_mem_append.mpr ⟨allFirst, allSecond⟩

theorem allDigits_zeros (count : Nat) : AllDigits (List.replicate count '0') := by
  intro character member
  rw [List.eq_of_mem_replicate member]
  rfl

theorem Significant.append
    {digits more : List Char} (significant : Significant digits) (allDigits : AllDigits more) :
    Significant (digits ++ more) where
  allDigits := allDigits_append significant.allDigits allDigits
  filled := List.append_ne_nil_of_left_ne_nil significant.filled more
  noZero := by
    rw [List.head?_append_of_ne_nil _ significant.filled]
    exact significant.noZero

theorem Significant.take
    {digits : List Char} (significant : Significant digits) {count : Nat} (some : count ≠ 0) :
    Significant (digits.take count) where
  allDigits := fun character member => significant.allDigits character (List.mem_of_mem_take member)
  filled := by
    simpa [some] using significant.filled
  noZero := by
    rw [List.head?_take, if_neg some]
    exact significant.noZero

namespace DecimalForm

/-- The numeral of a decimal form. -/
def numeral (form : DecimalForm) : DecimalNumeral :=
  let count : Int := form.digits.length
  if count ≤ form.point && form.point ≤ 21 then
    ⟨form.digits ++ List.replicate (form.point - count).toNat '0', [], none⟩
  else if 0 < form.point && form.point ≤ 21 then
    ⟨form.digits.take form.point.toNat, form.digits.drop form.point.toNat, none⟩
  else if -6 < form.point && form.point ≤ 0 then
    ⟨['0'], List.replicate (-form.point).toNat '0' ++ form.digits, none⟩
  else
    ⟨form.digits.take 1, form.digits.drop 1,
      some (decide (form.point - 1 < 0), Nat.toDigits 10 (form.point - 1).natAbs)⟩

theorem wellFormed_numeral {form : DecimalForm} (significant : Significant form.digits) :
    form.numeral.WellFormed := by
  have allDropped (count : Nat) : AllDigits (form.digits.drop count) :=
    fun character member => significant.allDigits character (List.mem_of_mem_drop member)
  rw [numeral]
  split
  · exact ⟨Or.inr (significant.append (allDigits_zeros _)), nofun, nofun⟩
  split
  · rename_i inside
    have positive : form.point.toNat ≠ 0 := by
      simp only [Bool.and_eq_true, decide_eq_true_eq] at inside
      omega
    exact ⟨Or.inr (significant.take positive), allDropped _, nofun⟩
  split
  · exact ⟨Or.inl rfl, allDigits_append (allDigits_zeros _) significant.allDigits, nofun⟩
  · refine ⟨Or.inr (significant.take (by decide)), allDropped 1, ?_⟩
    intro negative digits isPower
    obtain ⟨_, rfl⟩ := Prod.mk.inj (Option.some.inj isPower)
    exact ⟨allDigits_toDigits _, Nat.toDigits_ne_nil⟩

theorem write_eq {form : DecimalForm} (significant : Significant form.digits) :
    form.write = form.numeral.write := by
  obtain ⟨digits, point⟩ := form
  rw [write, numeral]
  dsimp only
  split
  · simp [DecimalNumeral.write, DecimalNumeral.fractionPart, DecimalNumeral.powerPart]
  rename_i outside
  split
  · rename_i inside
    have left : digits.drop point.toNat ≠ [] := by
      simp only [Bool.and_eq_true, decide_eq_true_eq] at inside outside
      simp only [ne_eq, List.drop_eq_nil_iff]
      omega
    simp [DecimalNumeral.write, DecimalNumeral.fractionPart, DecimalNumeral.powerPart, left]
  split
  · simp [DecimalNumeral.write, DecimalNumeral.fractionPart, DecimalNumeral.powerPart,
      significant.filled]
  · rcases digits with _ | ⟨first, _ | ⟨second, more⟩⟩
    · exact absurd rfl significant.filled
    all_goals
      by_cases negative : point - 1 < 0 <;>
        simp [DecimalNumeral.write, DecimalNumeral.fractionPart, DecimalNumeral.powerPart, negative]

end DecimalForm

theorem coefficient_ne_zero_of_readsBack
    {value : Rat} {coefficient : Nat} {exponent : Int}
    (reads : readsBack value coefficient exponent = true) : coefficient ≠ 0 := by
  rw [readsBack, Bool.and_eq_true] at reads
  exact of_decide_eq_true reads.1

theorem readsBack_of_coefficientOf?
    {value : Rat} {point : Int} {count coefficient : Nat}
    (found : coefficientOf? value point count = some coefficient) :
    readsBack value coefficient (point - count) = true := by
  unfold coefficientOf? at found
  have reads := List.find?_some found
  exact reads

theorem significant_shortestForm {value : Rat} (notZero : value ≠ 0) :
    Significant (shortestForm value).digits := by
  unfold shortestForm
  dsimp only
  split
  · rename_i coefficient count found
    split
    · have one : Significant ['1'] := ⟨List.forall_mem_singleton.mpr rfl, by decide, by decide⟩
      exact one
    · obtain ⟨index, _, isFound⟩ := List.exists_of_findSome?_eq_some found
      obtain ⟨chosen, isChosen, same⟩ := Option.map_eq_some_iff.mp isFound
      obtain ⟨rfl, _⟩ := Prod.mk.inj same
      have reads := readsBack_of_coefficientOf? isChosen
      exact significant_toDigits (coefficient_ne_zero_of_readsBack reads)
  · refine significant_toDigits ?_
    rwa [Int.natAbs_ne_zero, Rat.num_ne_zero]

/-! ## Written numbers -/

/-- The characters of a minus sign, or none. -/
def signCharacters (negative : Bool) : List Char :=
  if negative then ['-'] else []

namespace Number

theorem exists_numeral_of_natAbs (value : Int) :
    ∃ (negative : Bool) (numeral : DecimalNumeral),
      numeral.WellFormed ∧
        (toString value).toList = signCharacters negative ++ numeral.write := by
  have wellFormed (size : Nat) : DecimalNumeral.WellFormed ⟨Nat.toDigits 10 size, [], none⟩ := by
    refine ⟨?_, nofun, nofun⟩
    by_cases isZero : size = 0
    · left
      rw [isZero]
      rfl
    · exact Or.inr (significant_toDigits isZero)
  have write (size : Nat) :
      DecimalNumeral.write ⟨Nat.toDigits 10 size, [], none⟩ = Nat.toDigits 10 size :=
    List.append_nil _
  cases value with
  | ofNat size =>
      refine ⟨false, ⟨Nat.toDigits 10 size, [], none⟩, wellFormed size, ?_⟩
      rw [write]
      exact Nat.toList_repr
  | negSucc size =>
      refine ⟨true, ⟨Nat.toDigits 10 (size + 1), [], none⟩, wellFormed (size + 1), ?_⟩
      rw [write]
      change ("-" ++ (size + 1).repr).toList = _
      rw [String.toList_append, Nat.toList_repr]
      rfl

/-- A finite value is written as a numeral after a sign. -/
theorem exists_numeral (value : Rat) :
    ∃ (negative : Bool) (numeral : DecimalNumeral),
      numeral.WellFormed ∧
        (writeValue value).toList = signCharacters negative ++ numeral.write := by
  rw [writeValue]
  split
  · exact exists_numeral_of_natAbs value.num
  rename_i notSmall
  have notZero : value ≠ 0 := by
    rintro rfl
    exact notSmall (by decide)
  split
  · have significant := significant_shortestForm (neg_ne_zero.mpr notZero)
    refine
      ⟨true, (shortestForm (-value)).numeral, DecimalForm.wellFormed_numeral significant, ?_⟩
    rw [String.toList_ofList, DecimalForm.write_eq significant]
    rfl
  · have significant := significant_shortestForm notZero
    refine ⟨false, (shortestForm value).numeral, DecimalForm.wellFormed_numeral significant, ?_⟩
    rw [String.toList_ofList, DecimalForm.write_eq significant]
    rfl

/-! ## Reading written numbers -/

theorem isBlank_of_isDecimalDigit {character : Char} (digit : isDecimalDigit character = true) :
    isBlank character = false := by
  simp only [isDecimalDigit, Bool.and_eq_true, decide_eq_true_eq] at digit
  simp [isBlank]
  omega

theorem isBlank_of_mem_write
    {numeral : DecimalNumeral} (wellFormed : numeral.WellFormed) :
    ∀ character ∈ numeral.write, isBlank character = false := by
  have digits {characters : List Char} (all : AllDigits characters) :
      ∀ character ∈ characters, isBlank character = false :=
    fun character member => isBlank_of_isDecimalDigit (all character member)
  have inFraction :
      ∀ character ∈ DecimalNumeral.fractionPart numeral.fraction, isBlank character = false := by
    rw [DecimalNumeral.fractionPart]
    split
    · exact nofun
    · exact List.forall_mem_cons.mpr ⟨by decide, digits wellFormed.fraction⟩
  have inPower :
      ∀ character ∈ DecimalNumeral.powerPart numeral.power, isBlank character = false := by
    cases isPower : numeral.power with
    | none =>
        exact nofun
    | some power =>
        obtain ⟨negative, powerDigits⟩ := power
        have allDigits := (wellFormed.power negative powerDigits isPower).1
        refine List.forall_mem_cons.mpr ⟨by decide, List.forall_mem_cons.mpr ⟨?_, digits allDigits⟩⟩
        cases negative <;> decide
  exact
    List.forall_mem_append.mpr
      ⟨digits wellFormed.allDigits_whole, List.forall_mem_append.mpr ⟨inFraction, inPower⟩⟩

theorem signedNumeral_append
    {numeral : DecimalNumeral} (wellFormed : numeral.WellFormed) (negative : Bool) :
    signedNumeral (signCharacters negative ++ numeral.write) = numeral.value negative := by
  obtain ⟨first, others, isWhole, digit⟩ := wellFormed.exists_whole_cons
  have isWritten : ∃ more, numeral.write = first :: more := by
    rw [DecimalNumeral.write, isWhole]
    exact ⟨_, rfl⟩
  obtain ⟨more, isWritten⟩ := isWritten
  have notInfinity : numeral.write ≠ "Infinity".toList := by
    rw [isWritten]
    intro same
    obtain rfl := (List.cons.inj same).1
    exact absurd digit (by decide)
  have splits :
      splitSign (signCharacters negative ++ numeral.write) = (negative, numeral.write) := by
    cases negative with
    | true =>
        rfl
    | false =>
        rw [signCharacters, isWritten]
        change splitSign (first :: more) = _
        unfold splitSign
        split
        · rename_i same
          obtain rfl := (List.cons.inj same).1
          exact absurd digit (by decide)
        · rename_i same
          obtain rfl := (List.cons.inj same).1
          exact absurd digit (by decide)
        · rfl
  rw [signedNumeral, splits]
  dsimp only
  rw [if_neg notInfinity]
  exact DecimalNumeral.decimalNumeral_write wellFormed negative

/-- No numeral looks like a number in another base. -/
theorem ofNumeral_of_signed
    {text : String} (notBlank : ∀ character ∈ text.toList, isBlank character = false)
    (filled : text.toList ≠ [])
    (decimal : ∀ mark rest, text.toList = '0' :: mark :: rest →
      mark = '.' ∨ mark = 'e') :
    ofNumeral text = signedNumeral text.toList := by
  have trimmed : trimCharacters text.toList = text.toList := by
    have trims : Trims ([] ++ text.toList ++ []) text.toList :=
      trims_of_blanks nofun nofun notBlank
    rw [List.nil_append, List.append_nil] at trims
    exact trimCharacters_of_trims trims
  rw [ofNumeral, trimmed]
  split
  · rename_i isEmpty
    exact absurd isEmpty filled
  · rename_i mark rest isZero
    rw [isZero]
    rcases decimal mark rest isZero with rfl | rfl <;> simp
  · rfl

theorem mark_of_write
    {numeral : DecimalNumeral} (wellFormed : numeral.WellFormed) {mark : Char} {rest : List Char}
    (startsZero : numeral.write = '0' :: mark :: rest) : mark = '.' ∨ mark = 'e' := by
  rw [DecimalNumeral.write] at startsZero
  rcases wellFormed.whole with isZero | ⟨_, filled, noZero⟩
  · rw [isZero] at startsZero
    have after := (List.cons.inj startsZero).2
    rcases hasFraction : numeral.fraction with _ | ⟨digit, digits⟩
    · rcases hasPower : numeral.power with _ | ⟨negative, digits⟩
      · rw [hasFraction, hasPower] at after
        cases after
      · rw [hasFraction, hasPower] at after
        exact Or.inr (List.cons.inj after).1.symm
    · rw [hasFraction] at after
      exact Or.inl (List.cons.inj after).1.symm
  · obtain ⟨first, others, isWhole⟩ := List.exists_cons_of_ne_nil filled
    rw [isWhole] at startsZero noZero
    obtain rfl := (List.cons.inj startsZero).1
    exact absurd rfl noZero

/-- Both readers of numerals take the text of a finite number for the same number. -/
theorem readNumber_writeValue
    {rest : List Char} (value : Rat) (ends : DecimalNumeral.EndsNumeral rest) :
    readNumber ((writeValue value).toList ++ rest) =
      .ok (.number (.ofNumeral (writeValue value)), rest) := by
  obtain ⟨negative, numeral, wellFormed, isWritten⟩ := exists_numeral value
  obtain ⟨first, others, isWhole, digit⟩ := wellFormed.exists_whole_cons
  have settings : ofNumeral (writeValue value) = numeral.value negative := by
    rw [← signedNumeral_append wellFormed, ← isWritten]
    apply ofNumeral_of_signed
    · rw [isWritten]
      refine List.forall_mem_append.mpr ⟨?_, isBlank_of_mem_write wellFormed⟩
      cases negative with
      | true =>
          exact List.forall_mem_singleton.mpr (by decide)
      | false =>
          exact nofun
    · rw [isWritten, DecimalNumeral.write, isWhole]
      simp
    · intro mark after startsZero
      rw [isWritten] at startsZero
      cases negative with
      | true =>
          exact absurd (List.cons.inj startsZero).1 (by decide)
      | false =>
          exact mark_of_write wellFormed startsZero
  rw [settings, isWritten, List.append_assoc]
  cases negative with
  | true =>
      exact DecimalNumeral.readUnsigned_append wellFormed ends true
  | false =>
      rw [← DecimalNumeral.readUnsigned_append wellFormed ends false, DecimalNumeral.write, isWhole]
      change readNumber (first :: _) = readUnsigned false (first :: _)
      unfold readNumber
      split
      · rename_i same
        obtain rfl := (List.cons.inj same).1
        exact absurd digit (by decide)
      · rfl

theorem exists_writeValue_cons (value : Rat) :
    ∃ first others,
      (writeValue value).toList = first :: others ∧
        (first = '-' ∨ isDecimalDigit first = true) := by
  obtain ⟨negative, numeral, wellFormed, isWritten⟩ := exists_numeral value
  obtain ⟨first, others, isWhole, digit⟩ := wellFormed.exists_whole_cons
  rw [isWritten, DecimalNumeral.write, isWhole]
  cases negative with
  | true =>
      exact ⟨_, _, rfl, Or.inl rfl⟩
  | false =>
      exact ⟨_, _, rfl, Or.inr digit⟩

end Number

end EvidenceSearch
