import EvidenceSearch.Proofs.Sql.Scanning
import EvidenceSearch.Sql.Selection

/-!
# What conditions decide

A condition decides a statement about a row if it can be bound and tested without failing and comes
out true exactly when the statement holds; a condition that stays open does not come out true. What
a condition decides follows from what its parts decide.
-/

namespace EvidenceSearch.Sql

/-! ## Conditions that are joined -/

theorem andAlso_eq_true_iff (left right : Option Bool) :
    andAlso left right = some true ↔ left = some true ∧ right = some true := by
  rcases left with _ | (_ | _) <;> rcases right with _ | (_ | _) <;> simp [andAlso]

theorem orElse_eq_true_iff (left right : Option Bool) :
    orElse left right = some true ↔ left = some true ∨ right = some true := by
  rcases left with _ | (_ | _) <;> rcases right with _ | (_ | _) <;> simp [orElse]

namespace Test

theorem evaluate_both
    {row : List Value} {left right : Test} {leftTruth rightTruth : Option Bool}
    (leftTested : left.evaluate row = .ok leftTruth)
    (rightTested : right.evaluate row = .ok rightTruth) :
    (Test.both left right).evaluate row = .ok (andAlso leftTruth rightTruth) := by
  rw [evaluate, leftTested, rightTested]
  rcases leftTruth with _ | (_ | _) <;> rfl

theorem evaluate_either
    {row : List Value} {left right : Test} {leftTruth rightTruth : Option Bool}
    (leftTested : left.evaluate row = .ok leftTruth)
    (rightTested : right.evaluate row = .ok rightTruth) :
    (Test.either left right).evaluate row = .ok (orElse leftTruth rightTruth) := by
  rw [evaluate, leftTested, rightTested]
  rcases leftTruth with _ | (_ | _) <;> rfl

end Test

namespace Condition

variable {database : Database} {table : Table} {row : List Value}

/-- The condition can be bound and tested on the row, and it is true exactly if the statement
holds. -/
def Decides
    (database : Database) (table : Table) (row : List Value)
    (condition : Condition) (Holds : Prop) :
    Prop :=
  ∃ test truth,
    condition.bind database table = .ok test ∧ test.evaluate row = .ok truth ∧
      (truth = some true ↔ Holds)

theorem Decides.congr
    {condition : Condition} {Holds Other : Prop}
    (decides : condition.Decides database table row Holds) (same : Holds ↔ Other) :
    condition.Decides database table row Other := by
  obtain ⟨test, truth, bound, tested, truthIff⟩ := decides
  exact ⟨test, truth, bound, tested, truthIff.trans same⟩

theorem Decides.both
    {left right : Condition} {Left Right : Prop}
    (leftDecides : left.Decides database table row Left)
    (rightDecides : right.Decides database table row Right) :
    (Condition.both left right).Decides database table row (Left ∧ Right) := by
  obtain ⟨leftTest, leftTruth, leftBound, leftTested, leftIff⟩ := leftDecides
  obtain ⟨rightTest, rightTruth, rightBound, rightTested, rightIff⟩ := rightDecides
  refine ⟨.both leftTest rightTest, _, ?_, Test.evaluate_both leftTested rightTested, ?_⟩
  · rw [bind, leftBound, rightBound]
    rfl
  · rw [andAlso_eq_true_iff, leftIff, rightIff]

theorem Decides.either
    {left right : Condition} {Left Right : Prop}
    (leftDecides : left.Decides database table row Left)
    (rightDecides : right.Decides database table row Right) :
    (Condition.either left right).Decides database table row (Left ∨ Right) := by
  obtain ⟨leftTest, leftTruth, leftBound, leftTested, leftIff⟩ := leftDecides
  obtain ⟨rightTest, rightTruth, rightBound, rightTested, rightIff⟩ := rightDecides
  refine ⟨.either leftTest rightTest, _, ?_, Test.evaluate_either leftTested rightTested, ?_⟩
  · rw [bind, leftBound, rightBound]
    rfl
  · rw [orElse_eq_true_iff, leftIff, rightIff]

/-- Conditions that are joined one after the other decide what their statements say together. -/
theorem Decides.foldl
    {combine : Condition → Condition → Condition} {Combine : Prop → Prop → Prop}
    (joins :
      ∀ {left right : Condition} {Left Right : Prop},
        left.Decides database table row Left → right.Decides database table row Right →
          (combine left right).Decides database table row (Combine Left Right))
    {Entry : Type} {write : Entry → Condition} {Holds : Entry → Prop}
    {first : Entry} {others : List Entry}
    (each :
      ∀ entry ∈ first :: others, (write entry).Decides database table row (Holds entry)) :
    ((others.map write).foldl combine (write first)).Decides database table row
      ((others.map Holds).foldl Combine (Holds first)) := by
  have general :
      ∀ (entries : List Entry) (before : Condition) (Before : Prop),
        before.Decides database table row Before →
        (∀ entry ∈ entries, (write entry).Decides database table row (Holds entry)) →
          ((entries.map write).foldl combine before).Decides database table row
            ((entries.map Holds).foldl Combine Before) := by
    intro entries
    induction entries with
    | nil =>
        intro before Before decides _
        exact decides
    | cons entry entries inductionHypothesis =>
        intro before Before decides eachEntry
        have joined := joins decides (eachEntry entry List.mem_cons_self)
        exact
          inductionHypothesis _ _ joined fun other member =>
            eachEntry other (List.mem_cons_of_mem entry member)
  exact
    general others (write first) (Holds first) (each first List.mem_cons_self)
      fun other member => each other (List.mem_cons_of_mem first member)

theorem foldl_and_iff
    {Entry : Type} (Holds : Entry → Prop) (first : Entry) (others : List Entry) :
    (others.map Holds).foldl And (Holds first) ↔ ∀ entry ∈ first :: others, Holds entry := by
  have general :
      ∀ (entries : List Entry) (Before : Prop),
        (entries.map Holds).foldl And Before ↔ Before ∧ ∀ entry ∈ entries, Holds entry := by
    intro entries
    induction entries with
    | nil =>
        simp
    | cons entry entries inductionHypothesis =>
        intro Before
        rw [List.map_cons, List.foldl_cons, inductionHypothesis]
        simp [and_assoc]
  simpa using general others (Holds first)

theorem foldl_or_iff
    {Entry : Type} (Holds : Entry → Prop) (first : Entry) (others : List Entry) :
    (others.map Holds).foldl Or (Holds first) ↔ ∃ entry ∈ first :: others, Holds entry := by
  have general :
      ∀ (entries : List Entry) (Before : Prop),
        (entries.map Holds).foldl Or Before ↔ Before ∨ ∃ entry ∈ entries, Holds entry := by
    intro entries
    induction entries with
    | nil =>
        simp
    | cons entry entries inductionHypothesis =>
        intro Before
        rw [List.map_cons, List.foldl_cons, inductionHypothesis]
        simp [or_assoc]
  simpa using general others (Holds first)

/-- Conditions joined by AND decide that all their statements hold. -/
theorem decides_conjunction
    {Entry : Type} {write : Entry → Condition} {Holds : Entry → Prop}
    {first : Entry} {others : List Entry}
    (each :
      ∀ entry ∈ first :: others, (write entry).Decides database table row (Holds entry)) :
    ((others.map write).foldl .both (write first)).Decides database table row
      (∀ entry ∈ first :: others, Holds entry) :=
  (Decides.foldl Decides.both each).congr (foldl_and_iff Holds first others)

/-- Conditions joined by OR decide that one of their statements holds. -/
theorem decides_disjunction
    {Entry : Type} {write : Entry → Condition} {Holds : Entry → Prop}
    {first : Entry} {others : List Entry}
    (each :
      ∀ entry ∈ first :: others, (write entry).Decides database table row (Holds entry)) :
    ((others.map write).foldl .either (write first)).Decides database table row
      (∃ entry ∈ first :: others, Holds entry) :=
  (Decides.foldl Decides.either each).congr (foldl_or_iff Holds first others)

/-! ## Single conditions -/

theorem decides_compare
    {left right : Operand} {leftPlace rightPlace : Place} (relation : Relation)
    (leftBound : left.place table = .ok leftPlace)
    (rightBound : right.place table = .ok rightPlace) :
    (Condition.compare left relation right).Decides database table row
      (leftPlace.related relation rightPlace row = some true) := by
  refine ⟨.compare leftPlace relation rightPlace, _, ?_, rfl, Iff.rfl⟩
  rw [bind, leftBound, rightBound]
  rfl

theorem equalsOne_eq_true_iff
    (subject : Place) (row : List Value) (members : List Place) :
    equalsOne subject row members = some true ↔
      ∃ member ∈ members, subject.related .equal member row = some true := by
  induction members with
  | nil =>
      simp [equalsOne]
  | cons member members inductionHypothesis =>
      rw [equalsOne, orElse_eq_true_iff, inductionHypothesis]
      simp

theorem mapM_place_text (texts : List (List Char)) :
    (texts.map Operand.text).mapM (Operand.place table) =
      .ok (texts.map fun content => Place.literal (.text (String.ofList content))) := by
  induction texts with
  | nil =>
      rfl
  | cons content texts inductionHypothesis =>
      rw [List.map_cons, List.mapM_cons, inductionHypothesis]
      rfl

theorem decides_among
    {subject : Operand} {place : Place} (texts : List (List Char))
    (bound : subject.place table = .ok place) :
    (Condition.among subject (texts.map Operand.text)).Decides database table row
      (∃ content ∈ texts,
        place.related .equal (.literal (.text (String.ofList content))) row = some true) := by
  refine
    ⟨.among place (texts.map fun content => .literal (.text (String.ofList content))), _, ?_, rfl,
      ?_⟩
  · rw [bind, bound, mapM_place_text]
    rfl
  · rw [equalsOne_eq_true_iff]
    simp

theorem decides_like
    {subject : Operand} {place : Place} {pattern : List Char} {content : String}
    (escape : Char) (bound : subject.place table = .ok place)
    (short : (String.ofList pattern).utf8ByteSize ≤ patternLimit)
    (holdsText : place.value row = .text content) :
    (Condition.like subject pattern escape).Decides database table row
      (patternMatches escape pattern
        (content.toList.takeWhile fun character => character ≠ '\x00') = true) := by
  refine ⟨.like place pattern escape, some _, ?_, ?_, Option.some_inj⟩
  · rw [bind, bound]
    rfl
  · have asText : (place.value row).asText = .text content := by
      rw [holdsText]
      rfl
    rw [Test.evaluate, matchPattern, if_neg (Nat.not_lt.mpr short), asText]

/-! ## Columns and literals -/

theorem readDigits_toDigits (value : Nat) :
    (if (Nat.toDigits 10 value).isEmpty || !(Nat.toDigits 10 value).all Char.isDigit then none
      else
        some ((Nat.toDigits 10 value).foldl
          (fun value digit => value * 10 + (digit.toNat - 48)) 0)) =
      some value := by
  have filled : (Nat.toDigits 10 value).isEmpty = false := by
    rw [List.isEmpty_eq_false_iff]
    exact Nat.toDigits_ne_nil
  have digits : (Nat.toDigits 10 value).all Char.isDigit = true := by
    rw [List.all_eq_true]
    intro digit member
    exact Nat.isDigit_of_mem_toDigits (by omega) (by omega) member
  rw [filled, digits, Token.digits_foldl]
  rfl

/-- The text of a whole number is read as that number. -/
theorem wholeNumber?_toString (value : Int) :
    wholeNumber? (toString value) = some value := by
  cases value with
  | ofNat value =>
      have letters : (toString (Int.ofNat value)).toList = Nat.toDigits 10 value :=
        Nat.toList_repr
      have noSign : ∀ rest, Nat.toDigits 10 value ≠ '-' :: rest := by
        intro rest written
        have digit : '-'.isDigit :=
          Nat.isDigit_of_mem_toDigits (b := 10) (n := value) (by omega) (by omega)
            (by simp [written])
        exact absurd digit (by decide)
      rw [wholeNumber?, letters]
      split
      · rename_i rest written
        exact absurd written (noSign rest)
      · simp only [readDigits_toDigits]
        rfl
  | negSucc value =>
      have letters :
          (toString (Int.negSucc value)).toList = '-' :: Nat.toDigits 10 (value + 1) := by
        change ("-" ++ (value + 1).repr).toList = _
        rw [String.toList_append, Nat.toList_repr]
        rfl
      rw [wholeNumber?, letters]
      simp only [readDigits_toDigits]
      rfl

/-- A literal that is compared with a column of numbers is read as the number it writes. -/
theorem related_number_text
    {index : Nat} {number : Number}
    (holds : (Place.column index .number).value row = .number number)
    (relation : Relation) (value : Int) :
    (Place.column index .number).related relation (.literal (.text (toString value))) row =
      (Value.number number).related relation (.number (.finite value)) := by
  have asNumber : (Value.text (toString value)).asNumber = .number (.finite value) := by
    rw [Value.asNumber, wholeNumber?_toString]
  change
    ((Place.column index .number).value row).related relation
        (Value.text (toString value)).asNumber = _
  rw [holds, asNumber]

/-! ## Inner queries -/

theorem exists_select
    {test : Test} {rows : List (List Value)} {Holds : List Value → Prop}
    (each :
      ∀ row ∈ rows, ∃ truth, test.evaluate row = .ok truth ∧ (truth = some true ↔ Holds row)) :
    ∃ selected,
      test.select rows = .ok selected ∧ ∀ row, row ∈ selected ↔ row ∈ rows ∧ Holds row := by
  induction rows with
  | nil =>
      exact ⟨[], rfl, by simp⟩
  | cons first rows inductionHypothesis =>
      obtain ⟨truth, tested, truthIff⟩ := each first List.mem_cons_self
      obtain ⟨selected, selects, mem_iff⟩ := inductionHypothesis fun other member =>
        each other (List.mem_cons_of_mem first member)
      have step :
          test.select (first :: rows) =
            .ok (if truth = some true then first :: selected else selected) := by
        rw [Test.select, tested, selects]
        rfl
      refine ⟨_, step, ?_⟩
      intro row
      by_cases isTrue : truth = some true
      · have holds : Holds first := truthIff.mp isTrue
        rw [if_pos isTrue, List.mem_cons, List.mem_cons, mem_iff]
        constructor
        · rintro (rfl | ⟨member, holdsRow⟩)
          · exact ⟨Or.inl rfl, holds⟩
          · exact ⟨Or.inr member, holdsRow⟩
        · rintro ⟨rfl | member, holdsRow⟩
          · exact Or.inl rfl
          · exact Or.inr ⟨member, holdsRow⟩
      · have fails : ¬ Holds first := fun holds => isTrue (truthIff.mpr holds)
        rw [if_neg isTrue, List.mem_cons, mem_iff]
        constructor
        · rintro ⟨member, holdsRow⟩
          exact ⟨Or.inr member, holdsRow⟩
        · rintro ⟨rfl | member, holdsRow⟩
          · exact absurd holdsRow fails
          · exact ⟨member, holdsRow⟩

/-- A query finds the values that a column has in the rows for which the condition is true. -/
theorem decides_within
    {subject : Operand} {place columnPlace : Place} {column source : String}
    {condition : Condition} {inner : Table} {test : Test} {Holds : List Value → Prop}
    (bound : subject.place table = .ok place)
    (hasTable : database source = some inner)
    (hasColumn : inner.place column = .ok columnPlace)
    (innerBound : condition.bind database inner = .ok test)
    (each :
      ∀ found ∈ inner.rows, condition.Decides database inner found (Holds found)) :
    (Condition.within subject column source condition).Decides database table row
      (∃ found ∈ inner.rows,
        Holds found ∧
          place.related .equal (.literal (columnPlace.value found)) row = some true) := by
  have tested :
      ∀ found ∈ inner.rows,
        ∃ truth, test.evaluate found = .ok truth ∧ (truth = some true ↔ Holds found) := by
    intro found member
    obtain ⟨sameTest, truth, sameBound, evaluated, truthIff⟩ := each found member
    have same : sameTest = test := Except.ok.inj (sameBound.symm.trans innerBound)
    exact ⟨truth, same ▸ evaluated, truthIff⟩
  obtain ⟨selected, selects, mem_iff⟩ := exists_select tested
  have tableFound : database.table source = .ok inner := by
    rw [Database.table, hasTable]
  refine
    ⟨.among place (selected.map fun found => .literal (columnPlace.value found)), _, ?_, rfl, ?_⟩
  · rw [bind, bound]
    change
      (do
        let inner ← database.table source
        let column ← inner.place column
        let test ← condition.bind database inner
        let rows ← test.select inner.rows
        return Test.among place (rows.map fun row => .literal (column.value row))) = _
    rw [tableFound]
    change
      (do
        let column ← inner.place column
        let test ← condition.bind database inner
        let rows ← test.select inner.rows
        return Test.among place (rows.map fun row => .literal (column.value row))) = _
    rw [hasColumn, innerBound]
    change
      (do
        let rows ← test.select inner.rows
        return Test.among place (rows.map fun row => .literal (columnPlace.value row))) = _
    rw [selects]
    rfl
  · rw [equalsOne_eq_true_iff]
    simp [mem_iff, and_assoc]

end Condition
end EvidenceSearch.Sql
