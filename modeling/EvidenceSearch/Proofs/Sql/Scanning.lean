import EvidenceSearch.Sql.Token
import Mathlib

/-!
# Reading written tokens

Tokens that were written out are read back, one for one. What may follow a token depends on the
token alone, and the writer leaves a space wherever two tokens could run together. The content of
a quoted text is arbitrary: no character in it ends the text or reaches the tokens after it.
-/

namespace EvidenceSearch.Sql

/-! ## Null characters -/

theorem takeWhile_ne_null
    {characters : List Char} (plain : '\x00' ∉ characters) :
    characters.takeWhile (fun character => character ≠ '\x00') = characters := by
  rw [List.takeWhile_eq_self_iff]
  intro character member
  have notNull : character ≠ '\x00' := by
    rintro rfl
    exact plain member
  simpa using notNull

/-! ## Quoted texts -/

theorem readQuoted_closing
    (done rest : List Char)
    (separate : rest.head? ≠ some '\'') :
    readQuoted done ('\'' :: rest) = some (done.reverse, rest) := by
  cases rest with
  | nil =>
      simp [readQuoted]
  | cons first others =>
      have notQuote : first ≠ '\'' := by
        simpa using separate
      rw [readQuoted]
      · simp
      · intro others' _ same
        exact notQuote (List.cons.inj same).1

theorem readQuoted_other
    (done rest : List Char) {character : Char}
    (notQuote : character ≠ '\'') :
    readQuoted done (character :: rest) =
      readQuoted (character :: done) rest := by
  rw [readQuoted]
  · simp [notQuote]
  · intro others isQuote
    exact absurd isQuote notQuote

/-- Reading goes on through every doubled quote and ends at the closing one. -/
theorem readQuoted_doubleQuotes
    (content done rest : List Char)
    (separate : rest.head? ≠ some '\'') :
    readQuoted done (doubleQuotes content ++ '\'' :: rest) =
      some (done.reverse ++ content, rest) := by
  induction content generalizing done with
  | nil =>
      simpa [doubleQuotes] using readQuoted_closing done rest separate
  | cons character content inductionHypothesis =>
      by_cases isQuote : character = '\''
      · subst character
        have read := inductionHypothesis ('\'' :: done)
        simpa [doubleQuotes, readQuoted] using read
      · have read := inductionHypothesis (character :: done)
        simp only [doubleQuotes, isQuote, if_false, List.cons_append]
        rw [readQuoted_other done _ isQuote, read]
        simp

namespace Token

/-! ## Single tokens -/

/-- A token that is written as one: a word has the letters of a word, and nothing is
unreadable. -/
def WellFormed : Token → Prop
  | .word name =>
      ∃ first others,
        name.toList = first :: others ∧ startsWord first ∧ ∀ letter ∈ others, insideWord letter
  | .unreadable _ => False
  | _ => True

/-- What follows a token does not run together with it. -/
def EndsBefore (token : Token) (rest : List Char) : Prop :=
  match token with
  | .word _ => ∀ next ∈ rest.head?, insideWord next = false
  | .numeral _ => ∀ next ∈ rest.head?, next.isDigit = false
  | .text _ => rest.head? ≠ some '\''
  | .above => rest.head? ≠ some '='
  | _ => True

/-- The first character of a written token starts a token, and reading from there gives the token
and leaves what follows it. -/
def ReadsBack (token : Token) (rest : List Char) : Prop :=
  ∃ first others,
    token.characters = first :: others ∧ isSpace first = false ∧
      next first (others ++ rest) = (token, rest)

theorem span_append_of_ends
    {accepts : Char → Bool} (letters rest : List Char)
    (all : ∀ letter ∈ letters, accepts letter)
    (ends : ∀ next ∈ rest.head?, accepts next = false) :
    (letters ++ rest).span accepts = (letters, rest) := by
  rw [List.span_eq_takeWhile_dropWhile]
  have noMore : rest.takeWhile accepts = [] ∧ rest.dropWhile accepts = rest := by
    cases rest with
    | nil =>
        exact ⟨rfl, rfl⟩
    | cons first others =>
        have refused : accepts first = false := ends first rfl
        simp [refused]
  rw [List.takeWhile_append_of_pos all, List.dropWhile_append_of_pos all, noMore.1, noMore.2,
    List.append_nil]

theorem readsBack_of_text
    (content rest : List Char)
    (separate : EndsBefore (.text content) rest) :
    ReadsBack (.text content) rest := by
  refine ⟨'\'', doubleQuotes content ++ ['\''], rfl, rfl, ?_⟩
  have read := readQuoted_doubleQuotes content [] rest separate
  simp only [next, List.append_assoc, List.singleton_append, read]
  simp

theorem digits_foldl (value : Nat) :
    (Nat.toDigits 10 value).foldl (fun value digit => value * 10 + (digit.toNat - 48)) 0 =
      value := by
  have read := Nat.ofDigitChars_ten_toDigits (n := value)
  rw [Nat.ofDigitChars_eq_foldl] at read
  simpa [Nat.mul_comm] using read

/-- The characters that have a place of their own in a clause: they separate tokens, or they are
all that a token starts with. -/
def marks : List Char :=
  ['(', ')', ',', '=', '\'', '>', '<', ' ', '\t', '\n', '\r', '\x0c']

theorem isSpace_of_not_mark
    {first : Char} (plain : first ∉ marks) :
    isSpace first = false := by
  simp only [marks, List.mem_cons, List.not_mem_nil, or_false, not_or] at plain
  simp [isSpace, plain]

theorem next_of_not_mark
    {first : Char} (plain : first ∉ marks) (rest : List Char) :
    next first rest =
      if first.isDigit then
        let (digits, rest) := (first :: rest).span Char.isDigit
        (.numeral (digits.foldl (fun value digit => value * 10 + (digit.toNat - 48)) 0), rest)
      else if startsWord first then
        let (letters, rest) := (first :: rest).span insideWord
        (.word (String.ofList letters), rest)
      else (.unreadable [first], rest) := by
  simp only [marks, List.mem_cons, List.not_mem_nil, or_false, not_or] at plain
  simp only [next, plain, if_false]

theorem readsBack_of_numeral
    (value : Nat) (rest : List Char)
    (separate : EndsBefore (.numeral value) rest) :
    ReadsBack (.numeral value) rest := by
  have allDigits : ∀ digit ∈ Nat.toDigits 10 value, digit.isDigit := by
    intro digit member
    exact Nat.isDigit_of_mem_toDigits (by omega) (by omega) member
  have whole := span_append_of_ends (Nat.toDigits 10 value) rest allDigits separate
  have folded := digits_foldl value
  cases written : Nat.toDigits 10 value with
  | nil =>
      exact absurd written Nat.toDigits_ne_nil
  | cons first others =>
      have firstDigit : first.isDigit := by
        apply allDigits
        simp [written]
      have plain : first ∉ marks := by
        intro mark
        have noDigits : marks.all (fun mark => !mark.isDigit) = true := by decide +kernel
        have notDigit := List.all_eq_true.mp noDigits first mark
        simp [firstDigit] at notDigit
      rw [written, List.cons_append] at whole
      rw [written] at folded
      refine ⟨first, others, written, isSpace_of_not_mark plain, ?_⟩
      rw [next_of_not_mark plain, if_pos firstDigit, whole]
      simp only [folded]

theorem not_isDigit_of_startsWord
    {first : Char} (starts : startsWord first) :
    first.isDigit = false := by
  by_cases underscore : first = '_'
  · subst underscore
    rfl
  · have letter : first.isAlpha := by
      simpa [startsWord, underscore] using starts
    simp only [Char.isAlpha, Char.isUpper, Char.isLower, Bool.or_eq_true, Bool.and_eq_true,
      decide_eq_true_eq, UInt32.le_iff_toNat_le] at letter
    simp only [Char.isDigit, Bool.and_eq_false_iff, decide_eq_false_iff_not,
      UInt32.le_iff_toNat_le]
    rcases letter with letter | letter
    all_goals
      right
      have lower := letter.1
      simp at lower ⊢
      omega

theorem insideWord_of_startsWord
    {first : Char} (starts : startsWord first) :
    insideWord first := by
  simp only [startsWord, insideWord, Char.isAlphanum, Bool.or_eq_true] at starts ⊢
  rcases starts with letter | underscore
  · exact Or.inl (Or.inl letter)
  · exact Or.inr underscore

theorem readsBack_of_word
    (name : String) (rest : List Char)
    (wellFormed : WellFormed (.word name))
    (separate : EndsBefore (.word name) rest) :
    ReadsBack (.word name) rest := by
  obtain ⟨first, others, letters, starts, inside⟩ := wellFormed
  have plain : first ∉ marks := by
    intro mark
    have noStarts : marks.all (fun mark => !startsWord mark) = true := by decide +kernel
    have startsNone := List.all_eq_true.mp noStarts first mark
    simp [starts] at startsNone
  have allInside : ∀ letter ∈ first :: others, insideWord letter := by
    intro letter member
    rcases List.mem_cons.mp member with isFirst | later
    · rw [isFirst]
      exact insideWord_of_startsWord starts
    · exact inside letter later
  have whole := span_append_of_ends (first :: others) rest allInside separate
  rw [List.cons_append] at whole
  refine ⟨first, others, letters, isSpace_of_not_mark plain, ?_⟩
  rw [next_of_not_mark plain, not_isDigit_of_startsWord starts, if_neg Bool.false_ne_true,
    if_pos starts, whole]
  simp only [← letters, String.ofList_toList]

/-- Every token that is written as one reads back, before whatever does not run together with
it. -/
theorem WellFormed.readsBack
    {token : Token} (wellFormed : token.WellFormed) (rest : List Char)
    (separate : token.EndsBefore rest) :
    token.ReadsBack rest := by
  cases token with
  | word name =>
      exact readsBack_of_word name rest wellFormed separate
  | numeral value =>
      exact readsBack_of_numeral value rest separate
  | text content =>
      exact readsBack_of_text content rest separate
  | opening =>
      exact ⟨'(', [], rfl, rfl, by simp [next]⟩
  | closing =>
      exact ⟨')', [], rfl, rfl, by simp [next]⟩
  | comma =>
      exact ⟨',', [], rfl, rfl, by simp [next]⟩
  | equal =>
      exact ⟨'=', [], rfl, rfl, by simp [next]⟩
  | above =>
      refine ⟨'>', [], rfl, rfl, ?_⟩
      cases rest with
      | nil =>
          simp [next]
      | cons first others =>
          have notEqual : first ≠ '=' := by
            simpa [EndsBefore] using separate
          simp [next, notEqual]
  | atLeast =>
      exact ⟨'>', ['='], rfl, rfl, by simp [next]⟩
  | atMost =>
      exact ⟨'<', ['='], rfl, rfl, by simp [next]⟩
  | unreadable characters =>
      exact False.elim wellFormed

/-! ## Lists of tokens -/

theorem endsBefore_nil (token : Token) :
    token.EndsBefore [] := by
  cases token <;> simp [EndsBefore]

/-- A written token is followed by a space or by nothing, and then by the tokens after it. -/
theorem exists_separator
    (token : Token) (others : List Token) :
    ∃ separator, (separator = [] ∨ separator = [' ']) ∧
      write (token :: others) = token.characters ++ (separator ++ write others) := by
  cases others with
  | nil =>
      exact ⟨[], Or.inl rfl, by simp [write]⟩
  | cons right others =>
      refine ⟨if token.adjoins right then [] else [' '], ite_eq_or_eq _ _ _, ?_⟩
      rw [write, List.append_assoc]

theorem exists_write_cons
    (token : Token) (others : List Token) :
    ∃ rest, write (token :: others) = token.characters ++ rest := by
  obtain ⟨separator, _, written⟩ := exists_separator token others
  exact ⟨separator ++ write others, written⟩

/-- The writer leaves nothing after a token that could run together with it. -/
theorem endsBefore_write
    (left right : Token) (others : List Token) :
    left.EndsBefore
      ((if left.adjoins right then [] else [' ']) ++ write (right :: others)) := by
  obtain ⟨rest, written⟩ := exists_write_cons right others
  by_cases together : left.adjoins right
  · rw [if_pos together, written]
    simp only [adjoins, Bool.or_eq_true, decide_eq_true_eq] at together
    rcases together with ((rfl | rfl) | rfl) | rfl
    · trivial
    · trivial
    · cases left <;> simp [EndsBefore, characters, insideWord]
    · cases left <;> simp [EndsBefore, characters, insideWord]
  · rw [if_neg together]
    cases left <;> simp [EndsBefore, insideWord]

theorem scanWithin_append
    {token : Token} {rest : List Char} (reads : token.ReadsBack rest)
    (fuel : Nat) (enough : (token.characters ++ rest).length ≤ fuel) :
    ∃ left, rest.length ≤ left ∧
      scanWithin fuel (token.characters ++ rest) = token :: scanWithin left rest := by
  obtain ⟨first, others, written, notSpace, reading⟩ := reads
  rw [written, List.cons_append] at enough ⊢
  cases fuel with
  | zero =>
      simp at enough
  | succ left =>
      refine ⟨left, ?_, ?_⟩
      · simp at enough
        omega
      · simp [scanWithin, notSpace, reading]

theorem scanWithin_space
    (rest : List Char) (fuel : Nat) (enough : (' ' :: rest).length ≤ fuel) :
    ∃ left, rest.length ≤ left ∧
      scanWithin fuel (' ' :: rest) = scanWithin left rest := by
  cases fuel with
  | zero =>
      simp at enough
  | succ left =>
      refine ⟨left, ?_, ?_⟩
      · simpa using enough
      · simp [scanWithin, isSpace]

theorem scanWithin_write
    {tokens : List Token} (wellFormed : ∀ token ∈ tokens, token.WellFormed) :
    ∀ fuel, (write tokens).length ≤ fuel → scanWithin fuel (write tokens) = tokens := by
  induction tokens with
  | nil =>
      intro fuel _
      cases fuel <;> rfl
  | cons left tokens inductionHypothesis =>
      intro fuel enough
      have leftWellFormed : left.WellFormed :=
        wellFormed left List.mem_cons_self
      have othersRead :=
        inductionHypothesis fun token member =>
          wellFormed token (List.mem_cons_of_mem left member)
      -- what follows a token decides where it ends: nothing, or the token to its right
      cases tokens with
      | nil =>
          have reads := leftWellFormed.readsBack [] (endsBefore_nil left)
          rw [write, ← List.append_nil left.characters] at enough ⊢
          obtain ⟨remaining, _, scanned⟩ := scanWithin_append reads fuel enough
          rw [scanned]
          cases remaining <;> rfl
      | cons right others =>
          have reads := leftWellFormed.readsBack _ (endsBefore_write left right others)
          rw [write, List.append_assoc] at enough ⊢
          obtain ⟨remaining, enoughLeft, scanned⟩ := scanWithin_append reads fuel enough
          rw [scanned]
          by_cases together : left.adjoins right
          · rw [if_pos together, List.nil_append] at enoughLeft ⊢
            rw [othersRead remaining enoughLeft]
          · rw [if_neg together, List.singleton_append] at enoughLeft ⊢
            obtain ⟨rest, enoughRest, skipped⟩ := scanWithin_space _ remaining enoughLeft
            rw [skipped, othersRead rest enoughRest]

/-- Written tokens are read back one for one. -/
theorem scan_write
    {tokens : List Token} (wellFormed : ∀ token ∈ tokens, token.WellFormed) :
    scan (write tokens) = tokens :=
  scanWithin_write wellFormed _ (Nat.le_refl _)

theorem not_mem_write
    {character : Char} (notSpace : character ≠ ' ') :
    ∀ {tokens : List Token},
      (∀ token ∈ tokens, character ∉ token.characters) →
        character ∉ write tokens
  | [], _ => by
      simp [write]
  | [token], absent => by
      simpa [write] using absent token List.mem_cons_self
  | left :: right :: others, absent => by
      have absentLeft : character ∉ left.characters :=
        absent left List.mem_cons_self
      have absentRight : character ∉ write (right :: others) :=
        not_mem_write notSpace fun token member =>
          absent token (List.mem_cons_of_mem left member)
      rw [write]
      by_cases together : left.adjoins right <;>
        simp [together, absentLeft, absentRight, notSpace]

theorem not_mem_quote
    {character : Char} {content : List Char}
    (notQuote : character ≠ '\'') (absent : character ∉ content) :
    character ∉ quote content := by
  have absentDoubled : character ∉ doubleQuotes content := by
    induction content with
    | nil =>
        simp [doubleQuotes]
    | cons first content inductionHypothesis =>
        simp only [List.mem_cons, not_or] at absent
        have absentRest := inductionHypothesis absent.2
        by_cases isQuote : first = '\'' <;>
          simp [doubleQuotes, isQuote, notQuote, absent.1, absentRest]
  simp [quote, notQuote, absentDoubled]

/-- A written token holds no null character, unless it is a quoted text that holds one. -/
theorem WellFormed.null_not_mem
    {token : Token} (wellFormed : token.WellFormed)
    (plain : ∀ content, token = .text content → '\x00' ∉ content) :
    '\x00' ∉ token.characters := by
  cases token with
  | word name =>
      obtain ⟨first, others, letters, starts, inside⟩ := wellFormed
      intro member
      rw [characters, letters] at member
      rcases List.mem_cons.mp member with rfl | later
      · exact absurd starts (by decide)
      · exact absurd (inside _ later) (by decide)
  | numeral value =>
      intro member
      have digit := Nat.isDigit_of_mem_toDigits (by omega) (by omega) member
      exact absurd digit (by decide)
  | text content =>
      exact not_mem_quote (by decide) (plain content rfl)
  | unreadable characters =>
      exact False.elim wellFormed
  | _ =>
      simp [characters]

end Token
end EvidenceSearch.Sql
