import EvidenceSearch.Proofs.Sql.Scanning
import EvidenceSearch.Sql.Condition

/-!
# Clauses that are cut

A clause ends at its first null character. If that character stands in a quoted text, the closing
quote is gone and the clause can not be read. Counting quotes shows this: every token that can be
read takes an even number of them, but what is left of the clause holds an odd number.
-/

namespace EvidenceSearch.Sql

/-! ## Quotes of a written token -/

theorem count_doubleQuotes (content : List Char) :
    (doubleQuotes content).count '\'' = 2 * content.count '\'' := by
  induction content with
  | nil =>
      rfl
  | cons first content inductionHypothesis =>
      by_cases isQuote : first = '\''
      · simp [doubleQuotes, isQuote, inductionHypothesis]
        omega
      · simp [doubleQuotes, isQuote, inductionHypothesis]

/-- What a clause holds before its first null character. -/
def beforeNull (text : List Char) : List Char :=
  text.takeWhile fun character => character ≠ '\x00'

theorem beforeNull_cons
    {first : Char} (notNull : first ≠ '\x00') (rest : List Char) :
    beforeNull (first :: rest) = first :: beforeNull rest :=
  List.takeWhile_cons_of_pos (by simpa using notNull)

theorem beforeNull_append
    {text : List Char} (plain : '\x00' ∉ text) (rest : List Char) :
    beforeNull (text ++ rest) = text ++ beforeNull rest := by
  refine List.takeWhile_append_of_pos fun character member => ?_
  have notNull : character ≠ '\x00' := by
    rintro rfl
    exact plain member
  simpa using notNull

/-- Cut inside, a text with doubled quotes still holds an even number of them: a quote and its
double stand side by side. -/
theorem count_beforeNull_doubleQuotes
    {content : List Char} (holdsNull : '\x00' ∈ content) (rest : List Char) :
    (beforeNull (doubleQuotes content ++ rest)).count '\'' % 2 = 0 := by
  induction content with
  | nil =>
      simp at holdsNull
  | cons first content inductionHypothesis =>
      by_cases isNull : first = '\x00'
      · simp [doubleQuotes, isNull, beforeNull]
      · have later := inductionHypothesis (by simpa [Ne.symm isNull] using holdsNull)
        by_cases isQuote : first = '\''
        · have notNull : '\'' ≠ '\x00' := by decide
          rw [doubleQuotes, if_pos isQuote, List.cons_append, List.cons_append,
            beforeNull_cons notNull, beforeNull_cons notNull]
          simp only [List.count_cons_self]
          omega
        · rw [doubleQuotes, if_neg isQuote, List.cons_append, beforeNull_cons isNull,
            List.count_cons_of_ne isQuote]
          exact later

namespace Token

theorem WellFormed.quotes_even
    {token : Token} (wellFormed : token.WellFormed) :
    token.characters.count '\'' % 2 = 0 := by
  cases token with
  | word name =>
      obtain ⟨first, others, letters, starts, inside⟩ := wellFormed
      have noQuote : '\'' ∉ first :: others := by
        intro member
        rcases List.mem_cons.mp member with rfl | later
        · exact absurd starts (by decide)
        · exact absurd (inside _ later) (by decide)
      rw [characters, letters, List.count_eq_zero.mpr noQuote]
  | numeral value =>
      have noQuote : '\'' ∉ Nat.toDigits 10 value := by
        intro member
        have digit := Nat.isDigit_of_mem_toDigits (by omega) (by omega) member
        exact absurd digit (by decide)
      rw [characters, List.count_eq_zero.mpr noQuote]
  | text content =>
      simp [characters, quote, count_doubleQuotes]
      omega
  | unreadable characters =>
      exact False.elim wellFormed
  | _ =>
      decide

/-! ## Quotes that reading takes -/

theorem quotes_of_readQuoted
    {done text content rest : List Char} (read : readQuoted done text = some (content, rest)) :
    rest.length < text.length ∧ (text.count '\'' + rest.count '\'') % 2 = 1 := by
  induction done, text using readQuoted.induct with
  | case1 done =>
      simp [readQuoted] at read
  | case2 done text inductionHypothesis =>
      rw [readQuoted] at read
      obtain ⟨shorter, odd⟩ := inductionHypothesis read
      simp only [List.length_cons, List.count_cons_self]
      omega
  | case3 done text notDoubled =>
      rw [readQuoted, if_pos rfl] at read
      · obtain ⟨rfl, rfl⟩ := Option.some.inj read
        simp only [List.length_cons, List.count_cons_self]
        omega
      · exact notDoubled
  | case4 done first text notDoubled notQuote inductionHypothesis =>
      rw [readQuoted, if_neg notQuote] at read
      · obtain ⟨shorter, odd⟩ := inductionHypothesis read
        rw [List.length_cons, List.count_cons_of_ne notQuote]
        omega
      · exact notDoubled

theorem count_dropWhile
    {accepts : Char → Bool} (refuses : accepts '\'' = false) (text : List Char) :
    (text.dropWhile accepts).count '\'' = text.count '\'' := by
  have noQuote : '\'' ∉ text.takeWhile accepts := by
    intro member
    have accepted := List.mem_takeWhile_imp member
    simp [refuses] at accepted
  have parts := List.takeWhile_append_dropWhile (p := accepts) (l := text)
  have split := congrArg (List.count '\'') parts
  rw [List.count_append, List.count_eq_zero.mpr noQuote] at split
  omega

theorem span_takes_no_quote
    {accepts : Char → Bool} {first : Char} {rest : List Char} (accepted : accepts first = true)
    (refuses : accepts '\'' = false) :
    ((first :: rest).span accepts).2.length ≤ rest.length ∧
      ((first :: rest).span accepts).2.count '\'' = rest.count '\'' := by
  rw [List.span_eq_takeWhile_dropWhile, List.dropWhile_cons_of_pos accepted]
  exact ⟨(List.dropWhile_suffix accepts).length_le, count_dropWhile refuses rest⟩

/-- A token that starts with no quote takes none. -/
theorem quotes_of_next_other
    {first : Char} {rest after : List Char} {token : Token} (notQuote : first ≠ '\'')
    (read : next first rest = (token, after))
    (readable : ∀ characters, token ≠ .unreadable characters) :
    after.length ≤ rest.length ∧ after.count '\'' = rest.count '\'' := by
  simp only [next, notQuote, if_false] at read
  split_ifs at read with _ _ _ _ _ _ isDigit starts
  case pos | pos | pos | pos =>
    obtain ⟨rfl, rfl⟩ := Prod.mk.inj read
    exact ⟨Nat.le_refl _, rfl⟩
  · -- a sign may take the equals sign after it, which is no quote
    split at read
    · obtain ⟨rfl, rfl⟩ := Prod.mk.inj read
      exact ⟨by simp, by simp⟩
    · obtain ⟨rfl, rfl⟩ := Prod.mk.inj read
      exact ⟨Nat.le_refl _, rfl⟩
  · split at read
    · obtain ⟨rfl, rfl⟩ := Prod.mk.inj read
      exact ⟨by simp, by simp⟩
    · obtain ⟨rfl, rfl⟩ := Prod.mk.inj read
      exact absurd rfl (readable _)
  · obtain ⟨rfl, rfl⟩ := Prod.mk.inj read
    exact span_takes_no_quote isDigit (by decide)
  · obtain ⟨rfl, rfl⟩ := Prod.mk.inj read
    exact span_takes_no_quote (insideWord_of_startsWord starts) (by decide)
  · obtain ⟨rfl, rfl⟩ := Prod.mk.inj read
    exact absurd rfl (readable _)

/-- A token takes an even number of quotes, unless it can not be read. -/
theorem quotes_of_next
    {first : Char} {rest after : List Char} {token : Token}
    (read : next first rest = (token, after))
    (readable : ∀ characters, token ≠ .unreadable characters) :
    after.length ≤ rest.length ∧ ((first :: rest).count '\'' + after.count '\'') % 2 = 0 := by
  by_cases isQuote : first = '\''
  · subst isQuote
    cases quoted : readQuoted [] rest with
    | none =>
        simp only [next, quoted] at read
        obtain ⟨rfl, rfl⟩ := Prod.mk.inj read
        exact absurd rfl (readable _)
    | some pair =>
        obtain ⟨content, others⟩ := pair
        simp only [next, quoted] at read
        obtain ⟨rfl, rfl⟩ := Prod.mk.inj read
        obtain ⟨shorter, odd⟩ := quotes_of_readQuoted quoted
        rw [List.count_cons_self]
        omega
  · obtain ⟨shorter, same⟩ := quotes_of_next_other isQuote read readable
    rw [List.count_cons_of_ne isQuote]
    omega

theorem quotes_of_scanWithin
    {fuel : Nat} {text : List Char} (enough : text.length ≤ fuel)
    (readable : ∀ characters, .unreadable characters ∉ scanWithin fuel text) :
    text.count '\'' % 2 = 0 := by
  induction fuel generalizing text with
  | zero =>
      obtain rfl := List.length_eq_zero_iff.mp (Nat.le_zero.mp enough)
      rfl
  | succ fuel inductionHypothesis =>
      cases text with
      | nil =>
          rfl
      | cons first rest =>
          rw [List.length_cons] at enough
          by_cases blank : isSpace first = true
          · have notQuote : first ≠ '\'' := by
              rintro rfl
              exact absurd blank (by decide)
            rw [List.count_cons_of_ne notQuote]
            refine inductionHypothesis (by omega) fun characters member => ?_
            refine readable characters ?_
            rwa [scanWithin, if_pos blank]
          · obtain ⟨token, after, read⟩ : ∃ token after, next first rest = (token, after) :=
              ⟨_, _, rfl⟩
            have scanned :
                scanWithin (fuel + 1) (first :: rest) = token :: scanWithin fuel after := by
              rw [scanWithin, if_neg blank, read]
            simp only [scanned, List.mem_cons, not_or] at readable
            obtain ⟨shorter, even⟩ :=
              quotes_of_next read fun characters => Ne.symm (readable characters).1
            have later := inductionHypothesis (by omega) fun characters => (readable characters).2
            omega

/-! ## Cut clauses -/

theorem mem_write
    {tokens : List Token} {token : Token} {character : Char} (member : token ∈ tokens)
    (inToken : character ∈ token.characters) :
    character ∈ write tokens := by
  induction tokens with
  | nil =>
      simp at member
  | cons first others inductionHypothesis =>
      rcases List.mem_cons.mp member with rfl | inOthers
      · obtain ⟨rest, written⟩ := exists_write_cons token others
        rw [written]
        exact List.mem_append_left rest inToken
      · have later := inductionHypothesis inOthers
        cases others with
        | nil =>
            simp at inOthers
        | cons second others =>
            rw [write]
            exact List.mem_append_right _ later

theorem mem_quote
    {content : List Char} {character : Char} (member : character ∈ content) :
    character ∈ quote content := by
  have doubled : character ∈ doubleQuotes content := by
    induction content with
    | nil =>
        simp at member
    | cons first content inductionHypothesis =>
        rcases List.mem_cons.mp member with rfl | later
        · rw [doubleQuotes]
          split <;> simp [*]
        · have inRest := inductionHypothesis later
          rw [doubleQuotes]
          split <;> simp [inRest]
  simp [quote, doubled]

/-- A quoted text that is cut inside leaves one quote without its partner. -/
theorem quotes_of_cut_text
    {content : List Char} (holdsNull : '\x00' ∈ content) (rest : List Char) :
    (beforeNull (quote content ++ rest)).count '\'' % 2 = 1 := by
  have even := count_beforeNull_doubleQuotes holdsNull (['\''] ++ rest)
  rw [quote, List.cons_append, beforeNull_cons (by decide), List.append_assoc,
    List.count_cons_self]
  omega

theorem quotes_of_cut_write
    {tokens : List Token} (wellFormed : ∀ token ∈ tokens, token.WellFormed)
    (holdsNull : '\x00' ∈ write tokens) :
    (beforeNull (write tokens)).count '\'' % 2 = 1 := by
  induction tokens with
  | nil =>
      simp [write] at holdsNull
  | cons token tokens inductionHypothesis =>
      have tokenWellFormed := wellFormed token List.mem_cons_self
      obtain ⟨separator, isSeparator, written⟩ := exists_separator token tokens
      have plain : '\x00' ∉ separator := by
        rcases isSeparator with rfl | rfl <;> decide
      have noQuote : separator.count '\'' = 0 := by
        rcases isSeparator with rfl | rfl <;> decide
      rw [written] at holdsNull ⊢
      -- the clause is cut in this token, which then is a quoted text, or in a later one
      by_cases cutHere : '\x00' ∈ token.characters
      · obtain ⟨content, rfl, inContent⟩ :
            ∃ content, token = .text content ∧ '\x00' ∈ content := by
          by_contra noText
          push Not at noText
          exact tokenWellFormed.null_not_mem noText cutHere
        exact quotes_of_cut_text inContent _
      · have later : '\x00' ∈ write tokens := by
          simpa [cutHere, plain] using holdsNull
        have odd :=
          inductionHypothesis (fun other member => wellFormed other (List.mem_cons_of_mem _ member))
            later
        have even := tokenWellFormed.quotes_even
        rw [beforeNull_append cutHere, beforeNull_append plain, List.count_append,
          List.count_append]
        omega

end Token

namespace Reading

theorem step_unreadable (reading : Reading) (characters : List Char) :
    ∃ error, step reading (.unreadable characters) = .error error := by
  obtain ⟨phase, frame, outer⟩ := reading
  cases phase <;> exact ⟨_, rfl⟩

theorem foldlM_step_unreadable
    {tokens : List Token} {characters : List Char} (member : .unreadable characters ∈ tokens)
    (reading : Reading) :
    ∃ error, tokens.foldlM step reading = .error error := by
  induction tokens generalizing reading with
  | nil =>
      simp at member
  | cons token tokens inductionHypothesis =>
      rw [List.foldlM_cons]
      cases stepped : step reading token with
      | error error =>
          exact ⟨error, rfl⟩
      | ok after =>
          rcases List.mem_cons.mp member with rfl | inOthers
          · obtain ⟨error, fails⟩ := step_unreadable reading characters
            cases fails.symm.trans stepped
          · exact inductionHypothesis inOthers after

end Reading

/-- A clause with a null character can not be read: that character stands in a quoted text. -/
theorem ofClause_eq_error
    {tokens : List Token} (wellFormed : ∀ token ∈ tokens, token.WellFormed)
    (holdsNull : '\x00' ∈ Token.write tokens) :
    ∃ error, Condition.ofClause (Token.write tokens) = .error error := by
  have odd := Token.quotes_of_cut_write wellFormed holdsNull
  obtain ⟨characters, member⟩ :
      ∃ characters, .unreadable characters ∈ Token.scan (beforeNull (Token.write tokens)) := by
    by_contra readable
    push Not at readable
    have even := Token.quotes_of_scanWithin (Nat.le_refl _) readable
    omega
  obtain ⟨error, fails⟩ := Reading.foldlM_step_unreadable member Reading.initial
  have read :
      Condition.ofClause (Token.write tokens) =
        Condition.ofTokens (Token.scan (beforeNull (Token.write tokens))) :=
    rfl
  refine ⟨error, ?_⟩
  rw [read, Condition.ofTokens, fails]
  rfl

end EvidenceSearch.Sql
