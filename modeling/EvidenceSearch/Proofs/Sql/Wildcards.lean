import EvidenceSearch.Proofs.Sql.Matching
import EvidenceSearch.Proofs.Text.Lowering

/-!
# What a pattern means

A pattern is matched as its characters say, one after the other: a percent sign takes any
characters, an underscore takes one, the escape character gives the next one its own meaning, and
every other character takes itself, a letter from A to Z in either case. Reading a pattern and
matching its parts decides exactly this relation. So the pattern of a text finds the text wherever
it occurs, and the percent signs, underscores and backslashes of the text stand for themselves.
-/

namespace EvidenceSearch.Sql

/-! ## Letters -/

/-- The same character, or one letter from A to Z in both of its cases. -/
def SameLetter (left right : Char) : Prop :=
  left = right ∨ (left.isUpper ∧ right.toNat = left.toNat + 32) ∨
    (right.isUpper ∧ left.toNat = right.toNat + 32)

theorem foldLetter_eq_iff {left right : Char} :
    foldLetter left = foldLetter right ↔ SameLetter left right := by
  rw [← Char.toNat_inj, foldLetter, foldLetter, toNat_toLower, toNat_toLower, SameLetter,
    ← Char.toNat_inj, isUpper_iff, isUpper_iff]
  split_ifs <;> omega

/-! ## Patterns as they are written -/

/-- The pattern matches the text. The escape character comes first: where it is a percent sign or
an underscore, these have no other meaning. -/
inductive Like (escape : Char) : List Char → List Char → Prop where
  | nil : Like escape [] []
  | percent {pattern text : List Char} (skipped : List Char) :
      '%' ≠ escape → Like escape pattern text → Like escape ('%' :: pattern) (skipped ++ text)
  | underscore {pattern text : List Char} (skipped : Char) :
      '_' ≠ escape → Like escape pattern text → Like escape ('_' :: pattern) (skipped :: text)
  | escaped {pattern text : List Char} {meant character : Char} :
      SameLetter meant character → Like escape pattern text →
        Like escape (escape :: meant :: pattern) (character :: text)
  | plain {pattern text : List Char} {expected character : Char} :
      expected ≠ escape → expected ≠ '%' → expected ≠ '_' → SameLetter expected character →
        Like escape pattern text → Like escape (expected :: pattern) (character :: text)

/-! ## Matching one part after the other -/

/-- What one part of a pattern takes from a text. -/
def PatternPart.Takes : PatternPart → List Char → Prop
  | .anything, _ => True
  | .anyOne, taken => ∃ character, taken = [character]
  | .exactly expected, taken => ∃ character, taken = [character] ∧ SameLetter expected character

/-- The part takes the front of the text and leaves what is matched after it. -/
def PatternPart.TakesFront (part : PatternPart) (matched : List Char → Prop) (text : List Char) :
    Prop :=
  ∃ taken rest, text = taken ++ rest ∧ part.Takes taken ∧ matched rest

theorem partsMatch_cons (part : PatternPart) (parts : List PatternPart) (text : List Char) :
    partsMatch (part :: parts) text ↔ part.TakesFront (fun rest => partsMatch parts rest) text := by
  cases part with
  | anything =>
      cases parts with
      | nil =>
          -- a percent sign at the end is matched without looking at the text
          exact iff_of_true rfl ⟨text, [], (List.append_nil text).symm, trivial, rfl⟩
      | cons part parts =>
          rw [partsMatch, someEnd_iff]
          · constructor
            · rintro ⟨rest, ⟨taken, rfl⟩, matched⟩
              exact ⟨taken, rest, rfl, trivial, matched⟩
            · rintro ⟨taken, rest, rfl, _, matched⟩
              exact ⟨rest, List.suffix_append taken rest, matched⟩
          · exact List.cons_ne_nil part parts
  | anyOne =>
      cases text <;> simp [partsMatch, PatternPart.TakesFront, PatternPart.Takes]
  | exactly expected =>
      cases text with
      | nil =>
          simp [partsMatch, PatternPart.TakesFront, PatternPart.Takes]
      | cons character rest =>
          rw [partsMatch, Bool.and_eq_true, decide_eq_true_eq, eq_comm, foldLetter_eq_iff]
          constructor
          · rintro ⟨same, matched⟩
            exact ⟨[character], rest, rfl, ⟨character, rfl, same⟩, matched⟩
          · rintro ⟨_, _, isText, ⟨_, rfl, same⟩, matched⟩
            obtain ⟨rfl, rfl⟩ := List.cons.inj isText
            exact ⟨same, matched⟩

variable {escape : Char} {pattern written text : List Char} {part : PatternPart}

theorem patternMatches_iff_exists_parts :
    patternMatches escape pattern text ↔
      ∃ parts, readPattern escape pattern = some parts ∧ partsMatch parts text := by
  rw [patternMatches]
  cases readPattern escape pattern <;> simp

/-- A pattern that is read as one part and another pattern matches one after the other. -/
theorem patternMatches_iff_takesFront
    (read : readPattern escape written =
      (readPattern escape pattern).map fun parts => part :: parts) :
    patternMatches escape written text ↔
      part.TakesFront (fun rest => patternMatches escape pattern rest) text := by
  simp only [patternMatches_iff_exists_parts, PatternPart.TakesFront, read,
    Option.map_eq_some_iff]
  constructor
  · rintro ⟨_, ⟨parts, isRead, rfl⟩, matched⟩
    obtain ⟨taken, rest, isText, takes, matched⟩ := (partsMatch_cons part parts text).mp matched
    exact ⟨taken, rest, isText, takes, parts, isRead, matched⟩
  · rintro ⟨taken, rest, isText, takes, parts, isRead, matched⟩
    exact
      ⟨part :: parts, ⟨parts, isRead, rfl⟩,
        (partsMatch_cons part parts text).mpr ⟨taken, rest, isText, takes, matched⟩⟩

/-! ## What each character of a pattern takes -/

theorem like_nil_iff : Like escape [] text ↔ text = [] := by
  constructor
  · intro like
    cases like
    rfl
  · rintro rfl
    exact .nil

/-- A pattern that ends with the escape character matches nothing. -/
theorem not_like_escape : ¬ Like escape [escape] text := by
  intro like
  cases like <;> contradiction

theorem like_escaped_iff {meant : Char} :
    Like escape (escape :: meant :: pattern) text ↔
      (PatternPart.exactly meant).TakesFront (Like escape pattern) text := by
  constructor
  · intro like
    cases like with
    | escaped same like =>
        exact ⟨[_], _, rfl, ⟨_, rfl, same⟩, like⟩
    | _ =>
        contradiction
  · rintro ⟨_, rest, rfl, ⟨character, rfl, same⟩, like⟩
    exact .escaped same like

theorem like_percent_iff (notEscape : '%' ≠ escape) :
    Like escape ('%' :: pattern) text ↔
      PatternPart.anything.TakesFront (Like escape pattern) text := by
  constructor
  · intro like
    cases like with
    | percent skipped _ like =>
        exact ⟨skipped, _, rfl, trivial, like⟩
    | _ =>
        contradiction
  · rintro ⟨skipped, rest, rfl, _, like⟩
    exact .percent skipped notEscape like

theorem like_underscore_iff (notEscape : '_' ≠ escape) :
    Like escape ('_' :: pattern) text ↔
      PatternPart.anyOne.TakesFront (Like escape pattern) text := by
  constructor
  · intro like
    cases like with
    | underscore skipped _ like =>
        exact ⟨[skipped], _, rfl, ⟨skipped, rfl⟩, like⟩
    | _ =>
        contradiction
  · rintro ⟨_, rest, rfl, ⟨skipped, rfl⟩, like⟩
    exact .underscore skipped notEscape like

theorem like_plain_iff
    {expected : Char} (notEscape : expected ≠ escape) (notPercent : expected ≠ '%')
    (notUnderscore : expected ≠ '_') :
    Like escape (expected :: pattern) text ↔
      (PatternPart.exactly expected).TakesFront (Like escape pattern) text := by
  constructor
  · intro like
    cases like with
    | plain _ _ _ same like =>
        exact ⟨[_], _, rfl, ⟨_, rfl, same⟩, like⟩
    | _ =>
        contradiction
  · rintro ⟨_, rest, rfl, ⟨character, rfl, same⟩, like⟩
    exact .plain notEscape notPercent notUnderscore same like

/-- Reading a pattern and matching its parts decides what the pattern says. -/
theorem patternMatches_iff_like :
    patternMatches escape pattern text ↔ Like escape pattern text := by
  induction pattern using readPattern.induct escape generalizing text with
  | case1 =>
      rw [like_nil_iff, patternMatches, readPattern]
      exact List.isEmpty_iff
  | case2 =>
      have unread : readPattern escape [escape] = none := by
        rw [readPattern, if_pos rfl]
      rw [patternMatches, unread]
      exact iff_of_false Bool.false_ne_true not_like_escape
  | case3 meant pattern inductionHypothesis =>
      rw [patternMatches_iff_takesFront (readPattern_escaped escape meant pattern),
        like_escaped_iff]
      simp only [inductionHypothesis]
  | case4 pattern notEscape inductionHypothesis =>
      rw [patternMatches_iff_takesFront (readPattern_anything notEscape pattern),
        like_percent_iff notEscape]
      simp only [inductionHypothesis]
  | case5 pattern notEscape _ inductionHypothesis =>
      rw [patternMatches_iff_takesFront (readPattern_anyOne notEscape pattern),
        like_underscore_iff notEscape]
      simp only [inductionHypothesis]
  | case6 expected pattern notEscape notPercent notUnderscore inductionHypothesis =>
      rw [patternMatches_iff_takesFront
          (readPattern_plain notEscape notPercent notUnderscore pattern),
        like_plain_iff notEscape notPercent notUnderscore]
      simp only [inductionHypothesis]

/-! ## Finding a text -/

/-- The text stands somewhere in the content, one character after the other, letters from A to Z
in either case. -/
def StandsIn (text content : List Char) : Prop :=
  ∃ before found after, content = before ++ found ++ after ∧ List.Forall₂ SameLetter text found

theorem map_foldLetter_eq_iff {left right : List Char} :
    left.map foldLetter = right.map foldLetter ↔ List.Forall₂ SameLetter left right := by
  rw [← List.forall₂_eq_eq_eq, List.forall₂_map_left_iff, List.forall₂_map_right_iff]
  simp only [foldLetter_eq_iff]

theorem occursIn_iff_standsIn {content : List Char} :
    OccursIn text content ↔ StandsIn text content := by
  constructor
  · rintro ⟨before, after, split⟩
    obtain ⟨front, last, rfl, isFront, _⟩ := List.map_eq_append_iff.mp split.symm
    obtain ⟨first, found, rfl, _, isFound⟩ := List.map_eq_append_iff.mp isFront
    exact ⟨first, found, last, rfl, map_foldLetter_eq_iff.mp isFound.symm⟩
  · rintro ⟨before, found, after, rfl, same⟩
    refine ⟨before.map foldLetter, after.map foldLetter, ?_⟩
    rw [map_foldLetter_eq_iff.mpr same, List.map_append, List.map_append]

/-- Between its two percent signs, the pattern of a text has every character of the text stand for
itself. It matches exactly the contents in which the text stands: so says the pattern, and so
decides the matcher. -/
theorem substringPattern_finds_text (text : String) (content : List Char) :
    readPattern '\\' (substringPattern text) =
        some (.anything :: (text.toList.map .exactly ++ [.anything])) ∧
      (Like '\\' (substringPattern text) content ↔ StandsIn text.toList content) ∧
      (patternMatches '\\' (substringPattern text) content = true ↔
        StandsIn text.toList content) := by
  have decides :
      patternMatches '\\' (substringPattern text) content = true ↔
        StandsIn text.toList content :=
    (patternMatches_substringPattern text content).trans occursIn_iff_standsIn
  exact ⟨readPattern_substringPattern text, patternMatches_iff_like.symm.trans decides, decides⟩

/-- A percent sign and a backslash at the end of a text are looked for as they are. -/
example :
    patternMatches '\\' (substringPattern "5%\\") "A5%\\b".toList = true ∧
      patternMatches '\\' (substringPattern "5%\\") "5abc\\".toList = false := by
  decide +kernel

end EvidenceSearch.Sql
