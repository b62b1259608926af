import EvidenceSearch.Proofs.Filter.Meaning
import EvidenceSearch.Proofs.Sql.Cutting
import EvidenceSearch.Proofs.Sql.Reading

/-!
# The conditions that filters write

Every filter that asks the case store writes one condition, its values joined by OR; the clause of
several filters writes their conditions joined by AND. Reading the clause gives exactly this
condition back, whatever texts the filters hold.
-/

namespace EvidenceSearch

open Sql

/-! ## The conditions -/

/-- A whole number as a quoted literal. -/
def wholeOperand (value : Int) : Operand :=
  .text (toString value).toList

/-- What a size range asks, as a condition. -/
def SizeRange.condition (range : SizeRange) : Condition :=
  match range.high with
  | none => .compare (.column "size") .atLeast (wholeOperand range.low)
  | some high =>
      .both (.compare (.column "size") .above (wholeOperand range.low))
        (.compare (.column "size") .atMost (wholeOperand high))

/-- What a path to look for asks, as a condition. -/
def PathChoice.condition (path : PathChoice) : Condition :=
  if path.term.whole then .compare (.column "parent_path") .equal (.text path.term.text.toList)
  else .like (.column "parent_path") (substringPattern path.term.text) '\\'

/-- A test whether a column holds one of some texts. -/
def membershipCondition (column : String) (texts : List (List Char)) : Condition :=
  .among (.column column) (texts.map Operand.text)

/-- What keyword lists ask of the attributes of artifacts. -/
def listCondition (names : List String) : Condition :=
  .both
    (.both (.compare (.column "artifact_type_id") .equal (.number keywordHitType))
      (.compare (.column "attribute_type_id") .equal (.number listNameType)))
    (membershipCondition "value_text" (names.map String.toList))

/-- What keyword lists ask, as a condition. -/
def keywordCondition (names : List String) : Condition :=
  .within (.column "obj_id") "obj_id" "blackboard_artifacts"
    (.within (.column "artifact_id") "artifact_id" "blackboard_attributes" (listCondition names))

/-- Conditions of some values, joined by OR. -/
def Choices.condition {Entry : Type} (write : Entry → Condition) (choices : Choices Entry) :
    Condition :=
  (choices.others.map write).foldl .either (write choices.first)

namespace Filter

/-- What a filter asks the case store, as a condition. -/
def condition? : Filter → Option Condition
  | .size ranges => some (ranges.condition SizeRange.condition)
  | .parent paths => some (paths.condition PathChoice.condition)
  | .dataSource sources =>
      some (membershipCondition "data_source_obj_id"
        (sources.toList.map fun source => (toString source.id).toList))
  | .keywordList lists => some (keywordCondition (lists.toList.map ListChoice.name))
  | .fileType types =>
      some (membershipCondition "mime_type"
        ((types.toList.flatMap fun choice => choice.type.mediaTypes).map String.toList))
  | .frequency _ => none

/-- What all filters together ask the case store, as a condition. -/
def conjunction? (filters : List Filter) : Option Condition :=
  match filters.filterMap condition? with
  | [] => none
  | first :: others => some (others.foldl .both first)

end Filter

/-! ## Readable tokens -/

/-- A token that is written as one; if texts are to be free of null characters, so is its own. -/
def Sql.Token.Readable (nullFree : Prop) (token : Token) : Prop :=
  token.WellFormed ∧ ∀ content, token = .text content → nullFree → '\x00' ∉ content

variable {nullFree : Prop}

namespace Sql.Token

/-- A check whether a token is readable. -/
def isPlain : Token → Bool
  | .word name =>
      match name.toList with
      | [] => false
      | first :: others => startsWord first && others.all insideWord
  | .text content => !content.contains '\x00'
  | .unreadable _ => false
  | _ => true

theorem readable_of_isPlain
    {token : Token} (plain : token.isPlain = true) :
    token.Readable nullFree := by
  cases token with
  | word name =>
      refine ⟨?_, nofun⟩
      cases written : name.toList with
      | nil =>
          simp [isPlain, written] at plain
      | cons first others =>
          simp only [isPlain, written, Bool.and_eq_true, List.all_eq_true] at plain
          exact ⟨first, others, written, plain.1, plain.2⟩
  | text content =>
      refine ⟨trivial, ?_⟩
      rintro _ ⟨rfl⟩ _
      simpa [isPlain] using plain
  | unreadable characters =>
      simp [isPlain] at plain
  | _ =>
      exact ⟨trivial, nofun⟩

theorem readable_text
    {content : List Char} (plain : nullFree → '\x00' ∉ content) :
    Readable nullFree (.text content) := by
  refine ⟨trivial, ?_⟩
  rintro _ ⟨rfl⟩
  exact plain

end Sql.Token

theorem mem_joinTokens
    {separator token : Token} {lists : List (List Token)}
    (member : token ∈ joinTokens separator lists) :
    token = separator ∨ ∃ tokens ∈ lists, token ∈ tokens := by
  cases lists with
  | nil =>
      simp [joinTokens] at member
  | cons first others =>
      rw [Reading.joinTokens_cons, List.mem_append, List.mem_flatMap] at member
      rcases member with inFirst | ⟨tokens, isOther, inOther⟩
      · exact Or.inr ⟨first, List.mem_cons_self, inFirst⟩
      · rcases List.mem_cons.mp inOther with isSeparator | inTokens
        · exact Or.inl isSeparator
        · exact Or.inr ⟨tokens, List.mem_cons_of_mem first isOther, inTokens⟩

theorem mem_joinTokens_of_mem
    {separator token : Token} {tokens : List Token} {lists : List (List Token)}
    (inTokens : token ∈ tokens) (isMember : tokens ∈ lists) :
    token ∈ joinTokens separator lists := by
  cases lists with
  | nil =>
      simp at isMember
  | cons first others =>
      rw [Reading.joinTokens_cons, List.mem_append, List.mem_flatMap]
      rcases List.mem_cons.mp isMember with rfl | isOther
      · exact Or.inl inTokens
      · exact Or.inr ⟨tokens, isOther, List.mem_cons_of_mem separator inTokens⟩

/-- Every token of the list is readable. -/
def AllReadable (nullFree : Prop) (tokens : List Token) : Prop :=
  ∀ token ∈ tokens, token.Readable nullFree

theorem allReadable_joinTokens
    {separator : Token} {lists : List (List Token)}
    (separatorReadable : separator.Readable nullFree)
    (each : ∀ tokens ∈ lists, AllReadable nullFree tokens) :
    AllReadable nullFree (joinTokens separator lists) := by
  intro token member
  rcases mem_joinTokens member with rfl | ⟨tokens, isMember, inTokens⟩
  · exact separatorReadable
  · exact each tokens isMember token inTokens

theorem allReadable_of_all
    {tokens : List Token} (plain : tokens.all Token.isPlain = true) :
    AllReadable nullFree tokens := by
  intro token member
  exact Token.readable_of_isPlain (List.all_eq_true.mp plain token member)

theorem allReadable_append
    {first others : List Token} (firstReadable : AllReadable nullFree first)
    (othersReadable : AllReadable nullFree others) :
    AllReadable nullFree (first ++ others) := by
  intro token member
  rcases List.mem_append.mp member with inFirst | inOthers
  · exact firstReadable token inFirst
  · exact othersReadable token inOthers

theorem allReadable_singleton
    {token : Token} (readable : token.Readable nullFree) :
    AllReadable nullFree [token] := by
  intro other member
  rw [List.mem_singleton.mp member]
  exact readable

theorem allReadable_bracketTokens
    {tokens : List Token} (readable : AllReadable nullFree tokens) :
    AllReadable nullFree (bracketTokens tokens) := by
  have opening : AllReadable nullFree [Token.opening] := allReadable_of_all rfl
  have closing : AllReadable nullFree [Token.closing] := allReadable_of_all rfl
  exact allReadable_append opening (allReadable_append readable closing)

theorem allReadable_membershipTokens
    {column : String} {literals : List Token}
    (columnReadable : (Token.word column).Readable nullFree)
    (literalsReadable : AllReadable nullFree literals) :
    AllReadable nullFree (membershipTokens column literals) := by
  have commaReadable : Token.comma.Readable nullFree := Token.readable_of_isPlain rfl
  have start : AllReadable nullFree [.word column, .word "IN"] :=
    allReadable_append (allReadable_singleton columnReadable) (allReadable_of_all (by decide))
  apply allReadable_append start
  apply allReadable_bracketTokens
  apply allReadable_joinTokens commaReadable
  intro tokens member
  obtain ⟨literal, isLiteral, rfl⟩ := List.mem_map.mp member
  exact allReadable_singleton (literalsReadable literal isLiteral)

theorem readable_textToken
    {text : String} (plain : nullFree → '\x00' ∉ text.toList) :
    (textToken text).Readable nullFree :=
  Token.readable_text plain

theorem null_not_mem_toString (value : Int) : '\x00' ∉ (toString value).toList := by
  have noDigit : ∀ value : Nat, '\x00' ∉ Nat.toDigits 10 value := by
    intro value member
    have digit := Nat.isDigit_of_mem_toDigits (by omega) (by omega) member
    exact absurd digit (by decide)
  cases value with
  | ofNat value =>
      change '\x00' ∉ value.repr.toList
      rw [Nat.toList_repr]
      exact noDigit value
  | negSucc value =>
      change '\x00' ∉ ("-" ++ (value + 1).repr).toList
      rw [String.toList_append, Nat.toList_repr, List.mem_append, not_or]
      exact ⟨by decide, noDigit (value + 1)⟩

theorem readable_wholeToken (value : Int) : (wholeToken value).Readable nullFree :=
  readable_textToken fun _ => null_not_mem_toString value

/-! ## Reading values -/

theorem SizeRange.allReadable (range : SizeRange) : AllReadable nullFree range.tokens := by
  have bound (value : Int) : AllReadable nullFree [wholeToken value] :=
    allReadable_singleton (readable_wholeToken value)
  cases high : range.high with
  | none =>
      have start : AllReadable nullFree [.word "size", .atLeast] := allReadable_of_all (by decide)
      rw [SizeRange.tokens, high]
      exact allReadable_append start (bound range.low)
  | some upper =>
      have start : AllReadable nullFree [.word "size", .above] := allReadable_of_all (by decide)
      have middle : AllReadable nullFree [.word "AND", .word "size", .atMost] :=
        allReadable_of_all (by decide)
      rw [SizeRange.tokens, high]
      exact
        allReadable_append start
          (allReadable_append (bound range.low) (allReadable_append middle (bound upper)))

/-- An open size range is one comparison, any other is two that are joined by AND; without brackets
it fills a bracket, it is no term. -/
theorem SizeRange.fills (range : SizeRange) : Reading.Fills range.tokens range.condition := by
  have lowerTerm (relationToken : Token) (relation : Relation) (bound : Int)
      (isRelation :
        Reading.afterOperand (.column "size") relationToken =
          .ok (.compared (.column "size") relation)) :
      Reading.IsTerm [.word "size", relationToken, wholeToken bound]
        (.compare (.column "size") relation (wholeOperand bound)) :=
    Reading.isTerm_compare rfl isRelation rfl
  cases high : range.high with
  | none =>
      have fills :=
        Reading.fills_conjunction
          (_, _) [] (by
            intro term member
            rw [List.mem_singleton.mp member]
            exact lowerTerm .atLeast .atLeast range.low rfl)
      simpa [SizeRange.tokens, SizeRange.condition, high, joinTokens] using fills
  | some bound =>
      have fills :=
        Reading.fills_conjunction
          ([.word "size", .above, wholeToken range.low],
            .compare (.column "size") .above (wholeOperand range.low))
          [([.word "size", .atMost, wholeToken bound],
            .compare (.column "size") .atMost (wholeOperand bound))]
          (by
            intro term member
            simp only [List.mem_cons, List.not_mem_nil, or_false] at member
            rcases member with rfl | rfl
            · exact lowerTerm .above .above range.low rfl
            · exact lowerTerm .atMost .atMost bound rfl)
      simpa [SizeRange.tokens, SizeRange.condition, high, joinTokens] using fills

theorem fills_of_isTerm
    {tokens : List Token} {condition : Condition} (isTerm : Reading.IsTerm tokens condition) :
    Reading.Fills tokens condition := by
  have fills :=
    Reading.fills_conjunction (tokens, condition) [] (by
      intro term member
      rw [List.mem_singleton.mp member]
      exact isTerm)
  simpa [joinTokens] using fills

theorem PathChoice.allReadable
    (path : PathChoice) (plain : nullFree → '\x00' ∉ path.term.text.toList) :
    AllReadable nullFree path.tokens := by
  by_cases whole : path.term.whole = true
  · have start : AllReadable nullFree [.word "parent_path", .equal] :=
      allReadable_of_all (by decide)
    rw [PathChoice.tokens, if_pos whole]
    exact allReadable_append start (allReadable_singleton (readable_textToken plain))
  · have start : AllReadable nullFree [.word "parent_path", .word "LIKE"] :=
      allReadable_of_all (by decide)
    have ending : AllReadable nullFree [.word "ESCAPE", .text ['\\']] :=
      allReadable_of_all (by decide)
    have patternPlain : nullFree → '\x00' ∉ substringPattern path.term.text := by
      rw [mem_substringPattern_iff (by decide) (by decide)]
      exact plain
    rw [PathChoice.tokens, if_neg whole]
    exact
      allReadable_append start
        (allReadable_append (allReadable_singleton (Token.readable_text patternPlain)) ending)

theorem PathChoice.isTerm (path : PathChoice) : Reading.IsTerm path.tokens path.condition := by
  by_cases whole : path.term.whole = true
  · rw [PathChoice.tokens, PathChoice.condition, if_pos whole, if_pos whole]
    exact Reading.isTerm_compare rfl rfl rfl
  · rw [PathChoice.tokens, PathChoice.condition, if_neg whole, if_neg whole]
    exact Reading.isTerm_like rfl (substringPattern path.term.text) '\\'

/-! ## Reading filters -/

theorem isTerm_membershipCondition
    {column : String} (isName : Reading.name (.word column) = .ok column)
    {texts : List (List Char)} (filled : texts ≠ []) :
    Reading.IsTerm (membershipTokens column (texts.map Token.text))
      (membershipCondition column texts) :=
  Reading.isTerm_membership isName filled

theorem allReadable_texts
    {texts : List String} (plain : nullFree → ∀ text ∈ texts, '\x00' ∉ text.toList) :
    AllReadable nullFree (texts.map textToken) := by
  intro token member
  obtain ⟨text, isText, rfl⟩ := List.mem_map.mp member
  exact readable_textToken fun free => plain free text isText

theorem allReadable_keywordTokens
    {names : List String} (plain : nullFree → ∀ name ∈ names, '\x00' ∉ name.toList) :
    AllReadable nullFree (keywordTokens names) := by
  have members : AllReadable nullFree (membershipTokens "value_text" (names.map textToken)) :=
    allReadable_membershipTokens (Token.readable_of_isPlain (by decide)) (allReadable_texts plain)
  have tests :
      AllReadable nullFree
        [.word "artifact_type_id", .equal, .numeral keywordHitType, .word "AND",
          .word "attribute_type_id", .equal, .numeral listNameType, .word "AND"] :=
    allReadable_of_all (by decide)
  have attributes :
      AllReadable nullFree
        [.word "SELECT", .word "artifact_id", .word "FROM", .word "blackboard_attributes",
          .word "WHERE"] :=
    allReadable_of_all (by decide)
  have artifacts :
      AllReadable nullFree
        [.word "SELECT", .word "obj_id", .word "FROM", .word "blackboard_artifacts",
          .word "WHERE", .word "artifact_id", .word "IN"] :=
    allReadable_of_all (by decide)
  have start : AllReadable nullFree [.word "obj_id", .word "IN"] := allReadable_of_all (by decide)
  have inner :=
    allReadable_bracketTokens (allReadable_append attributes (allReadable_append tests members))
  exact
    allReadable_append start (allReadable_bracketTokens (allReadable_append artifacts inner))

/-- The tests of an inner query are joined by AND, and each inner query is one term. -/
theorem isTerm_keywordTokens
    {names : List String} (filled : names ≠ []) :
    Reading.IsTerm (keywordTokens names) (keywordCondition names) := by
  have literals : names.map textToken = (names.map String.toList).map Token.text := by
    simp [textToken]
  have members :
      Reading.IsTerm (membershipTokens "value_text" (names.map textToken))
        (membershipCondition "value_text" (names.map String.toList)) := by
    rw [literals]
    exact isTerm_membershipCondition rfl (by simpa using filled)
  have listFills :=
    Reading.fills_conjunction
      ([.word "artifact_type_id", .equal, .numeral keywordHitType],
        .compare (.column "artifact_type_id") .equal (.number keywordHitType))
      [([.word "attribute_type_id", .equal, .numeral listNameType],
          .compare (.column "attribute_type_id") .equal (.number listNameType)),
        (membershipTokens "value_text" (names.map textToken),
          membershipCondition "value_text" (names.map String.toList))]
      (by
        intro term member
        simp only [List.mem_cons, List.not_mem_nil, or_false] at member
        rcases member with rfl | rfl | rfl
        · exact Reading.isTerm_compare rfl rfl rfl
        · exact Reading.isTerm_compare rfl rfl rfl
        · exact members)
  have attributes :
      Reading.IsTerm (Reading.queryTokens "artifact_id" "artifact_id" "blackboard_attributes" _)
        (.within (.column "artifact_id") "artifact_id" "blackboard_attributes"
          (listCondition names)) :=
    Reading.isTerm_queryTokens rfl rfl rfl listFills
  have artifacts :
      Reading.IsTerm (Reading.queryTokens "obj_id" "obj_id" "blackboard_artifacts" _)
        (keywordCondition names) :=
    Reading.isTerm_queryTokens rfl rfl rfl (fills_of_isTerm attributes)
  exact artifacts

/-- Each of several size ranges stands in brackets, a single one does not need them. -/
theorem fills_sizes
    {ranges : Choices SizeRange} {tokens : List Token}
    (asks : (Filter.size ranges).tokens? = some tokens) :
    Reading.Fills tokens (ranges.condition SizeRange.condition) := by
  have written := Option.some.inj asks
  cases listed : ranges.others with
  | nil =>
      have single : ranges.toList = [ranges.first] := by
        rw [Choices.toList, listed]
      rw [single] at written
      rw [← written, Choices.condition, listed]
      exact ranges.first.fills
  | cons second others =>
      have several : ranges.toList = ranges.first :: second :: others := by
        rw [Choices.toList, listed]
      rw [several] at written
      have bracketed (range : SizeRange) :
          Reading.IsTerm (bracketTokens range.tokens) range.condition :=
        Reading.isTerm_bracketTokens range.fills
      have fills :=
        Reading.fills_disjunction (bracketTokens ranges.first.tokens, ranges.first.condition)
          ((second :: others).map fun range => (bracketTokens range.tokens, range.condition))
          (by
            intro term member
            rcases List.mem_cons.mp member with rfl | isOther
            · exact bracketed ranges.first
            · obtain ⟨range, _, rfl⟩ := List.mem_map.mp isOther
              exact bracketed range)
      rw [← written, Choices.condition, listed]
      simpa [Function.comp_def] using fills

theorem fills_paths (paths : Choices PathChoice) :
    Reading.Fills (joinTokens (.word "OR") (paths.toList.map PathChoice.tokens))
      (paths.condition PathChoice.condition) := by
  have fills :=
    Reading.fills_disjunction (paths.first.tokens, paths.first.condition)
      (paths.others.map fun path => (path.tokens, path.condition))
      (by
        intro term member
        rcases List.mem_cons.mp member with rfl | isOther
        · exact paths.first.isTerm
        · obtain ⟨path, _, rfl⟩ := List.mem_map.mp isOther
          exact path.isTerm)
  rw [Choices.condition, Choices.toList]
  simpa [Function.comp_def] using fills

theorem Choices.toList_ne_nil {Value : Type} (choices : Choices Value) : choices.toList ≠ [] :=
  List.cons_ne_nil _ _

theorem mediaTypes_ne_nil (types : Choices TypeChoice) :
    (types.toList.flatMap fun choice => choice.type.mediaTypes) ≠ [] := by
  intro none
  rw [List.flatMap_eq_nil_iff] at none
  exact types.first.listed (none types.first List.mem_cons_self)

namespace Filter

/-- What a filter asks the case store, as written and as meant. -/
def question? (filter : Filter) : Option (List Token × Condition) :=
  filter.tokens?.bind fun tokens => filter.condition?.map fun condition => (tokens, condition)

theorem question?_fst (filter : Filter) : filter.question?.map Prod.fst = filter.tokens? := by
  cases filter <;> rfl

theorem question?_snd (filter : Filter) : filter.question?.map Prod.snd = filter.condition? := by
  cases filter <;> rfl

theorem question?_isSome (filter : Filter) :
    filter.question?.isSome = !filter.isFrequency := by
  cases filter <;> rfl

/-- What a filter writes is read as what it means. -/
theorem fills_question
    {filter : Filter} {question : List Token × Condition}
    (asks : filter.question? = some question) :
    Reading.Fills question.1 question.2 := by
  cases filter with
  | size ranges =>
      obtain rfl := Option.some.inj asks
      exact fills_sizes rfl
  | parent paths =>
      obtain rfl := Option.some.inj asks
      exact fills_paths paths
  | dataSource sources =>
      obtain rfl := Option.some.inj asks
      have literals :
          (sources.toList.map fun source => wholeToken source.id) =
            (sources.toList.map fun source => (toString source.id).toList).map Token.text := by
        simp [wholeToken, textToken]
      rw [literals]
      exact
        fills_of_isTerm
          (isTerm_membershipCondition rfl (by simpa using sources.toList_ne_nil))
  | keywordList lists =>
      obtain rfl := Option.some.inj asks
      exact fills_of_isTerm (isTerm_keywordTokens (by simpa using lists.toList_ne_nil))
  | fileType types =>
      obtain rfl := Option.some.inj asks
      have literals :
          (types.toList.flatMap fun choice => choice.type.mediaTypes).map textToken =
            ((types.toList.flatMap fun choice => choice.type.mediaTypes).map
              String.toList).map Token.text := by
        simp [textToken]
      rw [literals]
      exact
        fills_of_isTerm
          (isTerm_membershipCondition rfl (by simpa using mediaTypes_ne_nil types))
  | frequency frequencies =>
      cases asks

theorem allReadable_question
    {filter : Filter} {question : List Token × Condition} (plain : nullFree → filter.NullFree)
    (asks : filter.question? = some question) :
    AllReadable nullFree question.1 := by
  have orReadable : (Token.word "OR").Readable nullFree := Token.readable_of_isPlain (by decide)
  cases filter with
  | size ranges =>
      obtain rfl := Option.some.inj asks
      have several (ranges : List SizeRange) :
          AllReadable nullFree
            (joinTokens (.word "OR") (ranges.map fun range => bracketTokens range.tokens)) := by
        apply allReadable_joinTokens orReadable
        intro tokens member
        obtain ⟨range, _, rfl⟩ := List.mem_map.mp member
        exact allReadable_bracketTokens range.allReadable
      dsimp only
      split
      · exact SizeRange.allReadable _
      · exact several _
  | parent paths =>
      obtain rfl := Option.some.inj asks
      apply allReadable_joinTokens orReadable
      intro tokens member
      obtain ⟨path, isPath, rfl⟩ := List.mem_map.mp member
      exact path.allReadable fun free => plain free _ (List.mem_map_of_mem isPath)
  | dataSource sources =>
      obtain rfl := Option.some.inj asks
      apply allReadable_membershipTokens (Token.readable_of_isPlain (by decide))
      intro token member
      obtain ⟨source, _, rfl⟩ := List.mem_map.mp member
      exact readable_wholeToken source.id
  | keywordList lists =>
      obtain rfl := Option.some.inj asks
      exact allReadable_keywordTokens plain
  | fileType types =>
      obtain rfl := Option.some.inj asks
      exact
        allReadable_membershipTokens (Token.readable_of_isPlain (by decide))
          (allReadable_texts plain)
  | frequency frequencies =>
      cases asks

/-! ## Reading the clause of all filters -/

/-- What all filters ask the case store, as written and as meant. -/
def questions (filters : List Filter) : List (List Token × Condition) :=
  filters.filterMap question?

theorem questions_fst (filters : List Filter) :
    (questions filters).map Prod.fst = filters.filterMap tokens? := by
  rw [questions, List.map_filterMap]
  exact List.filterMap_congr fun filter _ => question?_fst filter

theorem questions_snd (filters : List Filter) :
    (questions filters).map Prod.snd = filters.filterMap condition? := by
  rw [questions, List.map_filterMap]
  exact List.filterMap_congr fun filter _ => question?_snd filter

theorem questions_ne_nil
    {filters : List Filter} (asking : ∃ filter ∈ filters, filter.isFrequency = false) :
    questions filters ≠ [] := by
  obtain ⟨filter, isMember, notFrequency⟩ := asking
  have asks : filter.question?.isSome = true := by
    rw [question?_isSome, notFrequency]
    rfl
  obtain ⟨question, asks⟩ := Option.isSome_iff_exists.mp asks
  exact List.ne_nil_of_mem (List.mem_filterMap.mpr ⟨filter, isMember, asks⟩)

theorem exists_conjunction?
    {filters : List Filter} (asking : ∃ filter ∈ filters, filter.isFrequency = false) :
    ∃ condition, conjunction? filters = some condition := by
  have filled := questions_ne_nil asking
  rw [conjunction?, ← questions_snd]
  cases written : questions filters with
  | nil =>
      exact absurd written filled
  | cons first others =>
      exact ⟨_, rfl⟩

theorem combinedClause_eq_ok
    {filters : List Filter} (asking : ∃ filter ∈ filters, filter.isFrequency = false) :
    combinedClause filters = .ok (String.ofList (Token.write (combinedTokens filters))) := by
  have filled := questions_ne_nil asking
  rw [combinedClause, ← questions_fst]
  cases written : questions filters with
  | nil =>
      exact absurd written filled
  | cons first others =>
      rfl

/-- Filters by frequency leave no trace in what is asked. -/
theorem combinedTokens_filter_isFrequency (filters : List Filter) :
    combinedTokens (filters.filter fun filter => !filter.isFrequency) =
      combinedTokens filters := by
  have silent :
      (filters.filter fun filter => !filter.isFrequency).filterMap tokens? =
        filters.filterMap tokens? := by
    rw [List.filterMap_filter]
    refine List.filterMap_congr fun filter _ => ?_
    cases filter <;> rfl
  rw [combinedTokens, combinedTokens, silent]

theorem fills_combinedTokens
    {filters : List Filter} {condition : Condition}
    (asks : conjunction? filters = some condition) :
    Reading.Fills (combinedTokens filters) condition := by
  rw [conjunction?, ← questions_snd] at asks
  rw [combinedTokens, ← questions_fst]
  have areTerms :
      ∀ question ∈ questions filters,
        Reading.IsTerm (bracketTokens question.1) question.2 := by
    intro question member
    obtain ⟨filter, _, isQuestion⟩ := List.mem_filterMap.mp member
    exact Reading.isTerm_bracketTokens (fills_question isQuestion)
  cases written : questions filters with
  | nil =>
      rw [written] at asks
      cases asks
  | cons first others =>
      rw [written] at asks areTerms
      obtain rfl := Option.some.inj asks
      have fills :=
        Reading.fills_conjunction (bracketTokens first.1, first.2)
          (others.map fun question => (bracketTokens question.1, question.2))
          (by
            intro term member
            rcases List.mem_cons.mp member with rfl | isOther
            · exact areTerms first List.mem_cons_self
            · obtain ⟨question, isQuestion, rfl⟩ := List.mem_map.mp isOther
              exact areTerms question (List.mem_cons_of_mem first isQuestion))
      simpa [Function.comp_def] using fills

theorem allReadable_combinedTokens
    {filters : List Filter} (plain : nullFree → ∀ filter ∈ filters, filter.NullFree) :
    AllReadable nullFree (combinedTokens filters) := by
  rw [combinedTokens, ← questions_fst]
  apply allReadable_joinTokens (Token.readable_of_isPlain (by decide))
  intro tokens member
  obtain ⟨written, isWritten, rfl⟩ := List.mem_map.mp member
  obtain ⟨question, isQuestion, rfl⟩ := List.mem_map.mp isWritten
  obtain ⟨filter, isFilter, asks⟩ := List.mem_filterMap.mp isQuestion
  exact
    allReadable_bracketTokens
      (allReadable_question (fun free => plain free filter isFilter) asks)

theorem wellFormed_combinedTokens (filters : List Filter) :
    ∀ token ∈ combinedTokens filters, token.WellFormed := by
  have readable : AllReadable False (combinedTokens filters) :=
    allReadable_combinedTokens False.elim
  exact fun token member => (readable token member).1

theorem scan_combinedTokens
    {filters : List Filter} (nullFree : ∀ filter ∈ filters, filter.NullFree) :
    Token.scan (Token.write (combinedTokens filters)) = combinedTokens filters := by
  have readable : AllReadable True (combinedTokens filters) :=
    allReadable_combinedTokens fun _ => nullFree
  exact Token.scan_write fun token member => (readable token member).1

theorem ofClause_combinedTokens
    {filters : List Filter} {condition : Condition}
    (nullFree : ∀ filter ∈ filters, filter.NullFree)
    (asks : conjunction? filters = some condition) (shallow : condition.depth ≤ depthLimit) :
    Condition.ofClause (Token.write (combinedTokens filters)) = .ok condition := by
  have readable : AllReadable True (combinedTokens filters) :=
    allReadable_combinedTokens fun _ => nullFree
  rw [Reading.ofClause_write (fun token member => (readable token member).1)
    (fun content member => (readable (.text content) member).2 content rfl trivial)]
  exact Reading.ofTokens_of_fills (fills_combinedTokens asks) shallow

/-! ## Texts with null characters -/

theorem mem_membershipTokens
    {column : String} {literal : Token} {literals : List Token} (member : literal ∈ literals) :
    literal ∈ membershipTokens column literals := by
  have listed : literal ∈ joinTokens .comma (literals.map fun literal => [literal]) :=
    mem_joinTokens_of_mem List.mem_cons_self (List.mem_map_of_mem member)
  simp [membershipTokens, bracketTokens, listed]

/-- Every text of a filter stands in a quoted text of its clause, maybe as part of a pattern. -/
theorem exists_text_of_texts
    {filter : Filter} {text : String} (isText : text ∈ filter.texts)
    (holdsNull : '\x00' ∈ text.toList) :
    ∃ tokens content,
      filter.tokens? = some tokens ∧ .text content ∈ tokens ∧ '\x00' ∈ content := by
  cases filter with
  | parent paths =>
      obtain ⟨path, isPath, rfl⟩ := List.mem_map.mp isText
      obtain ⟨content, inPath, inContent⟩ :
          ∃ content, Token.text content ∈ path.tokens ∧ '\x00' ∈ content := by
        by_cases whole : path.term.whole = true
        · exact ⟨path.term.text.toList, by simp [PathChoice.tokens, whole, textToken], holdsNull⟩
        · refine ⟨substringPattern path.term.text, by simp [PathChoice.tokens, whole], ?_⟩
          exact (mem_substringPattern_iff (by decide) (by decide)).mpr holdsNull
      exact
        ⟨_, content, rfl, mem_joinTokens_of_mem inPath (List.mem_map_of_mem isPath), inContent⟩
  | keywordList lists =>
      have inNames : Token.text text.toList ∈ (lists.toList.map ListChoice.name).map textToken :=
        List.mem_map_of_mem isText
      have isMember :
          Token.text text.toList ∈
            membershipTokens "value_text" ((lists.toList.map ListChoice.name).map textToken) :=
        mem_membershipTokens inNames
      have inClause :
          Token.text text.toList ∈ keywordTokens (lists.toList.map ListChoice.name) := by
        simp [keywordTokens, bracketTokens, isMember, -List.map_map]
      exact ⟨_, text.toList, rfl, inClause, holdsNull⟩
  | fileType types =>
      exact
        ⟨_, text.toList, rfl, mem_membershipTokens (List.mem_map_of_mem isText), holdsNull⟩
  | _ =>
      simp [texts] at isText

/-- A clause can not be read if a text in it holds a null character. -/
theorem ofClause_combinedTokens_eq_error
    {filters : List Filter} (holdsNull : ∃ filter ∈ filters, ¬ filter.NullFree) :
    ∃ error, Condition.ofClause (Token.write (combinedTokens filters)) = .error error := by
  obtain ⟨filter, isMember, notFree⟩ := holdsNull
  rw [NullFree] at notFree
  push Not at notFree
  obtain ⟨text, isText, inText⟩ := notFree
  obtain ⟨tokens, content, asks, inTokens, inContent⟩ := exists_text_of_texts isText inText
  have inClause : Token.text content ∈ combinedTokens filters := by
    have isAsked : tokens ∈ filters.filterMap tokens? :=
      List.mem_filterMap.mpr ⟨filter, isMember, asks⟩
    refine mem_joinTokens_of_mem ?_ (List.mem_map_of_mem isAsked)
    simp [bracketTokens, inTokens]
  exact
    ofClause_eq_error (wellFormed_combinedTokens filters)
      (Token.mem_write inClause (Token.mem_quote inContent))

end Filter

end EvidenceSearch
