import EvidenceSearch.Proofs.Sql.QuotedLists

/-!
# Values that a clause lists

The ids of data sources, the names of keyword lists and the media types of file types are listed
in a clause as quoted texts. Read from its first quote on, the clause gives these values back, in
order, and only its closing brackets are left: whatever a value holds, it stays one value.
-/

namespace EvidenceSearch

open Sql (Token EndsList quote quotedList readList)

/-! ## Values and how they are written -/

theorem Number.write_of_safe
    {value : Int} (safe : value.natAbs ≤ Number.largestSafe.natAbs) :
    (Number.finite value).write = toString value := by
  have bound : value.natAbs ≤ Nat.pow 2 53 := Nat.le_trans safe (by decide)
  simp [Number.write, Number.writeValue, bound]

/-- A value in a list: a text, or a whole number that is told apart from those around it. -/
inductive ListedValue where
  | text (content : String)
  | whole (value : Int) (safe : value.natAbs ≤ Number.largestSafe.natAbs)

namespace ListedValue

/-- A value as a literal: the text is quoted, or the number as it is written. -/
def literal : ListedValue → Token
  | .text content => textToken content
  | .whole value _ => textToken (Number.finite value).write

/-- The characters that stand for a value: those of the text, or the number in decimal. -/
def content : ListedValue → List Char
  | .text content => content.toList
  | .whole value _ => (toString value).toList

theorem literal_eq (value : ListedValue) : value.literal = .text value.content := by
  cases value with
  | text content =>
      rfl
  | whole value safe =>
      rw [literal, Number.write_of_safe safe]
      rfl

end ListedValue

/-- A list of values as it stands in a clause. -/
def writeList (values : List ListedValue) : List Char :=
  Token.write
    (joinTokens .comma ((values.map ListedValue.literal).map fun literal => [literal]))

theorem write_commas (texts : List (List Char)) :
    Token.write (joinTokens .comma (texts.map fun text => [.text text])) = quotedList texts := by
  induction texts with
  | nil =>
      rfl
  | cons text texts inductionHypothesis =>
      cases texts with
      | nil =>
          simp [joinTokens, Token.write, Token.characters, quotedList]
      | cons other texts =>
          obtain ⟨others, joined⟩ :
              ∃ others, joinTokens .comma ((other :: texts).map fun text => [.text text]) =
                .text other :: others := by
            cases texts <;> exact ⟨_, rfl⟩
          rw [joined] at inductionHypothesis
          rw [Sql.quotedList_cons_cons, ← inductionHypothesis, List.map_cons, joinTokens, joined]
          · simp [Token.write, Token.adjoins, Token.characters, quote]
          · exact List.cons_ne_nil _ _

theorem writeList_eq (values : List ListedValue) :
    writeList values = quotedList (values.map ListedValue.content) := by
  rw [← write_commas, writeList, List.map_map, List.map_map]
  simp only [Function.comp_def, ListedValue.literal_eq]

theorem map_literal_text (texts : List String) :
    (texts.map ListedValue.text).map ListedValue.literal = texts.map textToken :=
  List.map_map

/-! ## Where a list stands in a clause -/

/-- Written out, the tokens hold the characters of a list, with no quote before them and nothing but
closing brackets after them. -/
def Encloses (tokens : List Token) (list : List Char) : Prop :=
  ∃ before count,
    '\'' ∉ before ∧ Token.write tokens = before ++ (list ++ List.replicate count ')')

namespace Encloses

variable {tokens : List Token} {list : List Char}

theorem self (tokens : List Token) : Encloses tokens (Token.write tokens) :=
  ⟨[], 0, List.not_mem_nil, (List.append_nil _).symm⟩

theorem cons
    (encloses : Encloses tokens list) {token : Token} (noQuote : '\'' ∉ token.characters) :
    Encloses (token :: tokens) list := by
  obtain ⟨before, count, beforeHasNone, written⟩ := encloses
  obtain ⟨separator, isSeparator, writtenCons⟩ := Token.exists_separator token tokens
  have separatorHasNone : '\'' ∉ separator := by
    rcases isSeparator with rfl | rfl <;> decide
  refine ⟨token.characters ++ (separator ++ before), count, ?_, ?_⟩
  · simp only [List.mem_append, not_or]
    exact ⟨noQuote, separatorHasNone, beforeHasNone⟩
  · rw [writtenCons, written]
    simp only [List.append_assoc]

theorem append_left
    (encloses : Encloses tokens list) {front : List Token}
    (noQuote : ∀ token ∈ front, '\'' ∉ token.characters) :
    Encloses (front ++ tokens) list := by
  induction front with
  | nil =>
      exact encloses
  | cons token front inductionHypothesis =>
      obtain ⟨tokenHasNone, frontHasNone⟩ := List.forall_mem_cons.mp noQuote
      exact (inductionHypothesis frontHasNone).cons tokenHasNone

end Encloses

theorem write_concat_closing (tokens : List Token) :
    Token.write (tokens ++ [.closing]) = Token.write tokens ++ [')'] := by
  induction tokens with
  | nil =>
      rfl
  | cons token tokens inductionHypothesis =>
      cases tokens with
      | nil =>
          simp [Token.write, Token.adjoins, Token.characters]
      | cons right tokens =>
          rw [List.cons_append] at inductionHypothesis
          rw [List.cons_append, List.cons_append, Token.write, Token.write, inductionHypothesis]
          simp only [List.append_assoc]

theorem Encloses.bracketTokens
    {tokens : List Token} {list : List Char} (encloses : Encloses tokens list) :
    Encloses (bracketTokens tokens) list := by
  obtain ⟨before, count, beforeHasNone, written⟩ := encloses
  have closed : Encloses (tokens ++ [.closing]) list := by
    refine ⟨before, count + 1, beforeHasNone, ?_⟩
    rw [write_concat_closing, written, List.replicate_succ']
    simp only [List.append_assoc]
  exact closed.cons (by decide)

theorem encloses_membershipTokens
    {column : String} (plain : '\'' ∉ column.toList) (values : List ListedValue) :
    Encloses (membershipTokens column (values.map ListedValue.literal)) (writeList values) :=
  ((Encloses.self _).bracketTokens.cons (by decide)).cons plain

theorem encloses_keywordTokens (names : List String) :
    Encloses (keywordTokens names) (writeList (names.map .text)) := by
  have members :
      Encloses (membershipTokens "value_text" (names.map textToken))
        (writeList (names.map .text)) := by
    rw [← map_literal_text]
    exact encloses_membershipTokens (by decide) _
  have attributes :
      ∀ token ∈
        [Token.word "SELECT", .word "artifact_id", .word "FROM", .word "blackboard_attributes",
          .word "WHERE", .word "artifact_type_id", .equal, .numeral keywordHitType, .word "AND",
          .word "attribute_type_id", .equal, .numeral listNameType, .word "AND"],
        '\'' ∉ token.characters := by
    decide
  have artifacts :
      ∀ token ∈
        [Token.word "SELECT", .word "obj_id", .word "FROM", .word "blackboard_artifacts",
          .word "WHERE", .word "artifact_id", .word "IN"],
        '\'' ∉ token.characters := by
    decide
  have start : ∀ token ∈ [Token.word "obj_id", .word "IN"], '\'' ∉ token.characters := by
    decide
  exact
    ((members.append_left attributes).bracketTokens.append_left artifacts).bracketTokens.append_left
      start

/-! ## The lists of filters -/

namespace Filter

/-- The values that a filter lists in its clause, if it lists any. -/
def listed? : Filter → Option (List ListedValue)
  | .dataSource sources => some (sources.toList.map fun source => .whole source.id source.safe)
  | .keywordList lists => some (lists.toList.map fun list => .text list.name)
  | .fileType types =>
      some ((types.toList.flatMap fun choice => choice.type.mediaTypes).map .text)
  | .size _ | .parent _ | .frequency _ => none

/-- A filter that lists values does so in one place of its clause. -/
theorem encloses_of_listed?
    {filter : Filter} {values : List ListedValue} (listed : filter.listed? = some values) :
    ∃ tokens, filter.tokens? = some tokens ∧ Encloses tokens (writeList values) := by
  cases filter with
  | dataSource sources =>
      obtain rfl := Option.some.inj listed
      have literals :
          (sources.toList.map fun source => wholeToken source.id) =
            (sources.toList.map fun source => ListedValue.whole source.id source.safe).map
              ListedValue.literal := by
        rw [List.map_map]
        refine List.map_congr_left fun source _ => ?_
        exact (ListedValue.literal_eq (.whole source.id source.safe)).symm
      refine ⟨_, rfl, ?_⟩
      rw [literals]
      exact encloses_membershipTokens (by decide) _
  | keywordList lists =>
      obtain rfl := Option.some.inj listed
      refine ⟨_, rfl, ?_⟩
      have encloses := encloses_keywordTokens (lists.toList.map fun list => list.name)
      rwa [List.map_map] at encloses
  | fileType types =>
      obtain rfl := Option.some.inj listed
      refine ⟨_, rfl, ?_⟩
      rw [← map_literal_text]
      exact encloses_membershipTokens (by decide) _
  | _ =>
      cases listed

end Filter

/-- The first quote of a clause opens the list, and the brackets after the list are left over. -/
theorem readList_of_encloses
    {tokens : List Token} {values : List ListedValue} (filled : values ≠ [])
    (encloses : Encloses tokens (writeList values)) :
    ∃ count,
      readList ((Token.write tokens).dropWhile fun character => character ≠ '\'') =
        some (values.map ListedValue.content, List.replicate count ')') := by
  obtain ⟨before, count, beforeHasNone, written⟩ := encloses
  have contents : values.map ListedValue.content ≠ [] := mt List.map_eq_nil_iff.mp filled
  have ends : EndsList (List.replicate count ')') := by
    cases count <;> simp [EndsList, List.replicate_succ]
  have skipped : ∀ character ∈ before, decide (character ≠ '\'') = true := by
    intro character member
    have other : character ≠ '\'' := by
      rintro rfl
      exact beforeHasNone member
    exact decide_eq_true other
  have first :
      (writeList values ++ List.replicate count ')').dropWhile
          (fun character => character ≠ '\'') =
        writeList values ++ List.replicate count ')' := by
    obtain ⟨others, starts⟩ := Sql.exists_quotedList_eq_cons contents
    rw [writeList_eq, starts]
    rfl
  refine ⟨count, ?_⟩
  rw [written, List.dropWhile_append_of_pos skipped, first, writeList_eq]
  exact Sql.readList_eq_some_iff.mpr ⟨contents, rfl, ends⟩

/-- Values that a clause lists are read back as they are, in order, with what follows them left
over. Lists that are written alike hold the same values. In the clause of a filter the list goes
from the first quote up to the closing brackets. -/
theorem writeList_reads_back
    {values : List ListedValue} (filled : values ≠ []) {rest : List Char} (ends : EndsList rest) :
    writeList values = [','].intercalate (values.map fun value => quote value.content) ∧
      readList (writeList values ++ rest) = some (values.map ListedValue.content, rest) ∧
      (∀ others after, others ≠ [] → EndsList after →
        writeList values ++ rest = writeList others ++ after →
          values.map ListedValue.content = others.map ListedValue.content ∧ rest = after) ∧
      ∀ filter : Filter, filter.listed? = some values →
        ∃ count,
          readList (filter.clause.toList.dropWhile fun character => character ≠ '\'') =
            some (values.map ListedValue.content, List.replicate count ')') := by
  have contents : values.map ListedValue.content ≠ [] := mt List.map_eq_nil_iff.mp filled
  refine ⟨?_, ?_, ?_, ?_⟩
  · rw [writeList_eq, quotedList, List.map_map]
    rfl
  · rw [writeList_eq]
    exact Sql.readList_eq_some_iff.mpr ⟨contents, rfl, ends⟩
  · intro others after othersFilled othersEnd same
    rw [writeList_eq, writeList_eq] at same
    have otherContents : others.map ListedValue.content ≠ [] :=
      mt List.map_eq_nil_iff.mp othersFilled
    exact Sql.quotedList_append_inj contents otherContents ends othersEnd same
  · intro filter listed
    obtain ⟨tokens, isTokens, encloses⟩ := Filter.encloses_of_listed? listed
    have clause : filter.clause.toList = Token.write tokens := by
      rw [Filter.clause, isTokens, String.toList_ofList]
    rw [clause]
    exact readList_of_encloses filled encloses

/-- Texts that hold quotes and commas, an empty one, and a number. -/
def awkwardValues : List ListedValue :=
  [.text "O'Neil'", .text "", .text "','", .whole (-42) (by decide)]

theorem awkwardValues_read_back :
    awkwardValues ≠ [] ∧ EndsList [')'] ∧
      writeList awkwardValues = "'O''Neil''','',''',''','-42'".toList ∧
      readList (writeList awkwardValues ++ [')']) =
        some (["O'Neil'".toList, [], "','".toList, "-42".toList], [')']) := by
  have filled : awkwardValues ≠ [] := List.cons_ne_nil _ _
  have ends : EndsList [')'] := ⟨by decide, by decide⟩
  obtain ⟨written, read, _⟩ := writeList_reads_back filled ends
  refine ⟨filled, ends, ?_, ?_⟩
  · rw [written]
    decide
  · rw [read]
    decide

end EvidenceSearch
