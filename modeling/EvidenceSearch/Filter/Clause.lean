import EvidenceSearch.Filter.Basic
import EvidenceSearch.Sql.Pattern
import EvidenceSearch.Sql.Token

/-!
# Clauses of filters

What a filter asks the case store is a list of tokens, joined by OR if the filter has several
values. The clauses of several filters stand in brackets and are joined by AND. A filter by
frequency asks the case store for nothing.
-/

namespace EvidenceSearch

open Sql (Token)

/-! ## Pieces of clauses -/

/-- Lists of tokens with a token between each two. -/
def joinTokens (separator : Token) : List (List Token) → List Token
  | [] => []
  | [tokens] => tokens
  | tokens :: others => tokens ++ separator :: joinTokens separator others

def bracketTokens (tokens : List Token) : List Token :=
  .opening :: (tokens ++ [.closing])

/-- A text as a literal. -/
def textToken (text : String) : Token :=
  .text text.toList

/-- A whole number as a quoted literal. -/
def wholeToken (value : Int) : Token :=
  textToken (toString value)

/-- A test whether a column holds one of some literals. -/
def membershipTokens (column : String) (literals : List Token) : List Token :=
  .word column :: .word "IN" ::
    bracketTokens (joinTokens .comma (literals.map fun literal => [literal]))

/-- A text that stands for itself, anywhere in what a pattern is matched against. -/
def substringPattern (text : String) : List Char :=
  '%' :: (Sql.escapePattern text.toList ++ ['%'])

/-- The number that marks a hit of a keyword list among the artifacts. -/
def keywordHitType : Nat := 9

/-- The number that marks the name of a list among the attributes of an artifact. -/
def listNameType : Nat := 37

/-! ## Values -/

def SizeRange.tokens (range : SizeRange) : List Token :=
  match range.high with
  | none => [.word "size", .atLeast, wholeToken range.low]
  | some high =>
      [.word "size", .above, wholeToken range.low, .word "AND", .word "size", .atMost,
        wholeToken high]

/-- What a path to look for asks. -/
def PathChoice.tokens (path : PathChoice) : List Token :=
  if path.term.whole then [.word "parent_path", .equal, textToken path.term.text]
  else
    [.word "parent_path", .word "LIKE", .text (substringPattern path.term.text), .word "ESCAPE",
      .text ['\\']]

/-- What keyword lists ask: the file must have an artifact with an attribute that names one of
them. -/
def keywordTokens (names : List String) : List Token :=
  .word "obj_id" :: .word "IN" ::
    bracketTokens
      (.word "SELECT" :: .word "obj_id" :: .word "FROM" :: .word "blackboard_artifacts" ::
        .word "WHERE" :: .word "artifact_id" :: .word "IN" ::
        bracketTokens
          (.word "SELECT" :: .word "artifact_id" :: .word "FROM" ::
            .word "blackboard_attributes" :: .word "WHERE" ::
            .word "artifact_type_id" :: .equal :: .numeral keywordHitType :: .word "AND" ::
            .word "attribute_type_id" :: .equal :: .numeral listNameType :: .word "AND" ::
            membershipTokens "value_text" (names.map textToken)))

/-! ## Filters -/

namespace Filter

/-- What a filter asks the case store, if anything. -/
def tokens? : Filter → Option (List Token)
  | .size ranges =>
      some <|
        match ranges.toList with
        | [range] => range.tokens
        | ranges =>
            joinTokens (.word "OR") (ranges.map fun range => bracketTokens range.tokens)
  | .parent paths => some (joinTokens (.word "OR") (paths.toList.map PathChoice.tokens))
  | .dataSource sources =>
      some (membershipTokens "data_source_obj_id"
        (sources.toList.map fun source => wholeToken source.id))
  | .keywordList lists => some (keywordTokens (lists.toList.map fun list => list.name))
  | .fileType types =>
      some (membershipTokens "mime_type"
        ((types.toList.flatMap fun choice => choice.type.mediaTypes).map textToken))
  | .frequency _ => none

/-- The clause of one filter, which is empty if it asks the case store for nothing. -/
def clause (filter : Filter) : String :=
  match filter.tokens? with
  | some tokens => String.ofList (Token.write tokens)
  | none => ""

/-- What all filters together ask the case store. -/
def combinedTokens (filters : List Filter) : List Token :=
  joinTokens (.word "AND") ((filters.filterMap tokens?).map bracketTokens)

/-- The clause of all filters together; at least one filter must ask the case store. -/
def combinedClause (filters : List Filter) : Except Failure String :=
  match filters.filterMap tokens? with
  | [] => .error .nothingToAsk
  | _ => .ok (String.ofList (Token.write (combinedTokens filters)))

end Filter
end EvidenceSearch
