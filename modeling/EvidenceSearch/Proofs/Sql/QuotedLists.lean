import EvidenceSearch.Proofs.Sql.Cutting
import EvidenceSearch.Filter.Clause

/-!
# Lists of quoted texts

The members of a list stand in quotes, with one comma between each two. Reading ends a text at the
first quote that is not doubled, and goes on with the list at a comma. It reads exactly the lists
that are written so, and reads them back unchanged: nothing that a member holds ends its quotes,
reaches the member beside it, or changes what follows the list.
-/

namespace EvidenceSearch.Sql

/-! ## One quoted text -/

theorem eq_doubleQuotes_of_readQuoted
    {done text content rest : List Char} (read : readQuoted done text = some (content, rest)) :
    ∃ added, content = done.reverse ++ added ∧ text = doubleQuotes added ++ '\'' :: rest ∧
      rest.head? ≠ some '\'' := by
  induction done, text using readQuoted.induct with
  | case1 done =>
      simp [readQuoted] at read
  | case2 done text inductionHypothesis =>
      rw [readQuoted] at read
      obtain ⟨added, isContent, rfl, separate⟩ := inductionHypothesis read
      refine ⟨'\'' :: added, ?_, rfl, separate⟩
      rw [isContent, List.reverse_cons, List.append_assoc, List.singleton_append]
  | case3 done text notDoubled =>
      rw [readQuoted, if_pos rfl] at read
      · obtain ⟨rfl, rfl⟩ := Option.some.inj read
        refine ⟨[], (List.append_nil _).symm, rfl, ?_⟩
        intro starts
        obtain ⟨others, rfl⟩ := List.head?_eq_some_iff.mp starts
        exact notDoubled others rfl rfl
      · exact notDoubled
  | case4 done first text notDoubled notQuote inductionHypothesis =>
      rw [readQuoted, if_neg notQuote] at read
      · obtain ⟨added, isContent, rfl, separate⟩ := inductionHypothesis read
        refine ⟨first :: added, ?_, ?_, separate⟩
        · rw [isContent, List.reverse_cons, List.append_assoc, List.singleton_append]
        · rw [doubleQuotes, if_neg notQuote, List.cons_append]
      · exact notDoubled

/-- A quoted text runs to the first quote that is not doubled. -/
theorem readQuoted_eq_some_iff {text content rest : List Char} :
    readQuoted [] text = some (content, rest) ↔
      text = doubleQuotes content ++ '\'' :: rest ∧ rest.head? ≠ some '\'' := by
  constructor
  · intro read
    obtain ⟨_, rfl, isText, separate⟩ := eq_doubleQuotes_of_readQuoted read
    exact ⟨isText, separate⟩
  · rintro ⟨rfl, separate⟩
    exact readQuoted_doubleQuotes content [] rest separate

/-! ## Many quoted texts -/

/-- Read quoted texts with one comma between each two. The result is what they hold, and what
follows the last one. -/
def readList : List Char → Option (List (List Char) × List Char)
  | '\'' :: text =>
      match _read : readQuoted [] text with
      | none => none
      | some (content, ',' :: others) =>
          (readList others).map fun (contents, rest) => (content :: contents, rest)
      | some (content, rest) => some ([content], rest)
  | _ => none
termination_by text => text.length
decreasing_by
  have shorter := (Token.quotes_of_readQuoted _read).1
  simp only [List.length_cons] at shorter ⊢
  omega

/-- Texts in quotes, with one comma between each two. -/
def quotedList (texts : List (List Char)) : List Char :=
  [','].intercalate (texts.map quote)

/-- What follows a list: no quote that its last text could go on with, and no comma. -/
def EndsList (rest : List Char) : Prop :=
  rest.head? ≠ some '\'' ∧ rest.head? ≠ some ','

theorem readList_eq_map
    {text content others : List Char} (read : readQuoted [] text = some (content, ',' :: others)) :
    readList ('\'' :: text) =
      (readList others).map fun (contents, rest) => (content :: contents, rest) := by
  rw [readList]
  split <;> grind

theorem readList_eq_singleton
    {text content rest : List Char} (read : readQuoted [] text = some (content, rest))
    (ends : rest.head? ≠ some ',') :
    readList ('\'' :: text) = some ([content], rest) := by
  rw [readList]
  split <;> grind

theorem quotedList_cons_cons (text other : List Char) (texts : List (List Char)) :
    quotedList (text :: other :: texts) =
      '\'' :: (doubleQuotes text ++ '\'' :: ',' :: quotedList (other :: texts)) := by
  simp [quotedList, quote]

theorem quotedList_singleton (text : List Char) :
    quotedList [text] = '\'' :: (doubleQuotes text ++ ['\'']) := by
  simp [quotedList, quote]

theorem exists_quotedList_eq_cons {contents : List (List Char)} (filled : contents ≠ []) :
    ∃ others, quotedList contents = '\'' :: others := by
  cases contents with
  | nil =>
      exact absurd rfl filled
  | cons content contents =>
      cases contents with
      | nil =>
          exact ⟨_, quotedList_singleton content⟩
      | cons other contents =>
          exact ⟨_, quotedList_cons_cons content other contents⟩

/-- A written list is read back, and what follows it is left. -/
theorem readList_quotedList
    {contents : List (List Char)} (filled : contents ≠ []) {rest : List Char}
    (ends : EndsList rest) :
    readList (quotedList contents ++ rest) = some (contents, rest) := by
  induction contents with
  | nil =>
      exact absurd rfl filled
  | cons content contents inductionHypothesis =>
      cases contents with
      | nil =>
          have read : readQuoted [] (doubleQuotes content ++ '\'' :: rest) = some (content, rest) :=
            readQuoted_eq_some_iff.mpr ⟨rfl, ends.1⟩
          rw [quotedList_singleton, List.cons_append, List.append_assoc, List.singleton_append,
            readList_eq_singleton read ends.2]
      | cons other contents =>
          have others := inductionHypothesis (List.cons_ne_nil other contents)
          have read :
              readQuoted []
                  (doubleQuotes content ++
                    '\'' :: ',' :: (quotedList (other :: contents) ++ rest)) =
                some (content, ',' :: (quotedList (other :: contents) ++ rest)) :=
            readQuoted_eq_some_iff.mpr ⟨rfl, by simp⟩
          rw [quotedList_cons_cons, List.cons_append, List.append_assoc, List.cons_append,
            List.cons_append, readList_eq_map read, others]
          rfl

/-- Only written lists are read. -/
theorem eq_quotedList_of_readList
    {text rest : List Char} {contents : List (List Char)}
    (read : readList text = some (contents, rest)) :
    contents ≠ [] ∧ text = quotedList contents ++ rest ∧ EndsList rest := by
  induction text using readList.induct generalizing contents rest with
  | case1 text unread =>
      rw [readList] at read
      split at read <;> grind
  | case2 text content others isRead inductionHypothesis =>
      rw [readList_eq_map isRead, Option.map_eq_some_iff] at read
      obtain ⟨⟨more, after⟩, readOthers, same⟩ := read
      obtain ⟨rfl, rfl⟩ := Prod.mk.inj same
      obtain ⟨filled, rfl, ends⟩ := inductionHypothesis readOthers
      obtain ⟨other, more, rfl⟩ := List.exists_cons_of_ne_nil filled
      refine ⟨List.cons_ne_nil _ _, ?_, ends⟩
      rw [(readQuoted_eq_some_iff.mp isRead).1, quotedList_cons_cons]
      simp
  | case3 text content after noComma isRead =>
      have ends : after.head? ≠ some ',' := by
        intro starts
        obtain ⟨others, isAfter⟩ := List.head?_eq_some_iff.mp starts
        exact noComma others isAfter
      rw [readList_eq_singleton isRead ends] at read
      obtain ⟨rfl, rfl⟩ := Prod.mk.inj (Option.some.inj read)
      obtain ⟨rfl, separate⟩ := readQuoted_eq_some_iff.mp isRead
      refine ⟨List.cons_ne_nil _ _, ?_, separate, ends⟩
      rw [quotedList_singleton]
      simp
  | case4 text noQuote =>
      rw [readList] at read
      · cases read
      · exact noQuote

/-- What is read are the lists that are written so, and no other texts. -/
theorem readList_eq_some_iff {text rest : List Char} {contents : List (List Char)} :
    readList text = some (contents, rest) ↔
      contents ≠ [] ∧ text = quotedList contents ++ rest ∧ EndsList rest := by
  constructor
  · exact eq_quotedList_of_readList
  · rintro ⟨filled, rfl, ends⟩
    exact readList_quotedList filled ends

/-- What a text starts with is one list at most. -/
theorem quotedList_append_inj
    {contents others : List (List Char)} {rest after : List Char} (filled : contents ≠ [])
    (othersFilled : others ≠ []) (ends : EndsList rest) (othersEnd : EndsList after)
    (same : quotedList contents ++ rest = quotedList others ++ after) :
    contents = others ∧ rest = after := by
  have read : readList (quotedList contents ++ rest) = some (contents, rest) :=
    readList_eq_some_iff.mpr ⟨filled, rfl, ends⟩
  have readOthers : readList (quotedList others ++ after) = some (others, after) :=
    readList_eq_some_iff.mpr ⟨othersFilled, rfl, othersEnd⟩
  rw [same, readOthers] at read
  obtain ⟨isContents, isRest⟩ := Prod.mk.inj (Option.some.inj read)
  exact ⟨isContents.symm, isRest.symm⟩

end EvidenceSearch.Sql
