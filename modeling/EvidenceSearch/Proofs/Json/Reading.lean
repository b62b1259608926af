import EvidenceSearch.Proofs.Json.Quoting
import EvidenceSearch.Proofs.Number.Numerals

/-!
# Written values are read back

A value that is written over several lines is read back, whatever it is: every text as one that
holds the same units, every finite number as its numeral is read, and every other number as null.
What follows a value is left.
-/

namespace EvidenceSearch

namespace Json

open DecimalNumeral (EndsNumeral)

/-! ## Values read back -/

mutual

/-- A value as it is read back after it was written. -/
def reread : Json → Json
  | .null => .null
  | .bool value => .bool value
  | .number value => if value.isFinite then .number (.ofNumeral value.write) else .null
  | .string value => .string (rereadText value)
  | .array items => .array (rereadItems items)
  | .object fields => ofFields (rereadFields fields)

def rereadItems : List Json → List Json
  | [] => []
  | item :: items => reread item :: rereadItems items

def rereadFields : List (String × Json) → List (String × Json)
  | [] => []
  | (name, value) :: fields => (rereadText name, reread value) :: rereadFields fields

end

/-! ## Blanks -/

/-- Line ends and spaces, which stand between the parts of a value. -/
def AllBlank (characters : List Char) : Prop :=
  ∀ character ∈ characters, character = ' ' ∨ character = '\n'

theorem skipBlanks_append {blanks : List Char} (allBlank : AllBlank blanks) (text : List Char) :
    skipBlanks (blanks ++ text) = skipBlanks text := by
  rw [skipBlanks, skipBlanks, List.dropWhile_append_of_pos]
  intro character member
  rcases allBlank character member with rfl | rfl <;> decide

@[simp]
theorem skipBlanks_newline (text : List Char) : skipBlanks ('\n' :: text) = skipBlanks text :=
  rfl

@[simp]
theorem skipBlanks_space (text : List Char) : skipBlanks (' ' :: text) = skipBlanks text :=
  rfl

@[simp]
theorem skipBlanks_comma (text : List Char) : skipBlanks (',' :: text) = ',' :: text :=
  rfl

/-- The first character of a value, or of the name of a field. -/
def StartsValue (character : Char) : Prop :=
  character ∉ [' ', '\t', '\n', '\r', ']', '\x7d']

theorem skipBlanks_cons {first : Char} (starts : StartsValue first) (rest : List Char) :
    skipBlanks (first :: rest) = first :: rest := by
  simp only [StartsValue, List.mem_cons, not_or] at starts
  simp [skipBlanks, starts]

theorem readValue_congr
    {left right : List Char} (same : skipBlanks left = skipBlanks right) (fuel : Nat) :
    readValue (fuel + 1) left = readValue (fuel + 1) right := by
  rw [readValue, readValue, same]

/-! ## Entries -/

/-- What stands between the brackets around some entries. -/
def entriesText (indent : String) (entries : List String) : List Char :=
  [',', '\n'].intercalate (entries.map fun entry => indent.toList ++ ' ' :: ' ' :: entry.toList)

theorem toList_bracketed
    {indent opening closing : String} {entries : List String} (filled : entries ≠ []) :
    (bracketed indent opening closing entries).toList =
      opening.toList ++
        '\n' :: (entriesText indent entries ++ '\n' :: (indent.toList ++ closing.toList)) := by
  have isFilled : ¬ entries.isEmpty = true := mt List.isEmpty_iff.mp filled
  have lines :
      (entries.map fun entry => indent ++ "  " ++ entry).map String.toList =
        entries.map fun entry => indent.toList ++ ' ' :: ' ' :: entry.toList := by
    rw [List.map_map]
    refine List.map_congr_left fun entry _ => ?_
    simp
  rw [bracketed, if_neg isFilled, entriesText, ← lines]
  simp [String.toList_intercalate]

@[simp]
theorem entriesText_single (indent entry : String) :
    entriesText indent [entry] = indent.toList ++ ' ' :: ' ' :: entry.toList :=
  List.intercalate_singleton

@[simp]
theorem entriesText_cons_cons (indent first second : String) (entries : List String) :
    entriesText indent (first :: second :: entries) =
      indent.toList ++
        ' ' :: ' ' :: (first.toList ++ ',' :: '\n' :: entriesText indent (second :: entries)) := by
  rw [entriesText, List.map_cons, List.map_cons, List.intercalate_cons_cons]
  simp [entriesText]

/-! ## First characters -/

theorem startsValue_of_numeral
    {first : Char} (numeral : first = '-' ∨ isDecimalDigit first = true) :
    StartsValue first := by
  rw [StartsValue]
  intro member
  simp only [List.mem_cons, List.not_mem_nil, or_false] at member
  rcases member with rfl | rfl | rfl | rfl | rfl | rfl <;> exact absurd numeral (by decide)

theorem exists_bracketed_cons (indent opening closing : String) (entries : List String)
    {first : Char} (opens : opening.toList = [first]) :
    ∃ others, (bracketed indent opening closing entries).toList = first :: others := by
  rw [bracketed]
  split
  · rw [String.toList_append, opens]
    exact ⟨_, rfl⟩
  · simp only [String.toList_append, opens, List.append_assoc]
    exact ⟨_, rfl⟩

theorem exists_indented_cons (indent : String) (value : Json) :
    ∃ first others, (indented indent value).toList = first :: others ∧ StartsValue first := by
  have starts {first : Char} (other : first = 'n' ∨ first = 't' ∨ first = 'f' ∨ first = '"' ∨
      first = '[' ∨ first = '\x7b') : StartsValue first := by
    rcases other with rfl | rfl | rfl | rfl | rfl | rfl <;> simp [StartsValue]
  have null : "null".toList = ['n', 'u', 'l', 'l'] := rfl
  have true : "true".toList = ['t', 'r', 'u', 'e'] := rfl
  have false : "false".toList = ['f', 'a', 'l', 's', 'e'] := rfl
  cases value with
  | null =>
      exact ⟨'n', _, null, starts (by simp)⟩
  | bool value =>
      cases value with
      | true =>
          exact ⟨'t', _, true, starts (by simp)⟩
      | false =>
          exact ⟨'f', _, false, starts (by simp)⟩
  | number value =>
      cases value with
      | finite value =>
          obtain ⟨first, others, isWritten, numeral⟩ := Number.exists_writeValue_cons value
          exact ⟨first, others, isWritten, startsValue_of_numeral numeral⟩
      | nan =>
          exact ⟨'n', _, null, starts (by simp)⟩
      | infinite negative =>
          exact ⟨'n', _, null, starts (by simp)⟩
  | string value =>
      exact ⟨'"', _, toList_quote value, starts (by simp)⟩
  | array items =>
      have opens : "[".toList = ['['] := rfl
      obtain ⟨others, isWritten⟩ :=
        exists_bracketed_cons indent "[" "]" (indentedItems (indent ++ "  ") items) opens
      exact ⟨'[', others, isWritten, starts (by simp)⟩
  | object fields =>
      have opens : "\x7b".toList = ['\x7b'] := rfl
      obtain ⟨others, isWritten⟩ :=
        exists_bracketed_cons indent "\x7b" "\x7d" (indentedFields (indent ++ "  ") fields) opens
      exact ⟨'\x7b', others, isWritten, starts (by simp)⟩

/-! ## Reading what was written -/

section Reading

variable {indent : String} {rest : List Char} {fuel : Nat}

theorem readValue_number
    {text : List Char} {first : Char} {others : List Char}
    (isText : skipBlanks text = first :: others)
    (numeral : first = '-' ∨ isDecimalDigit first = true) :
    readValue (fuel + 1) text = readNumber (first :: others) := by
  have other (letter : Char) (notNumeral : ¬ (letter = '-' ∨ isDecimalDigit letter = true)) :
      first ≠ letter := by
    rintro rfl
    exact notNumeral numeral
  have isNumeral : (first = '-' || isDecimalDigit first) = true := by
    simpa using numeral
  rw [readValue, isText]
  split
  case h_1 =>
    rename_i isNil
    cases isNil
  case h_8 =>
    rename_i same
    obtain ⟨rfl, rfl⟩ := List.cons.inj same
    rw [if_pos isNumeral]
  all_goals
    rename_i same
    exact absurd (List.cons.inj same).1 (other _ (by decide))

theorem readValue_quote (text : List Char) :
    readValue (fuel + 1) ('"' :: text) =
      match readString fuel [] text with
      | .ok (value, rest) => .ok (.string value, rest)
      | .error fault => .error fault := by
  rw [readValue]
  rfl

theorem readValue_array
    {text others : List Char} {first : Char} (starts : StartsValue first)
    (isText : skipBlanks text = '[' :: others) (inside : skipBlanks others = first :: rest) :
    readValue (fuel + 1) text = readItems fuel [] (first :: rest) := by
  rw [readValue, isText]
  simp only [inside]
  split
  · rename_i same
    obtain rfl := (List.cons.inj same).1
    exact absurd starts (by simp [StartsValue])
  · rfl

theorem readValue_object
    {text others : List Char} (isText : skipBlanks text = '\x7b' :: others)
    (inside : skipBlanks others = '"' :: rest) :
    readValue (fuel + 1) text = readFields fuel [] .fieldNameOrClosing ('"' :: rest) := by
  rw [readValue, isText]
  simp only [inside]
  rfl

theorem readFieldName_quote
    {name : String} {text : List Char} (enough : (quotedBody name).length < fuel)
    (expectation : Expectation)
    (isText : skipBlanks text = '"' :: (quotedBody name ++ '"' :: ':' :: rest)) :
    readFieldName fuel expectation text = .ok (rereadText name, rest) := by
  have opens :
      expectCharacter '"' expectation text = .ok (quotedBody name ++ '"' :: ':' :: rest) := by
    rw [expectCharacter, isText]
    rfl
  have closes : expectCharacter ':' .colon (':' :: rest) = .ok rest :=
    rfl
  rw [readFieldName, opens]
  change (readString fuel [] (quotedBody name ++ '"' :: ':' :: rest) >>= _) = _
  rw [readString_quotedBody enough]
  change ((expectCharacter ':' .colon (':' :: rest)).bind fun rest => .ok (_, rest)) = _
  rw [closes]
  rfl

theorem endsNumeral_cons {next : Char} (ends : next = ',' ∨ next = '\n') (rest : List Char) :
    EndsNumeral (next :: rest) := by
  intro first isFirst
  obtain rfl := Option.some.inj isFirst
  rcases ends with rfl | rfl <;> decide

@[simp]
theorem readValue_null : readValue (fuel + 1) ("null".toList ++ rest) = .ok (.null, rest) := by
  rw [readValue]
  rfl

theorem readValue_numeral
    {value : Number} (enough : 0 < fuel) (ends : EndsNumeral rest) :
    readValue fuel ((numeral value).toList ++ rest) = .ok (reread (.number value), rest) := by
  obtain ⟨left, rfl⟩ := Nat.exists_eq_succ_of_ne_zero (Nat.ne_of_gt enough)
  cases value with
  | finite value =>
      obtain ⟨first, others, isWritten, isNumeral⟩ := Number.exists_writeValue_cons value
      have read := Number.readNumber_writeValue value ends
      rw [isWritten] at read
      change readValue (left + 1) ((Number.writeValue value).toList ++ rest) = _
      rw [isWritten]
      have stays := skipBlanks_cons (startsValue_of_numeral isNumeral)
      exact (readValue_number (stays _) isNumeral).trans read
  | nan =>
      exact readValue_null
  | infinite negative =>
      exact readValue_null

theorem readItems_last
    {known : List Json} {item : Json} {text after : List Char}
    (isRead : readValue fuel text = .ok (item, after)) (closes : skipBlanks after = ']' :: rest) :
    readItems (fuel + 1) known text = .ok (.array (known.reverse ++ [item]), rest) := by
  rw [readItems, isRead]
  simp only [closes, List.reverse_cons]

theorem readItems_next
    {known : List Json} {item : Json} {text after : List Char}
    (isRead : readValue fuel text = .ok (item, after)) (goesOn : skipBlanks after = ',' :: rest) :
    readItems (fuel + 1) known text = readItems fuel (item :: known) rest := by
  rw [readItems, isRead]
  simp only [goesOn]

theorem readFields_last
    {known : List (String × Json)} {name : String} {value : Json} {expectation : Expectation}
    {text afterName after : List Char}
    (isName : readFieldName fuel expectation text = .ok (name, afterName))
    (isRead : readValue fuel afterName = .ok (value, after))
    (closes : skipBlanks after = '\x7d' :: rest) :
    readFields (fuel + 1) known expectation text =
      .ok (ofFields (known.reverse ++ [(name, value)]), rest) := by
  rw [readFields, isName]
  simp only [isRead, closes, List.reverse_cons]

theorem readFields_next
    {known : List (String × Json)} {name : String} {value : Json} {expectation : Expectation}
    {text afterName after : List Char}
    (isName : readFieldName fuel expectation text = .ok (name, afterName))
    (isRead : readValue fuel afterName = .ok (value, after))
    (goesOn : skipBlanks after = ',' :: rest) :
    readFields (fuel + 1) known expectation text =
      readFields fuel ((name, value) :: known) .quotedFieldName rest := by
  rw [readFields, isName]
  simp only [isRead, goesOn]

/-- The indentation consists of spaces. -/
def Indents (indent : String) : Prop :=
  AllBlank indent.toList

theorem Indents.deeper (indents : Indents indent) : Indents (indent ++ "  ") := by
  intro character member
  rw [String.toList_append, List.mem_append] at member
  rcases member with member | member
  · exact indents character member
  · left
    simpa using member

/-- Where a line starts, its indentation is skipped. -/
theorem Indents.skipBlanks_line (indents : Indents indent) (text : List Char) :
    skipBlanks (indent.toList ++ ' ' :: ' ' :: text) = skipBlanks text := by
  have allBlank : AllBlank (indent.toList ++ [' ', ' ']) := by
    intro character member
    rcases List.mem_append.mp member with member | member
    · exact indents character member
    · left
      simpa using member
  rw [← skipBlanks_append allBlank text, List.append_assoc]
  rfl

/-- Where the last line starts, its indentation is skipped. -/
theorem Indents.skipBlanks_lastLine
    (indents : Indents indent) {closing : Char} (closes : closing = ']' ∨ closing = '\x7d') :
    skipBlanks ('\n' :: (indent.toList ++ closing :: rest)) = closing :: rest := by
  have allBlank : AllBlank ('\n' :: indent.toList) :=
    List.forall_mem_cons.mpr ⟨Or.inr rfl, indents⟩
  have skipped := skipBlanks_append allBlank (closing :: rest)
  rw [List.cons_append] at skipped
  rw [skipped]
  rcases closes with rfl | rfl <;> rfl

/-! ### One step of the readers -/

/-- Within these steps every written value is read. -/
def ReadsValues (fuel : Nat) : Prop :=
  ∀ {value : Json} {indent : String} {rest : List Char},
    Indents indent → (indented indent value).toList.length < fuel → EndsNumeral rest →
      readValue fuel ((indented indent value).toList ++ rest) = .ok (reread value, rest)

/-- Within these steps written items are read up to the bracket behind them. -/
def ReadsItems (fuel : Nat) : Prop :=
  ∀ {items : List Json} {indent : String} {text rest : List Char} (known : List Json),
    items ≠ [] → Indents indent →
    (entriesText indent (indentedItems (indent ++ "  ") items)).length < fuel →
    skipBlanks text =
        skipBlanks (entriesText indent (indentedItems (indent ++ "  ") items) ++
          '\n' :: (indent.toList ++ ']' :: rest)) →
      readItems fuel known text = .ok (.array (known.reverse ++ rereadItems items), rest)

/-- Within these steps written fields are read up to the brace behind them. -/
def ReadsFields (fuel : Nat) : Prop :=
  ∀ {fields : List (String × Json)} {indent : String} {text rest : List Char}
      (expectation : Expectation) (known : List (String × Json)),
    fields ≠ [] → Indents indent →
    (entriesText indent (indentedFields (indent ++ "  ") fields)).length < fuel →
    skipBlanks text =
        skipBlanks (entriesText indent (indentedFields (indent ++ "  ") fields) ++
          '\n' :: (indent.toList ++ '\x7d' :: rest)) →
      readFields fuel known expectation text =
        .ok (ofFields (known.reverse ++ rereadFields fields), rest)

theorem ReadsValues.after_line
    (reads : ReadsValues fuel) {value : Json} (indents : Indents indent)
    (enough : (indented (indent ++ "  ") value).toList.length < fuel) (ends : EndsNumeral rest)
    {text : List Char}
    (isText : skipBlanks text = skipBlanks ((indented (indent ++ "  ") value).toList ++ rest)) :
    readValue fuel text = .ok (reread value, rest) := by
  obtain ⟨left, rfl⟩ := Nat.exists_eq_succ_of_ne_zero (Nat.ne_zero_of_lt enough)
  rw [readValue_congr isText]
  exact reads indents.deeper enough ends

theorem readsItems_succ
    (readsValues : ReadsValues fuel) (readsItems : ReadsItems fuel) : ReadsItems (fuel + 1) := by
  intro items indent text rest known filled indents enough isText
  match items with
  | [item] =>
      rw [indentedItems, indentedItems, entriesText_single] at enough isText
      rw [List.append_assoc, List.cons_append, List.cons_append, indents.skipBlanks_line] at isText
      simp only [List.length_append, List.length_cons] at enough
      have isRead :=
        readsValues.after_line indents (by omega) (endsNumeral_cons (Or.inr rfl) _) isText
      exact readItems_last isRead (indents.skipBlanks_lastLine (Or.inl rfl))
  | item :: next :: items =>
      rw [indentedItems, indentedItems, entriesText_cons_cons, ← indentedItems] at enough isText
      simp only [List.append_assoc, List.cons_append] at isText
      rw [indents.skipBlanks_line] at isText
      simp only [List.length_append, List.length_cons] at enough
      have isRead :=
        readsValues.after_line indents (by omega) (endsNumeral_cons (Or.inl rfl) _) isText
      rw [readItems_next isRead (skipBlanks_comma _)]
      refine
        (readsItems (item.reread :: known) (List.cons_ne_nil next items) indents (by omega)
          (skipBlanks_newline _)).trans ?_
      rw [List.reverse_cons, List.append_assoc]
      rfl

/-- After the indentation of the first line the first item starts. -/
theorem exists_skipBlanks_items
    (indents : Indents indent) (item : Json) (items : List Json) (after : List Char) :
    ∃ first others,
      skipBlanks (entriesText indent (indentedItems (indent ++ "  ") (item :: items)) ++ after) =
          first :: others ∧
        StartsValue first := by
  obtain ⟨first, others, isWritten, starts⟩ := exists_indented_cons (indent ++ "  ") item
  cases items with
  | nil =>
      rw [indentedItems, indentedItems, entriesText_single, isWritten]
      simp only [List.append_assoc, List.cons_append]
      rw [indents.skipBlanks_line]
      exact ⟨first, _, skipBlanks_cons starts _, starts⟩
  | cons next items =>
      rw [indentedItems, indentedItems, entriesText_cons_cons, isWritten]
      simp only [List.append_assoc, List.cons_append]
      rw [indents.skipBlanks_line]
      exact ⟨first, _, skipBlanks_cons starts _, starts⟩

theorem toList_field (name written : String) :
    (quote name ++ ": " ++ written).toList =
      '"' :: (quotedBody name ++ '"' :: ':' :: ' ' :: written.toList) := by
  rw [String.toList_append, String.toList_append, toList_quote]
  simp

theorem ReadsValues.after_name
    (reads : ReadsValues fuel) {name : String} {value : Json} (indents : Indents indent)
    (enough :
      (quotedBody name).length + (indented (indent ++ "  ") value).toList.length < fuel)
    (ends : EndsNumeral rest) {text : List Char} (expectation : Expectation)
    (isText :
      skipBlanks text =
        skipBlanks ((quote name ++ ": " ++ indented (indent ++ "  ") value).toList ++ rest)) :
    ∃ afterName,
      readFieldName fuel expectation text = .ok (rereadText name, afterName) ∧
        readValue fuel afterName = .ok (reread value, rest) := by
  rw [toList_field] at isText
  simp only [List.append_assoc, List.cons_append] at isText
  refine ⟨_, readFieldName_quote (by omega) expectation isText, ?_⟩
  exact reads.after_line indents (by omega) ends (skipBlanks_space _)

theorem readsFields_succ
    (readsValues : ReadsValues fuel) (readsFields : ReadsFields fuel) : ReadsFields (fuel + 1) := by
  intro fields indent text rest expectation known filled indents enough isText
  match fields with
  | [(name, value)] =>
      rw [indentedFields, indentedFields, entriesText_single] at enough isText
      rw [List.append_assoc, List.cons_append, List.cons_append, indents.skipBlanks_line] at isText
      rw [toList_field] at enough
      simp only [List.length_append, List.length_cons] at enough
      obtain ⟨afterName, isName, isRead⟩ :=
        readsValues.after_name indents (by omega) (endsNumeral_cons (Or.inr rfl) _) expectation
          isText
      exact readFields_last isName isRead (indents.skipBlanks_lastLine (Or.inr rfl))
  | (name, value) :: (nextName, nextValue) :: fields =>
      rw [indentedFields, indentedFields, entriesText_cons_cons, ← indentedFields] at enough isText
      simp only [List.append_assoc, List.cons_append] at isText
      rw [indents.skipBlanks_line] at isText
      rw [toList_field] at enough
      simp only [List.length_append, List.length_cons] at enough
      obtain ⟨afterName, isName, isRead⟩ :=
        readsValues.after_name indents (by omega) (endsNumeral_cons (Or.inl rfl) _) expectation
          isText
      rw [readFields_next isName isRead (skipBlanks_comma _)]
      refine
        (readsFields .quotedFieldName ((rereadText name, value.reread) :: known)
          (List.cons_ne_nil _ fields) indents (by omega) (skipBlanks_newline _)).trans ?_
      rw [List.reverse_cons, List.append_assoc]
      rfl

theorem readValue_items
    (readsItems : ReadsItems fuel) (indents : Indents indent) (item : Json) (items : List Json)
    (enough : (indented indent (.array (item :: items))).toList.length < fuel + 1) :
    readValue (fuel + 1) ((indented indent (.array (item :: items))).toList ++ rest) =
      .ok (reread (.array (item :: items)), rest) := by
  have filled : indentedItems (indent ++ "  ") (item :: items) ≠ [] := by
    rw [indentedItems]
    exact List.cons_ne_nil _ _
  have opens : "[".toList = ['['] := rfl
  have closes : "]".toList = [']'] := rfl
  obtain ⟨first, others, isFirst, starts⟩ :=
    exists_skipBlanks_items indents item items ('\n' :: (indent.toList ++ ']' :: rest))
  rw [indented, toList_bracketed filled, opens, closes] at enough ⊢
  simp only [List.length_cons, List.length_append, List.length_nil] at enough
  simp only [List.append_assoc, List.cons_append, List.nil_append]
  rw [readValue_array starts rfl ((skipBlanks_newline _).trans isFirst), ← isFirst, reread]
  refine readsItems [] (List.cons_ne_nil item items) indents ?_ ?_
  · omega
  · rw [isFirst, skipBlanks_cons starts]

theorem exists_entriesText_fields
    (indents : Indents indent) (name : String) (value : Json) (fields : List (String × Json))
    (after : List Char) :
    ∃ others,
      skipBlanks
          (entriesText indent (indentedFields (indent ++ "  ") ((name, value) :: fields)) ++
            after) =
        '"' :: others := by
  cases fields with
  | nil =>
      rw [indentedFields, indentedFields, entriesText_single, toList_field]
      simp only [List.append_assoc, List.cons_append]
      rw [indents.skipBlanks_line]
      exact ⟨_, rfl⟩
  | cons next fields =>
      rw [indentedFields, indentedFields, entriesText_cons_cons, toList_field]
      simp only [List.append_assoc, List.cons_append]
      rw [indents.skipBlanks_line]
      exact ⟨_, rfl⟩

theorem readValue_fields
    (readsFields : ReadsFields fuel) (indents : Indents indent) (name : String) (value : Json)
    (fields : List (String × Json))
    (enough : (indented indent (.object ((name, value) :: fields))).toList.length < fuel + 1) :
    readValue (fuel + 1) ((indented indent (.object ((name, value) :: fields))).toList ++ rest) =
      .ok (reread (.object ((name, value) :: fields)), rest) := by
  have filled : indentedFields (indent ++ "  ") ((name, value) :: fields) ≠ [] := by
    rw [indentedFields]
    exact List.cons_ne_nil _ _
  have opens : "\x7b".toList = ['\x7b'] := rfl
  have closes : "\x7d".toList = ['\x7d'] := rfl
  obtain ⟨others, isFirst⟩ :=
    exists_entriesText_fields indents name value fields ('\n' :: (indent.toList ++ '\x7d' :: rest))
  rw [indented, toList_bracketed filled, opens, closes] at enough ⊢
  simp only [List.length_cons, List.length_append, List.length_nil] at enough
  simp only [List.append_assoc, List.cons_append, List.nil_append]
  rw [readValue_object rfl ((skipBlanks_newline _).trans isFirst), ← isFirst]
  rw [reread]
  refine readsFields .fieldNameOrClosing [] (List.cons_ne_nil (name, value) fields) indents ?_ ?_
  · omega
  · rw [isFirst]
    rfl

theorem readsValues_succ
    (readsItems : ReadsItems fuel) (readsFields : ReadsFields fuel) : ReadsValues (fuel + 1) := by
  intro value indent rest indents enough ends
  cases value with
  | null =>
      exact readValue_null
  | bool value =>
      cases value with
      | true =>
          change readValue (fuel + 1) ("true".toList ++ rest) = _
          rw [readValue]
          rfl
      | false =>
          change readValue (fuel + 1) ("false".toList ++ rest) = _
          rw [readValue]
          rfl
  | number value =>
      exact readValue_numeral (Nat.succ_pos fuel) ends
  | string text =>
      rw [indented, toList_quote] at enough ⊢
      simp only [List.length_cons, List.length_append, List.length_nil] at enough
      rw [List.cons_append, List.append_assoc, readValue_quote]
      change (match readString fuel [] (quotedBody text ++ '"' :: rest) with
        | .ok (value, rest) => Except.ok (Json.string value, rest)
        | .error fault => .error fault) = _
      rw [readString_quotedBody (by omega)]
      rfl
  | array items =>
      cases items with
      | nil =>
          change readValue (fuel + 1) ("[]".toList ++ rest) = _
          rw [readValue]
          rfl
      | cons item items =>
          exact readValue_items readsItems indents item items enough
  | object fields =>
      cases fields with
      | nil =>
          change readValue (fuel + 1) ("\x7b\x7d".toList ++ rest) = _
          rw [readValue]
          rfl
      | cons field fields =>
          exact readValue_fields readsFields indents field.1 field.2 fields enough

/-- Written values, items and fields are read within any number of steps above their length. -/
theorem reads_written (fuel : Nat) : ReadsValues fuel ∧ ReadsItems fuel ∧ ReadsFields fuel := by
  induction fuel with
  | zero =>
      exact
        ⟨fun _ enough => absurd enough (Nat.not_lt_zero _),
          fun _ _ _ enough => absurd enough (Nat.not_lt_zero _),
          fun _ _ _ _ enough => absurd enough (Nat.not_lt_zero _)⟩
  | succ fuel inductionHypothesis =>
      obtain ⟨values, items, fields⟩ := inductionHypothesis
      exact
        ⟨readsValues_succ items fields, readsItems_succ values items,
          readsFields_succ values fields⟩

end Reading

/-- A value that is written over several lines is read back. -/
theorem read_pretty (value : Json) : read value.pretty.toList = .ok value.reread := by
  have indents : Indents "" := nofun
  have readValue_eq :
      readValue (2 * value.pretty.toList.length + 2) (value.pretty.toList ++ []) =
        .ok (value.reread, []) :=
    (reads_written _).1 indents (by rw [pretty]; omega) DecimalNumeral.endsNumeral_nil
  rw [List.append_nil] at readValue_eq
  rw [read, readValue_eq]
  rfl

/-! ## Objects -/

theorem setField_of_not_mem
    {name : String} {known : List (String × Json)} (new : name ∉ known.map Prod.fst)
    (value : Json) :
    setField name value known = known ++ [(name, value)] := by
  induction known with
  | nil =>
      rfl
  | cons field known inductionHypothesis =>
      rw [List.map_cons, List.mem_cons, not_or] at new
      rw [setField, if_neg (Ne.symm new.1), inductionHypothesis new.2, List.cons_append]

theorem foldl_setField
    {known fields : List (String × Json)} (distinct : ((known ++ fields).map Prod.fst).Nodup) :
    fields.foldl (fun known field => setField field.1 field.2 known) known = known ++ fields := by
  induction fields generalizing known with
  | nil =>
      exact (List.append_nil known).symm
  | cons field fields inductionHypothesis =>
      have new : field.1 ∉ known.map Prod.fst := by
        intro member
        rw [List.map_append, List.map_cons] at distinct
        exact (List.nodup_append.mp distinct).2.2 field.1 member field.1 List.mem_cons_self rfl
      have split : known ++ field :: fields = known ++ [field] ++ fields := by
        rw [List.append_assoc, List.singleton_append]
      rw [split] at distinct ⊢
      rw [List.foldl_cons, setField_of_not_mem new]
      exact inductionHypothesis distinct

/-- The names of the fields are different, and none of them is an array index or holds what is no
character. -/
structure PlainNames (names : List String) : Prop where
  distinct : names.Nodup
  noIndex : ∀ name ∈ names, fieldIndex? name = none
  kept : ∀ name ∈ names, rereadText name = name

theorem ofFields_of_distinct
    {fields : List (String × Json)} (distinct : (fields.map Prod.fst).Nodup)
    (noIndex : ∀ name ∈ fields.map Prod.fst, fieldIndex? name = none) :
    ofFields fields = .object fields := by
  have noneIndexed :
      (fields.filterMap fun field => (fieldIndex? field.1).map fun index => (index, field)) =
        [] := by
    rw [List.filterMap_eq_nil_iff]
    intro field member
    rw [noIndex field.1 (List.mem_map_of_mem member)]
    rfl
  rw [ofFields, foldl_setField (by simpa using distinct), List.nil_append, arrangeFields,
    noneIndexed]
  rfl

theorem rereadFields_of_kept
    {fields : List (String × Json)} (kept : ∀ name ∈ fields.map Prod.fst, rereadText name = name) :
    rereadFields fields = fields.map fun field => (field.1, reread field.2) := by
  induction fields with
  | nil =>
      rfl
  | cons field fields inductionHypothesis =>
      rw [List.map_cons, List.forall_mem_cons] at kept
      rw [rereadFields, kept.1, inductionHypothesis kept.2]
      rfl

/-- An object with plain names keeps its fields, and each of them keeps its place. -/
theorem reread_object
    {fields : List (String × Json)} (plain : PlainNames (fields.map Prod.fst)) :
    reread (.object fields) = .object (fields.map fun field => (field.1, reread field.2)) := by
  have sameNames :
      (fields.map fun field => (field.1, reread field.2)).map Prod.fst = fields.map Prod.fst := by
    rw [List.map_map]
    rfl
  rw [reread, rereadFields_of_kept plain.kept]
  apply ofFields_of_distinct
  · rw [sameNames]
    exact plain.distinct
  · rw [sameNames]
    exact plain.noIndex

end Json
end EvidenceSearch
