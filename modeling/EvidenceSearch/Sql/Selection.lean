import EvidenceSearch.Sql.Condition
import EvidenceSearch.Sql.Pattern
import EvidenceSearch.Sql.Table

/-!
# Selecting rows

A condition is first bound to a table: every column name becomes a place in the rows, and every
inner query the list of the values that it finds. The bound condition is then tested on each row.
A comparison with a missing value is neither true nor false, and a row is selected if its
condition is true.
-/

namespace EvidenceSearch.Sql

/-- An operand of a bound condition. -/
inductive Place where
  | column (index : Nat) (type : ColumnType)
  | literal (value : Value)
  deriving DecidableEq

/-- A condition in which names are places in a row and inner queries are lists of values. -/
inductive Test where
  | compare (left : Place) (relation : Relation) (right : Place)
  | like (subject : Place) (pattern : List Char) (escape : Char)
  | among (subject : Place) (members : List Place)
  | both (left right : Test)
  | either (left right : Test)
  deriving DecidableEq

/-! ## Values -/

def wholeNumber? (text : String) : Option Int :=
  let read (digits : List Char) : Option Nat :=
    if digits.isEmpty || !digits.all Char.isDigit then none
    else some (digits.foldl (fun value digit => value * 10 + (digit.toNat - 48)) 0)
  match text.toList with
  | '-' :: digits => (read digits).map fun value => -(value : Int)
  | digits => (read digits).map fun value => (value : Int)

namespace Value

/-- Read a value as a column of numbers holds it: a text that writes a whole number is one. -/
def asNumber : Value → Value
  | .text content =>
      match wholeNumber? content with
      | some value => .number (.finite value)
      | none => .text content
  | value => value

/-- Read a value as a column of texts holds it. -/
def asText : Value → Value
  | .number value => .text value.write
  | value => value

/-- Whether two values stand in a relation; a missing one leaves that open. Numbers lie below
texts, and texts are ordered character by character. -/
def related (relation : Relation) : Value → Value → Option Bool
  | .missing, _ => none
  | _, .missing => none
  | .number left, .number right =>
      some <|
        match relation with
        | .equal => left.equals right
        | .above => right.below left
        | .atLeast => right.atMost left
        | .atMost => left.atMost right
  | .text left, .text right =>
      some <|
        match relation with
        | .equal => left = right
        | .above => right < left
        | .atLeast => right ≤ left
        | .atMost => left ≤ right
  | .number _, .text _ => some (relation = .atMost)
  | .text _, .number _ => some (relation = .above || relation = .atLeast)

end Value

namespace Place

/-- What a place holds, if it is a column. -/
def type? : Place → Option ColumnType
  | .column _ type => some type
  | .literal _ => none

def value (row : List Value) : Place → Value
  | .column index _ => row.getD index .missing
  | .literal value => value

/-- Read a value as the column that it is compared with asks for. -/
def readAs (type? : Option ColumnType) (value : Value) : Value :=
  match type? with
  | some .number => value.asNumber
  | some .text => value.asText
  | none => value

/-- Whether the values at two places of a row stand in a relation. A literal is read as the column
on the other side asks for. -/
def related (relation : Relation) (left right : Place) (row : List Value) : Option Bool :=
  match left.type?, right.type? with
  | some _, some _ => (left.value row).related relation (right.value row)
  | leftType, rightType =>
      (readAs rightType (left.value row)).related relation (readAs leftType (right.value row))

end Place

/-! ## Testing a row -/

/-- True if both are, false if one is, open otherwise. -/
def andAlso : Option Bool → Option Bool → Option Bool
  | some true, right => right
  | some false, _ => some false
  | none, some false => some false
  | none, _ => none

/-- True if one is, false if both are, open otherwise. -/
def orElse : Option Bool → Option Bool → Option Bool
  | some false, right => right
  | some true, _ => some true
  | none, some true => some true
  | none, _ => none

def equalsOne (subject : Place) (row : List Value) : List Place → Option Bool
  | [] => some false
  | member :: members =>
      orElse (subject.related .equal member row) (equalsOne subject row members)

/-- Match the value at a place against a pattern; only the characters before the first null
character count. -/
def matchPattern (subject : Place) (pattern : List Char) (escape : Char) (row : List Value) :
    Except ClauseError (Option Bool) :=
  if patternLimit < (String.ofList pattern).utf8ByteSize then .error .patternTooLong
  else
    match (subject.value row).asText with
    | .text content =>
        .ok (patternMatches escape pattern
          (content.toList.takeWhile fun character => character ≠ '\x00'))
    | _ => .ok none

namespace Test

/-- Test a row. The second part of a condition is left out if the first one decides. -/
def evaluate (row : List Value) : Test → Except ClauseError (Option Bool)
  | .compare left relation right => .ok (left.related relation right row)
  | .like subject pattern escape => matchPattern subject pattern escape row
  | .among subject members => .ok (equalsOne subject row members)
  | .both left right => do
      match ← left.evaluate row with
      | some false => return some false
      | truth => return andAlso truth (← right.evaluate row)
  | .either left right => do
      match ← left.evaluate row with
      | some true => return some true
      | truth => return orElse truth (← right.evaluate row)

/-- The rows for which a test is true. -/
def select (test : Test) : List (List Value) → Except ClauseError (List (List Value))
  | [] => .ok []
  | row :: rows => do
      let truth ← test.evaluate row
      let selected ← test.select rows
      return if truth = some true then row :: selected else selected

end Test

/-! ## Binding a condition -/

/-- The place of a column. -/
def Table.place (table : Table) (name : String) : Except ClauseError Place :=
  match table.columns.findIdx? fun column => column.name = name with
  | some index =>
      match table.columns[index]? with
      | some column => .ok (.column index column.type)
      | none => .error (.noColumn name)
  | none => .error (.noColumn name)

def Operand.place (table : Table) : Operand → Except ClauseError Place
  | .column name => table.place name
  | .number value => .ok (.literal (.number (.ofNat value)))
  | .text content => .ok (.literal (.text (String.ofList content)))

def Database.table (database : Database) (name : String) : Except ClauseError Table :=
  match database name with
  | some table => .ok table
  | none => .error (.noTable name)

/-- Bind a condition to a table of a database. -/
def Condition.bind (database : Database) (table : Table) : Condition → Except ClauseError Test
  | .compare left relation right => do
      return .compare (← left.place table) relation (← right.place table)
  | .like subject pattern escape => do return .like (← subject.place table) pattern escape
  | .among subject members => do
      return .among (← subject.place table) (← members.mapM (Operand.place table))
  | .within subject column source condition => do
      let subject ← subject.place table
      let inner ← database.table source
      let column ← inner.place column
      let test ← condition.bind database inner
      let rows ← test.select inner.rows
      return .among subject (rows.map fun row => .literal (column.value row))
  | .both left right => do return .both (← left.bind database table) (← right.bind database table)
  | .either left right => do
      return .either (← left.bind database table) (← right.bind database table)

def Database.selectWhere (database : Database) (table clause : String) :
    Except ClauseError (List (List Value)) := do
  let condition ← Condition.ofClause clause.toList
  let table ← database.table table
  let test ← condition.bind database table
  test.select table.rows

end EvidenceSearch.Sql
