import EvidenceSearch.Sql.Error
import EvidenceSearch.Sql.Token

/-!
# Conditions and how clauses write them

A condition compares columns and literals, matches a column against a pattern, or asks whether a
column is among given literals or among the values that a query finds; conditions are joined by
AND, which binds tighter, and OR. A clause is read token by token with a stack of what is still
open; a condition may not have more than `depthLimit` levels.
-/

namespace EvidenceSearch.Sql

/-- A column or a literal. -/
inductive Operand where
  | column (name : String)
  | number (value : Nat)
  | text (content : List Char)
  deriving DecidableEq

/-- How two values are compared. -/
inductive Relation where
  | equal
  | above
  | atLeast
  | atMost
  deriving DecidableEq

/-- A condition on the rows of a table. -/
inductive Condition where
  | compare (left : Operand) (relation : Relation) (right : Operand)
  /-- The text matches the pattern, in which one character takes the meaning from others. -/
  | like (subject : Operand) (pattern : List Char) (escape : Char)
  /-- The value equals one of the literals. -/
  | among (subject : Operand) (members : List Operand)
  /-- The value equals one that the column has in a row of the table under a condition. -/
  | within (subject : Operand) (column table : String) (condition : Condition)
  | both (left right : Condition)
  | either (left right : Condition)
  deriving DecidableEq

/-- The column of a table that an operand names, with the table. -/
def Operand.columns (table : String) : Operand → List (String × String)
  | .column name => [(table, name)]
  | _ => []

/-- The columns that a condition on a table names, each with its table. An inner query stands before
the value that is looked for in it. -/
def Condition.columns (table : String) : Condition → List (String × String)
  | .compare left _ right => left.columns table ++ right.columns table
  | .like subject _ _ => subject.columns table
  | .among subject members => subject.columns table ++ members.flatMap (Operand.columns table)
  | .within subject column source condition =>
      (source, column) :: condition.columns source ++ subject.columns table
  | .both left right => left.columns table ++ right.columns table
  | .either left right => left.columns table ++ right.columns table

/-- How many levels a condition has. -/
def Condition.depth : Condition → Nat
  | .compare _ _ _ => 2
  | .like _ _ _ => 2
  | .among _ _ => 2
  | .within _ _ _ condition => condition.depth + 1
  | .both left right => max left.depth right.depth + 1
  | .either left right => max left.depth right.depth + 1

/-- What an opening bracket opened. -/
inductive Bracket where
  | group
  | query (subject : Operand) (column table : String)

/-- The part of a condition that has been read since a bracket was opened: the alternatives that
are complete, and the joined conditions of the one under way. -/
structure Frame where
  bracket : Bracket
  alternatives : Option Condition
  joined : Option Condition

/-- What has been read of the term under way; the members of a list stand in it last one first. -/
inductive Phase where
  | start
  | operand (left : Operand)
  | compared (left : Operand) (relation : Relation)
  | liked (subject : Operand)
  | patterned (subject : Operand) (pattern : List Char)
  | escaping (subject : Operand) (pattern : List Char)
  | membership (subject : Operand)
  | listStart (subject : Operand)
  | listNext (subject : Operand) (members : List Operand)
  | listed (subject : Operand) (members : List Operand)
  | selecting (subject : Operand)
  | selected (subject : Operand) (column : String)
  | choosing (subject : Operand) (column : String)
  | chosen (subject : Operand) (column table : String)
  | complete

/-- A clause that has been read in part. -/
structure Reading where
  phase : Phase
  frame : Frame
  outer : List Frame

namespace Reading

/-- Nothing has been read. -/
def initial : Reading :=
  ⟨.start, ⟨.group, none, none⟩, []⟩

/-- A condition, unless it has too many levels. -/
def checkDepth (condition : Condition) : Except ClauseError Condition :=
  if condition.depth ≤ depthLimit then .ok condition else .error .tooDeep

/-- Join a condition to the one before it, if there is one. -/
def join
    (combine : Condition → Condition → Condition)
    (before : Option Condition)
    (condition : Condition) :
    Except ClauseError Condition :=
  match before with
  | none => checkDepth condition
  | some before => checkDepth (combine before condition)

/-- Take a complete term into the frame. -/
def finish (frame : Frame) (outer : List Frame) (condition : Condition) :
    Except ClauseError Reading := do
  let joined ← join .both frame.joined condition
  return ⟨.complete, { frame with joined := some joined }, outer⟩

/-- The condition that a frame holds, its last alternative included. -/
def conditionOf (frame : Frame) : Except ClauseError (Option Condition) := do
  match frame.joined with
  | none => return none
  | some joined => return some (← join .either frame.alternatives joined)

/-- Fail at a token. -/
def misplaced {Value : Type} (token : Token) : Except ClauseError Value :=
  match token with
  | .unreadable characters => .error (.unreadable (String.ofList characters))
  | token => .error (.misplaced (String.ofList token.characters))

/-- Go on after an operand: a comparison, a match or a membership follows. -/
def afterOperand (left : Operand) (token : Token) : Except ClauseError Phase :=
  match token with
  | .equal => .ok (.compared left .equal)
  | .above => .ok (.compared left .above)
  | .atLeast => .ok (.compared left .atLeast)
  | .atMost => .ok (.compared left .atMost)
  | .word "LIKE" => .ok (.liked left)
  | .word "IN" => .ok (.membership left)
  | token => misplaced token

/-- Words that are no names. -/
def keywords : List String :=
  ["AND", "OR", "IN", "LIKE", "ESCAPE", "SELECT", "FROM", "WHERE"]

def name (token : Token) : Except ClauseError String :=
  match token with
  | .word name => if keywords.contains name then misplaced token else .ok name
  | token => misplaced token

def operand (token : Token) : Except ClauseError Operand :=
  match token with
  | .numeral value => .ok (.number value)
  | .text content => .ok (.text content)
  | token => (name token).map .column

/-- Take the next token. -/
def step (reading : Reading) (token : Token) : Except ClauseError Reading :=
  let ⟨phase, frame, outer⟩ := reading
  match phase, token with
  | .start, .opening => .ok ⟨.start, ⟨.group, none, none⟩, frame :: outer⟩
  | .start, token => do return ⟨.operand (← operand token), frame, outer⟩
  | .operand left, token => do return ⟨← afterOperand left token, frame, outer⟩
  | .compared left relation, token => do
      finish frame outer (.compare left relation (← operand token))
  | .liked subject, .text pattern => .ok ⟨.patterned subject pattern, frame, outer⟩
  | .patterned subject pattern, .word "ESCAPE" => .ok ⟨.escaping subject pattern, frame, outer⟩
  | .escaping subject pattern, .text [escape] => finish frame outer (.like subject pattern escape)
  | .membership subject, .opening => .ok ⟨.listStart subject, frame, outer⟩
  | .listStart subject, .word "SELECT" => .ok ⟨.selecting subject, frame, outer⟩
  | .listStart subject, .text content => .ok ⟨.listed subject [.text content], frame, outer⟩
  | .listNext subject members, .text content =>
      .ok ⟨.listed subject (.text content :: members), frame, outer⟩
  | .listed subject members, .comma => .ok ⟨.listNext subject members, frame, outer⟩
  | .listed subject members, .closing => finish frame outer (.among subject members.reverse)
  | .selecting subject, token => do return ⟨.selected subject (← name token), frame, outer⟩
  | .selected subject column, .word "FROM" => .ok ⟨.choosing subject column, frame, outer⟩
  | .choosing subject column, token => do
      return ⟨.chosen subject column (← name token), frame, outer⟩
  | .chosen subject column table, .word "WHERE" =>
      .ok ⟨.start, ⟨.query subject column table, none, none⟩, frame :: outer⟩
  | .complete, .word "AND" => .ok ⟨.start, frame, outer⟩
  | .complete, .word "OR" => do
      return ⟨.start, { frame with alternatives := ← conditionOf frame, joined := none }, outer⟩
  | .complete, .closing => do
      match ← conditionOf frame, outer with
      | some condition, parent :: outer =>
          match frame.bracket with
          | .group => finish parent outer condition
          | .query subject column table =>
              finish parent outer (.within subject column table condition)
      | _, _ => misplaced .closing
  | _, token => misplaced token

/-- The condition of a clause of which all tokens have been read; the word `ORDER` follows every
clause. -/
def condition (reading : Reading) : Except ClauseError Condition := do
  match reading.phase, reading.outer with
  | .complete, [] =>
      match ← conditionOf reading.frame with
      | some condition => return condition
      | none => misplaced (.word "ORDER")
  | _, _ => misplaced (.word "ORDER")

end Reading

def Condition.ofTokens (tokens : List Token) : Except ClauseError Condition := do
  (← tokens.foldlM Reading.step Reading.initial).condition

/-- The condition that a clause writes. A clause ends at its first null character. -/
def Condition.ofClause (clause : List Char) : Except ClauseError Condition :=
  ofTokens (Token.scan (clause.takeWhile fun character => character ≠ '\x00'))

end EvidenceSearch.Sql
