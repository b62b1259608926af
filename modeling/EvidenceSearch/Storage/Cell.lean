import EvidenceSearch.Storage.Error

/-!
# Values on their way into and out of tables

A value that is not a number is missing, and so is one that was not given. A text is kept whole,
null characters included, but it is read back without the byte order mark that it may start with.
The key of a row is a whole number of sixty-four bits.
-/

namespace EvidenceSearch

/-- A number as a row holds it. -/
def storedNumber? : Option Number → Option Number
  | some .nan => none
  | number? => number?

/-- The mark that may stand before a text to show the order of its bytes. -/
def byteOrderMark : Char := Char.ofNat 0xFEFF

/-- Drop a byte order mark at the start. -/
def dropMark : List Char → List Char
  | [] => []
  | first :: rest => if first = byteOrderMark then rest else first :: rest

def readBack (text : String) : String :=
  String.ofList (dropMark text.toList)

def requireCell {Value : Type} (table column : String) (value? : Option Value) :
    Except StorageError Value :=
  match value? with
  | some value => .ok value
  | none => .error (.missingValue table column)

/-- Keys lie below this bound, and not below its negative. -/
def keyBound : Int := Int.pow 2 63

/-- The key that a given number means; no number at all leaves the choice open. -/
def givenKey? (number? : Option Number) : Except StorageError (Option Int) :=
  match storedNumber? number? with
  | none => .ok none
  | some number =>
      match number.wholeValue? with
      | none => .error .notWhole
      | some key => if -keyBound ≤ key && key < keyBound then .ok (some key) else .error .notWhole

/-- The key after the last one. Rows stand in the order of their keys; the first key is one. -/
def keyAfter (keys : List Int) : Int :=
  match keys.getLast? with
  | some key => key + 1
  | none => 1

/-- Put a row at its place in the order of keys. -/
def insertByKey {Row : Type} (key : Row → Int) (row : Row) : List Row → List Row
  | [] => [row]
  | first :: rows =>
      if key row < key first then row :: first :: rows else first :: insertByKey key row rows

end EvidenceSearch
