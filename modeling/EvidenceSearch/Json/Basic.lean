import EvidenceSearch.Number.Text

/-!
# JSON values

An object keeps its fields in the order in which they are written out: names that are array
indices come first, in ascending order, and the others follow in the order of their first
appearance. Of two fields with one name the later value counts.
-/

namespace EvidenceSearch

/-- A JSON value. -/
inductive Json where
  | null
  | bool (value : Bool)
  | number (value : Number)
  | string (value : String)
  | array (items : List Json)
  | object (fields : List (String × Json))

namespace Json

/-- Names below this bound are array indices when they are written as decimal numerals. -/
def indexBound : Nat := 4294967295

/-- The array index that a field name writes, if it writes one. -/
def fieldIndex? (name : String) : Option Nat :=
  match name.toList with
  | [] => none
  | ['0'] => some 0
  | first :: rest =>
      if first ≠ '0' && (first :: rest).all Char.isDigit && rest.length < 10 then
        let value := (first :: rest).foldl (fun value digit => value * 10 + (digit.toNat - 48)) 0
        if value < indexBound then some value else none
      else none

/-- Give a field a value, at the place of the field of that name if there is one. -/
def setField (name : String) (value : Json) :
    List (String × Json) → List (String × Json)
  | [] => [(name, value)]
  | field :: fields =>
      if field.1 = name then (name, value) :: fields
      else field :: setField name value fields

/-- Put the fields whose names are array indices first, in ascending order. -/
def arrangeFields (fields : List (String × Json)) : List (String × Json) :=
  let indexed :=
    fields.filterMap fun field => (fieldIndex? field.1).map fun index => (index, field)
  if indexed.isEmpty then fields
  else
    (indexed.mergeSort fun left right => left.1 ≤ right.1).map Prod.snd ++
      fields.filter fun field => (fieldIndex? field.1).isNone

/-- The object that the given fields write, one after the other. -/
def ofFields (fields : List (String × Json)) : Json :=
  .object (arrangeFields (fields.foldl (fun known field => setField field.1 field.2 known) []))

def field? (name : String) : Json → Option Json
  | .object fields => fields.lookup name
  | _ => none

def text? : Json → Option String
  | .string value => some value
  | _ => none

def number? : Json → Option Number
  | .number value => some value
  | _ => none

def bool? : Json → Option Bool
  | .bool value => some value
  | _ => none

def items? : Json → Option (List Json)
  | .array items => some items
  | _ => none

def fields? : Json → Option (List (String × Json))
  | .object fields => some fields
  | _ => none

/-- Whether the value is an object. -/
def isObject : Json → Bool
  | .object _ => true
  | _ => false

/-- Whether a value counts as true: all do but null, false, zero, what is no number, and the empty
text. -/
def countsAsTrue : Json → Bool
  | .null => false
  | .bool value => value
  | .number value => !(value.equals (.finite 0)) && value ≠ .nan
  | .string value => value ≠ ""
  | .array _ => true
  | .object _ => true

/-- The value, or null if there is none. -/
def ofOption (value? : Option Json) : Json :=
  value?.getD .null

/-- The array of some strings. -/
def ofStrings (texts : List String) : Json :=
  .array (texts.map .string)

def ofInt (value : Int) : Json :=
  .number (.ofInt value)

mutual

/-- The plain text of a value. The items of an array stand between commas, null among them as
nothing at all. -/
def plainText : Json → String
  | .null => "null"
  | .bool true => "true"
  | .bool false => "false"
  | .number value => value.write
  | .string value => value
  | .array items => ",".intercalate (plainItems items)
  | .object _ => "[object Object]"

def plainItems : List Json → List String
  | [] => []
  | .null :: items => "" :: plainItems items
  | item :: items => plainText item :: plainItems items

end

mutual

/-- Whether a value has a plain text. An object that uses the name of its text for a field of its
own has none. -/
def hasPlainText : Json → Bool
  | .array items => allHavePlainText items
  | .object fields => (fields.lookup "toString").isNone
  | _ => true

def allHavePlainText : List Json → Bool
  | [] => true
  | item :: items => hasPlainText item && allHavePlainText items

end

end Json
end EvidenceSearch
