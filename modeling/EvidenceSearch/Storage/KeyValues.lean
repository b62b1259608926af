import EvidenceSearch.Storage.Cell

/-!
# A table of keys and values

Each row has a key, and a value that no other row has; a value may be missing in any number of
rows. A row that is given no key gets the one after the last.
-/

namespace EvidenceSearch

/-- A key and a value, which may be missing. -/
structure KeyValue where
  key : Int
  value : Option String
  deriving DecidableEq

/-- The rows in the order of their keys. -/
abbrev KeyValues := List KeyValue

namespace KeyValues

def tableName : String := "kv"

def newKey (rows : KeyValues) (key? : Option Int) : Int :=
  key?.getD (keyAfter (rows.map KeyValue.key))

/-- Put a row into the table, unless its key or its value is taken. The result is the new table
and the key. -/
def insert (rows : KeyValues) (key? : Option Int) (value : Option String) :
    Except StorageError (KeyValues × Int) :=
  let key := rows.newKey key?
  if rows.any fun row => row.key = key then .error (.notUnique tableName "k")
  else if value.isSome && rows.any (fun row => row.value = value) then
    .error (.notUnique tableName "v")
  else .ok (insertByKey KeyValue.key ⟨key, value⟩ rows, key)

/-- Take the row of a key out of the table. -/
def delete (rows : KeyValues) (key : Number) : KeyValues :=
  rows.filter fun row => !(Number.finite row.key).equals key

def row? (rows : KeyValues) (key : Number) : Option KeyValue :=
  List.find? (fun row => (Number.finite row.key).equals key) rows

end KeyValues
end EvidenceSearch
