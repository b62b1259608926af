import EvidenceSearch.Failure
import EvidenceSearch.Filter.Basic

/-!
# Arguments of a search

The arguments of a search are read from a JSON object. An argument that is missing is absent; one
that is present must have its shape, and so must every entry of it. Some names are never missing
from an object: every object answers to them, with a value that has none of the shapes. The first
offence in the order of the arguments is reported; among entries that are objects, one that is none
comes before a field of the wrong shape.
-/

namespace EvidenceSearch

/-! ## Single arguments -/

/-- Take a value of the wanted shape, or report the place. -/
def requireShape {Value : Type} (place : ArgumentPlace) (shape : Shape) (value? : Option Value) :
    Except Failure Value :=
  match value? with
  | some value => .ok value
  | none => .error (.misshapen place shape)

/-- The names to which every object answers, whatever its fields are. -/
def commonNames : List String :=
  ["constructor", "hasOwnProperty", "isPrototypeOf", "propertyIsEnumerable", "toLocaleString",
    "toString", "valueOf", "__defineGetter__", "__defineSetter__", "__lookupGetter__",
    "__lookupSetter__", "__proto__"]

/-- What an object without a field of some name answers to that name, if it answers. -/
def commonAnswer? (key : String) : Option Json :=
  if commonNames.contains key then some (.object []) else none

/-- The value of an argument, if there are arguments and they answer to its name. -/
def argument? (arguments : Option Json) (key : String) : Option Json :=
  arguments.bind fun arguments => (arguments.field? key).or (commonAnswer? key)

def finiteNumber? (value : Json) : Option Number :=
  value.number?.filter Number.isFinite

def object? (value : Json) : Option Json :=
  if value.isObject then some value else none

/-- Read the entries of an argument, the first of them at the given index. -/
def readEach {Value : Type} (read : Nat → Json → Except Failure Value) (index : Nat) :
    List Json → Except Failure (List Value)
  | [] => .ok []
  | item :: items => do
      let value ← read index item
      return value :: (← readEach read (index + 1) items)

def numberArgument (arguments : Option Json) (key : String) : Except Failure (Option Number) :=
  match argument? arguments key with
  | none => .ok none
  | some value => do
      return some (← requireShape (.argument key) .number (finiteNumber? value))

def arrayArgument
    {Value : Type}
    (shape : Shape)
    (read? : Json → Option Value)
    (arguments : Option Json)
    (key : String) :
    Except Failure (Option (List Value)) :=
  match argument? arguments key with
  | none => .ok none
  | some value => do
      let items ← requireShape (.argument key) .array value.items?
      return some
        (← readEach (fun index item => requireShape (.entry key index) shape (read? item)) 0 items)

def stringsArgument : Option Json → String → Except Failure (Option (List String)) :=
  arrayArgument .string Json.text?

/-- An argument that is an array of finite numbers. -/
def numbersArgument : Option Json → String → Except Failure (Option (List Number)) :=
  arrayArgument .number finiteNumber?

def objectsArgument : Option Json → String → Except Failure (Option (List Json)) :=
  arrayArgument .object object?

/-! ## All arguments -/

/-- A size range as an argument gives it; without an upper bound it is open. -/
structure SizeArgument where
  low : Number
  high : Option Number
  deriving DecidableEq

/-- The arguments of a search. -/
structure SearchArguments where
  sizePresets : Option (List String) := none
  sizeRanges : Option (List SizeArgument) := none
  parentPaths : Option (List PathTerm) := none
  sourceIds : Option (List Number) := none
  keywordLists : Option (List String) := none
  fileTypes : Option (List String) := none
  frequencies : Option (List String) := none
  limit : Option Number := none
  deriving DecidableEq

namespace SearchArguments

def optionalField
    {Value : Type}
    (place : ArgumentPlace)
    (shape : Shape)
    (read? : Json → Option Value) :
    Option Json → Except Failure (Option Value)
  | none => .ok none
  | some value => do return some (← requireShape place shape (read? value))

def readRange (index : Nat) (entry : Json) : Except Failure SizeArgument := do
  let place := ArgumentPlace.field "size_ranges" index
  let low ← requireShape (place "min_bytes") .number ((entry.field? "min_bytes").bind Json.number?)
  let high ← optionalField (place "max_bytes") .number Json.number? (entry.field? "max_bytes")
  return ⟨low, high⟩

def readPath (index : Nat) (entry : Json) : Except Failure PathTerm := do
  let place := ArgumentPlace.field "parent_paths" index
  let path ← requireShape (place "path") .string ((entry.field? "path").bind Json.text?)
  let exact ← optionalField (place "exact") .boolean Json.bool? (entry.field? "exact")
  return ⟨path, exact.getD false⟩

def readObjects
    {Value : Type}
    (read : Nat → Json → Except Failure Value)
    (arguments : Option Json)
    (key : String) :
    Except Failure (Option (List Value)) := do
  match ← objectsArgument arguments key with
  | none => return none
  | some entries => return some (← readEach read 0 entries)

def ofJson (arguments : Option Json) : Except Failure SearchArguments := do
  let sizePresets ← stringsArgument arguments "size_presets"
  let sizeRanges ← readObjects readRange arguments "size_ranges"
  let parentPaths ← readObjects readPath arguments "parent_paths"
  let sourceIds ← numbersArgument arguments "data_source_ids"
  let keywordLists ← stringsArgument arguments "keyword_lists"
  let fileTypes ← stringsArgument arguments "file_types"
  let frequencies ← stringsArgument arguments "frequencies"
  let limit ← numberArgument arguments "limit"
  return { sizePresets, sizeRanges, parentPaths, sourceIds, keywordLists, fileTypes, frequencies,
           limit }

def rangeJson (range : SizeArgument) : Json :=
  .object
    (("min_bytes", .number range.low) ::
      (range.high.map fun high => ("max_bytes", Json.number high)).toList)

def pathJson (path : PathTerm) : Json :=
  .object [("path", .string path.text), ("exact", .bool path.whole)]

/-- The arguments as a JSON object, without those that are absent. -/
def toJson (arguments : SearchArguments) : Json :=
  let listed {Value : Type} (key : String) (write : Value → Json) (values? : Option (List Value)) :=
    (values?.map fun values => (key, Json.array (values.map write))).toList
  .object
    (listed "size_presets" .string arguments.sizePresets ++
      listed "size_ranges" rangeJson arguments.sizeRanges ++
      listed "parent_paths" pathJson arguments.parentPaths ++
      listed "data_source_ids" .number arguments.sourceIds ++
      listed "keyword_lists" .string arguments.keywordLists ++
      listed "file_types" .string arguments.fileTypes ++
      listed "frequencies" .string arguments.frequencies ++
      (arguments.limit.map fun limit => ("limit", Json.number limit)).toList)

end SearchArguments
end EvidenceSearch
