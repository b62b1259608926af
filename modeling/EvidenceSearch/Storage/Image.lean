import EvidenceSearch.Number.Basic
import EvidenceSearch.Sql.Table
import EvidenceSearch.Storage.Tables
import EvidenceSearch.Text.CaseMapping
import EvidenceSearch.Text.Utf8

/-!
# Database images

The bytes of a database file are pages of one size. Every table is a tree of pages; its leaves
hold rows, each with a number and a record of values, and a row that does not fit goes on in a
chain of further pages. The tree of the first page lists the tables and the statements that created
them, from which the names of their columns are read.
-/

namespace EvidenceSearch

/-- How the texts of a database are written as bytes. -/
inductive TextEncoding where
  | utf8
  | utf16 (littleEndian : Bool)

/-- The bytes of a database file, with the size of its pages, how much of a page is used, and the
encoding of texts. -/
structure DatabaseImage where
  bytes : ByteArray
  pageSize : Nat
  usable : Nat
  encoding : TextEncoding

/-- A row of a table: its number, and its values by the names of their columns. -/
structure ImageRow where
  number : Int
  values : List (String × Sql.Value)

namespace DatabaseImage

/-- How many bytes the head of the file has. -/
def headerLength : Nat := 100

/-! ## Numbers -/

/-- The byte at a place; there are zeros after the end. -/
def byteAt (bytes : ByteArray) (index : Nat) : Nat :=
  if h : index < bytes.size then bytes[index].toNat else 0

/-- The number that some bytes write, the most significant first. -/
def bigEndian (bytes : ByteArray) (start count : Nat) : Nat :=
  (List.range count).foldl (fun value index => value * 256 + byteAt bytes (start + index)) 0

def signed (bytes : ByteArray) (start count : Nat) : Int :=
  let value := bigEndian bytes start count
  let bound := Nat.pow 2 (8 * count)
  if bound ≤ 2 * value then (value : Int) - bound else value

/-- Read a number of variable length, of which at most `left` bytes are left. Every byte but the
ninth says whether another follows. The result is the number and the place after it. -/
def variableLength (bytes : ByteArray) : (left : Nat) → (value start : Nat) → Nat × Nat
  | 0, value, start => (value, start)
  | 1, value, start => (value * 256 + byteAt bytes start, start + 1)
  | left + 1, value, start =>
      let byte := byteAt bytes start
      if byte < 128 then (value * 128 + byte, start + 1)
      else variableLength bytes left (value * 128 + (byte - 128)) (start + 1)

def readLength (bytes : ByteArray) (start : Nat) : Nat × Nat :=
  variableLength bytes 9 0 start

/-- The number that eight bytes write in the binary64 format. -/
def binary64 (bits : Nat) : Option Number :=
  let negative := bits / Nat.pow 2 63 = 1
  let exponent := bits / Nat.pow 2 52 % 2048
  let fraction := bits % Nat.pow 2 52
  if exponent = 2047 then if fraction = 0 then some (.infinite negative) else none
  else
    let significand : Nat := if exponent = 0 then fraction else fraction + Nat.pow 2 52
    let power := max exponent 1
    let value :=
      if 1075 ≤ power then mkRat (significand * Nat.pow 2 (power - 1075)) 1
      else mkRat significand (Nat.pow 2 (1075 - power))
    some (.finite (if negative then -value else value))

/-! ## Records -/

/-- The units that pairs of bytes write. -/
def bytePairs (littleEndian : Bool) : List UInt8 → List Nat
  | first :: second :: rest =>
      (if littleEndian then second.toNat * 256 + first.toNat
        else first.toNat * 256 + second.toNat) ::
        bytePairs littleEndian rest
  | _ => []

def decodeText (content : List UInt8) : TextEncoding → String
  | .utf8 => String.ofList (decodeBytes content)
  | .utf16 littleEndian => String.ofList (charactersOfUnits (bytePairs littleEndian content))

/-- The length and the value of a field whose kind is given by a number. -/
def fieldValue (encoding : TextEncoding) (record : ByteArray) (start kind : Nat) :
    Nat × Sql.Value :=
  let whole (count : Nat) := (count, Sql.Value.number (.ofInt (signed record start count)))
  match kind with
  | 0 => (0, .missing)
  | 1 => whole 1
  | 2 => whole 2
  | 3 => whole 3
  | 4 => whole 4
  | 5 => whole 6
  | 6 => whole 8
  | 7 => (8, ((binary64 (bigEndian record start 8)).map Sql.Value.number).getD .missing)
  | 8 => (0, .number (.finite 0))
  | 9 => (0, .number (.finite 1))
  | kind =>
      let count := (kind - 12) / 2
      if kind % 2 = 1 then
        let content := record.extract start (start + count)
        (count, .text (decodeText content.toList encoding))
      else (count, .missing)

/-- Read the fields of a record; their kinds stand in its head, which ends at `headEnd`. -/
def readFields (encoding : TextEncoding) (record : ByteArray) (headEnd : Nat) :
    (fuel : Nat) → (kindStart valueStart : Nat) → List Sql.Value
  | 0, _, _ => []
  | fuel + 1, kindStart, valueStart =>
      if headEnd ≤ kindStart then []
      else
        let (kind, nextKind) := readLength record kindStart
        let (count, value) := fieldValue encoding record valueStart kind
        value :: readFields encoding record headEnd fuel nextKind (valueStart + count)

def readRecord (encoding : TextEncoding) (record : ByteArray) : List Sql.Value :=
  let (headEnd, kindStart) := readLength record 0
  readFields encoding record headEnd headEnd kindStart headEnd

/-! ## Pages -/

/-- Where a page starts; the first page has the number one. -/
def pageStart (image : DatabaseImage) (page : Nat) : Nat :=
  (page - 1) * image.pageSize

/-- How many pages there are. -/
def pageCount (image : DatabaseImage) : Nat :=
  image.bytes.size / image.pageSize

def readChain (image : DatabaseImage) : (fuel page left : Nat) → ByteArray
  | 0, _, _ => .empty
  | fuel + 1, page, left =>
      if page = 0 || left = 0 then .empty
      else
        let start := image.pageStart page
        let count := min left (image.usable - 4)
        image.bytes.extract (start + 4) (start + 4 + count) ++
          image.readChain fuel (bigEndian image.bytes start 4) (left - count)

/-- How many bytes of a record of the given length stand on its own page. -/
def localLength (image : DatabaseImage) (length : Nat) : Nat :=
  if length + 35 ≤ image.usable then length
  else
    let least := (image.usable - 12) * 32 / 255 - 23
    let fitting := least + (length - least) % (image.usable - 4)
    if fitting + 35 ≤ image.usable then fitting else least

/-- Read a row of a leaf: its number and its values. -/
def readCell (image : DatabaseImage) (start : Nat) : Int × List Sql.Value :=
  let (length, afterLength) := readLength image.bytes start
  let (number, body) := readLength image.bytes afterLength
  let count := image.localLength length
  let here := image.bytes.extract body (body + count)
  let chain := bigEndian image.bytes (body + count) 4
  let rest :=
    if count < length then image.readChain image.pageCount chain (length - count) else .empty
  let number : Int :=
    if Nat.pow 2 63 ≤ number then (number : Int) - Nat.pow 2 64 else number
  (number, readRecord image.encoding (here ++ rest))

/-- Read the rows of a tree of pages from left to right. -/
def readTree (image : DatabaseImage) : (fuel page : Nat) → List (Int × List Sql.Value)
  | 0, _ => []
  | fuel + 1, page =>
      let start := image.pageStart page
      let head := if page = 1 then start + headerLength else start
      let kind := byteAt image.bytes head
      let cells := bigEndian image.bytes (head + 3) 2
      let cellStart (array index : Nat) :=
        start + bigEndian image.bytes (array + 2 * index) 2
      if kind = 13 then
        (List.range cells).map fun index => image.readCell (cellStart (head + 8) index)
      else if kind = 5 then
        ((List.range cells).flatMap fun index =>
          image.readTree fuel (bigEndian image.bytes (cellStart (head + 12) index) 4)) ++
          image.readTree fuel (bigEndian image.bytes (head + 8) 4)
      else []

/-! ## Tables -/

/-- Split the parts of a list at commas that stand in no inner bracket. -/
def splitColumns (depth : Nat) (part : List Char) : List Char → List (List Char)
  | [] => [part.reverse]
  | '(' :: rest => splitColumns (depth + 1) ('(' :: part) rest
  | ')' :: rest => splitColumns (depth - 1) (')' :: part) rest
  | character :: rest =>
      if character = ',' && depth = 0 then part.reverse :: splitColumns 0 [] rest
      else splitColumns depth (character :: part) rest

def standsBeforeName (character : Char) : Bool :=
  character.isWhitespace || character = '"' || character = '\x60' || character = '['

/-- The names of the columns that a statement creates, in lower case. -/
def columnNames (statement : String) : List String :=
  let body := (statement.toList.dropWhile (· ≠ '(')).drop 1
  let inner := (body.reverse.dropWhile (· ≠ ')')).drop 1
  (splitColumns 0 [] inner.reverse).map fun column =>
    let start := column.dropWhile standsBeforeName
    let name := start.takeWhile fun character => character.isAlphanum || character = '_'
    lowerCase (String.ofList name)

/-- A table that the first page lists: its name, its tree and its columns. -/
structure ListedTable where
  name : String
  root : Nat
  columns : List String

/-- The table that a row of the first tree lists, if it lists one. -/
def listedTable? : List Sql.Value → Option ListedTable
  | [.text "table", .text name, _, .number root, .text statement] =>
      root.wholeValue?.map fun root => ⟨name, root.toNat, columnNames statement⟩
  | _ => none

/-- The tables that the first page lists. -/
def listedTables (image : DatabaseImage) : List ListedTable :=
  (image.readTree image.pageCount 1).filterMap fun row => listedTable? row.2

def tableRows (image : DatabaseImage) (name : String) : Option (List ImageRow) :=
  (image.listedTables.find? fun table => table.name = name).map fun table =>
    (image.readTree image.pageCount table.root).map fun (number, values) =>
      ⟨number, table.columns.zip values⟩

end DatabaseImage

namespace ImageRow

def text? (row : ImageRow) (column : String) : Option String :=
  match row.values.lookup column with
  | some (.text content) => some content
  | _ => none

def number? (row : ImageRow) (column : String) : Option Number :=
  match row.values.lookup column with
  | some (.number value) => some value
  | _ => none

def whole? (row : ImageRow) (column : String) : Option Int :=
  (row.number? column).bind Number.wholeValue?

def natural (row : ImageRow) (column : String) : Nat :=
  ((row.whole? column).map Int.toNat).getD 0

/-- The whole number in a column that holds the number of the row unless it says otherwise. -/
def key (row : ImageRow) (column : String) : Int :=
  (row.whole? column).getD row.number

/-- A row of the table of keys and values. -/
def keyValue (row : ImageRow) : KeyValue :=
  ⟨row.key "k", row.text? "v"⟩

/-- A row of the table of data sources. -/
def source (row : ImageRow) : StoredSource :=
  ⟨row.key "obj_id", (row.text? "name").getD ""⟩

def file (row : ImageRow) : StoredFile where
  id := row.key "obj_id"
  name := (row.text? "name").getD ""
  parentPath := (row.text? "parent_path").getD ""
  size := (row.number? "size").getD (.finite 0)
  sourceId := (row.number? "data_source_obj_id").getD (.finite 0)
  mediaType := row.text? "mime_type"
  hash := row.text? "md5"

def artifact (row : ImageRow) : StoredArtifact :=
  ⟨row.key "artifact_id", (row.number? "obj_id").getD (.finite 0), row.natural "artifact_type_id"⟩

def listAttribute (row : ImageRow) : StoredAttribute :=
  ⟨(row.whole? "artifact_id").getD 0, row.natural "artifact_type_id",
    row.natural "attribute_type_id", row.text? "value_text"⟩

def correlationType (row : ImageRow) : CorrelationType :=
  ⟨.ofInt (row.key "id"), (row.text? "display_name").getD "", (row.text? "db_table_name").getD ""⟩

def occurrence (row : ImageRow) : Occurrence :=
  ⟨(row.number? "case_id").getD (.finite 0), (row.number? "data_source_id").getD (.finite 0),
    (row.text? "value").getD "", (row.text? "file_path").getD ""⟩

end ImageRow

namespace DatabaseImage

/-- The number of a row that a table used up last: that of its last row, or a greater one that is
kept for the table. -/
def lastNumber (image : DatabaseImage) (table : String) (rows : List ImageRow) : Int :=
  let kept :=
    ((image.tableRows Tables.sequenceName).getD []).filterMap fun row =>
      if row.text? "name" = some table then row.whole? "seq" else none
  (rows.map ImageRow.number ++ kept).foldl max 0

/-- What is missing of tables with the given columns. -/
def schemaGaps (image : DatabaseImage) (schema : List (String × List String)) :
    List SchemaGap :=
  schema.flatMap fun (name, columns) =>
    match image.listedTables.find? fun table => table.name = name with
    | none => [.table name]
    | some table =>
        (columns.filter fun column => !table.columns.contains column).map (.column name)

/-- The tables of a case, if one of them is there. -/
def caseTables? (image : DatabaseImage) : Option CaseTables :=
  let rows (table : String) := (image.tableRows table).getD []
  let files := rows "tsk_files"
  let artifacts := rows "blackboard_artifacts"
  let attributes := rows "blackboard_attributes"
  let caseTables : CaseTables := {
    sources := (rows "data_source_info").map ImageRow.source
    files := files.map ImageRow.file
    artifacts := artifacts.map ImageRow.artifact
    attributes := attributes.map ImageRow.listAttribute
    lastFile := image.lastNumber "tsk_files" files
    lastArtifact := image.lastNumber "blackboard_artifacts" artifacts
    lastAttribute := image.lastNumber "blackboard_attributes" attributes
    gaps := image.schemaGaps CaseTables.schema }
  if caseTables.present.isEmpty then none else some caseTables

/-- The tables of a central repository, if one of them is there. -/
def repositoryTables? (image : DatabaseImage) : Option RepositoryTables :=
  let rows (table : String) := (image.tableRows table).getD []
  let occurrences := rows "file_instances"
  let repositoryTables : RepositoryTables := {
    types := (rows "correlation_types").map ImageRow.correlationType
    occurrences := occurrences.map ImageRow.occurrence
    used := image.lastNumber "file_instances" occurrences
    gaps := image.schemaGaps RepositoryTables.schema }
  if repositoryTables.present.isEmpty then none else some repositoryTables

def tables (image : DatabaseImage) : Tables :=
  let known : Tables :=
    { keyValues := (image.tableRows KeyValues.tableName).map fun rows =>
        rows.map ImageRow.keyValue
      caseTables := image.caseTables?
      repositoryTables := image.repositoryTables? }
  { known with further := known.missing (image.listedTables.map ListedTable.name) }

/-! ## Opening -/

/-- The size of a page that the head of the file gives; sixteen bits do not hold the largest. -/
def writtenPageSize (bytes : ByteArray) : Nat :=
  byteAt bytes 16 * 256 + byteAt bytes 17 * 65536

def pageSizes : List Nat :=
  [512, 1024, 2048, 4096, 8192, 16384, 32768, 65536]

/-- The least number of bytes of a page that must be in use. -/
def leastUsable : Nat := 480

/-- Three bytes that stand in the head of every database, after the number of bytes of a page that
are not in use. -/
def fractionBytes : List Nat := [64, 32, 32]

def headIsRight (bytes : ByteArray) : Bool :=
  let pageSize := writtenPageSize bytes
  byteAt bytes 15 = 0 && byteAt bytes 19 ≤ 2 &&
    (List.range 3).map (fun index => byteAt bytes (21 + index)) = fractionBytes &&
    pageSizes.contains pageSize && leastUsable + byteAt bytes 20 ≤ pageSize

/-- How many pages the head of the file counts, unless another program changed the file without
counting them. -/
def writtenPageCount? (bytes : ByteArray) : Option Nat :=
  let count := bigEndian bytes 28 4
  if count = 0 || bigEndian bytes 24 4 ≠ bigEndian bytes 92 4 then none else some count

/-- The encoding that the head of the file gives. -/
def writtenEncoding (bytes : ByteArray) : TextEncoding :=
  match byteAt bytes 59 % 4 with
  | 2 => .utf16 true
  | 3 => .utf16 false
  | _ => .utf8

/-- Whether the first page can list tables. -/
def listsTables (bytes : ByteArray) : Bool :=
  byteAt bytes headerLength = 13 || byteAt bytes headerLength = 5

/-- The last layout of rows that is known. -/
def lastLayout : Nat := 4

/-- Take bytes that start as a database file as one. -/
def ofBytes (bytes : ByteArray) : Except ImageFault DatabaseImage :=
  if !headIsRight bytes then .error .notDatabase
  else
    let pageSize := writtenPageSize bytes
    let present := (bytes.size + pageSize - 1) / pageSize
    if present < (writtenPageCount? bytes).getD 0 then .error .cutShort
    else if lastLayout < byteAt bytes 47 then .error .unknownLayout
    else if !listsTables bytes then .error .brokenList
    else .ok ⟨bytes, pageSize, pageSize - byteAt bytes 20, writtenEncoding bytes⟩

end DatabaseImage
end EvidenceSearch
