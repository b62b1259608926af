import EvidenceSearch.Filter.Basic
import EvidenceSearch.Proofs.Sql.Matching
import EvidenceSearch.Proofs.Sql.Scanning
import EvidenceSearch.Storage.CaseTables

/-!
# What filters mean

The files that a filter asks for, said without any clause: a file passes if one of the values of
the filter applies to it. A filter by frequency says nothing about the file itself.
-/

namespace EvidenceSearch

/-- The size lies above the lower bound and not above the upper one; in an open range it is not
below the lower bound. -/
def SizeRange.Covers (range : SizeRange) (size : Number) : Prop :=
  match range.high with
  | none => (Number.finite (range.low : Int)).atMost size
  | some high =>
      (Number.finite (range.low : Int)).below size ∧ size.atMost (.finite (high : Int))

/-- The path is the one to look for, or holds it somewhere, the letters from A to Z in either
case. -/
def PathTerm.Matches (term : PathTerm) (path : String) : Prop :=
  if term.whole then path = term.text else Sql.OccursIn term.text.toList path.toList

/-- The path is the one to look for, or holds it somewhere before its first null character. -/
def PathTerm.Finds (term : PathTerm) (path : String) : Prop :=
  if term.whole then path = term.text
  else
    Sql.OccursIn term.text.toList (path.toList.takeWhile fun character => character ≠ '\x00')

theorem PathTerm.finds_iff
    {path : String} (term : PathTerm) (plain : '\x00' ∉ path.toList) :
    term.Finds path ↔ term.Matches path := by
  rw [PathTerm.Finds, PathTerm.Matches, Sql.takeWhile_ne_null plain]

/-- The keyword list has a hit in the file: an artifact of the file has an attribute that names the
list. -/
def CaseTables.HasHit (tables : CaseTables) (file : StoredFile) (list : String) : Prop :=
  ∃ artifact ∈ tables.artifacts, ∃ row ∈ tables.attributes,
    artifact.fileId = .finite file.id ∧ row.artifactId = artifact.id ∧
      row.artifactType = keywordHitType ∧ row.type = listNameType ∧ row.text = some list

namespace Filter

/-- One of the values of the filter applies to the file. -/
def Admits (tables : CaseTables) (file : StoredFile) : Filter → Prop
  | .size ranges => ∃ range ∈ ranges.toList, range.Covers file.size
  | .parent paths => ∃ path ∈ paths.toList, path.term.Matches file.parentPath
  | .dataSource sources => ∃ source ∈ sources.toList, file.sourceId = .finite source.id
  | .keywordList lists => ∃ list ∈ lists.toList, tables.HasHit file list.name
  | .fileType types =>
      ∃ choice ∈ types.toList, ∃ mediaType ∈ choice.type.mediaTypes,
        file.mediaType = some mediaType
  | .frequency _ => True

/-- The clause of the filter is true of the file. A path is looked for only before the first null
character of the parent path; apart from that the filter admits the file. -/
def Selects (tables : CaseTables) (file : StoredFile) (filter : Filter) : Prop :=
  match filter with
  | .parent paths => ∃ path ∈ paths.toList, path.term.Finds file.parentPath
  | filter => filter.Admits tables file

theorem selects_iff
    {tables : CaseTables} {file : StoredFile} (plain : '\x00' ∉ file.parentPath.toList)
    (filter : Filter) :
    filter.Selects tables file ↔ filter.Admits tables file := by
  cases filter with
  | parent paths =>
      simp only [Selects, Admits, PathTerm.finds_iff _ plain]
  | _ =>
      rfl

/-- The texts of a filter that stand in its clause. -/
def texts : Filter → List String
  | .parent paths => paths.toList.map fun path => path.term.text
  | .keywordList lists => lists.toList.map ListChoice.name
  | .fileType types => types.toList.flatMap fun choice => choice.type.mediaTypes
  | _ => []

/-- No text that the filter puts into its clause holds a null character. -/
def NullFree (filter : Filter) : Prop :=
  ∀ text ∈ filter.texts, '\x00' ∉ text.toList

end Filter
end EvidenceSearch
