import EvidenceSearch.FileType
import EvidenceSearch.Proofs.Text.Trimming

/-!
# Lists of file types that were read

A list of file types that was read holds no entry that can not be used: every file type has a media
type, no name has blanks around it, and no two names count as equal. So every file type of the list
is found under its own name.
-/

namespace EvidenceSearch

/-! ## Reading entries -/

namespace FileType

/-- Every file type has a media type, no name has blanks around it, and no two names count as
equal. -/
structure Distinguished (types : List FileType) : Prop where
  listed : ∀ type ∈ types, type.mediaTypes ≠ []
  trimmed : ∀ type ∈ types, trim type.name = type.name
  distinct :
    types.Pairwise fun earlier later => lowerCase earlier.name ≠ lowerCase later.name

variable {known types : List FileType} {index : Nat} {entry : Json} {type : FileType}

theorem distinguished_nil : Distinguished [] :=
  ⟨List.forall_mem_nil _, List.forall_mem_nil _, List.Pairwise.nil⟩

theorem mediaTypes_ne_nil {mediaTypes : List String} (read : mediaTypes? entry = some mediaTypes) :
    mediaTypes ≠ [] := by
  rw [mediaTypes?] at read
  split at read
  · rename_i item items _
    rw [List.mapM_cons] at read
    obtain ⟨first, _, rest⟩ := Option.bind_eq_some_iff.mp read
    obtain ⟨others, _, ended⟩ := Option.bind_eq_some_iff.mp rest
    obtain rfl := Option.some.inj ended
    exact List.cons_ne_nil first others
  · cases read

/-- What is read of an entry: its trimmed name, under which nothing is known yet, and at least one
media type. -/
theorem readEntry_eq_ok (read : readEntry known index entry = .ok type) :
    type.mediaTypes ≠ [] ∧ trim type.name = type.name ∧
      ∀ earlier ∈ known, lowerCase earlier.name ≠ lowerCase type.name := by
  rw [readEntry] at read
  split at read
  · cases read
  · split at read
    · cases read
    · rename_i name _
      split at read
      · cases read
      · rename_i mediaTypes isMediaTypes
        split at read
        · cases read
        · rename_i unknown
          obtain rfl := Except.ok.inj read
          refine ⟨mediaTypes_ne_nil isMediaTypes, trim_trim name, ?_⟩
          intro earlier member same
          exact unknown (List.any_eq_true.mpr ⟨earlier, member, decide_eq_true same⟩)

theorem Distinguished.concat
    (distinguished : Distinguished known) (read : readEntry known index entry = .ok type) :
    Distinguished (known ++ [type]) := by
  obtain ⟨listed, trimmed, unknown⟩ := readEntry_eq_ok read
  refine ⟨?_, ?_, ?_⟩
  · rw [List.forall_mem_append, List.forall_mem_singleton]
    exact ⟨distinguished.listed, listed⟩
  · rw [List.forall_mem_append, List.forall_mem_singleton]
    exact ⟨distinguished.trimmed, trimmed⟩
  · rw [List.pairwise_append]
    refine ⟨distinguished.distinct, List.pairwise_singleton _ _, ?_⟩
    intro earlier member later isLater
    obtain rfl := List.mem_singleton.mp isLater
    exact unknown earlier member

theorem Distinguished.readEntries
    (distinguished : Distinguished known) (index : Nat) (entries : List Json) :
    Distinguished (readEntries known index entries).1 := by
  induction entries generalizing known index with
  | nil =>
      exact distinguished
  | cons entry entries inductionHypothesis =>
      rw [FileType.readEntries]
      split
      · rename_i type read
        exact inductionHypothesis (distinguished.concat read) (index + 1)
      · -- an entry that is refused leaves what was read before it
        exact inductionHypothesis distinguished (index + 1)

theorem distinguished_of_listOfJson {json : Json} (read : listOfJson json = .ok types) :
    Distinguished types := by
  cases json with
  | array entries =>
      have distinguished := distinguished_nil.readEntries 0 entries
      rw [listOfJson] at read
      split at read
      · rename_i known isKnown
        obtain rfl := Except.ok.inj read
        rw [isKnown] at distinguished
        exact distinguished
      · cases read
  | _ =>
      cases read

/-! ## Finding file types -/

/-- A file type of the list is found under its own name. -/
theorem Distinguished.find?_name
    (distinguished : Distinguished types) (member : type ∈ types) :
    find? types type.name = some type := by
  have isKey : key type.name = lowerCase type.name := by
    rw [key, distinguished.trimmed type member]
  rw [find?, isKey, List.find?_eq_some_iff_append]
  obtain ⟨before, after, rfl⟩ := List.append_of_mem member
  refine ⟨decide_eq_true rfl, before, after, rfl, ?_⟩
  intro earlier isBefore
  have different :=
    (List.pairwise_append.mp distinguished.distinct).2.2 earlier isBefore type List.mem_cons_self
  rw [decide_eq_false different, Bool.not_false]

end FileType
end EvidenceSearch
