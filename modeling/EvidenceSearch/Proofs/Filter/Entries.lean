import EvidenceSearch.Proofs.Filter.FileTypes
import EvidenceSearch.Proofs.Listing
import Mathlib.Data.List.Forall2

/-!
# The entries of a list of file types

An entry can be used if it is an object with a name and media types and no usable entry before it
has a name that counts as equal. A list of file types is read exactly if all of its entries can be
used; otherwise every other entry is reported, in order. What was read can be written and read
again, and a file type is found under every name that counts as equal to its own and under no other.
-/

namespace EvidenceSearch

namespace FileType

variable {before entries : List Json} {entry : Json} {known types : List FileType}
  {name : String} {mediaTypes : List String} {problem : EntryProblem}
  {problems : List EntryProblem}

/-! ## Entries -/

/-- The entry is an object with a name that is not blank and with media types: at least one, and
none of them empty. -/
structure Lists (entry : Json) (name : String) (mediaTypes : List String) : Prop where
  isObject : entry.isObject = true
  named : entry.field? "name" = some (.string name)
  filled : trim name ≠ ""
  listed : entry.field? "mediaTypes" = some (.ofStrings mediaTypes)
  nonempty : mediaTypes ≠ []
  each : ∀ mediaType ∈ mediaTypes, mediaType ≠ ""

/-- One of the entries lists media types under a name that counts as equal. -/
def Repeats (before : List Json) (name : String) : Prop :=
  ∃ earlier ∈ before, ∃ other mediaTypes, Lists earlier other mediaTypes ∧ key other = key name

/-- What is wrong with an entry behind those before it. -/
inductive Offends (before : List Json) (entry : Json) : EntryProblem → Prop where
  | notAnObject : hasFields entry = false → Offends before entry (.notAnObject before.length)
  | noName :
      hasFields entry = true →
      (∀ name, entry.field? "name" = some (.string name) → trim name = "") →
      Offends before entry (.noName before.length)
  | noMediaTypes {name : String} :
      entry.field? "name" = some (.string name) → trim name ≠ "" →
      (∀ mediaTypes, ¬ Lists entry name mediaTypes) →
      Offends before entry (.noMediaTypes name)
  | duplicate {name : String} {mediaTypes : List String} :
      Lists entry name mediaTypes → Repeats before name → Offends before entry (.duplicate name)

theorem Lists.name_unique
    {other : String} {otherTypes : List String} (lists : Lists entry name mediaTypes)
    (listsOther : Lists entry other otherTypes) : other = name := by
  have same := listsOther.named.symm.trans lists.named
  exact Json.string.inj (Option.some.inj same)

/-- The entry lists media types, and no entry before it does so under a name that counts as
equal. -/
def Usable (before : List Json) (entry : Json) : Prop :=
  ∃ name mediaTypes, Lists entry name mediaTypes ∧ ¬ Repeats before name

theorem hasFields_of_isObject (isObject : entry.isObject = true) : hasFields entry = true := by
  cases entry with
  | object fields =>
      rfl
  | _ =>
      cases isObject

/-- A duplicate could be used without the entries before it. Every other entry that is reported
lists nothing. -/
theorem Offends.cases (offends : Offends before entry problem) :
    (∀ name mediaTypes, ¬ Lists entry name mediaTypes) ∧ (∀ name, problem ≠ .duplicate name) ∨
      ∃ name mediaTypes,
        problem = .duplicate name ∧ Lists entry name mediaTypes ∧ Repeats before name := by
  cases offends with
  | notAnObject noFields =>
      refine Or.inl ⟨fun name mediaTypes lists => ?_, fun _ => nofun⟩
      rw [hasFields_of_isObject lists.isObject] at noFields
      cases noFields
  | noName _ blank =>
      exact
        Or.inl ⟨fun name _ lists => lists.filled (blank name lists.named), fun _ => nofun⟩
  | noMediaTypes named _ none =>
      refine Or.inl ⟨fun name mediaTypes lists => ?_, fun _ => nofun⟩
      have same := named.symm.trans lists.named
      obtain rfl := Json.string.inj (Option.some.inj same)
      exact none mediaTypes lists
  | duplicate lists repeated =>
      exact Or.inr ⟨_, _, rfl, lists, repeated⟩

theorem Offends.not_usable (offends : Offends before entry problem) : ¬ Usable before entry := by
  rintro ⟨name, mediaTypes, lists, isNew⟩
  rcases offends.cases with ⟨unlisted, _⟩ | ⟨other, otherTypes, _, listsOther, repeated⟩
  · exact unlisted name mediaTypes lists
  · obtain rfl := lists.name_unique listsOther
    exact isNew repeated

theorem Offends.isDuplicate_iff (offends : Offends before entry problem) :
    (∃ name, problem = .duplicate name) ↔
      ∃ name mediaTypes, Lists entry name mediaTypes ∧ Repeats before name := by
  rcases offends.cases with ⟨unlisted, isOther⟩ | ⟨name, mediaTypes, isDuplicate, lists, repeated⟩
  · refine iff_of_false (fun ⟨name, isDuplicate⟩ => isOther name isDuplicate) ?_
    rintro ⟨name, mediaTypes, lists, _⟩
    exact unlisted name mediaTypes lists
  · exact iff_of_true ⟨name, isDuplicate⟩ ⟨name, mediaTypes, lists, repeated⟩

/-! ## Reading one entry -/

theorem isObject_of_field?
    {field : String} {value : Json} (stands : entry.field? field = some value) :
    entry.isObject = true := by
  cases entry with
  | object fields =>
      rfl
  | _ =>
      cases stands

theorem entryName?_eq_some :
    entryName? entry = some name ↔
      entry.field? "name" = some (.string name) ∧ trim name ≠ "" := by
  rw [entryName?, Option.filter_eq_some_iff, decide_eq_true_iff, Option.bind_eq_some_iff]
  constructor
  · rintro ⟨⟨value, stands, isText⟩, filled⟩
    cases value with
    | string text =>
        obtain rfl := Option.some.inj isText
        exact ⟨stands, filled⟩
    | _ =>
        cases isText
  · rintro ⟨stands, filled⟩
    exact ⟨⟨_, stands, rfl⟩, filled⟩

theorem mediaType?_eq_some {value : Json} {text : String} :
    mediaType? value = some text ↔ value = .string text ∧ text ≠ "" := by
  cases value with
  | string given =>
      rw [mediaType?]
      split <;> grind
  | _ =>
      simp [mediaType?]

theorem mapM_mediaType?_eq_some {items : List Json} :
    items.mapM mediaType? = some mediaTypes ↔
      items = mediaTypes.map .string ∧ ∀ mediaType ∈ mediaTypes, mediaType ≠ "" := by
  induction items generalizing mediaTypes with
  | nil =>
      cases mediaTypes <;> simp
  | cons item items inductionHypothesis =>
      simp only [List.mapM_cons, Option.bind_eq_bind, Option.bind_eq_some_iff, Option.pure_def,
        Option.some.injEq, mediaType?_eq_some, inductionHypothesis]
      constructor
      · rintro ⟨first, ⟨rfl, firstFilled⟩, others, ⟨rfl, othersFilled⟩, rfl⟩
        exact ⟨rfl, List.forall_mem_cons.mpr ⟨firstFilled, othersFilled⟩⟩
      · rintro ⟨isMap, each⟩
        cases mediaTypes with
        | nil =>
            cases isMap
        | cons first others =>
            obtain ⟨rfl, rfl⟩ := List.cons.inj isMap
            obtain ⟨firstFilled, othersFilled⟩ := List.forall_mem_cons.mp each
            exact ⟨first, ⟨rfl, firstFilled⟩, others, ⟨rfl, othersFilled⟩, rfl⟩

theorem mediaTypes?_eq_some :
    mediaTypes? entry = some mediaTypes ↔
      entry.field? "mediaTypes" = some (.ofStrings mediaTypes) ∧ mediaTypes ≠ [] ∧
        ∀ mediaType ∈ mediaTypes, mediaType ≠ "" := by
  constructor
  · intro read
    have nonempty := mediaTypes_ne_nil read
    rw [mediaTypes?] at read
    split at read
    · rename_i item items isItems
      obtain ⟨isMap, each⟩ := mapM_mediaType?_eq_some.mp read
      obtain ⟨value, stands, isArray⟩ := Option.bind_eq_some_iff.mp isItems
      cases value with
      | array given =>
          obtain rfl := Option.some.inj isArray
          rw [isMap] at stands
          exact ⟨stands, nonempty, each⟩
      | _ =>
          cases isArray
    · cases read
  · rintro ⟨stands, nonempty, each⟩
    obtain ⟨first, others, rfl⟩ := List.exists_cons_of_ne_nil nonempty
    rw [mediaTypes?, stands]
    exact mapM_mediaType?_eq_some.mpr ⟨rfl, each⟩

theorem lists_iff :
    Lists entry name mediaTypes ↔
      entryName? entry = some name ∧ mediaTypes? entry = some mediaTypes := by
  rw [entryName?_eq_some, mediaTypes?_eq_some]
  constructor
  · rintro ⟨_, named, filled, listed, nonempty, each⟩
    exact ⟨⟨named, filled⟩, listed, nonempty, each⟩
  · rintro ⟨⟨named, filled⟩, listed, nonempty, each⟩
    exact ⟨isObject_of_field? named, named, filled, listed, nonempty, each⟩

/-- The known file types are told apart by the names of the entries before. -/
def Known (before : List Json) (known : List FileType) : Prop :=
  ∀ name, (∃ type ∈ known, lowerCase type.name = key name) ↔ Repeats before name

/-- An entry is read if it can be used, and otherwise what is wrong with it is reported. -/
theorem readEntry_cases (isKnown : Known before known) (entry : Json) :
    (∃ name mediaTypes,
      Lists entry name mediaTypes ∧ ¬ Repeats before name ∧
        readEntry known before.length entry = .ok ⟨trim name, mediaTypes⟩) ∨
    ∃ problem, Offends before entry problem ∧
      readEntry known before.length entry = .error problem := by
  cases fields : hasFields entry with
  | false =>
      refine Or.inr ⟨_, .notAnObject fields, ?_⟩
      rw [readEntry, fields]
      rfl
  | true =>
      cases isName : entryName? entry with
      | none =>
          refine Or.inr ⟨_, .noName fields fun name named => ?_, ?_⟩
          · by_contra filled
            have read := entryName?_eq_some.mpr ⟨named, filled⟩
            rw [isName] at read
            cases read
          · rw [readEntry, fields, isName]
            rfl
      | some name =>
          obtain ⟨named, filled⟩ := entryName?_eq_some.mp isName
          cases isMediaTypes : mediaTypes? entry with
          | none =>
              refine Or.inr ⟨_, .noMediaTypes named filled fun mediaTypes lists => ?_, ?_⟩
              · have read := (lists_iff.mp lists).2
                rw [isMediaTypes] at read
                cases read
              · rw [readEntry, fields, isName, isMediaTypes]
                rfl
          | some mediaTypes =>
              have lists := lists_iff.mpr ⟨isName, isMediaTypes⟩
              have isRepeated :
                  (known.any fun type => lowerCase type.name = key name) = true ↔
                    Repeats before name := by
                rw [List.any_eq_true, ← isKnown name]
                simp only [decide_eq_true_iff]
              rw [readEntry, fields, isName, isMediaTypes]
              simp only [Bool.not_true, Bool.false_eq_true, if_false]
              by_cases repeated : Repeats before name
              · rw [if_pos (isRepeated.mpr repeated)]
                exact Or.inr ⟨_, .duplicate lists repeated, rfl⟩
              · rw [if_neg (mt isRepeated.mp repeated)]
                exact Or.inl ⟨name, mediaTypes, lists, repeated, rfl⟩

/-! ## Reading entry by entry -/

theorem repeats_concat_of_lists
    (lists : Lists entry name mediaTypes) (other : String) :
    Repeats (before ++ [entry]) other ↔ Repeats before other ∨ key name = key other := by
  constructor
  · rintro ⟨earlier, member, found, foundTypes, listsFound, same⟩
    rcases List.mem_append.mp member with isBefore | isEntry
    · exact Or.inl ⟨earlier, isBefore, found, foundTypes, listsFound, same⟩
    · obtain rfl := List.mem_singleton.mp isEntry
      obtain rfl := lists.name_unique listsFound
      exact Or.inr same
  · rintro (⟨earlier, isBefore, rest⟩ | same)
    · exact ⟨earlier, List.mem_append_left _ isBefore, rest⟩
    · exact ⟨entry, List.mem_append_right _ List.mem_cons_self, name, mediaTypes, lists, same⟩

/-- An entry that can not be used takes no name away. -/
theorem repeats_concat_of_offends
    (offends : Offends before entry problem) (other : String) :
    Repeats (before ++ [entry]) other ↔ Repeats before other := by
  rcases offends.cases with ⟨unlisted, _⟩ | ⟨name, mediaTypes, _, lists, repeated⟩
  · constructor
    · rintro ⟨earlier, member, found, foundTypes, listsFound, same⟩
      rcases List.mem_append.mp member with isBefore | isEntry
      · exact ⟨earlier, isBefore, found, foundTypes, listsFound, same⟩
      · obtain rfl := List.mem_singleton.mp isEntry
        exact absurd listsFound (unlisted found foundTypes)
    · rintro ⟨earlier, isBefore, rest⟩
      exact ⟨earlier, List.mem_append_left _ isBefore, rest⟩
  · rw [repeats_concat_of_lists lists]
    refine or_iff_left_of_imp fun same => ?_
    obtain ⟨earlier, isBefore, found, foundTypes, listsFound, sameFound⟩ := repeated
    exact ⟨earlier, isBefore, found, foundTypes, listsFound, sameFound.trans same⟩

theorem Known.concat_of_lists
    (isKnown : Known before known) (lists : Lists entry name mediaTypes) :
    Known (before ++ [entry]) (known ++ [⟨trim name, mediaTypes⟩]) := by
  intro other
  rw [repeats_concat_of_lists lists, ← isKnown other]
  simp only [List.mem_append, List.mem_singleton, or_and_right, exists_or, exists_eq_left]
  rfl

theorem Known.concat_of_offends
    (isKnown : Known before known) (offends : Offends before entry problem) :
    Known (before ++ [entry]) known := by
  intro other
  rw [repeats_concat_of_offends offends, ← isKnown other]

/-- What is read of entries behind others, and what is reported. -/
inductive Reads : List Json → List Json → List FileType → List EntryProblem → Prop where
  | nil {before : List Json} : Reads before [] [] []
  | read {before entries : List Json} {entry : Json} {types : List FileType}
      {problems : List EntryProblem} {name : String} {mediaTypes : List String} :
      Lists entry name mediaTypes → ¬ Repeats before name →
      Reads (before ++ [entry]) entries types problems →
      Reads before (entry :: entries) (⟨trim name, mediaTypes⟩ :: types) problems
  | report {before entries : List Json} {entry : Json} {types : List FileType}
      {problems : List EntryProblem} {problem : EntryProblem} :
      Offends before entry problem →
      Reads (before ++ [entry]) entries types problems →
      Reads before (entry :: entries) types (problem :: problems)

theorem exists_reads (isKnown : Known before known) (entries : List Json) :
    ∃ types problems, Reads before entries types problems ∧
      readEntries known before.length entries = (known ++ types, problems) := by
  induction entries generalizing before known with
  | nil =>
      exact ⟨[], [], .nil, by rw [readEntries, List.append_nil]⟩
  | cons entry entries inductionHypothesis =>
      have nextIndex : before.length + 1 = (before ++ [entry]).length := by
        rw [List.length_append, List.length_singleton]
      rcases readEntry_cases isKnown entry with
        ⟨name, mediaTypes, lists, isNew, read⟩ | ⟨problem, offends, refused⟩
      · obtain ⟨types, problems, reads, ran⟩ := inductionHypothesis (isKnown.concat_of_lists lists)
        refine ⟨_, _, .read lists isNew reads, ?_⟩
        rw [readEntries, read, nextIndex]
        dsimp only
        rw [ran, List.append_assoc, List.singleton_append]
      · obtain ⟨types, problems, reads, ran⟩ :=
          inductionHypothesis (isKnown.concat_of_offends offends)
        refine ⟨_, _, .report offends reads, ?_⟩
        rw [readEntries, refused, nextIndex]
        dsimp only
        rw [ran]

/-- The types are those that the entries list, one for each entry. -/
def ListsAll (entries : List Json) (types : List FileType) : Prop :=
  List.Forall₂
    (fun entry type => ∃ name, Lists entry name type.mediaTypes ∧ type.name = trim name)
    entries types

/-- The entries have names that do not count as equal. -/
def Distinct (entries : List Json) : Prop :=
  entries.Pairwise fun earlier later =>
    ∀ name mediaTypes other otherTypes,
      Lists earlier name mediaTypes → Lists later other otherTypes → key name ≠ key other

theorem Reads.listsAll (reads : Reads before entries types problems) (noProblem : problems = []) :
    ListsAll entries types := by
  induction reads with
  | nil =>
      exact .nil
  | read lists _ _ inductionHypothesis =>
      exact .cons ⟨_, lists, rfl⟩ (inductionHypothesis noProblem)
  | report _ _ _ =>
      cases noProblem

theorem Reads.distinct
    (reads : Reads before entries types problems) (noProblem : problems = []) :
    Distinct entries ∧
      ∀ entry ∈ entries, ∀ name mediaTypes,
        Lists entry name mediaTypes → ¬ Repeats before name := by
  induction reads with
  | nil =>
      exact ⟨List.Pairwise.nil, List.forall_mem_nil _⟩
  | @read before entries entry types problems name mediaTypes lists isNew _ inductionHypothesis =>
      obtain ⟨distinct, isNewLater⟩ := inductionHypothesis noProblem
      refine ⟨List.pairwise_cons.mpr ⟨?_, distinct⟩, List.forall_mem_cons.mpr ⟨?_, ?_⟩⟩
      · intro later member found foundTypes other otherTypes listsFound listsOther same
        obtain rfl := lists.name_unique listsFound
        apply isNewLater later member other otherTypes listsOther
        exact (repeats_concat_of_lists lists other).mpr (Or.inr same)
      · intro found foundTypes listsFound
        obtain rfl := lists.name_unique listsFound
        exact isNew
      · intro later member other otherTypes listsOther repeated
        apply isNewLater later member other otherTypes listsOther
        exact (repeats_concat_of_lists lists other).mpr (Or.inl repeated)
  | report _ _ _ =>
      cases noProblem

/-- Where an entry is reported, one of the entries can not be used. -/
theorem Reads.problems_eq_nil
    (reads : Reads before entries types problems)
    (each : ∀ entry ∈ entries, ∃ name mediaTypes, Lists entry name mediaTypes)
    (distinct : Distinct entries)
    (isNew : ∀ entry ∈ entries, ∀ name mediaTypes,
      Lists entry name mediaTypes → ¬ Repeats before name) :
    problems = [] := by
  induction reads with
  | nil =>
      rfl
  | @read before entries entry types problems name mediaTypes lists _ _ inductionHypothesis =>
      obtain ⟨different, distinctLater⟩ := List.pairwise_cons.mp distinct
      refine inductionHypothesis (List.forall_mem_cons.mp each).2 distinctLater ?_
      intro later member other otherTypes listsOther repeated
      rcases (repeats_concat_of_lists lists other).mp repeated with isBefore | same
      · exact (List.forall_mem_cons.mp isNew).2 later member other otherTypes listsOther isBefore
      · exact different later member name mediaTypes other otherTypes lists listsOther same
  | report offends _ _ =>
      obtain ⟨name, mediaTypes, lists⟩ := (List.forall_mem_cons.mp each).1
      have isNewHere := (List.forall_mem_cons.mp isNew).1 name mediaTypes lists
      exact absurd ⟨name, mediaTypes, lists, isNewHere⟩ offends.not_usable

/-- The entry at the place can not be used. -/
def Refused (entries : List Json) (place : Nat) : Prop :=
  ∃ entry, entries[place]? = some entry ∧ ¬ Usable (entries.take place) entry

/-- The problem says what is wrong with the entry at the place. -/
def Explains (entries : List Json) (place : Nat) (problem : EntryProblem) : Prop :=
  ∃ entry, entries[place]? = some entry ∧ Offends (entries.take place) entry problem

/-- There is one problem for each entry that can not be used, in the order of the entries, and it
says what is wrong there. -/
def ReportsEach (entries : List Json) (problems : List EntryProblem) : Prop :=
  ∃ places : List Nat,
    places.Pairwise (· < ·) ∧ (∀ place, place ∈ places ↔ Refused entries place) ∧
      List.Forall₂ (Explains entries) places problems

theorem refused_append_cons :
    Refused (before ++ entry :: entries) before.length ↔ ¬ Usable before entry := by
  rw [Refused, List.getElem?_append_right le_rfl, Nat.sub_self, List.take_left]
  simp

theorem explains_append_cons (offends : Offends before entry problem) :
    Explains (before ++ entry :: entries) before.length problem := by
  refine ⟨entry, ?_, ?_⟩
  · rw [List.getElem?_append_right le_rfl, Nat.sub_self]
    rfl
  · rw [List.take_left]
    exact offends

/-- The places of the reported entries, where the first of the entries stands behind others. -/
theorem Reads.exists_places
    {all : List Json} (reads : Reads before entries types problems)
    (isAll : all = before ++ entries) :
    ∃ places : List Nat,
      places.Pairwise (· < ·) ∧
        (∀ place, place ∈ places ↔ before.length ≤ place ∧ Refused all place) ∧
        List.Forall₂ (Explains all) places problems := by
  induction reads with
  | @nil before =>
      refine ⟨[], List.Pairwise.nil, fun place => iff_of_false List.not_mem_nil ?_, .nil⟩
      rintro ⟨atLeast, entry, stands, _⟩
      rw [isAll, List.append_nil, List.getElem?_eq_none atLeast] at stands
      cases stands
  | @read before entries entry types problems name mediaTypes lists isNew _ inductionHypothesis =>
      obtain ⟨places, ordered, isPlace, explained⟩ := inductionHypothesis (by simp [isAll])
      have notHere : ¬ Refused all before.length := by
        rw [isAll, refused_append_cons, not_not]
        exact ⟨name, mediaTypes, lists, isNew⟩
      refine ⟨places, ordered, fun place => ?_, explained⟩
      rw [isPlace place, List.length_append, List.length_singleton]
      grind
  | @report before entries entry types problems problem offends _ inductionHypothesis =>
      obtain ⟨places, ordered, isPlace, explained⟩ := inductionHypothesis (by simp [isAll])
      have isHere : Refused all before.length := by
        rw [isAll, refused_append_cons]
        exact offends.not_usable
      have explainsHere : Explains all before.length problem := by
        rw [isAll]
        exact explains_append_cons offends
      simp only [List.length_append, List.length_singleton] at isPlace
      refine ⟨before.length :: places, List.pairwise_cons.mpr ⟨?_, ordered⟩, fun place => ?_,
        .cons explainsHere explained⟩
      · intro place member
        exact ((isPlace place).mp member).1
      · rw [List.mem_cons, isPlace place]
        grind

theorem Reads.reportsEach (reads : Reads [] entries types problems) :
    ReportsEach entries problems := by
  obtain ⟨places, ordered, isPlace, explained⟩ := reads.exists_places (List.nil_append entries).symm
  refine ⟨places, ordered, fun place => ?_, explained⟩
  rw [isPlace place]
  exact and_iff_right (Nat.zero_le place)

/-! ## Whole lists -/

theorem listOfJson_array (entries : List Json) :
    ∃ types problems, Reads [] entries types problems ∧
      listOfJson (.array entries) =
        if problems = [] then .ok types else .error (.entries problems) := by
  have nothingKnown : Known [] [] := by
    intro name
    simp [Repeats]
  obtain ⟨types, problems, reads, ran⟩ := exists_reads nothingKnown entries
  rw [List.length_nil, List.nil_append] at ran
  refine ⟨types, problems, reads, ?_⟩
  rw [listOfJson, ran]
  cases problems <;> rfl

theorem ListsAll.listed (lists : ListsAll entries types) :
    ∀ entry ∈ entries, ∃ name mediaTypes, Lists entry name mediaTypes := by
  have alone := lists.imp fun entry type ⟨name, listsEntry, _⟩ =>
    (⟨⟨name, type.mediaTypes, listsEntry⟩, trivial⟩ :
      (∃ name mediaTypes, Lists entry name mediaTypes) ∧ True)
  exact ((List.forall₂_and_left entries types).mp alone).1

theorem ListsAll.exists_entry (lists : ListsAll entries types) :
    ∀ type ∈ types, ∃ entry name, Lists entry name type.mediaTypes ∧ type.name = trim name := by
  have alone := lists.flip.imp fun type entry ⟨name, listsEntry, isName⟩ =>
    (⟨⟨entry, name, listsEntry, isName⟩, trivial⟩ :
      (∃ entry name, Lists entry name type.mediaTypes ∧ type.name = trim name) ∧ True)
  exact ((List.forall₂_and_left types entries).mp alone).1

theorem ListsAll.unique
    {others : List FileType} (lists : ListsAll entries types)
    (listsOthers : ListsAll entries others) :
    others = types := by
  refine List.right_unique_forall₂' ?_ listsOthers lists
  rintro entry ⟨_, mediaTypes⟩ ⟨_, otherTypes⟩ ⟨name, listsName, rfl⟩ ⟨other, listsOther, rfl⟩
  obtain rfl := listsName.name_unique listsOther
  have same := (lists_iff.mp listsName).2.symm.trans (lists_iff.mp listsOther).2
  obtain rfl := Option.some.inj same
  rfl

theorem listsAll_of_listOfJson (read : listOfJson (.array entries) = .ok types) :
    ListsAll entries types ∧ Distinct entries := by
  obtain ⟨found, problems, reads, ran⟩ := listOfJson_array entries
  rw [ran] at read
  by_cases noProblem : problems = []
  · rw [if_pos noProblem] at read
    obtain rfl := Except.ok.inj read
    exact ⟨reads.listsAll noProblem, (reads.distinct noProblem).1⟩
  · rw [if_neg noProblem] at read
    cases read

theorem exists_listOfJson
    (each : ∀ entry ∈ entries, ∃ name mediaTypes, Lists entry name mediaTypes)
    (distinct : Distinct entries) : ∃ types, listOfJson (.array entries) = .ok types := by
  obtain ⟨types, problems, reads, ran⟩ := listOfJson_array entries
  have noProblem : problems = [] := by
    refine reads.problems_eq_nil each distinct ?_
    rintro _ _ _ _ _ ⟨_, member, _⟩
    exact List.not_mem_nil member
  rw [if_pos noProblem] at ran
  exact ⟨types, ran⟩

/-- A list is read exactly if its entries list file types under names that do not count as equal,
and then these are read. -/
theorem listOfJson_eq_ok_iff :
    listOfJson (.array entries) = .ok types ↔ ListsAll entries types ∧ Distinct entries := by
  refine ⟨listsAll_of_listOfJson, fun ⟨lists, distinct⟩ => ?_⟩
  obtain ⟨found, read⟩ := exists_listOfJson lists.listed distinct
  rw [read, lists.unique (listsAll_of_listOfJson read).1]

theorem lists_toJson {type : FileType} (lists : Lists entry name type.mediaTypes)
    (isName : type.name = trim name) : Lists type.toJson type.name type.mediaTypes := by
  refine ⟨rfl, rfl, ?_, rfl, lists.nonempty, lists.each⟩
  rw [isName, trim_trim]
  exact lists.filled

/-- What was read can be written and read again. -/
theorem listOfJson_toJson (read : listOfJson (.array entries) = .ok types) :
    listOfJson (.array (types.map toJson)) = .ok types := by
  have exists_entry := (listOfJson_eq_ok_iff.mp read).1.exists_entry
  have distinguished := distinguished_of_listOfJson read
  rw [listOfJson_eq_ok_iff]
  constructor
  · refine List.forall₂_map_left_iff.mpr (List.forall₂_same.mpr fun type member => ?_)
    obtain ⟨entry, name, lists, isName⟩ := exists_entry type member
    exact ⟨type.name, lists_toJson lists isName, (distinguished.trimmed type member).symm⟩
  · refine List.pairwise_map.mpr (distinguished.distinct.imp_of_mem ?_)
    intro earlier later isEarlier isLater different name mediaTypes other otherTypes lists
      listsOther
    obtain rfl := Json.string.inj (Option.some.inj lists.named)
    obtain rfl := Json.string.inj (Option.some.inj listsOther.named)
    rw [key, key, distinguished.trimmed earlier isEarlier, distinguished.trimmed later isLater]
    exact different

/-- A file type is found under the names that count as equal to its own. -/
theorem Distinguished.find?_eq_some_iff
    (distinguished : Distinguished types) {type : FileType} (wanted : String) :
    find? types wanted = some type ↔
      type ∈ types ∧ lowerCase type.name = lowerCase (trim wanted) := by
  constructor
  · intro found
    have same := List.find?_some found
    exact ⟨List.mem_of_find?_eq_some found, of_decide_eq_true same⟩
  · rintro ⟨member, same⟩
    have sameKey : key type.name = key wanted := by
      rw [key, distinguished.trimmed type member, same, key]
    have foundByName := distinguished.find?_name member
    rw [find?, sameKey] at foundByName
    exact foundByName

theorem find?_eq_none_iff (types : List FileType) (wanted : String) :
    find? types wanted = none ↔
      ∀ type ∈ types, lowerCase type.name ≠ lowerCase (trim wanted) := by
  rw [find?, List.find?_eq_none]
  exact forall₂_congr fun type _ => not_congr decide_eq_true_iff

end FileType

/-! ## Messages -/

/-- The name that the line of a problem quotes. -/
def EntryProblem.quoted? : EntryProblem → Option String
  | .notAnObject _ => none
  | .noName _ => none
  | .noMediaTypes name => some name
  | .duplicate name => some name

theorem newline_not_mem_toString (index : Nat) : '\n' ∉ (toString index).toList := by
  intro member
  rw [Nat.toString_eq_repr, Nat.toList_repr] at member
  have isDigit := Nat.isDigit_of_mem_toDigits (by decide) (by decide) member
  revert isDigit
  decide

/-- Only a name that is quoted can break a line. -/
theorem EntryProblem.newline_not_mem_message
    {problem : EntryProblem} (plain : ∀ name ∈ problem.quoted?, '\n' ∉ name.toList) :
    '\n' ∉ problem.message.toList := by
  have between {start middle ending : String} (plainStart : '\n' ∉ start.toList)
      (plainMiddle : '\n' ∉ middle.toList) (plainEnding : '\n' ∉ ending.toList) :
      '\n' ∉ (start ++ middle ++ ending).toList := by
    rw [String.toList_append, String.toList_append, List.mem_append, List.mem_append]
    exact not_or.mpr ⟨not_or.mpr ⟨plainStart, plainMiddle⟩, plainEnding⟩
  cases problem with
  | notAnObject index =>
      exact between (by decide) (newline_not_mem_toString index) (by decide)
  | noName index =>
      exact between (by decide) (newline_not_mem_toString index) (by decide)
  | noMediaTypes name =>
      exact between (by decide) (plain name rfl) (by decide)
  | duplicate name =>
      exact between (by decide) (plain name rfl) (by decide)

namespace FileTypeError

/-- The line above the problems. -/
def header : String := "Invalid file type categories:"

theorem message_lists (problems : List EntryProblem) :
    (FileTypeError.entries problems).message =
      header ++ "\n  - " ++ "\n  - ".intercalate (problems.map EntryProblem.message) := by
  have start : "Invalid file type categories:\n  - " = header ++ "\n  - " := by
    decide
  exact congrArg (· ++ _) start

theorem toList_message {problems : List EntryProblem} (reported : problems ≠ []) :
    (FileTypeError.entries problems).message.toList =
      ['\n'].intercalate (header.toList ::
        problems.map fun problem => (listed problem.message).toList) := by
  rw [toList_of_listing (message_lists problems) (mt List.map_eq_nil_iff.mp reported), List.map_map]
  rfl

/-- Unless a name that is quoted breaks a line, every problem has one line. -/
theorem splitOn_message
    {problems : List EntryProblem} (reported : problems ≠ [])
    (plain : ∀ problem ∈ problems, ∀ name ∈ problem.quoted?, '\n' ∉ name.toList) :
    (FileTypeError.entries problems).message.toList.splitOn '\n' =
      header.toList :: problems.map fun problem => (listed problem.message).toList := by
  have plainMessages : ∀ message ∈ problems.map EntryProblem.message, '\n' ∉ message.toList := by
    intro message isMessage
    obtain ⟨problem, member, rfl⟩ := List.mem_map.mp isMessage
    exact EntryProblem.newline_not_mem_message (plain problem member)
  rw [splitOn_of_listing (message_lists problems) (mt List.map_eq_nil_iff.mp reported) (by decide)
    plainMessages, List.map_map]
  rfl

end FileTypeError

namespace FileType

/-- What can be said of the file types that were read from entries: each entry lists one, they can
be written and read again, no two of them have names that count as equal, and under any name the one
is found whose name counts as equal to it. -/
structure ReadFrom (entries : List Json) (types : List FileType) : Prop where
  lists : ListsAll entries types
  rereads : listOfJson (.array (types.map toJson)) = .ok types
  distinct :
    types.Pairwise fun earlier later => lowerCase earlier.name ≠ lowerCase later.name
  found :
    ∀ type wanted, find? types wanted = some type ↔
      type ∈ types ∧ lowerCase type.name = lowerCase (trim wanted)
  notFound :
    ∀ wanted, find? types wanted = none ↔
      ∀ type ∈ types, lowerCase type.name ≠ lowerCase (trim wanted)
  reachable : ∀ type ∈ types, find? types type.name = some type

/-- What can be said of an error about entries: it has a problem for each entry that can not be
used, in order, and a duplicate is one that could be used without the entries before it. Its message
starts a new line for each problem, and unless a name that is quoted breaks a line, that line is all
that a problem takes. -/
structure RefusedFor (entries : List Json) (error : FileTypeError) : Prop where
  reports :
    ∃ problems, error = .entries problems ∧ problems ≠ [] ∧ ReportsEach entries problems ∧
      error.message.toList =
        ['\n'].intercalate (FileTypeError.header.toList ::
          problems.map fun problem => (listed problem.message).toList) ∧
      ((∀ problem ∈ problems, ∀ name ∈ problem.quoted?, '\n' ∉ name.toList) →
        error.message.toList.splitOn '\n' =
          FileTypeError.header.toList ::
            problems.map fun problem => (listed problem.message).toList)
  duplicates :
    ∀ place problem, Explains entries place problem →
      ((∃ name, problem = .duplicate name) ↔
        ∃ entry, entries[place]? = some entry ∧
          ∃ name mediaTypes, Lists entry name mediaTypes ∧ Repeats (entries.take place) name)

theorem readFrom_of_listOfJson (read : listOfJson (.array entries) = .ok types) :
    ReadFrom entries types := by
  have distinguished := distinguished_of_listOfJson read
  exact
    { lists := (listsAll_of_listOfJson read).1
      rereads := listOfJson_toJson read
      distinct := distinguished.distinct
      found := fun _ wanted => distinguished.find?_eq_some_iff wanted
      notFound := find?_eq_none_iff types
      reachable := fun _ member => distinguished.find?_name member }

theorem Explains.isDuplicate_iff {place : Nat} (explains : Explains entries place problem) :
    (∃ name, problem = .duplicate name) ↔
      ∃ entry, entries[place]? = some entry ∧
        ∃ name mediaTypes, Lists entry name mediaTypes ∧ Repeats (entries.take place) name := by
  obtain ⟨entry, stands, offends⟩ := explains
  rw [offends.isDuplicate_iff]
  constructor
  · intro repeats
    exact ⟨entry, stands, repeats⟩
  · rintro ⟨other, standsToo, repeats⟩
    obtain rfl := Option.some.inj (stands.symm.trans standsToo)
    exact repeats

theorem refusedFor_of_listOfJson
    {error : FileTypeError} (refused : listOfJson (.array entries) = .error error) :
    RefusedFor entries error := by
  obtain ⟨types, problems, reads, ran⟩ := listOfJson_array entries
  rw [ran] at refused
  by_cases noProblem : problems = []
  · rw [if_pos noProblem] at refused
    cases refused
  · rw [if_neg noProblem] at refused
    obtain rfl := Except.error.inj refused
    exact
      { reports :=
          ⟨problems, rfl, noProblem, reads.reportsEach, FileTypeError.toList_message noProblem,
            FileTypeError.splitOn_message noProblem⟩
        duplicates := fun _ _ explains => explains.isDuplicate_iff }

/-- A JSON value is read exactly if it is an array of entries that list file types under names that
do not count as equal. What is read is what the entries list, and what is refused is reported entry
by entry. -/
theorem listOfJson_reads_or_refuses (json : Json) :
    ((∃ types, listOfJson json = .ok types) ↔
        ∃ entries, json = .array entries ∧
          (∀ entry ∈ entries, ∃ name mediaTypes, Lists entry name mediaTypes) ∧
          Distinct entries) ∧
      (∀ types, listOfJson json = .ok types →
        ∃ entries, json = .array entries ∧ ReadFrom entries types) ∧
      ∀ entries error, json = .array entries → listOfJson json = .error error →
        RefusedFor entries error := by
  have isArray {types : List FileType} (read : listOfJson json = .ok types) :
      ∃ entries, json = .array entries := by
    cases json with
    | array entries =>
        exact ⟨entries, rfl⟩
    | _ =>
        cases read
  refine ⟨⟨?_, ?_⟩, ?_, ?_⟩
  · rintro ⟨types, read⟩
    obtain ⟨entries, rfl⟩ := isArray read
    obtain ⟨lists, distinct⟩ := listsAll_of_listOfJson read
    exact ⟨entries, rfl, lists.listed, distinct⟩
  · rintro ⟨entries, rfl, each, distinct⟩
    exact exists_listOfJson each distinct
  · intro types read
    obtain ⟨entries, rfl⟩ := isArray read
    exact ⟨entries, rfl, readFrom_of_listOfJson read⟩
  · rintro entries error rfl refused
    exact refusedFor_of_listOfJson refused

/-- Two file types, with blanks around one name. -/
def twoEntries : List Json :=
  [.object [("name", .string " Image "), ("mediaTypes", .ofStrings ["image/png"])],
    .object [("name", .string "Video"), ("mediaTypes", .ofStrings ["video/mp4", "video/webm"])]]

/-- Four entries that can not be used, and one that can. -/
def fiveEntries : List Json :=
  [.string "Image",
    .object [("mediaTypes", .ofStrings ["image/png"])],
    .object [("name", .string "Audio"), ("mediaTypes", .ofStrings [])],
    .object [("name", .string "Video"), ("mediaTypes", .ofStrings ["video/mp4"])],
    .object [("name", .string "video"), ("mediaTypes", .ofStrings ["video/webm"])]]

theorem reads_twoEntries_refuses_fiveEntries :
    ReadFrom twoEntries
        [⟨"Image", ["image/png"]⟩, ⟨"Video", ["video/mp4", "video/webm"]⟩] ∧
      RefusedFor fiveEntries
        (.entries [.notAnObject 0, .noName 1, .noMediaTypes "Audio", .duplicate "video"]) := by
  obtain ⟨_, reads, _⟩ := listOfJson_reads_or_refuses (.array twoEntries)
  obtain ⟨_, _, refuses⟩ := listOfJson_reads_or_refuses (.array fiveEntries)
  constructor
  · obtain ⟨entries, isArray, readFrom⟩ :=
      reads [⟨"Image", ["image/png"]⟩, ⟨"Video", ["video/mp4", "video/webm"]⟩]
        (by decide +kernel)
    obtain rfl := Json.array.inj isArray
    exact readFrom
  · exact refuses fiveEntries _ rfl (by decide +kernel)

/-- An entry without media types whose name breaks a line. -/
def brokenName : Json :=
  .object [("name", .string "a\nb"), ("mediaTypes", .ofStrings [])]

/-- The one problem takes two lines below the header. -/
theorem message_breaks_at_brokenName :
    listOfJson (.array [brokenName]) = .error (.entries [.noMediaTypes "a\nb"]) ∧
      (FileTypeError.entries [.noMediaTypes "a\nb"]).message.toList.splitOn '\n' =
        ["Invalid file type categories:".toList, "  - category \"a".toList,
          "b\" must list at least one media type".toList] := by
  decide +kernel

end FileType

end EvidenceSearch
