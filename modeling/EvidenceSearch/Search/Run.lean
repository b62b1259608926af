import EvidenceSearch.Filter.Clause
import EvidenceSearch.Filter.Description
import EvidenceSearch.Search.Enrichment

/-!
# Running a search

All filters that the case store can answer become one clause. The files that it selects then pass
through the filters by frequency, in the order of the filters, until nothing is left. A search
either finds files or fails; it never finds a part of them.
-/

namespace EvidenceSearch

/-- The stores of a search. The case store finds the files that a clause selects. -/
structure SearchStores where
  caseStore : Option (String → Except String (List FileRecord))
  repository : Option Repository

namespace Search

def filterList (filters : List Filter) : String :=
  "Running filters:\n" ++
    String.join (filters.map fun filter => "  " ++ filter.describe ++ "\n")

/-- Let one filter look at the files that are left; every file that it looked at comes first, the
files that pass come second. -/
def applyFilter
    (repository? : Option Repository)
    (options : SearchOptions)
    (filter : Filter)
    (results : List ResultFile) :
    Traced StageError (List ResultFile × List ResultFile) :=
  match filter with
  | .frequency wanted => ResultFile.sortOut repository? options wanted.toList results
  | _ => return (results, results)

/-- Let the filters by frequency look at the files that are left, one after the other. -/
def applyFilters
    (repository? : Option Repository)
    (options : SearchOptions) :
    List Filter → List ResultFile → Traced Failure (List ResultFile)
  | [], results => return results
  | filter :: filters, results => do
      if filter.isFrequency then
        let (_, kept) ←
          ExceptT.adapt StageError.toFailure (applyFilter repository? options filter results)
        if kept.isEmpty then return kept
        else applyFilters repository? options filters kept
      else applyFilters repository? options filters results

def run (filters : List Filter) (stores : SearchStores) (options : SearchOptions) :
    Traced Failure (List ResultFile) := do
  let some find := stores.caseStore | throw .noCase
  match Filter.combinedClause filters with
  | .error failure => throw failure
  | .ok clause =>
      if stores.repository.isNone && Filter.needRepository filters then throw .noRepository
      Trace.note .info (filterList filters)
      Trace.note .info ("Running SQL query: " ++ clause)
      Trace.askedCase clause
      match find clause with
      | .error cause => throw (.storeFailed cause)
      | .ok [] => return []
      | .ok candidates =>
          applyFilters stores.repository options filters (candidates.map ResultFile.ofRecord)

end Search
end EvidenceSearch
