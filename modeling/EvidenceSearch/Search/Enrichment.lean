import EvidenceSearch.Record
import EvidenceSearch.Search.Trace

/-!
# Finding frequencies

Every file with a hash is looked up in the central repository, and the count found there decides
its frequency. Lookups start in the order of the files and at most a given number of them are
under way at once; one failed lookup fails them all. Files without a hash keep their frequency.
-/

namespace EvidenceSearch

/-- What a search asks of a central repository. A failure is described by its text. -/
structure Repository where
  typeById : Number → Except String CorrelationType
  count : CorrelationType → String → Except String Number

/-- How frequencies are found. -/
structure SearchOptions where
  thresholds : Thresholds
  concurrency : Number
  deriving DecidableEq

/-- The usual thresholds, and four lookups at once. -/
def SearchOptions.standard : SearchOptions :=
  ⟨.standard, .finite 4⟩

def CorrelationType.filesId : Number :=
  .finite 0

/-- How many lookups may be under way at once. -/
inductive Pool where
  | sized (size : Nat)
  | unbounded
  deriving DecidableEq

namespace Pool

/-- The pool for a wanted number of lookups: its whole part, but at least one. There is none if
the wanted number is not a number. -/
def ofConcurrency? : Number → Option Pool
  | .nan => none
  | .infinite true => some (.sized 1)
  | .infinite false => some .unbounded
  | .finite value => some (.sized (max 1 value.floor.toNat))

/-- How many of some lookups are under way at once when most are. -/
def together (pool : Pool) (lookups : Nat) : Nat :=
  match pool with
  | .sized size => min size lookups
  | .unbounded => lookups

def message : String :=
  "Expected `concurrency` to be a number from 1 and up"

end Pool

/-- Why frequencies can not be found. -/
inductive StageError where
  | failed (failure : Failure)
  | noPool
  deriving DecidableEq

/-- The failure of a search whose frequencies can not be found. -/
def StageError.toFailure : StageError → Failure
  | .failed failure => failure
  | .noPool => .stageFailed Pool.message

namespace ResultFile

def lookUp
    (repository : Repository)
    (thresholds : Thresholds)
    (type : CorrelationType)
    (result : ResultFile) :
    Except String ResultFile :=
  match result.file.hash? with
  | none => .ok result
  | some hash => do
      return { result with frequency := thresholds.bucket (← repository.count type hash) }

/-- Look all files up; the first failure in their order is the one that counts. -/
def lookUpAll
    (repository : Repository)
    (thresholds : Thresholds)
    (type : CorrelationType) :
    List ResultFile → Except String (List ResultFile)
  | [] => .ok []
  | result :: results => do
      let found ← result.lookUp repository thresholds type
      return found :: (← lookUpAll repository thresholds type results)

def findFrequencies
    (repository? : Option Repository)
    (options : SearchOptions)
    (results : List ResultFile) :
    Traced StageError (List ResultFile) := do
  let some repository := repository? | throw (.failed .frequencyWithoutRepository)
  if results.isEmpty then throw (.failed .frequencyOfNothing)
  let some pool := Pool.ofConcurrency? options.concurrency | throw .noPool
  Trace.askedType CorrelationType.filesId
  match repository.typeById CorrelationType.filesId with
  | .error cause => throw (.failed (.repositoryFailed cause))
  | .ok type =>
      let hashes := results.filterMap fun result => result.file.hash?
      Trace.lookedUp hashes (pool.together hashes.length)
      match lookUpAll repository options.thresholds type results with
      | .error cause => throw (.failed (.repositoryFailed cause))
      | .ok found => return found

def keepFrequencies (wanted : List Frequency) (results : List ResultFile) : List ResultFile :=
  results.filter fun result => wanted.contains result.frequency

/-- Find the frequencies of some files; the files that have a wanted one come second. -/
def sortOut
    (repository? : Option Repository)
    (options : SearchOptions)
    (wanted : List Frequency)
    (results : List ResultFile) :
    Traced StageError (List ResultFile × List ResultFile) := do
  let found ← findFrequencies repository? options results
  let kept := keepFrequencies wanted found
  Trace.note .debug
    ("Frequency filter kept " ++ toString kept.length ++ " of " ++ toString found.length ++
      " files")
  return (found, kept)

end ResultFile
end EvidenceSearch
