import EvidenceSearch.Failure
import EvidenceSearch.Log

/-!
# What a search does on its way

A search keeps a trace of what it reported and of what it asked its stores. The trace stays when
the search fails.
-/

namespace EvidenceSearch

/-- What a search reported and asked. -/
structure Trace where
  log : List LogEntry := []
  clauses : List String := []
  typeIds : List Number := []
  lookups : List String := []
  peak : Nat := 0

/-- A step that keeps a trace and may fail. -/
abbrev Traced (Error : Type) := ExceptT Error (StateM Trace)

namespace Trace

variable {Error : Type}

/-- Add an entry to the log. -/
def note (level : LogLevel) (message : String) : Traced Error Unit :=
  modify fun trace => { trace with log := trace.log ++ [⟨level, message, []⟩] }

def askedCase (clause : String) : Traced Error Unit :=
  modify fun trace => { trace with clauses := trace.clauses ++ [clause] }

def askedType (id : Number) : Traced Error Unit :=
  modify fun trace => { trace with typeIds := trace.typeIds ++ [id] }

/-- Remember hashes that were looked up, and how many lookups were under way at once. -/
def lookedUp (hashes : List String) (together : Nat) : Traced Error Unit :=
  modify fun trace =>
    { trace with lookups := trace.lookups ++ hashes, peak := max trace.peak together }

end Trace
end EvidenceSearch
