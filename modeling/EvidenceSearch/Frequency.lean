import EvidenceSearch.Number.Basic

/-!
# Frequency of a file

How often the content of a file was seen elsewhere is told by the number of pairs of a case and a
data source that hold it. Two thresholds sort that number into three buckets; a file without a
hash, or one that was not looked up, belongs to a fourth.
-/

namespace EvidenceSearch

/-- How often the content of a file was seen. -/
inductive Frequency where
  | unique
  | rare
  | common
  | unknown
  deriving DecidableEq

namespace Frequency

/-- All frequencies, in the order in which they are listed. -/
def all : List Frequency :=
  [.unique, .rare, .common, .unknown]

def name : Frequency → String
  | .unique => "UNIQUE"
  | .rare => "RARE"
  | .common => "COMMON"
  | .unknown => "UNKNOWN"

def ofName? (text : String) : Option Frequency :=
  all.find? fun frequency => frequency.name = text

end Frequency

/-- The largest counts that make a file unique, and rare. -/
structure Thresholds where
  uniqueMax : Number
  rareMax : Number
  deriving DecidableEq

namespace Thresholds

/-- A file seen nowhere else is unique, and one seen up to ten times is rare. -/
def standard : Thresholds :=
  ⟨.finite 0, .finite 10⟩

def bucket (thresholds : Thresholds) (count : Number) : Frequency :=
  if count.atMost thresholds.uniqueMax then .unique
  else if count.atMost thresholds.rareMax then .rare
  else .common

end Thresholds
end EvidenceSearch
