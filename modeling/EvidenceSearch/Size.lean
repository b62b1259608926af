import EvidenceSearch.Json.Basic
import EvidenceSearch.Text.Blank
import EvidenceSearch.Text.CaseMapping

/-!
# Sizes of files

A size range lies above a lower bound, which does not belong to it, and goes up to an upper bound,
which does; without an upper bound it is open and its lower bound belongs to it. Six named ranges
are offered, the largest first.
-/

namespace EvidenceSearch

/-- The bounds of a size range as they are given, before they are checked. -/
structure SizeBounds where
  low : Number
  high : Number
  deriving DecidableEq

/-- A size range: the upper bound lies above the lower one. -/
structure SizeRange where
  low : Nat
  high : Option Nat
  ordered : ∀ bound ∈ high, low < bound
  deriving DecidableEq

/-- What is wrong with the bounds of a size range. -/
inductive SizeProblem where
  | lowerBound (low : Number)
  | upperBound (low high : Number)
  deriving DecidableEq

def SizeProblem.message : SizeProblem → String
  | .lowerBound low => "minBytes must be a non-negative integer, got " ++ low.write
  | .upperBound low high =>
      "maxBytes must be an integer greater than minBytes (" ++ low.write ++ "), got " ++ high.write

namespace SizeBounds

/-- The upper bound that stands for none. -/
def noMaximum : Number :=
  .finite (-1)

/-- Whether the bounds mean an open range. -/
def isOpen (bounds : SizeBounds) : Bool :=
  bounds.high.equals noMaximum

/-- The natural number that a bound is, if all natural numbers around it are told apart. -/
def natural? (bound : Number) : Option Nat :=
  match bound.safeValue? with
  | some (.ofNat value) => some value
  | _ => none

/-- The size range that the bounds mean, or what is wrong with them. -/
def check (bounds : SizeBounds) : Except SizeProblem SizeRange :=
  match natural? bounds.low with
  | none => .error (.lowerBound bounds.low)
  | some low =>
      if bounds.isOpen then .ok ⟨low, none, by simp⟩
      else
        match natural? bounds.high with
        | none => .error (.upperBound bounds.low bounds.high)
        | some high =>
            if above : low < high then .ok ⟨low, some high, by simpa using above⟩
            else .error (.upperBound bounds.low bounds.high)

/-- The problem with the bounds, if there is one. -/
def problem? (bounds : SizeBounds) : Option SizeProblem :=
  match bounds.check with
  | .ok _ => none
  | .error problem => some problem

end SizeBounds

namespace SizeRange

def bounds (range : SizeRange) : SizeBounds :=
  ⟨.finite (range.low : Int),
    match range.high with
    | some high => .finite (high : Int)
    | none => SizeBounds.noMaximum⟩

def toJson (range : SizeRange) : Json :=
  .object [("minBytes", .number range.bounds.low), ("maxBytes", .number range.bounds.high)]

end SizeRange

/-- A size range with a name and a label. -/
structure SizePreset where
  name : String
  label : String
  range : SizeRange

namespace SizePreset

/-- How many bytes a megabyte holds. -/
def megabyte : Nat := 1024 * 1024

/-- How many bytes a gigabyte holds. -/
def gigabyte : Nat := 1024 * megabyte

/-- The named size ranges, the largest first. -/
def all : List SizePreset :=
  [⟨"XXLARGE", "10GB+", ⟨10 * gigabyte, none, by simp⟩⟩,
    ⟨"XLARGE", "5-10GB", ⟨5 * gigabyte, some (10 * gigabyte), by decide⟩⟩,
    ⟨"LARGE", "1-5GB", ⟨gigabyte, some (5 * gigabyte), by decide⟩⟩,
    ⟨"MEDIUM", "100MB-1GB", ⟨100 * megabyte, some gigabyte, by decide⟩⟩,
    ⟨"SMALL", "500K-100MB", ⟨500000, some (100 * megabyte), by decide⟩⟩,
    ⟨"XSMALL", "0-500K", ⟨0, some 500000, by decide⟩⟩]

/-- The named size range of that name, whatever its case and the blanks around it. -/
def find? (name : String) : Option SizePreset :=
  all.find? fun preset => preset.name = upperCase (trim name)

def toJson (preset : SizePreset) : Json :=
  .object [("name", .string preset.name), ("label", .string preset.label),
    ("minBytes", .number preset.range.bounds.low), ("maxBytes", .number preset.range.bounds.high)]

end SizePreset
end EvidenceSearch
