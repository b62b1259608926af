/-!
# Points in time

A point in time is a number of milliseconds since the start of the year 1970, in universal time.
It is written with the date and the time of day, down to the millisecond.
-/

namespace EvidenceSearch

/-- Year, month and day of the day with the given number, counted from the first of January 1970.
Years are counted from the first of March, so that the day that is sometimes missing comes last. -/
def dateOfDay (day : Nat) : Nat × Nat × Nat :=
  let fromMarch := day + 719468
  let era := fromMarch / 146097
  let dayOfEra := fromMarch % 146097
  let yearOfEra := (dayOfEra - dayOfEra / 1460 + dayOfEra / 36524 - dayOfEra / 146096) / 365
  let dayOfYear := dayOfEra - (365 * yearOfEra + yearOfEra / 4 - yearOfEra / 100)
  let monthFromMarch := (5 * dayOfYear + 2) / 153
  let dayOfMonth := dayOfYear - (153 * monthFromMarch + 2) / 5 + 1
  let month := if monthFromMarch < 10 then monthFromMarch + 3 else monthFromMarch - 9
  let year := yearOfEra + era * 400
  (if month ≤ 2 then year + 1 else year, month, dayOfMonth)

/-- A number with at least the given count of digits. -/
def padded (count value : Nat) : String :=
  let digits := toString value
  String.ofList (List.replicate (count - digits.length) '0') ++ digits

def writeTime (milliseconds : Nat) : String :=
  let seconds := milliseconds / 1000
  let (year, month, day) := dateOfDay (seconds / 86400)
  let ofDay := seconds % 86400
  padded 4 year ++ "-" ++ padded 2 month ++ "-" ++ padded 2 day ++ "T" ++
    padded 2 (ofDay / 3600) ++ ":" ++ padded 2 (ofDay / 60 % 60) ++ ":" ++ padded 2 (ofDay % 60) ++
    "." ++ padded 3 (milliseconds % 1000) ++ "Z"

end EvidenceSearch
