import EvidenceSearch.Json.Basic
import EvidenceSearch.Text.Blank
import EvidenceSearch.Text.CaseMapping

/-!
# Log entries

The program reports what it does as entries of four levels. A reader who sets a level sees the
entries of that level and above.
-/

namespace EvidenceSearch

/-- How important a log entry is. -/
inductive LogLevel where
  | debug
  | info
  | warn
  | error
  deriving DecidableEq

namespace LogLevel

/-- All levels, the least important first. -/
def all : List LogLevel :=
  [.debug, .info, .warn, .error]

def name : LogLevel → String
  | .debug => "debug"
  | .info => "info"
  | .warn => "warn"
  | .error => "error"

/-- The place of a level in the order of importance. -/
def rank : LogLevel → Nat
  | .debug => 0
  | .info => 1
  | .warn => 2
  | .error => 3

def ofName? (text : String) : Option LogLevel :=
  all.find? fun level => level.name = text

/-- The level that a setting names, whatever its case and the blanks around it; any other text,
and none at all, means `info`. -/
def ofSetting (setting : Option String) : LogLevel :=
  (ofName? (lowerCase (trim (setting.getD "")))).getD .info

end LogLevel

/-- A message with further values that are shown after it. -/
structure LogEntry where
  level : LogLevel
  message : String
  details : List Json := []

namespace LogEntry

/-- Whether a reader who set the given level sees the entry. -/
def visibleAt (threshold : LogLevel) (entry : LogEntry) : Bool :=
  threshold.rank ≤ entry.level.rank

/-- The level of the entry between brackets. -/
def label (entry : LogEntry) : String :=
  "[" ++ upperCase entry.level.name ++ "]"

def line (time : String) (entry : LogEntry) : String :=
  " ".intercalate (time :: entry.label :: entry.message :: entry.details.map Json.plainText)

end LogEntry
end EvidenceSearch
