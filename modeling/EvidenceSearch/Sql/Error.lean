/-!
# Errors of a clause

Why a clause can not be read, or can not be asked of the tables.
-/

namespace EvidenceSearch.Sql

/-- Why a clause fails. -/
inductive ClauseError where
  | misplaced (token : String)
  | unreadable (characters : String)
  | tooDeep
  | noTable (name : String)
  | noColumn (name : String)
  | patternTooLong
  deriving DecidableEq

/-- How many levels a condition may have. -/
def depthLimit : Nat := 1000

def ClauseError.message : ClauseError → String
  | .misplaced token => "near \"" ++ token ++ "\": syntax error"
  | .unreadable characters => "unrecognized token: \"" ++ characters ++ "\""
  | .tooDeep => "Expression tree is too large (maximum depth " ++ toString depthLimit ++ ")"
  | .noTable name => "no such table: " ++ name
  | .noColumn name => "no such column: " ++ name
  | .patternTooLong => "LIKE or GLOB pattern too complex"

end EvidenceSearch.Sql
