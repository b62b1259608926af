/-!
# Paths

A path names a file from the root of the file system. Resolving drops empty steps and single dots,
and two dots take back the step before them.
-/

namespace EvidenceSearch

namespace Path

/-- The steps of a path between its slashes. -/
def steps (path : String) : List String :=
  (path.toList.splitOn '/').map String.ofList

/-- Take one step; the last step comes first. -/
def walk (taken : List String) (step : String) : List String :=
  if step = "" || step = "." then taken
  else if step = ".." then taken.drop 1
  else step :: taken

/-- The path from the root that a path means, read from the root. -/
def resolve (path : String) : String :=
  "/" ++ "/".intercalate ((steps path).foldl walk []).reverse

/-- The path of what a path names inside a directory. A slash at its end, which asks for a
directory, stays. -/
def inside (directory path : String) : String :=
  let resolved := resolve (directory ++ "/" ++ path)
  if path.endsWith "/" && resolved ≠ "/" then resolved ++ "/" else resolved

/-- Whether a path asks for a directory by a slash at its end. -/
def asksDirectory (path : String) : Bool :=
  path.endsWith "/"

/-- The path without slashes at its end, or the root. -/
def withoutSlash (path : String) : String :=
  "/" ++ "/".intercalate ((steps path).filter (· ≠ ""))

/-- The path of the directory in which a path stands. -/
def parent (path : String) : String :=
  "/" ++ "/".intercalate ((steps path).filter (· ≠ "")).dropLast

/-- Whether the first path names something below the second. -/
def isBelow (path directory : String) : Bool :=
  path.startsWith (directory ++ "/")

end Path
end EvidenceSearch
