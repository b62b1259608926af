import EvidenceSearch.Clock
import EvidenceSearch.Server.Message
import Std.Time.DateTime.Timestamp

/-!
# The program

The program reads its settings from the environment and the files that they name, starts a server
and answers the lines of standard input on standard output. The log goes to the standard error
stream, which nothing else uses.
-/

namespace EvidenceSearch

def knownVariables : List String :=
  ["CASE_DB_PATH", "CENTRAL_REPO_DB_PATH", "FILE_TYPES_PATH", "FREQUENCY_UNIQUE_MAX_COUNT",
    "FREQUENCY_RARE_MAX_COUNT", "ENRICHMENT_CONCURRENCY", "LOG_LEVEL"]

def readEnvironment : IO Environment :=
  knownVariables.filterMapM fun name => do
    return (← IO.getEnv name).map fun value => (name, heldText value)

/-- Add what stands at a path to the files: a file, a directory, or nothing. -/
def addFile (files : FileSystem) (path : String) : IO FileSystem := do
  try
    return files.place path (.bytes (← IO.FS.readBinFile (writtenText path)))
  catch
    | .noFileOrDirectory .. => return files
    | _ => return { files with directories := path :: files.directories }

/-- Read the files that the settings name. -/
def readFiles (environment : Environment) : IO FileSystem := do
  let names := ["CASE_DB_PATH", "CENTRAL_REPO_DB_PATH", "FILE_TYPES_PATH"]
  (names.filterMap environment.path?).foldlM addFile {}

/-- Write the log to the standard error stream, and empty it. -/
def writeLog (environment : Environment) (workspace : Workspace) : IO Workspace := do
  let now ← Std.Time.Timestamp.now
  let time := "[" ++ writeTime now.toMillisecondsSinceUnixEpoch.val.toNat ++ "]"
  for line in ServerProcess.logLines environment time workspace.log do
    IO.eprintln (writtenText line)
  return { workspace with log := [] }

partial def answerLines
    (environment : Environment)
    (context : ServerContext)
    (input output : IO.FS.Stream)
    (workspace : Workspace) :
    IO Unit := do
  let line ← input.getLine
  if !line.isEmpty then
    let (outcome, workspace) := (context.replyToLine (heldText line)).run.run workspace
    let workspace ← writeLog environment workspace
    if let .ok (some reply) := outcome then
      output.putStrLn (writtenText reply)
      output.flush
    answerLines environment context input output workspace

/-- Start a server and let it answer, or say why it can not start. -/
def runProgram : IO UInt32 := do
  let environment ← readEnvironment
  let files ← readFiles environment
  let (outcome, workspace) := (ServerProcess.start environment).run.run { files }
  let workspace ← writeLog environment workspace
  match outcome with
  | .ok context =>
      answerLines environment context (← IO.getStdin) (← IO.getStdout) workspace
      return 0
  | .error error =>
      let fatal := ⟨.error, "Fatal:", [.string error.message]⟩
      let _ ← writeLog environment { workspace with log := [fatal] }
      return 1

end EvidenceSearch

/-- Run the program. -/
def main : IO UInt32 :=
  EvidenceSearch.runProgram
