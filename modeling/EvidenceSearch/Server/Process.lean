import EvidenceSearch.Server.Tools

/-!
# The server process

A process starts a server, answers requests one after the other, and ends when its input ends or a
signal stops it. A server that can not start ends the process with code one. Everything in the log
that the level of the environment lets through is written out, line by line.
-/

namespace EvidenceSearch

/-- A request of a client. -/
structure ServerRequest where
  method : String
  params : Option Json

/-- The reply to a request. -/
inductive ServerReply where
  | result (value : Json)
  | refused (code : Int)

/-- The code for a method that the server does not have. -/
def methodNotFound : Int := -32601

/-- The code for a request that can not be read. -/
def internalError : Int := -32603

def serverName : String := "case-file-search-mcp"

def serverVersion : String := "0.3.0"

/-- The version of the protocol that the server speaks if a client asks for one it does not
know. -/
def latestProtocol : String := "2025-06-18"

/-- The versions of the protocol that the server knows. -/
def knownProtocols : List String :=
  [latestProtocol, "2025-03-26", "2024-11-05", "2024-10-07"]

/-- The version of the protocol for a client that asks for one. -/
def agreedProtocol (params : Option Json) : String :=
  match (params.bind (Json.field? "protocolVersion")).bind Json.text? with
  | some version => if knownProtocols.contains version then version else latestProtocol
  | none => latestProtocol

/-- What the server tells a client that introduces itself. -/
def introduction (params : Option Json) : Json :=
  .object
    [("protocolVersion", .string (agreedProtocol params)),
      ("capabilities", .object [("tools", .object [])]),
      ("serverInfo",
        .object [("name", .string serverName), ("version", .string serverVersion)])]

namespace ServerContext

/-- Answer a call of a tool from the parameters of a request. -/
def replyToCall (context : ServerContext) (params : Option Json) : WorkspaceM ServerReply := do
  match (params.bind (Json.field? "name")).bind Json.text? with
  | none => return .refused internalError
  | some name => do
      let arguments := params.bind (Json.field? "arguments")
      if arguments.any fun value => !value.isObject then return .refused internalError
      let response ← context.call name arguments
      return .result response.toJson

/-- Answer a request. -/
def reply (context : ServerContext) (request : ServerRequest) : WorkspaceM ServerReply := do
  if request.method = "tools/list" then return .result toolList
  else if request.method = "tools/call" then context.replyToCall request.params
  else if request.method = "ping" then return .result (.object [])
  else if request.method = "initialize" then return .result (introduction request.params)
  else return .refused methodNotFound

/-- Answer requests in order. -/
def replyAll (context : ServerContext) : List ServerRequest → WorkspaceM (List ServerReply)
  | [] => return []
  | request :: requests => do
      let first ← context.reply request
      return first :: (← context.replyAll requests)

end ServerContext

/-- What a process leaves: its exit code and the replies it gave. -/
structure ProcessOutcome where
  code : Nat
  replies : List ServerReply

namespace ServerProcess

open Workspace

def start (environment : Environment) : WorkspaceM ServerContext := do
  let context ← ServerContext.create environment
  note .info (serverName ++ " v" ++ serverVersion ++ " running on stdio")
  return context

def stop (context : ServerContext) (signal : String) : WorkspaceM Unit := do
  note .info ("Received " ++ signal ++ ", shutting down...")
  context.close

/-- Answer all requests, and stop on a signal if one comes. -/
def serve
    (environment : Environment)
    (requests : List ServerRequest)
    (signal? : Option String) :
    WorkspaceM (List ServerReply) := do
  let context ← start environment
  let replies ← context.replyAll requests
  if let some signal := signal? then stop context signal
  return replies

/-- Run a process on some files. The log is what it adds to the workspace. -/
def run
    (environment : Environment)
    (requests : List ServerRequest)
    (signal? : Option String) :
    WorkspaceM ProcessOutcome := do
  try
    return ⟨0, ← serve environment requests signal?⟩
  catch error =>
    noteAll [⟨.error, "Fatal:", [.string error.message]⟩]
    return ⟨1, []⟩

/-- The lines that the log of a process writes, without empty ones. -/
def logLines (environment : Environment) (time : String) (log : List LogEntry) : List String :=
  let visible := log.filter (LogEntry.visibleAt environment.logLevel)
  (visible.flatMap fun entry => (repairText (entry.line time)).splitOn "\n").filter fun line =>
    line ≠ ""

end ServerProcess
end EvidenceSearch
