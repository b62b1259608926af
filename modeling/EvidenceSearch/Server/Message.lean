import EvidenceSearch.Json.Reader
import EvidenceSearch.Json.Writer
import EvidenceSearch.Server.Process

/-!
# Messages of the line protocol

Every line holds one JSON object. A request carries an id, and the reply to it carries the same
one; a message without an id gets no reply, and neither does a line that holds no request.
-/

namespace EvidenceSearch

def refusalText (code : Int) : String :=
  if code = methodNotFound then "Method not found" else "Internal error"

def replyMessage (id : Json) : ServerReply → Json
  | .result value =>
      .object [("result", value), ("jsonrpc", .string "2.0"), ("id", id)]
  | .refused code =>
      .object [("jsonrpc", .string "2.0"), ("id", id),
        ("error",
          .object [("code", .ofInt code), ("message", .string (refusalText code))])]

namespace ServerContext

/-- Reply to a message, if it is a request. -/
def replyToMessage (context : ServerContext) (message : Json) : WorkspaceM (Option Json) := do
  match message.field? "id", (message.field? "method").bind Json.text? with
  | some id, some method =>
      let reply ← context.reply ⟨method, message.field? "params"⟩
      return some (replyMessage id reply)
  | _, _ => return none

/-- Reply to a line, if it holds a request. -/
def replyToLine (context : ServerContext) (line : String) : WorkspaceM (Option String) := do
  match Json.read line.toList with
  | .error _ => return none
  | .ok message => return (← context.replyToMessage message).map Json.compact

end ServerContext
end EvidenceSearch
