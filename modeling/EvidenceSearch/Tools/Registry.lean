import EvidenceSearch.Json.Basic

/-!
# The registry of tools

Tools are kept in the order in which they were registered, and no two of them have one name.
Registering a list stops at the first tool whose name is taken; the tools before it stay.
-/

namespace EvidenceSearch

/-- A tool with what handles its calls. -/
structure Tool (Handler : Type) where
  name : String
  description : String
  inputSchema : Json
  handler : Handler

/-- Why the registry refuses. -/
inductive RegistryError where
  | duplicate (name : String)
  | unknown (name : String)
  deriving DecidableEq

/-- The message of a refusal. -/
def RegistryError.message : RegistryError → String
  | .duplicate name => "Duplicate tool name: " ++ name
  | .unknown name => "Unknown tool: " ++ name

/-- The registered tools, in the order in which they were registered. -/
structure Registry (Handler : Type) where
  tools : List (Tool Handler)

namespace Registry

variable {Handler : Type}

/-- No tools. -/
def empty : Registry Handler :=
  ⟨[]⟩

def find? (registry : Registry Handler) (name : String) : Option (Tool Handler) :=
  registry.tools.find? fun tool => tool.name = name

/-- Register tools, up to the first whose name is taken. -/
def register (registry : Registry Handler) :
    List (Tool Handler) → Registry Handler × Except RegistryError Unit
  | [] => (registry, .ok ())
  | tool :: tools =>
      if (registry.find? tool.name).isSome then (registry, .error (.duplicate tool.name))
      else register ⟨registry.tools ++ [tool]⟩ tools

def require (registry : Registry Handler) (name : String) : Except RegistryError (Tool Handler) :=
  match registry.find? name with
  | some tool => .ok tool
  | none => .error (.unknown name)

/-- The tools as they are listed. -/
def toJson (registry : Registry Handler) : Json :=
  .array <|
    registry.tools.map fun tool =>
      .object [("name", .string tool.name), ("description", .string tool.description),
        ("inputSchema", tool.inputSchema)]

end Registry
end EvidenceSearch
