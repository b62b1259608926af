import EvidenceSearch.Server.Context
import EvidenceSearch.Tools.Registry

/-!
# The tools of the server

The server offers two tools, described by schemas of their arguments. A call always gets a
response: what goes wrong is told in it.
-/

namespace EvidenceSearch

/-- The tools that a server can run. -/
inductive ServerTool where
  | searchFiles
  | listSearchOptions
  deriving DecidableEq

/-! ## Schemas -/

def typeSchema (type : String) : Json :=
  .object [("type", .string type)]

def arraySchema (items : Json) (description : String) : Json :=
  .object [("type", .string "array"), ("items", items), ("description", .string description)]

/-- The schema of an object; the required fields come last. -/
def objectSchema (properties : List (String × Json)) (required : List String) : Json :=
  .object [("type", .string "object"), ("properties", .object properties),
    ("required", .ofStrings required)]

def searchFilesSchema : Json :=
  .object
    [("type", .string "object"),
      ("properties",
        .object
          [("size_presets",
              arraySchema (typeSchema "string")
                ("Size buckets: \"XXLARGE\" (10GB+), \"XLARGE\", \"LARGE\", \"MEDIUM\", " ++
                  "\"SMALL\", \"XSMALL\" (0-500K).")),
            ("size_ranges",
              arraySchema
                (objectSchema
                  [("min_bytes", typeSchema "number"), ("max_bytes", typeSchema "number")]
                  ["min_bytes"])
                ("Explicit byte ranges (min exclusive, max inclusive). " ++
                  "Omit max_bytes for no upper bound.")),
            ("parent_paths",
              arraySchema
                (objectSchema
                  [("path", typeSchema "string"), ("exact", typeSchema "boolean")]
                  ["path"])
                ("Parent folder paths. exact=true matches the whole path, " ++
                  "otherwise a substring match.")),
            ("data_source_ids",
              arraySchema (typeSchema "number") "Data source ids (see list_search_options)."),
            ("keyword_lists",
              arraySchema (typeSchema "string")
                "Keyword list names; files must have a hit from one of them."),
            ("file_types",
              arraySchema (typeSchema "string")
                "File type categories, e.g. [\"Image\", \"Video\"]."),
            ("frequencies",
              arraySchema (typeSchema "string")
                ("Central repository frequency: \"UNIQUE\", \"RARE\", \"COMMON\", " ++
                  "or \"UNKNOWN\" (no hash).")),
            ("limit",
              .object
                [("type", .string "number"),
                  ("description",
                    .string
                      ("Max files to return (default 100, max 1000). " ++
                        "total always counts all matches."))])])]

def searchFilesTool : Tool ServerTool where
  name := "search_files"
  description :=
    "Find files in the open case matching ALL given criteria. Within one criterion, values are " ++
    "alternatives (OR). Size, path, data source, keyword list and file type run as one case " ++
    "database query; frequency is then checked per file against the central repository. At " ++
    "least one non-frequency criterion is required."
  inputSchema := searchFilesSchema
  handler := .searchFiles

def listSearchOptionsTool : Tool ServerTool where
  name := "list_search_options"
  description :=
    "List the values search_files accepts for the open case: size presets, data sources, " ++
    "keyword lists, file type categories and frequencies."
  inputSchema := .object [("type", .string "object"), ("properties", .object [])]
  handler := .listSearchOptions

def serverRegistry : Registry ServerTool :=
  (Registry.empty.register [searchFilesTool, listSearchOptionsTool]).1

/-! ## Calls -/

namespace ServerContext

/-- Search with the arguments of a call. The arguments are read before the case is asked what it
can be searched for. -/
def searchFilesAnswer (context : ServerContext) (arguments : Option Json) : WorkspaceM Json := do
  match SearchArguments.ofJson arguments with
  | .error failure => return failureJson failure
  | .ok arguments => do
      let catalog ← context.catalog
      context.search catalog arguments

/-- List what the open case can be searched for. -/
def optionsAnswer (context : ServerContext) : WorkspaceM Json := do
  return EvidenceSearch.optionsAnswer (← context.catalog) context.hasRepository

def runTool (context : ServerContext) (arguments : Option Json) : ServerTool → WorkspaceM Json
  | .searchFiles => context.searchFilesAnswer arguments
  | .listSearchOptions => context.optionsAnswer

/-- Answer a call of a tool, whatever goes wrong. -/
def call (context : ServerContext) (name : String) (arguments : Option Json) :
    WorkspaceM ToolResponse := do
  match serverRegistry.require name with
  | .error error => return .ofError error.message
  | .ok tool =>
      try
        return .ofAnswer (← context.runTool arguments tool.handler)
      catch error =>
        return .ofError error.message

def toolList : Json :=
  .object [("tools", serverRegistry.toJson)]

end ServerContext
end EvidenceSearch
