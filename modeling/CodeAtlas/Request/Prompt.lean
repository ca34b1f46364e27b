import CodeAtlas.Json.Basic

/-!
# Prompts

The fixed texts of requests, and the schemas of the two answers that are given in a form of their
own.
-/
namespace CodeAtlas.Request

/-- What every conversation begins with: the role and the form of an answer. -/
def systemPrompt : String :=
  "\n".intercalate
    ["You are a documentation assistant that analyzes code and answers with structured JSON only.",
      "Never add text before or after the JSON object.",
      "",
      "Expected response format:",
      "\x7b",
      "  \"analysis\": \x7b",
      "    \"functions\": [\x7b\"name\": ..., \"description\": ..., \"parameters\": [...], " ++
        "\"returnType\": ...\x7d],",
      "    \"classes\": [\x7b\"name\": ..., \"description\": ..., \"methods\": [...], " ++
        "\"properties\": [...]\x7d],",
      "    \"modules\": [\x7b\"name\": ..., \"description\": ...\x7d]",
      "  \x7d",
      "\x7d",
      "",
      "Guidelines:",
      "1. Keep code examples whole; never cut a block in the middle.",
      "2. Usage examples must be self-contained.",
      "3. Quote code from the context where it helps.",
      "4. Describe function calls, inheritance, composition and data flow between components."]

/-- The question for an overview. -/
def overviewPrompt : String :=
  "Give a concise system overview of the whole codebase: architecture, main components, " ++
    "data flow and technical stack, with concrete details from the code."

/-- The question about the entities of a chunk. -/
def componentPrompt : String :=
  "Analyze each function and class in the provided code: explain what it does, its " ++
    "parameters and return type, how it is used, and how it relates to other components."

/-- The question for the graph of dependencies. -/
def dependencyPrompt : String :=
  "Build the dependency graph of the codebase: every relationship between functions, " ++
    "classes and modules, including calls, inheritance, composition and data flow."

/-- The schema of a text. -/
def textSchema : Json := .object [("type", .string "string")]

/-- The schema of a list. -/
def listSchema (items : Json) : Json := .object [("type", .string "array"), ("items", items)]

/-- The schema of an object. -/
def objectSchema (properties : List (String × Json)) : Json :=
  .object [("type", .string "object"), ("properties", .object properties)]

/-- The schema of an overview. -/
def overviewFormat : Json :=
  objectSchema
    [("description", textSchema), ("architecture", textSchema),
      ("mainComponents", listSchema textSchema), ("dataFlow", textSchema),
      ("technicalStack", listSchema textSchema)]

/-- The kinds of nodes of a graph of dependencies. -/
def nodeTypes : List String := ["function", "class", "component", "module"]

/-- The schema of a graph of dependencies. -/
def dependencyFormat : Json :=
  objectSchema
    [("nodes", listSchema (objectSchema
        [("id", textSchema),
          ("type", .object [("type", .string "string"),
            ("enum", .array (nodeTypes.map Json.string))]),
          ("description", textSchema)])),
      ("edges", listSchema (objectSchema
        [("from", textSchema), ("to", textSchema), ("type", textSchema),
          ("description", textSchema)]))]

end CodeAtlas.Request
