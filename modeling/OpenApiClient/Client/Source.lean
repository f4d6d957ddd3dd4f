import OpenApiClient.Client.Compile
import OpenApiClient.Expr.Source

/-!
# The source of a client

The generated module: imports, a constant for every declaration, the exported schemas, the
endpoints, the client itself and a function that makes one for a server.
-/

namespace OpenApiClient.Client

/-! ### Paths -/

/-- A path with parameters in braces written as names after colons. -/
def pathChars : (fuel : Nat) → List Char → List Char
  | 0, path => path
  | _ + 1, [] => []
  | fuel + 1, c :: rest =>
    let isBrace (c : Char) : Bool := c = '\x7b' || c = '\x7d'
    let name := rest.takeWhile (!isBrace ·)
    match c, rest.dropWhile (!isBrace ·) with
    | '\x7b', '\x7d' :: following =>
      if name.isEmpty then c :: pathChars fuel rest
      else ':' :: (name ++ pathChars fuel following)
    | _, _ => c :: pathChars fuel rest

def clientPath (path : String) : String := String.ofList (pathChars path.length path.toList)

/-! ### Endpoints -/

/-- The word of the client library for the place of a parameter, none for cookies. -/
def placeWord? : Place → Option String
  | .query => some "Query"
  | .path => some "Path"
  | .header => some "Header"
  | .body => some "Body"
  | .cookie => none

/-- A line of the form `key: value,`, unless the value is empty. -/
def textLine (indent key : String) (text : Option String) : List String :=
  match text with
  | none => []
  | some "" => []
  | some text => [indent ++ key ++ ": " ++ Json.writeString text ++ ","]

/-- The lines of a parameter, if the client library has a place for it. -/
def parameterLines (identifiers : List (String × String)) (endpoint : Endpoint)
    (parameter : Endpoint.Parameter) : Run (List String) := do
  match placeWord? parameter.place with
  | none =>
    Run.log .debug ("Parameter '" ++ parameter.name ++ "' of " ++ endpoint.method.capitals ++ " " ++
      endpoint.path ++ " is not representable (in: " ++ parameter.place.word ++ "); skipped")
    return []
  | some word =>
    let schema ← Run.of (parameter.expr.source identifiers)
    return ["      \x7b", "        name: " ++ Json.writeString parameter.name ++ ","] ++
      textLine "        " "description" parameter.description ++
      ["        type: " ++ Json.writeString word ++ ",", "        schema: " ++ schema ++ ",",
       "      \x7d,"]

/-- A status: digits as they are, anything else as a text. -/
def statusText (status : String) : String :=
  if Text.isDigitText status then status else Json.writeString status

def errorLines (identifiers : List (String × String)) (error : Endpoint.ErrorResponse) :
    Run (List String) := do
  let schema ← Run.of (error.expr.source identifiers)
  return ["      \x7b", "        status: " ++ statusText error.status ++ ","] ++
    textLine "        " "description" error.description ++
    ["        schema: " ++ schema ++ ",", "      \x7d,"]

/-- The lines of a list; none if the list is empty. -/
def listLines (key : String) (lines : List String) : List String :=
  if lines.isEmpty then [] else ["    " ++ key ++ ": ["] ++ lines ++ ["    ],"]

def endpointLines (identifiers : List (String × String)) (endpoint : Endpoint) :
    Run (List String) := do
  let parameters ← endpoint.parameters.mapM (parameterLines identifiers endpoint)
  let response ← Run.of (endpoint.response.source identifiers)
  let errors ← endpoint.errors.mapM (errorLines identifiers)
  return ["  \x7b", "    method: " ++ Json.writeString endpoint.method.word ++ ",",
      "    path: " ++ Json.writeString (clientPath endpoint.path) ++ ","] ++
    textLine "    " "alias" endpoint.aliasName ++
    textLine "    " "description" endpoint.description ++
    ["    requestFormat: " ++ Json.writeString endpoint.requestFormat.word ++ ","] ++
    listLines "parameters" parameters.flatten ++
    ["    response: " ++ response ++ ","] ++
    listLines "errors" errors.flatten ++
    ["  \x7d,"]

/-! ### The module -/

def declarationLine (identifiers : List (String × String)) (declared : Declared) :
    Run String := do
  let source ← Run.of (declared.expr.source identifiers)
  return "const " ++ declared.identifier ++ " = " ++ source ++ ";"

def importLines : List String :=
  ["import \x7b makeApi, Zodios, type ZodiosOptions \x7d from \"@zodios/core\";",
   "import \x7b z \x7d from \"zod\";"]

def exportLines (declarations : List Declared) : List String :=
  ["", "export const schemas = \x7b"] ++
    declarations.map (fun declared => "  " ++ declared.identifier ++ ",") ++ ["\x7d;"]

def clientLines (name : String) : List String :=
  ["", "export const " ++ name ++ " = new Zodios(endpoints);", "",
   "export function createApiClient(baseUrl: string, options?: ZodiosOptions) \x7b",
   "  return new Zodios(baseUrl, endpoints, options);", "\x7d"]

def source (compiled : Compiled) (config : Config) : Run String := do
  let identifiers := compiled.identifiers
  if identifiers.any (·.2 = config.clientName) then
    throw (.render (.clientNameTaken config.clientName))
  let declarations ← compiled.declarations.mapM (declarationLine identifiers)
  let endpoints ← compiled.endpoints.mapM (endpointLines identifiers)
  let lines := importLines ++
    (if declarations.isEmpty then [] else "" :: declarations) ++
    (if declarations.isEmpty || !config.exportSchemas then []
     else exportLines compiled.declarations) ++
    ["", "const endpoints = makeApi(["] ++ endpoints.flatten ++ ["]);"] ++
    clientLines config.clientName
  return String.join (lines.map (· ++ "\n"))

/-- What a document is compiled to, and the source of its client. -/
def generated (root : Entries) (config : Config) : Run (Compiled × String) := do
  let compiled ← (← Document.ofRoot root).compile config
  return (compiled, ← source compiled config)

end OpenApiClient.Client
