import OpenApiClient.Conversion.Basic
import OpenApiClient.Media
import OpenApiClient.Operation.Basic

/-!
# From operations to endpoints

The schemas of an operation are converted after the named ones: a reference becomes the name of a
declared schema, and all else is written out in place.
-/

namespace OpenApiClient.Endpoint

/-! ### The main response and the errors -/

/-- What a status stands for, in the order in which responses are looked at. -/
inductive Status where
  | code (value : Nat)
  | range (hundreds : Nat)
  | default
  deriving DecidableEq, Repr

namespace Status

/-- The range that a text denotes: a digit from one to five and two letters x, perhaps with a
newline at the end. -/
def range? (text : String) : Option Nat :=
  let isX (c : Char) : Bool := c = 'x' || c = 'X'
  let ofParts (digit a b : Char) : Option Nat :=
    if '1' ≤ digit && digit ≤ '5' && isX a && isX b then some (digit.toNat - '0'.toNat) else none
  match text.toList with
  | [digit, a, b] => ofParts digit a b
  | [digit, a, b, '\n'] => ofParts digit a b
  | _ => none

/-- What a status stands for, if anything. Digits that denote no number are a fault. -/
def read (text : String) : Except Failure (Option Status) :=
  if Text.isDigitText text then
    match Text.natValue? text.toList with
    | some value => .ok (some (.code value))
    | none => .error (.unexpected .noSuchValue)
  else
    match range? text with
    | some hundreds => .ok (some (.range hundreds))
    | none => .ok (if text = "default" then some .default else none)

/-- The order of statuses: codes, ranges, the default. -/
def key : Status → Nat × Nat
  | .code value => (0, value)
  | .range hundreds => (1, hundreds * 100)
  | .default => (2, 0)

def isAfter (a b : Status) : Bool :=
  b.key.1 < a.key.1 || (b.key.1 = a.key.1 && b.key.2 < a.key.2)

end Status

/-- A response with what its status stands for. -/
abbrev Ranked := Status × Response

def isSuccess (response : Ranked) : Bool :=
  match response.1 with
  | .code value => 200 ≤ value && value < 300
  | .range _ => response.2.status.toUpper = "2XX"
  | .default => false

/-- Puts a response before the first one with a greater status. -/
def insertRanked (response : Ranked) : List Ranked → List Ranked
  | [] => [response]
  | other :: rest =>
    if other.1.isAfter response.1 then response :: other :: rest
    else other :: insertRanked response rest

/-- The responses whose status means something, in order. -/
def rankedResponses (responses : List Response) : Except Failure (List Ranked) := do
  let statuses ← responses.mapM fun response => Status.read response.status
  let ranked := (statuses.zip responses).filterMap fun (status, response) =>
    status.map (·, response)
  return ranked.foldl (fun sorted response => insertRanked response sorted) []

/-- The main response and the errors of an operation. -/
def selectResponses (responses : List Response) :
    Except Failure (Option Response × List Response) := do
  let ordered ← rankedResponses responses
  let failed := ordered.filter (!isSuccess ·)
  match ordered.find? isSuccess with
  | some main => return (some main.2, failed.map (·.2))
  | none =>
    -- the default stands in for a success, and is no error then
    let isDefault (response : Ranked) : Bool := response.1 = .default
    return ((ordered.find? isDefault).map (·.2), (failed.eraseP isDefault).map (·.2))

end OpenApiClient.Endpoint

namespace OpenApiClient

/-! ### Endpoints -/

inductive RequestFormat where
  | json
  | formData
  | formUrl
  | binary
  | text
  deriving DecidableEq, Repr

def RequestFormat.word : RequestFormat → String
  | .json => "json"
  | .formData => "form-data"
  | .formUrl => "form-url"
  | .binary => "binary"
  | .text => "text"

namespace Endpoint

/-- A parameter of an endpoint; the body counts as one. -/
structure Parameter where
  place : Place
  name : String
  expr : Expr
  description : Option String := none
  deriving Repr

structure ErrorResponse where
  status : String
  expr : Expr
  description : Option String := none
  deriving Repr

end Endpoint

/-- What the client sends and gets back for one operation. -/
structure Endpoint where
  method : Method
  path : String
  aliasName : Option String := none
  description : Option String := none
  requestFormat : RequestFormat := .json
  parameters : List Endpoint.Parameter := []
  response : Expr
  errors : List Endpoint.ErrorResponse := []
  deprecated : Bool := false
  deriving Repr

def RequestFormat.ofMediaType (mediaType : Option String) : RequestFormat :=
  match mediaType with
  | none => .json
  | some mediaType =>
    if mediaType = "*/*" then .json
    else
      let media := String.ofList
        (Text.lower (Text.trimBlank (mediaType.toList.takeWhile (· ≠ ';'))))
      if Media.isJson media then .json
      else if media.startsWith "multipart/" then .formData
      else if media = "application/x-www-form-urlencoded" then .formUrl
      else if media.startsWith "text/" then .text
      else .binary

namespace Endpoint

open Conversion

/-- Converts the schema of a parameter or a body; without one any value fits. -/
def bindSchema (settings : Settings) (schema : Option Schema) (location : String)
    (optional : Bool) : Convert Expr :=
  match schema with
  | some schema => convert settings schema { optional, location }
  | none =>
    pure ((Expr.unknown none).withModifiers (if optional then [{ kind := .optional }] else []))

def bindResponse (settings : Settings) (response : Option Response) (location : String) :
    Convert Expr :=
  match response with
  | none => pure (.ofPrimitive .void)
  | some response =>
    match response.mediaType, response.schema with
    | none, _ => pure (.ofPrimitive .void)
    | some _, none => pure (.unknown none)
    | some mediaType, some schema =>
      convert settings schema
        { location := location ++ "/" ++ Pointer.escape response.status ++ "/content/" ++
            Pointer.escape mediaType ++ "/schema" }

/-- The first of two texts unless it is empty; else the second. -/
def firstText (first second : Option String) : Option String :=
  match first with
  | some "" => second
  | some text => some text
  | none => second

def bind (settings : Settings) (operation : Operation) : Convert Endpoint := do
  let location := "#/paths/" ++ Pointer.escape operation.path ++ "/" ++ operation.method.word
  let body ← operation.body.toList.mapM fun body => do
    let expr ← bindSchema settings body.schema (location ++ "/requestBody") !body.required
    return ({ place := .body, name := "body", expr, description := body.description } : Parameter)
  let parameters ← operation.parameters.zipIdx.mapM fun (parameter, index) => do
    let expr ← bindSchema settings parameter.schema
      (location ++ "/parameters/" ++ toString index) !parameter.required
    return ({ place := parameter.place, name := parameter.name, expr
              description := parameter.description } : Parameter)
  let (main, failed) ←
    match selectResponses operation.responses with
    | .ok selection => pure selection
    | .error failure => throw failure
  let response ← bindResponse settings main (location ++ "/responses")
  let errors ← failed.mapM fun error => do
    let expr ← bindResponse settings (some error) (location ++ "/responses")
    return ({ status := error.status, expr, description := error.description } : ErrorResponse)
  return { method := operation.method
           path := operation.path
           aliasName := operation.name
           description := firstText operation.description operation.summary
           requestFormat := ((operation.body.map fun body =>
             RequestFormat.ofMediaType body.mediaType)).getD .json
           parameters := body ++ parameters
           response, errors
           deprecated := operation.deprecated }

/-- The endpoints of operations; deprecated ones may be left out. -/
def bindAll (settings : Settings) : List Operation → Convert (List Endpoint)
  | [] => return []
  | operation :: rest => do
    if operation.deprecated && settings.config.excludeDeprecated then
      Convert.log .debug
        ("Skipping deprecated " ++ operation.method.capitals ++ " " ++ operation.path)
      bindAll settings rest
    else
      let endpoint ← bind settings operation
      return endpoint :: (← bindAll settings rest)

end Endpoint

end OpenApiClient
