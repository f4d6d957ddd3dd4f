import OpenApiClient.Field
import OpenApiClient.Media
import OpenApiClient.Operation.Basic
import OpenApiClient.Schema.Reader

/-!
# Reading operations

Pointers to shared components are followed. The parameters of a path hold for all its operations,
but an operation's own parameter replaces one with the same name and place.
-/

namespace OpenApiClient

/-- Reading a part of a document, with failures and warnings. -/
abbrev Reading := ExceptT Failure Noted

namespace Reading

def schema (raw : Value) (location : String) : Reading Schema := liftM (Schema.ofValue raw location)

def warn (location keyword message : String) : Reading Unit :=
  liftM (Noted.warn location keyword message)

/-- The value at the end of a chain of pointers. -/
def follow (root : Entries) (value : Value) : Reading Value :=
  match Pointer.follow (.map root) value with
  | .ok value => pure value
  | .error error => throw (.document error)

/-! ### Texts of a record -/

/-- The text in a field, if there is any. -/
def textField (value : Option Value) : Except FieldFault (Option String) :=
  match value with
  | none => .ok none
  | some .null => .ok none
  | some value => (Field.text value).map some

def fieldText (raw : Entries) (key field : String) : Option String × List InvalidField :=
  match textField (Entries.get? raw key) with
  | .ok text => (text, [])
  | .error fault => (none, [{ field, fault }])

def requireValid (invalid : List InvalidField) : Reading Unit :=
  if invalid.isEmpty then pure () else throw (.unexpected (.invalidFields invalid))

def description (raw : Entries) : Reading (Option String) := do
  let (text, invalid) := fieldText raw "description" "description"
  requireValid invalid
  return text

/-! ### Parameters -/

/-- The mappings that the items of a list lead to. -/
def components (root : Entries) (items : Option Value) : Reading (List Entries) := do
  match items with
  | some (.list items) =>
    let resolved ← items.mapM (follow root)
    return resolved.filterMap fun
      | .map entries => some entries
      | _ => none
  | _ => return []

end Reading

namespace Parameter

/-- The name and the place of a parameter, empty if absent. Only scalars can be compared. -/
def identity? (raw : Entries) : Option (Scalar × Scalar) :=
  match (Entries.get? raw "name").getD (.text ""), (Entries.get? raw "in").getD (.text "") with
  | .scalar name, .scalar place => some (name, place)
  | _, _ => none

/-- Whether two parameters have the same name and place. -/
def sameIdentity (a b : Scalar × Scalar) : Bool := a.1.sameValue b.1 && a.2.sameValue b.2

/-- The parameters of the path that an operation does not replace, then its own. -/
def merge? (shared own : List Entries) : Option (List Entries) := do
  let taken ← own.mapM identity?
  let identities ← shared.mapM identity?
  let kept := (shared.zip identities).filter fun (_, identity) =>
    !taken.any (sameIdentity identity)
  return kept.map (·.1) ++ own

/-- The schema in a description of contents, with its media type. -/
def contentSchema (content : Option Value) (location : String) :
    Reading (Option String × Option Schema) := do
  match Media.pick content with
  | some (mediaType, raw) =>
    match raw with
    | some .null => return (some mediaType, none)
    | none => return (some mediaType, none)
    | some raw =>
      let schema ← Reading.schema raw
        (location ++ "/content/" ++ Pointer.escape mediaType ++ "/schema")
      return (some mediaType, some schema)
  | none => return (none, none)

/-- Reads a parameter. One in an unknown place, or in the body, is left out with a warning. -/
def read (raw : Entries) (location : String) : Reading (Option Parameter) := do
  let name := ((Entries.get? raw "name").getD (.text "")).plain
  let rawPlace := (Entries.get? raw "in").getD (.text "query")
  match rawPlace.text?.bind Place.ofWord? with
  | none =>
    Reading.warn location "in" ("parameter '" ++ name ++ "' has unsupported location " ++
      ((Entries.get? raw "in").getD .null).shown ++ "; skipped")
    return none
  | some .body =>
    Reading.warn location "in"
      ("parameter '" ++ name ++ "' uses 'in: body'; use requestBody instead")
    return none
  | some place =>
    let schema ←
      match Entries.get? raw "schema" with
      | some value => some <$> Reading.schema value (location ++ "/schema")
      | none => (·.2) <$> contentSchema (Entries.get? raw "content") location
    let description ← Reading.description raw
    return some
      { name, place, schema, description
        required := Schema.isTrue raw "required" || place = .path }

end Parameter

/-! ### Bodies and responses -/

def RequestBody.read (root : Entries) (raw : Option Value) (location : String) :
    Reading (Option RequestBody) := do
  match raw with
  | none => return none
  | some .null => return none
  | some value =>
    match ← Reading.follow root value with
    | .map entries =>
      let (mediaType, schema) ←
        Parameter.contentSchema (Entries.get? entries "content") location
      let description ← Reading.description entries
      return some { required := Schema.isTrue entries "required", description, mediaType, schema }
    | _ => return none

namespace Response

def read (root : Entries) (status : String) (value : Value) (location : String) :
    Reading (Option Response) := do
  match ← Reading.follow root value with
  | .map entries =>
    let (mediaType, schema) ←
      Parameter.contentSchema (Entries.get? entries "content")
        (location ++ "/" ++ Pointer.escape status)
    let description ← Reading.description entries
    return some { status, description, mediaType, schema }
  | _ => return none

def readAll (root : Entries) (raw : Option Value) (location : String) :
    Reading (List Response) := do
  match raw with
  | some (.map entries) =>
    let responses ← entries.mapM fun (status, value) => read root status.plain value location
    return responses.filterMap id
  | _ => return []

end Response

/-! ### Operations -/

namespace Operation

def read (root : Entries) (path : String) (method : Method) (shared : List Entries)
    (raw : Entries) : Reading Operation := do
  let location := "#/paths/" ++ Pointer.escape path ++ "/" ++ method.word
  let own ← Reading.components root (Entries.get? raw "parameters")
  let some merged := Parameter.merge? shared own | throw (.unexpected .wrongKind)
  let parameters ← merged.zipIdx.mapM fun (parameter, index) =>
    Parameter.read parameter (location ++ "/parameters/" ++ toString index)
  let body ← RequestBody.read root (Entries.get? raw "requestBody") (location ++ "/requestBody")
  let responses ← Response.readAll root (Entries.get? raw "responses") (location ++ "/responses")
  let (name, invalidName) := Reading.fieldText raw "operationId" "operation_id"
  let (summary, invalidSummary) := Reading.fieldText raw "summary" "summary"
  let (description, invalidDescription) := Reading.fieldText raw "description" "description"
  Reading.requireValid (invalidName ++ invalidSummary ++ invalidDescription)
  return { path, method, name, summary, description, body, responses
           deprecated := Schema.isTrue raw "deprecated"
           parameters := parameters.filterMap id }

/-- The method and the description of an operation, if an entry is one. -/
def entry? : Scalar × Value → Option (Method × Entries)
  | (.text word, .map raw) => (Method.ofWord? word).map (·, raw)
  | _ => none

def readPath (root : Entries) (path : String) (value : Value) : Reading (List Operation) := do
  match ← Reading.follow root value with
  | .map item =>
    let shared ← Reading.components root (Entries.get? item "parameters")
    (item.filterMap entry?).mapM fun (method, raw) => read root path method shared raw
  | _ => return []

def readAll (root : Entries) : Reading (List Operation) := do
  match Entries.get? root "paths" with
  | some (.map paths) =>
    let operations ← paths.mapM fun (path, value) => readPath root path.plain value
    return operations.flatten
  | _ => return []

end Operation

end OpenApiClient
