import OpenApiClient.Document.Pointer
import OpenApiClient.Named
import OpenApiClient.Schema.Basic
import OpenApiClient.Warning

/-!
# Reading schemas

A schema is read as far as it makes sense: a keyword with a malformed value is dropped with a
warning, never an error. References are kept as they are written.
-/

namespace OpenApiClient

namespace Schema

abbrev Reader := Value → (location : String) → Noted Schema

/-! ### Single keywords -/

/-- The value of a keyword, unless it is absent or `null`. -/
def given? (raw : Entries) (key : String) : Option Value :=
  match Entries.get? raw key with
  | some .null => none
  | value => value

/-- The text of a keyword; anything but a text is passed over. -/
def textOf? (raw : Entries) (key : String) : Option String :=
  (Entries.get? raw key).bind Value.text?

def isTrue (raw : Entries) (key : String) : Bool :=
  match Entries.get? raw key with
  | some (.bool true) => true
  | _ => false

def readFlag (raw : Entries) (key location : String) : Noted Bool :=
  match given? raw key with
  | none => pure false
  | some (.bool value) => pure value
  | some value => do
    Noted.warn location key (key ++ " must be a boolean, got " ++ value.shown ++ "; ignored")
    return false

def readNumber (raw : Entries) (key location : String) : Noted (Option Number) :=
  match given? raw key with
  | none => pure none
  | some (.int value) => pure (some (.int value))
  | some (.float value) => pure (some (.float value))
  | some value => do
    Noted.warn location key (key ++ " must be a number, got " ++ value.shown ++ "; ignored")
    return none

def readCount (raw : Entries) (key location : String) : Noted (Option Nat) :=
  let malformed (value : Value) : Noted (Option Nat) := do
    Noted.warn location key
      (key ++ " must be a non-negative integer, got " ++ value.shown ++ "; ignored")
    return none
  match given? raw key with
  | none => pure none
  | some (.int value) => if 0 ≤ value then pure (some value.toNat) else malformed (.int value)
  | some value => malformed value

def readExclusive (raw : Entries) (key location : String) : Noted (Option ExclusiveBound) :=
  match given? raw key with
  | some (.bool value) => pure (some (.flag value))
  | _ => do return (← readNumber raw key location).map .bound

def readEnum (raw : Entries) (location : String) : Noted (Option (List Value)) :=
  match given? raw "enum" with
  | none => pure none
  | some (.list (value :: values)) => pure (some (value :: values))
  | some _ => do
    Noted.warn location "enum" "enum must be a non-empty array; ignored"
    return none

def readPattern (raw : Entries) (location : String) : Noted (Option String) :=
  match given? raw "pattern" with
  | none => pure none
  | some (.text pattern) => pure (some pattern)
  | some _ => do
    Noted.warn location "pattern" "pattern must be a string; ignored"
    return none

/-- The names of the required properties, each once. -/
def readRequired (raw : Entries) (location : String) : Noted (Option (List String)) :=
  let malformed : Noted (Option (List String)) := do
    Noted.warn location "required" "required must be an array of strings; ignored"
    return none
  match given? raw "required" with
  | none => pure none
  | some (.list names) =>
    match names.mapM Value.text? with
    | some names =>
      pure (some (names.foldl (fun seen n => if seen.contains n then seen else seen ++ [n]) []))
    | none => malformed
  | some _ => malformed

/-! ### Parts -/

def readProperties (read : Reader) (raw : Entries) (location : String) :
    Noted (List (String × Schema)) :=
  match given? raw "properties" with
  | none => pure []
  | some (.map properties) => do
    let pairs ← properties.mapM fun (key, value) => do
      let name := key.plain
      return (name, ← read value (location ++ "/properties/" ++ Pointer.escape name))
    return Named.ofPairs pairs
  | some _ => do
    Noted.warn location "properties" "properties must be an object; ignored"
    return []

/-- What is said about other properties; a schema without keywords allows all. -/
def readAdditional (read : Reader) (raw : Entries) (location : String) :
    Noted (Option (Additional Schema)) :=
  match Entries.get? raw "additionalProperties" with
  | none => pure none
  | some (.bool value) => pure (some (.allowed value))
  | some (.map []) => pure (some (.allowed true))
  | some (.map entries) => do
    return some (.schema (← read (.map entries) (location ++ "/additionalProperties")))
  | some _ => do
    Noted.warn location "additionalProperties"
      "additionalProperties must be a boolean or a schema; ignored"
    return none

def readItems (read : Reader) (raw : Entries) (location : String) : Noted (Option Schema) :=
  match Entries.get? raw "items" with
  | none => pure none
  | some (.list _) => do
    Noted.warn location "items" "tuple-form items is not supported; ignored"
    return none
  | some value => do return some (← read value (location ++ "/items"))

def readMembers (read : Reader) (raw : Entries) (key location : String) :
    Noted (Option (List Schema)) :=
  match given? raw key with
  | none => pure none
  | some (.list (first :: others)) => do
    let members ← (first :: others).zipIdx.mapM fun (member, index) =>
      read member (location ++ "/" ++ key ++ "/" ++ toString index)
    return some members
  | some _ => do
    Noted.warn location key (key ++ " must be a non-empty array; ignored")
    return none

def readNegated (read : Reader) (raw : Entries) (location : String) : Noted (Option Schema) :=
  match Entries.get? raw "not" with
  | none => pure none
  | some value => do return some (← read value (location ++ "/not"))

/-- The keywords that nothing stands for; that they are dropped is recorded. -/
def unsupportedKeywords : List String :=
  ["if", "then", "else", "patternProperties", "prefixItems", "contains", "propertyNames",
   "dependentSchemas", "dependentRequired", "unevaluatedProperties", "unevaluatedItems"]

/-- Records which unsupported keywords a schema has. -/
def noteUnsupported (raw : Entries) (location : String) : Noted Unit :=
  unsupportedKeywords.forM fun keyword =>
    if Entries.has raw keyword then
      Noted.warn location keyword ("'" ++ keyword ++ "' is not supported; ignored")
    else pure ()

/-! ### The type of a schema -/

/-- What the type of a schema says: its kind, whether `null` is allowed too, and a schema for each
of several types. -/
structure Typing where
  kind : Kind
  nullable : Bool := false
  members : Option (List Schema) := none

def isNumber : Value → Bool
  | .int _ => true
  | .float _ => true
  | _ => false

def isText : Value → Bool
  | .text _ => true
  | _ => false

def isBool : Value → Bool
  | .bool _ => true
  | _ => false

def isNull : Value → Bool
  | .null => true
  | _ => false

/-- The kind that the values of an enumeration share, `null` apart. -/
def kindOfValues (values : List Value) : Kind :=
  let present := values.filter (!isNull ·)
  if present.isEmpty then .unknown
  else if present.all isText then .string
  else if present.all isBool then .boolean
  else if present.all isNumber then .number
  else .unknown

/-- The kind of a schema without a type, by its keywords. -/
def inferredKind (raw : Entries) : Kind :=
  if Entries.has raw "properties" || Entries.has raw "additionalProperties" ||
      Entries.has raw "required" then .object
  else if Entries.has raw "items" then .array
  else
    match Entries.get? raw "enum" with
    | some (.list values) => kindOfValues values
    | _ => .unknown

/-- The names in a list of types, `null` apart. -/
def typeNames (types : List Value) : List String :=
  (types.filterMap Value.text?).filter (· ≠ "null")

/-- The only type name of a schema, if there is exactly one. -/
def soleTypeName? (raw : Entries) : Option String :=
  match Entries.get? raw "type" with
  | some (.text name) => some name
  | some (.list types) =>
    match typeNames types with
    | [name] => some name
    | _ => none
  | _ => none

/-- The keywords that belong to the schema as a whole and not to each of its types. -/
def wholeKeywords : List String :=
  ["type", "nullable", "allOf", "oneOf", "anyOf", "not", "description", "default"]

def isKeyword (keywords : List String) : Scalar → Bool
  | .text name => keywords.contains name
  | _ => false

/-- The keywords for one of the types of a schema, with that type. -/
def narrowed (raw : Entries) (type : String) : Entries :=
  raw.filter (!isKeyword wholeKeywords ·.1) ++ [(.text "type", .text type)]

/-- Joins the schemas for the types with the alternatives, which win. -/
def joinMembers (location : String) (anyOf types : Option (List Schema)) :
    Noted (Option (List Schema)) :=
  match anyOf, types with
  | some members, some _ => do
    Noted.warn location "type" "type array combined with anyOf; the type array is ignored"
    return some members
  | some members, none => pure (some members)
  | none, types => pure types

/-- Reads all keywords besides the type and whether `null` is allowed. -/
def readKeywords (read : Reader) (raw : Entries) (location : String) (nullable : Bool)
    (typing : Typing) : Noted Schema := do
  let enum ← readEnum raw location
  let minimum ← readNumber raw "minimum" location
  let maximum ← readNumber raw "maximum" location
  let multipleOf ← readNumber raw "multipleOf" location
  let exclusiveMinimum ← readExclusive raw "exclusiveMinimum" location
  let exclusiveMaximum ← readExclusive raw "exclusiveMaximum" location
  let minLength ← readCount raw "minLength" location
  let maxLength ← readCount raw "maxLength" location
  let minItems ← readCount raw "minItems" location
  let maxItems ← readCount raw "maxItems" location
  let pattern ← readPattern raw location
  let properties ← readProperties read raw location
  let required ← readRequired raw location
  let additional ← readAdditional read raw location
  let items ← readItems read raw location
  let allOf ← readMembers read raw "allOf" location
  let oneOf ← readMembers read raw "oneOf" location
  let anyOf ← joinMembers location (← readMembers read raw "anyOf" location) typing.members
  let negated ← readNegated read raw location
  noteUnsupported raw location
  return {
    kind := typing.kind
    nullable := nullable || typing.nullable
    enum, const := Entries.get? raw "const", format := textOf? raw "format"
    minimum, maximum, exclusiveMinimum, exclusiveMaximum, multipleOf
    minLength, maxLength, pattern, items, minItems, maxItems
    properties, required, additional, allOf, oneOf, anyOf, negated
    default := Entries.get? raw "default"
    description := textOf? raw "description"
    deprecated := isTrue raw "deprecated"
    unsupportedType :=
      -- several types have no kind either, but each has a schema
      if typing.kind = .unknown && typing.members.isNone then soleTypeName? raw else none }

/-- Reads the type of a schema. Several types become a schema each. -/
def readTyping (read : Reader) (raw : Entries) (location : String) : Noted Typing :=
  match given? raw "type" with
  | none => pure { kind := inferredKind raw }
  | some (.text name) => pure { kind := .ofTypeName name }
  | some (.list types) =>
    let nullable := (types.filterMap Value.text?).contains "null"
    match typeNames types with
    | [] => pure { kind := if nullable then .null else .unknown }
    | [name] => pure { kind := .ofTypeName name, nullable }
    | names => do
      let members ← names.zipIdx.mapM fun (name, index) =>
        readKeywords read (narrowed raw name) (location ++ "/type/" ++ toString index) false
          { kind := .ofTypeName name }
      return { kind := .unknown, nullable, members := some members }
  | some value => do
    Noted.warn location "type" ("type must be a string or array, got " ++ value.shown)
    return { kind := .unknown }

/-! ### Schemas -/

/-- Reads a schema from its keywords. Two of those beside a reference count. -/
def ofEntries (read : Reader) (raw : Entries) (location : String) : Noted Schema :=
  match textOf? raw "$ref" with
  | some ref =>
    pure { ref, nullable := isTrue raw "nullable", description := textOf? raw "description" }
  | none => do
    let nullable ← readFlag raw "nullable" location
    let typing ← readTyping read raw location
    readKeywords read raw location nullable typing

/-- Reads a schema whose values are nested at most `depth` deep. -/
def readAt : (depth : Nat) → Reader
  | 0, _, _ => pure {}
  | depth + 1, raw, location =>
    match raw with
    | .bool true => pure {}
    | .bool false => pure { negated := some {} }
    | .map entries => ofEntries (readAt depth) entries location
    | value => do
      Noted.warn location "schema" ("schema must be an object, got " ++ value.kindWord)
      return {}

def ofValue (raw : Value) (location : String) : Noted Schema := readAt raw.depth raw location

end Schema

end OpenApiClient
