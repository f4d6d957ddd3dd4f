import OpenApiClient.Config.Basic
import OpenApiClient.Expr.Basic
import OpenApiClient.Log
import OpenApiClient.Named
import OpenApiClient.Registry
import OpenApiClient.Warning

/-!
# From schemas to expressions

A schema is converted by the first rule that fits: a reference, `allOf`, `oneOf` or `anyOf`, `not`,
`const` or `enum`, an unknown type, an object, an array, a value without parts. A reference to a
schema that is being converted becomes a lazy one, so that circular schemas are finite; the target
of any other is converted first, once.

The depth is bounded: between two references that enter a named schema no fragment is met twice
unless the conversion never ends, and a fragment takes at most two nested conversions, its own and
that of the object its `allOf` amounts to.
-/

namespace OpenApiClient.Conversion

/-! ### The state of a conversion -/

/-- What is passed down: the names of the schemas being converted, outermost first, whether the
result is optional, and where the schema stands. -/
structure Context where
  stack : List String := []
  optional : Bool := false
  location : String := "#"
  deriving DecidableEq, Repr

namespace Context

def push (context : Context) (name : String) : Context where
  stack := context.stack ++ [name]
  location := Registry.referenceStart ++ Pointer.escape name

def child (context : Context) (segment : String) (optional : Bool) : Context where
  stack := context.stack
  optional := optional
  location := context.location ++ "/" ++ segment

end Context

/-- What is gathered by a conversion. -/
structure Progress where
  declarations : List (String × Expr) := []
  warnings : List Warning := []
  records : List Record := []
  deriving Repr

structure Settings where
  registry : Registry
  config : Config
  deriving Repr

end OpenApiClient.Conversion

namespace OpenApiClient

/-- A conversion, which may fail and keeps what was gathered. -/
abbrev Convert := ExceptT Failure (StateM Conversion.Progress)

namespace Convert

def log (level : Level) (text : String) : Convert Unit :=
  modify fun progress => { progress with records := progress.records ++ [⟨level, text⟩] }

/-- Adds a warning, to the log too. -/
def warn (location keyword message : String) : Convert Unit := do
  let warning : Warning := { message, keyword, location }
  log .warning warning.text
  modify fun progress => { progress with warnings := progress.warnings ++ [warning] }

/-- The value of a computation that may fail to compile. -/
def ofCompile {α : Type} : Except CompileError α → Convert α
  | .ok value => pure value
  | .error error => throw (.compile error)

end Convert

end OpenApiClient

namespace OpenApiClient.Conversion

/-! ### The modifiers of values without parts -/

/-- The modifiers of a bound. A flag makes the ordinary bound exclusive, an exclusive bound of its
own comes after it. -/
def boundModifiers (inclusive exclusive : ModifierKind) (bound : Option Number)
    (exclusiveBound : Option ExclusiveBound) : List Modifier :=
  let kind := if exclusiveBound = some (.flag true) then exclusive else inclusive
  let ordinary := bound.map fun bound => { kind, args := [bound.toValue] }
  let own : Option Modifier :=
    match exclusiveBound with
    | some (.bound bound) => some { kind := exclusive, args := [bound.toValue] }
    | _ => none
  ordinary.toList ++ own.toList

def numberModifiers (schema : Schema) : List Modifier :=
  boundModifiers .gte .gt schema.minimum schema.exclusiveMinimum ++
    boundModifiers .lte .lt schema.maximum schema.exclusiveMaximum ++
    (schema.multipleOf.map fun factor =>
      ({ kind := .multipleOf, args := [factor.toValue] } : Modifier)).toList

def countModifiers (least most : Option Nat) : List Modifier :=
  (least.map fun count => ({ kind := .min, args := [.int count] } : Modifier)).toList ++
    (most.map fun count => ({ kind := .max, args := [.int count] } : Modifier)).toList

/-- The formats that can be checked; all others are annotations. -/
def checkedFormat? (format : String) : Option String :=
  match format with
  | "email" => some "email"
  | "uri" => some "url"
  | "url" => some "url"
  | "uuid" => some "uuid"
  | "date-time" => some "datetime"
  | "date" => some "date"
  | "time" => some "time"
  | "ipv4" => some "ip"
  | "ipv6" => some "ip"
  | _ => none

def textModifiers (schema : Schema) : List Modifier :=
  countModifiers schema.minLength schema.maxLength ++
    (schema.pattern.map fun pattern =>
      ({ kind := .regex, args := [.text pattern] } : Modifier)).toList ++
    ((schema.format.bind checkedFormat?).map fun format =>
      ({ kind := .format, args := [.text format] } : Modifier)).toList

/-- The expression for a value without parts, if the kind is one. -/
def primitiveExpr? (schema : Schema) : Option Expr :=
  match schema.kind with
  | .string => some ((Expr.ofPrimitive .string).withModifiers (textModifiers schema))
  | .number => some ((Expr.ofPrimitive .number).withModifiers (numberModifiers schema))
  | .integer =>
    some ((Expr.ofPrimitive .number).withModifiers ({ kind := .integer } :: numberModifiers schema))
  | .boolean => some (Expr.ofPrimitive .boolean)
  | .null => some (Expr.ofPrimitive .null)
  | _ => none

/-- The expression for one of some values, nullable if `null` is among them. -/
def choiceExpr (values : List Value) : Expr :=
  let present := values.filter fun
    | .null => false
    | _ => true
  let expr : Expr :=
    match present with
    | [] => .ofPrimitive .null
    | [value] => { kind := .literal, values := [value] }
    | present => { kind := .enum, values := present }
  if present.isEmpty || present.length = values.length then expr
  else expr.withModifiers [{ kind := .nullable }]

/-- The modifiers that come last, each unless the expression has it. -/
def trailingModifiers (withDefaults optional : Bool) (schema : Schema) (expr : Expr) :
    List Modifier :=
  let missing (kind : ModifierKind) : Bool := !expr.hasModifier kind
  (if optional && missing .optional then [{ kind := .optional }] else []) ++
    (match schema.default with
     | some value =>
       if withDefaults && missing .default then [{ kind := .default, args := [value] }] else []
     | none => []) ++
    (if schema.nullable && missing .nullable then [{ kind := .nullable }] else [])

/-! ### Merging objects -/

/-- The required names of two objects, each once. -/
def unionRequired (first second : Option (List String)) : Option (List String) :=
  match first, second with
  | first, none => first
  | first, some names =>
    some (names.foldl (fun all name => if all.contains name then all else all ++ [name])
      (first.getD []))

/-- An object with what another one says added to it. -/
def mergeObject (merged shape : Schema) : Schema :=
  { merged with
    properties := shape.properties.foldl
      (fun all property => Named.insert all property.1 property.2) merged.properties
    required := unionRequired merged.required shape.required
    additional := shape.additional <|> merged.additional }

/-- The object that says all that the given ones say. -/
def mergeObjects (shapes : List Schema) : Schema := shapes.foldl mergeObject { kind := .object }

/-- What a schema says about an object beside its `allOf`. -/
def siblingMember? (schema : Schema) : Option Schema :=
  if !schema.properties.isEmpty || schema.additional.isSome ||
      !(schema.required.getD []).isEmpty then
    some { kind := .object, properties := schema.properties, required := schema.required
           additional := schema.additional }
  else none

/-- The plain object behind a member, references being followed unless they lead to a schema that is
being converted. `followed` are the names passed. -/
def plainObject? (registry : Registry) (stack : List String) :
    (fuel : Nat) → (followed : List String) → Schema → Except CompileError (Option Schema)
  | 0, _, _ => .ok none
  | fuel + 1, followed, member =>
    match member.ref with
    | none => .ok (if member.isPlainObject then some member else none)
    | some ref => do
      let name ← registry.resolve ref
      -- a schema that is being converted is not merged into itself
      if stack.contains name || followed.contains name then return none
      match registry.get? name with
      | some schema => plainObject? registry stack fuel (followed ++ [name]) schema
      | none => return none

/-- The plain object behind a member; there are no more names than are registered. -/
def objectBehind? (registry : Registry) (stack : List String) (member : Schema) :
    Except CompileError (Option Schema) :=
  plainObject? registry stack (registry.names.length + 2) [] member

abbrev Converter := Schema → Context → Convert Expr

def negationNote : String := "negation ('not') is not supported; any value is accepted"

def typeNote (name : String) : String :=
  "type '" ++ name ++ "' is not supported; any value is accepted"

/-- The note on references that only lead to each other. -/
def aliasNote (cycle : List String) : String :=
  "reference cycle " ++ " -> ".intercalate cycle ++
    " has no schema besides aliases; any value is accepted"

/-! ### References -/

/-- Converts a named schema, unless that has been done. -/
def declareWith (convert : Converter) (settings : Settings) (name : String)
    (context : Context) : Convert Expr := do
  match (← get).declarations.lookup name with
  | some expr => return expr
  | none =>
    Convert.log .debug ("Translating schema '" ++ name ++ "'")
    match settings.registry.get? name with
    | none => throw (.unexpected .noSuchKey)
    | some schema =>
      let expr ← convert schema (context.push name)
      modify fun progress =>
        { progress with declarations := progress.declarations ++ [(name, expr)] }
      return expr

/-- Whether all named schemas are nothing but references. -/
def allAliases (registry : Registry) : List String → Convert Bool
  | [] => return true
  | name :: rest =>
    match registry.get? name with
    | none => throw (.unexpected .noSuchKey)
    | some schema => if schema.ref.isSome then allAliases registry rest else return false

def convertRef (convert : Converter) (settings : Settings) (ref : String)
    (context : Context) : Convert Expr := do
  let name ← Convert.ofCompile (settings.registry.resolve ref)
  if context.stack.contains name then
    -- the schemas from here on lead back to the name
    let cycle := context.stack.dropWhile (· ≠ name)
    if ← allAliases settings.registry cycle then
      let note := aliasNote (cycle ++ [name])
      Convert.warn context.location "$ref" note
      return .unknown (some note)
    Convert.log .debug ("Reference cycle " ++ " -> ".intercalate context.stack ++ " -> " ++
      name ++ " broken with a lazy reference")
    return .lazyRef name
  let _ ← declareWith convert settings name context
  return .namedRef name

/-! ### Objects and arrays -/

/-- The modifiers of an object: whether all properties are optional, and what is said about others.
-/
def objectModifiers (strict optionalAll : Bool) (additional : Option (Additional Schema)) :
    List Modifier :=
  (if optionalAll then [{ kind := .partialObject }] else []) ++
    match additional with
    | some (.allowed false) => [{ kind := .strict }]
    | some (.schema _) => []
    | some (.allowed true) => [{ kind := .passthrough }]
    | none => if strict then [{ kind := .strict }] else [{ kind := .passthrough }]

def convertObject (convert : Converter) (settings : Settings) (schema : Schema)
    (context : Context) : Convert Expr := do
  let required := schema.required.getD []
  -- an object with optional properties only is marked as a whole
  let optionalAll := required.isEmpty && !schema.properties.isEmpty
  let properties ← schema.properties.mapM fun (name, property) => do
    let optional := !required.contains name
    let expr ← convert property
      (context.child ("properties/" ++ Pointer.escape name) (optional && !optionalAll))
    return ({ name, expr, optional } : Property Expr)
  let others ←
    match schema.additional with
    | some (.schema others) =>
      some <$> convert others (context.child "additionalProperties" false)
    | _ => pure none
  let modifiers := objectModifiers settings.config.strictObjects optionalAll schema.additional
  return ({ kind := .object, properties, others } : Expr).withModifiers modifiers

def convertArray (convert : Converter) (schema : Schema) (context : Context) :
    Convert Expr := do
  let items ←
    match schema.items with
    | some items => convert items (context.child "items" false)
    | none => pure (.unknown none)
  return ({ kind := .array, items } : Expr).withModifiers
    (countModifiers schema.minItems schema.maxItems)

/-! ### Compositions -/

/-- The plain objects among the members of an `allOf`, and the others, converted. -/
def splitMembers (convert : Converter) (registry : Registry) (context : Context) :
    List (Schema × Nat) → Convert (List Schema × List Expr)
  | [] => return ([], [])
  | (member, index) :: rest => do
    match ← Convert.ofCompile (objectBehind? registry context.stack member) with
    | some shape =>
      let (shapes, others) ← splitMembers convert registry context rest
      return (shape :: shapes, others)
    | none =>
      let expr ← convert member (context.child ("allOf/" ++ toString index) false)
      let (shapes, others) ← splitMembers convert registry context rest
      return (shapes, expr :: others)

/-- Converts an `allOf`: objects are merged, and all else is intersected with them. -/
def convertAllOf (convert : Converter) (settings : Settings) (schema : Schema)
    (allOf : List Schema) (context : Context) : Convert Expr := do
  match allOf ++ (siblingMember? schema).toList with
  | [member] => convert member (context.child "allOf/0" false)
  | members =>
    let (shapes, others) ← splitMembers convert settings.registry context members.zipIdx
    let objects := if shapes.isEmpty then [] else [mergeObjects shapes]
    let merged ← objects.mapM fun object => convertObject convert settings object context
    match merged ++ others with
    | [part] => return part
    | parts => return { kind := .intersection, members := parts }

def convertUnion (convert : Converter) (keyword : String) (members : List Schema)
    (context : Context) : Convert Expr := do
  let converted ← members.zipIdx.mapM fun (member, index) =>
    convert member (context.child (keyword ++ "/" ++ toString index) false)
  return { kind := .union, members := converted }

/-! ### Schemas -/

/-- Any value, with a warning that says why. -/
def fallback (context : Context) (keyword note : String) : Convert Expr := do
  Convert.warn context.location keyword note
  return .unknown (some note)

/-- Converts a schema, without the modifiers that come last. -/
def convertKind (convert : Converter) (settings : Settings) (schema : Schema)
    (context : Context) : Convert Expr := do
  if let some ref := schema.ref then convertRef convert settings ref context
  else if let some allOf := schema.allOf then convertAllOf convert settings schema allOf context
  else if let some members := schema.oneOf then
    if schema.anyOf.isSome then
      Convert.warn context.location "anyOf" "anyOf next to oneOf is not supported; anyOf ignored"
    convertUnion convert "oneOf" members context
  else if let some members := schema.anyOf then convertUnion convert "anyOf" members context
  else if schema.negated.isSome then fallback context "not" negationNote
  else if let some value := schema.const then return choiceExpr [value]
  else if let some values := schema.enum then return choiceExpr values
  else if let some name := schema.unsupportedType then fallback context "type" (typeNote name)
  else if schema.kind = .object then convertObject convert settings schema context
  else if schema.kind = .array then convertArray convert schema context
  else return (primitiveExpr? schema).getD (.unknown none)

/-- Converts a schema at most `depth` schemas deep. -/
def convertAt (settings : Settings) : (depth : Nat) → Converter
  | 0, _, _ => throw (.unexpected .endless)
  | depth + 1, schema, context => do
    let expr ← convertKind (convertAt settings depth) settings schema context
    return expr.withModifiers
      (trailingModifiers settings.config.withDefaultValues context.optional schema expr)

/-- A bound on the depth of the conversion of a schema that ends. How deep calls can be nested on a
machine is not modelled: what ends is converted at any depth. -/
def depthBound (registry : Registry) (size : Nat) : Nat :=
  (registry.names.length + 2) * (2 * (propertiesSize registry.schemas + size) + 1)

def convert (settings : Settings) (schema : Schema) (context : Context) : Convert Expr :=
  convertAt settings (depthBound settings.registry schema.size) schema context

def declare (settings : Settings) (name : String) (context : Context) : Convert Expr :=
  declareWith (convertAt settings (depthBound settings.registry 0)) settings name context

end OpenApiClient.Conversion
