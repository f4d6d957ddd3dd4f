import OpenApiClient.Value.Basic

/-!
# Schemas

One fragment of a schema: its kind, constraints, parts, and the schemas it is composed of. A keyword
that is absent is `none`, so that an absent default is told apart from the default `null`, and an
absent list from an empty one.
-/

namespace OpenApiClient

/-- The kinds of values a schema describes. `unknown` is any value. -/
inductive Kind where
  | string
  | number
  | integer
  | boolean
  | object
  | array
  | null
  | unknown
  deriving DecidableEq, Repr, Inhabited

namespace Kind

def word : Kind → String
  | .string => "string"
  | .number => "number"
  | .integer => "integer"
  | .boolean => "boolean"
  | .object => "object"
  | .array => "array"
  | .null => "null"
  | .unknown => "unknown"

/-- The kind that a type name stands for; every other name is unknown. -/
def ofTypeName (name : String) : Kind :=
  match name with
  | "string" => .string
  | "number" => .number
  | "integer" => .integer
  | "boolean" => .boolean
  | "object" => .object
  | "array" => .array
  | "null" => .null
  | _ => .unknown

end Kind

/-- A number as it is written in a document. -/
inductive Number where
  | int (value : Int)
  | float (value : Double)
  deriving DecidableEq, Repr

def Number.toValue : Number → Value
  | .int value => .int value
  | .float value => .float value

/-- A bound of its own, or a flag that makes the ordinary bound exclusive. -/
inductive ExclusiveBound where
  | flag (value : Bool)
  | bound (value : Number)
  deriving DecidableEq, Repr

/-- What is said about properties that are not declared: whether they are allowed, or their schema.
-/
inductive Additional (α : Type) where
  | allowed (value : Bool)
  | schema (schema : α)
  deriving Repr

structure Schema where
  kind : Kind := .unknown
  nullable : Bool := false
  enum : Option (List Value) := none
  const : Option Value := none
  format : Option String := none
  minimum : Option Number := none
  maximum : Option Number := none
  exclusiveMinimum : Option ExclusiveBound := none
  exclusiveMaximum : Option ExclusiveBound := none
  multipleOf : Option Number := none
  minLength : Option Nat := none
  maxLength : Option Nat := none
  pattern : Option String := none
  items : Option Schema := none
  minItems : Option Nat := none
  maxItems : Option Nat := none
  properties : List (String × Schema) := []
  required : Option (List String) := none
  additional : Option (Additional Schema) := none
  allOf : Option (List Schema) := none
  oneOf : Option (List Schema) := none
  anyOf : Option (List Schema) := none
  negated : Option Schema := none
  ref : Option String := none
  default : Option Value := none
  description : Option String := none
  deprecated : Bool := false
  unsupportedType : Option String := none
  deriving Repr, Inhabited

namespace Schema

def isComposed (schema : Schema) : Bool :=
  schema.allOf.isSome || schema.oneOf.isSome || schema.anyOf.isSome || schema.negated.isSome

/-- Whether a schema is an object that can be merged with others. -/
def isPlainObject (schema : Schema) : Bool :=
  schema.kind = .object && schema.ref.isNone && !schema.isComposed && schema.enum.isNone &&
    schema.const.isNone

end Schema

/-! ### The size of a schema -/

mutual

def Schema.size : Schema → Nat
  | { items, properties, additional, allOf, oneOf, anyOf, negated, .. } =>
    optionSize items + propertiesSize properties + additionalSize additional +
      membersSize allOf + membersSize oneOf + membersSize anyOf + optionSize negated + 1

def optionSize : Option Schema → Nat
  | none => 0
  | some schema => schema.size

def propertiesSize : List (String × Schema) → Nat
  | [] => 0
  | (_, schema) :: rest => schema.size + propertiesSize rest

def additionalSize : Option (Additional Schema) → Nat
  | none => 0
  | some (.allowed _) => 0
  | some (.schema schema) => schema.size

def listSize : List Schema → Nat
  | [] => 0
  | schema :: rest => schema.size + listSize rest

def membersSize : Option (List Schema) → Nat
  | none => 0
  | some members => listSize members

end

end OpenApiClient
