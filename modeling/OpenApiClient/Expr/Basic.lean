import OpenApiClient.Value.Basic

/-!
# Validation expressions

What a value is checked against: a kind with its parts, and modifiers, which are kept in the order
in which they are declared here. Parts that its kind does not use have no effect on what is checked,
but a schema that they refer to has to be declared.
-/

namespace OpenApiClient

inductive Primitive where
  | string
  | number
  | boolean
  | null
  | void
  deriving DecidableEq, Repr

namespace Primitive

def all : List Primitive := [.string, .number, .boolean, .null, .void]

def word : Primitive → String
  | .string => "string"
  | .number => "number"
  | .boolean => "boolean"
  | .null => "null"
  | .void => "void"

def ofWord? (word : String) : Option Primitive := all.find? (·.word = word)

end Primitive

inductive ModifierKind where
  | integer
  | gt
  | gte
  | lt
  | lte
  | multipleOf
  | min
  | max
  | regex
  | format
  | partialObject
  | passthrough
  | strict
  | optional
  | default
  | nullable
  deriving DecidableEq, Repr

namespace ModifierKind

/-- All kinds of modifiers in the order in which they are applied. -/
def all : List ModifierKind :=
  [.integer, .gt, .gte, .lt, .lte, .multipleOf, .min, .max, .regex, .format, .partialObject,
   .passthrough, .strict, .optional, .default, .nullable]

/-- The place of a modifier in the order of application. -/
def rank : ModifierKind → Nat
  | .integer => 0
  | .gt => 1
  | .gte => 2
  | .lt => 3
  | .lte => 4
  | .multipleOf => 5
  | .min => 6
  | .max => 7
  | .regex => 8
  | .format => 9
  | .partialObject => 10
  | .passthrough => 11
  | .strict => 12
  | .optional => 13
  | .default => 14
  | .nullable => 15

def word : ModifierKind → String
  | .integer => "integer"
  | .gt => "gt"
  | .gte => "gte"
  | .lt => "lt"
  | .lte => "lte"
  | .multipleOf => "multiple_of"
  | .min => "min"
  | .max => "max"
  | .regex => "regex"
  | .format => "format"
  | .partialObject => "partial"
  | .passthrough => "passthrough"
  | .strict => "strict"
  | .optional => "optional"
  | .default => "default"
  | .nullable => "nullable"

def ofWord? (word : String) : Option ModifierKind := all.find? (·.word = word)

end ModifierKind

structure Modifier where
  kind : ModifierKind
  args : List Value := []
  deriving Repr

inductive ExprKind where
  | primitive
  | object
  | array
  | union
  | intersection
  | literal
  | enum
  | lazyRef
  | namedRef
  | unknown
  deriving DecidableEq, Repr

namespace ExprKind

def all : List ExprKind :=
  [.primitive, .object, .array, .union, .intersection, .literal, .enum, .lazyRef, .namedRef,
   .unknown]

def word : ExprKind → String
  | .primitive => "primitive"
  | .object => "object"
  | .array => "array"
  | .union => "union"
  | .intersection => "intersection"
  | .literal => "literal"
  | .enum => "enum"
  | .lazyRef => "lazy_ref"
  | .namedRef => "named_ref"
  | .unknown => "unknown"

def ofWord? (word : String) : Option ExprKind := all.find? (·.word = word)

end ExprKind

structure Property (α : Type) where
  name : String
  expr : α
  optional : Bool := false
  deriving Repr

/-- A validation expression. A primitive without a type is a text, an array without items holds any
values, and a reference without a name goes nowhere. Objects have properties and perhaps an
expression for all others, unions and intersections have members, literals and enumerations have
values. A note says why an expression accepts any value. -/
structure Expr where
  kind : ExprKind
  primitive : Option Primitive := none
  modifiers : List Modifier := []
  properties : List (Property Expr) := []
  others : Option Expr := none
  items : Option Expr := none
  members : List Expr := []
  values : List Value := []
  ref : Option String := none
  note : Option String := none
  deriving Repr

namespace Modifier

/-- Puts a modifier after those that come before it or are of its kind. -/
def insertInto (modifier : Modifier) : List Modifier → List Modifier
  | [] => [modifier]
  | other :: rest =>
    if other.kind.rank ≤ modifier.kind.rank then other :: modifier.insertInto rest
    else modifier :: other :: rest

/-- Modifiers in the order of application, in which a kind keeps its order. -/
def sort (modifiers : List Modifier) : List Modifier :=
  modifiers.foldl (fun sorted modifier => modifier.insertInto sorted) []

end Modifier

namespace Expr

instance : Inhabited Expr := ⟨{ kind := .unknown }⟩

def ofPrimitive (type : Primitive) : Expr := { kind := .primitive, primitive := some type }

def namedRef (name : String) : Expr := { kind := .namedRef, ref := some name }

/-- A reference that is looked up when a value is checked. -/
def lazyRef (name : String) : Expr := { kind := .lazyRef, ref := some name }

/-- Any value, with a note on why. -/
def unknown (note : Option String) : Expr := { kind := .unknown, note }

/-- An expression with further modifiers, in the order of application. -/
def withModifiers (expr : Expr) (modifiers : List Modifier) : Expr :=
  if modifiers.isEmpty then expr
  else { expr with modifiers := Modifier.sort (expr.modifiers ++ modifiers) }

def hasModifier (expr : Expr) (kind : ModifierKind) : Bool := expr.modifiers.any (·.kind = kind)

/-- The expressions that an expression consists of. -/
def children (expr : Expr) : List Expr :=
  expr.properties.map (·.expr) ++ expr.others.toList ++ expr.items.toList ++ expr.members

end Expr

end OpenApiClient
