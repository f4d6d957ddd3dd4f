import OpenApiClient.Expr.Basic

/-!
# The references in an expression

The names that an expression refers to: directly, so that the schema has to be declared before, or
lazily, when a value is checked.
-/

namespace OpenApiClient

/-- How a reference is looked up. -/
inductive ReferenceMode where
  | named
  | lazy
  deriving DecidableEq, Repr

def ReferenceMode.kind : ReferenceMode → ExprKind
  | .named => .namedRef
  | .lazy => .lazyRef

mutual

/-- The names that an expression refers to in a mode. -/
def Expr.references (mode : ReferenceMode) : Expr → List String
  | ⟨kind, _, _, properties, others, items, members, _, ref, _⟩ =>
    (if kind = mode.kind then ref.toList else []) ++ propertyReferences mode properties ++
      optionReferences mode others ++ optionReferences mode items ++ memberReferences mode members

def propertyReferences (mode : ReferenceMode) : List (Property Expr) → List String
  | [] => []
  | ⟨_, expr, _⟩ :: rest => expr.references mode ++ propertyReferences mode rest

def memberReferences (mode : ReferenceMode) : List Expr → List String
  | [] => []
  | expr :: rest => expr.references mode ++ memberReferences mode rest

/-- The names that a part refers to in a mode, if there is one. -/
def optionReferences (mode : ReferenceMode) : Option Expr → List String
  | none => []
  | some expr => expr.references mode

end

end OpenApiClient
