import OpenApiClient.Document.Pointer
import OpenApiClient.Schema.Basic
import OpenApiClient.Source.Identifier

/-!
# The named schemas

The schemas that can be referred to, in the order of their registration. No two of them share a name
or an identifier.
-/

namespace OpenApiClient

/-- The named schemas in the order in which they were registered. -/
structure Registry where
  schemas : List (String × Schema) := []
  deriving Repr

namespace Registry

def names (registry : Registry) : List String := registry.schemas.map (·.1)

def get? (registry : Registry) (name : String) : Option Schema := registry.schemas.lookup name

def contains (registry : Registry) (name : String) : Bool := registry.names.contains name

def identifiers (registry : Registry) : List (String × String) :=
  registry.names.map fun name => (name, Source.identifier name)

def owner? (registry : Registry) (identifier : String) : Option String :=
  registry.names.find? (Source.identifier · = identifier)

/-- Registers a schema under a name; both it and its identifier have to be new. -/
def register (registry : Registry) (name : String) (schema : Schema) :
    Except CompileError Registry :=
  if registry.contains name then .error (.duplicateDeclaration name none)
  else
    match registry.owner? (Source.identifier name) with
    | some other => .error (.duplicateDeclaration name (some other))
    | none => .ok { schemas := registry.schemas ++ [(name, schema)] }

def ofSchemas (schemas : List (String × Schema)) : Except CompileError Registry :=
  schemas.foldlM (fun registry (name, schema) => registry.register name schema) {}

/-! ### References -/

/-- What every reference to a named schema starts with. -/
def referenceStart : String := "#/components/schemas/"

/-- What follows one text at the start of another. -/
def after? : (start text : List Char) → Option (List Char)
  | [], text => some text
  | c :: start, d :: text => if c = d then after? start text else none
  | _ :: _, [] => none

/-- The registered name that a reference stands for. -/
def resolve (registry : Registry) (ref : String) : Except CompileError String :=
  match after? referenceStart.toList ref.toList with
  | some encoded =>
    if encoded.contains '/' then .error (.unresolvedReference ref .insideSchema)
    else
      let name := Pointer.unescape (String.ofList encoded)
      if registry.contains name then .ok name
      else .error (.unresolvedReference ref .unregistered)
  | none =>
    if (after? ['#', '/'] ref.toList).isSome then .error (.unresolvedReference ref .notSchema)
    else .error (.unresolvedReference ref .external)

end Registry

end OpenApiClient
