import OpenApiClient.Named
import OpenApiClient.Registry

/-!
# A registry in use

What a registry keeps while it is in use: the schemas by name, the identifier of every name, the
name of every identifier, and the references resolved so far. A reference that stands for nothing is
not remembered, because a later registration can give it a name; a name stays, so what is remembered
stays right.
-/

namespace OpenApiClient.Registry

/-- A registry with its identifiers and resolved references. -/
structure Memo where
  registry : Registry := {}
  identifiers : List (String × String) := []
  owners : List (String × String) := []
  resolved : List (String × String) := []
  deriving Repr

namespace Memo

def identifier? (memo : Memo) (name : String) : Option String := memo.identifiers.lookup name

def owner? (memo : Memo) (identifier : String) : Option String := memo.owners.lookup identifier

def register (memo : Memo) (name : String) (schema : Schema) : Except CompileError Unit × Memo :=
  if memo.registry.contains name then (.error (.duplicateDeclaration name none), memo)
  else
    let identifier := Source.identifier name
    match memo.owner? identifier with
    | some other => (.error (.duplicateDeclaration name (some other)), memo)
    | none =>
      let registry : Registry := { schemas := Named.insert memo.registry.schemas name schema }
      let identifiers := Named.insert memo.identifiers name identifier
      let owners := Named.insert memo.owners identifier name
      (.ok (), { memo with registry, identifiers, owners })

/-- Looks a reference up among the names, and remembers the name. -/
def lookUp (memo : Memo) (ref : String) : Except CompileError String × Memo :=
  match memo.registry.resolve ref with
  | .ok name => (.ok name, { memo with resolved := Named.insert memo.resolved ref name })
  | .error error => (.error error, memo)

/-- The name that a reference stands for, from memory if possible. -/
def resolve (memo : Memo) (ref : String) : Except CompileError String × Memo :=
  match memo.resolved.lookup ref with
  | some name => (.ok name, memo)
  | none => memo.lookUp ref

end Memo

end OpenApiClient.Registry
