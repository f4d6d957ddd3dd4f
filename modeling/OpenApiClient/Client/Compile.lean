import OpenApiClient.Declaration.Order
import OpenApiClient.Document.Reader
import OpenApiClient.Endpoint.Binding

/-!
# Compiling a document

A document becomes declarations, in an order in which they can stand, and endpoints, with all
warnings.
-/

namespace OpenApiClient

/-- A named schema with the identifier it is declared under. -/
structure Declared where
  name : String
  identifier : String
  expr : Expr
  deriving Repr

structure Compiled where
  declarations : List Declared := []
  endpoints : List Endpoint := []
  warnings : List Warning := []
  deriving Repr

namespace Compiled

def identifiers (compiled : Compiled) : List (String × String) :=
  compiled.declarations.map fun declared => (declared.name, declared.identifier)

def declaration? (compiled : Compiled) (name : String) : Option Declared :=
  compiled.declarations.find? (·.name = name)

end Compiled

/-- Continues a conversion as part of a run. -/
def Run.convert {α : Type} (progress : Conversion.Progress) (action : Convert α) :
    Run (α × Conversion.Progress) := do
  let (result, reached) := StateT.run (ExceptT.run action) { progress with records := [] }
  modify (· ++ reached.records)
  match result with
  | .ok value => return (value, reached)
  | .error failure => throw failure

namespace Document

def compile (document : Document) (config : Config) : Run Compiled := do
  document.warnings.forM fun warning => Run.log .warning warning.text
  let registry ←
    match Registry.ofSchemas document.schemas with
    | .ok registry => pure registry
    | .error error => throw (.compile error)
  let settings : Conversion.Settings := { registry, config }
  let (_, declared) ← Run.convert { warnings := document.warnings }
    (registry.names.forM fun name => discard (Conversion.declare settings name {}))
  let order ← Declaration.order registry.names declared.declarations
  let (endpoints, progress) ← Run.convert declared
    (Endpoint.bindAll settings document.operations)
  Run.log .info ("Compiled " ++ toString order.length ++ " declarations and " ++
    toString endpoints.length ++ " endpoints (" ++ toString progress.warnings.length ++
    " warnings)")
  let declarations := order.filterMap fun name => do
    return { name, identifier := Source.identifier name
             expr := ← declared.declarations.lookup name }
  return { declarations, endpoints, warnings := progress.warnings }

end Document

end OpenApiClient
