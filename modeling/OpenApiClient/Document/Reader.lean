import OpenApiClient.Document.Version
import OpenApiClient.Operation.Reader

/-!
# Reading a document

What the compiler needs of a document: a few words about the interface, the named schemas and the
operations, with the warnings that arose.
-/

namespace OpenApiClient

structure Info where
  title : String
  version : String
  description : Option String := none
  deriving DecidableEq, Repr

/-- What the compiler needs of a document. -/
structure Document where
  info : Info
  version : String
  schemas : List (String × Schema) := []
  operations : List Operation := []
  warnings : List Warning := []
  deriving Repr

namespace Document

def readInfo (root : Entries) : Reading Info := do
  let info : Entries :=
    match Entries.get? root "info" with
    | some (.map entries) => entries
    | _ => []
  let description ← Reading.description info
  return { title := ((Entries.get? info "title").getD (.text "Untitled API")).plain
           version := ((Entries.get? info "version").getD (.text "0.0.0")).plain
           description }

def schemaLocation (name : String) : String := "#/components/schemas/" ++ Pointer.escape name

def readSchemas (root : Entries) : Reading (List (String × Schema)) := do
  match (Entries.get? root "components").bind (·.get? "schemas") with
  | some (.map schemas) =>
    let pairs ← schemas.mapM fun (key, raw) => do
      return (key.plain, ← Reading.schema raw (schemaLocation key.plain))
    return Named.ofPairs pairs
  | _ => return []

/-- Reads a document. Its version is taken from it unless given. -/
def ofEntries (root : Entries) (version : Option String) : Except Failure Document :=
  let parts : Reading (Info × List (String × Schema) × List Operation) := do
    return (← readInfo root, ← readSchemas root, ← Operation.readAll root)
  let noted := parts.run
  noted.value.map fun (info, schemas, operations) =>
    { info, schemas, operations, warnings := noted.warnings
      version :=
        match version.filter (!·.isEmpty) with
        | some version => version
        | none => ((Entries.get? root "openapi").getD (.text "")).plain }

/-- Reads a document and records how much was found. -/
def extract (root : Entries) (version : Option String) : Run Document := do
  let document ← Run.of (ofEntries root version)
  Run.log .debug ("Extracted " ++ toString document.schemas.length ++ " schemas and " ++
    toString document.operations.length ++ " operations")
  return document

/-- Reads a document of a version that is supported. -/
def ofRoot (root : Entries) : Run Document := do
  let version ← checkVersion root
  extract root (some version)

end Document

end OpenApiClient
