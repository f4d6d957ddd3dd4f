import OpenApiClient.Log

/-!
# The version of a document

Versions that start with `3.` are accepted, those after 3.1 with a warning.
-/

namespace OpenApiClient.Document

def supportedVersion (document : Entries) : Except Failure String :=
  match Entries.get? document "swagger", Entries.get? document "openapi" with
  | some swagger, _ => .error (.document (.swagger swagger.plain))
  | none, none => .error (.document .noVersion)
  | none, some .null => .error (.document .noVersion)
  | none, some value =>
    let version := value.plain
    if version.startsWith "3." then .ok version
    else .error (.document (.unsupportedVersion version))

/-- Whether a version is one of those the compiler was made for. -/
def isFamiliarVersion (version : String) : Bool :=
  version.startsWith "3.0." || version.startsWith "3.1."

def checkVersion (document : Entries) : Run String := do
  let version ← Run.of (supportedVersion document)
  if !isFamiliarVersion version then
    Run.log .warning ("OpenAPI " ++ version ++ " is newer than 3.1; compiling anyway")
  return version

end OpenApiClient.Document
