import OpenApiClient.Failure
import OpenApiClient.Yaml.Data

/-!
# Reading the text of a document

Unless a document is known to be YAML it is read as JSON first, and unless it is known to be JSON,
what is no JSON is read as YAML. It has to be a mapping.
-/

namespace OpenApiClient

inductive Format where
  | json
  | yaml
  deriving DecidableEq, Repr

namespace Document

def requireMapping : Value → Except Failure Entries
  | .map entries => .ok entries
  | .null => .error (.document (.notMapping "empty document"))
  | value => .error (.document (.notMapping value.kindWord))

/-- Why a YAML text has no value, together with what kept it from being JSON. -/
def yamlFailure (json : Option Json.ReadError) : Yaml.Error → Failure
  | .malformed _ => .document (.invalidText json)
  | .noSuchValue => .unexpected .noSuchValue
  | .tooGreat => .unexpected .tooGreat
  | .noSuchWord => .unexpected .noSuchKey
  | .noDigits => .unexpected .noSuchItem
  | .noTimestamp => .unexpected .noSuchForm
  | .wrongKind => .unexpected .wrongKind
  | .endless => .unexpected .endless

/-- Reads a YAML text, perhaps after an attempt to read it as JSON. -/
def readYaml (json : Option Json.ReadError) (text : String) : Except Failure Entries :=
  match Yaml.read text with
  | .ok value => requireMapping value
  | .error error => .error (yamlFailure json error)

/-- Reads a document whose format may be known. -/
def read (format : Option Format) (text : String) : Except Failure Entries :=
  if format = some .yaml then readYaml none text
  else
    match Json.read text with
    | .ok value => requireMapping value
    | .error { fault := .longInteger _, .. } => .error (.unexpected .noSuchValue)
    | .error error =>
      if format = some .json then .error (.document (.invalidJson error))
      else readYaml (some error) text

end Document

end OpenApiClient
