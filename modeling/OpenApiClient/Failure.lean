import OpenApiClient.Charset.Fault
import OpenApiClient.Host.Fault
import OpenApiClient.Json.Reader
import OpenApiClient.Json.Writer
import OpenApiClient.Text.Utf8
import OpenApiClient.Value.Text

/-!
# Why a run fails

The causes that stop a run, in four families with an exit code each: the document cannot be read, it
cannot be compiled, the client cannot be written out, the configuration is not usable. Faults that
nothing expects have no wording of their own.
-/

namespace OpenApiClient

/-! ### Causes -/

inductive DocumentError where
  | noInput
  | fileNotFound (path : String)
  | fileEmpty (path : String)
  | httpStatus (status : Nat) (url : String)
  | notFetched (url reason : String)
  | invalidJson (error : Json.ReadError)
  | invalidText (json : Option Json.ReadError)
  | notMapping (kind : String)
  | swagger (version : String)
  | noVersion
  | unsupportedVersion (version : String)
  | externalReference (ref : String)
  | keyNotFound (ref key : String)
  | invalidIndex (ref index : String)
  | notNavigable (ref kind : String)
  | circularReferences (chain : List String)
  deriving DecidableEq, Repr

/-- Why a reference to a schema names none. -/
inductive ReferenceFault where
  | external
  | notSchema
  | insideSchema
  | unregistered
  deriving DecidableEq, Repr

inductive CompileError where
  | unresolvedReference (ref : String) (fault : ReferenceFault)
  | duplicateDeclaration (name : String) (existing : Option String)
  | unbrokenCycle (names : List String)
  deriving DecidableEq, Repr

inductive RenderError where
  | clientNameTaken (name : String)
  | undeclaredReference (name : Option String)
  | notLiteral (value : Value) (error : Json.WriteError)
  deriving Repr

inductive FieldFault where
  | notText
  | notEncodedText
  | notTruthWord
  | notTruthValue
  | unknownField
  deriving DecidableEq, Repr

structure InvalidField where
  field : String
  fault : FieldFault
  deriving DecidableEq, Repr

inductive ConfigError where
  | notWritable (path : String)
  | invalidProject (path reason : String)
  | notBoolean (name value : String)
  | invalidFields (fields : List InvalidField)
  | unusableName (name : String)
  deriving DecidableEq, Repr

/-- Why nothing can be done at a path. -/
inductive AccessFault where
  | missing
  | present
  | notDirectory
  | tooLong
  deriving DecidableEq, Repr

/-- What no part of the program expects. -/
inductive Fault where
  | invalidFields (fields : List InvalidField)
  | noSuchValue
  | tooGreat
  | noSuchKey
  | noSuchItem
  | noSuchForm
  | wrongKind
  | noHome
  | undecodable (error : Text.Utf8Error)
  | undecoded (fault : Charset.DecodeFault)
  | invalidAddress
  | invalidName (fault : Host.NameFault)
  | invalidHeader
  | noAccess (fault : AccessFault)
  | endless
  deriving DecidableEq, Repr

inductive Failure where
  | document (error : DocumentError)
  | compile (error : CompileError)
  | render (error : RenderError)
  | config (error : ConfigError)
  | unexpected (fault : Fault)
  deriving Repr

/-! ### Wording -/

def DocumentError.message : DocumentError → String
  | .noInput => "No input received from stdin"
  | .fileNotFound path => "Spec file not found: " ++ path
  | .fileEmpty path => "Spec file is empty: " ++ path
  | .httpStatus status url => "HTTP " ++ toString status ++ " fetching spec from " ++ url
  | .notFetched url reason => "Failed to fetch spec from " ++ url ++ ": " ++ reason
  | .invalidJson error => "Invalid JSON: " ++ error.message
  | .invalidText json =>
    "Failed to parse spec as JSON or YAML" ++
      (json.map fun error => "\n  JSON error: " ++ error.message).getD "" ++ "\n  YAML error: "
  | .notMapping kind => "Spec must be a JSON/YAML object (got " ++ kind ++ ")"
  | .swagger version =>
    "Swagger " ++ version ++ " is not supported. Only OpenAPI 3.x documents can be compiled. " ++
      "Consider converting with https://converter.swagger.io"
  | .noVersion => "Missing 'openapi' field. Is this an OpenAPI 3.x document?"
  | .unsupportedVersion version =>
    "Unsupported OpenAPI version: " ++ version ++ ". Only OpenAPI 3.x documents can be compiled."
  | .externalReference ref =>
    "External $ref not supported: " ++ ref ++ ". Only internal references (#/...) are handled."
  | .keyNotFound ref key =>
    "Cannot resolve $ref '" ++ ref ++ "': key '" ++ key ++ "' not found at path"
  | .invalidIndex ref index =>
    "Cannot resolve $ref '" ++ ref ++ "': invalid array index '" ++ index ++ "'"
  | .notNavigable ref kind =>
    "Cannot resolve $ref '" ++ ref ++ "': cannot navigate into " ++ kind
  | .circularReferences chain => "Circular component $ref chain: " ++ " -> ".intercalate chain

def ReferenceFault.message : ReferenceFault → String
  | .external => "external references are not supported"
  | .notSchema => "only #/components/schemas/<name> pointers can be referenced"
  | .insideSchema => "pointers into the body of a named schema are not supported"
  | .unregistered => "no schema is registered under that name"

namespace CompileError

def unresolvedMessage (ref reason : String) : String :=
  "Cannot resolve $ref '" ++ ref ++ "': " ++ reason

/-- The wording for a schema whose name or identifier is taken. -/
def duplicateMessage (name : String) (existing : Option String) : String :=
  match existing with
  | some other =>
    if other = name then "Schema '" ++ name ++ "' is declared more than once"
    else
      "Schema '" ++ name ++ "' collides with '" ++ other ++ "' after identifier normalisation"
  | none => "Schema '" ++ name ++ "' is declared more than once"

def message : CompileError → String
  | .unresolvedReference ref fault => unresolvedMessage ref fault.message
  | .duplicateDeclaration name existing => duplicateMessage name existing
  | .unbrokenCycle names =>
    "Unbroken reference cycle between declarations: " ++ " -> ".intercalate names

end CompileError

def RenderError.message : RenderError → String
  | .clientNameTaken name => "Client name '" ++ name ++ "' is also a schema identifier"
  | .undeclaredReference name =>
    "Reference to undeclared schema '" ++ name.getD "None" ++ "'"
  | .notLiteral value error =>
    "Cannot render " ++ value.shown ++ " as a literal: " ++ error.message

def ConfigError.message : ConfigError → String
  | .notWritable path => "Cannot write output file " ++ path
  | .invalidProject path reason => "Invalid project config at " ++ path ++ ": " ++ reason
  | .notBoolean name value =>
    "Environment variable " ++ name ++ " must be a boolean, got " ++ Text.quoted value
  | .invalidFields _ => "Invalid configuration"
  | .unusableName name =>
    "Invalid configuration: api_client_name " ++ Text.quoted name ++
      " is not a usable TypeScript identifier"

def AccessFault.description : AccessFault → String
  | .missing => "a file or directory is not there"
  | .present => "a file is there already"
  | .notDirectory => "a part of a path is no directory"
  | .tooLong => "a path is too long"

/-- What happened, for the log of a run that broke off. -/
def Fault.description : Fault → String
  | .invalidFields _ => "a record has invalid fields"
  | .noSuchValue => "a text denotes no value"
  | .tooGreat => "a number is too great"
  | .noSuchKey => "a key is not there"
  | .noSuchItem => "an item is not there"
  | .noSuchForm => "a text does not have the form it should have"
  | .wrongKind => "a value is of the wrong kind"
  | .noHome => "the home directory is not known"
  | .undecodable error => error.message
  | .undecoded fault => fault.description
  | .invalidAddress => "an address is not valid"
  | .invalidName _ => "the name of a host is not valid"
  | .invalidHeader => "a header is not valid"
  | .noAccess fault => fault.description
  | .endless => "the computation does not end"

namespace Failure

/-- The wording of a failure; an unexpected fault has none. -/
def message? : Failure → Option String
  | .document error => some error.message
  | .compile error => some error.message
  | .render error => some error.message
  | .config error => some error.message
  | .unexpected _ => none

/-- The families of failures. -/
inductive Family where
  | document
  | compile
  | render
  | config
  | unexpected
  deriving DecidableEq, Repr

def Family.exitCode : Family → Nat
  | .document => 7
  | .compile => 8
  | .render => 9
  | .config => 1
  | .unexpected => 1

def family : Failure → Family
  | .document _ => .document
  | .compile _ => .compile
  | .render _ => .render
  | .config _ => .config
  | .unexpected _ => .unexpected

def exitCode (failure : Failure) : Nat := failure.family.exitCode

end Failure

end OpenApiClient
