import OpenApiClient.Config.Fields
import OpenApiClient.File.Tree
import OpenApiClient.Source.Identifier
import OpenApiClient.Text.Digit

/-!
# The layers of a configuration

Options come from the command line, the environment and a file in the project, in this order of
precedence.
-/

namespace OpenApiClient.Config

/-! ### The project file -/

def projectFileName : String := "zodspec.json"

def projectLayer (tree : File.Tree) (directory : File.Path) : Except Failure (Option Entries) :=
  let path := directory.child projectFileName
  let invalid (reason : String) : Except Failure (Option Entries) :=
    .error (.config (.invalidProject path.text reason))
  match tree.content? path with
  | .error fault => .error (.unexpected (.noAccess fault))
  | .ok none => .ok none
  | .ok (some content) =>
    match File.textOf content with
    | .error error => invalid error.message
    | .ok text =>
      match Json.read text with
      | .error error => invalid error.message
      | .ok (.map entries) => .ok (some entries)
      | .ok _ => invalid "expected a JSON object"

/-! ### The environment -/

def variableName (field : String) : String := "ZODSPEC_" ++ field.toUpper

/-- The truth value of a variable: one of a few words, with blanks around. -/
def variableTruth? (value : String) : Option Bool :=
  let word := String.ofList (Text.lower (Text.trimBlank value.toList))
  if ["1", "true", "yes", "on"].contains word then some true
  else if ["0", "false", "no", "off"].contains word then some false
  else none

def variableValue (field value : String) : Except ConfigError Value :=
  if flagNames.contains field then
    match variableTruth? value with
    | some truth => .ok (.bool truth)
    | none => .error (.notBoolean (variableName field) value)
  else .ok (.text value)

/-- The entry for a field in the environment, unless it is empty. -/
def environmentEntry (environment : List (String × String)) (field : String) :
    Except ConfigError Entries :=
  match environment.lookup (variableName field) with
  | none => .ok []
  | some "" => .ok []
  | some value => do return [(.text field, ← variableValue field value)]

def environmentLayer (environment : List (String × String)) : Except ConfigError Entries := do
  return (← fieldNames.mapM (environmentEntry environment)).flatten

/-! ### All layers -/

/-- The options of the command line that have a value. -/
def commandLayer (options : Entries) : Entries :=
  options.filter fun
    | (_, .null) => false
    | _ => true

/-- The entries of a layer under those of a higher one. -/
def override (lower higher : Entries) : Entries :=
  higher.foldl (fun entries entry => Entries.insert entries entry.1 entry.2) lower

/-- The configuration that all layers give together. -/
def resolve (tree : File.Tree) (directory : File.Path) (environment : List (String × String))
    (options : Entries) : Except Failure Config := do
  let project ← projectLayer tree directory
  let fromEnvironment ← (environmentLayer environment).mapError .config
  let merged := override (override (project.getD []) fromEnvironment) (commandLayer options)
  match ofEntries merged with
  | .error invalid => throw (.config (.invalidFields invalid))
  | .ok config =>
    if Source.isClientName config.clientName then return config
    else throw (.config (.unusableName config.clientName))

end OpenApiClient.Config
