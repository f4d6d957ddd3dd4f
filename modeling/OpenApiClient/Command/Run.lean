import OpenApiClient.Client.Source
import OpenApiClient.Config.Layers
import OpenApiClient.Document.Source
import OpenApiClient.File.Write

/-!
# Running a command

A run takes the command line and the state of the machine, and gives what it prints, the files it
leaves and its exit code. What no part of the program expects is written to a log of its own; if
that fails too, there is nothing left to report.
-/

namespace OpenApiClient

/-! ## What a run prints -/

inductive TableFormat where
  | json
  | plain
  | rich
  deriving DecidableEq, Repr

/-- What was printed to the two outputs. -/
structure Printed where
  output : String := ""
  messages : String := ""
  deriving DecidableEq, Repr

namespace Printed

instance : Append Printed where
  append first second :=
    { output := first.output ++ second.output, messages := first.messages ++ second.messages }

end Printed

structure Console where
  format : TableFormat
  noColor : Bool
  quiet : Bool := false
  verbose : Bool := false
  deriving DecidableEq, Repr

namespace Console

/-- Whether the environment asks for no colours. -/
def colorDisabled (environment : List (String × String)) : Bool :=
  (environment.lookup "NO_COLOR").isSome || environment.lookup "TERM" = some "dumb"

/-- The console of a run. By default tables are rich on a terminal with colours and plain otherwise.
-/
def make (choice : Option TableFormat) (isTerminal : Bool) (environment : List (String × String))
    (noColor quiet verbose : Bool) : Console :=
  let noColor := noColor || colorDisabled environment
  { format := choice.getD (if isTerminal && !noColor then .rich else .plain)
    noColor, quiet, verbose }

def completeLine (text : String) : String := if text.endsWith "\n" then text else text ++ "\n"

def data (text : String) : Printed := { output := completeLine text }

def message (text : String) : Printed := { messages := text ++ "\n" }

def info (console : Console) (text : String) : Printed :=
  if console.quiet then {} else message text

def success (console : Console) (text : String) : Printed := console.info text

def warning (text : String) : Printed := message ("Warning: " ++ text)

def error (text : String) : Printed := message ("Error: " ++ text)

/-- Whether log records of a level are shown: all, warnings and errors, or only errors. -/
def shows (console : Console) : Level → Bool
  | .debug => console.verbose
  | .info => console.verbose
  | .warning => console.verbose || !console.quiet
  | .error => true

/-! ### Tables -/

/-- A record as JSON, indented by two. -/
def recordText (fields : List (String × String)) : String :=
  if fields.isEmpty then "  \x7b\x7d"
  else
    let lines := fields.map fun (name, value) =>
      "    " ++ Json.writeString name ++ ": " ++ Json.writeString value
    "  \x7b\n" ++ ",\n".intercalate lines ++ "\n  \x7d"

def recordsText (headers : List String) (rows : List (List String)) : String :=
  if rows.isEmpty then "[]"
  else
    let records := rows.map fun row => recordText (Named.ofPairs (headers.zip row))
    "[\n" ++ ",\n".intercalate records ++ "\n]"

def table (console : Console) (headers : List String) (rows : List (List String)) : Printed :=
  match console.format with
  | .json => data (recordsText headers rows)
  | _ => (headers :: rows).foldl (fun printed row => printed ++ data ("\t".intercalate row)) {}

end Console

end OpenApiClient

namespace OpenApiClient.Command

/-! ## The command line -/

/-- What an option gives. -/
inductive Setting where
  | flag (value : Bool)
  | text (value : String)
  deriving DecidableEq, Repr

/-- An option: its spellings, the key it sets, and the value that it gives if it is a flag. -/
structure OptionForm where
  long : String
  short : Option Char := none
  key : String
  flag : Option Bool := none
  deriving DecidableEq, Repr

/-- The settings in the order of the words, and the words that are no options. -/
structure Arguments where
  settings : List (String × Setting) := []
  words : List String := []
  deriving DecidableEq, Repr

namespace Arguments

/-- What a key was set to last. -/
def setting? (arguments : Arguments) (key : String) : Option Setting :=
  arguments.settings.reverse.lookup key

/-- The flag that a key was set to last. -/
def flag? (arguments : Arguments) (key : String) : Option Bool :=
  match arguments.setting? key with
  | some (.flag value) => some value
  | _ => none

def isOn (arguments : Arguments) (key : String) : Bool := (arguments.flag? key).getD false

def text? (arguments : Arguments) (key : String) : Option String :=
  match arguments.setting? key with
  | some (.text value) => some value
  | _ => none

end Arguments

/-- What one word says: settings, and the key whose value is the next word. -/
structure OptionWord where
  settings : List (String × Setting) := []
  awaiting : Option String := none

/-- What flags that share a dash say; the last one may take a value. -/
def readShort (forms : List OptionForm) : List Char → Option OptionWord
  | [] => some {}
  | letter :: rest => do
    let form ← forms.find? (·.short = some letter)
    match form.flag with
    | some value =>
      let following ← readShort forms rest
      return { following with settings := (form.key, .flag value) :: following.settings }
    | none =>
      if rest.isEmpty then return { awaiting := some form.key }
      else return { settings := [(form.key, .text (String.ofList rest))] }

def readLong (form : OptionForm) (value : Option String) : Option OptionWord :=
  match form.flag, value with
  | some flag, none => some { settings := [(form.key, .flag flag)] }
  | some _, some _ => none
  | none, some value => some { settings := [(form.key, .text value)] }
  | none, none => some { awaiting := some form.key }

/-- A word up to its first equals sign, and what follows that. -/
def splitEquals (word : List Char) : String × Option String :=
  match word.dropWhile (· ≠ '=') with
  | [] => (String.ofList word, none)
  | _ :: value => (String.ofList (word.takeWhile (· ≠ '=')), some (String.ofList value))

/-- What an option word says; nothing if there is no such option. -/
def readOption (forms : List OptionForm) (word : String) : Option OptionWord :=
  let (spelling, value) := splitEquals word.toList
  match forms.find? (·.long = spelling) with
  | some form => readLong form value
  | none => if word.startsWith "--" then none else readShort forms (word.toList.drop 1)

/-- Whether a word is an option: a dash with something after it. -/
def isOption (word : String) : Bool := word.startsWith "-" && word ≠ "-"

/-- Reads the words of a command line, if options are used as they should be. Unless they may be
mixed with other words, options end at the first of those. -/
def readWords (forms : List OptionForm) (mixed : Bool) : List String → Option Arguments
  | [] => some {}
  | word :: rest =>
    if word = "--" then some { words := rest }
    else if isOption word then do
      let read ← readOption forms word
      match read.awaiting, rest with
      | none, rest =>
        let following ← readWords forms mixed rest
        return { following with settings := read.settings ++ following.settings }
      | some key, value :: rest =>
        let following ← readWords forms mixed rest
        return { following with
          settings := read.settings ++ (key, .text value) :: following.settings }
      | some _, [] => none
    else if mixed then do
      let following ← readWords forms mixed rest
      return { following with words := word :: following.words }
    else some { words := word :: rest }

structure Globals where
  json : Bool := false
  plain : Bool := false
  noColor : Bool := false
  quiet : Bool := false
  verbose : Bool := false
  deriving DecidableEq, Repr

/-- A command; options that were not given are `null`. -/
inductive Action where
  | generate (source : String) (output : Option String) (options : Entries)
  | schemas (source : String) (showWarnings : Bool)
  | endpoints (source : String) (aliasName : Option String)
  deriving Repr

inductive Invocation where
  | version
  | help
  | misuse
  | action (globals : Globals) (action : Action)
  deriving Repr

def helpForm : OptionForm := { long := "--help", key := "help", flag := some true }

def globalForms : List OptionForm :=
  [{ long := "--version", key := "version", flag := some true },
   { long := "--json", key := "json", flag := some true },
   { long := "--plain", key := "plain", flag := some true },
   { long := "--no-color", key := "no-color", flag := some true },
   { long := "--quiet", short := some 'q', key := "quiet", flag := some true },
   { long := "--verbose", short := some 'v', key := "verbose", flag := some true },
   helpForm]

def generateForms : List OptionForm :=
  [{ long := "--output", short := some 'o', key := "output" },
   { long := "--strict-objects", key := "strict_objects", flag := some true },
   { long := "--passthrough-objects", key := "strict_objects", flag := some false },
   { long := "--defaults", key := "with_default_values", flag := some true },
   { long := "--no-defaults", key := "with_default_values", flag := some false },
   { long := "--exclude-deprecated", key := "exclude_deprecated", flag := some true },
   { long := "--include-deprecated", key := "exclude_deprecated", flag := some false },
   { long := "--export-schemas", key := "export_schemas", flag := some true },
   { long := "--no-export-schemas", key := "export_schemas", flag := some false },
   { long := "--api-name", key := "api_client_name" },
   helpForm]

def schemasForms : List OptionForm :=
  [{ long := "--warnings", short := some 'w', key := "warnings", flag := some true }, helpForm]

def endpointsForms : List OptionForm :=
  [{ long := "--alias", short := some 'a', key := "alias" }, helpForm]

/-- The value that an option of the configuration was given. -/
def optionValue (arguments : Arguments) (key : String) : Value :=
  match arguments.setting? key with
  | some (.flag value) => .bool value
  | some (.text value) => .text value
  | none => .null

def configOptions (arguments : Arguments) : Entries :=
  ["strict_objects", "with_default_values", "exclude_deprecated", "export_schemas",
   "api_client_name"].map fun key => (.text key, optionValue arguments key)

def readAction (forms : List OptionForm) (words : List String) (globals : Globals)
    (action : Arguments → String → Action) : Invocation :=
  match readWords forms true words with
  | none => .misuse
  | some arguments =>
    if arguments.isOn "help" then .help
    else
      match arguments.words with
      | [source] => .action globals (action arguments source)
      | _ => .misuse

def readInspect (words : List String) (globals : Globals) : Invocation :=
  match readWords [helpForm] false words with
  | none => .misuse
  | some arguments =>
    if arguments.isOn "help" then .help
    else
      match arguments.words with
      | "schemas" :: rest =>
        readAction schemasForms rest globals fun arguments source =>
          .schemas source (arguments.isOn "warnings")
      | "endpoints" :: rest =>
        readAction endpointsForms rest globals fun arguments source =>
          .endpoints source (arguments.text? "alias")
      | _ => .misuse

def readGlobals (arguments : Arguments) : Globals where
  json := arguments.isOn "json"
  plain := arguments.isOn "plain"
  noColor := arguments.isOn "no-color"
  quiet := arguments.isOn "quiet"
  verbose := arguments.isOn "verbose"

/-- Reads a command line. The version and the help come before all commands. -/
def readInvocation (words : List String) : Invocation :=
  match readWords globalForms false words with
  | none => .misuse
  | some arguments =>
    let globals := readGlobals arguments
    match arguments.settings.find? fun setting => setting.1 = "version" || setting.1 = "help" with
    | some (key, _) => if key = "version" then .version else .help
    | none =>
      match arguments.words with
      | "generate" :: rest =>
        readAction generateForms rest globals fun arguments source =>
          .generate source (arguments.text? "output") (configOptions arguments)
      | "inspect" :: rest => readInspect rest globals
      | _ => .misuse

/-! ## Runs -/

structure Machine where
  sources : Sources := {}
  environment : List (String × String) := []
  timestamp : String := ""
  isTerminal : Bool := false

/-- The exit code, what is printed, the files, and the log records that are shown. -/
structure Outcome where
  exitCode : Nat := 0
  printed : Printed := {}
  tree : File.Tree := {}
  records : List Record := []
  deriving Repr

namespace Machine

def tree (machine : Machine) : File.Tree := machine.sources.tree

def home? (machine : Machine) : Option String := machine.environment.lookup "HOME"

def directory (machine : Machine) : File.Path := { root := "/", parts := machine.tree.directory }

def config (machine : Machine) (options : Entries) : Except Failure Config :=
  Config.resolve machine.tree machine.directory machine.environment options

/-- The directory for the data of the program, if a home directory is known. -/
def dataDirectory? (machine : Machine) : Option File.Path := do
  let base ←
    match (machine.environment.lookup "XDG_DATA_HOME").filter (!·.isEmpty) with
    | some base => some (File.Path.parse base)
    | none =>
      (File.Path.home machine.home?).toOption.map fun home => (home.child ".local").child "share"
  return base.child "zodspec"

end Machine

/-! ### Failures -/

def writeLog (directory path : File.Path) (fault : Fault) : File.Change Unit := do
  File.Change.makeDirectories (directory.parent.parts.length + 1) directory.parent
  File.Change.makeDirectories (directory.parts.length + 1) directory
  let location ← File.Change.locate path
  modify (·.put location (.file fault.description.toUTF8.toList))

/-- The path of a log of an unexpected fault, and the files with it. -/
def crashLog (machine : Machine) (fault : Fault) : Except Fault (File.Path × File.Tree) :=
  match machine.dataDirectory? with
  | none => .error .noHome
  | some dataDirectory =>
    let directory := dataDirectory.child "logs"
    let path := directory.child ("crash-" ++ machine.timestamp ++ ".log")
    match (writeLog directory path fault).run.run machine.tree with
    | (.ok _, tree) => .ok (path, tree)
    | (.error fault, _) => .error (.noAccess fault)

def fail (machine : Machine) (failure : Failure) (records : List Record) : Except Fault Outcome :=
  let report (tree : File.Tree) (message : String) : Outcome :=
    { exitCode := failure.exitCode, printed := Console.error message, tree, records }
  match failure with
  | .unexpected fault => do
    let (path, tree) ← crashLog machine fault
    return report tree ("Unexpected error. Debug log: " ++ path.text)
  | failure => .ok (report machine.tree (failure.message?.getD ""))

/-! ### Commands -/

def loadDocument (machine : Machine) (source : String) : Run Document := do
  Document.ofRoot (← Document.load machine.sources source)

def generate (machine : Machine) (console : Console) (source : String) (output : Option String)
    (options : Entries) : Run (Printed × File.Tree) := do
  let config ← Run.of (machine.config options)
  let (compiled, client) ← Client.generated (← Document.load machine.sources source) config
  let (printed, tree) ←
    match output with
    | none => pure (Console.data client, machine.tree)
    | some path =>
      let (result, tree) := File.writeOutput machine.home? machine.tree path client
      let location ← Run.of result
      pure (console.success ("Wrote " ++ File.Tree.locationText location), tree)
  if compiled.warnings.isEmpty then return (printed, tree)
  else
    return (printed ++ console.info (toString compiled.warnings.length ++
      " warning(s); list them with 'zodspec inspect schemas --warnings " ++ source ++ "'"), tree)

/-- Texts with commas between them, or a dash if there are none. -/
def joined (texts : List String) : String :=
  if texts.isEmpty then "-" else ", ".intercalate texts

/-- A cell of a table: a dash if there is no text. -/
def cell (text : String) : String := if text.isEmpty then "-" else text

/-- The identifiers of names, in the order of the alphabet. -/
def identifierCell (compiled : Compiled) (names : List String) : String :=
  let identifiers := names.eraseDups.filterMap (compiled.identifiers.lookup ·)
  cell (", ".intercalate (identifiers.mergeSort fun a b => a ≤ b))

def schemaRow (compiled : Compiled) (declared : Declared) : List String :=
  [declared.name, declared.identifier, declared.expr.kind.word,
   joined (declared.expr.modifiers.map (·.kind.word)),
   identifierCell compiled (declared.expr.references .named),
   identifierCell compiled (declared.expr.references .lazy)]

def compileDocument (machine : Machine) (source : String) : Run Compiled := do
  let document ← loadDocument machine source
  document.compile (← Run.of (machine.config []))

def listSchemas (machine : Machine) (console : Console) (source : String) (showWarnings : Bool) :
    Run Printed := do
  let compiled ← compileDocument machine source
  let table := console.table
    ["Schema", "Identifier", "Kind", "Modifiers", "Depends on", "Lazy"]
    (compiled.declarations.map (schemaRow compiled))
  if showWarnings then
    return compiled.warnings.foldl
      (fun printed warning => printed ++ Console.warning warning.text) table
  else return table

def endpointRow (compiled : Compiled) (endpoint : Endpoint) : Run (List String) := do
  let response ← Run.of (endpoint.response.source compiled.identifiers)
  return [endpoint.method.capitals, endpoint.path, cell (endpoint.aliasName.getD ""),
    cell (", ".intercalate (endpoint.parameters.map fun parameter =>
      parameter.name ++ " (" ++ parameter.place.word ++ ")")),
    response,
    cell (", ".intercalate (endpoint.errors.map (·.status)))]

def listEndpoints (machine : Machine) (console : Console) (source : String)
    (aliasName : Option String) : Run (Printed × Nat) := do
  let compiled ← compileDocument machine source
  let endpoints := compiled.endpoints.filter fun endpoint =>
    aliasName.isNone || endpoint.aliasName = aliasName
  match aliasName, endpoints with
  | some aliasName, [] => return (Console.error ("No endpoint with alias '" ++ aliasName ++ "'"), 1)
  | _, endpoints =>
    let rows ← endpoints.mapM (endpointRow compiled)
    return (console.table ["Method", "Path", "Alias", "Parameters", "Response", "Errors"] rows, 0)

def perform (machine : Machine) (console : Console) : Action → Run (Printed × File.Tree × Nat)
  | .generate source output options => do
    let (printed, tree) ← generate machine console source output options
    return (printed, tree, 0)
  | .schemas source showWarnings => do
    return (← listSchemas machine console source showWarnings, machine.tree, 0)
  | .endpoints source aliasName => do
    let (printed, exitCode) ← listEndpoints machine console source aliasName
    return (printed, machine.tree, exitCode)

def consoleOf (machine : Machine) (globals : Globals) : Console :=
  let choice := if globals.json then some .json else if globals.plain then some .plain else none
  Console.make choice machine.isTerminal machine.environment globals.noColor globals.quiet
    globals.verbose

def versionLine : String := "zodspec 0.1.0"

def usageLines : String :=
  "Usage: zodspec [--version] [--json | --plain] [--no-color] [-q] [-v] COMMAND\n" ++
    "Commands: generate SPEC, inspect schemas SPEC, inspect endpoints SPEC\n"

/-- Runs the program; a fault if the run breaks off without a report. -/
def run (machine : Machine) (words : List String) : Except Fault Outcome :=
  let tree := machine.tree
  match readInvocation words with
  | .version => .ok { printed := Console.data versionLine, tree }
  | .help => .ok { printed := Console.data usageLines, tree }
  | .misuse => .ok { exitCode := 2, printed := { messages := usageLines }, tree }
  | .action globals action =>
    let console := consoleOf machine globals
    let (result, records) := (perform machine console action).result
    let shown := records.filter fun record => console.shows record.level
    match result with
    | .ok (printed, tree, exitCode) => .ok { exitCode, printed, tree, records := shown }
    | .error failure => fail machine failure shown

end OpenApiClient.Command
