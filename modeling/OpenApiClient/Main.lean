import OpenApiClient.Command.Run

/-!
# The program

Looks up what a command line can make use of, runs the command, and prints and writes what it
leaves.
-/

namespace OpenApiClient.Main

open Command

def variableNames : List String :=
  ["HOME", "XDG_DATA_HOME", "NO_COLOR", "TERM"] ++ Config.fieldNames.map Config.variableName

def readVariables : IO (List (String × String)) := do
  let values ← variableNames.mapM fun name => do
    return (← IO.getEnv name).map (name, ·)
  return values.filterMap id

/-- All of the standard input. -/
partial def readInput (input : IO.FS.Stream) (read : String) : IO String := do
  let line ← input.getLine
  if line.isEmpty then return read else readInput input (read ++ line)

/-- The document and the output that an invocation names. -/
def mentioned : Invocation → Option String × Option String
  | .action _ (.generate source output _) => (some source, output)
  | .action _ (.schemas source _) => (some source, none)
  | .action _ (.endpoints source _) => (some source, none)
  | _ => (none, none)

/-- The tree with a directory, and those on the way to it. -/
def withDirectory (tree : File.Tree) (location : File.Location) : File.Tree :=
  (List.range location.length).foldl
    (fun tree count => tree.put (location.take (count + 1)) .directory) tree

/-- The tree with the file that a path leads to, if it can be read. -/
def withFile (tree : File.Tree) (path : File.Path) : IO File.Tree := do
  let .ok content ← (IO.FS.readBinFile path.text).toBaseIO | return tree
  let location := if path.isAbsolute then path.parts else tree.directory ++ path.parts
  return (withDirectory tree location.dropLast).put location (.file content.toList)

def withParent (tree : File.Tree) (path : File.Path) : File.Tree :=
  let parts := path.parent.parts
  withDirectory tree (if path.isAbsolute then parts else tree.directory ++ parts)

/-- The machine as far as an invocation can make use of it. -/
def observe (invocation : Invocation) : IO Machine := do
  let environment ← readVariables
  let directory := File.Path.parse (toString (← IO.currentDir))
  let (source, output) := mentioned invocation
  let start := withDirectory { directory := directory.parts } directory.parts
  let project ← withFile start (directory.child Config.projectFileName)
  let files ← match source with
    | some source => withFile project (File.Path.parse source)
    | none => pure project
  let target := output.bind fun output =>
    ((File.Path.parse output).expandHome (environment.lookup "HOME")).toOption
  let tree := (target.map (withParent files)).getD files
  let input ← if source = some "-" then readInput (← IO.getStdin) "" else pure ""
  return {
    sources := { tree, input, fetch := fun _ => .error "the network cannot be reached" }
    environment
    timestamp := toString (← IO.monoMsNow)
    isTerminal := ← (← IO.getStdout).isTty }

/-- Writes a file under another name and puts it in its place. -/
def writeFile (location : File.Location) (content : List UInt8) : IO Unit := do
  let path := File.Tree.locationText location
  IO.FS.createDirAll (File.Tree.locationText location.dropLast)
  let temporary := path ++ ".tmp"
  IO.FS.writeBinFile temporary (ByteArray.mk content.toArray)
  IO.FS.rename temporary path

def writeChanges (before after : File.Tree) : IO Unit :=
  after.nodes.forM fun (location, node) =>
    match node with
    | .file content =>
      if before.node? location = some node then pure () else writeFile location content
    | .directory => pure ()

def showRecord (record : Record) : IO Unit := IO.eprintln (record.level.word ++ " " ++ record.text)

/-- Carries out a command line; the result is the exit code. -/
def carryOut (words : List String) : IO UInt32 := do
  let machine ← observe (readInvocation words)
  let outcome ←
    match run machine words with
    | .ok outcome => pure outcome
    | .error fault =>
      IO.eprintln ("Error: " ++ fault.description)
      return 1
  outcome.records.forM showRecord
  try
    writeChanges machine.tree outcome.tree
  catch error =>
    IO.eprintln ("Error: " ++ toString error)
    return 1
  IO.print outcome.printed.output
  IO.eprint outcome.printed.messages
  return outcome.exitCode.toUInt32

end OpenApiClient.Main

def main (words : List String) : IO UInt32 := OpenApiClient.Main.carryOut words
