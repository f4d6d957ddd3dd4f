import OpenApiClient.Failure

/-!
# Files and directories

A table from locations to what is there. A location is given by the names on the way from the root,
which is always a directory.
-/

namespace OpenApiClient.File

/-! ### Paths -/

/-- What a path starts at, if it is not the working directory, and its parts. -/
structure Path where
  root : String := ""
  parts : List String := []
  deriving DecidableEq, Repr

namespace Path

/-- The root of a written path; two slashes at the start are kept. -/
def rootOf (text : List Char) : String :=
  match (text.takeWhile (· = '/')).length with
  | 0 => ""
  | 2 => "//"
  | _ => "/"

def parse (text : String) : Path where
  root := rootOf text.toList
  parts := ((text.toList.splitOn '/').map String.ofList).filter fun part =>
    part ≠ "" && part ≠ "."

def isAbsolute (path : Path) : Bool := path.root ≠ ""

def text (path : Path) : String :=
  if path.parts.isEmpty && !path.isAbsolute then "."
  else path.root ++ "/".intercalate path.parts

def name (path : Path) : String := path.parts.getLast?.getD ""

def parent (path : Path) : Path := { path with parts := path.parts.dropLast }

def child (path : Path) (part : String) : Path := { path with parts := path.parts ++ [part] }

/-- The end of a name from its last dot on, unless that is at either end. -/
def suffixOf (name : List Char) : List Char :=
  let reversed := name.reverse
  let tail := reversed.takeWhile (· ≠ '.')
  if tail.isEmpty || name.length ≤ tail.length + 1 then [] else '.' :: tail.reverse

/-- The end of the last part of a path from its last dot on. -/
def suffix (path : Path) : String := String.ofList (suffixOf path.name.toList)

/-- The home directory that a variable names, unless it starts with a tilde. -/
def home (setting : Option String) : Except Failure Path :=
  match setting with
  | none => .error (.unexpected .noHome)
  | some text =>
    let trimmed := (text.toList.reverse.dropWhile (· = '/')).reverse
    if trimmed.head? = some '~' then .error (.unexpected .noHome)
    else .ok (parse (if trimmed.isEmpty then "/" else String.ofList trimmed))

/-- The path with a tilde at its start replaced. -/
def expandHome (setting : Option String) (path : Path) : Except Failure Path :=
  match path.isAbsolute, path.parts with
  | false, "~" :: rest => do
    let home ← home setting
    return { home with parts := home.parts ++ rest }
  | false, first :: _ =>
    if first.startsWith "~" then .error (.unexpected .noHome) else .ok path
  | _, _ => .ok path

end Path

/-! ### Trees -/

/-- The names on the way from the root of all files. -/
abbrev Location := List String

inductive Node where
  | directory
  | file (content : List UInt8)
  deriving DecidableEq, Repr

/-- Files and directories, with the directory where paths start. -/
structure Tree where
  nodes : List (Location × Node) := []
  directory : Location := []
  deriving Repr

def nameLimit : Nat := 255

/-- The number of bytes that a path does not reach. -/
def pathLimit : Nat := 4096

namespace Tree

def node? (tree : Tree) (location : Location) : Option Node :=
  if location.isEmpty then some .directory else tree.nodes.lookup location

def put (tree : Tree) (location : Location) (node : Node) : Tree :=
  { tree with nodes := (location, node) :: tree.nodes.filter (·.1 ≠ location) }

def remove (tree : Tree) (location : Location) : Tree :=
  { tree with nodes := tree.nodes.filter (·.1 ≠ location) }

/-- The tree with a file, and all directories on the way to it. -/
def addFile (tree : Tree) (location : Location) (content : List UInt8) : Tree :=
  let directories := (List.range location.length).map (location.take ·)
  (directories.foldl (fun tree directory => tree.put directory .directory) tree).put location
    (.file content)

/-- The location that the parts of a path lead to, through directories whose names are not too long.
-/
def walk (tree : Tree) : (parts : List String) → (location : Location) → Except AccessFault Location
  | [], location => .ok location
  | part :: rest, location =>
    match tree.node? location with
    | none => .error .missing
    | some (.file _) => .error .notDirectory
    | some .directory =>
      if nameLimit < part.utf8ByteSize then .error .tooLong
      else tree.walk rest (if part = ".." then location.dropLast else location ++ [part])

def locate (tree : Tree) (path : Path) : Except AccessFault Location :=
  if pathLimit ≤ path.text.utf8ByteSize then .error .tooLong
  else tree.walk path.parts (if path.isAbsolute then [] else tree.directory)

/-- What a path leads to, if anything; one that is too long is a fault. -/
def at? (tree : Tree) (path : Path) : Except AccessFault (Option Node) :=
  match tree.locate path with
  | .ok location => .ok (tree.node? location)
  | .error .tooLong => .error .tooLong
  | .error _ => .ok none

/-- The content of a file, which has no null character in its name. -/
def content? (tree : Tree) (path : Path) : Except AccessFault (Option (List UInt8)) :=
  if path.text.toList.contains '\x00' then .ok none
  else do
    match ← tree.at? path with
    | some (.file content) => return some content
    | _ => return none

end Tree

/-- A change to the files, which may break off with some of it done. -/
abbrev Change := ExceptT AccessFault (StateM Tree)

namespace Change

def locate (path : Path) : Change Location := do
  match (← get).locate path with
  | .ok location => return location
  | .error fault => throw fault

def isDirectory (path : Path) : Change Bool := do
  match (← get).at? path with
  | .ok node => return node = some .directory
  | .error fault => throw fault

/-- Makes a directory, where nothing is yet. -/
def makeDirectory (path : Path) : Change Unit := do
  let location ← locate path
  if ((← get).node? location).isSome then throw .present
  modify (·.put location .directory)

/-- Makes a directory, unless there is one. -/
def makeOneDirectory (path : Path) : Change Unit :=
  tryCatch (makeDirectory path) fun fault => do
    if fault = .missing then throw fault
    if !(← isDirectory path) then throw fault

def makeDirectories : (fuel : Nat) → Path → Change Unit
  | 0, _ => throw .missing
  | fuel + 1, path =>
    tryCatch (makeOneDirectory path) fun fault => do
      if fault ≠ .missing || path.parts.isEmpty then throw fault
      makeDirectories fuel path.parent
      makeOneDirectory path

end Change

namespace Tree

def locationText (location : Location) : String := "/" ++ "/".intercalate location

end Tree

/-- A text with one newline for every line end. -/
def unifyLineEnds : List Char → List Char
  | [] => []
  | '\r' :: '\n' :: rest => '\n' :: unifyLineEnds rest
  | c :: rest => (if c = '\r' then '\n' else c) :: unifyLineEnds rest

def textOf (content : List UInt8) : Except Text.Utf8Error String := do
  return String.ofList (unifyLineEnds (← Text.decode content).toList)

end OpenApiClient.File
