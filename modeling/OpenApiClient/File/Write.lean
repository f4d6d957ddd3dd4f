import OpenApiClient.File.Tree

/-!
# Writing a file as a whole

A file is written under another name in the same directory and then put in the place of the old one,
so that a failure leaves the old one as it was. Each call may fail; then the file is closed, unless
that was tried, and the temporary file is removed.
-/

namespace OpenApiClient.File

/-- The calls after the temporary file was made. -/
inductive Call where
  | write
  | flush
  | sync
  | close
  | replace
  | closeAfterFailure
  | remove
  deriving DecidableEq, Repr

/-- Removes the temporary file after a failure, if the file can be closed. -/
def cleanUp (succeeds : Call → Bool) (temporary : Location) (isOpen : Bool) (tree : Tree) : Tree :=
  if isOpen && !succeeds .closeAfterFailure then tree
  else if succeeds .remove then tree.remove temporary
  else tree

/-- Writes a file through a temporary one that was made. The result is whether all went well, and
the files afterwards. -/
def writeThrough (succeeds : Call → Bool) (temporary target : Location) (content : List UInt8)
    (tree : Tree) : Bool × Tree :=
  let failed (isOpen : Bool) (tree : Tree) : Bool × Tree :=
    (false, cleanUp succeeds temporary isOpen tree)
  if !succeeds .write then failed true tree
  else if !succeeds .flush then failed true tree
  else
    -- the content reaches the file when it is flushed
    let written := tree.put temporary (.file content)
    if !succeeds .sync then failed true written
    -- a file that could not be closed is not closed again
    else if !succeeds .close then failed false written
    else if !succeeds .replace then failed false written
    else (true, (written.remove temporary).put target (.file content))

def eightDigits (n : Nat) : String :=
  let digits := Nat.toDigits 10 n
  String.ofList (List.replicate (8 - digits.length) '0' ++ digits)

/-- A name for a temporary file, fourteen bytes longer than that of the file. -/
def temporaryName (name : String) (n : Nat) : String :=
  "." ++ name ++ "." ++ eightDigits n ++ ".tmp"

/-- The first name of its kind that nothing in a directory has. -/
def freshName (tree : Tree) (directory : Location) (name : String) :
    (fuel : Nat) → (n : Nat) → String
  | 0, n => temporaryName name n
  | fuel + 1, n =>
    let candidate := temporaryName name n
    if (tree.node? (directory ++ [candidate])).isSome then
      freshName tree directory name fuel (n + 1)
    else candidate

/-- Which calls succeed on an idle machine: nothing takes the place of a directory. -/
def usualCalls (tree : Tree) (target : Location) : Call → Bool
  | .replace => tree.node? target ≠ some .directory
  | _ => true

/-- The location of a new temporary file beside a file. -/
def makeTemporary (path : Path) : Change Location := do
  let directory ← Change.locate path.parent
  let tree ← get
  let name := freshName tree directory path.name tree.nodes.length 0
  if nameLimit < name.utf8ByteSize then throw .tooLong
  let temporary := directory ++ [name]
  modify (·.put temporary (.file []))
  return temporary

/-- Writes a text to a file as a whole, and gives its location. -/
def write (path : Path) (text : String) : Change Location := do
  Change.makeDirectories (path.parts.length + 1) path.parent
  let target ← Change.locate path
  let temporary ← makeTemporary path
  let (ok, tree) := writeThrough (usualCalls (← get) target) temporary target
    text.toUTF8.toList (← get)
  set tree
  if ok then return target else throw .present

/-- Writes the output of a run, and gives the location of the file and the files afterwards. -/
def writeOutput (home? : Option String) (tree : Tree) (path text : String) :
    Except Failure Location × Tree :=
  match (Path.parse path).expandHome home? with
  | .error failure => (.error failure, tree)
  | .ok target =>
    if target.text.toList.contains '\x00' then (.error (.unexpected .noSuchValue), tree)
    else
      match (write target text).run.run tree with
      | (.ok location, tree) => (.ok location, tree)
      | (.error _, tree) => (.error (.config (.notWritable target.text)), tree)

end OpenApiClient.File
