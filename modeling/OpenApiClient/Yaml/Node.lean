import OpenApiClient.Yaml.Tag
import OpenApiClient.Yaml.TokenStream

/-!
# YAML nodes

The tokens of a text form a graph of tagged nodes, numbered as they appear. An alias stands for the
very node that its anchor names, also inside itself.
-/

namespace OpenApiClient.Yaml

/-- What a node holds, with nodes by their numbers. -/
inductive Content where
  | scalar (text : String)
  | sequence (items : List Nat)
  | mapping (pairs : List (Nat × Nat))
  deriving DecidableEq, Repr

structure Node where
  tag : Tag
  content : Content
  deriving DecidableEq, Repr

abbrev Nodes := Array Node

namespace Node

instance : Inhabited Node := ⟨{ tag := .null, content := .scalar "" }⟩

/-- The text ahead, the nodes so far, the numbers that anchors name, and the handles of tags. -/
structure Reading where
  scan : Scan
  nodes : Nodes := #[]
  anchors : List (String × Nat) := []
  handles : List (String × String) := []

abbrev Read := StateT Reading (Except Error)

def peek : Read Token := do
  let (token, scan) ← (← get).scan.peek
  modify fun reading => { reading with scan }
  return token

def advance : Read Unit := modify fun reading => { reading with scan := reading.scan.advance }

/-- Takes the next token if it is the given one. -/
def take? (token : Token) : Read Bool := do
  if (← peek) = token then
    advance
    return true
  else return false

def add (node : Node) : Read Nat := do
  let number := (← get).nodes.size
  modify fun reading => { reading with nodes := reading.nodes.push node }
  return number

def setContent (number : Nat) (content : Content) : Read Unit :=
  modify fun reading =>
    { reading with
      nodes := reading.nodes.modify number fun node => { node with content } }

/-- Adds the node where none is written. -/
def addEmpty : Read Nat := add { tag := .ofPlain "", content := .scalar "" }

/-- Whether a node may be a block collection, or a block sequence at the column of the mapping
around it. -/
inductive Place where
  | flow
  | block
  | blockEntry
  deriving DecidableEq, Repr

/-! ### Properties -/

/-- A tag as it is written: its handle and its suffix. -/
abbrev TagText := Option String × String

def tagName : TagText → Read String
  | (none, suffix) => return suffix
  | (some handle, suffix) => do
    match (← get).handles.lookup handle with
    | some expansion => return expansion ++ suffix
    | none => throw (.malformed "found undefined tag handle")

def anchor? : Read (Option String) := do
  match ← peek with
  | .anchor name =>
    advance
    return some name
  | _ => return none

def tag? : Read (Option TagText) := do
  match ← peek with
  | .tag handle suffix =>
    advance
    return some (handle, suffix)
  | _ => return none

/-- The anchor and the tag at this place, in either order. -/
def writtenProperties : Read (Option String × Option TagText) := do
  match ← anchor? with
  | some anchor => return (some anchor, ← tag?)
  | none =>
    match ← tag? with
    | some tag => return (← anchor?, some tag)
    | none => return (none, none)

/-- The anchor and the full name of the tag at this place. -/
def properties : Read (Option String × Option String) := do
  let (anchor, tag) ← writtenProperties
  return (anchor, ← tag.mapM tagName)

/-- Lets an anchor name a node. -/
def register (anchor : Option String) (number : Nat) : Read Unit := do
  if let some anchor := anchor then
    modify fun reading => { reading with anchors := (anchor, number) :: reading.anchors }

/-- Makes sure that no node has an anchor yet. -/
def requireFresh (anchor : Option String) : Read Unit := do
  if let some anchor := anchor then
    if ((← get).anchors.lookup anchor).isSome then throw (.malformed "found duplicate anchor")

/-- The tag of a scalar: without one, or with the tag `!`, the form decides, for a quoted one only
in the second case. -/
def scalarTag (tag : Option String) (text : String) (plain : Bool) : Tag :=
  match tag with
  | none => if plain then .ofPlain text else .text
  | some "!" => .ofPlain text
  | some name => .ofName name

def collectionTag (usual : Tag) : Option String → Tag
  | none => usual
  | some "!" => usual
  | some name => .ofName name

/-! ### Collections -/

/-- The node at this place, unless a token shows that it is empty. -/
def orEmpty (read : Read Nat) (stops : List Token) : Read Nat := do
  if stops.contains (← peek) then addEmpty else read

def blockItems (read : Read Nat) : (fuel : Nat) → Read (List Nat)
  | 0 => throw .endless
  | fuel + 1 => do
    if ← take? .blockEntry then
      let item ← orEmpty read [.blockEntry, .blockEnd]
      return item :: (← blockItems read fuel)
    else if ← take? .blockEnd then return []
    else throw (.malformed "expected <block end>")

/-- The entries of a block sequence at the column of the mapping around it. -/
def indentlessItems (read : Read Nat) : (fuel : Nat) → Read (List Nat)
  | 0 => throw .endless
  | fuel + 1 => do
    if ← take? .blockEntry then
      let item ← orEmpty read [.blockEntry, .key, .value, .blockEnd]
      return item :: (← indentlessItems read fuel)
    else return []

/-- The value after a key, empty if there is none. -/
def valueOf (read : Read Nat) (stops : List Token) : Read Nat := do
  if ← take? .value then orEmpty read stops else addEmpty

def blockPairs (read : Read Nat) : (fuel : Nat) → Read (List (Nat × Nat))
  | 0 => throw .endless
  | fuel + 1 => do
    if ← take? .key then
      let key ← orEmpty read [.key, .value, .blockEnd]
      let value ← valueOf read [.key, .value, .blockEnd]
      return (key, value) :: (← blockPairs read fuel)
    else if ← take? .blockEnd then return []
    else throw (.malformed "expected <block end>")

/-- Takes the comma before an entry of a flow collection. -/
def separator (first : Bool) : Read Unit := do
  if !first then
    if !(← take? .flowEntry) then throw (.malformed "expected ',' or a closing bracket")

/-- The entries of a flow sequence; a pair is a mapping of its own. -/
def flowItems (read : Read Nat) : (fuel : Nat) → (first : Bool) → Read (List Nat)
  | 0, _ => throw .endless
  | fuel + 1, first => do
    if ← take? .flowSequenceEnd then return []
    separator first
    if ← take? .key then
      let pair ← add { tag := .mapping, content := .mapping [] }
      let key ← orEmpty read [.value, .flowEntry, .flowSequenceEnd]
      let value ← valueOf read [.flowEntry, .flowSequenceEnd]
      setContent pair (.mapping [(key, value)])
      return pair :: (← flowItems read fuel false)
    else if ← take? .flowSequenceEnd then return []
    else
      let item ← read
      return item :: (← flowItems read fuel false)

/-- The pairs of a flow mapping; a key may stand alone. -/
def flowPairs (read : Read Nat) : (fuel : Nat) → (first : Bool) → Read (List (Nat × Nat))
  | 0, _ => throw .endless
  | fuel + 1, first => do
    if ← take? .flowMappingEnd then return []
    separator first
    if ← take? .key then
      let key ← orEmpty read [.value, .flowEntry, .flowMappingEnd]
      let value ← valueOf read [.flowEntry, .flowMappingEnd]
      return (key, value) :: (← flowPairs read fuel false)
    else if ← take? .flowMappingEnd then return []
    else
      let key ← read
      let value ← addEmpty
      return (key, value) :: (← flowPairs read fuel false)

/-! ### Nodes -/

def addScalar (anchor tag : Option String) (text : String) (plain : Bool) : Read Nat := do
  requireFresh anchor
  let number ← add { tag := scalarTag tag text plain, content := .scalar text }
  register anchor number
  return number

/-- Adds a sequence. The anchor names it before its items are read. -/
def addSequence (anchor tag : Option String) (items : Read (List Nat)) : Read Nat := do
  requireFresh anchor
  let number ← add { tag := collectionTag .sequence tag, content := .sequence [] }
  register anchor number
  setContent number (.sequence (← items))
  return number

/-- Adds a mapping. The anchor names it before its pairs are read. -/
def addMapping (anchor tag : Option String) (pairs : Read (List (Nat × Nat))) : Read Nat := do
  requireFresh anchor
  let number ← add { tag := collectionTag .mapping tag, content := .mapping [] }
  register anchor number
  setContent number (.mapping (← pairs))
  return number

/-- The node with properties at this place. `read` reads the nodes inside it. -/
def readContent (read : Place → Read Nat) (fuel : Nat) (place : Place)
    (anchor tag : Option String) : Read Nat := do
  match ← peek, place with
  | .blockEntry, .blockEntry => addSequence anchor tag (indentlessItems (read .block) fuel)
  | .scalar text plain, _ =>
    advance
    addScalar anchor tag text plain
  | .flowSequenceStart, _ =>
    addSequence anchor tag do
      advance
      flowItems (read .flow) fuel true
  | .flowMappingStart, _ =>
    addMapping anchor tag do
      advance
      flowPairs (read .flow) fuel true
  | token, place =>
    if token = .blockSequenceStart && place ≠ .flow then
      addSequence anchor tag do
        advance
        blockItems (read .block) fuel
    else if token = .blockMappingStart && place ≠ .flow then
      addMapping anchor tag do
        advance
        blockPairs (read .blockEntry) fuel
    else if anchor.isSome || tag.isSome then addScalar anchor tag "" true
    else throw (.malformed "expected the node content")

def ofAlias (name : String) : Read Nat := do
  match (← get).anchors.lookup name with
  | some number => return number
  | none => throw (.malformed "found undefined alias")

def read : (fuel : Nat) → Place → Read Nat
  | 0, _ => throw .endless
  | fuel + 1, place => do
    if let .aliasOf name := ← peek then
      advance
      ofAlias name
    else
      let (anchor, tag) ← properties
      readContent (read fuel) fuel place anchor tag

/-! ### Documents -/

/-- Takes the directives at this place, whose handles come first. -/
def directives : (fuel : Nat) → (version : Bool) → Read Unit
  | 0, _ => throw .endless
  | fuel + 1, version => do
    match ← peek with
    | .directive directive =>
      advance
      match directive with
      | .version major =>
        if version then throw (.malformed "found duplicate YAML directive")
        if major ≠ 1 then throw (.malformed "found incompatible YAML document")
        directives fuel true
      | .handle handle expansion =>
        if ((← get).handles.lookup handle).isSome then
          throw (.malformed "duplicate tag handle")
        modify fun reading => { reading with handles := (handle, expansion) :: reading.handles }
        directives fuel version
      | .other => directives fuel version
    | _ =>
      let usual := [("!", "!"), ("!!", Tag.commonStart)]
      modify fun reading => { reading with handles := reading.handles ++ usual }

def documentEnds : (fuel : Nat) → Read Unit
  | 0 => throw .endless
  | fuel + 1 => do if ← take? .documentEnd then documentEnds fuel

def endsDocument : Token → Bool
  | .directive _ => true
  | .documentStart => true
  | .documentEnd => true
  | .streamEnd => true
  | _ => false

/-- Makes sure that no further document starts here. -/
def requireEnd (fuel : Nat) : Read Unit := do
  documentEnds fuel
  if (← peek) ≠ .streamEnd then
    modify fun reading => { reading with handles := [] }
    directives fuel false
    let _ ← take? .documentStart
    throw (.malformed "expected a single document in the stream")

def document (fuel : Nat) : Read (Option Nat) := do
  let start ← peek
  if start = .streamEnd then return none
  directives fuel false
  let root ←
    match start with
    | .directive _ | .documentStart =>
      if !(← take? .documentStart) then throw (.malformed "expected '<document start>'")
      if endsDocument (← peek) then addEmpty else read fuel .block
    | _ => read fuel .block
  requireEnd fuel
  return some root

/-- The nodes of a text, and the number of that of its document. No path through nodes is longer
than twice the number of characters. -/
def ofText? (text : List Char) : Except Error (Nodes × Option Nat) := do
  let (root, reading) ← (document (2 * text.length + 8)).run { scan := .start text }
  return (reading.nodes, root)

end Node

end OpenApiClient.Yaml
