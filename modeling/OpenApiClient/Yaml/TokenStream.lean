import OpenApiClient.Yaml.Scalar

/-!
# From text to tokens

Outside of flow collections the column of a token decides which block collections are open, and a
key is only known to be one when its colon is met. The place of every token that may turn out to be
a key is therefore remembered, one for each level of flow collections, until the line ends or the
key gets too long; when the colon comes, the tokens that open the mapping and mark the key are put
in there.

Tokens are read on demand: the first one in the queue is settled as soon as it can no longer be a
key. So a fault in the text shows exactly when the tokens before it do not tell enough.
-/

namespace OpenApiClient.Yaml

/-! ### YAML tokens -/

inductive Directive where
  | version (major : Nat)
  | handle (name expansion : String)
  | other
  deriving DecidableEq, Repr

/-- A token. Block collections start and end by indentation. -/
inductive Token where
  | directive (directive : Directive)
  | documentStart
  | documentEnd
  | streamEnd
  | blockSequenceStart
  | blockMappingStart
  | blockEnd
  | flowSequenceStart
  | flowSequenceEnd
  | flowMappingStart
  | flowMappingEnd
  | blockEntry
  | flowEntry
  | key
  | value
  | aliasOf (name : String)
  | anchor (name : String)
  | tag (handle : Option String) (suffix : String)
  | scalar (text : String) (plain : Bool)
  deriving DecidableEq, Repr

def isNameChar (c : Char) : Bool :=
  ('0' ≤ c && c ≤ '9') || ('A' ≤ c && c ≤ 'Z') || ('a' ≤ c && c ≤ 'z') || c = '-' || c = '_'

/-- The name at this place, with one of some characters after it. -/
def scanName (endsName : Char → Bool) (cursor : Cursor) : Except Error (String × Cursor) := do
  let (name, cursor) := cursor.takeWhile isNameChar
  if name.isEmpty || !endsName cursor.next then
    throw (.malformed "expected alphabetic or numeric character")
  return (String.ofList name, cursor)

def scanAnchor (cursor : Cursor) : Except Error (String × Cursor) :=
  let endsName (c : Char) : Bool :=
    endsWord c || ['?', ':', ',', ']', '\x7d', '%', '@', '\x60'].contains c
  scanName endsName cursor.step

/-! ### Tags -/

/-- The handle of a tag: an exclamation mark, with a name and a second mark if no space follows. -/
def scanHandle (cursor : Cursor) : Except Error (String × Cursor) := do
  if cursor.next ≠ '!' then throw (.malformed "expected '!'")
  if cursor.ahead 1 = ' ' then return ("!", cursor.step)
  let (name, cursor) := cursor.step.takeWhile isNameChar
  if cursor.next ≠ '!' then throw (.malformed "expected '!'")
  return (String.ofList ('!' :: name ++ ['!']), cursor.step)

def isResourceChar (c : Char) : Bool :=
  isNameChar c || (";/?:@&=+$,.!~*'()[]%".toList).contains c

/-- The bytes of a resource identifier, some after percent signs. -/
def resourceBytes? : List Char → Option (List UInt8)
  | [] => some []
  | '%' :: a :: b :: rest => do
    let high ← digitValue? 16 a
    let low ← digitValue? 16 b
    return (high * 16 + low).toUInt8 :: (← resourceBytes? rest)
  | '%' :: _ => none
  | c :: rest => do return c.toNat.toUInt8 :: (← resourceBytes? rest)

def scanResource (cursor : Cursor) : Except Error (String × Cursor) := do
  let (resource, cursor) := cursor.takeWhile isResourceChar
  if resource.isEmpty then throw (.malformed "expected URI")
  let some bytes := resourceBytes? resource | throw (.malformed "expected URI escape sequence")
  let some text := String.fromUTF8? ⟨bytes.toArray⟩
    | throw (.malformed "invalid URI escape sequence")
  return (text, cursor)

/-- Whether the tag here has a handle: a mark before the next blank. -/
def hasHandle (cursor : Cursor) : Bool :=
  (cursor.step.rest.takeWhile fun c => c ≠ ' ' && !endsLine c).contains '!'

def scanTag (cursor : Cursor) : Except Error ((Option String × String) × Cursor) := do
  let (tag, cursor) ← (do
    if cursor.ahead 1 = '<' then
      let (suffix, cursor) ← scanResource (cursor.skip 2)
      if cursor.next ≠ '>' then throw (.malformed "expected '>'")
      return ((none, suffix), cursor.step)
    if endsWord (cursor.ahead 1) then return ((none, "!"), cursor.step)
    let (handle, cursor) ← if hasHandle cursor then scanHandle cursor else pure ("!", cursor.step)
    let (suffix, cursor) ← scanResource cursor
    return ((some handle, suffix), cursor) : Except Error ((Option String × String) × Cursor))
  if cursor.next = ' ' || endsLine cursor.next then return (tag, cursor)
  else throw (.malformed "expected ' ' after a tag")

/-! ### Directives -/

def scanNumber (cursor : Cursor) : Except Error (Nat × Cursor) := do
  let (digits, cursor) := cursor.takeWhile fun c => '0' ≤ c && c ≤ '9'
  if digits.isEmpty then throw (.malformed "expected a digit")
  return ((digitsValue? 10 digits).getD 0, cursor)

def endsPart (c : Char) : Bool := c = ' ' || endsLine c

def scanVersion (cursor : Cursor) : Except Error (Directive × Cursor) := do
  let (major, cursor) ← scanNumber cursor.dropSpaces
  if cursor.next ≠ '.' then throw (.malformed "expected a digit or '.'")
  let (_, cursor) ← scanNumber cursor.step
  if !endsPart cursor.next then throw (.malformed "expected a digit or ' '")
  return (.version major, cursor)

/-- The handle of a tag directive and what it stands for. -/
def scanHandleDirective (cursor : Cursor) : Except Error (Directive × Cursor) := do
  let (name, cursor) ← scanHandle cursor.dropSpaces
  if cursor.next ≠ ' ' then throw (.malformed "expected ' '")
  let (expansion, cursor) ← scanResource cursor.dropSpaces
  if !endsPart cursor.next then throw (.malformed "expected ' '")
  return (.handle name expansion, cursor)

/-- The directive at this place, with its whole line. -/
def scanDirective (cursor : Cursor) : Except Error (Directive × Cursor) := do
  let (name, cursor) ← scanName endsPart cursor.step
  let (directive, cursor) ←
    match name with
    | "YAML" => scanVersion cursor
    | "TAG" => scanHandleDirective cursor
    | _ => pure (.other, cursor.dropLine)
  return (directive, ← cursor.dropComment)

/-- A token that may be a key, by its position. It has to be one if it starts a line of the open
block mapping. -/
structure KeyCandidate where
  level : Nat
  position : Nat
  required : Bool
  line : Nat
  column : Nat
  offset : Nat

/-- The place, the number of open flow collections, the columns of the open block collections,
whether a key may start here, the candidates for keys, the tokens that are read and not taken, and
the number of those taken. -/
structure Scan where
  cursor : Cursor
  level : Nat := 0
  indent : Int := -1
  outerIndents : List Int := []
  keyAllowed : Bool := true
  candidates : List KeyCandidate := []
  queue : List Token := []
  taken : Nat := 0
  finished : Bool := false

namespace Scan

def inFlow (scan : Scan) : Bool := scan.level ≠ 0

/-- The position of the next token to be read. -/
def position (scan : Scan) : Nat := scan.taken + scan.queue.length

def push (scan : Scan) (token : Token) : Scan := { scan with queue := scan.queue ++ [token] }

def insertAt (scan : Scan) (position : Nat) (token : Token) : Scan :=
  { scan with queue := scan.queue.insertIdx (position - scan.taken) token }

def isStale (scan : Scan) (candidate : KeyCandidate) : Bool :=
  candidate.line ≠ scan.cursor.line || candidate.offset + 1024 < scan.cursor.offset

/-- Forgets the candidates with a property, unless one has to be a key. -/
def forget (scan : Scan) (property : KeyCandidate → Bool) : Except Error Scan :=
  if scan.candidates.any fun candidate => property candidate && candidate.required then
    .error (.malformed "could not find expected ':'")
  else .ok { scan with candidates := scan.candidates.filter (!property ·) }

def forgetCurrent (scan : Scan) : Except Error Scan := scan.forget (·.level = scan.level)

/-- Remembers the token at this place as a candidate, if it can be one. -/
def remember (scan : Scan) : Except Error Scan := do
  if scan.keyAllowed then
    let scan ← scan.forgetCurrent
    let candidate : KeyCandidate :=
      { level := scan.level
        position := scan.position
        required := !scan.inFlow && scan.indent = scan.cursor.column
        line := scan.cursor.line
        column := scan.cursor.column
        offset := scan.cursor.offset }
    return { scan with candidates := candidate :: scan.candidates }
  else return scan

/-- Closes the block collections to the right of a column. -/
def closeTo (scan : Scan) (column : Int) : (fuel : Nat) → Scan
  | 0 => scan
  | fuel + 1 =>
    if !scan.inFlow && column < scan.indent then
      match scan.outerIndents with
      | [] => scan
      | outer :: outerIndents =>
        ({ scan with indent := outer, outerIndents }.push .blockEnd).closeTo column fuel
    else scan

def unwind (scan : Scan) (column : Int) : Scan := scan.closeTo column scan.outerIndents.length

/-- Opens a block collection at a column with a token put in at a position, unless one that starts
there or further to the right is open. -/
def openAt (scan : Scan) (column position : Nat) (token : Token) : Scan :=
  if scan.indent < column then
    { scan.insertAt position token with
      indent := column
      outerIndents := scan.indent :: scan.outerIndents }
  else scan

/-- The place of the next token after blanks, comments and line ends. After a line end outside of
flow collections a key may start. -/
def toNextToken (scan : Scan) : (fuel : Nat) → Scan
  | 0 => scan
  | fuel + 1 =>
    let cursor := scan.cursor.dropSpaces
    let cursor := if cursor.next = '#' then cursor.dropLine else cursor
    if isBreak cursor.next then
      let keyAllowed := scan.keyAllowed || !scan.inFlow
      { scan with cursor := cursor.lineEnd.2, keyAllowed }.toNextToken fuel
    else { scan with cursor }

/-! ### One token after the other -/

def take (scan : Scan) (length : Nat) (token : Token) : Scan :=
  { scan.push token with cursor := scan.cursor.skip length }

def takeEnd (scan : Scan) : Except Error Scan := do
  let scan ← (scan.unwind (-1)).forgetCurrent
  return { scan.push .streamEnd with finished := true }

def takeDirective (scan : Scan) : Except Error Scan := do
  let scan ← (scan.unwind (-1)).forgetCurrent
  let (directive, cursor) ← scanDirective scan.cursor
  return { scan.push (.directive directive) with cursor, keyAllowed := false }

/-- The marker at the start or the end of a document. -/
def takeDocumentMarker (scan : Scan) (token : Token) : Except Error Scan := do
  let scan ← (scan.unwind (-1)).forgetCurrent
  return { scan.take 3 token with keyAllowed := false }

def takeFlowStart (scan : Scan) (token : Token) : Except Error Scan := do
  let scan ← scan.remember
  return { scan.take 1 token with level := scan.level + 1, keyAllowed := true }

def takeFlowEnd (scan : Scan) (token : Token) : Except Error Scan := do
  let scan ← scan.forgetCurrent
  return { scan.take 1 token with level := scan.level - 1, keyAllowed := false }

def takeFlowEntry (scan : Scan) : Except Error Scan := do
  let scan ← scan.forgetCurrent
  return { scan.take 1 .flowEntry with keyAllowed := true }

def takeBlockEntry (scan : Scan) : Except Error Scan := do
  if !scan.inFlow && !scan.keyAllowed then
    throw (.malformed "sequence entries are not allowed here")
  let opened :=
    if scan.inFlow then scan
    else scan.openAt scan.cursor.column scan.position .blockSequenceStart
  let scan ← opened.forgetCurrent
  return { scan.take 1 .blockEntry with keyAllowed := true }

/-- The question mark before a key. -/
def takeKey (scan : Scan) : Except Error Scan := do
  if !scan.inFlow && !scan.keyAllowed then throw (.malformed "mapping keys are not allowed here")
  let opened :=
    if scan.inFlow then scan
    else scan.openAt scan.cursor.column scan.position .blockMappingStart
  let scan ← opened.forgetCurrent
  return { scan.take 1 .key with keyAllowed := !scan.inFlow }

def takeValue (scan : Scan) : Except Error Scan := do
  match scan.candidates.find? (·.level = scan.level) with
  | some candidate =>
    let marked : Scan :=
      { scan.insertAt candidate.position .key with
        candidates := scan.candidates.filter (·.level ≠ scan.level) }
    let opened :=
      if scan.inFlow then marked
      else marked.openAt candidate.column candidate.position .blockMappingStart
    return { opened.take 1 .value with keyAllowed := false }
  | none =>
    if !scan.inFlow && !scan.keyAllowed then
      throw (.malformed "mapping values are not allowed here")
    let opened :=
      if scan.inFlow then scan
      else scan.openAt scan.cursor.column scan.position .blockMappingStart
    return { opened.take 1 .value with keyAllowed := !scan.inFlow }

/-- A token that may be a key and is read by a function of its own. -/
def takeNode {α : Type} (scan : Scan) (read : Cursor → Except Error (α × Cursor))
    (token : α → Token) : Except Error Scan := do
  let scan ← scan.remember
  let (content, cursor) ← read scan.cursor
  return { scan.push (token content) with cursor, keyAllowed := false }

def takeBlockScalar (scan : Scan) (folded : Bool) : Except Error Scan := do
  let scan ← scan.forgetCurrent
  let (text, cursor) ← blockScalar folded scan.indent scan.cursor
  return { scan.push (.scalar (String.ofList text) false) with cursor, keyAllowed := true }

def takePlain (scan : Scan) : Except Error Scan := do
  let scan ← scan.remember
  let (text, newLine, cursor) := plainScalar scan.inFlow scan.indent scan.cursor
  return { scan.push (.scalar (String.ofList text) true) with cursor, keyAllowed := newLine }

def startsPlain (scan : Scan) : Bool :=
  let c := scan.cursor.next
  let reserved := "-?:,[]\x7b\x7d#&*!|>'\"%@`".toList
  (!endsWord c && !reserved.contains c) ||
    (!endsWord (scan.cursor.ahead 1) && (c = '-' || (!scan.inFlow && (c = '?' || c = ':'))))

def atIndicator (scan : Scan) : Bool := endsWord (scan.cursor.ahead 1)

def readToken (scan : Scan) : Except Error Scan := do
  let scan := scan.toNextToken (scan.cursor.length + 1)
  let scan ← scan.forget scan.isStale
  let scan := scan.unwind scan.cursor.column
  let atLineStart := scan.cursor.column = 0
  let c := scan.cursor.next
  if c = endMark then scan.takeEnd
  else if c = '%' && atLineStart then scan.takeDirective
  else if atLineStart && scan.cursor.atMarker '-' then scan.takeDocumentMarker .documentStart
  else if atLineStart && scan.cursor.atMarker '.' then scan.takeDocumentMarker .documentEnd
  else if c = '[' then scan.takeFlowStart .flowSequenceStart
  else if c = '\x7b' then scan.takeFlowStart .flowMappingStart
  else if c = ']' then scan.takeFlowEnd .flowSequenceEnd
  else if c = '\x7d' then scan.takeFlowEnd .flowMappingEnd
  else if c = ',' then scan.takeFlowEntry
  else if c = '-' && scan.atIndicator then scan.takeBlockEntry
  else if c = '?' && (scan.inFlow || scan.atIndicator) then scan.takeKey
  else if c = ':' && (scan.inFlow || scan.atIndicator) then scan.takeValue
  else if c = '*' then scan.takeNode scanAnchor .aliasOf
  else if c = '&' then scan.takeNode scanAnchor .anchor
  else if c = '!' then scan.takeNode scanTag fun tag => .tag tag.1 tag.2
  else if c = '|' && !scan.inFlow then scan.takeBlockScalar false
  else if c = '>' && !scan.inFlow then scan.takeBlockScalar true
  else if c = '\'' || c = '"' then
    scan.takeNode quotedScalar fun text => .scalar (String.ofList text) false
  else if scan.startsPlain then scan.takePlain
  else throw (.malformed "found a character that cannot start any token")

/-- Reads tokens until the first one in the queue is settled. -/
def settle : (fuel : Nat) → Scan → Except Error Scan
  | 0, scan => .ok scan
  | fuel + 1, scan => do
    if scan.finished then return scan
    if scan.queue.isEmpty then settle fuel (← scan.readToken)
    else
      let scan ← scan.forget scan.isStale
      if scan.candidates.any (·.position = scan.taken) then settle fuel (← scan.readToken)
      else return scan

/-- The next token, with the tokens read that it takes to settle it. -/
def peek (scan : Scan) : Except Error (Token × Scan) := do
  let scan ← scan.settle (scan.cursor.length + 2)
  return (scan.queue.headD .streamEnd, scan)

/-- Goes on to the token after the next. -/
def advance (scan : Scan) : Scan :=
  { scan with queue := scan.queue.tail, taken := scan.taken + 1 }

/-- The start of a text. A byte order mark there is no part of it. -/
def start (text : List Char) : Scan :=
  let cursor : Cursor := { rest := text, length := text.length }
  { cursor := if cursor.next = '\ufeff' then cursor.step else cursor }

end Scan

end OpenApiClient.Yaml
