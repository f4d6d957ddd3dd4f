import OpenApiClient.Text.Halves

/-!
# The written forms of a YAML scalar

A scalar is written plainly, in quotes, or as a block of lines. But in literal blocks a single line
end between two lines of text becomes a space, and the empty lines that follow one are kept.
-/

namespace OpenApiClient.Yaml

/-! ### A place in a YAML text -/

inductive Error where
  /-- the text is not well-formed, or a node does not fit its tag -/
  | malformed (reason : String)
  /-- a number, a date or a code point that does not exist -/
  | noSuchValue
  /-- a code point of more bits than a machine integer, or a digit beyond all floating-point
  numbers -/
  | tooGreat
  /-- a word that is no truth value, tagged as one -/
  | noSuchWord
  /-- an empty text tagged as a number -/
  | noDigits
  /-- a text that is no date, tagged as one -/
  | noTimestamp
  /-- a mapping with a default value, tagged as a date -/
  | wrongKind
  /-- a collection that contains itself -/
  | endless
  deriving DecidableEq, Repr

/-- The end of the text, read as a character. -/
def endMark : Char := '\x00'

def isBreak (c : Char) : Bool :=
  c = '\r' || c = '\n' || c = '\x85' || c = '\u2028' || c = '\u2029'

def endsLine (c : Char) : Bool := c = endMark || isBreak c

/-- Whether an indicator is complete before this character. -/
def endsWord (c : Char) : Bool := endsLine c || c = ' ' || c = '\t'

/-- Whether a character may be part of a YAML text. -/
def isAllowed (c : Char) : Bool :=
  c = '\t' || c = '\n' || c = '\r' || (' ' ≤ c && c ≤ '~') || c = '\x85' ||
    ('\xa0' ≤ c && c.toNat ≤ 0xfffd) || 0x10000 ≤ c.toNat

/-- A place in a text, with the length of the whole text as a bound. -/
structure Cursor where
  rest : List Char
  length : Nat
  line : Nat := 0
  column : Nat := 0
  offset : Nat := 0
  deriving Repr

namespace Cursor

def ahead (cursor : Cursor) (n : Nat) : Char := cursor.rest.getD n endMark

def next (cursor : Cursor) : Char := cursor.ahead 0

def step (cursor : Cursor) : Cursor :=
  match cursor.rest with
  | [] => cursor
  | c :: rest =>
    let newLine := c = '\n' || c = '\x85' || c = '\u2028' || c = '\u2029' ||
      (c = '\r' && rest.head? ≠ some '\n')
    { cursor with
      rest
      line := if newLine then cursor.line + 1 else cursor.line
      column := if newLine then 0 else if c = '\ufeff' then cursor.column else cursor.column + 1
      offset := cursor.offset + 1 }

def skip (cursor : Cursor) : (n : Nat) → Cursor
  | 0 => cursor
  | n + 1 => cursor.step.skip n

/-- The longest run of characters with a property, and the place after it. -/
def takeWhile (cursor : Cursor) (property : Char → Bool) : List Char × Cursor :=
  let run := cursor.rest.takeWhile property
  (run, cursor.skip run.length)

def dropWhile (cursor : Cursor) (property : Char → Bool) : Cursor := (cursor.takeWhile property).2

def dropSpaces (cursor : Cursor) : Cursor := cursor.dropWhile (· = ' ')

def dropLine (cursor : Cursor) : Cursor := cursor.dropWhile (!endsLine ·)

/-- The line end at this place, if there is one: all but paragraph and line separators become a
newline. -/
def lineEnd (cursor : Cursor) : List Char × Cursor :=
  match cursor.rest with
  | '\r' :: '\n' :: _ => (['\n'], cursor.skip 2)
  | c :: _ =>
    if c = '\u2028' || c = '\u2029' then ([c], cursor.step)
    else if isBreak c then (['\n'], cursor.step)
    else ([], cursor)
  | [] => ([], cursor)

/-- Whether three characters and no word stand at this place. -/
def atMarker (cursor : Cursor) (c : Char) : Bool :=
  cursor.ahead 0 = c && cursor.ahead 1 = c && cursor.ahead 2 = c && endsWord (cursor.ahead 3)

def atDocumentMarker (cursor : Cursor) : Bool := cursor.atMarker '-' || cursor.atMarker '.'

/-- The place after the rest of a line without anything but a comment. -/
def dropComment (cursor : Cursor) : Except Error Cursor :=
  let cursor := cursor.dropSpaces
  let cursor := if cursor.next = '#' then cursor.dropLine else cursor
  if endsLine cursor.next then .ok cursor.lineEnd.2
  else .error (.malformed "expected a comment or a line break")

end Cursor

/-- The text for a line end and the empty lines after it. -/
def foldBreaks (lineEnd breaks : List Char) : List Char :=
  (if lineEnd ≠ ['\n'] then lineEnd else if breaks.isEmpty then [' '] else []) ++ breaks

/-! ### Quoted scalars -/

/-- The characters that one letter after a backslash stands for. -/
def escapes : List (Char × Char) :=
  [('0', '\x00'), ('a', '\x07'), ('b', '\x08'), ('t', '\t'), ('\t', '\t'), ('n', '\n'),
   ('v', '\x0b'), ('f', '\x0c'), ('r', '\r'), ('e', '\x1b'), (' ', ' '), ('"', '"'),
   ('\\', '\\'), ('/', '/'), ('N', '\x85'), ('_', '\xa0'), ('L', '\u2028'), ('P', '\u2029')]

/-- How many hexadecimal digits follow a letter after a backslash. -/
def escapeWidth? : Char → Option Nat
  | 'x' => some 2
  | 'u' => some 4
  | 'U' => some 8
  | _ => none

def digitValue? (base : Nat) (c : Char) : Option Nat := (Text.hexValue? c).filter (· < base)

def digitsValue? (base : Nat) (digits : List Char) : Option Nat :=
  digits.foldlM (fun n c => (digitValue? base c).map (n * base + ·)) 0

def charOf (point : Nat) : Except Error Char :=
  if point ≤ 0x10ffff then .ok (Char.ofNat point)
  else if point ≤ 0x7fffffff then .error .noSuchValue
  else .error .tooGreat

/-- The empty lines and blanks before the next line of a quoted scalar. -/
def quotedBreaks : (fuel : Nat) → Cursor → Except Error (List Char × Cursor)
  | 0, cursor => .ok ([], cursor)
  | fuel + 1, cursor => do
    if cursor.atDocumentMarker then throw (.malformed "found unexpected document separator")
    let cursor := cursor.dropWhile fun c => c = ' ' || c = '\t'
    if isBreak cursor.next then
      let (lineEnd, cursor) := cursor.lineEnd
      let (more, cursor) ← quotedBreaks fuel cursor
      return (lineEnd ++ more, cursor)
    else return ([], cursor)

/-- The blanks at this place of a quoted scalar, folded at a line end. -/
def quotedBlanks (cursor : Cursor) : Except Error (List Char × Cursor) := do
  let (blanks, cursor) := cursor.takeWhile fun c => c = ' ' || c = '\t'
  if cursor.next = endMark then throw (.malformed "found unexpected end of stream")
  if isBreak cursor.next then
    let (lineEnd, cursor) := cursor.lineEnd
    let (breaks, cursor) ← quotedBreaks (cursor.length + 1) cursor
    return (foldBreaks lineEnd breaks, cursor)
  return (blanks, cursor)

def escapedPoint (width : Nat) (cursor : Cursor) : Except Error (Nat × Cursor) :=
  let digits := cursor.step.rest.take width
  match digitsValue? 16 digits with
  | some point =>
    if digits.length = width then .ok (point, cursor.skip (width + 1))
    else .error (.malformed "expected an escape sequence of hexadecimal numbers")
  | none => .error (.malformed "expected an escape sequence of hexadecimal numbers")

/-- The second half of a character, if its escape follows, and the place after it. -/
def trailingHalf? (cursor : Cursor) : Option (Nat × Cursor) :=
  if cursor.next = '\\' && cursor.ahead 1 = 'u' then
    match escapedPoint 4 cursor.step with
    | .ok (point, cursor) => if Text.isTrailingHalf point then some (point, cursor) else none
    | .error _ => none
  else none

/-- The character of an escape with hexadecimal digits, perhaps with a second one. -/
def escapedChar (width : Nat) (cursor : Cursor) : Except Error (Char × Cursor) := do
  let (point, cursor) ← escapedPoint width cursor
  if Text.isLeadingHalf point then
    if let some (trailing, cursor) := trailingHalf? cursor then
      return (Text.joinHalves point trailing, cursor)
  return (← charOf point, cursor)

def quotedEscape (cursor : Cursor) : Except Error (List Char × Cursor) := do
  let c := cursor.next
  if let some escaped := escapes.lookup c then return ([escaped], cursor.step)
  if let some width := escapeWidth? c then
    let (escaped, cursor) ← escapedChar width cursor
    return ([escaped], cursor)
  if isBreak c then
    let (_, cursor) := cursor.lineEnd
    quotedBreaks (cursor.length + 1) cursor
  else throw (.malformed "found unknown escape character")

/-- Whether a character needs attention inside quotes. -/
def stopsQuoted (c : Char) : Bool := c = '\'' || c = '"' || c = '\\' || endsWord c

/-- The characters of a quoted scalar up to its closing quote. -/
def quotedText (double : Bool) : (fuel : Nat) → Cursor → Except Error (List Char × Cursor)
  | 0, _ => .error (.malformed "found unexpected end of stream")
  | fuel + 1, cursor => do
    let (run, cursor) := cursor.takeWhile (!stopsQuoted ·)
    let continueWith (text : List Char) (cursor : Cursor) : Except Error (List Char × Cursor) := do
      let (more, cursor) ← quotedText double fuel cursor
      return (run ++ text ++ more, cursor)
    match double, cursor.next with
    | false, '\'' =>
      if cursor.ahead 1 = '\'' then continueWith ['\''] (cursor.skip 2)
      else return (run, cursor.step)
    | true, '"' => return (run, cursor.step)
    | true, '\'' => continueWith ['\''] cursor.step
    | false, '"' => continueWith ['"'] cursor.step
    | false, '\\' => continueWith ['\\'] cursor.step
    | true, '\\' =>
      let (escaped, cursor) ← quotedEscape cursor.step
      continueWith escaped cursor
    | _, _ =>
      let (blanks, cursor) ← quotedBlanks cursor
      continueWith blanks cursor

def quotedScalar (cursor : Cursor) : Except Error (List Char × Cursor) :=
  quotedText (cursor.next = '"') (cursor.length + 1) cursor.step

/-! ### Block scalars -/

/-- What happens to the line ends at the end of a block. -/
inductive Chomping where
  | strip
  | clip
  | keep
  deriving DecidableEq, Repr

/-- The chomping that an indicator asks for. -/
def chomping? : Char → Option Chomping
  | '+' => some .keep
  | '-' => some .strip
  | _ => none

/-- The indentation that a digit asks for. -/
def indentation? (c : Char) : Except Error (Option Nat) :=
  if c = '0' then .error (.malformed "expected indentation indicator in the range 1-9, but found 0")
  else .ok (digitValue? 10 c)

/-- The indicators in the header of a block, in either order. -/
def blockIndicators (cursor : Cursor) : Except Error ((Chomping × Option Nat) × Cursor) := do
  let (header, cursor) ←
    match chomping? cursor.next with
    | some chomping =>
      let cursor := cursor.step
      match ← indentation? cursor.next with
      | some indentation => pure ((chomping, some indentation), cursor.step)
      | none => pure ((chomping, none), cursor)
    | none =>
      match ← indentation? cursor.next with
      | some indentation =>
        let cursor := cursor.step
        match chomping? cursor.next with
        | some chomping => pure ((chomping, some indentation), cursor.step)
        | none => pure ((.clip, some indentation), cursor)
      | none => pure ((.clip, none), cursor)
  if cursor.next = ' ' || endsLine cursor.next then return (header, cursor)
  else throw (.malformed "expected chomping or indentation indicators")

/-- The empty lines at the start of a block, the widest indentation up to the first line of text,
and the place of that text. -/
def blockIndentation : (fuel : Nat) → (widest : Nat) → Cursor → List Char × Nat × Cursor
  | 0, widest, cursor => ([], widest, cursor)
  | fuel + 1, widest, cursor =>
    if cursor.next = ' ' then
      let cursor := cursor.step
      blockIndentation fuel (max widest cursor.column) cursor
    else if isBreak cursor.next then
      let (lineEnd, cursor) := cursor.lineEnd
      let (breaks, widest, cursor) := blockIndentation fuel widest cursor
      (lineEnd ++ breaks, widest, cursor)
    else ([], widest, cursor)

/-- The place after at most as many spaces as reach a column. -/
def dropIndent (column : Nat) (cursor : Cursor) : Cursor :=
  cursor.skip (min (column - cursor.column) (cursor.rest.takeWhile (· = ' ')).length)

/-- The empty lines before the next line of a block with an indentation. -/
def blockBreaks (indent : Nat) : (fuel : Nat) → Cursor → List Char × Cursor
  | 0, cursor => ([], cursor)
  | fuel + 1, cursor =>
    let cursor := dropIndent indent cursor
    if isBreak cursor.next then
      let (lineEnd, cursor) := cursor.lineEnd
      let (breaks, cursor) := blockBreaks indent fuel cursor
      (lineEnd ++ breaks, cursor)
    else ([], cursor)

def atBlockLine (indent : Nat) (cursor : Cursor) : Bool :=
  cursor.column = indent && cursor.next ≠ endMark

/-- Whether a line of a folded block starts with text. -/
def startsWithText (cursor : Cursor) : Bool := cursor.next ≠ ' ' && cursor.next ≠ '\t'

/-- The lines of a block from here on; `breaks` are the empty lines before. -/
def blockLines (folded : Bool) (chomping : Chomping) (indent : Nat) :
    (fuel : Nat) → (breaks : List Char) → Cursor → List Char × Cursor
  | 0, _, cursor => ([], cursor)
  | fuel + 1, breaks, cursor =>
    if atBlockLine indent cursor then
      let textual := startsWithText cursor
      let (line, cursor) := cursor.takeWhile (!endsLine ·)
      let (lineEnd, cursor) := cursor.lineEnd
      let (following, cursor) := blockBreaks indent (cursor.length + 1) cursor
      if atBlockLine indent cursor then
        let glue :=
          if folded && lineEnd = ['\n'] && textual && startsWithText cursor then
            if following.isEmpty then [' '] else []
          else lineEnd
        let (more, cursor) := blockLines folded chomping indent fuel following cursor
        (breaks ++ line ++ glue ++ more, cursor)
      else
        let tail :=
          match chomping with
          | .strip => []
          | .clip => lineEnd
          | .keep => lineEnd ++ following
        (breaks ++ line ++ tail, cursor)
    else (if chomping = .keep then breaks else [], cursor)

/-- The block scalar at this place, inside a collection with an indentation. -/
def blockScalar (folded : Bool) (parentIndent : Int) (cursor : Cursor) :
    Except Error (List Char × Cursor) := do
  let ((chomping, increment), cursor) ← blockIndicators cursor.step
  let cursor ← cursor.dropComment
  let least := (max (parentIndent + 1) 1).toNat
  let fuel := cursor.length + 1
  match increment with
  | none =>
    let (breaks, widest, cursor) := blockIndentation fuel 0 cursor
    return blockLines folded chomping (max least widest) fuel breaks cursor
  | some increment =>
    let indent := least + increment - 1
    let (breaks, cursor) := blockBreaks indent fuel cursor
    return blockLines folded chomping indent fuel breaks cursor

/-! ### Plain scalars -/

def endsPlain (inFlow : Bool) : List Char → Bool
  | [] => true
  | c :: rest =>
    let following := rest.headD endMark
    let isFlowMark (c : Char) : Bool := [',', '[', ']', '\x7b', '\x7d'].contains c
    endsWord c ||
      (c = ':' && (endsWord following || (inFlow && isFlowMark following))) ||
      (inFlow && (c = '?' || isFlowMark c))

/-- The length of the part of a plain scalar at the start, without blanks. -/
def plainLength (inFlow : Bool) : List Char → Nat
  | [] => 0
  | c :: rest => if endsPlain inFlow (c :: rest) then 0 else plainLength inFlow rest + 1

/-- The blanks and empty lines before the next line of a plain scalar, unless a document starts or
ends there. -/
def plainBreaks : (fuel : Nat) → Cursor → Option (List Char) × Cursor
  | 0, cursor => (some [], cursor)
  | fuel + 1, cursor =>
    if cursor.next = ' ' then plainBreaks fuel cursor.step
    else if isBreak cursor.next then
      let (lineEnd, cursor) := cursor.lineEnd
      if cursor.atDocumentMarker then (none, cursor)
      else
        let (breaks, cursor) := plainBreaks fuel cursor
        (breaks.map (lineEnd ++ ·), cursor)
    else (some [], cursor)

/-- The text between two parts of a plain scalar, empty at its end, and whether a line has ended. -/
def plainBlanks (cursor : Cursor) : List Char × Bool × Cursor :=
  let (blanks, cursor) := cursor.takeWhile (· = ' ')
  if isBreak cursor.next then
    let (lineEnd, cursor) := cursor.lineEnd
    if cursor.atDocumentMarker then ([], true, cursor)
    else
      match plainBreaks (cursor.length + 1) cursor with
      | (some breaks, cursor) => (foldBreaks lineEnd breaks, true, cursor)
      | (none, cursor) => ([], true, cursor)
  else (blanks, false, cursor)

/-- The parts of a plain scalar from here on after what was read, and whether it ends at the start
of a line. `blanks` is what stands before the first part. -/
def plainParts (inFlow : Bool) (indent : Int) :
    (fuel : Nat) → (blanks : List Char) → (newLine : Bool) → Cursor → List Char × Bool × Cursor
  | 0, _, newLine, cursor => ([], newLine, cursor)
  | fuel + 1, blanks, newLine, cursor =>
    let length := if cursor.next = '#' then 0 else plainLength inFlow cursor.rest
    if length = 0 then ([], newLine, cursor)
    else
      let part := cursor.rest.take length
      let (following, newLine, cursor) := plainBlanks (cursor.skip length)
      if following.isEmpty || cursor.next = '#' || (!inFlow && (cursor.column : Int) < indent) then
        (blanks ++ part, newLine, cursor)
      else
        let (more, newLine, cursor) := plainParts inFlow indent fuel following newLine cursor
        (blanks ++ part ++ more, newLine, cursor)

/-- The plain scalar at this place, and whether it ends at the start of a line. -/
def plainScalar (inFlow : Bool) (parentIndent : Int) (cursor : Cursor) :
    List Char × Bool × Cursor :=
  plainParts inFlow (parentIndent + 1) (cursor.length + 1) [] false cursor

end OpenApiClient.Yaml
