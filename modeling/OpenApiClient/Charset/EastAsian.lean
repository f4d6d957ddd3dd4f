import OpenApiClient.Charset.Reading
import OpenApiClient.Charset.Table.EastAsia

/-!
# East Asian character sets

Sets in which most characters have two bytes or more.
-/

namespace OpenApiClient.Charset.Japanese

/-! ## Japanese character sets -/

/-- The two editions of the set with two planes. -/
inductive Edition where
  | of2000
  | of2004
  deriving DecidableEq, Repr

def codeOf (row column : Nat) : Nat := (row + 0x21) * 256 + (column + 0x21)

/-- The syllable of half the width that a byte stands for. -/
def halfWidth? (byte : UInt8) : Option Char :=
  if 0xa1 ≤ byte && byte ≤ 0xdf then some (Char.ofNat (0xfec0 + byte.toNat)) else none

/-! ### Two planes -/

def isLater (edition : Edition) (code : Nat) : Bool :=
  edition = .of2000 && Table.firstPlaneLater.contains code

def firstPlaneChars? (edition : Edition) (code : Nat) : Option (List Char) :=
  if isLater edition code then none
  else
    Table.firstPlanePairs.lookup code <|>
      (Table.japanese.char? code <|> Table.firstPlane.char? code).map ([·])

def readFirstPlane (edition : Edition) (code : Nat) : Reading Unit :=
  if isLater edition code then .illegal 2 else .ofChars? 2 (firstPlaneChars? edition code)

def secondPlaneChar? (edition : Edition) (code : Nat) : Option Char :=
  if edition = .of2000 && code = 0x7d3b then some '鬝' else Table.secondPlane.char? code

/-! ### Codes with their highest bits set -/

/-- A code without its highest bits, if both are set. -/
def lowCode? (code : Nat) : Option Nat :=
  if 0x80 ≤ code / 256 && 0x80 ≤ code % 256 then some (code - 0x8080) else none

/-- Reads codes with their highest bits set. Syllables of half the width, and the codes of a second
set, follow a byte that says so. -/
def readEuc (read : Nat → Reading Unit) (other? : Nat → Option Char) (_ : Unit) :
    List UInt8 → Reading Unit
  | 0x8e :: rest =>
    match rest with
    | [] => .incomplete
    | second :: _ => .ofDouble? (halfWidth? second)
  | 0x8f :: rest =>
    match rest with
    | second :: third :: _ =>
      .ofChars? 3 ((lowCode? (second.toNat * 256 + third.toNat)).bind fun code =>
        (other? code).map ([·]))
    | _ => .incomplete
  | bytes => readDouble (fun code => ((lowCode? code).map read).getD (.illegal 1)) () bytes

def readEucBasic : Unit → List UInt8 → Reading Unit :=
  readEuc (fun code => .ofDouble? (Table.japanese.char? code)) Table.japaneseSupplement.char?

/-- Reads the set with two planes, and the supplement where the second plane is free. -/
def readEucPlanes (edition : Edition) : Unit → List UInt8 → Reading Unit :=
  readEuc (readFirstPlane edition) fun code =>
    secondPlaneChar? edition code <|> Table.japaneseSupplement.char? code

/-! ### Shifted codes -/

def shiftedPlace? (code : Nat) : Option (Nat × Nat) :=
  let lead := code / 256
  let trail := code % 256
  if ((0x81 ≤ lead && lead ≤ 0x9f) || (0xe0 ≤ lead && lead ≤ 0xfc)) &&
      0x40 ≤ trail && trail ≠ 0x7f && trail ≤ 0xfc then
    let rows := if lead < 0xe0 then 2 * (lead - 0x81) else 2 * (lead - 0xc1)
    let index := if trail < 0x80 then trail - 0x40 else trail - 0x41
    some (rows + index / 94, index % 94)
  else none

/-- The character of a shifted code in the basic set. -/
def shiftedChar? (code : Nat) : Option Char := do
  let (row, column) ← shiftedPlace? code
  Table.japanese.char? (codeOf row column)

/-- The character of a single byte in the basic set. -/
def single? (byte : UInt8) : Option Char :=
  if byte < 0x80 then some (byteChar byte) else halfWidth? byte

def readShiftedBasic : Unit → List UInt8 → Reading Unit :=
  readCodes single? fun code => .ofDouble? (shiftedChar? code)

def windowsSingle? (byte : UInt8) : Option Char :=
  if byte ≤ 0x80 then some (byteChar byte)
  else if byte = 0xa0 then some '\uf8f0'
  else if 0xfd ≤ byte then some (Char.ofNat (0xf8f1 + byte.toNat - 0xfd))
  else halfWidth? byte

/-- The character of a code in the set of Windows, with rows for private use. -/
def windowsChar? (code : Nat) : Option Char :=
  let lead := code / 256
  Table.japaneseWindows.char? code <|>
    if lead ≤ 0xea then shiftedChar? code
    else if 0xf0 ≤ lead && lead ≤ 0xf9 then
      (shiftedPlace? code).map fun (row, column) =>
        Char.ofNat (0xe000 + (row - 94) * 94 + column)
    else none

def readShiftedWindows : Unit → List UInt8 → Reading Unit :=
  readCodes windowsSingle? fun code => .ofDouble? (windowsChar? code)

/-- A character of the Roman set, in which two signs differ from ASCII. -/
def romanChar (c : Char) : Char :=
  if c = '\\' then '¥' else if c = '~' then '‾' else c

/-- The row of the second plane that shifted codes after the first plane have. -/
def secondPlaneRow (row : Nat) : Nat :=
  if 0x67 ≤ row then row + 7
  else if 0x63 ≤ row || row = 0x5f then row - 0x37
  else row - 0x3d

def readPlanes (edition : Edition) (code : Nat) : Reading Unit :=
  if code = 0x815f then .chars ['\\'] 2 ()
  else if code = 0x81b0 then .chars ['~'] 2 ()
  else
    match shiftedPlace? code with
    | none => .illegal 1
    | some (row, column) =>
      if row < 94 then readFirstPlane edition (codeOf row column)
      else .ofDouble? (secondPlaneChar? edition (secondPlaneRow row * 256 + (column + 0x21)))

def readShiftedPlanes (edition : Edition) : Unit → List UInt8 → Reading Unit :=
  readCodes (fun byte => (single? byte).map romanChar) (readPlanes edition)

end OpenApiClient.Charset.Japanese

namespace OpenApiClient.Charset.Switched

/-! ## Sets that are switched by escapes -/

/-- The sets that can be put into slots. -/
inductive Slot where
  | ascii
  | roman
  | halfWidth
  | latin1
  | greek
  | japanese
  | supplement
  | chinese
  | korean
  | firstPlane (edition : Japanese.Edition)
  | secondPlane
  deriving DecidableEq, Repr

/-- The varieties of switched sets. -/
inductive Variety where
  | korean
  | japanese
  | japanese1
  | japanese2
  | japanese3
  | japanese2004
  | japaneseExtended
  deriving DecidableEq, Repr

/-- The sets in the slots, whether the second one is in use, and whether an escape sequence is
passed on. -/
structure State where
  first : Slot := .ascii
  second : Slot := .ascii
  third : Slot := .ascii
  isShifted : Bool := false
  isPassing : Bool := false

/-- The sets of a variety: the end of the escape sequence, and whether characters have two bytes. -/
def Variety.slots : Variety → List (Char × Bool × Slot)
  | .korean => [('C', true, .korean)]
  | .japanese => [('B', true, .japanese), ('J', false, .roman), ('@', true, .japanese)]
  | .japanese1 =>
    [('B', true, .japanese), ('D', true, .supplement), ('J', false, .roman), ('@', true, .japanese)]
  | .japanese2 =>
    [('B', true, .japanese), ('D', true, .supplement), ('C', true, .korean), ('A', true, .chinese),
     ('J', false, .roman), ('@', true, .japanese), ('A', false, .latin1), ('F', false, .greek)]
  | .japanese3 =>
    [('B', true, .japanese), ('O', true, .firstPlane .of2000), ('P', true, .secondPlane)]
  | .japanese2004 =>
    [('B', true, .japanese), ('Q', true, .firstPlane .of2004), ('P', true, .secondPlane)]
  | .japaneseExtended =>
    [('B', true, .japanese), ('D', true, .supplement), ('J', false, .roman),
     ('I', false, .halfWidth), ('@', true, .japanese)]

/-- The set that an escape sequence of a variety names. -/
def Variety.slot? (variety : Variety) (mark : Char) (isDouble : Bool) : Option Slot :=
  if mark = 'B' && !isDouble then some .ascii
  else
    (variety.slots.find? fun entry => entry.1 = mark && entry.2.1 = isDouble).map (·.2.2)

def Variety.hasShifts (variety : Variety) : Bool := variety = .korean

def Variety.hasThird (variety : Variety) : Bool := variety = .japanese2

/-! ### Characters -/

def Slot.width : Slot → Nat
  | .ascii | .roman | .halfWidth | .latin1 | .greek => 1
  | _ => 2

def Slot.chars? : Slot → Nat → Option (List Char)
  | .ascii, code => some [Char.ofNat code]
  | .roman, code => some [Japanese.romanChar (Char.ofNat code)]
  | .halfWidth, code => (Japanese.halfWidth? (code + 0x80).toUInt8).map ([·])
  | .latin1, _ => none
  | .greek, _ => none
  | .japanese, code => (Table.japanese.char? code).map ([·])
  | .supplement, code => (Table.japaneseSupplement.char? code).map ([·])
  | .chinese, code => (Table.gb2312.char? code).map ([·])
  | .korean, code => (Table.korean.char? code).map ([·])
  | .firstPlane edition, code =>
    if code = 0x2232 then some ['~'] else Japanese.firstPlaneChars? edition code
  | .secondPlane, code => (Table.secondPlane.char? code).map ([·])

/-- The Greek letter or the sign of a byte with its highest bit set. -/
def greekChar? (code : Nat) : Option Char :=
  if code < 0xa0 then some (Char.ofNat code)
  else if code = 0xa1 then some '‘'
  else if code = 0xa2 then some '’'
  else if code = 0xaf then some '―'
  else if [0xa0, 0xa3, 0xa6, 0xa7, 0xa8, 0xa9, 0xab, 0xac, 0xad, 0xb0, 0xb1, 0xb2, 0xb3, 0xb7, 0xbb,
      0xbd].contains code then some (Char.ofNat code)
  else if 0xb4 ≤ code && code ≤ 0xfe && code ≠ 0xd2 then some (Char.ofNat (0x02d0 + code))
  else none

def Slot.thirdChar? : Slot → UInt8 → Option Char
  | .latin1, byte => if byte < 0x80 then some (Char.ofNat (byte.toNat + 0x80)) else none
  | .greek, byte => greekChar? (byte ^^^ 0x80).toNat
  | _, byte => if byte < 0x80 then some (byteChar byte) else none

/-! ### Escape sequences -/

/-- The number of bytes that no escape sequence exceeds. -/
def escapeLimit : Nat := 16

def isEscapeEnd (byte : UInt8) : Bool := 0x40 ≤ byte && byte ≤ 0x5a

def isSlotByte (byte : UInt8) : Bool := "()$.&".toList.contains (byteChar byte)

/-- The length of an escape sequence, zero if it is too long, and nothing if its end is missing;
`position` is how much of it was read. An ampersand with an at sign may come before another
sequence. -/
def escapeLength? (hasRevision : Bool) :
    (fuel : Nat) → (position : Nat) → List UInt8 → Option Nat
  | 0, _, _ => some 0
  | fuel + 1, position, bytes =>
    if escapeLimit ≤ position then some 0
    else
      match bytes with
      | [] => none
      | byte :: rest =>
        if isEscapeEnd byte then some (position + 1)
        else if hasRevision && byte = 0x26 && rest.head? = some 0x40 then
          escapeLength? hasRevision fuel (position + 3) (rest.drop 2)
        else escapeLength? hasRevision fuel (position + 1) rest

def putSlot (variety : Variety) (state : State) (length place : Nat) (mark : Char)
    (isDouble : Bool) : Reading State :=
  match variety.slot? mark isDouble with
  | none => .illegal length
  | some slot =>
    .chars [] length
      (if place = 0 then { state with first := slot }
       else if place = 1 then { state with second := slot }
       else { state with third := slot })

/-- Reads an escape sequence that names a set. -/
def readEscape (variety : Variety) (state : State) (bytes : List UInt8) : Reading State :=
  let hasRevision := variety ≠ .korean
  match escapeLength? hasRevision escapeLimit 1 bytes.tail with
  | none => .incomplete
  | some 0 => .illegal 1
  | some length =>
    match (bytes.take length).map byteChar with
    | [_, '$', mark] => putSlot variety state 3 0 mark true
    | [_, '(', mark] => putSlot variety state 3 0 mark false
    | [_, ')', mark] => putSlot variety state 3 1 mark false
    | [_, '.', mark] =>
      if variety.hasThird then putSlot variety state 3 2 mark false else .illegal 3
    | [_, '$', '(', mark] => putSlot variety state 4 0 mark true
    | [_, '$', ')', mark] => putSlot variety state 4 1 mark true
    | [_, _, _, '\x1b', '$', 'B'] =>
      if hasRevision then putSlot variety state 6 0 'B' true else .illegal 6
    | _ => .illegal length

/-! ### Texts -/

def readSlot (state : State) (bytes : List UInt8) : Reading State :=
  let slot := if state.isShifted then state.second else state.first
  let code := (bytes.take slot.width).foldl (fun code byte => code * 256 + byte.toNat) 0
  if bytes.length < slot.width then .incomplete
  else
    match slot.chars? code with
    | some chars => .chars chars slot.width state
    | none => .illegal slot.width

/-- Reads a switched text. A new line leaves the second slot. -/
def read (variety : Variety) (state : State) : List UInt8 → Reading State
  | [] => .incomplete
  | first :: rest =>
    if state.isPassing then
      .chars [byteChar first] 1 { state with isPassing := !isEscapeEnd first }
    else if first = 0x1b then
      match rest with
      | [] => .incomplete
      | second :: others =>
        if isSlotByte second then readEscape variety state (first :: rest)
        else if variety.hasThird && second = 0x4e then
          match others with
          | [] => .incomplete
          | third :: _ =>
            match state.third.thirdChar? third with
            | some c => .chars [c] 3 state
            | none => .illegal 3
        else .chars ['\x1b'] 1 { state with isPassing := true }
    else if variety.hasShifts && first = 0x0f then .chars [] 1 { state with isShifted := false }
    else if variety.hasShifts && first = 0x0e then .chars [] 1 { state with isShifted := true }
    else if first = 0x0a then .chars ['\n'] 1 { state with isShifted := false }
    else if first < 0x20 then .chars [byteChar first] 1 state
    else if 0x80 ≤ first then .illegal 1
    else readSlot state (first :: rest)

end OpenApiClient.Charset.Switched

namespace OpenApiClient.Charset.Chinese

/-! ## Chinese character sets -/

/-! ### Mainland China -/

def gbkChar? (code : Nat) : Option Char :=
  Table.gbkExtra.char? code <|> Table.gb2312.highChar? code

def gb18030Char? (code : Nat) : Option Char :=
  gbkChar? code <|> Table.gb18030Extra.char? code

/-- Which code points of the basic plane have two bytes in GB 18030. -/
def gb18030Doubles (_ : Unit) : Array Bool :=
  let set (value : Bool) (points : Array Bool) (point : Nat) : Array Bool :=
    points.setIfInBounds point value
  let chars (table : Table) : List Nat := table.entries.map (·.2.toNat)
  let basic := (chars Table.gb2312).foldl (set true) (Array.replicate 0x10000 false)
  let replaced := Table.gbkExtra.entries.filterMap fun (code, _) => Table.gb2312.highChar? code
  let kept := (replaced.map Char.toNat).foldl (set false) basic
  (chars Table.gbkExtra ++ chars Table.gb18030Extra).foldl (set true) kept

/-- The code points of the basic plane with four bytes in GB 18030, in their order. -/
def gb18030Quads : Thunk (Array Nat) :=
  Thunk.mk fun _ =>
    let doubles := gb18030Doubles ()
    ((List.range 0x10000).filter fun point =>
      0x80 ≤ point && !(0xd800 ≤ point && point < 0xe000) && !doubles.getD point false).toArray

/-- The character of a code of four bytes in GB 18030, a number in mixed bases. -/
def gb18030Quad? (first second third fourth : UInt8) : Option Char :=
  let isHigh (byte : UInt8) : Bool := 0x81 ≤ byte && byte ≤ 0xfe
  let isDigit (byte : UInt8) : Bool := 0x30 ≤ byte && byte ≤ 0x39
  if isHigh first && isDigit second && isHigh third && isDigit fourth then
    let index := (((first.toNat - 0x81) * 10 + (second.toNat - 0x30)) * 126 +
      (third.toNat - 0x81)) * 10 + (fourth.toNat - 0x30)
    if first < 0x85 then gb18030Quads.get[index]?.map Char.ofNat
    else if 189000 ≤ index && 0x10000 + (index - 189000) ≤ 0x10ffff then
      some (Char.ofNat (0x10000 + (index - 189000)))
    else none
  else none

def readGb18030 (_ : Unit) : List UInt8 → Reading Unit
  | first :: second :: rest =>
    if 0x80 ≤ first && 0x30 ≤ second && second ≤ 0x39 then
      match rest with
      | third :: fourth :: _ =>
        .ofChars? 4 ((gb18030Quad? first second third fourth).map ([·]))
      | _ => .incomplete
    else readDouble (fun code => .ofDouble? (gb18030Char? code)) () (first :: second :: rest)
  | bytes => readDouble (fun _ => .illegal 1) () bytes

/-- Reads HZ, in which a tilde with a brace switches between ASCII and the basic set, a tilde at the
end of a line joins it with the next one, and two tildes are one. -/
def readHz (isDouble : Bool) : List UInt8 → Reading Bool
  | [] => .incomplete
  | first :: rest =>
    if first = 0x7e then
      match rest with
      | [] => .incomplete
      | second :: _ =>
        if isDouble then
          if second = 0x7d then .chars [] 2 false else .illegal 1
        else if second = 0x7e then .chars ['~'] 2 false
        else if second = 0x7b then .chars [] 2 true
        else if second = 0x0a then .chars [] 2 false
        else .illegal 1
    else if 0x80 ≤ first then .illegal 1
    else if isDouble then
      match rest with
      | [] => .incomplete
      | second :: _ =>
        match Table.gb2312.char? (first.toNat * 256 + second.toNat) with
        | some c => .chars [c] 2 true
        | none => .illegal 1
    else .chars [byteChar first] 1 false

/-! ### Taiwan and Hong Kong -/

def big5WindowsChar? (code : Nat) : Option Char :=
  Table.big5Windows.char? code <|> Table.big5.char? code

/-- The characters of a code in the Big5 of Hong Kong, some of which are a letter with a mark. -/
def hongKongChars? (code : Nat) : Option (List Char) :=
  Table.hongKongPairs.lookup code <|>
    (Table.hongKong.char? code <|>
      if 0xc6a1 ≤ code && code ≤ 0xc8fe then none else Table.big5.char? code).map ([·])

def readHongKong (code : Nat) : Reading Unit := .ofChars? 2 (hongKongChars? code)

end OpenApiClient.Charset.Chinese

namespace OpenApiClient.Charset.Korean

/-! ## Korean character sets -/

/-- The letters that are initials, in their order. -/
def initials : List Char := "ㄱㄲㄴㄷㄸㄹㅁㅂㅃㅅㅆㅇㅈㅉㅊㅋㅌㅍㅎ".toList

/-- The letters that are finals, in their order. -/
def finals : List Char := "ㄱㄲㄳㄴㄵㄶㄷㄹㄺㄻㄼㄽㄾㄿㅀㅁㅂㅄㅅㅆㅇㅈㅊㅋㅌㅍㅎ".toList

def vowel (index : Nat) : Char := Char.ofNat (0x314f + index)

/-- The syllable of an initial, a vowel and a final, where zero is none. -/
def syllable (initial vowel ending : Nat) : Char :=
  Char.ofNat (0xac00 + initial * 588 + vowel * 28 + ending)

/-! ### Syllables spelled by letters -/

/-- The consonant that a byte is inside a spelled syllable. -/
def consonant (byte : UInt8) : Char := Char.ofNat (0x3131 + byte.toNat - 0xa1)

/-- The syllable that three bytes spell, where the filler is no final. -/
def spelled? (first second third : UInt8) : Option Char := do
  let isConsonant (byte : UInt8) : Bool := 0xa1 ≤ byte && byte ≤ 0xbe
  let initial ← if isConsonant first then initials.idxOf? (consonant first) else none
  let vowel ← if 0xbf ≤ second && second ≤ 0xd3 then some (second.toNat - 0xbf) else none
  let ending ←
    if third = 0xd4 then some 0
    else if isConsonant third then (finals.idxOf? (consonant third)).map (· + 1)
    else none
  return syllable initial vowel ending

/-- Reads the standard with its highest bits set. A filler starts a syllable of three letters. -/
def readEuc (_ : Unit) : List UInt8 → Reading Unit
  | 0xa4 :: 0xd4 :: rest =>
    match rest with
    | a :: first :: b :: second :: c :: third :: _ =>
      let syllable :=
        if a = 0xa4 && b = 0xa4 && c = 0xa4 then spelled? first second third else none
      .ofChars? 8 (syllable.map ([·]))
    | _ => .incomplete
  | bytes => readDouble (fun code => .ofDouble? (Table.korean.highChar? code)) () bytes

/-! ### All syllables besides the standard -/

/-- The syllables that the standard lacks, in their order. -/
def missingSyllables : Thunk (Array Nat) :=
  Thunk.mk fun _ =>
    let points := (Table.korean.entries.map (·.2.toNat)).filter (0xac00 ≤ ·)
    let present := points.foldl (fun marks point => marks.setIfInBounds (point - 0xac00) true)
      (Array.replicate 11172 false)
    ((List.range 11172).filter (fun index => !present.getD index false)).toArray.map (0xac00 + ·)

/-- The place of a second byte among those that letters have. -/
def trailIndex? (trail : Nat) : Option Nat :=
  if 0x41 ≤ trail && trail ≤ 0x5a then some (trail - 0x41)
  else if 0x61 ≤ trail && trail ≤ 0x7a then some (trail - 0x61 + 26)
  else if 0x81 ≤ trail && trail ≤ 0xfe then some (trail - 0x81 + 52)
  else none

/-- The character of a code in the unified set: the syllables that the standard lacks fill the codes
that are left, in their order. -/
def unifiedChar? (code : Nat) : Option Char :=
  Table.korean.highChar? code <|> do
    let lead := code / 256
    let index ← trailIndex? (code % 256)
    let place ←
      if lead < 0x81 then none
      else if lead < 0xa1 then some ((lead - 0x81) * 178 + index)
      else if index < 84 then some (32 * 178 + (lead - 0xa1) * 84 + index)
      else none
    return Char.ofNat (← missingSyllables.get[place]?)

/-! ### Syllables as three numbers -/

/-- A part of a syllable in five bits: left out, or with a place. -/
inductive Part where
  | absent
  | at (index : Nat)

def initialOf? (bits : Nat) : Option Part :=
  if bits = 1 then some .absent
  else if 2 ≤ bits && bits < 21 then some (.at (bits - 2))
  else none

/-- The vowel of a code. The codes are in groups of six. -/
def vowelOf? (bits : Nat) : Option Part :=
  if bits = 2 then some .absent
  else if 3 ≤ bits && bits < 30 && 2 ≤ bits % 8 then some (.at (bits - bits / 8 * 2 - 3))
  else none

def finalOf? (bits : Nat) : Option Part :=
  if bits = 1 then some .absent
  else if 2 ≤ bits && bits < 18 then some (.at (bits - 1))
  else if 19 ≤ bits && bits < 30 then some (.at (bits - 2))
  else none

/-- The character of three parts: a syllable, a letter, or a blank. -/
def joined? : Part → Part → Part → Option Char
  | .absent, .absent, .absent => some '\u3000'
  | .absent, .absent, .at ending => finals[ending - 1]?
  | .absent, .at index, .absent => some (vowel index)
  | .at initial, .absent, .absent => initials[initial]?
  | .at initial, .at vowel, .absent => some (syllable initial vowel 0)
  | .at initial, .at vowel, .at ending => some (syllable initial vowel ending)
  | _, _, _ => none

/-- The character of a code of the standard beyond the syllables. -/
def otherChar? (lead trail : Nat) : Option Char :=
  if lead < 0xd9 || lead = 0xdf || 0xf9 < lead || trail < 0x31 ||
      (0x80 ≤ trail && trail < 0x91) || trail % 128 = 127 ||
      (lead = 0xda && 0xa1 ≤ trail && trail ≤ 0xd3) then none
  else
    let rows := if lead < 0xe0 then 2 * (lead - 0xd9) else 2 * lead - 0x197
    let index := if trail < 0x91 then trail - 0x31 else trail - 0x43
    Table.korean.char? ((rows + index / 94 + 0x21) * 256 + (index % 94 + 0x21))

/-- The character of a code of two bytes in Johab. -/
def johabChar? (code : Nat) : Option Char :=
  let lead := code / 256
  let trail := code % 256
  if lead < 0xd8 then do
    joined? (← initialOf? (lead / 4 % 32)) (← vowelOf? (lead % 4 * 8 + trail / 32))
      (← finalOf? (trail % 32))
  else otherChar? lead trail

end OpenApiClient.Charset.Korean

namespace OpenApiClient.Charset

/-! ## All sets -/

inductive EastAsian where
  | gb2312
  | gbk
  | gb18030
  | hz
  | big5
  | big5Windows
  | big5HongKong
  | eucKorean
  | unifiedHangul
  | johab
  | eucJapanese
  | eucPlanes (edition : Japanese.Edition)
  | shiftJis
  | shiftJisWindows
  | shiftJisPlanes (edition : Japanese.Edition)
  | switched (variety : Switched.Variety)
  deriving DecidableEq, Repr

namespace EastAsian

/-- Reads a text in which characters have one or two bytes. -/
def decodeDouble (char? : Nat → Option Char) (bytes : List UInt8) : Decoded :=
  readFrom (readDouble fun code => .ofDouble? (char? code)) () bytes

def decode : EastAsian → List UInt8 → Decoded
  | .gb2312, bytes => decodeDouble Table.gb2312.highChar? bytes
  | .gbk, bytes => decodeDouble Chinese.gbkChar? bytes
  | .gb18030, bytes => readFrom Chinese.readGb18030 () bytes
  | .hz, bytes => readFrom Chinese.readHz false bytes
  | .big5, bytes => decodeDouble Table.big5.char? bytes
  | .big5Windows, bytes => decodeDouble Chinese.big5WindowsChar? bytes
  | .big5HongKong, bytes => readFrom (readDouble Chinese.readHongKong) () bytes
  | .eucKorean, bytes => readFrom Korean.readEuc () bytes
  | .unifiedHangul, bytes => decodeDouble Korean.unifiedChar? bytes
  | .johab, bytes => decodeDouble Korean.johabChar? bytes
  | .eucJapanese, bytes => readFrom Japanese.readEucBasic () bytes
  | .eucPlanes edition, bytes => readFrom (Japanese.readEucPlanes edition) () bytes
  | .shiftJis, bytes => readFrom Japanese.readShiftedBasic () bytes
  | .shiftJisWindows, bytes => readFrom Japanese.readShiftedWindows () bytes
  | .shiftJisPlanes edition, bytes => readFrom (Japanese.readShiftedPlanes edition) () bytes
  | .switched variety, bytes => readFrom (Switched.read variety) {} bytes

end EastAsian

end OpenApiClient.Charset
