import OpenApiClient.Packed
import OpenApiClient.Text.CharName.Listed
import OpenApiClient.Text.Halves

/-!
# Names of characters

Most names are listed; those of syllables are put together from the names of their parts, and those
of ideographs end in the code point.
-/

namespace OpenApiClient.Text.CharName

/-! ## Packed lists of names -/

open Packed

def signs : Array Char := " -:\nYAOUEIRLZSGNMPKCWVBHFDJTXQ2301456789".toList.toArray

def sign (number : UInt64) : Char := signs.getD number.toNat ' '

/-! ### Words -/

/-- A word, signs being numbers, with a number for the whole of it. -/
structure Word where
  signs : Array UInt64 := #[]
  key : UInt64 := 0

namespace Word

def push (word : Word) (number : UInt64) : Word :=
  ⟨word.signs.push number, combine word.key (number + 1)⟩

def ahead (word? : Option Word) (column : Nat) : UInt64 :=
  word?.elim 0 fun word => word.signs[column]?.elim 1 (· + 2)

/-- Whether a word is there and starts like another. -/
def isSame (word? : Option Word) (start : Word) : UInt64 :=
  (word?.any fun word => start.signs.isPrefixOf word.signs).toUInt64

def keyOf (word? : Option Word) : UInt64 := word?.elim 0 key

end Word

/-! ### Names -/

/-- A place in a list of names: the words of the two names before and of the name there, the word
there, the line and the last seven signs, the code point, and the names so far. -/
structure Place where
  earlier : Array Word := #[]
  before : Array Word := #[]
  words : Array Word := #[]
  word : Word := {}
  line : UInt64 := 0
  recent : UInt64 := 3
  point : Nat := 0
  names : List (List Char × Nat) := []

namespace Place

/-- The situations a place is in: the last signs, how the word and the name begin, and the names
before. -/
def keys (place : Place) : List UInt32 :=
  let recent := place.recent
  let word := place.word.key
  let index := place.words.size
  let column := place.word.signs.size
  let above := place.before[index]?
  let higher := place.earlier[index]?
  let ahead := Word.ahead above column
  let same := Word.isSame above place.word
  [situation 0 (recent &&& 0x3f) 0 0,
    situation 1 (recent &&& 0xfff) 0 0,
    situation 2 (recent &&& 0xffffff) 0 0,
    situation 3 recent 0 0,
    situation 4 word 0 0,
    situation 5 (Word.keyOf place.words.back?) column.toUInt64 (recent &&& 0x3f),
    situation 6 word (Word.keyOf place.words[0]?) (recent &&& 0x3f),
    situation 7 (recent &&& 0x3ffff) 0 0,
    situation 8 word (Word.keyOf above) (Word.keyOf place.before[index + 1]?),
    situation 9 place.line (Word.keyOf above) 0,
    situation 10 ahead (column * 16 + index).toUInt64 same,
    situation 11 ahead (Word.ahead higher column) (same * 2 + Word.isSame higher place.word)]

/-- The place after one more sign. -/
def next (place : Place) (number : UInt64) : Place :=
  let ⟨earlier, before, words, word, line, recent, point, names⟩ := place
  let line := combine line (number + 1)
  let following := (recent * 64 + number) &&& 0x3ffffffffff
  if sign (recent &&& 0x3f) = '\n' then
    let shared := (hexValue? (sign number)).getD 0
    ⟨earlier, before, before.take shared, word, line, following, point, names⟩
  else
    match sign number with
    | ' ' => ⟨earlier, before, words.push word, {}, line, following, point, names⟩
    | '\n' =>
      let (last, rest) := word.signs.toList.span (sign · ≠ ':')
      let words := words.push (last.foldl Word.push {})
      let name := [' '].intercalate (words.toList.map fun word => word.signs.toList.map sign)
      let gap := rest.tail.foldl (fun gap c => gap * 16 + (hexValue? (sign c)).getD 0) 0
      let distance := if rest.length = 1 then 0 else gap + 1
      ⟨before, words, #[], {}, 0, following, point + distance, (name, point) :: names⟩
    | _ => ⟨earlier, before, words, word.push number, line, following, point, names⟩

end Place

def readSign : Unpacking × Place → Unpacking × Place
  | (state, place) =>
    let index := place.words.size
    let same := Word.isSame place.before[index]? place.word
    let row := min place.word.signs.size 3 * 64
    let other := 256 + min index 15 * 2 + same.toNat
    -- signs come in four classes, with 4, 8, 16 and 32 of them
    let (size, state) := state.readFixed place.keys row other 2
    let (path, state) := Unpacking.readPath place.keys id row other (size + 2) (size + 4) state
    (state, place.next (path - ((size + 3) <<< (size + 2)) - 4).toUInt64)

def unpack (text : String) (count : Nat) : List (List Char × Nat) :=
  (Nat.repeat readSign count (.start text 288, {})).2.names

/-! ## Names by their form -/

/-! ### Syllables -/

/-- The first parts of syllables, one of which is silent. -/
def leads : List (List Char) :=
  "G GG N D DD R M B BB S SS  J JJ C K T P H".toList.splitOn ' '

def vowels : List (List Char) :=
  "A AE YA YAE EO E YEO YE O WA WAE OE YO U WEO WE WI YU EU YI I".toList.splitOn ' '

def tails : List (List Char) :=
  " G GG GS N NJ NH D L LG LM LB LS LT LP LH M B BS S SS NG J C K T P H".toList.splitOn ' '

/-- The index of the longest of some parts at the start of a text, and what follows. -/
def longestPart? (parts : List (List Char)) (text : List Char) : Option (Nat × List Char) :=
  let length := ((parts.filter (·.isPrefixOf text)).map List.length).foldl max 0
  (parts.idxOf? (text.take length)).map fun index => (index, text.drop length)

/-- The code point of the syllable whose parts a text spells. -/
def syllable? (text : List Char) : Option Nat := do
  let (lead, rest) ← longestPart? leads text
  let (vowel, rest) ← longestPart? vowels rest
  let (tail, rest) ← longestPart? tails rest
  guard rest.isEmpty
  return 0xac00 + (lead * vowels.length + vowel) * tails.length + tail

/-! ### Ideographs -/

/-- The ranges of the ideographs that many scripts share. -/
def unified : List (Nat × Nat) :=
  [(0x3400, 0x4dbf), (0x4e00, 0x9fff), (0x20000, 0x2a6df), (0x2a700, 0x2b738), (0x2b740, 0x2b81d),
   (0x2b820, 0x2cea1), (0x2ceb0, 0x2ebe0), (0x30000, 0x3134a)]

/-- The ranges of other characters whose names end in the code point, with the start of the name. -/
def coded : List (String × Nat × Nat) :=
  [("CJK COMPATIBILITY IDEOGRAPH-", 0xf900, 0xfa6d),
   ("CJK COMPATIBILITY IDEOGRAPH-", 0xfa70, 0xfad9),
   ("CJK COMPATIBILITY IDEOGRAPH-", 0x2f800, 0x2fa1d),
   ("KHITAN SMALL SCRIPT CHARACTER-", 0x18b00, 0x18cd5),
   ("NUSHU CHARACTER-", 0x1b170, 0x1b2fb)]

/-- The code point in four or five digits with capital letters. -/
def code? (text : List Char) : Option Nat :=
  if (text.length = 4 || text.length = 5) && text.all fun c => !c.isLower then
    text.foldlM (fun point c => (Text.hexValue? c).map (point * 16 + ·)) 0
  else none

/-- The code point of a shared ideograph; a zero may stand in front. -/
def ideograph? (text : List Char) : Option Nat :=
  (code? text).filter fun point => unified.any fun (first, last) => first ≤ point && point ≤ last

/-- The code point of another character whose name ends in it, in as few digits as can be. -/
def coded? (name : List Char) : Option Nat :=
  coded.findSome? fun (start, first, last) =>
    if start.toList.isPrefixOf name then
      let digits := name.drop start.length
      (code? digits).filter fun point =>
        first ≤ point && point ≤ last && (digits.length = 4 || 0xffff < point)
    else none

/-! ### Variation selectors -/

/-- The code point of the variation selector with an abbreviated number; sixteen have a place of
their own. -/
def selector? (name : List Char) : Option Nat :=
  (List.range 256).findSome? fun index =>
    if s!"VS{index + 1}".toList = name then
      some (if index < 16 then 0xfe00 + index else 0xe0100 + (index - 16))
    else none

/-! ### All names -/

def listedNames : Thunk (List (List Char × Nat)) :=
  Thunk.mk fun _ => unpack packed 384933

def listed? (name : List Char) : Option Nat :=
  match listedNames.get.lookup name with
  | some point => some point
  | none => (coded? name).or (selector? name)

/-- The code point of the character with a name. Small letters count as capitals, but in the names
of syllables and of shared ideographs. -/
def point? (name : List Char) : Option Nat :=
  let syllable := "HANGUL SYLLABLE ".toList
  let ideograph := "CJK UNIFIED IDEOGRAPH-".toList
  if syllable.isPrefixOf name then syllable? (name.drop syllable.length)
  else if ideograph.isPrefixOf name then ideograph? (name.drop ideograph.length)
  else listed? (name.map Char.toUpper)

end OpenApiClient.Text.CharName
