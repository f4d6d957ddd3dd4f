import OpenApiClient.Host.Fault
import OpenApiClient.Text.Digit
import OpenApiClient.Text.Property
import OpenApiClient.Text.Punycode

/-!
# Host names

A host name consists of parts with points between them. In ASCII a part with other characters is
written in Punycode with a mark before it.
-/

namespace OpenApiClient.Text

/-! ## The composed normal form -/

/-! ### Characters that consist of others -/

def samePoints : Thunk (List (Nat × Nat)) :=
  Thunk.mk fun _ => Property.replaced.list.get.zip Property.replacement.list.get

/-- Code points with the two that they consist of. -/
def pairParts : Thunk (List (Nat × Nat × Nat)) :=
  Thunk.mk fun _ => Property.joined.list.get.zip
    (Property.joinedBase.list.get.zip Property.joinedMark.list.get)

/-- Code points that are not written in place of the two they consist of. -/
def neverJoined : Thunk (List Nat) := Property.neverJoined.list

/-! ### Combining characters -/

def markRanges : Thunk Ranges := Property.mark.ranges

def isMark (point : Nat) : Bool := markRanges.get.contains point

/-- Ranges of code points with the class of the marks in them. -/
def combiningClasses : Thunk (List ((Nat × Nat) × Nat)) :=
  Thunk.mk fun _ => Property.classed.ranges.get.zip Property.combiningClass.list.get

/-- The class of a mark, which is zero for what is none. -/
def combiningClass (point : Nat) : Nat :=
  let isIn := fun (entry : (Nat × Nat) × Nat) => entry.1.1 ≤ point && point ≤ entry.1.2
  ((combiningClasses.get.find? isIn).map (·.2)).getD 0

/-! ### Korean syllables -/

def firstSyllable : Nat := 0xac00

def syllableCount : Nat := 11172

/-- The initial, the vowel, and perhaps the final of a syllable. -/
def syllableParts (point : Nat) : List Nat :=
  let index := point - firstSyllable
  let ending := index % 28
  [0x1100 + index / 588, 0x1161 + index % 588 / 28] ++
    if ending = 0 then [] else [0x11a7 + ending]

/-- The syllable of an initial and a vowel, or of a syllable and a final. -/
def joinSyllable? (first second : Nat) : Option Nat :=
  if 0x1100 ≤ first && first < 0x1113 && 0x1161 ≤ second && second < 0x1176 then
    some (firstSyllable + (first - 0x1100) * 588 + (second - 0x1161) * 28)
  else if firstSyllable ≤ first && first < firstSyllable + syllableCount &&
      (first - firstSyllable) % 28 = 0 && 0x11a8 ≤ second && second < 0x11c3 then
    some (first + (second - 0x11a7))
  else none

/-! ### Taking apart and joining -/

def same? (point : Nat) : Option Nat := samePoints.get.lookup point

/-- The characters that one consists of, up to a depth. -/
def parts : (depth : Nat) → Nat → List Nat
  | 0, point => [point]
  | depth + 1, point =>
    if firstSyllable ≤ point && point < firstSyllable + syllableCount then syllableParts point
    else
      match same? point, pairParts.get.find? (·.1 = point) with
      | some other, _ => parts depth other
      | none, some (_, first, second) => parts depth first ++ parts depth second
      | none, none => [point]

/-- The depth to which characters consist of others. -/
def partsDepth : Nat := 8

/-- Adds a character to ordered ones in reverse: a mark goes before those of higher classes. -/
def addOrdered (point : Nat) : List Nat → List Nat
  | [] => [point]
  | other :: rest =>
    if 0 < combiningClass point && combiningClass point < combiningClass other then
      other :: addOrdered point rest
    else point :: other :: rest

/-- All parts of characters, with marks in order. -/
def takeApart (points : List Nat) : List Nat :=
  ((points.flatMap (parts partsDepth)).foldl (fun ordered point => addOrdered point ordered)
    []).reverse

/-- The character that two make up. -/
def join? (first second : Nat) : Option Nat :=
  joinSyllable? first second <|>
    ((pairParts.get.find? fun entry =>
      entry.2.1 = first && entry.2.2 = second && !neverJoined.get.contains entry.1).map (·.1))

/-- The character that marks are joined to, what comes before it, and the marks that are not joined,
both in reverse. -/
structure Joining where
  before : List Nat := []
  base : Option Nat := none
  marks : List Nat := []

namespace Joining

/-- All characters, in reverse. -/
def reversed (joining : Joining) : List Nat :=
  joining.marks ++ joining.base.toList ++ joining.before

/-- Adds a character, joined to the base unless a mark of the same or a higher class is between
them. -/
def add (joining : Joining) (point : Nat) : Joining :=
  let order := combiningClass point
  let isFree := joining.marks.head?.all fun mark => combiningClass mark < order
  match joining.base.bind fun base => if isFree then join? base point else none with
  | some joined => { joining with base := some joined }
  | none =>
    if order = 0 then { before := joining.reversed, base := some point }
    else { joining with marks := point :: joining.marks }

end Joining

def normalForm (points : List Nat) : List Nat :=
  ((takeApart points).foldl Joining.add {}).reversed.reverse

def isNormal (points : List Nat) : Bool := normalForm points = points

end OpenApiClient.Text

namespace OpenApiClient.Host

/-! ## Parts of host names -/

/-! ### Scripts -/

open Text (Property Ranges)

def greekRanges : Thunk Ranges := Property.greek.ranges

def hebrewRanges : Ranges :=
  [(0x0591, 0x05c7), (0x05d0, 0x05ea), (0x05ef, 0x05f4), (0xfb1d, 0xfb36), (0xfb38, 0xfb3c),
   (0xfb3e, 0xfb3e), (0xfb40, 0xfb41), (0xfb43, 0xfb44), (0xfb46, 0xfb4f)]

def japaneseRanges : Thunk Ranges := Property.japanese.ranges

/-! ### Characters of host names -/

/-- The code points that may stand anywhere. -/
def permittedRanges : Thunk Ranges := Property.permitted.ranges

def isPermitted (point : Nat) : Bool := permittedRanges.get.contains point

def isJoiner (point : Nat) : Bool := point = 0x200c || point = 0x200d

/-- The code points that may stand beside certain others. -/
def dependentRanges : Ranges :=
  [(0x00b7, 0x00b7), (0x0375, 0x0375), (0x05f3, 0x05f4), (0x0660, 0x0669), (0x06f0, 0x06f9),
   (0x30fb, 0x30fb)]

def isDependent (point : Nat) : Bool := dependentRanges.contains point

/-! ### Letters that join -/

/-- Marks over which letters join. -/
def transparentRanges : Thunk Ranges := Property.transparent.ranges

/-- Letters that join the letters on both sides. -/
def joiningRanges : Thunk Ranges := Property.joining.ranges

/-- Letters that join the letter before them only. -/
def joiningBeforeRanges : Thunk Ranges := Property.joiningBefore.ranges

/-- Letters that join the letter after them only. -/
def joiningAfterRanges : Ranges :=
  [(0xa872, 0xa872), (0x10acd, 0x10acd), (0x10ad7, 0x10ad7), (0x10d00, 0x10d00)]

/-- Signs that silence a vowel, so that the letters beside them may join. -/
def viramas : Thunk (List Nat) := Property.virama.list

/-- Whether the letter nearest to a non-joiner joins towards it. -/
def joins (others : Ranges) (points : List Nat) : Bool :=
  ((points.dropWhile transparentRanges.get.contains).head?).any fun point =>
    joiningRanges.get.contains point || others.contains point

/-- Whether the points before a non-joiner, in reverse, and those after it would join. -/
def wouldJoin (before after : List Nat) : Bool :=
  joins joiningAfterRanges before && joins joiningBeforeRanges.get after

/-! ### The direction of writing -/

/-- How a character takes part in the direction of a text. -/
inductive Direction where
  | leftToRight
  | rightToLeft
  | arabicNumber
  | europeanNumber
  | neutral
  | mark
  | unknown
  deriving DecidableEq, Repr

def rightToLeftRanges : Thunk Ranges := Property.rightToLeft.ranges

def arabicNumberRanges : Ranges :=
  [(0x0660, 0x0669), (0x10d30, 0x10d39)]

def europeanNumberRanges : Ranges :=
  [(0x0030, 0x0039), (0x06f0, 0x06f9)]

def neutralRanges : Ranges :=
  [(0x002d, 0x002d), (0x00b7, 0x00b7), (0x02b9, 0x02ba), (0x02c6, 0x02cf), (0x02ec, 0x02ec),
   (0x0375, 0x0375), (0x200c, 0x200d), (0x2e2f, 0x2e2f), (0x30fb, 0x30fb), (0xa67f, 0xa67f),
   (0xa717, 0xa71f), (0xa788, 0xa788)]

/-- Marks, which have the direction of what they stand on. -/
def markDirectionRanges : Thunk Ranges := Property.markDirection.ranges

def unknownDirectionRanges : Thunk Ranges := Property.unknownDirection.ranges

/-- The direction of a character that may stand in a host name. -/
def direction (point : Nat) : Direction :=
  if unknownDirectionRanges.get.contains point then .unknown
  else if rightToLeftRanges.get.contains point then .rightToLeft
  else if arabicNumberRanges.contains point then .arabicNumber
  else if europeanNumberRanges.contains point then .europeanNumber
  else if neutralRanges.contains point then .neutral
  else if markDirectionRanges.get.contains point then .mark
  else .leftToRight

def Direction.goesLeft : Direction → Bool
  | .leftToRight | .unknown => false
  | _ => true

def Direction.goesRight : Direction → Bool
  | .rightToLeft | .arabicNumber | .unknown => false
  | _ => true

def lastDirection? (directions : List Direction) : Option Direction :=
  directions.reverse.find? (· ≠ .mark)

/-- Whether directions agree. They do if nothing goes from right to left. Otherwise the first one is
that of a letter, the others go along with it, the last one is that of such a letter or of a number,
and right-to-left texts keep to one kind of numbers. -/
def directionsAgree (directions : List Direction) : Bool :=
  let last := lastDirection? directions
  if directions.contains .unknown then false
  else if !directions.contains .rightToLeft && !directions.contains .arabicNumber then true
  else
    match directions.head? with
    | some .rightToLeft =>
      directions.all Direction.goesLeft &&
        (last = some .rightToLeft || last = some .europeanNumber || last = some .arabicNumber) &&
        !(directions.contains .arabicNumber && directions.contains .europeanNumber)
    | some .leftToRight =>
      directions.all Direction.goesRight &&
        (last = some .leftToRight || last = some .europeanNumber)
    | _ => false

namespace Label

/-- The number of characters that no name exceeds. -/
def lengthLimit : Nat := 254

/-! ### Characters in their places -/

/-- Whether a joiner may stand after points, in reverse, and before others: after a sign that
silences a vowel, or, for a non-joiner, between letters that would join. A character that is not
known yet is a fault of form. -/
def checkJoiner (point : Nat) (before after : List Nat) : Except NameFault Unit :=
  let isAfter (test : Nat → Bool) : Bool := before.head?.any test
  if isAfter unknownDirectionRanges.get.contains then throw .form
  else if isAfter viramas.get.contains then pure ()
  else if point = 0x200c && wouldJoin before after then pure ()
  else throw .place

/-- The digits of Arabic and those of the languages to its east. -/
def arabicDigits : Text.Ranges := [(0x0660, 0x0669)]

@[inherit_doc arabicDigits]
def easternDigits : Text.Ranges := [(0x06f0, 0x06f9)]

/-- Whether a character may stand after points, in reverse, and before others: a middle point
between two `l`, the Greek number sign before a Greek letter, the Hebrew marks after a Hebrew
letter, the Japanese middle point in a Japanese part, and digits without those of the other kind. -/
def mayStand (point : Nat) (before after : List Nat) : Bool :=
  if point = 0xb7 then before.head? = some 0x6c && after.head? = some 0x6c
  else if point = 0x0375 then after.head?.any greekRanges.get.contains
  else if point = 0x05f3 || point = 0x05f4 then before.head?.any hebrewRanges.contains
  else if point = 0x30fb then
    (before ++ after).any fun other => other ≠ 0x30fb && japaneseRanges.get.contains other
  else if arabicDigits.contains point then !(before ++ after).any easternDigits.contains
  else if easternDigits.contains point then !(before ++ after).any arabicDigits.contains
  else false

/-- Checks the characters after those given in reverse. -/
def checkFrom (before : List Nat) : List Nat → Except NameFault Unit
  | [] => return ()
  | point :: after => do
    if isJoiner point then checkJoiner point before after
    else if isDependent point then
      if !mayStand point before after then throw .place
    else if !isPermitted point then throw .character
    checkFrom (point :: before) after

/-! ### Whole parts -/

/-- Whether a hyphen is at either end, or the third and the fourth character. -/
def hasStrayHyphen (points : List Nat) : Bool :=
  let hyphen := '-'.toNat
  (points.drop 2).take 2 = [hyphen, hyphen] || points.head? = some hyphen ||
    points.getLast? = some hyphen

def check (points : List Nat) : Except NameFault Unit := do
  if points.isEmpty || lengthLimit < points.length then throw .form
  if !Text.isNormal points || hasStrayHyphen points || points.head?.any Text.isMark then throw .form
  checkFrom [] points
  if !directionsAgree (points.map direction) then throw .direction

end Label

/-! ## Hosts by number -/

def isDigit (c : Char) : Bool := '0' ≤ c && c ≤ '9'

def looksNumeric (host : List Char) : Bool :=
  let groups := host.splitOn '.'
  groups.length = 4 && groups.all fun group => !group.isEmpty && group.all isDigit

/-- Whether a text is a number below 256 without leading zeros. -/
def isOctet (text : List Char) : Bool :=
  !text.isEmpty && text.length ≤ 3 && text.all isDigit &&
    (text = ['0'] || text.head? ≠ some '0') &&
    (Text.natValue? text).any (· < 256)

def isFourOctets (text : List Char) : Bool :=
  let octets := text.splitOn '.'
  octets.length = 4 && octets.all isOctet

def isHextet (text : List Char) : Bool :=
  !text.isEmpty && text.length ≤ 4 &&
    text.all fun c => isDigit c || ('a' ≤ c && c ≤ 'f') || ('A' ≤ c && c ≤ 'F')

/-- The parts between the colons of eight numbers, the last two of which may be four octets. -/
def hextetParts? (text : List Char) : Option (List (List Char)) :=
  let parts := text.splitOn ':'
  let last := parts.getLast?.getD []
  if parts.length < 3 then none
  else if last.contains '.' then
    if isFourOctets last then some (parts.dropLast ++ [['0'], ['0']]) else none
  else some parts

/-- Whether parts are eight numbers. Two colons together stand, once, for one or more zeros. -/
def areHextets (parts : List (List Char)) : Bool :=
  let gaps := (parts.tail.dropLast).filter (·.isEmpty)
  if gaps.isEmpty then parts.length = 8 && parts.all isHextet
  else
    let reversed := parts.reverse
    let leading := parts.takeWhile (!·.isEmpty)
    let trailing := reversed.takeWhile (!·.isEmpty)
    let closed (edge next : Option (List Char)) : Bool := edge ≠ some [] || next = some []
    gaps.length = 1 && parts.length ≤ 9 &&
      closed parts[0]? parts[1]? && closed reversed[0]? reversed[1]? &&
      leading.length + trailing.length < 8 && leading.all isHextet && trailing.all isHextet

/-- Whether a text is eight numbers, perhaps with a zone after a percent sign. -/
def isEightNumbers (text : List Char) : Bool :=
  let number := text.takeWhile (· ≠ '%')
  let zone := text.dropWhile (· ≠ '%')
  !text.contains '/' && zone ≠ ['%'] && !zone.tail.contains '%' &&
    (hextetParts? number).any areHextets

end OpenApiClient.Host

namespace OpenApiClient.Text

/-! ## Lower case -/

/-- Capital letters and their small letters, by turns, in pairs. -/
def casePairs : List Nat → List (Nat × Nat)
  | capital :: small :: rest => (capital, small) :: casePairs rest
  | _ => []

def capitals : Thunk (List (Nat × Nat)) := Property.cased.list.map casePairs

/-- The small letter of a capital letter; any other code point is itself. -/
def smallPoint (point : Nat) : Nat :=
  if point < 0x80 then if 0x41 ≤ point && point ≤ 0x5a then point + 0x20 else point
  else (capitals.get.lookup point).getD point

/-- Code points in lower case. The dotted capital I becomes two. -/
def smallPoints (points : List Nat) : List Nat :=
  points.flatMap fun point => if point = 0x0130 then [0x69, 0x0307] else [smallPoint point]

end OpenApiClient.Text

namespace OpenApiClient.Host.Name

/-! ## Whole names -/

/-- The mark of parts in Punycode. -/
def mark : List Char := ['x', 'n', '-', '-']

/-- The number of characters that no part exceeds in ASCII. -/
def partLimit : Nat := 63

def points : List Nat := ['.', '。', '．', '｡'].map Char.toNat

/-- The parts of a name, and whether there is a point at its end. -/
def parts (name : List Nat) : List (List Nat) × Bool :=
  let all := (name.map fun point => if points.contains point then '.'.toNat else point).splitOn
    '.'.toNat
  if all.getLast? = some [] then (all.dropLast, true) else (all, false)

/-- Checks a part in ASCII; one with the mark is in Punycode. -/
def checkAscii (text : List Char) : Except NameFault Unit :=
  let small := text.map Char.toLower
  if mark.isPrefixOf small then
    let digits := small.drop mark.length
    if digits.isEmpty || digits.getLast? = some '-' then throw .form
    else
      match Text.Punycode.decode? .whole digits with
      | some points => Label.check points
      | none => throw .form
  else Label.check (small.map Char.toNat)

def partToAscii (part : List Nat) : Except NameFault (List Char) := do
  let ascii ←
    if part.all (· < 128) then do
      let text := part.map Char.ofNat
      checkAscii text
      pure text
    else do
      Label.check part
      pure (mark ++ Text.Punycode.encode part)
  if partLimit < ascii.length then throw .form
  return ascii

/-- The ASCII form of a name in small letters. -/
def toAscii (name : List Nat) : Except NameFault (List Char) := do
  if Label.lengthLimit < name.length then throw .form
  let (parts, isClosed) := parts name
  if parts.isEmpty then throw .form
  let ascii := ['.'].intercalate (← parts.mapM partToAscii) ++ if isClosed then ['.'] else []
  let limit := if isClosed then Label.lengthLimit else Label.lengthLimit - 1
  if limit < ascii.length then throw .form
  return ascii

def checkMeaning (name : List Char) : Except NameFault Unit := do
  if Label.lengthLimit < name.length then throw .form
  let (parts, _) := parts (name.map Char.toNat)
  if parts.isEmpty then throw .form
  parts.forM fun part => checkAscii (part.map Char.ofNat)

end OpenApiClient.Host.Name
