import OpenApiClient.Charset.EastAsian
import OpenApiClient.Charset.Fault
import OpenApiClient.Charset.Page
import OpenApiClient.Text.CharName
import OpenApiClient.Text.Punycode
import OpenApiClient.Text.Utf8

/-!
# Character sets

How the bytes of a text stand for its characters. A text is read with the replacement character
where bytes stand for none, or only if all bytes stand for characters.
-/

namespace OpenApiClient.Charset.Escaped

/-! ### Escaped characters -/

inductive Escapes where
  | all
  | points
  deriving DecidableEq, Repr

/-- The characters of single letters after a backslash. -/
def letters : List (Char × Nat) :=
  [('\\', 0x5c), ('\'', 0x27), ('"', 0x22), ('b', 8), ('f', 12), ('t', 9), ('n', 10), ('r', 13),
   ('v', 11), ('a', 7)]

def digitsFrom (value? : Char → Option Nat) : (most : Nat) → List UInt8 → List Nat
  | 0, _ => []
  | _, [] => []
  | most + 1, byte :: rest =>
    match value? (byteChar byte) with
    | some value => value :: digitsFrom value? most rest
    | none => []

def octalValue? (c : Char) : Option Nat :=
  if '0' ≤ c && c ≤ '7' then some (c.toNat - '0'.toNat) else none

def digitCount? (escapes : Escapes) (c : Char) : Option Nat :=
  if c = 'u' then some 4
  else if c = 'U' then some 8
  else if c = 'x' && escapes = .all then some 2
  else none

/-- The code point of an escape with so many digits, and the bytes after the letter that it takes
up. One that is too great or too short is at fault. -/
def readPoint (count : Nat) (rest : List UInt8) : Option Nat × Nat :=
  let digits := digitsFrom Text.hexValue? count rest
  let point := digits.foldl (fun point digit => point * 16 + digit) 0
  (if digits.length = count && point ≤ 0x10ffff then some point else none, digits.length)

/-- The code point of the name in braces after the letter, and the bytes after the backslash that
the escape takes up. -/
def readName (rest : List UInt8) : Option Nat × Nat :=
  if rest.head? = some 0x7b then
    let name := rest.tail.takeWhile (· ≠ 0x7d)
    let isClosed := name.length < rest.tail.length
    if name.isEmpty && isClosed then (none, 2)
    else (if isClosed then Text.CharName.point? (name.map byteChar) else none, name.length + 3)
  else (none, 1)

/-- What another escape stands for, and the bytes after the backslash that it takes up. -/
def readLetter (first : UInt8) (rest : List UInt8) : Points × Nat :=
  let c := byteChar first
  let octal := digitsFrom octalValue? 3 (first :: rest)
  if c = '\n' then ([], 1)
  else if let some point := letters.lookup c then ([some point], 1)
  else if !octal.isEmpty then ([some (octal.foldl (fun n digit => n * 8 + digit) 0)], octal.length)
  else if c = 'N' then
    let (point, length) := readName rest
    ([point], length)
  else ([some 0x5c, some first.toNat], 1)

def pointsFrom (escapes : Escapes) : (fuel : Nat) → List UInt8 → Points
  | _, [] => []
  | 0, _ => []
  | fuel + 1, byte :: rest =>
    if byte ≠ 0x5c then some byte.toNat :: pointsFrom escapes fuel rest
    else
      match rest with
      | [] => [if escapes = .all then none else some 0x5c]
      | first :: others =>
        match digitCount? escapes (byteChar first) with
        | some count =>
          let (point, length) := readPoint count others
          point :: pointsFrom escapes fuel (others.drop length)
        | none =>
          if escapes = .all then
            let (points, length) := readLetter first others
            points ++ pointsFrom escapes fuel (rest.drop length)
          else some 0x5c :: some first.toNat :: pointsFrom escapes fuel others

def decode (escapes : Escapes) (bytes : List UInt8) : List (Option Char) :=
  joinPoints (pointsFrom escapes bytes.length bytes)

end OpenApiClient.Charset.Escaped

namespace OpenApiClient.Charset

/-! ### Units of two and four bytes -/

/-- Which byte of a unit comes first. -/
inductive ByteOrder where
  | little
  | big
  deriving DecidableEq, Repr

def ByteOrder.value (order : ByteOrder) (bytes : List UInt8) : Nat :=
  (if order = .little then bytes.reverse else bytes).foldl (fun n byte => n * 256 + byte.toNat) 0

namespace Wide

/-- The character of a unit of two bytes that stands alone. -/
def single? (unit : Nat) : Option Char :=
  if Text.isLeadingHalf unit || Text.isTrailingHalf unit then none else some (Char.ofNat unit)

/-- The characters in units of two bytes. -/
def decodePairs (order : ByteOrder) : List UInt8 → List (Option Char)
  | [] => []
  | [_] => [none]
  | [a, b] => [single? (order.value [a, b])]
  | [a, b, _] =>
    let unit := order.value [a, b]
    if Text.isLeadingHalf unit then [none] else [single? unit, none]
  | a :: b :: c :: d :: rest =>
    let unit := order.value [a, b]
    let next := order.value [c, d]
    if Text.isLeadingHalf unit && Text.isTrailingHalf next then
      some (Text.joinHalves unit next) :: decodePairs order rest
    else single? unit :: decodePairs order (c :: d :: rest)

/-- The characters in units of four bytes. -/
def decodeQuads (order : ByteOrder) : List UInt8 → List (Option Char)
  | [] => []
  | a :: b :: c :: d :: rest =>
    let unit := order.value [a, b, c, d]
    (if unit.isValidChar then some (Char.ofNat unit) else none) :: decodeQuads order rest
  | _ => [none]

/-- The order that a mark at the start makes known, and the bytes after it. -/
def splitMark? (size : Nat) (bytes : List UInt8) : Option (ByteOrder × List UInt8) :=
  let mark := bytes.take size
  if mark.length < size then none
  else if ByteOrder.little.value mark = 0xfeff then some (.little, bytes.drop size)
  else if ByteOrder.big.value mark = 0xfeff then some (.big, bytes.drop size)
  else none

/-- The characters of a text in units of a size, with the lowest byte first if there is no mark. -/
def decodeMarked (size : Nat) (decode : ByteOrder → List UInt8 → List (Option Char))
    (bytes : List UInt8) : List (Option Char) :=
  match splitMark? size bytes with
  | some (order, rest) => decode order rest
  | none => decode .little bytes

/-- Whether the order of the bytes is known, or does not matter. -/
def hasOrder (size : Nat) (bytes : List UInt8) : Bool :=
  (splitMark? size bytes).isSome || bytes.length < size

end Wide

end OpenApiClient.Charset

namespace OpenApiClient.Charset.Utf7

/-! ### UTF-7 -/

/-- What is known inside a section: the bits that are not used yet, their number, and the first half
of a character. -/
structure Section where
  bits : Nat := 0
  count : Nat := 0
  half : Option Nat := none

def digitValue? (byte : UInt8) : Option Nat :=
  let c := byteChar byte
  if c.isUpper then some (c.toNat - 'A'.toNat)
  else if c.isLower then some (c.toNat - 'a'.toNat + 26)
  else if c.isDigit then some (c.toNat - '0'.toNat + 52)
  else if c = '+' then some 62
  else if c = '/' then some 63
  else none

/-- The code points that a unit completes after a first half, and the half that it is. -/
def takeUnit (half : Option Nat) (unit : Nat) : List Nat × Option Nat :=
  if Text.isLeadingHalf unit then (half.toList, some unit) else (half.toList ++ [unit], none)

/-- A section after a digit, with the code points that are complete. -/
def Section.take (current : Section) (digit : Nat) : List Nat × Section :=
  let bits := current.bits * 64 + digit
  let count := current.count + 6
  if count < 16 then ([], { current with bits, count })
  else
    let scale := Nat.pow 2 (count - 16)
    let (points, half) := takeUnit current.half (bits / scale)
    (points, { bits := bits % scale, count := count - 16, half })

/-- Whether a section may end: only zeros are left over, less than a digit. -/
def Section.mayEnd (current : Section) : Bool := current.count < 6 && current.bits = 0

/-- The code point of a byte outside of sections. -/
def plain? (byte : UInt8) : Option Nat := if byte < 0x80 then some byte.toNat else none

def pointsFrom : Option Section → List UInt8 → Points
  | none, [] => []
  | some current, [] => if current.mayEnd && current.half.isNone then [] else [none]
  | none, byte :: rest =>
    if byte ≠ 0x2b then plain? byte :: pointsFrom none rest
    else
      match rest with
      | [] => []
      | next :: others =>
        if next = 0x2d then some byte.toNat :: pointsFrom none others
        else if (digitValue? next).isNone then none :: pointsFrom none others
        else pointsFrom (some {}) (next :: others)
  | some current, byte :: rest =>
    match digitValue? byte with
    | some digit =>
      let (points, next) := current.take digit
      points.map some ++ pointsFrom (some next) rest
    | none =>
      let half : Points := if byte < 0x80 then current.half.toList.map some else []
      if !current.mayEnd then none :: pointsFrom none rest
      else if byte = 0x2d then half ++ pointsFrom none rest
      else half ++ plain? byte :: pointsFrom none rest

def decode (bytes : List UInt8) : List (Option Char) := joinPoints (pointsFrom none bytes)

end OpenApiClient.Charset.Utf7

namespace OpenApiClient

/-! ### All sets -/

/-- A way to write characters as bytes. The order of the bytes in units of two and four is fixed or
made known by a mark. The last four are known by name only: the form of host names, a set without
characters, and ways to write bytes as bytes or a text as another. -/
inductive Charset where
  | ascii
  | latin1
  | utf7
  | utf8
  | utf8Signed
  | utf16 (order : Option Charset.ByteOrder)
  | utf32 (order : Option Charset.ByteOrder)
  | page (codes : Charset.Page)
  | eastAsian (set : Charset.EastAsian)
  | escaped (escapes : Charset.Escaped.Escapes)
  | punycode
  | hostName
  | undefined
  | bytesToBytes
  | textToText
  deriving DecidableEq, Repr

namespace Charset

/-- The bytes without the mark of the signed form. -/
def dropSignature : List UInt8 → List UInt8
  | 0xef :: 0xbb :: 0xbf :: rest => rest
  | bytes => bytes

def decodeUtf8 : (fuel : Nat) → List UInt8 → List (Option Char)
  | 0, _ => []
  | _ + 1, [] => []
  | fuel + 1, first :: rest =>
    let (result, count) := Text.leading first rest
    result.toOption :: decodeUtf8 fuel (rest.drop (count - 1))

/-- How many bytes at the end of a text may be the start of something. -/
def pendingLimit : Nat := 8

/-- The text that bytes in Punycode form, up to the first fault. Before the last hyphen characters
other than ASCII are replaced. -/
def decodePunycode (bytes : List UInt8) : Except DecodeFault (List Char) :=
  let chars := bytes.map fun byte => if byte < 0x80 then byteChar byte else Decoded.replacement
  if (Text.Punycode.divide chars).2.contains Decoded.replacement then .error .notAscii
  else .ok (Text.charsOf ((Text.Punycode.decode? .start chars).getD []))

/-- What bytes stand for, unless the set is known by name only. -/
def decoded? : Charset → List UInt8 → Option Decoded
  | .ascii, bytes => some { chars := bytes.map asciiChar? }
  | .latin1, bytes => some { chars := bytes.map fun byte => some (byteChar byte) }
  | .utf7, bytes => some { chars := Utf7.decode bytes }
  | .utf8, bytes => some { chars := decodeUtf8 bytes.length bytes }
  | .utf8Signed, bytes => some { chars := decodeUtf8 bytes.length (dropSignature bytes) }
  | .utf16 (some order), bytes => some { chars := Wide.decodePairs order bytes }
  | .utf16 none, bytes => some { chars := Wide.decodeMarked 2 Wide.decodePairs bytes }
  | .utf32 (some order), bytes => some { chars := Wide.decodeQuads order bytes }
  | .utf32 none, bytes => some { chars := Wide.decodeMarked 4 Wide.decodeQuads bytes }
  | .page codes, bytes => some { chars := bytes.map codes.char? }
  | .eastAsian set, bytes => some (set.decode bytes)
  | .escaped escapes, bytes => some { chars := Escaped.decode escapes bytes }
  | _, _ => none

/-- The text of bytes, with the replacement character where they stand for none. -/
def decode (charset : Charset) (bytes : List UInt8) : Except DecodeFault String := do
  match charset with
  | .utf16 none => if !Wide.hasOrder 2 bytes then throw .noByteOrder
  | .utf32 none => if !Wide.hasOrder 4 bytes then throw .noByteOrder
  | .hostName | .undefined => throw .noCharacters
  | .bytesToBytes => throw .noText
  | .textToText => throw .noBytes
  | _ => pure ()
  if charset = .punycode then return String.ofList (← decodePunycode bytes)
  let decoded := (charset.decoded? bytes).getD {}
  if pendingLimit < decoded.pending then throw .noCharacters
  return String.ofList decoded.replaced

/-- The characters of bytes, if all of them stand for some. A host name has to stand for itself. -/
def decodeWhole? (charset : Charset) (bytes : List UInt8) : Option (List Char) :=
  let plain := bytes.mapM asciiChar?
  match charset with
  | .punycode => do return Text.charsOf (← Text.Punycode.decode? .whole (← plain))
  | .hostName => plain
  | charset => (charset.decoded? bytes).bind Decoded.whole?

end Charset

end OpenApiClient
