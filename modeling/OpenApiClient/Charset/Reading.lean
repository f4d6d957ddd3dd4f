import OpenApiClient.Text.Halves

/-!
# What bytes stand for

Bytes are read from the start of a text. In some character sets what a byte stands for depends on
those before it, which is kept as a state.
-/

namespace OpenApiClient.Charset

/-! ### Code points of a text -/

/-- Code points, nothing where the text is at fault. -/
abbrev Points := List (Option Nat)

/-- The characters of code points, where two halves make up one. -/
def joinPoints : Points → List (Option Char)
  | [] => []
  | [point] => [point.map Text.pointChar]
  | first :: second :: rest =>
    match first, second with
    | some leading, some trailing =>
      if Text.isLeadingHalf leading && Text.isTrailingHalf trailing then
        some (Text.joinHalves leading trailing) :: joinPoints rest
      else some (Text.pointChar leading) :: joinPoints (second :: rest)
    | _, _ => first.map Text.pointChar :: joinPoints (second :: rest)

/-! ### Bytes -/

/-- What bytes stand for: characters, nothing in place of bytes that stand for none, and how many
bytes at the end are the start of something. -/
structure Decoded where
  chars : List (Option Char) := []
  pending : Nat := 0
  deriving DecidableEq, Repr

namespace Decoded

/-- What stands for bytes that stand for no character. -/
def replacement : Char := '\ufffd'

def replaced (decoded : Decoded) : List Char := decoded.chars.map (·.getD replacement)

/-- The characters, if all bytes stand for some. -/
def whole? (decoded : Decoded) : Option (List Char) := decoded.chars.mapM id

/-- What follows characters. -/
def after (chars : List (Option Char)) (decoded : Decoded) : Decoded :=
  { decoded with chars := chars ++ decoded.chars }

end Decoded

def byteChar (byte : UInt8) : Char := Char.ofNat byte.toNat

def asciiChar? (byte : UInt8) : Option Char := if byte < 0x80 then some (byteChar byte) else none

/-- What the first bytes stand for: characters, with the state after them, or nothing, or all of
them for the start of something. -/
inductive Reading (State : Type) where
  | chars (chars : List Char) (count : Nat) (state : State)
  | illegal (count : Nat)
  | incomplete

/-- Reads all bytes. A reading takes at least one, so their number is fuel enough. -/
def readAll {State : Type} (read : State → List UInt8 → Reading State) :
    (fuel : Nat) → State → List UInt8 → Decoded
  | _, _, [] => {}
  | 0, _, _ => {}
  | fuel + 1, state, bytes =>
    match read state bytes with
    | .chars chars count next => (readAll read fuel next (bytes.drop count)).after (chars.map some)
    | .illegal count => (readAll read fuel state (bytes.drop count)).after [none]
    | .incomplete => { chars := [none], pending := bytes.length }

def readFrom {State : Type} (read : State → List UInt8 → Reading State) (start : State)
    (bytes : List UInt8) : Decoded :=
  readAll read bytes.length start bytes

namespace Reading

/-- Characters of so many bytes; if there are none, the first byte stands for nothing. -/
def ofChars? (count : Nat) : Option (List Char) → Reading Unit
  | some text => .chars text count ()
  | none => .illegal 1

/-- A character of two bytes; if there is none, the first one stands for nothing. -/
def ofDouble? (c : Option Char) : Reading Unit := ofChars? 2 (c.map ([·]))

end Reading

/-- Reads characters of one byte, and others by codes of two bytes. -/
def readCodes (single? : UInt8 → Option Char) (code : Nat → Reading Unit) (_ : Unit) :
    List UInt8 → Reading Unit
  | [] => .incomplete
  | first :: rest =>
    match single? first with
    | some c => .chars [c] 1 ()
    | none =>
      match rest with
      | [] => .incomplete
      | second :: _ => code (first.toNat * 256 + second.toNat)

/-- Reads ASCII characters, and others by their code of two bytes. -/
def readDouble (code : Nat → Reading Unit) : Unit → List UInt8 → Reading Unit :=
  readCodes asciiChar? code

end OpenApiClient.Charset
