import OpenApiClient.Text.Quoted

/-!
# Reading UTF-8

A character has one to four bytes. When bytes form none, the report names the offset of the first of
them and how far the sequence went.
-/

namespace OpenApiClient.Text

inductive Utf8Fault where
  | start
  | continuation
  | endOfData
  deriving DecidableEq, Repr

/-- The bytes from `first` on, `count` of them, form no character. -/
structure Utf8Error where
  fault : Utf8Fault
  first : Nat
  count : Nat
  byte : UInt8
  deriving DecidableEq, Repr

def Utf8Fault.message : Utf8Fault → String
  | .start => "invalid start byte"
  | .continuation => "invalid continuation byte"
  | .endOfData => "unexpected end of data"

def Utf8Error.message (error : Utf8Error) : String :=
  let place :=
    if error.count = 1 then
      "byte 0x" ++ String.ofList (hexDigits 2 error.byte.toNat) ++ " in position " ++
        toString error.first
    else
      "bytes in position " ++ toString error.first ++ "-" ++
        toString (error.first + error.count - 1)
  "'utf-8' codec can't decode " ++ place ++ ": " ++ error.fault.message

def isContinuation (byte : UInt8) : Bool := 0x80 ≤ byte && byte < 0xc0

def sequenceLength? (byte : UInt8) : Option Nat :=
  if byte < 0x80 then some 1
  else if byte < 0xc2 then none
  else if byte < 0xe0 then some 2
  else if byte < 0xf0 then some 3
  else if byte < 0xf5 then some 4
  else none

/-- Whether a second byte may follow: no character has two spellings, surrogates have none, and the
greatest code point is the last. -/
def mayFollow (first second : UInt8) : Bool :=
  isContinuation second &&
    !(first = 0xe0 && second < 0xa0) && !(first = 0xed && 0xa0 ≤ second) &&
    !(first = 0xf0 && second < 0x90) && !(first = 0xf4 && 0x90 ≤ second)

/-- How many bytes after the first one continue the sequence. -/
def continued (first : UInt8) (rest : List UInt8) : Nat :=
  match rest with
  | second :: rest =>
    if mayFollow first second then (rest.takeWhile isContinuation).length + 1 else 0
  | [] => 0

def codePoint (first : UInt8) (rest : List UInt8) : Nat :=
  let lead := if first < 0x80 then first else if first < 0xe0 then first % 32
    else if first < 0xf0 then first % 16 else first % 8
  rest.foldl (fun point byte => point * 64 + byte.toNat % 64) lead.toNat

/-- A character at the start with the number of its bytes, or a fault with the number of bytes it
spans. -/
def leading (first : UInt8) (rest : List UInt8) : Except Utf8Fault Char × Nat :=
  match sequenceLength? first with
  | none => (.error .start, 1)
  | some length =>
    let present := rest.take (length - 1)
    let valid := continued first present
    if valid = length - 1 then (.ok (Char.ofNat (codePoint first present)), length)
    else if valid = present.length then (.error .endOfData, valid + 1)
    else (.error .continuation, valid + 1)

def decodeFrom : (fuel offset : Nat) → List UInt8 → Except Utf8Error (List Char)
  | 0, _, _ => .ok []
  | _ + 1, _, [] => .ok []
  | fuel + 1, offset, first :: rest =>
    match leading first rest with
    | (.error fault, count) => .error ⟨fault, offset, count, first⟩
    | (.ok c, count) => do
      return c :: (← decodeFrom fuel (offset + count) (rest.drop (count - 1)))

def decode (bytes : List UInt8) : Except Utf8Error String :=
  (decodeFrom bytes.length 0 bytes).map String.ofList

end OpenApiClient.Text
