import OpenApiClient.Text.Halves
import OpenApiClient.Value.Basic

/-!
# Reading JSON

A reader of JSON text that accepts the words `NaN`, `Infinity` and `-Infinity` too. An integer may
have as many digits as are read, a number with a fraction or an exponent is a double, and of two
entries under one key the first gives the place and the last the value. An error names what was
expected and where.

The reader works on the characters that are still to be read. A failure carries how many those were,
from which the position follows.
-/

namespace OpenApiClient.Json

inductive Fault where
  | value
  | propertyName
  | colon
  | comma
  | unterminatedString
  | controlCharacter
  | escape
  | codePointEscape
  | extraData
  | byteOrderMark
  | longInteger (digits : Nat)
  deriving DecidableEq, Repr

def Fault.message : Fault → String
  | .value => "Expecting value"
  | .propertyName => "Expecting property name enclosed in double quotes"
  | .colon => "Expecting ':' delimiter"
  | .comma => "Expecting ',' delimiter"
  | .unterminatedString => "Unterminated string starting at"
  | .controlCharacter => "Invalid control character at"
  | .escape => "Invalid \\escape"
  | .codePointEscape => "Invalid \\uXXXX escape"
  | .extraData => "Extra data"
  | .byteOrderMark => "Unexpected UTF-8 BOM (decode using utf-8-sig)"
  | .longInteger digits => s!"Exceeds the limit ({Text.digitLimit} digits) for integer string " ++
    s!"conversion: value has {digits} digits; use sys.set_int_max_str_digits() to increase the limit"

/-- A fault and the number of characters from its place on. -/
structure Failure where
  fault : Fault
  remaining : Nat
  deriving DecidableEq, Repr

/-- What was read at the start of a text, and what follows. -/
abbrev Reading (α : Type) := Except Failure (α × List Char)

def fail {α : Type} (fault : Fault) (rest : List Char) : Except Failure α :=
  .error ⟨fault, rest.length⟩

def isSpace (c : Char) : Bool := c = ' ' || c = '\t' || c = '\n' || c = '\r'

def skipSpace (text : List Char) : List Char := text.dropWhile isSpace

/-! ### Strings -/

/-- The value of four hexadecimal digits. -/
def hexValue4? (a b c d : Char) : Option Nat := do
  let high := (← Text.hexValue? a) * 16 + (← Text.hexValue? b)
  return (high * 16 + (← Text.hexValue? c)) * 16 + (← Text.hexValue? d)

/-- The character that a backslash and a letter stand for. -/
def escapedChar? : Char → Option Char
  | '"' => some '"'
  | '\\' => some '\\'
  | '/' => some '/'
  | 'b' => some '\x08'
  | 'f' => some '\x0c'
  | 'n' => some '\n'
  | 'r' => some '\r'
  | 't' => some '\t'
  | _ => none

def consUnit (unit : Nat) : Reading (List Nat) → Reading (List Nat)
  | .ok (units, rest) => .ok (unit :: units, rest)
  | .error failure => .error failure

/-- The units of a string after its opening quote: code points, and halves of pairs. `opening` is
the number of characters from the quote on. A code point escape is only complete when another
character follows. -/
def readUnits (opening : Nat) : List Char → Reading (List Nat)
  | '"' :: rest => .ok ([], rest)
  | '\\' :: 'u' :: a :: b :: c :: d :: next :: rest =>
    match hexValue4? a b c d with
    | some unit => consUnit unit (readUnits opening (next :: rest))
    | none => fail .codePointEscape ('u' :: a :: b :: c :: d :: next :: rest)
  | '\\' :: 'u' :: rest => fail .codePointEscape ('u' :: rest)
  | '\\' :: c :: rest =>
    match escapedChar? c with
    | some escaped => consUnit escaped.toNat (readUnits opening rest)
    | none => fail .escape ('\\' :: c :: rest)
  | ['\\'] => .error ⟨.unterminatedString, opening⟩
  | [] => .error ⟨.unterminatedString, opening⟩
  | c :: rest =>
    if c.toNat < 0x20 then fail .controlCharacter (c :: rest)
    else consUnit c.toNat (readUnits opening rest)

/-- The characters of units. A half alone has none and becomes the character zero, so keys that only
differ in such halves fall together. -/
def joinUnits : List Nat → List Char
  | [] => []
  | [unit] => [Char.ofNat unit]
  | first :: second :: rest =>
    if Text.isLeadingHalf first && Text.isTrailingHalf second then
      Text.joinHalves first second :: joinUnits rest
    else
      Char.ofNat first :: joinUnits (second :: rest)

def readString (rest : List Char) : Reading String :=
  match readUnits (rest.length + 1) rest with
  | .ok (units, rest) => .ok (String.ofList (joinUnits units), rest)
  | .error failure => .error failure

/-! ### Numbers -/

def isDecimal (c : Char) : Bool := '0' ≤ c && c ≤ '9'

def decimalNat (digits : List Char) : Nat :=
  digits.foldl (fun n c => n * 10 + (c.toNat - '0'.toNat)) 0

/-- The integer digits at the start: a zero alone, or digits that start with another. -/
def integerDigits? : List Char → Option (List Char × List Char)
  | '0' :: rest => some (['0'], rest)
  | c :: rest =>
    if isDecimal c then some (c :: rest.takeWhile isDecimal, rest.dropWhile isDecimal) else none
  | [] => none

/-- The digits after a decimal point, if there are any. -/
def fractionDigits : List Char → List Char × List Char
  | '.' :: c :: rest =>
    if isDecimal c then (c :: rest.takeWhile isDecimal, rest.dropWhile isDecimal)
    else ([], '.' :: c :: rest)
  | text => ([], text)

def startsWithDecimal : List Char → Bool
  | c :: _ => isDecimal c
  | [] => false

def exponentPart? : List Char → Option (Int × List Char)
  | [] => none
  | c :: rest =>
    if c = 'e' || c = 'E' then
      let (negative, digits) :=
        match rest with
        | '-' :: digits => (true, digits)
        | '+' :: digits => (false, digits)
        | digits => (false, digits)
      if startsWithDecimal digits then
        let magnitude : Int := decimalNat (digits.takeWhile isDecimal)
        some (if negative then -magnitude else magnitude, digits.dropWhile isDecimal)
      else none
    else none

/-- The number at the start of a text without its sign. -/
def readMagnitude? (negative : Bool) (text : List Char) : Option (Scalar × List Char) := do
  let (whole, rest) ← integerDigits? text
  let (fraction, rest) := fractionDigits rest
  let scaled (exponent : Int) : Scalar :=
    .float (.ofDecimal negative (decimalNat (whole ++ fraction)) (exponent - fraction.length))
  match exponentPart? rest with
  | some (exponent, rest) => return (scaled exponent, rest)
  | none =>
    if fraction.isEmpty then
      let magnitude : Int := decimalNat whole
      return (.int (if negative then -magnitude else magnitude), rest)
    else return (scaled 0, rest)

def readNumber? : List Char → Option (Scalar × List Char)
  | '-' :: rest => readMagnitude? true rest
  | text => readMagnitude? false text

/-! ### Values -/

mutual

/-- The value at the start of a text. A list or a mapping takes two nested calls for its opening
character; every other one starts behind one more character. So twice the length of the text bounds
the depth. -/
def readValue : (depth : Nat) → List Char → Reading Value
  | 0, text => fail .value text
  | depth + 1, text =>
    match text with
    | '"' :: rest =>
      match readString rest with
      | .ok (string, rest) => .ok (.text string, rest)
      | .error failure => .error failure
    | '\x7b' :: rest =>
      match skipSpace rest with
      | '\x7d' :: rest => .ok (.map [], rest)
      | rest => readMembers depth [] rest
    | '[' :: rest =>
      match skipSpace rest with
      | ']' :: rest => .ok (.list [], rest)
      | rest => readItems depth [] rest
    | 'n' :: 'u' :: 'l' :: 'l' :: rest => .ok (.null, rest)
    | 't' :: 'r' :: 'u' :: 'e' :: rest => .ok (.bool true, rest)
    | 'f' :: 'a' :: 'l' :: 's' :: 'e' :: rest => .ok (.bool false, rest)
    | 'N' :: 'a' :: 'N' :: rest => .ok (.float (.nan 0), rest)
    | 'I' :: 'n' :: 'f' :: 'i' :: 'n' :: 'i' :: 't' :: 'y' :: rest =>
      .ok (.float (.infinite false), rest)
    | '-' :: 'I' :: 'n' :: 'f' :: 'i' :: 'n' :: 'i' :: 't' :: 'y' :: rest =>
      .ok (.float (.infinite true), rest)
    | text =>
      match readNumber? text with
      | some (number, rest) =>
        if number.isLong then fail (.longInteger number.digitCount) text
        else .ok (.scalar number, rest)
      | none => fail .value text

/-- The items of a list from the next one on; `items` are those before, last first. -/
def readItems : (depth : Nat) → (items : List Value) → List Char → Reading Value
  | 0, _, text => fail .value text
  | depth + 1, items, text =>
    match readValue depth text with
    | .error failure => .error failure
    | .ok (item, rest) =>
      match skipSpace rest with
      | ']' :: rest => .ok (.list (item :: items).reverse, rest)
      | ',' :: rest => readItems depth (item :: items) (skipSpace rest)
      | rest => fail .comma rest

/-- The entries of a mapping from the next key on; `entries` are those before. -/
def readMembers : (depth : Nat) → (entries : Entries) → List Char → Reading Value
  | 0, _, text => fail .propertyName text
  | depth + 1, entries, text =>
    match text with
    | '"' :: rest =>
      match readString rest with
      | .error failure => .error failure
      | .ok (name, rest) =>
        match skipSpace rest with
        | ':' :: rest =>
          match readValue depth (skipSpace rest) with
          | .error failure => .error failure
          | .ok (value, rest) =>
            let entries := Entries.insert entries (.text name) value
            match skipSpace rest with
            | '\x7d' :: rest => .ok (.map entries, rest)
            | ',' :: rest => readMembers depth entries (skipSpace rest)
            | rest => fail .comma rest
        | rest => fail .colon rest
    | text => fail .propertyName text

end

def readChars (text : List Char) : Except Failure Value :=
  match text with
  | '\ufeff' :: _ => fail .byteOrderMark text
  | _ =>
    match readValue (2 * text.length + 1) (skipSpace text) with
    | .error failure => .error failure
    | .ok (value, rest) =>
      match skipSpace rest with
      | [] => .ok value
      | rest => fail .extraData rest

/-! ### Errors with their place -/

/-- An error of a whole text: what is wrong, and at which character. -/
structure ReadError where
  fault : Fault
  line : Nat
  column : Nat
  offset : Nat
  deriving DecidableEq, Repr

def ReadError.message (error : ReadError) : String :=
  match error.fault with
  | .longInteger _ => error.fault.message
  | _ => s!"{error.fault.message}: line {error.line} column {error.column} (char {error.offset})"

/-- The place of a failure: lines and columns from one, the offset from zero. -/
def Failure.locate (failure : Failure) (text : List Char) : ReadError :=
  let before := text.take (text.length - failure.remaining)
  { fault := failure.fault
    line := before.count '\n' + 1
    column := (before.reverse.takeWhile (· ≠ '\n')).length + 1
    offset := before.length }

def read (text : String) : Except ReadError Value :=
  match readChars text.toList with
  | .ok value => .ok value
  | .error failure => .error (failure.locate text.toList)

end OpenApiClient.Json
