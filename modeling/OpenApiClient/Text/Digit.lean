import OpenApiClient.Text.Ranges

/-!
# Blanks, letters and digits

A *decimal digit* has a value from zero to nine in a positional system; the wider class of *digits*
takes in superscripts, circled numbers and the like. A text of digits may therefore denote no
integer. Nor does it if it has more digits than are read.
-/

namespace OpenApiClient.Text

/-! ### White space -/

def blankRanges : Ranges :=
  [(0x0009, 0x000d), (0x001c, 0x0020), (0x0085, 0x0085), (0x00a0, 0x00a0), (0x1680, 0x1680),
   (0x2000, 0x200a), (0x2028, 0x2029), (0x202f, 0x202f), (0x205f, 0x205f), (0x3000, 0x3000)]

def isBlank (c : Char) : Bool := blankRanges.contains c.toNat

/-- The characters without the white space at both ends. -/
def trimBlank (text : List Char) : List Char :=
  ((text.dropWhile isBlank).reverse.dropWhile isBlank).reverse

/-- Whether a character may stand around a number: white space but for the separators of files,
groups, records and units. -/
def isNumberBlank (c : Char) : Bool := isBlank c && !(0x1c ≤ c.toNat && c.toNat ≤ 0x1f)

/-- The characters without what may stand around a number. -/
def trimNumber (text : List Char) : List Char :=
  ((text.dropWhile isNumberBlank).reverse.dropWhile isNumberBlank).reverse

def isBlankText (text : String) : Bool := text.toList.all isBlank

/-! ### Letter case, as far as ASCII words can tell -/

/-- A character in lower case. The dotted capital I becomes an i with a combining dot, the Kelvin
sign a k. Other letters outside ASCII stay as they are, which no comparison with an ASCII word sees.
-/
def lowerChar (c : Char) : List Char :=
  if c = '\u0130' then ['i', '\u0307']
  else if c = '\u212a' then ['k']
  else [c.toLower]

/-- A text in lower case, as far as ASCII words can tell. -/
def lower (text : List Char) : List Char := text.flatMap lowerChar

/-- Whether a character is the given small ASCII letter, in any case. The dotted and the dotless i
count as i, the long s as s. -/
def isLetter (letter c : Char) : Bool :=
  c.toLower = letter ||
    (letter = 'i' && (c = '\u0130' || c = '\u0131')) ||
    (letter = 's' && c = '\u017f') ||
    (letter = 'k' && c = '\u212a')

/-- What follows a word in small ASCII letters, which may be in any case. -/
def afterWord? : (word text : List Char) → Option (List Char)
  | [], text => some text
  | letter :: word, c :: text => if isLetter letter c then afterWord? word text else none
  | _ :: _, [] => none

/-! ### Digits -/

/-- The digit zero of every script with decimal digits; the other nine follow it. -/
def decimalZeros : List Nat :=
  [0x0030, 0x0660, 0x06f0, 0x07c0, 0x0966, 0x09e6, 0x0a66, 0x0ae6, 0x0b66, 0x0be6,
   0x0c66, 0x0ce6, 0x0d66, 0x0de6, 0x0e50, 0x0ed0, 0x0f20, 0x1040, 0x1090, 0x17e0,
   0x1810, 0x1946, 0x19d0, 0x1a80, 0x1a90, 0x1b50, 0x1bb0, 0x1c40, 0x1c50, 0xa620,
   0xa8d0, 0xa900, 0xa9d0, 0xa9f0, 0xaa50, 0xabf0, 0xff10, 0x104a0, 0x10d30, 0x11066,
   0x110f0, 0x11136, 0x111d0, 0x112f0, 0x11450, 0x114d0, 0x11650, 0x116c0, 0x11730, 0x118e0,
   0x11950, 0x11c50, 0x11d50, 0x11da0, 0x16a60, 0x16ac0, 0x16b50, 0x1d7ce, 0x1d7d8, 0x1d7e2,
   0x1d7ec, 0x1d7f6, 0x1e140, 0x1e2f0, 0x1e950, 0x1fbf0]

/-- The code points that are digits without being decimal digits. -/
def otherDigitRanges : Ranges :=
  [(0x00b2, 0x00b3), (0x00b9, 0x00b9), (0x1369, 0x1371), (0x19da, 0x19da),
   (0x2070, 0x2070), (0x2074, 0x2079), (0x2080, 0x2089), (0x2460, 0x2468),
   (0x2474, 0x247c), (0x2488, 0x2490), (0x24ea, 0x24ea), (0x24f5, 0x24fd),
   (0x24ff, 0x24ff), (0x2776, 0x277e), (0x2780, 0x2788), (0x278a, 0x2792),
   (0x10a40, 0x10a43), (0x10e60, 0x10e68), (0x11052, 0x1105a), (0x1f100, 0x1f10a)]

def decimalValue? (c : Char) : Option Nat :=
  (decimalZeros.find? fun first => first ≤ c.toNat && c.toNat ≤ first + 9).map (c.toNat - ·)

def isDigit (c : Char) : Bool :=
  (decimalValue? c).isSome || otherDigitRanges.contains c.toNat

def isDigitText (text : String) : Bool := !text.isEmpty && text.toList.all isDigit

/-- The number written by decimal digits, with single underscores between two of them. `value` is
what came before. -/
def digitsValue? (value : Nat) : List Char → Option Nat
  | [] => some value
  | '_' :: c :: rest => do digitsValue? (value * 10 + (← decimalValue? c)) rest
  | c :: rest => do digitsValue? (value * 10 + (← decimalValue? c)) rest

/-- A number that starts with a digit, however many follow. -/
def numeralValue? : List Char → Option Nat
  | [] => none
  | c :: rest => do digitsValue? (← decimalValue? c) rest

/-- The most decimal digits that are read as a number or written for one. -/
def digitLimit : Nat := 4300

/-- How many digits a number is written with, zeros in front included. -/
def digitCount (digits : List Char) : Nat := digits.countP (· ≠ '_')

def natValue? (digits : List Char) : Option Nat :=
  if digitCount digits ≤ digitLimit then numeralValue? digits else none

/-- The index that digits name. There may be more of them than are read if none is a zero in front:
no list is long enough to have an item there. -/
def indexValue? (digits : List Char) : Option Nat :=
  (numeralValue? digits).filter fun n =>
    digitCount digits ≤ max digitLimit (Nat.toDigits 10 n).length

/-- The number that a text denotes with a sign before it, perhaps, and blanks around. -/
def signedValue? (number? : List Char → Option Nat) (text : String) : Option Int :=
  match trimNumber text.toList with
  | '-' :: digits => (number? digits).map fun n => -(n : Int)
  | '+' :: digits => (number? digits).map Int.ofNat
  | digits => (number? digits).map Int.ofNat

/-- The integer a text denotes: decimal digits of any script, no more than are read, perhaps with a
sign before them, blanks around and single underscores between. -/
def intValue? : String → Option Int := signedValue? natValue?

end OpenApiClient.Text
