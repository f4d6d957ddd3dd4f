

/-!
# Characters written in two halves

A character outside the basic plane is written by two escapes, a leading and a trailing half.
-/

namespace OpenApiClient.Text

/-! ### Hexadecimal digits -/

def hexValue? (c : Char) : Option Nat :=
  if '0' ≤ c && c ≤ '9' then some (c.toNat - '0'.toNat)
  else if 'a' ≤ c && c ≤ 'f' then some (c.toNat - 'a'.toNat + 10)
  else if 'A' ≤ c && c ≤ 'F' then some (c.toNat - 'A'.toNat + 10)
  else none

/-! ### Halves -/

def isLeadingHalf (unit : Nat) : Bool := 0xd800 ≤ unit && unit < 0xdc00

def isTrailingHalf (unit : Nat) : Bool := 0xdc00 ≤ unit && unit < 0xe000

def joinHalves (leading trailing : Nat) : Char :=
  Char.ofNat (0x10000 + (leading - 0xd800) * 0x400 + (trailing - 0xdc00))

/-- What stands for a half alone: a code point that is no character. -/
def loneHalf : Char := '\ufffe'

/-- The character of a code point, where halves stand alone. -/
def pointChar (point : Nat) : Char := if point.isValidChar then Char.ofNat point else loneHalf

def charsOf : List Nat → List Char
  | [] => []
  | [point] => [pointChar point]
  | first :: second :: rest =>
    if isLeadingHalf first && isTrailingHalf second then joinHalves first second :: charsOf rest
    else pointChar first :: charsOf (second :: rest)

end OpenApiClient.Text
