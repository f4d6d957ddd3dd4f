/-!
# Punycode

Any text written with letters, digits and hyphens. The ASCII characters come first, with a hyphen
after them. Then numbers tell where the others are inserted, from the lowest code point on: how many
possible insertions are passed over. Their digits are `a` to `9`, the lowest first, and a number
ends with the first one below the threshold of its place, which depends on the numbers before.
-/

namespace OpenApiClient.Text.Punycode

def threshold (bias place : Nat) : Nat := min 26 (max 1 (36 * (place + 1) - bias))

theorem threshold_pos (bias place : Nat) : 0 < threshold bias place := by
  unfold threshold; omega

/-- The bias for a number that was divided so many times; it is divided further until it is small.
Every division halves it at least. -/
def damped : (fuel : Nat) → (number divisions : Nat) → Nat
  | 0, number, divisions => 36 * divisions + 36 * number / (number + 38)
  | fuel + 1, number, divisions =>
    if 455 < number then damped fuel (number / 35) (divisions + 1)
    else 36 * divisions + 36 * number / (number + 38)

/-- The bias after a number, given how many characters there are then. -/
def nextBias (number count : Nat) (isFirst : Bool) : Nat :=
  let halved := if isFirst then number / 700 else number / 2
  let start := halved + halved / count
  damped (start.log2 + 1) start 0

/-! ### Reading -/

def digitValue? (c : Char) : Option Nat :=
  if c.isLower then some (c.toNat - 'a'.toNat)
  else if c.isUpper then some (c.toNat - 'A'.toNat)
  else if c.isDigit then some (c.toNat - '0'.toNat + 26)
  else none

/-- The number at the start of digits, and the digits after it. -/
def readNumber? (bias : Nat) : (place weight number : Nat) → List Char → Option (Nat × List Char)
  | _, _, _, [] => none
  | place, weight, number, c :: rest =>
    match digitValue? c with
    | none => none
    | some digit =>
      let total := number + digit * weight
      if digit < threshold bias place then some (total, rest)
      else readNumber? bias (place + 1) (weight * (36 - threshold bias place)) total rest

/-- The code points so far, the lowest insertion that may come next, the bias, and whether it is the
first. -/
structure Insertion where
  points : List Nat
  point : Nat := 128
  next : Nat := 0
  bias : Nat := 72
  isFirst : Bool := true

/-- How a text with faults is read: not at all, or up to the fault, with question marks for code
points that are too great. -/
inductive Reading where
  | whole
  | start
  deriving DecidableEq, Repr

/-- Inserts the characters that digits tell, at least one digit each. -/
def insertAll (reading : Reading) : (fuel : Nat) → Insertion → List Char → Option (List Nat)
  | _, insertion, [] => some insertion.points
  | 0, insertion, _ => some insertion.points
  | fuel + 1, insertion, digits =>
    match readNumber? insertion.bias 0 1 0 digits with
    | none => if reading = .whole then none else some insertion.points
    | some (number, rest) =>
      let count := insertion.points.length + 1
      let position := insertion.next + number
      let point := insertion.point + position / count
      let place := position % count
      if 0x10ffff < point && reading = .whole then none
      else
        let point := if 0x10ffff < point then '?'.toNat else point
        insertAll reading fuel
          { points := insertion.points.insertIdx place point
            point
            next := place + 1
            bias := nextBias number count insertion.isFirst
            isFirst := false }
          rest

/-- The ASCII characters and the digits of a text, divided by the last hyphen. -/
def divide (text : List Char) : List Char × List Char :=
  if text.contains '-' then
    ((text.reverse.dropWhile (· ≠ '-')).tail.reverse, (text.reverse.takeWhile (· ≠ '-')).reverse)
  else ([], text)

def decode? (reading : Reading) (text : List Char) : Option (List Nat) :=
  let (plain, digits) := divide text
  insertAll reading digits.length { points := plain.map Char.toNat } digits

/-! ### Writing -/

def digit (value : Nat) : Char :=
  if value < 26 then Char.ofNat ('a'.toNat + value) else Char.ofNat ('0'.toNat + value - 26)

def writeNumber (bias place number : Nat) : List Char :=
  let limit := threshold bias place
  if number < limit then [digit number]
  else
    digit (limit + (number - limit) % (36 - limit)) ::
      writeNumber bias (place + 1) ((number - limit) / (36 - limit))
termination_by number
decreasing_by
  have := threshold_pos bias place
  have := Nat.div_le_self (number - threshold bias place) (36 - threshold bias place)
  omega

/-- The digits so far in reverse, the insertions passed over, the bias, and how many characters are
written. -/
structure Writing where
  digits : List Char := []
  number : Nat := 0
  bias : Nat := 72
  count : Nat

/-- Goes over a character while those with a code point are written. -/
def Writing.visit (plainCount point : Nat) (writing : Writing) (other : Nat) : Writing :=
  if other < point then { writing with number := writing.number + 1 }
  else if other = point then
    { digits := (writeNumber writing.bias 0 writing.number).reverse ++ writing.digits
      number := 0
      bias := nextBias writing.number (writing.count + 1) (writing.count = plainCount)
      count := writing.count + 1 }
  else writing

/-- Writes the characters with code points, which ascend; `next` is the first one not passed over.
-/
def writePoints (points : List Nat) (plainCount : Nat) :
    (next : Nat) → Writing → List Nat → Writing
  | _, writing, [] => writing
  | next, writing, point :: rest =>
    let start := { writing with number := writing.number + (point - next) * (writing.count + 1) }
    let done := points.foldl (Writing.visit plainCount point) start
    writePoints points plainCount (point + 1) { done with number := done.number + 1 } rest

def encode (points : List Nat) : List Char :=
  let plain := points.filter (· < 128)
  let others := ((points.filter (128 ≤ ·)).mergeSort (· ≤ ·)).eraseDups
  let written := writePoints points plain.length 128 { count := plain.length } others
  plain.map Char.ofNat ++ (if plain.isEmpty then [] else ['-']) ++ written.digits.reverse

end OpenApiClient.Text.Punycode
