import OpenApiClient.Number.Double

/-!
# Numbers as text

A finite number is written with the fewest digits that identify it, positionally when its point
falls within the first sixteen digits or at most three zeros precede them, and with an exponent
otherwise. A positional number shows a fraction.
-/

namespace OpenApiClient.Number

/-! ### The shortest decimal of a double -/

/-- A decimal `digits * 10 ^ exponent`. -/
structure Decimal where
  digits : Nat
  exponent : Int
  deriving DecidableEq, Repr, Inhabited

/-- Whether the fraction `a / b` is at most (or, if `strict`, below) the decimal. -/
def Decimal.exceeds (decimal : Decimal) (strict : Bool) (a b : Nat) : Bool :=
  let (left, right) :=
    if 0 ≤ decimal.exponent then (a, decimal.digits * Nat.pow 10 decimal.exponent.toNat * b)
    else (a * Nat.pow 10 (-decimal.exponent).toNat, decimal.digits * b)
  if strict then left < right else left ≤ right

/-- A positive double with the interval of reals that round to it, in quarters of `2 ^ exponent`. -/
structure RoundingInterval where
  significand : Nat
  exponent : Int

namespace RoundingInterval

/-- Whether the double below is half as far away as the one above. -/
def narrowBelow (interval : RoundingInterval) : Bool :=
  interval.significand = Nat.pow 2 52 && Double.leastExponent < interval.exponent

/-- A number of quarter units as a fraction. -/
def quarters (interval : RoundingInterval) (count : Nat) : Nat × Nat :=
  Double.ratio count (interval.exponent - 2)

def value (interval : RoundingInterval) : Nat × Nat :=
  interval.quarters (4 * interval.significand)

def readsBack (interval : RoundingInterval) (decimal : Decimal) : Bool :=
  let endsExcluded := interval.significand % 2 = 1
  let low := interval.quarters (4 * interval.significand - if interval.narrowBelow then 1 else 2)
  let high := interval.quarters (4 * interval.significand + 2)
  decimal.exceeds endsExcluded low.1 low.2 && !decimal.exceeds (!endsExcluded) high.1 high.2

/-- The least power of ten above the value, searched from `guess` on. -/
def scale (interval : RoundingInterval) : (steps : Nat) → (guess : Int) → Int
  | 0, guess => guess
  | steps + 1, guess =>
    if (Decimal.mk 1 guess).exceeds true interval.value.1 interval.value.2 then guess
    else interval.scale steps (guess + 1)

/-- The nearer of the two neighbours on the grid `10 ^ exponent` that read back; in the middle the
even one. -/
def onGrid? (interval : RoundingInterval) (exponent : Int) : Option Decimal :=
  let (a, b) := interval.value
  let (numerator, denominator) :=
    if 0 ≤ exponent then (a, b * Nat.pow 10 exponent.toNat)
    else (a * Nat.pow 10 (-exponent).toNat, b)
  let below := numerator / denominator
  let lower : Decimal := ⟨below, exponent⟩
  let upper : Decimal := ⟨below + 1, exponent⟩
  match interval.readsBack lower, interval.readsBack upper with
  | false, false => none
  | true, false => some lower
  | false, true => some upper
  | true, true =>
    let middle := (2 * below + 1) * denominator
    if 2 * numerator < middle || (2 * numerator = middle && below % 2 = 0) then some lower
    else some upper

/-- The first grid, from `length` digits on, with a decimal that reads back. -/
def search (interval : RoundingInterval) (scale : Int) : (steps length : Nat) → Decimal
  | 0, length => ⟨0, scale - length⟩
  | steps + 1, length =>
    match interval.onGrid? (scale - length) with
    | some decimal => decimal
    | none => interval.search scale steps (length + 1)

end RoundingInterval

/-- A decimal without zeros at the end of its digits. -/
def Decimal.stripZeros : (steps : Nat) → Decimal → Decimal
  | 0, decimal => decimal
  | steps + 1, decimal =>
    if decimal.digits % 10 = 0 && decimal.digits ≠ 0 then
      stripZeros steps ⟨decimal.digits / 10, decimal.exponent + 1⟩
    else decimal

/-- The shortest decimal that rounds to `significand * 2 ^ exponent`. Seventeen digits suffice. -/
def shortest (significand : Nat) (exponent : Int) : Decimal :=
  if significand = 0 then ⟨0, 0⟩
  else
    let interval : RoundingInterval := ⟨significand, exponent⟩
    let guess := (((significand.log2 : Int) + exponent) * 30103).fdiv 100000
    let scale := interval.scale 4 guess
    (interval.search scale 17 1).stripZeros 17

/-! ### The text of a number -/

/-- The words for numbers that have no decimal. -/
structure SpecialWords where
  nan : String
  infinity : String

def SpecialWords.inMessages : SpecialWords := ⟨"nan", "inf"⟩

def SpecialWords.inSource : SpecialWords := ⟨"NaN", "Infinity"⟩

def zeros (count : Nat) : String := String.ofList (List.replicate count '0')

/-- The digits of an exponent, at least two. -/
def exponentDigits (n : Nat) : String :=
  let digits := toString n
  if digits.length < 2 then "0" ++ digits else digits

/-- Positional text of digits with the point after `point` of them. -/
def positional (digits : List Char) (point : Int) : String :=
  if point ≤ 0 then "0." ++ zeros (-point).toNat ++ String.ofList digits
  else if digits.length ≤ point.toNat then
    String.ofList digits ++ zeros (point.toNat - digits.length) ++ ".0"
  else
    String.ofList (digits.take point.toNat) ++ "." ++ String.ofList (digits.drop point.toNat)

/-- Text with an exponent of digits with the point after `point` of them. -/
def scientific (digits : List Char) (point : Int) : String :=
  let mantissa :=
    match digits with
    | [] => ""
    | [digit] => String.singleton digit
    | digit :: fraction => String.singleton digit ++ "." ++ String.ofList fraction
  let exponent := point - 1
  mantissa ++ "e" ++ (if exponent < 0 then "-" else "+") ++ exponentDigits exponent.natAbs

def Decimal.text (decimal : Decimal) : String :=
  let digits := Nat.toDigits 10 decimal.digits
  let point := (digits.length : Int) + decimal.exponent
  if -4 < point && point ≤ 16 then positional digits point else scientific digits point

def text (words : SpecialWords) : Double → String
  | .nan _ => words.nan
  | .infinite negative => (if negative then "-" else "") ++ words.infinity
  | .finite negative significand exponent =>
    (if negative then "-" else "") ++ (shortest significand exponent).text

end OpenApiClient.Number
