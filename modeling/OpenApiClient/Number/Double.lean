/-!
# Double-precision numbers

A binary floating-point number with a significand of 53 bits, kept as integers, so that operations
are exact followed by one rounding to the nearest number, a tie going to the even significand.
-/

namespace OpenApiClient

/-- A double-precision number. A finite one is `significand * 2 ^ exponent` with its sign; the
significand has 53 bits unless the exponent is the least one. What is not a number carries a
payload. -/
inductive Double where
  | nan (payload : Nat)
  | infinite (negative : Bool)
  | finite (negative : Bool) (significand : Nat) (exponent : Int)
  deriving DecidableEq, Repr, Inhabited

namespace Double

def leastExponent : Int := -1074

def greatestExponent : Int := 971

def zero (negative : Bool) : Double := .finite negative 0 leastExponent

/-- The integer nearest to a fraction; a tie goes to the even one. -/
def nearestEven (numerator denominator : Nat) : Nat :=
  let quotient := numerator / denominator
  let remainder := numerator % denominator
  if denominator < 2 * remainder || (2 * remainder = denominator && quotient % 2 = 1) then
    quotient + 1
  else
    quotient

/-- A fraction divided by a power of two, again as a fraction. -/
def divPowTwo (numerator denominator : Nat) (exponent : Int) : Nat × Nat :=
  if 0 ≤ exponent then (numerator, denominator * Nat.pow 2 exponent.toNat)
  else (numerator * Nat.pow 2 (-exponent).toNat, denominator)

/-- The number nearest to a fraction, perhaps infinite. -/
def ofRatio (negative : Bool) (numerator denominator : Nat) : Double :=
  if numerator = 0 then zero negative
  else
    let guess := max ((numerator.log2 : Int) - denominator.log2 - 53) leastExponent
    let atGuess := divPowTwo numerator denominator guess
    let exponent := if Nat.pow 2 53 ≤ atGuess.1 / atGuess.2 then guess + 1 else guess
    let scaled := divPowTwo numerator denominator exponent
    let rounded := nearestEven scaled.1 scaled.2
    let (significand, exponent) :=
      if rounded = Nat.pow 2 53 then (Nat.pow 2 52, exponent + 1) else (rounded, exponent)
    if greatestExponent < exponent then .infinite negative
    else .finite negative significand exponent

/-- The number nearest to `digits * 10 ^ exponent`. Exponents far out of range are settled without
the power. -/
def ofDecimal (negative : Bool) (digits : Nat) (exponent : Int) : Double :=
  if digits = 0 then zero negative
  else
    let magnitude := ((Nat.toDigits 10 digits).length : Int) + exponent
    if 400 < magnitude then .infinite negative
    else if magnitude < -400 then zero negative
    else if 0 ≤ exponent then ofRatio negative (digits * Nat.pow 10 exponent.toNat) 1
    else ofRatio negative digits (Nat.pow 10 (-exponent).toNat)

def ofNat (n : Nat) : Double := ofRatio false n 1

def ratio (significand : Nat) (exponent : Int) : Nat × Nat :=
  divPowTwo significand 1 (-exponent)

def neg : Double → Double
  | .nan payload => .nan payload
  | .infinite negative => .infinite !negative
  | .finite negative significand exponent => .finite (!negative) significand exponent

def add : Double → Double → Double
  | .nan payload, _ => .nan payload
  | _, .nan payload => .nan payload
  | .infinite s, .infinite t => if s = t then .infinite s else .nan 0
  | .infinite s, .finite .. => .infinite s
  | .finite .., .infinite t => .infinite t
  | .finite s m e, .finite t n f =>
    let (a, b) := ratio m e
    let (c, d) := ratio n f
    let signed (negative : Bool) (n : Nat) : Int := if negative then -(n : Int) else n
    let total := signed s (a * d) + signed t (c * b)
    if total = 0 then zero (s && t) else ofRatio (total < 0) total.natAbs (b * d)

def mul : Double → Double → Double
  | .nan payload, _ => .nan payload
  | _, .nan payload => .nan payload
  | .infinite s, .infinite t => .infinite (s != t)
  | .infinite s, .finite t n _ => if n = 0 then .nan 0 else .infinite (s != t)
  | .finite s m _, .infinite t => if m = 0 then .nan 0 else .infinite (s != t)
  | .finite s m e, .finite t n f =>
    let (a, b) := ratio m e
    let (c, d) := ratio n f
    ofRatio (s != t) (a * c) (b * d)

/-- The integer a number is equal to, if there is one. -/
def toInt? : Double → Option Int
  | .finite negative significand exponent =>
    let (numerator, denominator) := ratio significand exponent
    if numerator % denominator = 0 then
      let magnitude : Int := (numerator / denominator : Nat)
      some (if negative then -magnitude else magnitude)
    else none
  | _ => none

/-- Whether two numbers have the same value: both zeros do, and what is not a number if the payloads
agree. -/
def sameValue : Double → Double → Bool
  | .finite s m e, .finite t n f => (m = 0 && n = 0) || (s = t && m = n && e = f)
  | d, e => d = e

end Double

end OpenApiClient
