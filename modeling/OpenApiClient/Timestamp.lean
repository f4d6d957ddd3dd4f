/-!
# Dates and times

A timestamp is a date, perhaps with a time of day and an offset from universal time.
-/

namespace OpenApiClient

/-- A time of day, with an offset in minutes. -/
structure Clock where
  hour : Nat
  minute : Nat
  second : Nat
  microsecond : Nat
  offset : Option Int
  deriving DecidableEq, Repr

structure Timestamp where
  year : Nat
  month : Nat
  day : Nat
  clock : Option Clock
  deriving DecidableEq, Repr

/-- Whether there is such a time: offsets stay below a day. -/
def Clock.exists? (clock : Clock) : Bool :=
  clock.hour < 24 && clock.minute < 60 && clock.second < 60 &&
    clock.offset.all fun minutes => minutes.natAbs < 24 * 60

namespace Timestamp

def isLeapYear (year : Nat) : Bool := year % 4 = 0 && (year % 100 ≠ 0 || year % 400 = 0)

def monthLengths (year : Nat) : List Nat :=
  [31, if isLeapYear year then 29 else 28, 31, 30, 31, 30, 31, 31, 30, 31, 30, 31]

/-- Whether there is such a date and time, from year one on. -/
def exists? (stamp : Timestamp) : Bool :=
  1 ≤ stamp.year && 1 ≤ stamp.month && stamp.month ≤ 12 && 1 ≤ stamp.day &&
    stamp.day ≤ (monthLengths stamp.year).getD (stamp.month - 1) 0 &&
    stamp.clock.all Clock.exists?

def dayNumber (stamp : Timestamp) : Nat :=
  let years := stamp.year - 1
  years * 365 + years / 4 - years / 100 + years / 400 +
    ((monthLengths stamp.year).take (stamp.month - 1)).foldl (· + ·) 0 + stamp.day

/-- The moment in universal time: minutes, and microseconds below a minute. -/
def instant (stamp : Timestamp) (clock : Clock) (offset : Int) : Int × Nat :=
  (stamp.dayNumber * 1440 + clock.hour * 60 + clock.minute - offset,
    clock.second * 1000000 + clock.microsecond)

/-- Whether two timestamps are the same; times with an offset are compared as moments. -/
def sameValue (a b : Timestamp) : Bool :=
  match a.clock, b.clock with
  | some c, some d =>
    match c.offset, d.offset with
    | some m, some n => a.instant c m = b.instant d n
    | _, _ => a = b
  | _, _ => a = b

/-! ### The international form -/

def padded (width n : Nat) : String :=
  let digits := Nat.toDigits 10 n
  String.ofList (List.replicate (width - digits.length) '0' ++ digits)

def offsetText (minutes : Int) : String :=
  let distance := minutes.natAbs
  (if minutes < 0 then "-" else "+") ++ padded 2 (distance / 60) ++ ":" ++ padded 2 (distance % 60)

def clockText (clock : Clock) : String :=
  padded 2 clock.hour ++ ":" ++ padded 2 clock.minute ++ ":" ++ padded 2 clock.second ++
    (if clock.microsecond = 0 then "" else "." ++ padded 6 clock.microsecond) ++
    (clock.offset.map offsetText).getD ""

def text (stamp : Timestamp) : String :=
  padded 4 stamp.year ++ "-" ++ padded 2 stamp.month ++ "-" ++ padded 2 stamp.day ++
    (stamp.clock.map fun clock => "T" ++ clockText clock).getD ""

/-! ### The form in messages -/

def kindWord (stamp : Timestamp) : String := if stamp.clock.isSome then "datetime" else "date"

/-- An offset shown as days and the seconds that they leave. -/
def shownOffset (minutes : Int) : String :=
  if minutes = 0 then "datetime.timezone.utc"
  else
    let seconds := toString (60 * (minutes % 1440))
    "datetime.timezone(datetime.timedelta(" ++ (if minutes < 0 then "days=-1, " else "") ++
      "seconds=" ++ seconds ++ "))"

/-- A timestamp shown exactly, without the zeros at its end. -/
def shown (stamp : Timestamp) : String :=
  let date := [stamp.year, stamp.month, stamp.day]
  let numbers :=
    match stamp.clock with
    | none => date
    | some clock =>
      date ++ [clock.hour, clock.minute] ++
        (if clock.microsecond ≠ 0 then [clock.second, clock.microsecond]
         else if clock.second ≠ 0 then [clock.second]
         else [])
  let zone := (stamp.clock.bind (·.offset)).map fun minutes => "tzinfo=" ++ shownOffset minutes
  "datetime." ++ stamp.kindWord ++ "(" ++ ", ".intercalate (numbers.map toString ++ zone.toList) ++
    ")"

end Timestamp

end OpenApiClient
