import OpenApiClient.Timestamp
import OpenApiClient.Yaml.Scalar

/-!
# The tags of YAML nodes

A plain scalar without a tag gets one by its form: truth values have six words in three spellings
each, a floating-point number needs a point, integers may be in base two, eight, ten, sixteen and
sixty.
-/

namespace OpenApiClient.Yaml

/-! ## Dates and times in YAML -/

/-! ### The written form -/

/-- The zone of a time: universal time, or signed hours and minutes. -/
inductive ZoneText where
  | universal
  | offset (negative : Bool) (hours minutes : List Char)

/-- The digits of a time of day. -/
structure TimeText where
  hour : List Char
  minute : List Char
  second : List Char
  fraction : List Char
  zone : Option ZoneText

/-- The digits of a date, and of the time of day if there is one. -/
structure TimestampText where
  year : List Char
  month : List Char
  day : List Char
  time : Option TimeText

def isDecimal (c : Char) : Bool := '0' ≤ c && c ≤ '9'

def isGap (c : Char) : Bool := c = ' ' || c = '\t'

/-- One or two digits at the start of a text, and the rest. -/
def shortDigits? : List Char → Option (List Char × List Char)
  | a :: b :: rest =>
    if isDecimal a then if isDecimal b then some ([a, b], rest) else some ([a], b :: rest) else none
  | [a] => if isDecimal a then some ([a], []) else none
  | [] => none

def twoDigits? (text : List Char) : Option (List Char × List Char) :=
  (shortDigits? text).filter (·.1.length = 2)

def after? (c : Char) : List Char → Option (List Char)
  | d :: rest => if c = d then some rest else none
  | [] => none

def zoneText? : List Char → Option ZoneText
  | ['Z'] => some .universal
  | sign :: rest =>
    if sign = '+' || sign = '-' then do
      let (hours, rest) ← shortDigits? rest
      if rest.isEmpty then return .offset (sign = '-') hours []
      let (minutes, rest) ← twoDigits? (← after? ':' rest)
      if rest.isEmpty then return .offset (sign = '-') hours minutes else none
    else none
  | [] => none

def timeText? (text : List Char) : Option TimeText := do
  let (hour, rest) ← shortDigits? text
  let (minute, rest) ← twoDigits? (← after? ':' rest)
  let (second, rest) ← twoDigits? (← after? ':' rest)
  let (fraction, rest) :=
    match rest with
    | '.' :: rest => (rest.takeWhile isDecimal, rest.dropWhile isDecimal)
    | rest => ([], rest)
  if rest.isEmpty then return ⟨hour, minute, second, fraction, none⟩
  return ⟨hour, minute, second, fraction, some (← zoneText? (rest.dropWhile isGap))⟩

/-- What follows the separator between a date and a time. -/
def afterSeparator? : List Char → Option (List Char)
  | c :: rest =>
    if c = 'T' || c = 't' then some rest
    else if isGap c then some (rest.dropWhile isGap)
    else none
  | [] => none

def timestampText? (text : List Char) : Option TimestampText := do
  let year := text.takeWhile isDecimal
  if year.length ≠ 4 then none
  let (month, rest) ← shortDigits? (← after? '-' (text.dropWhile isDecimal))
  let (day, rest) ← shortDigits? (← after? '-' rest)
  if rest.isEmpty then return ⟨year, month, day, none⟩
  return ⟨year, month, day, some (← timeText? (← afterSeparator? rest))⟩

/-- Whether a plain text is a timestamp; a date alone has two digits for the month and the day. -/
def isTimestamp (text : List Char) : Bool :=
  match timestampText? text with
  | some stamp => stamp.time.isSome || (stamp.month.length = 2 && stamp.day.length = 2)
  | none => false

/-! ### The moment it denotes -/

def decimalNat (digits : List Char) : Nat := (digitsValue? 10 digits).getD 0

/-- The clock a text shows. Only six places of a fraction count. -/
def TimeText.clock (text : TimeText) : Clock where
  hour := decimalNat text.hour
  minute := decimalNat text.minute
  second := decimalNat text.second
  microsecond := decimalNat ((text.fraction ++ List.replicate 6 '0').take 6)
  offset := text.zone.map fun
    | .universal => 0
    | .offset negative hours minutes =>
      let distance : Int := (decimalNat hours * 60 + decimalNat minutes : Nat)
      if negative then -distance else distance

def TimestampText.timestamp (text : TimestampText) : Timestamp where
  year := decimalNat text.year
  month := decimalNat text.month
  day := decimalNat text.day
  clock := text.time.map TimeText.clock

def dropNewline (text : List Char) : List Char :=
  if text.getLast? = some '\n' then text.dropLast else text

/-- Reads the timestamp that a text is, perhaps with a newline. -/
def readTimestamp (text : List Char) : Except Error Timestamp :=
  match timestampText? (dropNewline text) with
  | some written =>
    let stamp := written.timestamp
    if stamp.exists? then .ok stamp else .error .noSuchValue
  | none => .error .noTimestamp

/-! ## Tags -/

inductive Tag where
  | null
  | bool
  | int
  | float
  | timestamp
  | binary
  | text
  | sequence
  | mapping
  | set
  | orderedMapping
  | pairs
  | merge
  | defaultKey
  | other (name : String)
  deriving DecidableEq, Repr

namespace Tag

/-- What the names of all known tags start with. -/
def commonStart : String := "tag:yaml.org,2002:"

def ofName (name : String) : Tag :=
  match name with
  | "tag:yaml.org,2002:null" => .null
  | "tag:yaml.org,2002:bool" => .bool
  | "tag:yaml.org,2002:int" => .int
  | "tag:yaml.org,2002:float" => .float
  | "tag:yaml.org,2002:timestamp" => .timestamp
  | "tag:yaml.org,2002:binary" => .binary
  | "tag:yaml.org,2002:str" => .text
  | "tag:yaml.org,2002:seq" => .sequence
  | "tag:yaml.org,2002:map" => .mapping
  | "tag:yaml.org,2002:set" => .set
  | "tag:yaml.org,2002:omap" => .orderedMapping
  | "tag:yaml.org,2002:pairs" => .pairs
  | "tag:yaml.org,2002:merge" => .merge
  | "tag:yaml.org,2002:value" => .defaultKey
  | name => .other name

/-! ### The forms of plain scalars -/

def truthWords : List String :=
  ["yes", "Yes", "YES", "no", "No", "NO", "true", "True", "TRUE", "false", "False", "FALSE",
   "on", "On", "ON", "off", "Off", "OFF"]

def nullWords : List String := ["", "~", "null", "Null", "NULL"]

def dropSign : List Char → List Char
  | c :: rest => if c = '+' || c = '-' then rest else c :: rest
  | [] => []

/-- Whether a character may follow the first digit of a number. -/
def isGroupedDigit (c : Char) : Bool := isDecimal c || c = '_'

/-- What follows a digit and further digits and underscores. -/
def afterDigits? : List Char → Option (List Char)
  | c :: rest => if isDecimal c then some (rest.dropWhile isGroupedDigit) else none
  | [] => none

def isExponent : List Char → Bool
  | [] => true
  | e :: sign :: digits =>
    (e = 'e' || e = 'E') && (sign = '+' || sign = '-') && !digits.isEmpty && digits.all isDecimal
  | _ => false

/-- What follows one or more digits in base sixty after colons. -/
def afterSixties? : List Char → Option (List Char)
  | ':' :: a :: b :: rest =>
    if '0' ≤ a && a ≤ '5' && isDecimal b then some ((afterSixties? rest).getD rest)
    else if isDecimal a then some ((afterSixties? (b :: rest)).getD (b :: rest))
    else none
  | [':', a] => if isDecimal a then some [] else none
  | _ => none

def isFraction : List Char → Bool
  | '.' :: rest => isExponent (rest.dropWhile isGroupedDigit)
  | _ => false

def isPlainFraction : List Char → Bool
  | '.' :: rest => rest.all isGroupedDigit
  | _ => false

def startsWithFraction : List Char → Bool
  | '.' :: c :: _ => isDecimal c
  | _ => false

def isFloat (text : List Char) : Bool :=
  let unsigned := dropSign text
  (afterDigits? unsigned).any isFraction ||
    (startsWithFraction text && isFraction text) ||
    ((afterDigits? unsigned).bind afterSixties?).any isPlainFraction ||
    [".inf", ".Inf", ".INF"].contains (String.ofList unsigned) ||
    [".nan", ".NaN", ".NAN"].contains (String.ofList text)

def isDigitGroup (base : Nat) (text : List Char) : Bool :=
  !text.isEmpty && text.all fun c => c = '_' || (digitValue? base c).isSome

def isNatural : List Char → Bool
  | '0' :: 'b' :: digits => isDigitGroup 2 digits
  | '0' :: 'x' :: digits => isDigitGroup 16 digits
  | '0' :: rest => rest.isEmpty || isDigitGroup 8 rest
  | digits =>
    match afterDigits? digits with
    | some [] => true
    | some rest => afterSixties? rest = some []
    | none => false

/-- The tag by the form of a plain scalar, without a newline at its end. -/
def ofPlain (text : String) : Tag :=
  let body := dropNewline text.toList
  let word := String.ofList body
  if truthWords.contains word then .bool
  else if isFloat body then .float
  else if isNatural (dropSign body) then .int
  else if word = "<<" then .merge
  else if nullWords.contains word && (text.isEmpty || !body.isEmpty) then .null
  else if isTimestamp body then .timestamp
  else if word = "=" then .defaultKey
  else .text

end Tag

end OpenApiClient.Yaml
