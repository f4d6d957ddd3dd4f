/-!
# Packed numbers

Large tables are packed into text. Every number is a sequence of bits; how likely a one is next
follows from what came before in the same situations. The text, as digits with base 90, is the
number that narrows an interval down when each bit takes its share of it. What the numbers mean, and
in which situations they stand, is up to the table.
-/

namespace OpenApiClient.Packed

/-! ### Situations -/

/-- A number below 2147483647 without a pattern. -/
def combine (first second : UInt64) : UInt64 :=
  (first + second + 1) * 1540483477 % 2147483647

/-- A situation of some kind, as a number. -/
def situation (kind first second third : UInt64) : UInt32 :=
  (combine (combine (combine (combine 0 kind) first) second) third).toUInt32

/-! ### Estimates -/

/-- The chances, out of 4096, for every 128th of the odds from -2048 on. -/
def someChances : Array Nat :=
  #[1, 2, 3, 6, 10, 16, 27, 45, 73, 120, 194, 310, 488, 747, 1101, 1546, 2047, 2549, 2994, 3348,
    3607, 3785, 3901, 3975, 4022, 4050, 4068, 4079, 4085, 4089, 4092, 4093, 4094]

def chances : Array Nat :=
  (Array.range 4096).map fun odds =>
    let part := odds % 128
    (someChances.getD (odds / 128) 0 * (128 - part) + someChances.getD (odds / 128 + 1) 0 * part +
      64) / 128

def oddsTable : Array Int32 :=
  let table := (List.range 4095).foldl (fun (table : Array Int32) (index : Nat) =>
    table ++ Array.replicate (chances.getD (index + 1) 0 + 1 - table.size)
      (Int32.ofNat index - 2047)) #[]
  table.push 2047

/-- A share of ones after one more bit, which counts `5 / parts`. -/
def moved (share : UInt32) (bit : Bool) (parts : UInt32) : UInt32 :=
  if bit then share + (0xffff - share) * 5 / parts else share - share * 5 / parts

/-- A situation: a mark of it, up to three last bits after a one, how often it came, and the share of
ones. -/
abbrev Slot := UInt32

namespace Slot

/-- The slot of a situation that has not come yet. -/
def fresh (key : UInt32) : Slot := key >>> 25 <<< 25 ||| 0x208000

/-- The odds of a one by a share of ones, none if the situation has not come yet. -/
def odds (slot : Slot) (share : UInt32) : Int32 :=
  if slot >>> 16 &&& 31 = 0 then 0 else oddsTable.getD (share >>> 4 &&& 0xfff).toNat 0

/-- A slot after one more bit. The first bits count most. -/
def learn (slot : Slot) (bit : Bool) : Slot :=
  let times := slot >>> 16 &&& 31
  let last := (slot >>> 20 &&& 30) + bit.toUInt32
  slot >>> 25 <<< 25 ||| (if last < 16 then last else last &&& 7 ||| 8) <<< 21 |||
    (if times < 30 then times + 1 else 30) <<< 16 ||| moved (slot &&& 0xffff) bit (5 * times + 6)

end Slot

/-- What is known about situations, the shares of ones after their last bits, and how much both
count. -/
structure Knowledge where
  slots : Array Slot
  shares : Array UInt32
  weights : Array Int32

namespace Knowledge

def place (key : UInt32) : Nat := (key &&& 0x3fffff).toNat

def slot (slots : Array Slot) (key : UInt32) : Slot :=
  let found := slots.getD (place key) 0
  if found >>> 25 = key >>> 25 then found else .fresh key

/-- The largest number of situations that a bit is in. -/
def width : Nat := 16

/-- Where the share for the last bits of a slot is. -/
def past (index : Nat) (slot : Slot) : Nat := width * index + (slot >>> 21 &&& 15).toNat

/-- Adds up the odds of a one in several situations, weighted from two places on. -/
def odds (known : Knowledge) (node : UInt32) (row other : Nat) (sum : Int64) :
    (index : Nat) → (keys : List UInt32) → Int64
  | _, [] => sum
  | index, key :: keys =>
    let found := slot known.slots (key + node)
    let weigh (index : Nat) (share : UInt32) : Int64 :=
      (known.weights.getD (row + index) 0 + known.weights.getD (other + index) 0).toInt64 *
        (found.odds share).toInt64
    let share := known.shares.getD (past index found) 0
    odds known node row other (sum + weigh index found + weigh (index + width) share) (index + 1) keys

/-- The weights at two places after a change. -/
def adjust (weights : Array Int32) (row other : Nat) (change : Int32) : Array Int32 :=
  let change := (change + 2048) >>> 12
  (weights.modify row (· + change)).modify other (· + change)

/-- What is known after a bit, given how far the estimate was off. -/
def learn (bit : Bool) (error : Int32) (node : UInt32) (row other : Nat) :
    (index : Nat) → (keys : List UInt32) → Knowledge → Knowledge
  | _, [], known => known
  | index, key :: keys, ⟨slots, shares, weights⟩ =>
    let found := slot slots (key + node)
    let share := shares.getD (past index found) 0
    let weights := adjust weights (row + index) (other + index) (found.odds found * error)
    learn bit error node row other (index + 1) keys
      ⟨slots.setIfInBounds (place (key + node)) (found.learn bit),
        shares.setIfInBounds (past index found) (moved share bit 320),
        adjust weights (row + index + width) (other + index + width) (found.odds share * error)⟩

end Knowledge

/-! ### Bits -/

/-- How far a packed text has been read: what is known, the digits to come, and the interval with
the place in it so far. -/
structure Unpacking where
  known : Knowledge
  digits : List Char
  low : UInt64
  high : UInt64
  value : UInt64

namespace Unpacking

/-- The value of a digit: visible signs but for quotes, backslashes and braces. -/
def digit (c : Char) : UInt64 :=
  let skipped := ['\"', '\\', '\x7b', '\x7d'].filter (· < c)
  (c.toNat - 33 - skipped.length).toUInt64

/-- The weight of the first digit in an interval. -/
def leading : UInt64 := 531441000000

/-- Reads digits as long as the ends of the interval share the first one. -/
def readDigits : (fuel : Nat) → Unpacking → Unpacking
  | 0, state => state
  | fuel + 1, state =>
    if state.low / leading = state.high / leading then
      readDigits fuel { state with
        digits := state.digits.tail
        low := state.low % leading * 90
        high := state.high % leading * 90 + 89
        value := state.value % leading * 90 + state.digits.head?.elim 0 digit }
    else state

/-- The beginning of a packed text, in which blanks say nothing, with rows of weights. -/
def start (text : String) (rows : Nat) : Unpacking :=
  let known := { slots := .replicate 0x400000 0x208000, shares := .replicate 256 0x8000,
                 weights := .replicate (rows * 32) 6553 }
  let digits := text.toList.filter fun c => c ≠ ' ' && c ≠ '\n'
  readDigits 7 { known, digits, low := 0, high := 0, value := 0 }

def readBit (state : Unpacking) (keys : List UInt32) (node : UInt32) (row other : Nat) :
    Bool × Unpacking :=
  let ⟨known, digits, low, high, value⟩ := state
  let odds := known.odds node (row * 32) (other * 32) 0 0 keys >>> 17
  let chance :=
    if odds > 2047 then 4095 else if odds < -2047 then 1
    else chances.getD (odds + 2048).toInt.toNat 0
  let middle := low + (high - low) * chance.toUInt64 / 4096
  let bit : Bool := value ≤ middle
  let error := (if bit then 4096 else 0) - Int32.ofNat chance
  let known := known.learn bit error node (row * 32) (other * 32) 0 keys
  let (low, high) := if bit then (low, middle) else (middle + 1, high)
  (bit, readDigits 7 { known, digits, low, high, value })

/-! ### Numbers -/

/-- Reads the rest of the bits after a one, where `path` are those so far. Short paths have rows of
weights of their own. -/
def readPath (keys : List UInt32) (node : Nat → Nat) (row other : Nat) :
    (rest path : Nat) → Unpacking → Nat × Unpacking
  | 0, path, state => (path, state)
  | rest + 1, path, state =>
    let (bit, state) := state.readBit keys (node path).toUInt32 (row + min path 63) other
    readPath keys node row other rest (2 * path + bit.toNat) state

def readFixed (state : Unpacking) (keys : List UInt32) (row other length : Nat) :
    Nat × Unpacking :=
  let (path, state) := readPath keys id row other length 1 state
  (path - (1 <<< length), state)

/-- Reads how many bits come after the first of a number. -/
def readLength (keys : List UInt32) (other : Nat) :
    (fuel length : Nat) → Unpacking → Nat × Unpacking
  | 0, length, state => (length, state)
  | fuel + 1, length, state =>
    match state.readBit keys length.toUInt32 length other with
    | (true, state) => readLength keys other fuel (length + 1) state
    | (false, state) => (length, state)

def readNumber (state : Unpacking) (keys : List UInt32) (other : Nat) : Nat × Unpacking :=
  let (length, state) := readLength keys other 24 0 state
  let (path, state) := readPath keys (32 * · + length) 0 other length 1 state
  (path - 1, state)

end Unpacking

/-! ### Lists -/

/-- How far a list has been read: its number, how many items came, the last one, and the last three
steps between items. -/
structure Walk where
  list : UInt64
  index : UInt64 := 0
  item : UInt64 := 0
  step : UInt64 := 0
  before : UInt64 := 0
  earlier : UInt64 := 0

namespace Walk

/-- The situations that the next step is in. -/
def keys (walk : Walk) : List UInt32 :=
  let ⟨list, index, item, step, before, earlier⟩ := walk
  [situation 0 list 0 0, situation 1 step 0 0, situation 2 step before 0,
    situation 3 step before earlier, situation 4 item 0 0, situation 5 item step 0,
    situation 6 before 0 0, situation 7 item index 0, situation 8 (item >>> 4) 0 0]

/-- The item a step away: the odd steps lead up and the even ones down. -/
def itemAfter (item step : Nat) : Nat :=
  if step % 2 = 1 then item + (step + 1) / 2 else item - step / 2

def readItems : (count : Nat) → Walk → Unpacking → List Nat × Unpacking
  | 0, _, state => ([], state)
  | count + 1, walk, state =>
    let (step, state) := state.readNumber walk.keys 64
    let item := itemAfter walk.item.toNat step
    let (items, state) := readItems count
      ⟨walk.list, walk.index + 1, item.toUInt64, step.toUInt64, walk.step, walk.before⟩ state
    (item :: items, state)

end Walk

/-- Reads the number of items in a list, and the items. -/
def readList (list : Nat) (state : Unpacking) : List Nat × Unpacking :=
  let walk : Walk := { list := list.toUInt64 }
  let (step, state) := state.readNumber walk.keys 64
  Walk.readItems (Walk.itemAfter 0 step) { walk with index := 1 } state

def readLists : (count list : Nat) → Unpacking → List (List Nat)
  | 0, _, _ => []
  | count + 1, list, state =>
    let (items, state) := readList list state
    items :: readLists count (list + 1) state

/-- The first lists in a packed text. -/
def lists (text : String) (count : Nat) : Array (List Nat) :=
  (readLists count 0 (.start text 65)).toArray

end OpenApiClient.Packed
