import OpenApiClient.Number.Text
import OpenApiClient.Text.Quoted
import OpenApiClient.Value.Basic

/-!
# Values in messages

A text that stands alone is written as it is; inside a list or a mapping, and where a message asks
for the exact value, it is quoted.
-/

namespace OpenApiClient.SetOrder

/-! ### The order of a set -/

/-- The prime modulo which the residues of numbers are taken. -/
def modulus : Nat := Nat.pow 2 61 - 1

/-- The residue of a number with a sign. Minus one has the residue of minus two. -/
def signed (negative : Bool) (residue : Nat) : Nat :=
  if negative && residue ≠ 0 then Nat.pow 2 64 - max 2 residue else residue

/-- The residue of a number; those of powers of two repeat. -/
def residue? : Scalar → Option Nat
  | .bool value => some (if value then 1 else 0)
  | .int value => some (signed (value < 0) (value.natAbs % modulus))
  | .float (.infinite negative) => some (signed negative 314159)
  | .float (.finite negative significand exponent) =>
    let power := Nat.pow 2 (exponent.emod 61).toNat
    some (signed negative (significand * power % modulus))
  | _ => none

def slotCount (count : Nat) : Nat :=
  if count < 5 then 8 else Nat.pow 2 ((2 * count).log2 + 1)

/-- How many slots after a taken one are tried in turn. -/
def neighbours : Nat := 9

/-- The first free slot among those that are tried from one on. -/
def freeSlot? (slots : Array (Option Scalar)) (slot : Nat) : Option Nat :=
  let last := if slot + neighbours < slots.size then slot + neighbours else slot
  (List.range' slot (last + 1 - slot)).find? fun other => (slots.getD other none).isNone

/-- Puts a member into the first free slot; `rest` is the part of the residue that has not been
used. When nothing of it is left, all slots are tried, so their number is fuel enough on top of that
of those parts. -/
def put (member : Scalar) :
    (fuel : Nat) → (slot rest : Nat) → Array (Option Scalar) → Array (Option Scalar)
  | 0, _, _, slots => slots
  | fuel + 1, slot, rest, slots =>
    match freeSlot? slots slot with
    | some free => slots.setIfInBounds free (some member)
    | none => put member fuel ((slot * 5 + 1 + rest / 32) % slots.size) (rest / 32) slots

def ordered (members : List Scalar) : List Scalar :=
  match members.mapM fun member => (residue? member).map fun residue => (member, residue) with
  | none => members
  | some residues =>
    let size := slotCount members.length
    let slots := residues.foldl
      (fun slots (member, residue) => put member (size + 16) (residue % size) residue slots)
      (Array.replicate size none)
    slots.toList.filterMap id

end OpenApiClient.SetOrder

namespace OpenApiClient

/-! ### Texts of values -/

def Scalar.shown : Scalar → String
  | .null => "None"
  | .bool value => if value then "True" else "False"
  | .int value => toString value
  | .float value => Number.text .inMessages value
  | .text value => Text.quoted value
  | .bytes value => Text.quotedBytes value
  | .timestamp value => value.shown

/-- A scalar as plain text: a text is itself. -/
def Scalar.plain : Scalar → String
  | .text value => value
  | scalar => scalar.shown

def shownSet (members : List Scalar) : String :=
  if members.isEmpty then "set()"
  else "\x7b" ++ ", ".intercalate ((SetOrder.ordered members).map Scalar.shown) ++ "\x7d"

mutual

/-- A value exactly. Integers are shown whatever their length: that one with more than
`Text.digitLimit` digits, which only YAML can bring in, has no text is not modelled here. -/
def Value.shown : Value → String
  | .scalar value => value.shown
  | .list items => "[" ++ ", ".intercalate (shownItems items) ++ "]"
  | .map entries => "\x7b" ++ ", ".intercalate (shownEntries entries) ++ "\x7d"
  | .pair key value => "(" ++ key.shown ++ ", " ++ value.shown ++ ")"
  | .set members => shownSet members
  | .again .list => "[...]"
  | .again .map => "\x7b...\x7d"
  | .again .pair => "(...)"

def shownItems : List Value → List String
  | [] => []
  | item :: rest => item.shown :: shownItems rest

def shownEntries : List (Scalar × Value) → List String
  | [] => []
  | (key, value) :: rest => (key.shown ++ ": " ++ value.shown) :: shownEntries rest

end

/-- A value as plain text; any but a text is shown exactly. -/
def Value.plain : Value → String
  | .scalar value => value.plain
  | value => value.shown

end OpenApiClient
