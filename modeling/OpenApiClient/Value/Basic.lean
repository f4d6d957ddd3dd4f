import OpenApiClient.Number.Double
import OpenApiClient.Text.Digit
import OpenApiClient.Timestamp

/-!
# Document values

A document is made of scalars, lists and mappings. Keys are scalars, entries are in the order in
which the keys first appeared, and keys with the same value are one, so that `1`, `1.0` and `true`
name the same entry. There are also sets, and lists of pairs, which keep repeated keys; inside
these, timestamps stay timestamps, while elsewhere they are texts.
-/

namespace OpenApiClient

inductive Scalar where
  | null
  | bool (value : Bool)
  | int (value : Int)
  | float (value : Double)
  | text (value : String)
  | bytes (value : List UInt8)
  | timestamp (value : Timestamp)
  deriving DecidableEq, Repr, Inhabited

/-- The kinds of values that hold other values. -/
inductive Holder where
  | list
  | map
  | pair
  deriving DecidableEq, Repr, Inhabited

/-- A value of a document. What is inside a pair may contain itself; `again` stands for a value that
would start again. -/
inductive Value where
  | scalar (value : Scalar)
  | list (items : List Value)
  | map (entries : List (Scalar × Value))
  | pair (key value : Value)
  | set (members : List Scalar)
  | again (holder : Holder)
  deriving Repr, Inhabited

abbrev Entries := List (Scalar × Value)

namespace Scalar

/-- The number a scalar stands for, zero or one for a truth value. -/
def toInt? : Scalar → Option Int
  | .bool value => some (if value then 1 else 0)
  | .int value => some value
  | .float value => value.toInt?
  | _ => none

/-- How many digits an integer is written with. -/
def digitCount : Scalar → Nat
  | .int value => (Nat.toDigits 10 value.natAbs).length
  | _ => 0

/-- Whether a scalar is an integer with more digits than are read or written. -/
def isLong (scalar : Scalar) : Bool := Text.digitLimit < scalar.digitCount

/-- Whether two scalars have the same value, numbers of all types. -/
def sameValue : Scalar → Scalar → Bool
  | .float a, .float b => a.sameValue b
  | .timestamp a, .timestamp b => a.sameValue b
  | a, b =>
    match a.toInt?, b.toInt? with
    | some m, some n => m = n
    | none, none => a = b
    | _, _ => false

end Scalar

namespace Entries

/-- The value under a textual key. -/
def get? (entries : Entries) (name : String) : Option Value := entries.lookup (.text name)

def has (entries : Entries) (name : String) : Bool := (get? entries name).isSome

/-- The entries with `value` under `key`, which keeps its place or goes to the end. -/
def insert {α : Type} : List (Scalar × α) → Scalar → α → List (Scalar × α)
  | [], key, value => [(key, value)]
  | entry :: rest, key, value =>
    if entry.1.sameValue key then (entry.1, value) :: rest else entry :: insert rest key value

/-- The mapping of pairs that are added one after the other. -/
def ofPairs {α : Type} (pairs : List (Scalar × α)) : List (Scalar × α) :=
  pairs.foldl (fun entries pair => insert entries pair.1 pair.2) []

end Entries

namespace Value

@[match_pattern] abbrev null : Value := .scalar .null

@[match_pattern] abbrev bool (value : Bool) : Value := .scalar (.bool value)

@[match_pattern] abbrev int (value : Int) : Value := .scalar (.int value)

@[match_pattern] abbrev float (value : Double) : Value := .scalar (.float value)

@[match_pattern] abbrev text (value : String) : Value := .scalar (.text value)

@[match_pattern] abbrev bytes (value : List UInt8) : Value := .scalar (.bytes value)

/-- The value under a textual key, if this is a mapping. -/
def get? : Value → String → Option Value
  | .map entries, name => Entries.get? entries name
  | _, _ => none

def text? : Value → Option String
  | .text value => some value
  | _ => none

def holderWord : Holder → String
  | .list => "list"
  | .map => "dict"
  | .pair => "tuple"

def kindWord : Value → String
  | .null => "NoneType"
  | .bool _ => "bool"
  | .int _ => "int"
  | .float _ => "float"
  | .text _ => "str"
  | .bytes _ => "bytes"
  | .list _ => holderWord .list
  | .map _ => holderWord .map
  | .scalar (.timestamp value) => value.kindWord
  | .pair _ _ => holderWord .pair
  | .set _ => "set"
  | .again holder => holderWord holder

end Value

/-! ### The depth of a value -/

mutual

/-- The number of lists and mappings nested in one another. -/
def Value.depth : Value → Nat
  | .scalar _ => 1
  | .pair _ _ => 1
  | .set _ => 1
  | .again _ => 1
  | .list items => Value.listDepth items + 1
  | .map entries => Value.entriesDepth entries + 1

def Value.listDepth : List Value → Nat
  | [] => 0
  | item :: rest => max item.depth (Value.listDepth rest)

def Value.entriesDepth : List (Scalar × Value) → Nat
  | [] => 0
  | (_, value) :: rest => max value.depth (Value.entriesDepth rest)

end

end OpenApiClient
