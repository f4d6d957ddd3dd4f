import OpenApiClient.Failure
import OpenApiClient.Text.Digit

/-!
# Pointers into a document

A pointer names a value by the keys and indices on the way to it, divided by slashes. In a key a
tilde is written `~0` and a slash `~1`.
-/

namespace OpenApiClient.Pointer

/-! ### Segments -/

/-- The characters that write a character of a segment. -/
def escapeChar (c : Char) : List Char :=
  if c = '~' then ['~', '0'] else if c = '/' then ['~', '1'] else [c]

def escape (segment : String) : String := String.ofList (segment.toList.flatMap escapeChar)

/-- Replaces a tilde followed by `mark`. -/
def replaceMark (mark replacement : Char) : List Char → List Char
  | [] => []
  | '~' :: c :: rest =>
    if c = mark then replacement :: replaceMark mark replacement rest
    else '~' :: replaceMark mark replacement (c :: rest)
  | c :: rest => c :: replaceMark mark replacement rest

def unescape (segment : String) : String :=
  String.ofList (replaceMark '0' '~' (replaceMark '1' '/' segment.toList))

def splitSlashes (text : List Char) : List String := (text.splitOn '/').map String.ofList

/-! ### Following a pointer -/

/-- The item at an index; negative indices count from the end. -/
def itemAt? (items : List Value) (index : Int) : Option Value :=
  if 0 ≤ index then items[index.toNat]?
  else if -index ≤ items.length then items[(items.length + index).toNat]?
  else none

/-- One step from a value along a segment; `ref` is the whole pointer. -/
def step (ref : String) (value : Value) (segment : String) : Except DocumentError Value :=
  match value with
  | .map entries =>
    match Entries.get? entries segment with
    | some child => .ok child
    | none => .error (.keyNotFound ref segment)
  | .list items =>
    match (Text.signedValue? Text.indexValue? segment).bind (itemAt? items) with
    | some child => .ok child
    | none => .error (.invalidIndex ref segment)
  | value => .error (.notNavigable ref value.kindWord)

def resolve (root : Value) (ref : String) : Except DocumentError Value :=
  match ref.toList with
  | '#' :: '/' :: path => ((splitSlashes path).map unescape).foldlM (step ref) root
  | _ => .error (.externalReference ref)

/-- The pointer that a value is, if it stands for another one. -/
def reference? (value : Value) : Option String := (value.get? "$ref").bind Value.text?

/-- The greatest number of pointers followed one after the other. -/
def mostHops : Nat := 32

/-- The value at the end of a chain of pointers; `seen` are those followed so far and `hops` is how
many may follow. -/
def followFrom (root : Value) : (hops : Nat) → (seen : List String) → Value →
    Except DocumentError Value
  | hops, seen, value =>
    match reference? value with
    | none => .ok value
    | some ref =>
      match hops with
      | 0 => .error (.circularReferences (seen ++ [ref]))
      | hops + 1 =>
        if seen.contains ref then .error (.circularReferences (seen ++ [ref]))
        else do followFrom root hops (seen ++ [ref]) (← resolve root ref)

/-- A value, or the one that its chain of pointers ends at. -/
def follow (root value : Value) : Except DocumentError Value := followFrom root mostHops [] value

end OpenApiClient.Pointer
