import OpenApiClient.Text.Digit
import OpenApiClient.Value.Basic
import OpenApiClient.Yaml.Node

/-!
# From nodes to document values

The document value that a graph of nodes becomes. Collections are filled in the order in which they
are met, an outer one before those inside it, and the fault reported is the first one met.

A mapping that merges others takes their pairs over when it is filled, and so do the mappings it
merges, which is seen wherever an alias stands for it.
-/

namespace OpenApiClient.Yaml

/-! ## The values of YAML scalars -/

/-! ### Binary data written in sixty-four letters -/

def letterValue? (c : Char) : Option Nat :=
  if 'A' ≤ c && c ≤ 'Z' then some (c.toNat - 'A'.toNat)
  else if 'a' ≤ c && c ≤ 'z' then some (c.toNat - 'a'.toNat + 26)
  else if '0' ≤ c && c ≤ '9' then some (c.toNat - '0'.toNat + 52)
  else if c = '+' then some 62
  else if c = '/' then some 63
  else none

/-- The bytes that letters write. `place` is the number of letters of the group, `left` the bits
that no byte holds yet and `pads` the number of padding characters just read. -/
def binaryBytes? (place left pads : Nat) : List Char → Option (List UInt8)
  | [] => if place = 0 then some [] else none
  | '=' :: rest =>
    if 2 ≤ place then
      if 4 ≤ place + pads + 1 then some [] else binaryBytes? place left (pads + 1) rest
    else binaryBytes? place left pads rest
  | c :: rest =>
    match letterValue? c with
    | none => binaryBytes? place left pads rest
    | some value =>
      match place with
      | 0 => binaryBytes? 1 value 0 rest
      | 1 => (binaryBytes? 2 (value % 16) 0 rest).map ((left * 4 + value / 16).toUInt8 :: ·)
      | 2 => (binaryBytes? 3 (value % 4) 0 rest).map ((left * 16 + value / 4).toUInt8 :: ·)
      | _ => (binaryBytes? 0 0 0 rest).map ((left * 64 + value).toUInt8 :: ·)

/-- The bytes that an ASCII text writes. -/
def readBinary? (text : List Char) : Option (List UInt8) :=
  if text.all (·.toNat < 128) then binaryBytes? 0 0 0 text else none

namespace Meaning

/-! ### Numbers -/

def splitColons (text : List Char) : List (List Char) := text.splitOn ':'

/-- A number with a value or the fault that there is none. -/
def orNoSuchValue {α : Type} : Option α → Except Error α
  | some value => .ok value
  | none => .error .noSuchValue

def dropUnderscores (text : List Char) : List Char := text.filter (· ≠ '_')

/-- Whether a minus is at the start, and the text without its sign. -/
def splitSign : List Char → Except Error (Bool × List Char)
  | [] => .error .noDigits
  | c :: rest => .ok (c = '-', if c = '+' || c = '-' then rest else c :: rest)

def anyDigitValue? (base : Nat) (c : Char) : Option Nat :=
  (Text.decimalValue? c <|> digitValue? 16 c).filter (· < base)

/-- The digits after the letter that may mark a base. -/
def dropBaseMark (mark : Char) : List Char → List Char
  | '0' :: c :: rest => if Text.isLetter mark c then rest else '0' :: c :: rest
  | text => text

/-- The integer in a base, perhaps with blanks, a sign and the mark of the base. -/
def intInBase? (base : Nat) (mark : Char) (text : List Char) : Option Int := do
  let (negative, rest) ←
    match Text.trimNumber text with
    | '-' :: rest => some (true, rest)
    | '+' :: rest => some (false, rest)
    | rest => some (false, rest)
  let digits := dropBaseMark mark rest
  if digits.isEmpty then none
  let value ← digits.foldlM (fun n c => (anyDigitValue? base c).map (n * base + ·)) 0
  return if negative then -(value : Int) else value

/-- The value of digits in base sixty, the last one first. -/
def sixtiesValue (digits : List Int) : Int := digits.foldr (fun digit value => digit + 60 * value) 0

def readInt (text : List Char) : Except Error Int := do
  let (negative, rest) ← splitSign (dropUnderscores text)
  let magnitude : Option Int ←
    match rest with
    | [] => throw .noDigits
    | '0' :: 'b' :: digits => pure (intInBase? 2 'b' digits)
    | '0' :: 'x' :: digits => pure (intInBase? 16 'x' digits)
    | '0' :: _ => pure (intInBase? 8 'o' rest)
    | _ =>
      if rest.contains ':' then
        pure (((splitColons rest).mapM (Text.intValue? <| String.ofList ·)).map
          (sixtiesValue ·.reverse))
      else pure (Text.intValue? (String.ofList rest))
  let value ← orNoSuchValue magnitude
  return if negative then -value else value

/-- The decimal digits at the start, as a number with their count, and the rest. -/
def leadingDigits : List Char → Nat × Nat × List Char
  | [] => (0, 0, [])
  | c :: rest =>
    match Text.decimalValue? c with
    | some digit =>
      let (value, count, rest) := leadingDigits rest
      (digit * Nat.pow 10 count + value, count + 1, rest)
    | none => (0, 0, c :: rest)

/-- The exponent that a text consists of; zero if it is empty. -/
def exponent? : List Char → Option Int
  | [] => some 0
  | e :: rest =>
    if e = 'e' || e = 'E' then
      let (negative, digits) :=
        match rest with
        | '-' :: digits => (true, digits)
        | '+' :: digits => (false, digits)
        | digits => (false, digits)
      let (value, count, rest) := leadingDigits digits
      if count = 0 || !rest.isEmpty then none
      else some (if negative then -(value : Int) else value)
    else none

/-- The floating-point number of a text in lower case without blanks and sign. -/
def magnitude? (negative : Bool) (text : List Char) : Option Double :=
  match String.ofList text with
  | "inf" => some (.infinite negative)
  | "infinity" => some (.infinite negative)
  | "nan" => some (.nan 0)
  | _ =>
    let (whole, wholeCount, rest) := leadingDigits text
    let (fraction, fractionCount, rest) :=
      match rest with
      | '.' :: rest => leadingDigits rest
      | rest => (0, 0, rest)
    if wholeCount + fractionCount = 0 then none
    else
      (exponent? rest).map fun exponent =>
        .ofDecimal negative (whole * Nat.pow 10 fractionCount + fraction) (exponent - fractionCount)

def double? (text : List Char) : Option Double :=
  match Text.trimNumber text with
  | '-' :: rest => magnitude? true rest
  | '+' :: rest => magnitude? false rest
  | rest => magnitude? false rest

/-- A number that is told apart from all others if it is none. -/
def markedNan (mark : Nat) : Double → Double
  | .nan _ => .nan mark
  | value => value

/-- Adds digits in base sixty to a total, the last one first. The weight has to be a floating-point
number too. -/
def addSixties (total : Double) (weight : Nat) : List Double → Except Error Double
  | [] => .ok total
  | digit :: rest =>
    match Double.ofNat weight with
    | .infinite _ => .error .tooGreat
    | factor => addSixties (total.add (digit.mul factor)) (weight * 60) rest

/-- The floating-point number that a text denotes. The word for no number denotes one value, every
other text for one a value of its own, known by its mark. -/
def readFloat (mark : Nat) (text : List Char) : Except Error Double := do
  let (negative, rest) ← splitSign (Text.lower (dropUnderscores text))
  let signed := fun (value : Double) => if negative then value.neg else value
  match String.ofList rest with
  | ".inf" => return signed (.infinite false)
  | ".nan" => return .nan 0
  | _ =>
    let value ←
      if rest.contains ':' then do
        addSixties (.zero false) 1 (← orNoSuchValue ((splitColons rest).mapM double?)).reverse
      else orNoSuchValue (double? rest)
    return markedNan mark (signed value)

/-! ### Scalars by their tag -/

def readBool (text : List Char) : Except Error Bool :=
  match String.ofList (Text.lower text) with
  | "yes" | "true" | "on" => .ok true
  | "no" | "false" | "off" => .ok false
  | _ => .error .noSuchWord

/-- What a text means under a tag. The mark tells apart values that differ from themselves. -/
def read (mark : Nat) (tag : Tag) (text : String) : Except Error Scalar :=
  match tag with
  | .null => .ok .null
  | .bool => (readBool text.toList).map .bool
  | .int => (readInt text.toList).map .int
  | .float => (readFloat mark text.toList).map .float
  | .timestamp => (readTimestamp text.toList).map .timestamp
  | .binary =>
    match readBinary? text.toList with
    | some bytes => .ok (.bytes bytes)
    | none => .error (.malformed "failed to decode base64 data")
  | .text => .ok (.text text)
  | _ => .error (.malformed "could not determine a constructor for the tag")

end Meaning

/-! ## The value of a graph -/

/-- A scalar, or a collection by the number of its node. -/
inductive Part where
  | scalar (value : Scalar)
  | collection (number : Nat)
  deriving DecidableEq, Repr, Inhabited

inductive Filling where
  | list (items : List Part)
  | map (entries : List (Scalar × Part))
  | set (members : List Scalar)
  | pairs (pairs : List (Part × Part))
  deriving DecidableEq, Repr, Inhabited

namespace Data

/-- The nodes, the number of pairs in them at the start, which bounds merging, the parts that they
are, what the collections hold, and the collections to be filled, last first. -/
structure Building where
  nodes : Nodes
  pairCount : Nat
  parts : Array (Option Part)
  fillings : Array Filling
  waiting : List Nat := []

abbrev Build := StateT Building (Except Error)

def node (number : Nat) : Build Node := return (← get).nodes.getD number default

def tagOf (number : Nat) : Build Tag := return (← node number).tag

def pairsOf (number : Nat) : Build (List (Nat × Nat)) := do
  match (← node number).content with
  | .mapping pairs => return pairs
  | _ => return []

def setPairs (number : Nat) (pairs : List (Nat × Nat)) : Build Unit :=
  modify fun building =>
    { building with
      nodes := building.nodes.modify number fun node => { node with content := .mapping pairs } }

/-! ### Scalars -/

/-- The text of a scalar, or of the value under the default key of a mapping. -/
def textOf : (fuel : Nat) → Nat → Build String
  | 0, _ => throw .endless
  | fuel + 1, number => do
    match (← node number).content with
    | .scalar text => return text
    | .sequence _ => throw (.malformed "expected a scalar node")
    | .mapping pairs =>
      match ← pairs.findM? fun pair => return (← tagOf pair.1) = .defaultKey with
      | some (_, value) => textOf fuel value
      | none => throw (.malformed "expected a scalar node")

/-- The scalar that a node is under a tag. Only one written as a scalar can be a timestamp. -/
def scalarOf (number : Nat) (tag : Tag) : Build Scalar := do
  let text ← textOf ((← get).nodes.size + 1) number
  match tag, (← node number).content with
  | .timestamp, .mapping _ => throw .wrongKind
  | tag, _ => Meaning.read (number + 1) tag text

/-! ### Parts -/

/-- What a node is when it is first met; a collection is then to be filled. -/
def meet (number : Nat) : Build Part := do
  match ← tagOf number with
  | .sequence | .mapping | .set | .orderedMapping | .pairs =>
    modify fun building => { building with waiting := number :: building.waiting }
    return .collection number
  | .other _ | .merge | .defaultKey =>
    throw (.malformed "could not determine a constructor for the tag")
  | tag => return .scalar (← scalarOf number tag)

def partOf (number : Nat) : Build Part := do
  match (← get).parts.getD number none with
  | some part => return part
  | none =>
    let part ← meet number
    modify fun building => { building with parts := building.parts.setIfInBounds number part }
    return part

def keyOf (number : Nat) : Build Scalar := do
  match ← partOf number with
  | .scalar value => return value
  | .collection _ => throw (.malformed "found unhashable key")

/-! ### Merged mappings -/

/-- The value of the first merge key, and the pairs without it. -/
def takeMerge? : List (Nat × Nat) → Build (Option (Nat × List (Nat × Nat)))
  | [] => return none
  | (key, value) :: rest => do
    if (← tagOf key) = .merge then return some (value, rest)
    else return (← takeMerge? rest).map fun (found, others) => (found, (key, value) :: others)

def plainKeys (pairs : List (Nat × Nat)) : Build Unit :=
  modify fun building =>
    { building with
      nodes := pairs.foldl (fun nodes pair => nodes.modify pair.1 fun node =>
        if node.tag = .defaultKey then { node with tag := .text } else node) building.nodes }

/-- Takes the pairs of merged mappings over, before its own; those taken over before are given.
Merged mappings are treated alike. Of several under one key the first one wins, so its pairs go
last. Every step removes a merge key, and none is ever added. -/
def flatten : (fuel : Nat) → Nat → (merged : List (Nat × Nat)) → Build Unit
  | 0, _, _ => throw .endless
  | fuel + 1, number, merged => do
    match ← takeMerge? (← pairsOf number) with
    | none =>
      let pairs := merged ++ (← pairsOf number)
      plainKeys pairs
      setPairs number pairs
    | some (value, others) =>
      setPairs number others
      match (← node value).content with
      | .mapping _ =>
        flatten fuel value []
        flatten fuel number (merged ++ (← pairsOf value))
      | .sequence items =>
        let lent ← items.mapM fun item => do
          match (← node item).content with
          | .mapping _ =>
            flatten fuel item []
            pairsOf item
          | _ => throw (.malformed "expected a mapping for merging")
        flatten fuel number (merged ++ lent.reverse.flatten)
      | .scalar _ => throw (.malformed "expected a mapping or list of mappings for merging")

def pairCount (nodes : Nodes) : Nat :=
  nodes.foldl (fun count node =>
    match node.content with
    | .mapping pairs => count + pairs.length
    | _ => count) 0

/-! ### Collections -/

def itemsOf (number : Nat) : Build (List Part) := do
  match (← node number).content with
  | .sequence items => items.mapM partOf
  | _ => throw (.malformed "expected a sequence node")

def entriesOf (number : Nat) : Build (List (Scalar × Part)) := do
  match (← node number).content with
  | .mapping _ =>
    flatten ((← get).pairCount + 1) number []
    let entries ← (← pairsOf number).mapM fun (key, value) => do
      return (← keyOf key, ← partOf value)
    return Entries.ofPairs entries
  | _ => throw (.malformed "expected a mapping node")

/-- The pairs of a sequence of mappings with one pair each. -/
def listedPairs (number : Nat) : Build (List (Part × Part)) := do
  match (← node number).content with
  | .sequence items =>
    items.mapM fun item => do
      match (← node item).content with
      | .mapping [(key, value)] => return (← partOf key, ← partOf value)
      | _ => throw (.malformed "expected a mapping of one item")
  | _ => throw (.malformed "expected a sequence")

/-- What a collection holds, by its tag. -/
def fillingOf (number : Nat) : Build Filling := do
  match ← tagOf number with
  | .sequence => return .list (← itemsOf number)
  | .set => return .set ((← entriesOf number).map (·.1))
  | .orderedMapping | .pairs => return .pairs (← listedPairs number)
  | _ => return .map (← entriesOf number)

def fill (number : Nat) : Build Unit := do
  let filling ← fillingOf number
  modify fun building =>
    { building with fillings := building.fillings.setIfInBounds number filling }

/-- Fills the collections that wait, and those met on the way. Every round but the last fills one,
and none is filled twice. -/
def fillAll : (fuel : Nat) → Build Unit
  | 0 => throw .endless
  | fuel + 1 => do
    let waiting := (← get).waiting
    if !waiting.isEmpty then
      modify fun building => { building with waiting := [] }
      waiting.reverse.forM fill
      fillAll fuel

/-- The part that a node is, and what all collections hold. -/
def build (nodes : Nodes) (root : Nat) : Except Error (Part × Array Filling) := do
  let start : Building :=
    { nodes
      pairCount := pairCount nodes
      parts := Array.replicate nodes.size none
      fillings := Array.replicate nodes.size default }
  let (part, building) ← (partOf root <* fillAll (nodes.size + 1)).run start
  return (part, building.fillings)

/-! ### Document values -/

/-- The scalar of a document: timestamps become texts. -/
def documentScalar : Scalar → Scalar
  | .timestamp stamp => .text stamp.text
  | scalar => scalar

/-- What encloses a place in a listed pair: a collection or a pair. -/
inductive Enclosure where
  | collection (number : Nat)
  | pair (number index : Nat)
  deriving DecidableEq, Repr

def holderOf : Filling → Holder
  | .map _ => .map
  | _ => .list

/-- The value of a part in a listed pair, where timestamps stay. What encloses the part ends it
where it would start again. -/
def pairedValue (fillings : Array Filling) :
    (fuel : Nat) → (enclosing : List Enclosure) → Part → Value
  | _, _, .scalar value => .scalar value
  | 0, _, .collection number => .again (holderOf (fillings.getD number default))
  | fuel + 1, enclosing, .collection number =>
    let filling := fillings.getD number default
    let within := .collection number :: enclosing
    let inner := pairedValue fillings fuel within
    if enclosing.contains (.collection number) then .again (holderOf filling)
    else
      match filling with
      | .list items => .list (items.map inner)
      | .map entries => .map (entries.map fun (key, value) => (key, inner value))
      | .set members => .set members
      | .pairs pairs =>
        .list (pairs.mapIdx fun index (key, value) =>
          if within.contains (.pair number index) then .again .pair
          else
            let inner := pairedValue fillings fuel (.pair number index :: within)
            .pair (inner key) (inner value))

/-- The document value of a part, unless a collection contains itself. -/
def value? (fillings : Array Filling) : (fuel : Nat) → Part → Option Value
  | _, .scalar value => some (.scalar (documentScalar value))
  | 0, .collection _ => none
  | fuel + 1, .collection number =>
    match fillings.getD number default with
    | .list items => do return .list (← items.mapM (value? fillings fuel))
    | .map entries => do
      let values ← entries.mapM fun (key, value) => do
        return (documentScalar key, ← value? fillings fuel value)
      return .map (Entries.ofPairs values)
    | .set members => some (.set members)
    | .pairs pairs =>
      some (.list (pairs.mapIdx fun index (key, value) =>
        let inner := pairedValue fillings (fillings.size + 1) [.pair number index]
        .pair (inner key) (inner value)))

end Data

/-- The document value of a node. No path of collections is longer than the number of nodes. -/
def valueOf (nodes : Nodes) (root : Nat) : Except Error Value := do
  let (part, fillings) ← Data.build nodes root
  match Data.value? fillings (nodes.size + 1) part with
  | some value => return value
  | none => throw .endless

/-- Reads the only document of a YAML text, if there is one. -/
def read (text : String) : Except Error Value := do
  if !text.toList.all isAllowed then throw (.malformed "special characters are not allowed")
  match ← Node.ofText? text.toList with
  | (nodes, some root) => valueOf nodes root
  | (_, none) => return .null

end OpenApiClient.Yaml
