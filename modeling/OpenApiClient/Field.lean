import OpenApiClient.Failure

/-!
# The fields of a record

What the value of a field stands for. Truth values may also be zero, one or one of a few words.
Bytes stand for the text that they encode.
-/

namespace OpenApiClient.Field

/-- The truth value that a word stands for, in any case. -/
def truthWord? (word : String) : Option Bool :=
  let lowered := String.ofList (word.toList.map Char.toLower)
  if ["1", "t", "true", "y", "yes", "on"].contains lowered then some true
  else if ["0", "f", "false", "n", "no", "off"].contains lowered then some false
  else none

def leastWord : Int := -9223372036854775808

def truthInt (value : Int) : Except FieldFault Bool :=
  if value = 0 then .ok false
  else if value = 1 then .ok true
  else if leastWord ≤ value && value < -leastWord then .error .notTruthWord
  else .error .notTruthValue

def truthFloat (value : Double) : Except FieldFault Bool :=
  match value.toInt? with
  | some value => if value = leastWord then .error .notTruthValue else truthInt value
  | none => .error .notTruthValue

def text : Value → Except FieldFault String
  | .text value => .ok value
  | .bytes value =>
    match Text.decode value with
    | .ok text => .ok text
    | .error _ => .error .notEncodedText
  | _ => .error .notText

def text? (value : Value) : Option String := (text value).toOption

def truth : Value → Except FieldFault Bool
  | .bool value => .ok value
  | .int value => truthInt value
  | .float value => truthFloat value
  | value =>
    match text value with
    | .ok word => (truthWord? word).elim (.error .notTruthWord) .ok
    | .error .notEncodedText => .error .notTruthWord
    | .error _ => .error .notTruthValue

end OpenApiClient.Field
