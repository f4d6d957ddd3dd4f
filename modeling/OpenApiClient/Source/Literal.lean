import OpenApiClient.Failure

/-!
# Literals of the generated source

A value is written as JSON. If that fails the message shows the value, which fails in turn if it
holds an integer with too many digits.
-/

namespace OpenApiClient

namespace Value

mutual

/-- Whether a value holds an integer with more digits than are written. -/
def hasLong : Value → Bool
  | .scalar value => value.isLong
  | .list items => itemsHaveLong items
  | .map entries => entriesHaveLong entries
  | .pair key value => key.hasLong || value.hasLong
  | .set members => members.any Scalar.isLong
  | .again _ => false

def itemsHaveLong : List Value → Bool
  | [] => false
  | item :: rest => item.hasLong || itemsHaveLong rest

def entriesHaveLong : List (Scalar × Value) → Bool
  | [] => false
  | (key, value) :: rest => key.isLong || value.hasLong || entriesHaveLong rest

end

end Value

namespace Source

def literal (value : Value) : Except Failure String :=
  match Json.write value with
  | .ok text => .ok text
  | .error error =>
    if value.hasLong then .error (.unexpected .noSuchValue)
    else .error (.render (.notLiteral value error))

def literals (values : List Value) : Except Failure String := do
  return ", ".intercalate (← values.mapM literal)

end Source

end OpenApiClient
