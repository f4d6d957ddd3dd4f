import OpenApiClient.Number.Text
import OpenApiClient.Text.Quoted
import OpenApiClient.Value.Basic

/-!
# Writing JSON

Values on one line, with a blank after every comma and colon. Strings keep all characters but the
double quote, the backslash and the control characters. Keys that are no texts are written as the
text of their value, and pairs as lists. Bytes, sets, timestamps, values that contain themselves and
integers with too many digits cannot be written.
-/

namespace OpenApiClient.Json

inductive WriteError where
  | value (kind : String)
  | key (kind : String)
  | circular
  | longInteger
  deriving DecidableEq, Repr

def WriteError.message : WriteError → String
  | .value kind => s!"Object of type {kind} is not JSON serializable"
  | .key kind => s!"keys must be str, int, float, bool or None, not {kind}"
  | .circular => "Circular reference detected"
  | .longInteger => s!"Exceeds the limit ({Text.digitLimit} digits) for integer string conversion; " ++
    "use sys.set_int_max_str_digits() to increase the limit"

def writeChar (c : Char) : List Char :=
  if c = '"' then ['\\', '"']
  else if c = '\\' then ['\\', '\\']
  else if c = '\n' then ['\\', 'n']
  else if c = '\r' then ['\\', 'r']
  else if c = '\t' then ['\\', 't']
  else if c = '\x08' then ['\\', 'b']
  else if c = '\x0c' then ['\\', 'f']
  else if c.toNat < 0x20 then '\\' :: 'u' :: Text.hexDigits 4 c.toNat
  else [c]

def writeString (text : String) : String :=
  String.ofList ('"' :: (text.toList.flatMap writeChar ++ ['"']))

def writeScalar : Scalar → Except WriteError String
  | .null => .ok "null"
  | .bool value => .ok (if value then "true" else "false")
  | .int value =>
    if (Scalar.int value).isLong then .error .longInteger else .ok (toString value)
  | .float value => .ok (Number.text .inSource value)
  | .text value => .ok (writeString value)
  | .bytes _ => .error (.value "bytes")
  | .timestamp value => .error (.value value.kindWord)

def writeKey : Scalar → Except WriteError String
  | .bytes _ => .error (.key "bytes")
  | .timestamp value => .error (.key value.kindWord)
  | .text value => .ok (writeString value)
  | key =>
    match writeScalar key with
    | .ok text => .ok (writeString text)
    | .error error => .error error

mutual

def write : Value → Except WriteError String
  | .scalar value => writeScalar value
  | .list items => do return "[" ++ ", ".intercalate (← writeItems items) ++ "]"
  | .map entries => do return "\x7b" ++ ", ".intercalate (← writeEntries entries) ++ "\x7d"
  | .pair key value => do return "[" ++ (← write key) ++ ", " ++ (← write value) ++ "]"
  | .set _ => .error (.value "set")
  | .again _ => .error .circular

def writeItems : List Value → Except WriteError (List String)
  | [] => return []
  | item :: rest => do
    let item ← write item
    return item :: (← writeItems rest)

def writeEntries : List (Scalar × Value) → Except WriteError (List String)
  | [] => return []
  | (key, value) :: rest => do
    let key ← writeKey key
    let value ← write value
    return (key ++ ": " ++ value) :: (← writeEntries rest)

end

end OpenApiClient.Json
