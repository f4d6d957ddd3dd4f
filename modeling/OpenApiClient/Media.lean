import OpenApiClient.Text.Digit
import OpenApiClient.Value.Text

/-!
# Media types

Of several media types the first one that carries JSON is used, else the one for all types, else the
first.
-/

namespace OpenApiClient.Text

/-! ### Word characters -/

def wordRanges : Thunk Ranges := Property.word.ranges

def isWord (c : Char) : Bool :=
  if c.toNat < 0x80 then c.isAlphanum || c = '_' else wordRanges.get.contains c.toNat

end OpenApiClient.Text

namespace OpenApiClient.Media

/-! ### Media types -/

/-- Whether no letter, digit or underscore comes next. -/
def endsWord : List Char → Bool
  | [] => true
  | c :: _ => !Text.isWord c

def startsWithJson (text : List Char) : Bool :=
  ((Text.afterWord? "json".toList text).map endsWord).getD false

/-- Whether a character may stand before the plus of a structured type. -/
def isNameChar (c : Char) : Bool := Text.isWord c || c = '.' || c = '-'

/-- What follows a name and a plus at the start of a text. -/
def afterPlus? (text : List Char) : Option (List Char) :=
  match text.takeWhile isNameChar, text.dropWhile isNameChar with
  | _ :: _, '+' :: rest => some rest
  | _, _ => none

/-- Whether a media type is JSON, or a type built on JSON. -/
def isJson (mediaType : String) : Bool :=
  match Text.afterWord? "application/".toList mediaType.toList with
  | some rest => (afterPlus? rest).any startsWithJson || startsWithJson rest
  | none => false

/-- The media type that is used among several. -/
def choose? (mediaTypes : List String) : Option String :=
  (mediaTypes.find? isJson) <|> (mediaTypes.find? (· = "*/*")) <|> mediaTypes.head?

/-- The media type that is used, and its schema. -/
def pick (content : Option Value) : Option (String × Option Value) :=
  match content with
  | some (.map entries) => do
    let chosen ← choose? (entries.map (·.1.plain))
    match Entries.get? entries chosen with
    | some (.map media) => return (chosen, Entries.get? media "schema")
    | _ => return (chosen, none)
  | _ => none

end OpenApiClient.Media
