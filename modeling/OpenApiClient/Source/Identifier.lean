import OpenApiClient.Json.Writer

/-!
# Identifiers of the generated source

An identifier is made of a name: characters that it cannot have become underscores, and an
underscore is put before a digit at the start and before reserved words.
-/

namespace OpenApiClient.Source

def isIdentifierChar (c : Char) : Bool := c.isAlphanum || c = '_' || c = '$'

def isIdentifierStart (c : Char) : Bool := c.isAlpha || c = '_' || c = '$'

/-- The words of the language that are no identifiers. -/
def keywords : List String :=
  ["break", "case", "catch", "class", "const", "continue", "debugger", "default", "delete", "do",
   "else", "enum", "export", "extends", "false", "finally", "for", "function", "if", "import", "in",
   "instanceof", "new", "null", "return", "super", "switch", "this", "throw", "true", "try",
   "typeof", "var", "void", "while", "with", "let", "static", "yield", "await"]

/-- The names that the generated source declares or imports itself. -/
def ownNames : List String :=
  ["z", "makeApi", "Zodios", "endpoints", "schemas", "createApiClient"]

/-- The identifiers that no schema is declared under. -/
def reserved : List String := keywords ++ ownNames ++ ["api"]

/-- A name with underscores for characters that identifiers cannot have. -/
def replaceInvalid (name : List Char) : List Char :=
  name.map fun c => if isIdentifierChar c then c else '_'

/-- A text with an underscore before it if it needs one. -/
def guardStart (text : List Char) : List Char :=
  if (text.head?.any Char.isDigit) || reserved.contains (String.ofList text) then '_' :: text
  else text

/-- The identifier that a schema is declared under. -/
def identifier (name : String) : String :=
  match replaceInvalid name.toList with
  | [] => "_"
  | text => String.ofList (guardStart text)

def isIdentifierChars : List Char → Bool
  | [] => false
  | c :: rest => isIdentifierStart c && rest.all isIdentifierChar

/-- A text without the newline at its end, if there is one. -/
def dropNewline (text : List Char) : List Char :=
  if text.getLast? = some '\n' then text.dropLast else text

/-- Whether a text is an identifier; a newline may follow it. -/
def isIdentifier (text : String) : Bool := isIdentifierChars (dropNewline text.toList)

def isClientName (name : String) : Bool :=
  isIdentifier name && !(keywords ++ ownNames).contains name

/-- The key of an object: bare if it is an identifier, quoted otherwise. -/
def propertyKey (name : String) : String :=
  if isIdentifier name then name else Json.writeString name

end OpenApiClient.Source
