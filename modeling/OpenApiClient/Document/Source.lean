import OpenApiClient.Charset.Names
import OpenApiClient.Document.Text
import OpenApiClient.File.Tree
import OpenApiClient.Host.Name
import OpenApiClient.Log

/-!
# Where a document comes from

A document comes from the standard input, an address or a file. The name of the file, or what the
server says, tells the format.
-/

namespace OpenApiClient.ContentType

/-! ## What a server says about its content -/

/-- Whether all quotes but those after a backslash are closed. -/
def quotesClosed : (inside : Bool) → List Char → Bool
  | inside, [] => !inside
  | inside, '\\' :: '"' :: rest => quotesClosed inside rest
  | inside, '"' :: rest => quotesClosed (!inside) rest
  | inside, _ :: rest => quotesClosed inside rest

/-- The elements of a content type; `element` is the current one so far, in reverse. -/
def elementsFrom (element : List Char) : List Char → List (List Char)
  | [] => [element.reverse]
  | c :: rest =>
    if c = ';' && quotesClosed false element.reverse then
      element.reverse :: elementsFrom [] rest
    else elementsFrom (c :: element) rest

/-- Replaces a backslash before a character. -/
def dropBackslash (c : Char) : List Char → List Char
  | [] => []
  | '\\' :: d :: rest =>
    if d = c then c :: dropBackslash c rest else '\\' :: dropBackslash c (d :: rest)
  | d :: rest => d :: dropBackslash c rest

/-- A value without the quotes or angle brackets around it. -/
def unquote (value : List Char) : List Char :=
  let inner := value.tail.dropLast
  if value.length < 2 then value
  else if value.head? = some '"' && value.getLast? = some '"' then
    dropBackslash '"' (dropBackslash '\\' inner)
  else if value.head? = some '<' && value.getLast? = some '>' then inner
  else value

/-- The name, in lower case, and the value of a parameter. A name alone keeps its case. -/
def parameterOf (element : List Char) : List Char × List Char :=
  if element.contains '=' then
    ((Text.trimBlank (element.takeWhile (· ≠ '='))).map Char.toLower,
      Text.trimBlank (element.dropWhile (· ≠ '=')).tail)
  else (Text.trimBlank element, [])

/-! ### Values in segments -/

/-- A segment of a value: its number, if there are several, its text, and whether that is coded. -/
structure Segment where
  number : Option Nat
  text : List Char
  coded : Bool

/-- Whether a segment comes before another or is the same. -/
def Segment.isBefore (a b : Segment) : Bool :=
  if a.number ≠ b.number then a.number.getD 0 < b.number.getD 0
  else if a.text ≠ b.text then String.ofList a.text < String.ofList b.text
  else !a.coded || b.coded

/-- Whether a character may stand in the name of a divided parameter. -/
def isNameChar (c : Char) : Bool := c.isAlphanum || c = '_'

/-- The value that a parameter is a segment of, and the segment: a star follows the name, then
perhaps a number, and a star at the end if the text is coded. -/
def segment? (parameter : List Char × List Char) : Option (List Char × Segment) :=
  let name := parameter.1.takeWhile isNameChar
  let text := unquote parameter.2
  match name, parameter.1.dropWhile isNameChar with
  | _ :: _, '*' :: rest =>
    let digits := rest.takeWhile Char.isDigit
    let number := (String.ofList digits).toNat?
    match digits, rest.dropWhile Char.isDigit with
    | [], [] => some (name, { number := none, text, coded := true })
    | _ :: _, [] => some (name, { number, text, coded := false })
    | _ :: _, ['*'] => some (name, { number, text, coded := true })
    | _, _ => none
  | _, _ => none

/-- A text with the codes after percent signs replaced. -/
def decodePercent : List Char → List Char
  | [] => []
  | '%' :: a :: b :: rest =>
    match Text.hexValue? a, Text.hexValue? b with
    | some high, some low => Char.ofNat (high * 16 + low) :: decodePercent rest
    | _, _ => '%' :: decodePercent (a :: b :: rest)
  | c :: rest => c :: decodePercent rest

/-- The value of a parameter: a text, or codes in a character set. -/
inductive ParameterValue where
  | plain (text : List Char)
  | coded (charset : List Char) (codes : List Char)

/-- The value of coded segments, perhaps after the name of a character set and a language, each with
an apostrophe. -/
def codedValue (value : List Char) : ParameterValue :=
  match value.splitOn '\'' with
  | charset :: _ :: rest@(_ :: _) => .coded charset (['\''].intercalate rest)
  | _ => .coded [] value

/-- The value that segments make up in their order, if they have one. -/
def joinSegments (segments : List Segment) : Except Fault ParameterValue :=
  if segments.any (·.number.isSome) && segments.any (·.number.isNone) then .error .wrongKind
  else
    let value := (segments.mergeSort Segment.isBefore).flatMap fun segment =>
      if segment.coded then decodePercent segment.text else segment.text
    .ok (if segments.any (·.coded) then codedValue value else .plain value)

/-- Segments by the names of their values, as the names first appear. -/
def groupSegments (segments : List (List Char × Segment)) : List (List Char × List Segment) :=
  (segments.map (·.1)).eraseDups.map fun name =>
    (name, (segments.filter (·.1 = name)).map (·.2))

/-! ### The character set -/

/-- The values of all parameters: the first one, those written as a whole, then those in segments.
-/
def values (contentType : String) : Except Fault (List (List Char × ParameterValue)) := do
  let parameters := (elementsFrom [] contentType.toList).map parameterOf
  let others := parameters.tail
  let whole := (parameters.take 1 ++ others.filter fun other => (segment? other).isNone).map
    fun (name, value) => (name, ParameterValue.plain (unquote value))
  let divided ← (groupSegments (others.filterMap segment?)).mapM fun (name, segments) => do
    return (name, ← joinSegments segments)
  return whole ++ divided

def value? (name : String) (contentType : String) : Except Fault (Option ParameterValue) := do
  let found := (← values contentType).find? fun entry => entry.1.map Char.toLower = name.toList
  return found.map (·.2)

def isAscii (text : List Char) : Bool := text.all (·.toNat < 128)

/-- The character set with a name, which may not contain the character zero. -/
def charsetOf? (name : List Char) : Except Fault (Option Charset) :=
  if name.contains '\x00' then .error .noSuchValue else .ok (Charset.ofName? name)

/-- The text of a value; codes without a character are taken as they are. -/
def textOf : ParameterValue → Except Fault (List Char)
  | .plain text => return text
  | .coded charset codes => do
    let charset ← if charset.isEmpty then pure (some .ascii) else charsetOf? charset
    let bytes := codes.map fun c => c.toNat.toUInt8
    return if bytes.isEmpty then [] else (charset.bind (·.decodeWhole? bytes)).getD codes

/-- The character set of content, UTF-8 without a known name. -/
def charset (contentType : String) : Except Fault Charset := do
  match ← value? "charset" contentType with
  | none => return .utf8
  | some value =>
    let name ← textOf value
    if isAscii name then return (← charsetOf? name).getD .utf8 else return .utf8

end OpenApiClient.ContentType

namespace OpenApiClient.Address

/-! ## Addresses on the network -/

def lengthLimit : Nat := 65536

def isControl (c : Char) : Bool := c.toNat < 32 || c.toNat = 127

/-- The part of an address that names the host. -/
def authority (address : List Char) : List Char :=
  ((address.dropWhile (· ≠ '/')).drop 2).takeWhile fun c => c ≠ '/' && c ≠ '?' && c ≠ '#'

/-- What follows the last at sign, if there is one. -/
def afterUser (text : List Char) : List Char := (text.reverse.takeWhile (· ≠ '@')).reverse

/-- The host and the number of the service: a host in brackets ends with the last one, any other at
the first colon. -/
def hostAndService (text : List Char) : List Char × List Char :=
  let bracketed := (text.reverse.dropWhile (· ≠ ']')).reverse
  let (host, rest) :=
    if text.head? = some '[' && !bracketed.isEmpty then (bracketed, text.drop bracketed.length)
    else (text.takeWhile (· ≠ ':'), text.dropWhile (· ≠ ':'))
  (host, if rest.head? = some ':' then rest.tail else rest)

/-! ### Hosts -/

/-- A host in ASCII with other characters written by their codes. -/
def encodeHost (host : List Char) : List Char :=
  host.flatMap fun c =>
    if c.isAlphanum || "-._~!$&'()*+,;=\"`\x7b\x7d%|\\".toList.contains c then [c]
    else '%' :: (Text.hexDigits 2 c.toNat).map Char.toUpper

def hostForm (host : List Char) : Except Fault (List Char) :=
  if host.isEmpty then .ok []
  else if Host.looksNumeric host then
    if Host.isFourOctets host then .ok host else .error .invalidAddress
  else if host.head? = some '[' && host.getLast? = some ']' then
    let inner := host.tail.dropLast
    if Host.isEightNumbers inner then .ok inner else .error .invalidAddress
  else if host.all (·.toNat < 128) then .ok (encodeHost (host.map Char.toLower))
  else
    match Host.Name.toAscii (Text.smallPoints (host.map Char.toNat)) with
    | .ok name => .ok name
    | .error _ => .error .invalidAddress

/-- Checks that a host can be asked for: a name has a meaning, and all characters are ASCII. -/
def checkHost (form : List Char) : Except Fault Unit :=
  if Host.Name.mark.isPrefixOf form then
    match Host.Name.checkMeaning form with
    | .ok _ => .ok ()
    | .error fault => .error (.invalidName fault)
  else if form.all (·.toNat < 128) then .ok ()
  else .error .invalidHeader

/-! ### Addresses -/

/-- Whether the number of a service is left out or an integer. -/
def isService (service : List Char) : Bool :=
  service.isEmpty || (Text.intValue? (String.ofList service)).isSome

def check (address : String) : Except Fault Unit := do
  let text := address.toList
  let (host, service) := hostAndService (afterUser (authority text))
  if lengthLimit < text.length || text.any isControl then throw .invalidAddress
  let form ← hostForm host
  if !isService service then throw .invalidAddress
  checkHost form

end OpenApiClient.Address

namespace OpenApiClient

/-! ## Sources -/

structure ServerAnswer where
  status : Nat := 200
  contentType : String := ""
  body : List UInt8 := []
  deriving DecidableEq, Repr

/-- An answer, or the reason why there is none. -/
abbrev Fetched := Except String ServerAnswer

/-- What documents can be read from. -/
structure Sources where
  tree : File.Tree := {}
  input : String := ""
  fetch : String → Fetched := fun _ => .ok {}

namespace Document

def mentions (text word : String) : Bool := (text.splitOn word).length ≠ 1

def formatOfContent (contentType : String) : Option Format :=
  if mentions contentType "json" then some .json
  else if mentions contentType "yaml" || mentions contentType "yml" then some .yaml
  else none

/-- The format of a file that the end of its name tells. -/
def formatOfFile (path : File.Path) : Option Format :=
  match String.ofList (Text.lower path.suffix.toList) with
  | ".json" => some .json
  | ".yaml" => some .yaml
  | ".yml" => some .yaml
  | _ => none

def loadInput (input : String) : Run Entries := do
  Run.log .debug "Reading OpenAPI document from stdin"
  if Text.isBlankText input then throw (.document .noInput)
  Run.of (read none input)

def textOfAnswer (answer : ServerAnswer) : Except Failure String :=
  if answer.body.isEmpty then .ok ""
  else do
    let charset ← (ContentType.charset answer.contentType).mapError .unexpected
    (charset.decode answer.body).mapError fun fault => .unexpected (.undecoded fault)

def loadUrl (fetch : String → Fetched) (url : String) : Run Entries := do
  Run.log .debug ("Fetching OpenAPI document from " ++ url)
  match fetch url with
  | .error reason => throw (.document (.notFetched url reason))
  | .ok answer =>
    Run.of ((Address.check url).mapError .unexpected)
    if answer.contentType.toList.any (128 ≤ ·.toNat) then throw (.unexpected .invalidHeader)
    if answer.status < 200 || 300 ≤ answer.status then
      throw (.document (.httpStatus answer.status url))
    let text ← Run.of (textOfAnswer answer)
    Run.of (read (formatOfContent answer.contentType) text)

def loadFile (tree : File.Tree) (source : String) : Run Entries := do
  let path := File.Path.parse source
  match tree.content? path with
  | .error fault => throw (.unexpected (.noAccess fault))
  | .ok none => throw (.document (.fileNotFound source))
  | .ok (some content) =>
    Run.log .debug ("Reading OpenAPI document from " ++ path.text)
    match File.textOf content with
    | .error error => throw (.unexpected (.undecodable error))
    | .ok text =>
      if Text.isBlankText text then throw (.document (.fileEmpty source))
      Run.of (read (formatOfFile path) text)

/-- Loads a document: a dash is the standard input, an address is fetched, all else is a file. -/
def load (sources : Sources) (source : String) : Run Entries :=
  if source = "-" then loadInput sources.input
  else if source.startsWith "http://" || source.startsWith "https://" then
    loadUrl sources.fetch source
  else loadFile sources.tree source

end Document

end OpenApiClient
