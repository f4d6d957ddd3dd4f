import OpenApiClient.Text.Property

/-!
# Quoted text in messages

A text is quoted with apostrophes unless it holds one and no double quote. The quote and the
backslash are escaped, tabs and line ends have short escapes, and other characters that do not print
are written by their code points.
-/

namespace OpenApiClient.Text

/-! ### Printable characters -/

def hiddenRanges : Thunk Ranges := Property.hidden.ranges

/-- Whether a character shows as itself. -/
def isPrintable (c : Char) : Bool :=
  if c.toNat < 0x7f then 0x20 ≤ c.toNat else !hiddenRanges.get.contains c.toNat

/-! ### Quotes -/

def quoteFor (text : List Char) : Char :=
  if text.contains '\'' && !text.contains '"' then '"' else '\''

def hexDigits (width n : Nat) : List Char :=
  let digits := Nat.toDigits 16 n
  List.replicate (width - digits.length) '0' ++ digits

/-- A character that does not print, by its code point. -/
def codePointEscape (point : Nat) : List Char :=
  if point < 0x100 then '\\' :: 'x' :: hexDigits 2 point
  else if point < 0x10000 then '\\' :: 'u' :: hexDigits 4 point
  else '\\' :: 'U' :: hexDigits 8 point

def quotedChar (quote c : Char) : List Char :=
  if c = quote || c = '\\' then ['\\', c]
  else if c = '\t' then ['\\', 't']
  else if c = '\n' then ['\\', 'n']
  else if c = '\r' then ['\\', 'r']
  else if isPrintable c then [c]
  else codePointEscape c.toNat

def quoted (text : String) : String :=
  let quote := quoteFor text.toList
  String.ofList (quote :: (text.toList.flatMap (quotedChar quote) ++ [quote]))

/-- One byte of quoted bytes: printable ASCII shows as itself. -/
def quotedByte (quote : Char) (byte : UInt8) : List Char :=
  let c := Char.ofNat byte.toNat
  if 0x20 ≤ byte.toNat && byte.toNat < 0x7f || c = '\t' || c = '\n' || c = '\r' then
    quotedChar quote c
  else '\\' :: 'x' :: hexDigits 2 byte.toNat

/-- Bytes in quotes, marked by a leading b. -/
def quotedBytes (bytes : List UInt8) : String :=
  let quote := quoteFor (bytes.map fun byte => Char.ofNat byte.toNat)
  String.ofList ('b' :: quote :: (bytes.flatMap (quotedByte quote) ++ [quote]))

end OpenApiClient.Text
