/-!
# Why bytes cannot be read
-/

namespace OpenApiClient.Charset

/-- Why bytes cannot be read as a text: the order of the bytes is not known, the set has no
characters for them, it is no set of characters, or a part that has to be ASCII is not. -/
inductive DecodeFault where
  | noByteOrder
  | noCharacters
  | noText
  | noBytes
  | notAscii
  deriving DecidableEq, Repr

def DecodeFault.description : DecodeFault → String
  | .noByteOrder => "the order of the bytes of a text is not known"
  | .noCharacters => "bytes stand for no characters"
  | .noText => "bytes stand for other bytes"
  | .noBytes => "a text is not written in bytes"
  | .notAscii => "bytes are not ASCII"

end OpenApiClient.Charset
