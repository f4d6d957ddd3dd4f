/-!
# Regular expressions of the generated source

A pattern is written between slashes. A slash that it does not escape is escaped, and so are line
ends. A backslash goes with the character after it.
-/

namespace OpenApiClient.Source

/-- What follows the backslash in the escape of a line end. -/
def lineEndEscape? (c : Char) : Option (List Char) :=
  if c = '\n' then some ['n']
  else if c = '\r' then some ['r']
  else if c = '\u2028' then some ['u', '2', '0', '2', '8']
  else if c = '\u2029' then some ['u', '2', '0', '2', '9']
  else none

/-- The characters of a pattern between the slashes, after a backslash or not. A backslash at the
end is doubled. -/
def patternChars : (escaped : Bool) → List Char → List Char
  | true, [] => ['\\']
  | false, [] => []
  | escaped, c :: rest =>
    match lineEndEscape? c with
    | some escape => (if escaped then escape else '\\' :: escape) ++ patternChars false rest
    | none =>
      if escaped then c :: patternChars false rest
      else if c = '\\' then c :: patternChars true rest
      else if c = '/' then '\\' :: '/' :: patternChars false rest
      else c :: patternChars false rest

def patternLiteral (pattern : String) : String :=
  if pattern.isEmpty then "/(?:)/"
  else String.ofList ('/' :: (patternChars false pattern.toList ++ ['/']))

end OpenApiClient.Source
