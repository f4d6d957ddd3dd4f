/-!
# Warnings

A construct that cannot be carried over is replaced by a fallback, and a warning records which
keyword was dropped and where. Warnings are kept in the order in which they arose.
-/

namespace OpenApiClient

/-- A construct that was replaced by a fallback. -/
structure Warning where
  message : String
  keyword : String
  location : String
  deriving DecidableEq, Repr

def Warning.text (warning : Warning) : String := warning.location ++ ": " ++ warning.message

/-- A value together with the warnings that arose on the way to it. -/
structure Noted (α : Type) where
  value : α
  warnings : List Warning := []
  deriving Repr, Inhabited

namespace Noted

instance : Monad Noted where
  pure value := { value }
  bind noted next :=
    let following := next noted.value
    { value := following.value, warnings := noted.warnings ++ following.warnings }

def warn (location keyword message : String) : Noted Unit :=
  { value := (), warnings := [{ message, keyword, location }] }

end Noted

end OpenApiClient
