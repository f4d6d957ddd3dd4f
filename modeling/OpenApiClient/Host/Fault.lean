/-!
# What is wrong with host names
-/

namespace OpenApiClient.Host

/-- What is wrong with a host name: its form, a character, its place, or its direction. -/
inductive NameFault where
  | form
  | character
  | place
  | direction
  deriving DecidableEq, Repr

end OpenApiClient.Host
