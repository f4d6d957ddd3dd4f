/-!
# The configuration of a run

The options that decide how schemas are converted and what the client looks like.
-/

namespace OpenApiClient

structure Config where
  /-- objects reject properties that are not declared, unless they say otherwise -/
  strictObjects : Bool := false
  /-- default values of schemas are carried over -/
  withDefaultValues : Bool := true
  /-- deprecated operations are left out -/
  excludeDeprecated : Bool := false
  /-- the declared schemas are exported -/
  exportSchemas : Bool := true
  /-- the name of the client -/
  clientName : String := "api"
  deriving DecidableEq, Repr

end OpenApiClient
