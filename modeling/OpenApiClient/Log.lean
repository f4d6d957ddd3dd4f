import OpenApiClient.Failure

/-!
# Runs that keep a log

A run reports what it does as records of four levels, which are kept if it fails.
-/

namespace OpenApiClient

inductive Level where
  | debug
  | info
  | warning
  | error
  deriving DecidableEq, Repr

def Level.word : Level → String
  | .debug => "DEBUG"
  | .info => "INFO"
  | .warning => "WARNING"
  | .error => "ERROR"

structure Record where
  level : Level
  text : String
  deriving DecidableEq, Repr

abbrev Run := ExceptT Failure (StateM (List Record))

namespace Run

def log (level : Level) (text : String) : Run Unit := modify (· ++ [⟨level, text⟩])

def of {α : Type} (result : Except Failure α) : Run α := ExceptT.mk (pure result)

def result {α : Type} (run : Run α) : Except Failure α × List Record :=
  StateT.run (ExceptT.run run) []

end Run

end OpenApiClient
