import OpenApiClient.Expr.Basic
import OpenApiClient.Source.Identifier
import OpenApiClient.Source.Literal
import OpenApiClient.Source.Pattern

/-!
# The source of an expression

An expression is written on one line: the call for its kind, then one for each modifier. A reference
is an identifier, a lazy one inside a function.
-/

namespace OpenApiClient

def Primitive.source : Primitive → String
  | .string => "z.string()"
  | .number => "z.number()"
  | .boolean => "z.boolean()"
  | .null => "z.null()"
  | .void => "z.void()"

namespace Modifier

/-- The call for a format; other formats are not checked. -/
def formatSource (format : String) : String :=
  match format with
  | "email" => ".email()"
  | "url" => ".url()"
  | "uuid" => ".uuid()"
  | "datetime" => ".datetime(\x7b offset: true \x7d)"
  | "date" => ".date()"
  | "time" => ".time()"
  | "ip" => ".ip()"
  | _ => ""

def firstText (modifier : Modifier) : Except Failure String :=
  match modifier.args with
  | value :: _ => .ok value.plain
  | [] => .error (.unexpected .noSuchItem)

def source (modifier : Modifier) : Except Failure String :=
  let call (method : String) : Except Failure String := do
    return "." ++ method ++ "(" ++ (← Source.literals modifier.args) ++ ")"
  match modifier.kind with
  | .integer => .ok ".int()"
  | .partialObject => .ok ".partial()"
  | .passthrough => .ok ".passthrough()"
  | .strict => .ok ".strict()"
  | .optional => .ok ".optional()"
  | .nullable => .ok ".nullable()"
  | .regex => do return ".regex(" ++ Source.patternLiteral (← modifier.firstText) ++ ")"
  | .format => do return formatSource (← modifier.firstText)
  | .gt => call "gt"
  | .gte => call "gte"
  | .lt => call "lt"
  | .lte => call "lte"
  | .multipleOf => call "multipleOf"
  | .min => call "min"
  | .max => call "max"
  | .default => call "default"

end Modifier

namespace Source

def reference (identifiers : List (String × String)) (name : Option String) :
    Except Failure String :=
  match identifiers.lookup (name.getD "") with
  | some identifier => .ok identifier
  | none => .error (.render (.undeclaredReference name))

def allTexts (values : List Value) : Bool := values.all (·.text?.isSome)

/-- The call for the first of the given values. -/
def literalCall : List Value → Except Failure String
  | [] => .error (.unexpected .noSuchItem)
  | value :: _ => do return "z.literal(" ++ (← literal value) ++ ")"

def enumeration (values : List Value) : Except Failure String := do
  if allTexts values then return "z.enum([" ++ (← literals values) ++ "])"
  else
    let members ← values.mapM fun value => do return "z.literal(" ++ (← literal value) ++ ")"
    return "z.union([" ++ ", ".intercalate members ++ "])"

/-- The call for an object with fields and the source for all others. -/
def objectCall (fields : List String) (others : Option String) : String :=
  let body := "z.object(\x7b " ++ ", ".intercalate fields ++ " \x7d)"
  match fields, others with
  | [], some others => "z.record(" ++ others ++ ")"
  | _, some others => body ++ ".catchall(" ++ others ++ ")"
  | [], none => "z.object(\x7b\x7d)"
  | _, none => body

/-- The call for a value that is one of several members. -/
def unionCall : List String → String
  | [] => "z.never()"
  | [member] => member
  | members => "z.union([" ++ ", ".intercalate members ++ "])"

/-- The call for a value that is all of several members. -/
def intersectionCall : List String → Except Failure String
  | [] => .error (.unexpected .noSuchValue)
  | first :: others => .ok (first ++ String.join (others.map fun other => ".and(" ++ other ++ ")"))

end Source

mutual

def Expr.source (identifiers : List (String × String)) : Expr → Except Failure String
  | ⟨kind, primitive, modifiers, properties, others, items, members, values, ref, _⟩ => do
    let call ←
      match kind with
      | .primitive => pure (primitive.getD .string).source
      | .object => do
        let fields ← propertySources identifiers properties
        pure (Source.objectCall fields (← optionSource identifiers others))
      | .array => do
        pure ("z.array(" ++ ((← optionSource identifiers items).getD "z.unknown()") ++ ")")
      | .union => Source.unionCall <$> memberSources identifiers members
      | .intersection => do Source.intersectionCall (← memberSources identifiers members)
      | .literal => Source.literalCall values
      | .enum => Source.enumeration values
      | .namedRef => Source.reference identifiers ref
      | .lazyRef => do pure ("z.lazy(() => " ++ (← Source.reference identifiers ref) ++ ")")
      | .unknown => pure "z.unknown()"
    return call ++ String.join (← modifiers.mapM Modifier.source)

def propertySources (identifiers : List (String × String)) :
    List (Property Expr) → Except Failure (List String)
  | [] => .ok []
  | ⟨name, expr, _⟩ :: rest => do
    let field := Source.propertyKey name ++ ": " ++ (← expr.source identifiers)
    return field :: (← propertySources identifiers rest)

def memberSources (identifiers : List (String × String)) :
    List Expr → Except Failure (List String)
  | [] => .ok []
  | expr :: rest => do return (← expr.source identifiers) :: (← memberSources identifiers rest)

def optionSource (identifiers : List (String × String)) :
    Option Expr → Except Failure (Option String)
  | none => .ok none
  | some expr => do return some (← expr.source identifiers)

end

end OpenApiClient
