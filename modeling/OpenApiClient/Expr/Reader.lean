import OpenApiClient.Expr.Basic
import OpenApiClient.Field

/-!
# Reading expressions

An expression is a mapping from the names of its parts to their values, a modifier a list of its
word and its arguments, and a property a list of its name, whether it is optional, and its
expression.
-/

namespace OpenApiClient

/-- The items of a list, the keys of a mapping, the characters of a text. -/
def Value.elements : Value → Except Failure (List Value)
  | .list items => .ok items
  | .map entries => .ok (entries.map fun entry => .scalar entry.1)
  | .text word => .ok (word.toList.map fun c => .text c.toString)
  | _ => .error (.unexpected .wrongKind)

namespace Modifier

def readKind : Value → Except Failure ModifierKind
  | .text word =>
    match ModifierKind.ofWord? word with
    | some kind => .ok kind
    | none => .error (.unexpected .noSuchValue)
  | _ => .error (.unexpected .noSuchValue)

def read : Value → Except Failure Modifier
  | .list (word :: args) => do return { kind := ← readKind word, args }
  | .list [] => .error (.unexpected .noSuchItem)
  | .text text => .error (.unexpected (if text.isEmpty then .noSuchItem else .noSuchValue))
  | .map _ => .error (.unexpected .noSuchKey)
  | _ => .error (.unexpected .wrongKind)

def readAll (value : Value) : Except Failure (List Modifier) := do (← value.elements).mapM read

end Modifier

namespace Expr

/-- The value of a part, unless it is absent or `null`. -/
def given? (entries : Entries) (name : String) : Option Value :=
  match Entries.get? entries name with
  | some .null => none
  | value => value

/-- The values of a part with several values. -/
def listed (entries : Entries) (name : String) : Except Failure (List Value) :=
  match given? entries name with
  | none => .ok []
  | some value => value.elements

/-- What a word names, which has to be one of a few. -/
def named {α : Type} (ofWord? : String → Option α) (word : Value) : Except Failure α :=
  match word.text?.bind ofWord? with
  | some value => .ok value
  | none => .error (.unexpected .noSuchValue)

def invalidText (field : String) (value : Option Value) : List InvalidField :=
  match value.map Field.text with
  | some (.error fault) => [{ field, fault }]
  | _ => []

def invalidTruth (field : String) (value : Value) : List InvalidField :=
  match Field.truth value with
  | .ok _ => []
  | .error fault => [{ field, fault }]

def requireValid (invalid : List InvalidField) : Except Failure Unit :=
  if invalid.isEmpty then .ok () else .error (.unexpected (.invalidFields invalid))

/-- Reads a property; `read` reads its expression. -/
def readProperty (read : Value → Except Failure Expr) (value : Value) :
    Except Failure (Property Expr) := do
  match ← value.elements with
  | [name, optional, raw] =>
    let expr ← read raw
    requireValid (invalidText "name" (some name) ++ invalidTruth "optional" optional)
    return {
      name := (Field.text? name).getD ""
      expr
      optional := (Field.truth optional).toOption.getD false }
  | _ => throw (.unexpected .noSuchValue)

/-- Reads an expression at most `depth` expressions deep. -/
def readAt : (depth : Nat) → Value → Except Failure Expr
  | 0, _ => .error (.unexpected .endless)
  | depth + 1, .map entries => do
    let some word := Entries.get? entries "kind" | throw (.unexpected .noSuchKey)
    let kind ← named ExprKind.ofWord? word
    let primitive ← (given? entries "primitive").mapM (named Primitive.ofWord?)
    let modifiers ← (← listed entries "modifiers").mapM Modifier.read
    let properties ← (← listed entries "properties").mapM (readProperty (readAt depth))
    let others ← (given? entries "index_signature").mapM (readAt depth)
    let items ← (given? entries "items").mapM (readAt depth)
    let members ← (← listed entries "members").mapM (readAt depth)
    let values ← listed entries "values"
    let ref := given? entries "ref"
    let note := given? entries "note"
    requireValid (invalidText "ref" ref ++ invalidText "note" note)
    return {
      kind, primitive, modifiers, properties, others, items, members, values
      ref := ref.bind Field.text?
      note := note.bind Field.text? }
  | _ + 1, _ => .error (.unexpected .wrongKind)

def read (value : Value) : Except Failure Expr := readAt value.depth value

end Expr

end OpenApiClient
