import OpenApiClient.Config.Basic
import OpenApiClient.Field

/-!
# Reading a configuration

A configuration is a mapping from field names to values. No other fields are allowed, and absent
ones have their usual values.
-/

namespace OpenApiClient.Config

def flagNames : List String :=
  ["strict_objects", "with_default_values", "exclude_deprecated", "export_schemas"]

def clientNameField : String := "api_client_name"

def fieldNames : List String := flagNames ++ [clientNameField]

/-- What is wrong with an entry, if anything. -/
def invalidEntry? (entry : Scalar × Value) : Option InvalidField :=
  match entry.1 with
  | .text field =>
    let fault? : Option FieldFault :=
      if flagNames.contains field then
        match Field.truth entry.2 with
        | .ok _ => none
        | .error fault => some fault
      else if field = clientNameField then
        match Field.text entry.2 with
        | .ok _ => none
        | .error fault => some fault
      else some .unknownField
    fault?.map fun fault => { field, fault }
  | key => some { field := key.plain, fault := .unknownField }

/-- The truth value of a field in a mapping without invalid entries. -/
def flag (entries : Entries) (name : String) (usual : Bool) : Bool :=
  match (Entries.get? entries name).map Field.truth with
  | some (.ok value) => value
  | _ => usual

/-- The configuration that a mapping describes, or what is wrong with it. -/
def ofEntries (entries : Entries) : Except (List InvalidField) Config :=
  match entries.filterMap invalidEntry? with
  | [] =>
    let usual : Config := {}
    .ok { strictObjects := flag entries "strict_objects" usual.strictObjects
          withDefaultValues := flag entries "with_default_values" usual.withDefaultValues
          excludeDeprecated := flag entries "exclude_deprecated" usual.excludeDeprecated
          exportSchemas := flag entries "export_schemas" usual.exportSchemas
          clientName :=
            ((Entries.get? entries clientNameField).bind Field.text?).getD usual.clientName }
  | invalid => .error invalid

end OpenApiClient.Config
