import OpenApiClient.Proofs.Client.Declarations
import OpenApiClient.Proofs.Document.Reader
import OpenApiClient.Proofs.Endpoint.Description

/-!
# Operations are bound independently

All names are declared before the first operation is looked at, and binding an operation declares
nothing more. So the declarations depend on the named schemas only, and the endpoint of an operation
on the operation and the named schemas: neither depends on the other operations of the document.

`compiled_describes` says what a document is compiled to in these terms, and
`operations_bound_independently` what this means for documents with the same named schemas.
-/

namespace OpenApiClient

open Conversion Endpoint List

/-! ### Declarations and descriptions -/

namespace Conversion

/-- What is declared depends on the named schemas and the configuration only. -/
theorem declareAll_determined (settings : Settings) : Determined (declareAll settings) := by
  refine determined_forM (fun name => ?_) _
  exact determined_bind (declareWith_determined (convertAt_determined settings _) name {}) fun _ =>
    determined_pure ()

end Conversion

/-- When all names are declared, binding the endpoints comes to the descriptions of the
operations. -/
theorem Document.Stages.bindAll_describes {document : Document} {config : Config}
    (stages : document.Stages config) :
    (outcome (bindAll stages.settings document.operations)
      { stages.declared with records := [] }).1 =
      (bound config document.operations).mapM
        (describe (document.settings config)) := by
  have hgives : Gives stages.declared.declarations
      (bindAll stages.settings document.operations) _ _ :=
    bindAll_gives stages.exists_declaration document.operations
  rw [(hgives { stages.declared with records := [] } rfl).1, stages.settings_eq]
  rfl

/-- A compiled document has the declarations of its schemas and the descriptions of its
operations. -/
theorem compiled_describes {document : Document} {config : Config} {compiled : Compiled}
    (h : document.compiled config = .ok compiled) :
    ∃ declarations order,
      Gives [] (declareAll (document.settings config)) (.ok ()) declarations ∧
      Declaration.ordered document.registry.names declarations = .ok order ∧
      compiled.declarations = Declaration.collect declarations order ∧
      (bound config document.operations).mapM
        (describe (document.settings config)) = .ok compiled.endpoints := by
  obtain ⟨stages, order, progress, horder, hbound, hdeclarations, -⟩ := stages_of_compiled h
  have hdeclared := gives_of_outcome (declareAll_determined stages.settings) stages.complete
  rw [stages.settings_eq] at hdeclared
  rw [stages.registry_eq] at horder
  refine ⟨_, order, hdeclared, horder, hdeclarations, ?_⟩
  rw [← stages.bindAll_describes, hbound]

/-- Endpoints have no lazy references, and direct ones to declared names only. -/
theorem endpoint_references {document : Document} {config : Config} {compiled : Compiled}
    (h : document.compiled config = .ok compiled) :
    ∀ endpoint ∈ compiled.endpoints, ∀ expr ∈ endpoint.exprs, ∀ part, Expr.Part part expr →
      part.kind ≠ .lazyRef ∧
      (part.kind = .namedRef →
        ∃ declared ∈ compiled.declarations, part.ref = some declared.name) := by
  intro endpoint hendpoint expr hexpr part hpart
  obtain ⟨-, -, -, -, -, hdescribed⟩ := compiled_describes h
  obtain ⟨operation, -, hdescribe⟩ := exists_of_forall₂ (mapM_eq_ok_iff.mp hdescribed) hendpoint
  have hmem : expr ∈ compiled.exprs :=
    mem_append_right _ (mem_flatMap.mpr ⟨endpoint, hendpoint, hexpr⟩)
  constructor
  · intro hlazy
    obtain ⟨name, href⟩ := compiled_targeted h expr hmem part hpart (.inr hlazy)
    exact describe_lazy hdescribe expr hexpr name
      (Expr.mem_references_of_part .lazy hpart hlazy href)
  · intro hnamed
    obtain ⟨name, href⟩ := compiled_targeted h expr hmem part hpart (.inl hnamed)
    have hname := compiled_references h expr hmem .named name
      (Expr.mem_references_of_part .named hpart hnamed href)
    obtain ⟨declared, hdeclared, rfl⟩ := mem_map.mp hname
    exact ⟨declared, hdeclared, href⟩

/-- A reference that was read into an operation has no default. -/
theorem default_of_ref_of_read {root : Entries} {version : Option String} {document : Document}
    (h : Document.ofEntries root version = .ok document) :
    ∀ operation ∈ document.operations, ∀ node ∈ operation.schemas, node.ref.isSome = true →
      node.default = none := by
  intro operation hoperation node hnode
  have hmem : node ∈ document.allSchemas :=
    mem_append_right _ (mem_flatMap.mpr ⟨operation, hoperation, hnode⟩)
  have hread := Document.ofEntries_readFrom Value.hereditary_true trivial h node hmem
  exact hread.default_of_ref

/-! ### Documents with the same named schemas -/

section SameSchemas

variable (schemas : List (String × Schema)) (config : Config)

/-- Documents with the same named schemas have the same declarations. -/
theorem exists_declarations :
    ∃ declarations, ∀ (document : Document) (compiled : Compiled), document.schemas = schemas →
      document.compiled config = .ok compiled → compiled.declarations = declarations := by
  let settings : Settings := { registry := { schemas }, config }
  obtain ⟨result, made, hmade⟩ := declareAll_determined settings []
  -- for schemas that cannot be declared, anything will do
  refine ⟨Declaration.collect made
    ((Declaration.ordered settings.registry.names made).toOption.getD []), ?_⟩
  rintro document compiled rfl h
  obtain ⟨declarations, order, hdeclared, horder, hdeclarations, -⟩ := compiled_describes h
  obtain ⟨-, rfl⟩ := hmade.unique hdeclared
  have hfound : Declaration.ordered settings.registry.names made = .ok order := horder
  rw [hfound]
  exact hdeclarations

/-- In documents with the same named schemas every operation has the same endpoint. -/
theorem exists_endpoint :
    ∃ endpoint : Operation → Endpoint, ∀ (document : Document) (compiled : Compiled),
      document.schemas = schemas → document.compiled config = .ok compiled →
      compiled.endpoints = (bound config document.operations).map endpoint ∧
      ∀ operation ∈ bound config document.operations,
        describe { registry := { schemas }, config } operation =
          .ok (endpoint operation) := by
  -- for operations without a description, anything will do
  let endpoint (operation : Operation) : Endpoint :=
    (describe { registry := { schemas }, config } operation).toOption.getD
      { method := .get, path := "", response := .unknown none }
  refine ⟨endpoint, ?_⟩
  rintro document compiled rfl h
  obtain ⟨-, -, -, -, -, hdescribed⟩ := compiled_describes h
  refine eq_map_of_mapM (fun operation found hfound => ?_) hdescribed
  have hdescribe : describe { registry := { schemas := document.schemas }, config }
      operation = .ok found := hfound
  simp only [endpoint, hdescribe, Except.toOption, Option.getD_some]

end SameSchemas

/-- The documents that are read with the same named schemas have the same declarations when they are
compiled, and there is one endpoint for each operation, whichever document it stands in. A compiled
document has the endpoints of its operations, those that are left out as deprecated apart, in the
order of the document. No endpoint has a lazy reference, its direct references go to declared names,
and where the schema of an operation is a reference, the endpoint refers to the same name. -/
theorem operations_bound_independently (schemas : List (String × Schema)) (config : Config) :
    ∃ (declarations : List Declared) (endpoint : Operation → Endpoint),
      ∀ (root : Entries) (version : Option String) (document : Document) (compiled : Compiled),
        Document.ofEntries root version = .ok document → document.schemas = schemas →
        (document.compile config).result.1 = .ok compiled →
        compiled.declarations = declarations ∧
        compiled.endpoints = (Endpoint.bound config document.operations).map endpoint ∧
        ∀ operation ∈ Endpoint.bound config document.operations,
          (endpoint operation).method = operation.method ∧
          (endpoint operation).path = operation.path ∧
          (∀ expr ∈ (endpoint operation).exprs, ∀ part, Expr.Part part expr →
            part.kind ≠ .lazyRef ∧
            (part.kind = .namedRef → ∃ declared ∈ declarations, part.ref = some declared.name)) ∧
          ∃ main failed, Endpoint.selectResponses operation.responses = .ok (main, failed) ∧
            List.Forall₂ (Endpoint.BindsReference { schemas }) (operation.slots main failed)
              (endpoint operation).exprs := by
  obtain ⟨declarations, hdeclarations⟩ := exists_declarations schemas config
  obtain ⟨endpoint, hendpoint⟩ := exists_endpoint schemas config
  refine ⟨declarations, endpoint, ?_⟩
  rintro root version document compiled hread rfl hcompiled
  rw [compile_result] at hcompiled
  have hsame := hdeclarations document compiled rfl hcompiled
  obtain ⟨hmap, hdescribe⟩ := hendpoint document compiled rfl hcompiled
  refine ⟨hsame, hmap, fun operation hoperation => ?_⟩
  have hdescribed := hdescribe operation hoperation
  obtain ⟨hmethod, hpath⟩ := Endpoint.describe_names hdescribed
  refine ⟨hmethod, hpath, ?_, ?_⟩
  · rw [← hsame]
    refine endpoint_references hcompiled (endpoint operation) ?_
    rw [hmap]
    exact mem_map_of_mem hoperation
  · refine Endpoint.describe_bindsReference ?_ hdescribed
    exact default_of_ref_of_read hread operation (mem_of_mem_filter hoperation)

/-- A mapping with texts as keys. -/
def Value.object (entries : List (String × Value)) : Value :=
  .map (entries.map fun entry => (.text entry.1, entry.2))

/-- A reference to a named schema. -/
def Value.reference (name : String) : Value :=
  .object [("$ref", .text ("#/components/schemas/" ++ name))]

/-- A document with the given paths and two schemas that refer to each other. -/
def circularRoot (paths : List (String × Value)) : Entries :=
  [(.text "components", .object [("schemas", .object
      [("A", .object [("properties", .object [("b", .reference "B")])]),
       ("B", .object [("allOf", .list [.reference "A", .object [("type", .text "string")]])])])]),
   (.text "paths", .object paths)]

/-- A path with one operation, which is answered with a named schema. -/
def answered (name : String) (deprecated : Bool) : Value :=
  .object [("get", .object [("deprecated", .bool deprecated),
    ("responses", .object [("200", .object [("content", .object [("application/json",
      .object [("schema", .reference name)])])])])])]

/-- The document with three operations, one of which is deprecated, and the document with just the
last of them. -/
theorem operations_bound_independently_circularRoot :
    ∃ (first second : Document) (one other : Compiled) (endpoint : Operation → Endpoint),
      Document.ofEntries (circularRoot [("/a", answered "A" false)]) none = .ok first ∧
      Document.ofEntries (circularRoot [("/b", answered "B" false), ("/c", answered "B" true),
        ("/a", answered "A" false)]) none = .ok second ∧
      (first.compile { excludeDeprecated := true }).result.1 = .ok one ∧
      (second.compile { excludeDeprecated := true }).result.1 = .ok other ∧
      one.declarations = other.declarations ∧ one.endpoints.length = 1 ∧
      one.endpoints =
        (Endpoint.bound { excludeDeprecated := true } first.operations).map endpoint ∧
      other.endpoints.length = 2 ∧
      other.endpoints =
        (Endpoint.bound { excludeDeprecated := true } second.operations).map endpoint := by
  have hall : (do
      let first ← (Document.ofEntries (circularRoot [("/a", answered "A" false)]) none).toOption
      let second ← (Document.ofEntries (circularRoot [("/b", answered "B" false),
        ("/c", answered "B" true), ("/a", answered "A" false)]) none).toOption
      let one ← (first.compile { excludeDeprecated := true }).result.1.toOption
      let other ← (second.compile { excludeDeprecated := true }).result.1.toOption
      return (one.endpoints.length, other.endpoints.length) : Option (Nat × Nat)) = some (1, 2) := by
    decide +kernel
  obtain ⟨first, hfirst, hrest⟩ := exists_ok_of_bind hall
  obtain ⟨second, hsecond, hrest⟩ := exists_ok_of_bind hrest
  obtain ⟨one, hone, hrest⟩ := exists_ok_of_bind hrest
  obtain ⟨other, hother, hlengths⟩ := exists_ok_of_bind hrest
  have hlengths := Prod.mk.inj (Option.some.inj hlengths)
  have hcomponents : ∀ paths others, Entries.get? (circularRoot paths) "components" =
      Entries.get? (circularRoot others) "components" := fun _ _ => rfl
  have hschemas : second.schemas = first.schemas :=
    Document.schemas_eq_of_components (hcomponents _ _) hsecond hfirst
  obtain ⟨declarations, endpoint, hbound⟩ :=
    operations_bound_independently first.schemas { excludeDeprecated := true }
  obtain ⟨hdeclared, hendpoints, -⟩ := hbound _ _ first one hfirst rfl hone
  obtain ⟨hagain, hothers, -⟩ := hbound _ _ second other hsecond hschemas hother
  exact ⟨first, second, one, other, endpoint, hfirst, hsecond, hone, hother,
    hdeclared.trans hagain.symm, hlengths.1, hendpoints, hlengths.2, hothers⟩

end OpenApiClient
