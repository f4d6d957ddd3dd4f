import OpenApiClient.Proofs.Client.Operations
import OpenApiClient.Proofs.Conversion.Optional

/-!
# What is optional in a compiled document

`optional_exactly_where_missing` says where the expressions of a compiled document are marked as
optional: at the properties that may be missing in an object that is not partial, at the parameters
and bodies that are not required, and nowhere else. Every object is traced back to a schema of the
document (`Document.Written`), so that what it requires is what the document says it does.
-/

namespace OpenApiClient

open Conversion List Operation Reading

/-- The schemas that stand in a document, with the objects that some of them describe beside an
`allOf`. -/
inductive Document.Written (document : Document) : Schema → Prop
  | fragment {root fragment : Schema} : root ∈ document.allSchemas → fragment ∈ root.fragments →
      Written document fragment
  | sibling {schema member : Schema} : Written document schema →
      siblingMember? schema = some member → Written document member

theorem Document.every_written {document : Document} {root : Schema}
    (h : root ∈ document.allSchemas) : root.Every document.Written :=
  fun _ hfragment => .fragment h hfragment

theorem Document.every_written_of_registry {document : Document} :
    ∀ entry ∈ document.registry.schemas, entry.2.Every document.Written := fun _ hentry =>
  every_written (mem_append_left _ (mem_map_of_mem hentry))

/-! ### Endpoints -/

namespace Endpoint

/-- What an endpoint marks as optional: the body and the parameters that are not required. -/
structure MarksOptional (operation : Operation) (endpoint : Endpoint) : Prop where
  response : endpoint.response.hasModifier .optional = false
  errors : ∀ error ∈ endpoint.errors, error.expr.hasModifier .optional = false
  parameters : ∃ body others, endpoint.parameters = body ++ others ∧
    List.Forall₂ (fun (given : RequestBody) (parameter : Parameter) => parameter.place = .body ∧
      parameter.expr.hasModifier .optional = !given.required) operation.body.toList body ∧
    List.Forall₂ (fun (given : OpenApiClient.Parameter) (parameter : Parameter) =>
      parameter.place = given.place ∧ parameter.name = given.name ∧
      parameter.expr.hasModifier .optional = !given.required) operation.parameters others

section Described

variable {settings : Settings} {fit : Schema → Prop}
  (hsibling : ∀ {schema member}, fit schema → siblingMember? schema = some member → fit member)
  (hregistry : ∀ entry ∈ settings.registry.schemas, entry.2.Every fit)

include hsibling hregistry

theorem structural_exact {schema : Schema} {optional : Bool} {expr : Expr}
    (hschema : schema.Every fit) (h : structural settings schema optional = .ok expr) :
    expr.hasModifier .optional = optional ∧ expr.Every (ExactPart settings fit) := by
  have hbecomes : Becomes settings schema { optional } expr := becomes_of_structuralAt rfl h
  have hexact := hbecomes.exact hsibling hregistry hschema
  exact ⟨hexact.optional, hexact.every⟩

theorem describeSchema_exact {schema : Option Schema} {optional : Bool} {expr : Expr}
    (hschema : ∀ node ∈ schema, node.Every fit)
    (h : describeSchema settings schema optional = .ok expr) :
    expr.hasModifier .optional = optional ∧ expr.Every (ExactPart settings fit) := by
  cases schema with
  | some node => exact structural_exact hsibling hregistry (hschema node rfl) h
  | none =>
    cases h
    constructor
    · cases optional <;> rfl
    · refine every_leaf (exactPart_leaf ?_ ?_) ?_ <;> simp [Expr.unknown, Expr.children]

theorem describeResponse_exact {response : Option Response} {expr : Expr}
    (hschema : ∀ found ∈ response, ∀ node ∈ found.schema, node.Every fit)
    (h : describeResponse settings response = .ok expr) :
    expr.hasModifier .optional = false ∧ expr.Every (ExactPart settings fit) := by
  have hleaf : ∀ {leaf : Expr}, leaf = .ofPrimitive .void ∨ leaf = .unknown none →
      leaf.hasModifier .optional = false ∧ leaf.Every (ExactPart settings fit) := by
    rintro _ (rfl | rfl)
    · exact ⟨rfl, every_leaf (exactPart_leaf nofun rfl) rfl⟩
    · exact ⟨rfl, every_leaf (exactPart_leaf nofun rfl) rfl⟩
  unfold describeResponse at h
  split at h
  · exact hleaf (.inl (Except.ok.inj h).symm)
  · rename_i found
    split at h
    · exact hleaf (.inl (Except.ok.inj h).symm)
    · exact hleaf (.inr (Except.ok.inj h).symm)
    · rename_i node _ hnode
      exact structural_exact hsibling hregistry (hschema found rfl node hnode) h

/-- Parameters made of schemas that are each required or not. -/
theorem parameters_exact {ι : Type} {items : List ι} {wrap : ι → Expr → Parameter}
    {parameters : List Parameter} (schema : ι → Option Schema) (required : ι → Bool)
    (hschema : ∀ item ∈ items, ∀ node ∈ schema item, node.Every fit)
    (h : (items.mapM fun item => do
      let expr ← describeSchema settings (schema item) !required item
      return wrap item expr) = .ok parameters) :
    List.Forall₂ (fun item parameter => ∃ expr, wrap item expr = parameter ∧
      expr.hasModifier .optional = (!required item) ∧ expr.Every (ExactPart settings fit))
      items parameters := by
  refine ((forall₂_and_left _ _).mpr ⟨hschema, forall₂_wrapped_of_mapM h⟩).imp ?_
  rintro item _ ⟨hschema, expr, hexpr, rfl⟩
  exact ⟨expr, rfl, describeSchema_exact hsibling hregistry hschema hexpr⟩

/-- A described endpoint marks what is not required, and its expressions mark what may be missing
in them. -/
theorem describe_exact {operation : Operation} {endpoint : Endpoint}
    (hschemas : ∀ schema ∈ operation.schemas, schema.Every fit)
    (h : describe settings operation = .ok endpoint) :
    MarksOptional operation endpoint ∧
      ∀ expr ∈ endpoint.exprs, expr.Every (ExactPart settings fit) := by
  unfold describe at h
  obtain ⟨body, hbody, h⟩ := bind_eq_ok.mp h
  obtain ⟨parameters, hparameters, h⟩ := bind_eq_ok.mp h
  obtain ⟨⟨main, failed⟩, hselected, h⟩ := bind_eq_ok.mp h
  obtain ⟨response, hresponse, h⟩ := bind_eq_ok.mp h
  obtain ⟨errors, herrors, h⟩ := bind_eq_ok.mp h
  cases h
  obtain ⟨hmain, hfailed⟩ := mem_of_selectResponses hselected
  have hbody := parameters_exact hsibling hregistry RequestBody.schema RequestBody.required
    (fun given hmem node hnode =>
      hschemas node (mem_schemas_of_body (Option.mem_toList.mp hmem) hnode)) hbody
  have hparameters := parameters_exact hsibling hregistry OpenApiClient.Parameter.schema
    OpenApiClient.Parameter.required (fun given hmem node hnode =>
      hschemas node (mem_schemas_of_parameter hmem hnode)) hparameters
  have hcontent : ∀ found ∈ operation.responses, ∀ node ∈ found.schema, node.Every fit :=
    fun found hmem node hnode => hschemas node (mem_schemas_of_response hmem hnode)
  obtain ⟨hresponse, heveryResponse⟩ := describeResponse_exact hsibling hregistry
    (fun found hfound => hcontent found (hmain found hfound)) hresponse
  have herrors : ∀ error ∈ errors, error.expr.hasModifier .optional = false ∧
      error.expr.Every (ExactPart settings fit) := by
    intro error herror
    obtain ⟨failed, hmem, expr, hexpr, rfl⟩ :=
      exists_of_forall₂ (forall₂_wrapped_of_mapM herrors) herror
    refine describeResponse_exact hsibling hregistry ?_ hexpr
    rintro _ ⟨⟩
    exact hcontent failed (hfailed failed hmem)
  refine ⟨⟨hresponse, fun error herror => (herrors error herror).1, body, parameters, rfl,
    hbody.imp ?_, hparameters.imp ?_⟩, fun expr hexpr => ?_⟩
  · rintro given _ ⟨expr, rfl, hoptional, -⟩
    exact ⟨rfl, hoptional⟩
  · rintro given _ ⟨expr, rfl, hoptional, -⟩
    exact ⟨rfl, rfl, hoptional⟩
  simp only [exprs, map_append, mem_append, mem_cons, mem_map] at hexpr
  rcases hexpr with (⟨parameter, hmem, rfl⟩ | ⟨parameter, hmem, rfl⟩) | rfl | ⟨error, hmem, rfl⟩
  · obtain ⟨given, -, found, rfl, -, hevery⟩ := exists_of_forall₂ hbody hmem
    exact hevery
  · obtain ⟨given, -, found, rfl, -, hevery⟩ := exists_of_forall₂ hparameters hmem
    exact hevery
  · exact heveryResponse
  · exact (herrors error hmem).2

end Described

end Endpoint

/-! ### Path parameters -/

/-- The parameters of a path are required. -/
def Operation.RequiresPath (operation : Operation) : Prop :=
  ∀ parameter ∈ operation.parameters, parameter.place = .path → parameter.required = true

theorem Parameter.read_requires (raw : Entries) (location : String) :
    Reading.Ensures (Parameter.read raw location) fun found =>
      ∀ parameter ∈ found, parameter.place = .path → parameter.required = true := by
  unfold Parameter.read
  dsimp only
  split
  · exact ensures_then fun _ => ensures_pure (by simp)
  · exact ensures_then fun _ => ensures_pure (by simp)
  · split
    all_goals
      refine ensures_then fun schema => ?_
      refine ensures_then fun description => ?_
      exact ensures_pure (by simp +contextual)

theorem Operation.read_requires (root : Entries) (path : String) (method : Method)
    (shared : List Entries) (raw : Entries) :
    Reading.Ensures (read root path method shared raw) Operation.RequiresPath := by
  unfold read
  refine ensures_then fun own => ?_
  split
  · refine ensures_bind (ensures_mapM fun entry _ =>
      Parameter.read_requires entry.1 _) fun parameters hparameters => ?_
    refine ensures_then fun body => ?_
    refine ensures_then fun responses => ?_
    refine ensures_then fun _ => ?_
    refine ensures_pure fun parameter hparameter => ?_
    obtain ⟨found, hfound, hsome⟩ := mem_filterMap.mp hparameter
    exact hparameters found hfound parameter hsome
  · exact ensures_throw _ _

/-- What is ensured of every operation that is read is true of all operations of a document. -/
theorem Operation.readAll_each {root : Entries} {good : Operation → Prop}
    (h : ∀ path method shared raw, Reading.Ensures (read root path method shared raw) good) :
    Reading.Ensures (readAll root) fun operations =>
      ∀ operation ∈ operations, good operation := by
  have hpath : ∀ path value, Reading.Ensures (readPath root path value)
      fun operations => ∀ operation ∈ operations, good operation := by
    intro path value
    unfold readPath
    refine ensures_then fun last => ?_
    split
    · refine ensures_then fun shared => ?_
      exact ensures_mapM fun entry _ => h path entry.1 shared entry.2
    · exact ensures_pure (by simp)
  unfold readAll
  split
  · refine ensures_bind (ensures_mapM fun entry _ => hpath _ entry.2)
      fun groups hgroups => ?_
    refine ensures_pure fun operation hoperation => ?_
    obtain ⟨group, hgroup, hmem⟩ := mem_flatten.mp hoperation
    exact hgroups group hgroup operation hmem
  · exact ensures_pure (by simp)

theorem Document.ofEntries_requires {root : Entries} {version : Option String} {document : Document}
    (h : Document.ofEntries root version = .ok document) :
    ∀ operation ∈ document.operations, operation.RequiresPath := by
  have hparts : Reading.Ensures (do
      return (← Document.readInfo root, ← Document.readSchemas root, ← readAll root))
      fun parts => ∀ operation ∈ parts.2.2, operation.RequiresPath := by
    refine ensures_then fun info => ?_
    refine ensures_then fun schemas => ?_
    refine ensures_bind (readAll_each fun path method shared raw =>
      read_requires root path method shared raw) fun operations hoperations => ?_
    exact ensures_pure hoperations
  obtain ⟨parts, hvalue, rfl⟩ := exists_of_map_eq_ok h
  exact hparts parts hvalue

/-- Where an operation requires its path parameters, its endpoint does not mark them. -/
theorem Endpoint.MarksOptional.path {operation : Operation} {endpoint : Endpoint}
    (h : MarksOptional operation endpoint) (hrequires : operation.RequiresPath) :
    ∀ parameter ∈ endpoint.parameters, parameter.place = .path →
      parameter.expr.hasModifier .optional = false := by
  obtain ⟨body, others, hparameters, hbody, hothers⟩ := h.parameters
  intro parameter hparameter hplace
  rw [hparameters] at hparameter
  rcases mem_append.mp hparameter with hparameter | hparameter
  · obtain ⟨given, -, hbodyPlace, -⟩ := exists_of_forall₂ hbody hparameter
    rw [hplace] at hbodyPlace
    cases hbodyPlace
  · obtain ⟨given, hgiven, hgivenPlace, -, hoptional⟩ := exists_of_forall₂ hothers hparameter
    rw [hoptional, hrequires given hgiven (hgivenPlace ▸ hplace)]
    rfl

/-! ### Documents -/

/-- In a compiled document an object that is not partial marks the properties that no schema behind
it requires, a partial object marks none and has no others, and nothing else in an expression is
marked. An expression is marked as a whole if it is that of a parameter or a body that is not
required, which parameters of the path always are in documents that are read. -/
theorem optional_exactly_where_missing (document : Document) (config : Config) (compiled : Compiled)
    (h : (document.compile config).result.1 = .ok compiled) :
    (∀ expr ∈ compiled.exprs,
      expr.Every (ExactPart (document.settings config) document.Written)) ∧
    (∀ declared ∈ compiled.declarations, declared.expr.hasModifier .optional = false) ∧
    List.Forall₂ Endpoint.MarksOptional (Endpoint.bound config document.operations)
      compiled.endpoints ∧
    ∀ root version, Document.ofEntries root version = .ok document →
      ∀ endpoint ∈ compiled.endpoints, ∀ parameter ∈ endpoint.parameters,
        parameter.place = .path → parameter.expr.hasModifier .optional = false := by
  rw [compile_result] at h
  have hdeclared : ∀ declared ∈ compiled.declarations, ∃ part : Schema × Context,
      part.2.optional = false ∧
      Converted (document.settings config) document.Written part declared.expr := by
    intro declared hmem
    obtain ⟨target, context, hget, hbecomes⟩ :=
      compiled_each (becomes_laws (document.settings config)) (fun _ _ _ => trivial) h declared hmem
    refine ⟨_, rfl, hbecomes.exact .sibling Document.every_written_of_registry ?_⟩
    exact Document.every_written_of_registry _ (Registry.mem_schemas_of_get? hget)
  have hendpoints : List.Forall₂ (fun operation endpoint =>
      Endpoint.MarksOptional operation endpoint ∧ ∀ expr ∈ endpoint.exprs,
        expr.Every (ExactPart (document.settings config) document.Written))
      (Endpoint.bound config document.operations) compiled.endpoints := by
    obtain ⟨-, -, -, -, -, hdescribed⟩ := compiled_describes h
    have hwritten : ∀ operation ∈ Endpoint.bound config document.operations,
        ∀ schema ∈ operation.schemas, schema.Every document.Written := by
      intro operation hoperation schema hschema
      refine Document.every_written (mem_append_right _ (mem_flatMap.mpr ⟨operation, ?_⟩))
      exact ⟨mem_of_mem_filter hoperation, hschema⟩
    refine ((forall₂_and_left _ _).mpr ⟨hwritten, mapM_eq_ok_iff.mp hdescribed⟩).imp ?_
    exact fun operation endpoint hboth =>
      Endpoint.describe_exact .sibling Document.every_written_of_registry hboth.1 hboth.2
  refine ⟨fun expr hexpr => ?_, fun declared hmem => ?_, hendpoints.imp fun _ _ hboth => hboth.1,
    fun root version hread endpoint hendpoint => ?_⟩
  · rcases mem_append.mp hexpr with hexpr | hexpr
    · obtain ⟨declared, hmem, rfl⟩ := mem_map.mp hexpr
      obtain ⟨_, -, hconverted⟩ := hdeclared declared hmem
      exact hconverted.every
    · obtain ⟨endpoint, hendpoint, hexpr⟩ := mem_flatMap.mp hexpr
      obtain ⟨operation, -, -, hevery⟩ := exists_of_forall₂ hendpoints hendpoint
      exact hevery expr hexpr
  · obtain ⟨part, hoptional, hconverted⟩ := hdeclared declared hmem
    exact hconverted.optional.trans hoptional
  · obtain ⟨operation, hoperation, hmarks, -⟩ := exists_of_forall₂ hendpoints hendpoint
    exact hmarks.path (Document.ofEntries_requires hread operation (mem_of_mem_filter hoperation))

/-- A document with an object that requires a property, one that requires nothing, and an operation
with a body, a parameter of the path and one of the query. -/
def markedRoot : Entries :=
  [(.text "components", .object [("schemas", .object
      [("Pet", .object [("required", .list [.text "id"]), ("properties", .object
          [("id", .object [("type", .text "string")]), ("tag", .reference "Patch")])]),
       ("Patch", .object [("properties", .object [("tag", .object [("type", .text "string")])])])])]),
   (.text "paths", .object [("/pets/\x7bid\x7d", .object [("put", .object
      [("parameters", .list
          [.object [("name", .text "id"), ("in", .text "path")],
           .object [("name", .text "dry"), ("in", .text "query")]]),
       ("requestBody", .object [("content", .object [("application/json",
          .object [("schema", .reference "Patch")])])]),
       ("responses", .object [("200", .object [("content", .object [("application/json",
          .object [("schema", .reference "Pet")])])])])])])])]

theorem optional_exactly_where_missing_markedRoot :
    ∃ (document : Document) (compiled : Compiled),
      Document.ofEntries markedRoot none = .ok document ∧
      (document.compile {}).result.1 = .ok compiled ∧
      (compiled.declarations.map fun declared => (declared.name, declared.expr.properties.map
        fun property => property.expr.hasModifier .optional)) =
        [("Patch", [false]), ("Pet", [false, true])] ∧
      (compiled.endpoints.map fun endpoint => endpoint.parameters.map fun parameter =>
        (parameter.place, parameter.expr.hasModifier .optional)) =
        [[(.body, true), (.path, false), (.query, true)]] ∧
      (∀ expr ∈ compiled.exprs, expr.Every (ExactPart (document.settings {}) document.Written)) ∧
      ∀ endpoint ∈ compiled.endpoints, ∀ parameter ∈ endpoint.parameters,
        parameter.place = .path → parameter.expr.hasModifier .optional = false := by
  have hall : (do
      let document ← (Document.ofEntries markedRoot none).toOption
      let compiled ← (document.compile {}).result.1.toOption
      return (compiled.declarations.map fun declared => (declared.name,
          declared.expr.properties.map fun property => property.expr.hasModifier .optional),
        compiled.endpoints.map fun endpoint => endpoint.parameters.map fun parameter =>
          (parameter.place, parameter.expr.hasModifier .optional))) =
      some ([("Patch", [false]), ("Pet", [false, true])],
        [[(.body, true), (.path, false), (.query, true)]]) := by
    decide +kernel
  obtain ⟨document, hdocument, hrest⟩ := exists_ok_of_bind hall
  obtain ⟨compiled, hcompiled, hmarks⟩ := exists_ok_of_bind hrest
  have hmarks := Prod.mk.inj (Option.some.inj hmarks)
  obtain ⟨hexact, -, -, hpath⟩ := optional_exactly_where_missing document {} compiled hcompiled
  exact ⟨document, compiled, hdocument, hcompiled, hmarks.1, hmarks.2, hexact,
    hpath markedRoot none hdocument⟩

end OpenApiClient
