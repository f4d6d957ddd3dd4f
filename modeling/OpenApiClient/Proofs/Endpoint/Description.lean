import OpenApiClient.Proofs.Conversion.Structural
import OpenApiClient.Proofs.Endpoint.Binding

/-!
# The endpoint of a single operation

When the endpoints are bound, all names have been declared. So the schemas of an operation are
translated on their own, and its endpoint depends on the operation, the named schemas and the
configuration only. `describe` is the endpoint as a function of these, and `bindAll_gives` says that
binding all operations comes to the descriptions of those that are not passed over, one after the
other.
-/

namespace OpenApiClient

open List

/-- The schema of the content of a response, if it has any. -/
def Response.content? (response : Response) : Option Schema :=
  response.mediaType.bind fun _ => response.schema

/-- The places for a schema in an operation of which the given responses were selected: the body, the
parameters, the main response and the errors. -/
def Operation.slots (operation : Operation) (main : Option Response) (failed : List Response) :
    List (Option Schema) :=
  (operation.body.toList.map (·.schema) ++ operation.parameters.map (·.schema)) ++
    main.bind Response.content? :: failed.map Response.content?

namespace Endpoint

open Conversion

/-- The operations that become endpoints. -/
def bound (config : Config) (operations : List Operation) : List Operation :=
  operations.filter fun operation => !(operation.deprecated && config.excludeDeprecated)

/-- The expression for the schema of a parameter or a body. -/
def describeSchema (settings : Settings) (schema : Option Schema) (optional : Bool) :
    Except Failure Expr :=
  match schema with
  | some schema => structural settings schema optional
  | none =>
    .ok ((Expr.unknown none).withModifiers (if optional then [{ kind := .optional }] else []))

/-- The expression for the content of a response. -/
def describeResponse (settings : Settings) (response : Option Response) : Except Failure Expr :=
  match response with
  | none => .ok (.ofPrimitive .void)
  | some response =>
    match response.mediaType, response.schema with
    | none, _ => .ok (.ofPrimitive .void)
    | some _, none => .ok (.unknown none)
    | some _, some schema => structural settings schema false

/-- The endpoint of an operation on its own. -/
def describe (settings : Settings) (operation : Operation) : Except Failure Endpoint := do
  let body ← operation.body.toList.mapM fun body => do
    let expr ← describeSchema settings body.schema !body.required
    return ({ place := .body, name := "body", expr, description := body.description } : Parameter)
  let parameters ← operation.parameters.mapM fun parameter => do
    let expr ← describeSchema settings parameter.schema !parameter.required
    return ({ place := parameter.place, name := parameter.name, expr
              description := parameter.description } : Parameter)
  let (main, failed) ← selectResponses operation.responses
  let response ← describeResponse settings main
  let errors ← failed.mapM fun error => do
    let expr ← describeResponse settings (some error)
    return ({ status := error.status, expr, description := error.description } : ErrorResponse)
  return { method := operation.method
           path := operation.path
           aliasName := operation.name
           description := firstText operation.description operation.summary
           requestFormat := ((operation.body.map fun body =>
             RequestFormat.ofMediaType body.mediaType)).getD .json
           parameters := body ++ parameters
           response, errors
           deprecated := operation.deprecated }

/-! ### Binding comes to the descriptions -/

variable {settings : Settings} {declarations : List (String × Expr)}
  (hall : ∀ name ∈ settings.registry.names, ∃ expr, declarations.lookup name = some expr)

include hall

theorem bindSchema_gives (schema : Option Schema) (location : String) (optional : Bool) :
    Gives declarations (bindSchema settings schema location optional)
      (describeSchema settings schema optional) declarations := by
  cases schema with
  | none => exact gives_pure _
  | some schema => exact convertAt_gives hall _ schema { optional, location } rfl

theorem bindResponse_gives (response : Option Response) (location : String) :
    Gives declarations (bindResponse settings response location)
      (describeResponse settings response) declarations := by
  cases response with
  | none => exact gives_pure _
  | some response =>
    cases hmedia : response.mediaType with
    | none =>
      simp only [bindResponse, describeResponse, hmedia]
      exact gives_pure _
    | some mediaType =>
      cases hschema : response.schema with
      | none =>
        simp only [bindResponse, describeResponse, hmedia, hschema]
        exact gives_pure _
      | some schema =>
        simp only [bindResponse, describeResponse, hmedia, hschema]
        exact convertAt_gives hall _ schema _ rfl

/-- Binding an operation comes to its description. -/
theorem bind_gives (operation : Operation) :
    Gives declarations (Endpoint.bind settings operation) (describe settings operation)
      declarations := by
  unfold Endpoint.bind describe
  refine gives_then (gives_mapM fun body _ => ?_) fun body => ?_
  · exact gives_map _ (bindSchema_gives hall _ _ _)
  refine gives_then (gives_mapM_zipIdx (fun parameter index => ?_) _) fun parameters => ?_
  · exact gives_map _ (bindSchema_gives hall _ _ _)
  cases selectResponses operation.responses with
  | error failure => exact gives_bind_error (gives_throw failure)
  | ok selection =>
    refine gives_bind (gives_pure selection) ?_
    refine gives_then (bindResponse_gives hall _ _) fun response => ?_
    refine gives_then (gives_mapM fun error _ => ?_) fun errors => gives_pure _
    exact gives_map _ (bindResponse_gives hall _ _)

/-- Binding operations comes to their descriptions, those passed over apart. -/
theorem bindAll_gives (operations : List Operation) :
    Gives declarations (bindAll settings operations)
      ((bound settings.config operations).mapM (describe settings)) declarations := by
  induction operations with
  | nil => exact gives_pure []
  | cons operation rest ih =>
    unfold bindAll bound
    rw [filter_cons]
    cases hskipped : operation.deprecated && settings.config.excludeDeprecated with
    | true => exact gives_bind (gives_log _ _) ih
    | false =>
      simp only [Bool.not_false, if_true, Bool.false_eq_true, if_false, mapM_cons]
      refine gives_then (bind_gives hall operation) fun endpoint => ?_
      exact gives_then ih fun endpoints => gives_pure _

omit hall

/-! ### Results in records -/

variable {failure : Failure}

section Wrap

variable {ι ρ : Type} {items : List ι} {act : ι → Except Failure Expr} {wrap : ι → Expr → ρ}

/-- Results that are each put into a record of their own. -/
theorem forall₂_wrapped_of_mapM {records : List ρ}
    (h : (items.mapM fun item => do
      let expr ← act item
      return wrap item expr) = .ok records) :
    List.Forall₂ (fun item record => ∃ expr, act item = .ok expr ∧ wrap item expr = record) items
      records :=
  (mapM_eq_ok_iff.mp h).imp fun _ _ hrecord =>
    let ⟨expr, hexpr, hwrap⟩ := bind_eq_ok.mp hrecord
    ⟨expr, hexpr, Except.ok.inj hwrap⟩

/-- Results that are each put into a record of their own can be taken out again. -/
theorem forall₂_of_mapM_wrap {records : List ρ} (view : ρ → Expr)
    (hview : ∀ item expr, view (wrap item expr) = expr)
    (h : (items.mapM fun item => do
      let expr ← act item
      return wrap item expr) = .ok records) :
    List.Forall₂ (fun item expr => act item = .ok expr) items (records.map view) := by
  rw [forall₂_map_right_iff]
  refine (forall₂_wrapped_of_mapM h).imp ?_
  rintro item _ ⟨expr, hexpr, rfl⟩
  rw [hview]
  exact hexpr

theorem exists_of_mapM_wrap_error
    (h : (items.mapM fun item => do
      let expr ← act item
      return wrap item expr) = .error failure) : ∃ item, act item = .error failure := by
  obtain ⟨item, -, hitem⟩ := exists_of_mapM_error h
  rcases bind_eq_error.mp hitem with hact | ⟨expr, -, hwrap⟩
  · exact ⟨item, hact⟩
  · cases hwrap

end Wrap

/-! ### What a description depends on -/

/-- Descriptions depend on the named schemas through the translations only. -/
theorem describe_congr {other : Settings} (h : structural settings = structural other) :
    describe settings = describe other := by
  funext operation
  simp only [describe, describeSchema, describeResponse, h]

variable {endpoint : Endpoint} {expr : Expr} {operation : Operation} {optional : Bool}
  {response : Option Response} {schema : Option Schema}

section Larger

variable {larger : Settings}
  (h : ∀ schema optional expr, structural settings schema optional = .ok expr →
    structural larger schema optional = .ok expr)

include h

theorem describeSchema_mono (hexpr : describeSchema settings schema optional = .ok expr) :
    describeSchema larger schema optional = .ok expr := by
  cases schema with
  | none => exact hexpr
  | some schema => exact h schema optional expr hexpr

theorem describeResponse_mono (hexpr : describeResponse settings response = .ok expr) :
    describeResponse larger response = .ok expr := by
  unfold describeResponse at hexpr ⊢
  split at hexpr
  · exact hexpr
  · split at hexpr
    · exact hexpr
    · exact hexpr
    · exact h _ _ _ hexpr

/-- Where all translations of one registry are translations of another, so are the descriptions. -/
theorem describe_mono (hdescribe : describe settings operation = .ok endpoint) :
    describe larger operation = .ok endpoint := by
  unfold describe at hdescribe ⊢
  obtain ⟨body, hbody, hdescribe⟩ := bind_eq_ok.mp hdescribe
  refine bind_eq_ok.mpr ⟨body, mapM_eq_ok_mono (fun item parameter hparameter => ?_) hbody, ?_⟩
  · obtain ⟨expr, hexpr, hwrap⟩ := bind_eq_ok.mp hparameter
    exact bind_eq_ok.mpr ⟨expr, describeSchema_mono h hexpr, hwrap⟩
  obtain ⟨parameters, hparameters, hdescribe⟩ := bind_eq_ok.mp hdescribe
  refine bind_eq_ok.mpr ⟨parameters, mapM_eq_ok_mono (fun item parameter hparameter => ?_)
    hparameters, ?_⟩
  · obtain ⟨expr, hexpr, hwrap⟩ := bind_eq_ok.mp hparameter
    exact bind_eq_ok.mpr ⟨expr, describeSchema_mono h hexpr, hwrap⟩
  obtain ⟨selected, hselected, hdescribe⟩ := bind_eq_ok.mp hdescribe
  refine bind_eq_ok.mpr ⟨selected, hselected, ?_⟩
  obtain ⟨response, hresponse, hdescribe⟩ := bind_eq_ok.mp hdescribe
  refine bind_eq_ok.mpr ⟨response, describeResponse_mono h hresponse, ?_⟩
  obtain ⟨errors, herrors, hdescribe⟩ := bind_eq_ok.mp hdescribe
  refine bind_eq_ok.mpr ⟨errors, mapM_eq_ok_mono (fun item error herror => ?_) herrors, hdescribe⟩
  obtain ⟨expr, hexpr, hwrap⟩ := bind_eq_ok.mp herror
  exact bind_eq_ok.mpr ⟨expr, describeResponse_mono h hexpr, hwrap⟩

end Larger

theorem describeSchema_error (h : describeSchema settings schema optional = .error failure) :
    ∃ node, structural settings node optional = .error failure := by
  cases schema with
  | none => cases h
  | some node => exact ⟨node, h⟩

theorem describeResponse_error (h : describeResponse settings response = .error failure) :
    ∃ node, structural settings node false = .error failure := by
  unfold describeResponse at h
  split at h
  · cases h
  · split at h
    · cases h
    · cases h
    · exact ⟨_, h⟩

/-- An operation without a description has a schema that cannot be translated, or responses that
cannot be told apart. -/
theorem describe_error (h : describe settings operation = .error failure) :
    (∃ node optional, structural settings node optional = .error failure) ∨
      selectResponses operation.responses = .error failure := by
  unfold describe at h
  rcases bind_eq_error.mp h with h | ⟨body, -, h⟩
  · obtain ⟨body, hbody⟩ := exists_of_mapM_wrap_error h
    obtain ⟨node, hnode⟩ := describeSchema_error hbody
    exact .inl ⟨node, _, hnode⟩
  rcases bind_eq_error.mp h with h | ⟨parameters, -, h⟩
  · obtain ⟨parameter, hparameter⟩ := exists_of_mapM_wrap_error h
    obtain ⟨node, hnode⟩ := describeSchema_error hparameter
    exact .inl ⟨node, _, hnode⟩
  rcases bind_eq_error.mp h with h | ⟨⟨main, failed⟩, -, h⟩
  · exact .inr h
  rcases bind_eq_error.mp h with h | ⟨response, -, h⟩
  · obtain ⟨node, hnode⟩ := describeResponse_error h
    exact .inl ⟨node, _, hnode⟩
  rcases bind_eq_error.mp h with h | ⟨errors, -, h⟩
  · obtain ⟨error, herror⟩ := exists_of_mapM_wrap_error h
    obtain ⟨node, hnode⟩ := describeResponse_error herror
    exact .inl ⟨node, _, hnode⟩
  · cases h

theorem describe_names (h : describe settings operation = .ok endpoint) :
    endpoint.method = operation.method ∧ endpoint.path = operation.path := by
  unfold describe at h
  obtain ⟨body, -, h⟩ := bind_eq_ok.mp h
  obtain ⟨parameters, -, h⟩ := bind_eq_ok.mp h
  obtain ⟨⟨main, failed⟩, -, h⟩ := bind_eq_ok.mp h
  obtain ⟨response, -, h⟩ := bind_eq_ok.mp h
  obtain ⟨errors, -, h⟩ := bind_eq_ok.mp h
  cases h
  exact ⟨rfl, rfl⟩

/-! ### What a description is made of -/

/-- An expression translates a schema on its own, or has no references if there is no schema. -/
def Translates (settings : Settings) (schema : Option Schema) (expr : Expr) : Prop :=
  match schema with
  | some schema => ∃ optional, structural settings schema optional = .ok expr
  | none => ∀ mode, expr.references mode = []

/-- What stands in a place for a schema is a schema of the operation. -/
theorem mem_schemas_of_slot {main : Option Response} {failed : List Response}
    (h : selectResponses operation.responses = .ok (main, failed)) {schema : Schema}
    (hslot : some schema ∈ operation.slots main failed) : schema ∈ operation.schemas := by
  obtain ⟨hmain, hfailed⟩ := mem_of_selectResponses h
  have hcontent : ∀ response ∈ operation.responses, response.content? = some schema →
      schema ∈ operation.schemas := by
    intro response hresponse hcontent
    obtain ⟨mediaType, -, hschema⟩ := Option.bind_eq_some_iff.mp hcontent
    exact Operation.mem_schemas_of_response hresponse hschema
  rcases mem_append.mp hslot with hslot | hslot
  · rcases mem_append.mp hslot with hslot | hslot
    · obtain ⟨body, hbody, hschema⟩ := mem_map.mp hslot
      exact Operation.mem_schemas_of_body (Option.mem_toList.mp hbody) hschema
    · obtain ⟨parameter, hparameter, hschema⟩ := mem_map.mp hslot
      exact Operation.mem_schemas_of_parameter hparameter hschema
  · rcases mem_cons.mp hslot with hslot | hslot
    · obtain ⟨response, hresponse, hschema⟩ := Option.bind_eq_some_iff.mp hslot.symm
      exact hcontent response (hmain response hresponse) hschema
    · obtain ⟨response, hresponse, hschema⟩ := mem_map.mp hslot
      exact hcontent response (hfailed response hresponse) hschema

theorem describeSchema_translates (h : describeSchema settings schema optional = .ok expr) :
    Translates settings schema expr := by
  cases schema with
  | some schema => exact ⟨optional, h⟩
  | none =>
    cases h
    intro mode
    simp

theorem describeResponse_translates (h : describeResponse settings response = .ok expr) :
    Translates settings (response.bind Response.content?) expr := by
  cases response with
  | none =>
    cases h
    exact fun _ => Expr.references_ofPrimitive .void
  | some response =>
    unfold describeResponse at h
    cases hmedia : response.mediaType with
    | none =>
      simp only [hmedia, Except.ok.injEq] at h
      subst h
      simp [Translates, Response.content?, hmedia]
    | some mediaType =>
      cases hschema : response.schema with
      | none =>
        simp only [hmedia, hschema, Except.ok.injEq] at h
        subst h
        simp [Translates, Response.content?, hschema]
      | some schema =>
        simp only [hmedia, hschema] at h
        rw [Option.bind_some, Response.content?, hmedia, hschema]
        exact ⟨false, h⟩

/-- The expressions of an endpoint translate the schemas of its operation one by one. -/
theorem describe_slots (h : describe settings operation = .ok endpoint) :
    ∃ main failed, selectResponses operation.responses = .ok (main, failed) ∧
      List.Forall₂ (Translates settings) (operation.slots main failed) endpoint.exprs := by
  unfold describe at h
  obtain ⟨body, hbody, h⟩ := bind_eq_ok.mp h
  obtain ⟨parameters, hparameters, h⟩ := bind_eq_ok.mp h
  obtain ⟨⟨main, failed⟩, hselected, h⟩ := bind_eq_ok.mp h
  obtain ⟨response, hresponse, h⟩ := bind_eq_ok.mp h
  obtain ⟨errors, herrors, h⟩ := bind_eq_ok.mp h
  cases h
  refine ⟨main, failed, hselected, ?_⟩
  have hbody := forall₂_of_mapM_wrap (·.expr) (fun _ _ => rfl) hbody
  have hparameters := forall₂_of_mapM_wrap (·.expr) (fun _ _ => rfl) hparameters
  have herrors := forall₂_of_mapM_wrap (·.expr) (fun _ _ => rfl) herrors
  rw [Operation.slots, exprs, map_append]
  refine rel_append (rel_append ?_ ?_) (.cons (describeResponse_translates hresponse) ?_)
  · rw [forall₂_map_left_iff]
    exact hbody.imp fun _ _ => describeSchema_translates
  · rw [forall₂_map_left_iff]
    exact hparameters.imp fun _ _ => describeSchema_translates
  · rw [forall₂_map_left_iff]
    exact herrors.imp fun _ _ => describeResponse_translates

/-- No expression of a described endpoint has a lazy reference. -/
theorem describe_lazy (h : describe settings operation = .ok endpoint) :
    ∀ expr ∈ endpoint.exprs, ∀ name, name ∉ expr.references .lazy := by
  intro expr hexpr name hname
  obtain ⟨main, failed, -, hslots⟩ := describe_slots h
  obtain ⟨schema, -, htranslates⟩ := exists_of_forall₂ hslots hexpr
  cases schema with
  | none =>
    rw [htranslates .lazy] at hname
    cases hname
  | some schema =>
    obtain ⟨optional, hstructural⟩ := htranslates
    exact structuralAt_lazy hstructural hname

/-! ### References of an operation -/

/-- If there is a schema and it is a reference, the expression is a direct reference to the name it
stands for, with no other modifiers than that it is optional or nullable. -/
def BindsReference (registry : Registry) (schema : Option Schema) (expr : Expr) : Prop :=
  ∀ node ref, schema = some node → node.ref = some ref →
    ∃ name, registry.resolve ref = .ok name ∧
      expr = { Expr.namedRef name with modifiers := expr.modifiers } ∧
      ∀ modifier ∈ expr.modifiers, modifier.kind = .optional ∨ modifier.kind = .nullable

theorem kind_of_mem_trailingModifiers {withDefaults : Bool} {schema : Schema}
    (hdefault : schema.default = none) :
    ∀ modifier ∈ trailingModifiers withDefaults optional schema expr,
      modifier.kind = .optional ∨ modifier.kind = .nullable := by
  intro modifier hmodifier
  simp only [trailingModifiers, hdefault, append_nil, mem_append] at hmodifier
  rcases hmodifier with hmodifier | hmodifier
  · split at hmodifier
    · exact .inl (by rw [mem_singleton.mp hmodifier])
    · cases hmodifier
  · split at hmodifier
    · exact .inr (by rw [mem_singleton.mp hmodifier])
    · cases hmodifier

theorem Translates.bindsReference (h : Translates settings schema expr)
    (hdefault : ∀ node ∈ schema, node.ref.isSome = true → node.default = none) :
    BindsReference settings.registry schema expr := by
  rintro node ref rfl href
  obtain ⟨optional, hstructural⟩ := h
  obtain ⟨depth, hdepth⟩ := depthBound_eq_succ settings.registry node.size
  rw [structural, hdepth] at hstructural
  obtain ⟨name, hresolve, rfl⟩ := (structuralAt_ref href depth).mp hstructural
  refine ⟨name, hresolve, ?_, fun modifier hmodifier => ?_⟩
  · unfold finished Expr.withModifiers
    split <;> rfl
  · rcases Expr.mem_withModifiers.mp hmodifier with hnone | htrailing
    · cases hnone
    · exact kind_of_mem_trailingModifiers (hdefault node rfl (by simp [href])) modifier htrailing

/-- The references of an operation are bound as references. -/
theorem describe_bindsReference
    (hdefault : ∀ node ∈ operation.schemas, node.ref.isSome = true → node.default = none)
    (h : describe settings operation = .ok endpoint) :
    ∃ main failed, selectResponses operation.responses = .ok (main, failed) ∧
      List.Forall₂ (BindsReference settings.registry) (operation.slots main failed)
        endpoint.exprs := by
  obtain ⟨main, failed, hselected, hslots⟩ := describe_slots h
  have hschemas : ∀ slot ∈ operation.slots main failed, ∀ node ∈ slot, node ∈ operation.schemas := by
    rintro slot hslot node rfl
    exact mem_schemas_of_slot hselected hslot
  refine ⟨main, failed, hselected, ?_⟩
  refine ((forall₂_and_left _ _).mpr ⟨hschemas, hslots⟩).imp fun slot expr hboth => ?_
  exact hboth.2.bindsReference fun node hnode => hdefault node (hboth.1 node hnode)

end Endpoint

end OpenApiClient
