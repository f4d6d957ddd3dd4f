import OpenApiClient.Proofs.Client.Compile
import OpenApiClient.Proofs.Conversion.Defaults
import OpenApiClient.Proofs.Conversion.Strictness
import OpenApiClient.Proofs.Endpoint.Description

/-!
# What the options of the conversion change

Two options concern the expressions that schemas become: whether defaults are kept, and whether
objects are strict. A document that is compiled with and without one of them fails alike, or comes
to declarations, endpoints and warnings that differ in the modifiers of this option only. That two
compilations go side by side is `compiled_lockstep`.

* Without defaults, the outcome is the one with defaults after these are taken out
  (`Compiled.withoutDefaults`).
* With strict objects, the objects that say nothing about other properties forbid them instead of
  letting them pass (`Compiled.Tightened`).
-/

namespace OpenApiClient

/-! ### Two compilations of a document side by side -/

open Conversion List

namespace Endpoint

/-- The endpoint with all expressions changed. -/
def mapExprs (change : Expr → Expr) (endpoint : Endpoint) : Endpoint :=
  { endpoint with
    parameters := endpoint.parameters.map fun parameter =>
      { parameter with expr := change parameter.expr }
    response := change endpoint.response
    errors := endpoint.errors.map fun error => { error with expr := change error.expr } }

/-- All that an endpoint says besides its expressions. -/
def outline (endpoint : Endpoint) : Endpoint := endpoint.mapExprs fun _ => .unknown none

/-- How the expressions in a place for a schema are related. Where there is no schema, both are the
same, without parts and without modifiers but that for a value that may be missing. -/
def slotted (good : List String → Schema → Expr → Expr → Prop) :
    Option Schema → Expr → Expr → Prop
  | some schema, first, second => good [] schema first second
  | none, first, second =>
    first = second ∧ first.children = [] ∧ ∀ modifier ∈ first.modifiers, modifier.kind = .optional

/-- Two endpoints of an operation that differ in their expressions only, which go together place by
place. -/
structure Twins (good : List String → Schema → Expr → Expr → Prop) (operation : Operation)
    (first second : Endpoint) : Prop where
  outline : first.outline = second.outline
  exprs : ∃ main failed, selectResponses operation.responses = .ok (main, failed) ∧
    Twinned (slotted good) (operation.slots main failed) first.exprs second.exprs

variable {first second : Settings} {good : List String → Schema → Expr → Expr → Prop}
  {related : String → Expr → Expr → Prop}

theorem slotted_unknown (optional : Bool) :
    slotted good none
      ((Expr.unknown none).withModifiers (if optional then [{ kind := .optional }] else []))
      ((Expr.unknown none).withModifiers (if optional then [{ kind := .optional }] else [])) := by
  refine ⟨rfl, by rw [Expr.children_withModifiers]; rfl, ?_⟩
  cases optional <;> decide

theorem slotted_void :
    slotted good none (.ofPrimitive .void) (.ofPrimitive .void) :=
  ⟨rfl, rfl, by simp [Expr.ofPrimitive]⟩

theorem bindSchema_lockstep (sides : SideBySide first second good related) (schema : Option Schema)
    (location : String) (optional : Bool) :
    Lockstep related (bindSchema first schema location optional)
      (bindSchema second schema location optional) (slotted good schema) := by
  cases schema with
  | none => exact lockstep_pure (slotted_unknown optional)
  | some schema => exact sides.convert_lockstep schema { optional, location }

theorem bindResponse_lockstep (sides : SideBySide first second good related)
    (response : Option Response) (location : String) :
    Lockstep related (bindResponse first response location) (bindResponse second response location)
      (slotted good (response.bind Response.content?)) := by
  cases response with
  | none => exact lockstep_pure slotted_void
  | some response =>
    obtain ⟨status, description, mediaType, schema⟩ := response
    cases mediaType with
    | none => exact lockstep_pure slotted_void
    | some mediaType =>
      cases schema with
      | none => exact lockstep_pure (slotted_unknown false)
      | some schema => exact sides.convert_lockstep schema _

/-- Expressions that are each put into a record of their own: the records are the same but for
them. -/
theorem lockstep_mapM_wrap {ι ρ : Type} {items : List ι} {act other : ι → Convert Expr}
    {wrap : ι → Expr → ρ} (view : ρ → Expr) (strip : ρ → ρ) {slot : ι → Option Schema}
    (hview : ∀ item expr, view (wrap item expr) = expr)
    (hstrip : ∀ item expr twin, strip (wrap item expr) = strip (wrap item twin))
    (h : ∀ item ∈ items, Lockstep related (act item) (other item) (slotted good (slot item))) :
    Lockstep related
      (items.mapM fun item => do
        let expr ← act item
        return wrap item expr)
      (items.mapM fun item => do
        let expr ← other item
        return wrap item expr)
      (fun firsts seconds => firsts.map strip = seconds.map strip ∧
        Twinned (slotted good) (items.map slot) (firsts.map view) (seconds.map view)) := by
  have hrecords : ∀ item ∈ items, Lockstep related
      (do let expr ← act item; return wrap item expr)
      (do let expr ← other item; return wrap item expr)
      (fun one two => strip one = strip two ∧ slotted good (slot item) (view one) (view two)) := by
    intro item hitem
    refine lockstep_bind (h item hitem) fun expr twin hexpr => ?_
    exact lockstep_pure ⟨hstrip item expr twin, by rwa [hview, hview]⟩
  intro one two hpaired
  refine (lockstep_mapM hrecords one two hpaired).imp fun reached last hreached => ?_
  obtain ⟨⟨twins, hitems, hfirst, hsecond, htwins⟩, hlast⟩ := hreached
  refine ⟨⟨?_, ?_⟩, hlast⟩
  · rw [← hfirst, ← hsecond, map_map, map_map]
    exact map_congr_left fun twin htwin => (htwins twin htwin).1
  · refine ⟨twins.map fun twin => ⟨slot twin.item, view twin.first, view twin.second⟩, ?_, ?_, ?_, ?_⟩
    · simp [← hitems]
    · simp [← hfirst]
    · simp [← hsecond]
    · intro twin htwin
      obtain ⟨inner, hinner, rfl⟩ := mem_map.mp htwin
      exact (htwins inner hinner).2

/-- Two endpoints of an operation are bound side by side. -/
theorem bind_lockstep (sides : SideBySide first second good related) (operation : Operation) :
    Lockstep related (Endpoint.bind first operation) (Endpoint.bind second operation)
      (Twins good operation) := by
  unfold Endpoint.bind
  refine lockstep_bind (lockstep_mapM_wrap (·.expr)
    (fun parameter : Parameter => { parameter with expr := .unknown none })
    (fun _ _ => rfl) (fun _ _ _ => rfl) fun body _ => bindSchema_lockstep sides body.schema _ _)
    fun bodies otherBodies hbodies => ?_
  refine lockstep_bind (lockstep_mapM_wrap (·.expr)
    (fun parameter : Parameter => { parameter with expr := .unknown none })
    (fun _ _ => rfl) (fun _ _ _ => rfl)
    fun parameter _ => bindSchema_lockstep sides parameter.1.schema _ _)
    fun parameters otherParameters hparameters => ?_
  -- the choice of responses does not depend on the settings
  cases hselected : selectResponses operation.responses with
  | error failure =>
    have hstop : Lockstep related (throw failure : Convert (Option Response × List Response))
        (throw failure : Convert (Option Response × List Response)) (fun _ _ => False) :=
      lockstep_throw failure
    exact lockstep_bind hstop fun _ _ hfalse => hfalse.elim
  | ok selection =>
    obtain ⟨main, failed⟩ := selection
    simp only [pure_bind]
    refine lockstep_bind (bindResponse_lockstep sides main _) fun response other hresponse => ?_
    refine lockstep_bind (lockstep_mapM_wrap (·.expr)
      (fun error : ErrorResponse => { error with expr := .unknown none })
      (fun _ _ => rfl) (fun _ _ _ => rfl) fun error _ => bindResponse_lockstep sides (some error) _)
      fun errors otherErrors herrors => ?_
    refine lockstep_pure ⟨?_, main, failed, hselected, ?_⟩
    · simp only [outline, mapExprs, map_append, hbodies.1, hparameters.1, herrors.1]
    · have hslots : operation.parameters.zipIdx.map (fun parameter => parameter.1.schema) =
          operation.parameters.map (·.schema) := by
        rw [← zipIdx_map_fst 0 operation.parameters, map_map, zipIdx_map_fst]
        rfl
      simp only [exprs, Operation.slots, map_append]
      exact (hbodies.2.append (hslots ▸ hparameters.2)).append (.cons hresponse herrors.2)

/-- All endpoints are bound side by side. -/
theorem bindAll_lockstep (sides : SideBySide first second good related)
    (hexclude : first.config.excludeDeprecated = second.config.excludeDeprecated)
    (operations : List Operation) :
    Lockstep related (bindAll first operations) (bindAll second operations)
      (Twinned (Twins good) (bound first.config operations)) := by
  induction operations with
  | nil => exact lockstep_pure .nil
  | cons operation rest ih =>
    unfold bindAll bound
    rw [filter_cons, ← hexclude]
    cases operation.deprecated && first.config.excludeDeprecated with
    | true => exact lockstep_bind (lockstep_log _ _) fun _ _ _ => ih
    | false =>
      refine lockstep_bind (bind_lockstep sides operation) fun endpoint twin hendpoint => ?_
      refine lockstep_bind ih fun endpoints twins hendpoints => ?_
      exact lockstep_pure (.cons hendpoint hendpoints)

end Endpoint

/-! ### Declarations -/

variable {related : String → Expr → Expr → Prop}

/-- Entries of the same name, whose expressions have the same references. -/
def SameReferences (one other : String × Expr) : Prop :=
  one.1 = other.1 ∧ ∀ mode, one.2.references mode = other.2.references mode

/-- The declarations of some names are missing in both states, or have the same references. -/
theorem Conversion.Paired.mapM_lookup
    (hreferences : ∀ name one other, related name one other →
      ∀ mode, one.references mode = other.references mode)
    {first second : Progress} (h : Paired related first second) (names : List String) :
    (names.mapM (fun name => do return (name, ← first.declarations.lookup name)) = none ∧
      names.mapM (fun name => do return (name, ← second.declarations.lookup name)) = none) ∨
    ∃ ones others,
      names.mapM (fun name => do return (name, ← first.declarations.lookup name)) = some ones ∧
      names.mapM (fun name => do return (name, ← second.declarations.lookup name)) = some others ∧
      List.Forall₂ SameReferences ones others := by
  induction names with
  | nil => exact .inr ⟨[], [], rfl, rfl, .nil⟩
  | cons name rest ih =>
    rw [mapM_cons, mapM_cons]
    rcases h.lookup name with ⟨hone, hother⟩ | ⟨one, other, hone, hother, hrelated⟩
    · rw [hone, hother]
      exact .inl ⟨rfl, rfl⟩
    rw [hone, hother]
    rcases ih with ⟨hones, hothers⟩ | ⟨ones, others, hones, hothers, hlist⟩
    · rw [hones, hothers]
      exact .inl ⟨rfl, rfl⟩
    · rw [hones, hothers]
      exact .inr ⟨_, _, rfl, rfl, .cons ⟨rfl, hreferences name one other hrelated⟩ hlist⟩

theorem Declaration.Graph.map_targets_eq (names : List String) (mode : ReferenceMode)
    {ones others : List (String × Expr)} (h : List.Forall₂ SameReferences ones others) :
    ones.map (fun entry => (entry.1, targets names mode entry.2)) =
      others.map (fun entry => (entry.1, targets names mode entry.2)) := by
  rw [← forall₂_eq_eq_eq, forall₂_map_left_iff, forall₂_map_right_iff]
  exact h.imp fun one other hentry => by rw [hentry.1, targets, hentry.2, targets]

/-- Declarations with the same references are put into the same order. -/
theorem Declaration.ordered_eq_of_paired
    (hreferences : ∀ name one other, related name one other →
      ∀ mode, one.references mode = other.references mode)
    {first second : Progress} (h : Paired related first second) (names : List String) :
    ordered names first.declarations = ordered names second.declarations := by
  have hgraph : Graph.ofDeclarations? names first.declarations =
      Graph.ofDeclarations? names second.declarations := by
    unfold Graph.ofDeclarations?
    rcases h.mapM_lookup hreferences names with ⟨hones, hothers⟩ | ⟨_, _, hones, hothers, hlist⟩
    · rw [hones, hothers]
    · rw [hones, hothers]
      have hnamed := Graph.map_targets_eq names .named hlist
      have hlazy := Graph.map_targets_eq names .lazy hlist
      simpa using ⟨hnamed, hlazy⟩
  rw [ordered, ordered, hgraph]

/-- Two lists of declarations of the same names, whose expressions are related. -/
def Declaration.Twins (related : String → Expr → Expr → Prop) (first second : List Declared) : Prop :=
  List.Forall₂ (fun one other => one.name = other.name ∧ one.identifier = other.identifier ∧
    related one.name one.expr other.expr) first second

theorem Declaration.collect_twins {first second : Progress} (h : Paired related first second)
    (order : List String) :
    Twins related (collect first.declarations order) (collect second.declarations order) := by
  induction order with
  | nil => exact .nil
  | cons name rest ih =>
    unfold collect at ih ⊢
    rw [filterMap_cons, filterMap_cons]
    rcases h.lookup name with ⟨hone, hother⟩ | ⟨one, other, hone, hother, hrelated⟩
    · rw [hone, hother]
      exact ih
    · rw [hone, hother]
      exact .cons ⟨rfl, rfl, hrelated⟩ ih

/-! ### Documents -/

/-- What a document is compiled to twice: declarations of the same names in the same order, endpoints
that differ in their expressions only, and the same warnings. -/
structure Compiled.Twins (good : List String → Schema → Expr → Expr → Prop)
    (related : String → Expr → Expr → Prop) (operations : List Operation)
    (first second : Compiled) : Prop where
  declarations : Declaration.Twins related first.declarations second.declarations
  endpoints : Twinned (Endpoint.Twins good) operations first.endpoints second.endpoints
  warnings : first.warnings = second.warnings

theorem Conversion.declareAll_lockstep {first second : Settings}
    {good : List String → Schema → Expr → Expr → Prop}
    (sides : SideBySide first second good related) :
    Lockstep related (declareAll first) (declareAll second) (fun _ _ => True) := by
  unfold declareAll
  rw [← sides.registry]
  refine lockstep_forM fun name _ => ?_
  exact lockstep_bind (sides.declare_lockstep name) fun _ _ _ => lockstep_pure trivial

/-- A document is compiled side by side with two configurations. -/
theorem compiled_lockstep {document : Document} {first second : Config}
    {good : List String → Schema → Expr → Expr → Prop}
    (sides : SideBySide (document.settings first) (document.settings second) good related)
    (hexclude : first.excludeDeprecated = second.excludeDeprecated)
    (hreferences : ∀ name one other, related name one other →
      ∀ mode, one.references mode = other.references mode) :
    Alike (Compiled.Twins good related (Endpoint.bound first document.operations))
      (document.compiled first) (document.compiled second) := by
  unfold Document.compiled
  cases hregistered : Registry.ofSchemas document.schemas with
  | error error => exact .error _
  | ok registry =>
    obtain rfl : document.registry = registry := by
      rw [Document.registry, ← (Registry.ofSchemas_ok hregistered).1]
    have hstart : Paired related { warnings := document.warnings }
        { warnings := document.warnings } := ⟨.nil, rfl⟩
    refine (declareAll_lockstep sides _ _ hstart).bind ?_
    rintro ⟨_, one⟩ ⟨_, two⟩ ⟨-, hpaired⟩
    dsimp only
    -- the order depends on references only, which are the same in both runs
    rw [Declaration.ordered_eq_of_paired hreferences hpaired]
    refine (Alike.refl _).bind ?_
    rintro order _ ⟨rfl, -⟩
    have hreset : Paired related { one with records := [] } { two with records := [] } :=
      ⟨hpaired.declarations, hpaired.warnings⟩
    refine (Endpoint.bindAll_lockstep sides hexclude document.operations _ _ hreset).bind ?_
    rintro ⟨endpoints, reached⟩ ⟨twins, last⟩ ⟨hendpoints, hlast⟩
    exact .ok ⟨Declaration.collect_twins hpaired order, hendpoints, hlast.warnings⟩

/-! ### Endpoints without defaults -/

/-- Records are the same if they are the same in two views that show all of them. -/
theorem eq_of_map_views {α β γ : Type} {view : α → β} {other : α → γ}
    (hviews : ∀ one two, view one = view two → other one = other two → one = two)
    {first second : List α} (h : first.map view = second.map view)
    (hother : first.map other = second.map other) : first = second := by
  induction first generalizing second with
  | nil => exact (map_eq_nil_iff.mp h.symm).symm
  | cons one rest ih =>
    obtain ⟨two, others, rfl, hone, hrest⟩ := map_eq_cons_iff.mp h.symm
    rw [map_cons, map_cons, List.cons.injEq] at hother
    rw [hviews one two hone.symm hother.1, ih hrest.symm hother.2]

namespace Endpoint

/-- An endpoint is its expressions and what it says besides. -/
theorem eq_of_outline {first second : Endpoint} (houtline : first.outline = second.outline)
    (hexprs : first.exprs = second.exprs) : first = second := by
  obtain ⟨_, _, _, _, _, parameters, response, errors, _⟩ := first
  obtain ⟨_, _, _, _, _, otherParameters, otherResponse, otherErrors, _⟩ := second
  simp only [outline, mapExprs, mk.injEq] at houtline
  obtain ⟨rfl, rfl, rfl, rfl, rfl, hparameters, -, herrors, rfl⟩ := houtline
  have hlength : parameters.length = otherParameters.length := by
    simpa using congrArg List.length hparameters
  obtain ⟨hfirst, hrest⟩ := append_inj hexprs (by simpa using hlength)
  rw [List.cons.injEq] at hrest
  obtain rfl : parameters = otherParameters := by
    refine eq_of_map_views (fun one two hview hexpr => ?_) hparameters hfirst
    cases one
    cases two
    simp_all
  obtain rfl : errors = otherErrors := by
    refine eq_of_map_views (fun one two hview hexpr => ?_) herrors hrest.2
    cases one
    cases two
    simp_all
  obtain rfl : response = otherResponse := hrest.1
  rfl

theorem outline_mapExprs (change : Expr → Expr) (endpoint : Endpoint) :
    (endpoint.mapExprs change).outline = endpoint.outline := by
  simp [outline, mapExprs, Function.comp_def]

theorem exprs_mapExprs (change : Expr → Expr) (endpoint : Endpoint) :
    (endpoint.mapExprs change).exprs = endpoint.exprs.map change := by
  simp [exprs, mapExprs, Function.comp_def]

/-- Two endpoints of an operation whose expressions differ by a change. -/
theorem Twins.eq_mapExprs {good : List String → Schema → Expr → Expr → Prop} {operation : Operation}
    {first second : Endpoint} (h : Twins good operation first second) {change : Expr → Expr}
    (hchange : ∀ slot one two, slotted good slot one two → two = change one) :
    second = first.mapExprs change := by
  obtain ⟨main, failed, -, hexprs⟩ := h.exprs
  apply eq_of_outline
  · rw [outline_mapExprs, h.outline]
  · rw [exprs_mapExprs]
    exact hexprs.map_eq hchange

end Endpoint

/-- What a document was compiled to without the defaults in it. -/
def Compiled.withoutDefaults (compiled : Compiled) : Compiled where
  declarations := compiled.declarations.map fun declared =>
    { declared with expr := declared.expr.withoutDefaults }
  endpoints := compiled.endpoints.map (Endpoint.mapExprs Expr.withoutDefaults)
  warnings := compiled.warnings

theorem slotted_withoutDefaults {slot : Option Schema} {first second : Expr}
    (h : Endpoint.slotted (fun _ _ => WithoutDefaults) slot first second) :
    second = first.withoutDefaults := by
  cases slot with
  | some schema => exact h.1
  | none =>
    obtain ⟨rfl, hchildren, hmodifiers⟩ := h
    refine (Expr.withoutDefaults_of_leaf hchildren fun modifier hmodifier => ?_).symm
    simp [hmodifiers modifier hmodifier]

/-- Two outcomes whose expressions differ in defaults differ in defaults. -/
theorem Compiled.Twins.eq_withoutDefaults {operations : List Operation} {first second : Compiled}
    (h : Compiled.Twins (fun _ _ => WithoutDefaults)
      (fun _ expr other => other = expr.withoutDefaults) operations first second) :
    second = first.withoutDefaults := by
  obtain ⟨hdeclarations, hendpoints, hwarnings⟩ := h
  have hexprs : second.declarations = first.declarations.map fun declared =>
      { declared with expr := declared.expr.withoutDefaults } := by
    symm
    rw [← forall₂_eq_eq_eq, forall₂_map_left_iff]
    refine hdeclarations.imp fun one other ⟨hname, hidentifier, hexpr⟩ => ?_
    cases other
    simp_all
  have hbound : second.endpoints = first.endpoints.map (Endpoint.mapExprs Expr.withoutDefaults) :=
    hendpoints.map_eq fun _ _ _ htwins => htwins.eq_mapExprs fun _ _ _ => slotted_withoutDefaults
  cases second
  simp_all [Compiled.withoutDefaults]

theorem compiled_withoutDefaults (document : Document) (config : Config) :
    document.compiled { config with withDefaultValues := false } =
      (document.compiled { config with withDefaultValues := true }).map
        Compiled.withoutDefaults := by
  have hsides : SideBySide (document.settings { config with withDefaultValues := true })
      (document.settings { config with withDefaultValues := false }) _ _ :=
    sideBySide_defaults rfl rfl rfl rfl
  refine Alike.map_eq ((compiled_lockstep hsides rfl ?_).imp fun _ _ h => h.eq_withoutDefaults)
  rintro name one _ rfl mode
  exact (one.references_withoutDefaults mode).symm

/-! ### Strict objects -/

/-- What a document is compiled to, and what it is compiled to with strict objects. The declarations
are of the same names in the same order, the endpoints are the same but for their expressions, and
the warnings are the same. The expressions are tightened: those of a name by the schema of this
name, those of an endpoint by the schemas of the operation. -/
def Compiled.Tightened (document : Document) (config : Config) : Compiled → Compiled → Prop :=
  Compiled.Twins (Conversion.Tightened document.registry)
    (fun name loose strict => ∃ stack schema, document.registry.get? name = some schema ∧
      Conversion.Tightened document.registry (stack ++ [name]) schema loose strict)
    (Endpoint.bound config document.operations)

theorem Endpoint.Twins.imp {good better : List String → Schema → Expr → Expr → Prop}
    {operation : Operation} {first second : Endpoint} (h : Twins good operation first second)
    (hbetter : ∀ stack schema one two, good stack schema one two → better stack schema one two) :
    Twins better operation first second where
  outline := h.outline
  exprs := by
    obtain ⟨main, failed, hselected, hexprs⟩ := h.exprs
    refine ⟨main, failed, hselected, hexprs.imp fun slot _ one two hgood => ?_⟩
    cases slot with
    | some schema => exact hbetter _ _ _ _ hgood
    | none => exact hgood

theorem compiled_strictObjects (document : Document) (config : Config) :
    Alike (Compiled.Tightened document config)
      (document.compiled { config with strictObjects := false })
      (document.compiled { config with strictObjects := true }) := by
  have hsides : SideBySide (document.settings { config with strictObjects := false })
      (document.settings { config with strictObjects := true }) _ _ :=
    sideBySide_strictObjects rfl rfl rfl rfl
  refine (compiled_lockstep hsides rfl ?_).imp fun first second htwins => ?_
  · rintro name one other ⟨stack, schema, -, htightened⟩ mode
    exact (htightened.references_eq mode).symm
  · exact ⟨htwins.declarations,
      htwins.endpoints.imp fun _ _ _ _ hendpoint => hendpoint.imp fun _ _ _ _ hgood => hgood.1,
      htwins.warnings⟩

/-- The options of the conversion change the modifiers that they are about, and nothing else. A
document compiled without defaults fails as it does with them, or comes to the same declarations in
the same order, endpoints and warnings without the defaults; compiled with strict objects, it fails
as it does without them, or comes to the same but for the objects that say nothing about other
properties, which forbid them. -/
theorem options_change_own_modifiers (document : Document) (config : Config) :
    (document.compile { config with withDefaultValues := false }).result.1 =
        (document.compile { config with withDefaultValues := true }).result.1.map
          Compiled.withoutDefaults ∧
      Alike (Compiled.Tightened document config)
        (document.compile { config with strictObjects := false }).result.1
        (document.compile { config with strictObjects := true }).result.1 := by
  simp only [compile_result]
  exact ⟨compiled_withoutDefaults document config, compiled_strictObjects document config⟩

end OpenApiClient
