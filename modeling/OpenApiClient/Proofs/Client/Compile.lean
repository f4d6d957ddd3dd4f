import OpenApiClient.Client.Compile
import OpenApiClient.Proofs.Conversion.Rules
import OpenApiClient.Proofs.Declaration.Graph
import OpenApiClient.Proofs.Endpoint.Binding

/-!
# What a document is compiled to

Compiling a document goes through four stages: the schemas are registered, all names are declared,
the declarations are ordered, the endpoints are bound. None of them reads the log, so the result is
that of a computation without one (`Document.compiled`, `compile_result`).
-/

namespace OpenApiClient

open Declaration List
open Conversion (Settings Progress Sound Rules declaring building)

/-! ### Results without the log -/

/-- Whatever the log is, a run comes to this result. -/
def Yields {α : Type} (run : Run α) (result : Except Failure α) : Prop :=
  ∀ records, (outcome run records).1 = result

namespace Yields

variable {α β : Type}

theorem pure (value : α) : Yields (Pure.pure value) (.ok value) := fun _ => rfl

theorem throw (failure : Failure) : Yields (throw failure : Run α) (.error failure) := fun _ => rfl

theorem log (level : Level) (text : String) : Yields (Run.log level text) (.ok ()) := fun _ => rfl

theorem of (result : Except Failure α) : Yields (Run.of result) result := fun _ => rfl

theorem bind {run : Run α} {next : α → Run β} {result : Except Failure α}
    {rest : α → Except Failure β} (hrun : Yields run result)
    (hnext : ∀ value, Yields (next value) (rest value)) :
    Yields (run >>= next) (result >>= rest) := by
  intro records
  have hresult := hrun records
  rw [outcome_bind]
  rcases houtcome : outcome run records with ⟨failure | value, reached⟩
  · rw [houtcome] at hresult
    rw [← hresult]
    rfl
  · rw [houtcome] at hresult
    rw [← hresult]
    exact hnext value reached

theorem bind_ok {run : Run α} {next : α → Run β} {value : α} {result : Except Failure β}
    (hrun : Yields run (.ok value)) (hnext : Yields (next value) result) :
    Yields (run >>= next) result := by
  intro records
  rw [outcome_bind]
  have hvalue := hrun records
  rcases houtcome : outcome run records with ⟨failure | found, reached⟩
  · rw [houtcome] at hvalue
    cases hvalue
  · rw [houtcome] at hvalue
    cases hvalue
    exact hnext reached

/-- What only adds to the log does not change a result. -/
theorem before_log {run : Run α} {next : α → Run α} {result : Except Failure α}
    (h : Yields run result) (hnext : ∀ value, Yields (next value) (.ok value)) :
    Yields (run >>= next) result := by
  have hresult : (result >>= Except.ok) = result := by
    cases result <;> rfl
  exact hresult ▸ h.bind hnext

theorem forM_log (level : Level) (warnings : List Warning) (text : Warning → String) :
    Yields (warnings.forM fun warning => Run.log level (text warning)) (.ok ()) := by
  induction warnings with
  | nil => exact pure ()
  | cons warning rest ih => exact bind_ok (log level (text warning)) ih

end Yields

/-- What a conversion comes to when it goes on from a state. -/
def Conversion.continued {α : Type} (progress : Progress) (action : Convert α) :
    Except Failure (α × Progress) :=
  match outcome action { progress with records := [] } with
  | (.ok value, reached) => .ok (value, reached)
  | (.error failure, _) => .error failure

variable {progress : Progress}

theorem Conversion.continued_eq_ok {α : Type} {reached : Progress} {action : Convert α} {value : α}
    (h : continued progress action = .ok (value, reached)) :
    outcome action { progress with records := [] } = (.ok value, reached) := by
  unfold continued at h
  split at h
  · rename_i heq
    cases h
    exact heq
  · cases h

variable {failure : Failure}

theorem Conversion.continued_eq_error {α : Type} {action : Convert α}
    (h : continued progress action = .error failure) :
    ∃ reached, outcome action { progress with records := [] } = (.error failure, reached) := by
  unfold continued at h
  split at h
  · cases h
  · rename_i reached heq
    cases h
    exact ⟨reached, heq⟩

theorem Yields.convert {α : Type} (progress : Progress) (action : Convert α) :
    Yields (Run.convert progress action) (Conversion.continued progress action) := by
  intro records
  unfold Run.convert Conversion.continued outcome
  rcases StateT.run (ExceptT.run action) { progress with records := [] } with
    ⟨failure | value, reached⟩ <;> rfl

/-- Declares all registered names. -/
def Conversion.declareAll (settings : Settings) : Convert Unit :=
  settings.registry.names.forM fun name => discard (declare settings name {})

/-- The names of declarations in an order in which they can stand. -/
def Declaration.ordered (names : List String) (declarations : List (String × Expr)) :
    Except Failure (List String) :=
  match Graph.ofDeclarations? names declarations with
  | none => .error (.unexpected .noSuchKey)
  | some graph => graph.order

theorem Yields.order (names : List String) (declarations : List (String × Expr)) :
    Yields (order names declarations) (ordered names declarations) := by
  unfold Declaration.order Declaration.ordered
  cases Declaration.Graph.ofDeclarations? names declarations with
  | none => exact throw _
  | some graph =>
    refine (of graph.order).before_log fun order => ?_
    split
    · exact bind_ok (log _ _) (pure order)
    · exact pure order

/-- The declarations of names. -/
def Declaration.collect (declarations : List (String × Expr)) (order : List String) :
    List Declared :=
  order.filterMap fun name => do
    return { name, identifier := Source.identifier name, expr := ← declarations.lookup name }

/-- What a document is compiled to. -/
def Document.compiled (document : Document) (config : Config) : Except Failure Compiled := do
  let registry ← (Registry.ofSchemas document.schemas).mapError Failure.compile
  let settings : Settings := { registry, config }
  let (_, declared) ← Conversion.continued { warnings := document.warnings }
    (Conversion.declareAll settings)
  let order ← ordered registry.names declared.declarations
  let (endpoints, progress) ← Conversion.continued declared
    (Endpoint.bindAll settings document.operations)
  return { declarations := collect declared.declarations order, endpoints
           warnings := progress.warnings }

theorem Yields.compile (document : Document) (config : Config) :
    Yields (document.compile config) (document.compiled config) := by
  unfold Document.compiled
  refine Yields.bind_ok (Yields.forM_log _ _ _) ?_
  cases Registry.ofSchemas document.schemas with
  | error error => exact Yields.throw _
  | ok registry =>
    refine Yields.bind_ok (Yields.pure registry) ?_
    refine Yields.bind (Yields.convert _ _) fun (_, declared) => ?_
    refine Yields.bind (Yields.order _ _) fun order => ?_
    refine Yields.bind (Yields.convert _ _) fun (endpoints, progress) => ?_
    exact Yields.bind_ok (Yields.log _ _) (Yields.pure _)

/-- The result of compiling a document does not depend on the log. -/
theorem compile_result (document : Document) (config : Config) :
    (document.compile config).result.1 = document.compiled config :=
  Yields.compile document config []

/-! ### What is declared -/

/-- Actions over a list keep what each of them keeps. -/
theorem Contract.keeps_forM {σ α : Type} {contract : Contract σ} {act : α → Action σ Unit}
    {good : α → σ → Prop}
    (hstable : ∀ item first second, contract.grows first second → good item first →
      good item second) :
    ∀ {items : List α}, (∀ item ∈ items, ∀ state, contract.inv state →
        contract.Keeps (act item) (fun _ reached => good item reached) state) →
      ∀ state, contract.inv state →
        contract.Keeps (items.forM act) (fun _ reached => ∀ item ∈ items, good item reached)
          state := by
  intro items
  induction items with
  | nil =>
    intro _ state hinv
    exact keeps_pure hinv (by simp)
  | cons item rest ih =>
    intro hitems state hinv
    unfold List.forM
    apply keeps_bind (hitems item mem_cons_self state hinv)
    intro _ reached hinv' _ hitem
    refine (ih (fun other hother => hitems other (mem_cons_of_mem _ hother)) reached
      hinv').mono ?_
    intro _ last _ hgrows hrest
    exact forall_mem_cons.mpr ⟨hstable _ _ _ hgrows hitem, hrest⟩

variable {fit : Schema → Prop} {good : Expr → Prop}

namespace Conversion

theorem declare_keeps (settings : Settings) (name : String)
    (hinv : Sound settings.registry progress.declarations) :
    (declaring settings.registry []).Keeps (discard (declare settings name {}))
      (fun _ reached => name ∈ reached.declarations.map (·.1)) progress := by
  apply Contract.keeps_bind
    (declareWith_keeps (convertAt_declares settings _) not_mem_nil (by simp) hinv)
  intro expr reached hreached _ hmem
  exact Contract.keeps_pure hreached (mem_map.mpr ⟨_, hmem, rfl⟩)

/-- Declaring all names keeps the declarations sound; at the end every name is among them. -/
theorem declareAll_keeps (settings : Settings)
    (hinv : Sound settings.registry progress.declarations) :
    (declaring settings.registry []).Keeps (declareAll settings)
      (fun _ reached => ∀ name ∈ settings.registry.names,
        name ∈ reached.declarations.map (·.1)) progress := by
  refine Contract.keeps_forM ?_ (fun name _ _ => declare_keeps settings name) progress hinv
  rintro name first second ⟨added, hadded, -⟩ hfirst
  rw [hadded, map_append]
  exact mem_append_left _ hfirst

/-- What follows the laws of conversions is kept by declaring all names. -/
theorem NotedLaws.declareAll_keeps {settings : Settings} {contract : Contract Progress}
    {allowed : Warning → Prop} {fits : Nat → Schema → Context → Prop}
    {good : Nat → Schema → Context → Expr → Progress → Prop}
    (laws : NotedLaws settings contract allowed fits good)
    (hfits : ∀ name target, settings.registry.get? name = some target →
      fits (depthBound settings.registry 0) target (Context.push {} name))
    (hinv : contract.inv progress) :
    contract.Keeps (declareAll settings) (fun _ _ => True) progress := by
  have hdeclare : ∀ name ∈ settings.registry.names, ∀ state, contract.inv state →
      contract.Keeps (discard (Conversion.declare settings name {})) (fun _ _ => True) state := by
    intro name hname state hstate
    obtain ⟨target, hget⟩ := Registry.exists_get?_of_mem_names hname
    apply Contract.keeps_bind
      (laws.declareWith_keeps (fun hnone => by simp [hget] at hnone) (hfits name) hstate)
    intro expr reached hreached _ _
    exact Contract.keeps_pure hreached trivial
  refine (Contract.keeps_forM (fun _ _ _ _ _ => trivial) hdeclare progress hinv).mono ?_
  exact fun _ _ _ _ _ => trivial

/-- Declaring all names keeps all parts of the declarations good. -/
theorem declareAll_builds {settings : Settings} (rules : Rules settings fit good)
    (hregistry : ∀ entry ∈ settings.registry.schemas, entry.2.Every fit)
    (hinv : (building good).inv progress) :
    (building good).Keeps (declareAll settings) (fun _ _ => True) progress :=
  (rules.laws hregistry).noted.declareAll_keeps
    (fun _ _ hget => hregistry _ (Registry.mem_schemas_of_get? hget)) hinv

end Conversion

/-! ### Collected declarations -/

variable {declared : Declared}

namespace Declaration

variable {declarations : List (String × Expr)} {order : List String}

theorem map_name_collect (h : ∀ name ∈ order, ∃ expr, declarations.lookup name = some expr) :
    (collect declarations order).map (·.name) = order := by
  induction order with
  | nil => rfl
  | cons name rest ih =>
    obtain ⟨expr, hexpr⟩ := h name mem_cons_self
    have hrest := ih fun other hother => h other (mem_cons_of_mem _ hother)
    simpa [collect, hexpr] using hrest

theorem lookup_of_mem_collect (h : declared ∈ collect declarations order) :
    declarations.lookup declared.name = some declared.expr ∧
      declared.identifier = Source.identifier declared.name := by
  obtain ⟨name, -, hname⟩ := mem_filterMap.mp h
  obtain ⟨expr, hexpr, heq⟩ := Option.bind_eq_some_iff.mp hname
  cases heq
  exact ⟨hexpr, rfl⟩

/-- The declaration of a name stands where the name stands in the order. -/
theorem getElem?_collect (h : ∀ name ∈ order, ∃ expr, declarations.lookup name = some expr)
    (place : Nat) :
    ((collect declarations order)[place]?).map (·.name) = order[place]? := by
  rw [← getElem?_map, map_name_collect h]

end Declaration

/-! ### Stages -/

/-- What binding the endpoints relies on, for the references of their expressions. -/
theorem Endpoint.bindable_refers (settings : Settings) (schemas : List Schema) :
    Endpoint.Bindable settings (declaring settings.registry [])
      (Conversion.Refers settings.registry) schemas where
  notes := (Conversion.declaring_ignoresNotes _ _).allows _
  fault := fun names heq => by cases heq
  stable := fun _ _ _ hgrows hexpr => hexpr.mono hgrows
  unknown := fun optional progress => by simp [Conversion.Refers]
  void := fun progress => by simp [Conversion.Refers]
  convert := fun schema _ context hstack progress hinv =>
    hstack ▸ Conversion.convertAt_declares settings _ schema context progress hinv

/-- A document whose schemas have been registered and all declared. -/
structure Document.Stages (document : Document) (config : Config) where
  registry : Registry
  declared : Progress
  registered : Registry.ofSchemas document.schemas = .ok registry
  complete : outcome (Conversion.declareAll { registry, config })
    { warnings := document.warnings } = (.ok (), declared)

namespace Document.Stages

variable {document : Document} {config : Config} (stages : document.Stages config)

/-- What the endpoints are bound with. -/
def settings : Settings := { registry := stages.registry, config }

theorem schemas_eq : stages.registry.schemas = document.schemas :=
  (Registry.ofSchemas_ok stages.registered).1

theorem names_nodup : stages.registry.names.Nodup := (Registry.ofSchemas_ok stages.registered).2

/-- The declarations are sound. -/
theorem sound : Sound stages.registry stages.declared.declarations :=
  ((Conversion.declareAll_keeps stages.settings .nil).ok stages.complete).1

/-- Every registered name is declared. -/
theorem exists_declaration :
    ∀ name ∈ stages.registry.names, ∃ expr, stages.declared.declarations.lookup name = some expr := by
  intro name hname
  have hall := ((Conversion.declareAll_keeps stages.settings .nil).ok stages.complete).2.2
  exact Named.exists_lookup_of_mem (hall name hname)

/-- The declarations are ordered, each after those it refers to directly. -/
theorem exists_order :
    ∃ order, ordered stages.registry.names stages.declared.declarations = .ok order ∧
      order.Perm stages.registry.names ∧
      ∀ before name after, order = before ++ name :: after →
        ∀ expr, stages.declared.declarations.lookup name = some expr →
          ∀ other ∈ expr.references .named, other ∈ before := by
  obtain ⟨graph, order, hgraph, horder, hperm, hfollows⟩ :=
    order_of_sound stages.names_nodup stages.sound stages.exists_declaration
  refine ⟨order, ?_, hperm, hfollows⟩
  rw [ordered, hgraph]
  exact horder

/-- Binding the endpoints keeps the declarations sound, and the endpoints refer to them only. -/
theorem bindAll_keeps :
    (declaring stages.registry []).Keeps (Endpoint.bindAll stages.settings document.operations)
      (fun endpoints reached => ∀ endpoint ∈ endpoints, ∀ expr ∈ endpoint.exprs,
        Conversion.Refers stages.registry expr reached)
      { stages.declared with records := [] } :=
  Endpoint.bindAll_keeps (Endpoint.bindable_refers stages.settings _) _ stages.sound

end Document.Stages

theorem registered_of_mapError {document : Document} {registry : Registry}
    (h : (Registry.ofSchemas document.schemas).mapError Failure.compile = .ok registry) :
    Registry.ofSchemas document.schemas = .ok registry := by
  cases hschemas : Registry.ofSchemas document.schemas with
  | error error => rw [hschemas] at h; cases h
  | ok filled => rw [hschemas] at h; cases h; rfl

/-- A document that is compiled has gone through all stages. -/
theorem stages_of_compiled {document : Document} {config : Config} {compiled : Compiled}
    (h : document.compiled config = .ok compiled) :
    ∃ (stages : document.Stages config) (order : List String) (progress : Progress),
      ordered stages.registry.names stages.declared.declarations = .ok order ∧
      outcome (Endpoint.bindAll stages.settings document.operations)
        { stages.declared with records := [] } = (.ok compiled.endpoints, progress) ∧
      compiled.declarations = collect stages.declared.declarations order ∧
      compiled.warnings = progress.warnings := by
  unfold Document.compiled at h
  obtain ⟨registry, hregistry, h⟩ := bind_eq_ok.mp h
  obtain ⟨⟨⟨⟩, declared⟩, hdeclared, h⟩ := bind_eq_ok.mp h
  obtain ⟨order, horder, h⟩ := bind_eq_ok.mp h
  obtain ⟨⟨endpoints, progress⟩, hendpoints, h⟩ := bind_eq_ok.mp h
  cases h
  exact ⟨⟨registry, declared, registered_of_mapError hregistry, Conversion.continued_eq_ok hdeclared⟩,
    order, progress, horder, Conversion.continued_eq_ok hendpoints, rfl, rfl⟩

/-! ### Each declaration of a compiled document -/

/-- The named schemas of a document. -/
def Document.registry (document : Document) : Registry := { schemas := document.schemas }

/-- What a document is compiled with. -/
def Document.settings (document : Document) (config : Config) : Settings :=
  { registry := document.registry, config }

namespace Document.Stages

variable {document : Document} {config : Config} (stages : document.Stages config)

theorem registry_eq : stages.registry = document.registry := by
  rw [Document.registry, ← stages.schemas_eq]

theorem settings_eq : stages.settings = document.settings config := by
  rw [settings, stages.registry_eq, Document.settings]

/-- A collected declaration is one of those that were made. -/
theorem mem_of_mem_collect {order : List String}
    (h : declared ∈ collect stages.declared.declarations order) :
    (declared.name, declared.expr) ∈ stages.declared.declarations :=
  Named.mem_of_lookup (lookup_of_mem_collect h).1

end Document.Stages

section Compiled

variable {document : Document} {config : Config} {compiled : Compiled}

section

variable (h : document.compiled config = .ok compiled)

include h

/-- In a compiled document every schema is declared. -/
theorem compiled_names : (compiled.declarations.map (·.name)).Perm document.registry.names := by
  obtain ⟨stages, order, -, horder, -, hdeclarations, -⟩ := stages_of_compiled h
  obtain ⟨found, hfound, hperm, -⟩ := stages.exists_order
  obtain rfl : found = order := by simpa using hfound.symm.trans horder
  rw [hdeclarations, map_name_collect fun name hname =>
    stages.exists_declaration name (hperm.mem_iff.mp hname), ← stages.registry_eq]
  exact hperm

/-- The declarations of a compiled document are those that were made, in another order. -/
theorem compiled_declarations :
    ∃ declarations, Sound document.registry declarations ∧ ∀ name expr,
      (name, expr) ∈ declarations ↔
        ∃ declared ∈ compiled.declarations, declared.name = name ∧ declared.expr = expr := by
  have hnames := compiled_names h
  obtain ⟨stages, order, -, -, -, hdeclarations, -⟩ := stages_of_compiled h
  refine ⟨stages.declared.declarations, stages.registry_eq ▸ stages.sound, fun name expr => ?_⟩
  constructor
  · intro hmem
    have hname : name ∈ compiled.declarations.map (·.name) := by
      rw [hnames.mem_iff, ← stages.registry_eq]
      exact stages.sound.mem_names _ hmem
    obtain ⟨declared, hdeclared, rfl⟩ := mem_map.mp hname
    have hlookup := lookup_of_mem_collect (hdeclarations ▸ hdeclared)
    rw [(Named.lookup_iff_mem stages.sound.nodup).mpr hmem] at hlookup
    exact ⟨declared, hdeclared, rfl, (Option.some.inj hlookup.1).symm⟩
  · rintro ⟨declared, hdeclared, rfl, rfl⟩
    exact stages.mem_of_mem_collect (hdeclarations ▸ hdeclared)

theorem compiled_names_nodup : (compiled.declarations.map (·.name)).Nodup := by
  obtain ⟨stages, -⟩ := stages_of_compiled h
  exact (compiled_names h).nodup_iff.mpr (stages.registry_eq ▸ stages.names_nodup)

/-- In a compiled document every declaration is the one of its name. -/
theorem compiled_declaration? {name : String} :
    compiled.declaration? name = some declared ↔
      declared ∈ compiled.declarations ∧ declared.name = name := by
  constructor
  · exact fun hfound => ⟨mem_of_find?_eq_some hfound, by simpa using find?_some hfound⟩
  · rintro ⟨hdeclared, rfl⟩
    obtain ⟨found, hfound⟩ : ∃ found, compiled.declaration? declared.name = some found :=
      Option.isSome_iff_exists.mp (find?_isSome.mpr ⟨declared, hdeclared, by simp⟩)
    have hname : found.name = declared.name := by simpa using find?_some hfound
    rw [hfound, inj_on_of_nodup_map (compiled_names_nodup h)
      (mem_of_find?_eq_some hfound) hdeclared hname]

end

end Compiled

/-- A claim on single declarations that follows the laws of conversions is true of all declarations
of a compiled document. -/
theorem compiled_each {document : Document} {config : Config} {compiled : Compiled}
    {claim : String → Expr → Prop} {fault : Failure → Prop}
    {fits : Nat → Schema → Conversion.Context → Prop}
    {good : Nat → Schema → Conversion.Context → Expr → Progress → Prop}
    (laws : Conversion.Laws (document.settings config) (Conversion.eachDeclared claim fault) fits good)
    (hfits : ∀ name target, document.registry.get? name = some target →
      fits (Conversion.depthBound document.registry 0) target (Conversion.Context.push {} name))
    (h : document.compiled config = .ok compiled) :
    ∀ declared ∈ compiled.declarations, claim declared.name declared.expr := by
  obtain ⟨stages, order, -, -, -, hdeclarations, -⟩ := stages_of_compiled h
  have hcomplete := stages.complete
  rw [show Settings.mk stages.registry config = document.settings config from stages.settings_eq]
    at hcomplete
  obtain ⟨hinv, -⟩ :=
    (laws.noted.declareAll_keeps hfits (by simp [Conversion.eachDeclared])).ok hcomplete
  intro declared hdeclared
  rw [hdeclarations] at hdeclared
  exact hinv _ (stages.mem_of_mem_collect hdeclared)

/-! ### All expressions of a compiled document -/

/-- The schemas of a document: the named ones and those of its operations. -/
def Document.allSchemas (document : Document) : List Schema :=
  document.schemas.map (·.2) ++ document.operations.flatMap (·.schemas)

/-- The expressions of a compiled document: those of its declarations and of its endpoints. -/
def Compiled.exprs (compiled : Compiled) : List Expr :=
  compiled.declarations.map (·.expr) ++ compiled.endpoints.flatMap (·.exprs)

/-- What binding the endpoints relies on, for properties of all parts of their expressions. -/
theorem Endpoint.bindable_builds {settings : Settings} (rules : Rules settings fit good)
    (hregistry : ∀ entry ∈ settings.registry.schemas, entry.2.Every fit)
    (hunknown : ∀ optional : Bool, good ((Expr.unknown none).withModifiers
      (if optional then [{ kind := .optional }] else []))) (hvoid : good (.ofPrimitive .void))
    {schemas : List Schema} (hschemas : ∀ schema ∈ schemas, schema.Every fit) :
    Endpoint.Bindable settings (building good) (fun expr _ => expr.Every good) schemas where
  notes := (rules.laws hregistry).notes.allows _
  fault := trivial
  stable := fun _ _ _ _ hexpr => hexpr
  unknown := fun optional _ =>
    Conversion.every_leaf (hunknown optional) (by simp [Expr.unknown, Expr.children])
  void := fun _ => Conversion.every_leaf hvoid rfl
  convert := fun schema hschema context _ progress hinv =>
    Conversion.convertAt_builds rules hregistry _ schema context progress (hschemas schema hschema)
      hinv

/-- A property of fragments that carries over to nodes rule by rule carries over from the schemas of
a document to all parts of all expressions it is compiled to. -/
theorem compiled_every {document : Document} {config : Config} {compiled : Compiled}
    (rules : ∀ settings, Rules settings fit good)
    (hunknown : ∀ optional : Bool, good ((Expr.unknown none).withModifiers
      (if optional then [{ kind := .optional }] else []))) (hvoid : good (.ofPrimitive .void))
    (hfit : ∀ schema ∈ document.allSchemas, schema.Every fit)
    (h : document.compiled config = .ok compiled) : ∀ expr ∈ compiled.exprs, expr.Every good := by
  obtain ⟨stages, order, progress, -, hbound, hdeclarations, -⟩ := stages_of_compiled h
  have hregistry : ∀ entry ∈ stages.registry.schemas, entry.2.Every fit := by
    intro entry hentry
    rw [stages.schemas_eq] at hentry
    exact hfit entry.2 (mem_append_left _ (mem_map_of_mem hentry))
  have hdeclared : (building good).inv stages.declared :=
    ((Conversion.declareAll_builds (rules stages.settings) hregistry
      (by simp [Conversion.building])).ok stages.complete).1
  have hbindable := Endpoint.bindable_builds (rules stages.settings) hregistry hunknown hvoid
    fun schema hschema => hfit schema (mem_append_right _ hschema)
  obtain ⟨-, -, hendpoints⟩ :=
    (Endpoint.bindAll_keeps hbindable { stages.declared with records := [] } hdeclared).ok hbound
  intro expr hexpr
  rcases mem_append.mp hexpr with hexpr | hexpr
  · obtain ⟨declared, hmem, rfl⟩ := mem_map.mp hexpr
    rw [hdeclarations] at hmem
    obtain ⟨hlookup, -⟩ := lookup_of_mem_collect hmem
    exact hdeclared _ (Named.mem_of_lookup hlookup)
  · obtain ⟨endpoint, hendpoint, hexpr⟩ := mem_flatMap.mp hexpr
    exact hendpoints endpoint hendpoint expr hexpr

/-! ### Documents that are not compiled -/

/-- A document that is not compiled has failed when its schemas were registered, when they were
declared or when its endpoints were bound; an order is always found. -/
theorem stage_of_error {document : Document} {config : Config}
    (h : document.compiled config = .error failure) :
    (∃ error, Registry.ofSchemas document.schemas = .error error ∧ failure = .compile error) ∨
      (∃ reached, outcome (Conversion.declareAll (document.settings config))
        { warnings := document.warnings } = (.error failure, reached)) ∨
      ∃ (stages : document.Stages config) (reached : Progress),
        outcome (Endpoint.bindAll stages.settings document.operations)
          { stages.declared with records := [] } = (.error failure, reached) := by
  unfold Document.compiled at h
  rcases bind_eq_error.mp h with h | ⟨registry, hregistry, h⟩
  · cases hschemas : Registry.ofSchemas document.schemas with
    | ok filled => rw [hschemas] at h; cases h
    | error error => rw [hschemas] at h; cases h; exact .inl ⟨error, rfl, rfl⟩
  have hregistered := registered_of_mapError hregistry
  obtain rfl : registry = document.registry := by
    rw [Document.registry, ← (Registry.ofSchemas_ok hregistered).1]
  rcases bind_eq_error.mp h with h | ⟨⟨⟨⟩, declared⟩, hdeclared, h⟩
  · exact .inr (.inl (Conversion.continued_eq_error h))
  let stages : document.Stages config :=
    ⟨document.registry, declared, hregistered, Conversion.continued_eq_ok hdeclared⟩
  rcases bind_eq_error.mp h with h | ⟨order, -, h⟩
  · -- ordering cannot fail: the direct references lead in no circle
    obtain ⟨order, horder, -⟩ := stages.exists_order
    exact absurd (horder.symm.trans h) (by simp)
  rcases bind_eq_error.mp h with h | ⟨⟨endpoints, progress⟩, -, h⟩
  · exact .inr (.inr ⟨stages, Conversion.continued_eq_error h⟩)
  · cases h

/-- Compiling a document never ends in a circle of declarations. -/
theorem compiled_noCycle {document : Document} {config : Config}
    (h : document.compiled config = .error failure) : Conversion.NoCycle failure := by
  rcases stage_of_error h with ⟨error, hschemas, rfl⟩ | ⟨reached, houtcome⟩ |
    ⟨stages, reached, houtcome⟩
  · obtain ⟨name, existing, rfl⟩ := Registry.ofSchemas_error hschemas
    intro names heq
    cases heq
  · exact ((Conversion.declareAll_keeps _ .nil).error houtcome).2.2
  · exact (stages.bindAll_keeps.error houtcome).2.2

end OpenApiClient
