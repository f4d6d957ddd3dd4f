import OpenApiClient.Proofs.Conversion.Laws
import OpenApiClient.Proofs.Conversion.Parts

/-!
# Translating a schema on its own

The converter declares the targets of references on its way and has to know which names it is in the
middle of. A translation without all that is simpler: a reference becomes a direct reference to the
name it stands for, and its target is looked at only where the members of an `allOf` are merged.
`structural` is this translation, which has no state and no stack.

When all names are declared and no name is on the stack, conversions are structural translations,
whatever they come to (`convertAt_gives`). What any conversion comes to depends only on what was
declared before (`convertAt_determined`).
-/

namespace OpenApiClient.Conversion

open List

/-! ### What a conversion depends on -/

variable {α β : Type} {before reached after : List (String × Expr)}

/-- From every state with the declarations `before` the action comes to the result and leaves the
declarations `after`. -/
def Gives (before : List (String × Expr)) (action : Convert α) (result : Except Failure α)
    (after : List (String × Expr)) : Prop :=
  ∀ progress, progress.declarations = before →
    (outcome action progress).1 = result ∧ (outcome action progress).2.declarations = after

/-! ### Compositions -/

theorem gives_pure (value : α) : Gives before (pure value) (.ok value) before :=
  fun _ hbefore => ⟨rfl, hbefore⟩

theorem gives_throw (failure : Failure) :
    Gives before (throw failure : Convert α) (.error failure) before :=
  fun _ hbefore => ⟨rfl, hbefore⟩

theorem gives_log (level : Level) (text : String) :
    Gives before (Convert.log level text) (.ok ()) before :=
  fun _ hbefore => ⟨rfl, hbefore⟩

theorem gives_warn (location keyword note : String) :
    Gives before (Convert.warn location keyword note) (.ok ()) before :=
  fun _ hbefore => ⟨rfl, hbefore⟩

theorem gives_ofCompile (result : Except CompileError α) :
    Gives before (Convert.ofCompile result) (result.mapError Failure.compile) before := by
  cases result with
  | ok value => exact gives_pure value
  | error error => exact gives_throw (.compile error)

/-- What follows a look at the state may only look at what has been declared. -/
theorem gives_get {next : Progress → Convert α} {result : Except Failure α}
    (h : ∀ progress, progress.declarations = before → Gives before (next progress) result after) :
    Gives before (get >>= next) result after := by
  intro progress hbefore
  rw [outcome_bind, outcome_get]
  exact h progress hbefore progress hbefore

theorem gives_add (name : String) (expr : Expr) :
    Gives before (modify fun progress =>
      { progress with declarations := progress.declarations ++ [(name, expr)] }) (.ok ())
      (before ++ [(name, expr)]) :=
  fun _ hbefore => ⟨rfl, congrArg (· ++ [(name, expr)]) hbefore⟩

theorem gives_bind {action : Convert α} {next : α → Convert β} {value : α}
    {result : Except Failure β} (haction : Gives before action (.ok value) reached)
    (hnext : Gives reached (next value) result after) :
    Gives before (action >>= next) result after := by
  intro progress hbefore
  obtain ⟨hvalue, hreached⟩ := haction progress hbefore
  rw [outcome_bind]
  rcases houtcome : outcome action progress with ⟨found, state⟩
  rw [houtcome] at hvalue hreached
  cases hvalue
  exact hnext state hreached

theorem gives_bind_error {action : Convert α} {next : α → Convert β} {failure : Failure}
    (haction : Gives before action (.error failure) after) :
    Gives before (action >>= next) (.error failure) after := by
  intro progress hbefore
  obtain ⟨hvalue, hreached⟩ := haction progress hbefore
  rw [outcome_bind]
  rcases houtcome : outcome action progress with ⟨found, state⟩
  rw [houtcome] at hvalue hreached
  cases hvalue
  exact ⟨rfl, hreached⟩

theorem gives_map {action : Convert α} {result : Except Failure α} (change : α → β)
    (h : Gives before action result after) :
    Gives before (do return change (← action)) (result.map change) after := by
  cases result with
  | error failure => exact gives_bind_error h
  | ok value => exact gives_bind h (gives_pure (change value))

/-- There is one result and one list of declarations at the end. -/
theorem Gives.unique {first second : List (String × Expr)} {action : Convert α}
    {result other : Except Failure α} (hfirst : Gives before action result first)
    (hsecond : Gives before action other second) : result = other ∧ first = second := by
  obtain ⟨hresult, hdeclared⟩ := hfirst { declarations := before } rfl
  obtain ⟨hother, hagain⟩ := hsecond { declarations := before } rfl
  exact ⟨hresult.symm.trans hother, hdeclared.symm.trans hagain⟩

/-! ### Actions that declare nothing -/

/-- A composition of actions that declare nothing comes to the composition of their results. -/
theorem gives_then {action : Convert α} {next : α → Convert β} {result : Except Failure α}
    {rest : α → Except Failure β} (haction : Gives before action result before)
    (hnext : ∀ value, Gives before (next value) (rest value) before) :
    Gives before (action >>= next) (result >>= rest) before := by
  cases result with
  | error failure => exact gives_bind_error haction
  | ok value => exact gives_bind haction (hnext value)

theorem gives_mapM {act : α → Convert β} {value : α → Except Failure β} {items : List α}
    (h : ∀ item ∈ items, Gives before (act item) (value item) before) :
    Gives before (items.mapM act) (items.mapM value) before := by
  induction items with
  | nil => exact gives_pure []
  | cons item rest ih =>
    rw [mapM_cons, mapM_cons]
    refine gives_then (h item mem_cons_self) fun first => ?_
    refine gives_then (ih fun other hother => h other (mem_cons_of_mem _ hother)) fun others => ?_
    exact gives_pure (first :: others)

/-- An index that stands beside each item does not matter for the result. -/
theorem gives_mapM_zipIdx {act : α × Nat → Convert β} {value : α → Except Failure β}
    (h : ∀ item index, Gives before (act (item, index)) (value item) before) (items : List α) :
    Gives before (items.zipIdx.mapM act) (items.mapM value) before := by
  rw [← zipIdx_map_fst 0 items, mapM_map, zipIdx_map_fst]
  exact gives_mapM fun pair _ => h pair.1 pair.2

theorem gives_notes (location : String) (notes : List (String × String)) :
    Gives before (notes.forM fun note => Convert.warn location note.1 note.2) (.ok ()) before := by
  induction notes with
  | nil => exact gives_pure ()
  | cons note rest ih => exact gives_bind (gives_warn _ _ _) ih

/-! ### Actions that depend on the declarations only -/

/-- What an action comes to and what it declares depends on what was declared before only. -/
def Determined (action : Convert α) : Prop := ∀ before, ∃ result after, Gives before action result after

/-- What an action comes to from one state it comes to from all with the same declarations. -/
theorem gives_of_outcome {action : Convert α} (h : Determined action)
    {progress reached : Progress} {result : Except Failure α}
    (houtcome : outcome action progress = (result, reached)) :
    Gives progress.declarations action result reached.declarations := by
  obtain ⟨found, after, hgives⟩ := h progress.declarations
  obtain ⟨hfound, hafter⟩ := hgives progress rfl
  rw [houtcome] at hfound hafter
  cases hfound
  cases hafter
  exact hgives

theorem determined_of_gives {action : Convert α} {result : Except Failure α}
    (h : ∀ before, Gives before action result before) : Determined action :=
  fun before => ⟨result, before, h before⟩

theorem determined_bind {action : Convert α} {next : α → Convert β} (haction : Determined action)
    (hnext : ∀ value, Determined (next value)) : Determined (action >>= next) := by
  intro before
  obtain ⟨result, reached, hresult⟩ := haction before
  cases result with
  | error failure => exact ⟨.error failure, reached, gives_bind_error hresult⟩
  | ok value =>
    obtain ⟨last, after, hlast⟩ := hnext value reached
    exact ⟨last, after, gives_bind hresult hlast⟩

theorem determined_pure (value : α) : Determined (pure value) :=
  determined_of_gives fun _ => gives_pure value

theorem determined_throw (failure : Failure) : Determined (throw failure : Convert α) :=
  determined_of_gives fun _ => gives_throw failure

/-- What follows a look at the state may only look at what has been declared. -/
theorem determined_get {next : Progress → Convert α} (h : ∀ progress, Determined (next progress))
    (hsame : ∀ first second : Progress, first.declarations = second.declarations →
      next first = next second) : Determined (get >>= next) := by
  intro before
  obtain ⟨result, after, hgives⟩ := h { declarations := before } before
  refine ⟨result, after, gives_get fun progress hbefore => ?_⟩
  rw [hsame progress { declarations := before } hbefore]
  exact hgives

theorem determined_mapM {act : α → Convert β} (h : ∀ item, Determined (act item))
    (items : List α) : Determined (items.mapM act) := by
  induction items with
  | nil => exact determined_pure []
  | cons item rest ih =>
    rw [mapM_cons]
    exact determined_bind (h item) fun _ => determined_bind ih fun _ => determined_pure _

theorem determined_forM {act : α → Convert Unit} (h : ∀ item, Determined (act item))
    (items : List α) : Determined (items.forM act) := by
  induction items with
  | nil => exact determined_pure ()
  | cons item rest ih => exact determined_bind (h item) fun _ => ih

/-! ### Conversions -/

variable {settings : Settings} {convert : Converter}

theorem Plan.run_determined (h : ∀ schema context, Determined (convert schema context))
    (plan : Plan) (location : String) : Determined (plan.run convert location) := by
  have hparts : Determined (convertParts convert plan.parts) := by
    unfold convertParts
    exact determined_mapM (fun part => h part.1 part.2) plan.parts
  refine determined_bind (determined_of_gives fun _ => gives_notes _ _) fun _ => ?_
  refine determined_bind hparts fun exprs => ?_
  cases plan.stop with
  | some error => exact determined_throw _
  | none => exact determined_pure _

theorem declareWith_determined (h : ∀ schema context, Determined (convert schema context))
    (name : String) (context : Context) :
    Determined (declareWith convert settings name context) := by
  unfold declareWith
  refine determined_get (fun progress => ?_) fun first second hsame => by rw [hsame]
  cases progress.declarations.lookup name with
  | some expr => exact determined_pure expr
  | none =>
    refine determined_bind (determined_of_gives fun _ => gives_log _ _) fun _ => ?_
    cases settings.registry.get? name with
    | none => exact determined_throw _
    | some schema =>
      refine determined_bind (h schema _) fun expr => ?_
      exact determined_bind (fun before => ⟨_, _, gives_add name expr⟩) fun _ =>
        determined_pure expr

theorem allAliases_determined (registry : Registry) (names : List String) :
    Determined (allAliases registry names) := by
  induction names with
  | nil => exact determined_pure true
  | cons name rest ih =>
    unfold allAliases
    split
    · exact determined_throw _
    · split
      · exact ih
      · exact determined_pure false

theorem convertRef_determined (h : ∀ schema context, Determined (convert schema context))
    (ref : String) (context : Context) : Determined (convertRef convert settings ref context) := by
  refine determined_bind (determined_of_gives fun _ => gives_ofCompile _) fun name => ?_
  split
  · refine determined_bind (allAliases_determined _ _) fun aliases => ?_
    split
    · exact determined_bind (determined_of_gives fun _ => gives_warn _ _ _) fun _ =>
        determined_pure _
    · exact determined_bind (determined_of_gives fun _ => gives_log _ _) fun _ => determined_pure _
  · exact determined_bind (declareWith_determined h name context) fun _ => determined_pure _

/-- What a conversion comes to and what it declares depends on what was declared before only. -/
theorem convertAt_determined (settings : Settings) :
    ∀ depth schema context, Determined (convertAt settings depth schema context) := by
  intro depth
  induction depth with
  | zero => exact fun _ _ => determined_throw _
  | succ depth ih =>
    intro schema context
    refine determined_bind ?_ fun expr => determined_pure _
    cases href : schema.ref with
    | some ref =>
      simp only [convertKind, href]
      exact convertRef_determined ih ref context
    | none =>
      rw [convertKind_eq_plan _ _ _ _ href]
      exact Plan.run_determined ih _ _

/-- The schemas that a plan goes on with, each with whether it is optional. -/
def Plan.inputs (plan : Plan) : List (Schema × Bool) :=
  plan.parts.map fun part => (part.1, part.2.optional)

/-- Carries a plan out by translating its parts on their own. -/
def Plan.assemble (plan : Plan) (translate : Schema → Bool → Except Failure Expr) :
    Except Failure Expr := do
  let exprs ← plan.inputs.mapM fun input => translate input.1 input.2
  match plan.stop with
  | some error => throw (.compile error)
  | none => return plan.build exprs

/-- Translates a schema on its own, at most `depth` schemas deep. -/
def structuralAt (settings : Settings) :
    (depth : Nat) → Schema → (optional : Bool) → Except Failure Expr
  | 0, _, _ => throw (.unexpected .endless)
  | depth + 1, schema, optional =>
    let expr :=
      match schema.ref with
      | some ref => ((settings.registry.resolve ref).mapError Failure.compile).map Expr.namedRef
      | none => (plan settings schema {}).assemble (structuralAt settings depth)
    expr.map (finished settings schema optional)

/-- Translates a schema on its own: references become names, and are followed only where objects
are merged. -/
def structural (settings : Settings) (schema : Schema) (optional : Bool) : Except Failure Expr :=
  structuralAt settings (depthBound settings.registry schema.size) schema optional

variable {settings : Settings} {schema : Schema} {context : Context} {optional : Bool} {expr : Expr}

/-! ### Plans that differ only in where their parts stand -/

/-- Two plans go on with the same schemas and build the same out of them. -/
structure Plan.Same (first second : Plan) : Prop where
  inputs : first.inputs = second.inputs
  stop : first.stop = second.stop
  build : first.build = second.build

theorem map_memberParts (keyword : String) (members : List (Schema × Nat)) (context : Context) :
    (memberParts keyword members context).map (fun part => (part.1, part.2.optional)) =
      members.map fun member => (member.1, false) := by
  simp [memberParts, Context.child]

theorem map_objectParts (schema : Schema) (context : Context) :
    (objectParts schema context).map (fun part => (part.1, part.2.optional)) =
      schema.properties.map (fun property =>
        (property.2, mayMiss schema property.1 && !makesPartial schema)) ++
      schema.otherProperties.toList.map fun others => (others, false) := by
  unfold objectParts otherParts Schema.otherProperties
  rcases schema.additional with _ | _ | others <;> simp [propertyContext, Context.child]

theorem membersPlan_same {first second : Settings} (hconfig : first.config = second.config)
    (members : Members) (context other : Context) :
    (membersPlan first members context).Same (membersPlan second members other) where
  inputs := by
    simp only [Plan.inputs, membersPlan, map_append, map_memberParts]
    split <;> simp [map_flatMap, map_objectParts]
  stop := rfl
  build := by simp only [membersPlan, hconfig]

/-- The plan of a schema depends on the named schemas and the stack only through the sorting of the
members of an `allOf`. -/
theorem plan_same {first second : Settings} (hconfig : first.config = second.config)
    {context other : Context}
    (h : ∀ allOf, schema.allOf = some allOf →
      sortMembers first.registry context.stack (allOf ++ (siblingMember? schema).toList).zipIdx =
        sortMembers second.registry other.stack
          (allOf ++ (siblingMember? schema).toList).zipIdx) :
    (plan first schema context).Same (plan second schema other) := by
  unfold plan
  split
  · rename_i allOf hallOf
    unfold allOfPlan
    split
    · exact ⟨rfl, rfl, rfl⟩
    · rw [h allOf hallOf]
      exact membersPlan_same hconfig _ context other
  split
  · exact ⟨by simp only [Plan.inputs, unionPlan, map_memberParts], rfl, rfl⟩
  split
  · exact ⟨by simp only [Plan.inputs, unionPlan, map_memberParts], rfl, rfl⟩
  split
  · exact ⟨rfl, rfl, rfl⟩
  split
  · exact ⟨rfl, rfl, rfl⟩
  split
  · exact ⟨rfl, rfl, rfl⟩
  split
  · exact ⟨rfl, rfl, rfl⟩
  split
  · exact ⟨by simp only [Plan.inputs, objectPlan, map_objectParts], rfl,
      by simp only [objectPlan, hconfig]⟩
  split
  · exact ⟨by simp [Plan.inputs, arrayPlan, Context.child], rfl, rfl⟩
  · exact ⟨rfl, rfl, rfl⟩

theorem Plan.Same.assemble_eq {first second : Plan} (h : first.Same second)
    (translate : Schema → Bool → Except Failure Expr) :
    first.assemble translate = second.assemble translate := by
  rw [assemble, assemble, h.inputs, h.stop, h.build]

variable {translate : Schema → Bool → Except Failure Expr}

/-- A plan is assembled if it is not stuck and all its parts are translated. -/
theorem Plan.assemble_eq_ok {plan : Plan} :
    plan.assemble translate = .ok expr ↔ plan.stop = none ∧ ∃ exprs,
      List.Forall₂ (fun part expr => translate part.1 part.2.optional = .ok expr) plan.parts exprs ∧
        plan.build exprs = expr := by
  rw [assemble, bind_eq_ok]
  simp only [inputs, mapM_map, mapM_eq_ok_iff]
  cases plan.stop with
  | none => simp [pure, Except.pure]
  | some error => simp [throw, throwThe, MonadExceptOf.throw]

/-- If a plan is not assembled, a part cannot be translated or the plan is stuck. -/
theorem Plan.assemble_eq_error {plan : Plan} {failure : Failure}
    (h : plan.assemble translate = .error failure) :
    (∃ part ∈ plan.parts, translate part.1 part.2.optional = .error failure) ∨
      ∃ error, plan.stop = some error ∧ failure = .compile error := by
  rcases bind_eq_error.mp h with h | ⟨exprs, -, h⟩
  · obtain ⟨input, hinput, hfailed⟩ := exists_of_mapM_error h
    obtain ⟨part, hpart, rfl⟩ := mem_map.mp hinput
    exact .inl ⟨part, hpart, hfailed⟩
  · cases hstop : plan.stop with
    | none =>
      rw [hstop] at h
      cases h
    | some error =>
      rw [hstop] at h
      cases h
      exact .inr ⟨error, rfl, rfl⟩

/-! ### When a translation succeeds -/

theorem structuralAt_ref {ref : String} (href : schema.ref = some ref) (depth : Nat) :
    structuralAt settings (depth + 1) schema optional = .ok expr ↔
      ∃ name, settings.registry.resolve ref = .ok name ∧
        finished settings schema optional (.namedRef name) = expr := by
  simp only [structuralAt, href]
  cases settings.registry.resolve ref with
  | error error => simp [Except.mapError, Except.map]
  | ok name => simp [Except.mapError, Except.map]

theorem structuralAt_plan (href : schema.ref = none) (depth : Nat)
    (hsame : (plan settings schema context).Same (plan settings schema {})) :
    structuralAt settings (depth + 1) schema optional = .ok expr ↔
      (plan settings schema context).stop = none ∧ ∃ exprs,
        List.Forall₂ (fun part expr => structuralAt settings depth part.1 part.2.optional = .ok expr)
          (plan settings schema context).parts exprs ∧
        finished settings schema optional ((plan settings schema context).build exprs) = expr := by
  simp only [structuralAt, href, ← hsame.assemble_eq]
  constructor
  · intro h
    obtain ⟨built, hbuilt, rfl⟩ := exists_of_map_eq_ok h
    obtain ⟨hstop, exprs, hexprs, rfl⟩ := Plan.assemble_eq_ok.mp hbuilt
    exact ⟨hstop, exprs, hexprs, rfl⟩
  · rintro ⟨hstop, exprs, hexprs, rfl⟩
    rw [Plan.assemble_eq_ok.mpr ⟨hstop, exprs, hexprs, rfl⟩]
    rfl

/-- More depth changes nothing about a translation that succeeds. -/
theorem structuralAt_le {depth more : Nat} (h : depth ≤ more) :
    ∀ {schema optional expr}, structuralAt settings depth schema optional = .ok expr →
      structuralAt settings more schema optional = .ok expr := by
  induction depth generalizing more with
  | zero => intro schema optional expr hexpr; cases hexpr
  | succ depth ih =>
    intro schema optional expr hexpr
    obtain ⟨fewer, rfl⟩ : ∃ fewer, more = fewer + 1 := ⟨more - 1, by omega⟩
    cases href : schema.ref with
    | some ref =>
      rw [structuralAt_ref href] at hexpr ⊢
      exact hexpr
    | none =>
      rw [structuralAt_plan href depth ⟨rfl, rfl, rfl⟩] at hexpr
      rw [structuralAt_plan href fewer ⟨rfl, rfl, rfl⟩]
      obtain ⟨hstop, exprs, hexprs, hbuild⟩ := hexpr
      exact ⟨hstop, exprs, hexprs.imp fun _ _ => ih (by omega), hbuild⟩

/-- Translations on their own make direct references only. -/
theorem structuralAt_lazy {name : String} :
    ∀ {depth schema optional expr}, structuralAt settings depth schema optional = .ok expr →
      name ∉ expr.references .lazy := by
  intro depth
  induction depth with
  | zero => intro schema optional expr hexpr; cases hexpr
  | succ depth ih =>
    intro schema optional expr hexpr hname
    cases href : schema.ref with
    | some ref =>
      obtain ⟨target, -, rfl⟩ := (structuralAt_ref href depth).mp hexpr
      rw [references_finished, Expr.mem_references_namedRef] at hname
      cases hname.1
    | none =>
      obtain ⟨-, exprs, hexprs, rfl⟩ :=
        (structuralAt_plan href depth ⟨rfl, rfl, rfl⟩).mp hexpr
      rw [references_finished] at hname
      obtain ⟨part, hpart, hname⟩ := references_plan_build hname
      obtain ⟨input, -, hinput⟩ := exists_of_forall₂ hexprs hpart
      exact ih hinput hname

/-! ### Conversions when all names are declared -/

variable {declarations : List (String × Expr)}

theorem Plan.run_gives {convert : Converter} {plan : Plan} (location : String)
    (h : ∀ part ∈ plan.parts, Gives declarations (convert part.1 part.2)
      (translate part.1 part.2.optional) declarations) :
    Gives declarations (plan.run convert location) (plan.assemble translate) declarations := by
  refine gives_bind (gives_notes location plan.notes) ?_
  rw [assemble, inputs, mapM_map]
  refine gives_then (gives_mapM h) fun exprs => ?_
  cases plan.stop with
  | some error => exact gives_throw _
  | none => exact gives_pure _

theorem convertRef_gives {convert : Converter} (ref : String) (hstack : context.stack = [])
    (hall : ∀ name ∈ settings.registry.names, ∃ expr, declarations.lookup name = some expr) :
    Gives declarations (convertRef convert settings ref context)
      (((settings.registry.resolve ref).mapError Failure.compile).map Expr.namedRef)
      declarations := by
  have htarget : Gives declarations (Convert.ofCompile (settings.registry.resolve ref)) _
    declarations := gives_ofCompile _
  unfold convertRef
  cases hresolve : settings.registry.resolve ref with
  | error error =>
    rw [hresolve] at htarget
    exact gives_bind_error htarget
  | ok name =>
    rw [hresolve] at htarget
    refine gives_bind htarget ?_
    rw [hstack]
    obtain ⟨expr, hlookup⟩ := hall name (Registry.mem_names_of_resolve hresolve)
    have hdeclared : Gives declarations (declareWith convert settings name context) (.ok expr)
        declarations := by
      refine gives_get fun progress hprogress => ?_
      rw [hprogress, hlookup]
      exact gives_pure expr
    exact gives_bind hdeclared (gives_pure _)

/-- When all names are declared and none is on the stack, a conversion is a translation of the
schema on its own and declares nothing. -/
theorem convertAt_gives
    (hall : ∀ name ∈ settings.registry.names, ∃ expr, declarations.lookup name = some expr) :
    ∀ depth schema context, context.stack = [] →
      Gives declarations (convertAt settings depth schema context)
        (structuralAt settings depth schema context.optional) declarations := by
  intro depth
  induction depth with
  | zero => exact fun _ _ _ => gives_throw _
  | succ depth ih =>
    intro schema context hstack
    refine gives_map (finished settings schema context.optional) ?_
    cases href : schema.ref with
    | some ref =>
      simp only [convertKind, href]
      exact convertRef_gives ref hstack hall
    | none =>
      have hsame : (plan settings schema context).Same (plan settings schema {}) :=
        plan_same rfl fun allOf _ => by rw [hstack]
      rw [convertKind_eq_plan _ _ _ _ href, ← hsame.assemble_eq]
      refine Plan.run_gives context.location fun part hpart => ih part.1 part.2 ?_
      rw [stack_of_mem_plan_parts settings schema context hpart, hstack]

end OpenApiClient.Conversion
