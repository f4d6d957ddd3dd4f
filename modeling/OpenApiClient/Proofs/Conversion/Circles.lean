import OpenApiClient.Proofs.Conversion.Parts

/-!
# Conversions that go in circles

References to schemas that are being converted are lazy, so no reference can keep a conversion going
forever. But the objects behind the members of an `allOf` are merged without any reference being
entered, and their properties are converted with the stack as it is. If a property of such an
object is an `allOf` that has the object behind a member again, the conversion comes back to where
it was.

`Visits` says to which tasks a task makes the conversion come, and `Task.Loops` that the parts of a
schema lead back to it while the stack stays the same. A task that returns is made of tasks that
return within a smaller depth, so one that comes to a loop returns within no depth
(`not_returns_of_circles`). Within greater depth a conversion returns the same (`convertAt_le`).
-/

namespace OpenApiClient.Conversion

variable {settings : Settings} {schema : Schema} {context : Context} {progress : Progress}

/-! ### More depth -/

variable {first second : Converter}

section

variable (h : ∀ schema context, Extends (first schema context) (second schema context))

include h

theorem Plan.run_extends (plan : Plan) (location : String) :
    Extends (plan.run first location) (plan.run second location) :=
  extends_bind (extends_refl _) fun _ =>
    extends_bind (extends_mapM (fun part => h part.1 part.2) plan.parts) fun _ => extends_refl _

theorem declareWith_extends (name : String) (context : Context) :
    Extends (declareWith first settings name context) (declareWith second settings name context) := by
  refine extends_bind (extends_refl _) fun current => ?_
  cases current.declarations.lookup name with
  | some expr => exact extends_refl _
  | none =>
    refine extends_bind (extends_refl _) fun _ => ?_
    cases settings.registry.get? name with
    | none => exact extends_refl _
    | some target => exact extends_bind (h target _) fun _ => extends_refl _

theorem convertRef_extends (ref : String) (context : Context) :
    Extends (convertRef first settings ref context) (convertRef second settings ref context) := by
  refine extends_bind (extends_refl _) fun name => ?_
  split
  · exact extends_refl _
  · exact extends_bind (declareWith_extends h name context) fun _ => extends_refl _

end

theorem convertAt_extends (settings : Settings) :
    ∀ depth schema context, Extends (convertAt settings depth schema context)
      (convertAt settings (depth + 1) schema context) := by
  intro depth
  induction depth with
  | zero => exact fun _ _ => extends_throw _ _
  | succ depth ih =>
    intro schema context
    refine extends_bind ?_ fun _ => extends_refl _
    cases href : schema.ref with
    | some ref =>
      simp only [convertKind, href]
      exact convertRef_extends ih ref context
    | none =>
      rw [convertKind_eq_plan _ _ _ _ href, convertKind_eq_plan _ _ _ _ href]
      exact Plan.run_extends ih _ _

variable {depth : Nat}

/-- More depth changes nothing about a conversion that returns. -/
theorem convertAt_le {more : Nat} (h : depth ≤ more) (schema : Schema) (context : Context) :
    Extends (convertAt settings depth schema context) (convertAt settings more schema context) := by
  induction h with
  | refl => exact extends_refl _
  | step _ ih => exact fun houtcome => convertAt_extends settings _ schema context (ih houtcome)

theorem convertParts_le {more : Nat} (h : depth ≤ more) (parts : List (Schema × Context)) :
    Extends (convertParts (convertAt settings depth) parts)
      (convertParts (convertAt settings more) parts) :=
  extends_mapM (fun part => convertAt_le h part.1 part.2) parts

/-- Parts that return within two depths return the same. -/
theorem convertParts_unique {first second : Nat} {parts : List (Schema × Context)}
    {exprs others : List Expr} {reached last : Progress}
    (hfirst : outcome (convertParts (convertAt settings first) parts) progress =
      (.ok exprs, reached))
    (hsecond : outcome (convertParts (convertAt settings second) parts) progress =
      (.ok others, last)) : exprs = others ∧ reached = last := by
  have hmore := convertParts_le (Nat.le_max_left first second) parts hfirst
  have hsame := convertParts_le (Nat.le_max_right first second) parts hsecond
  rw [hmore] at hsame
  simpa using hsame

/-! ### What a conversion is made of -/

/-- The state when the warnings of a plan have been recorded. -/
def noted (settings : Settings) (schema : Schema) (context : Context) (progress : Progress) :
    Progress :=
  (outcome ((plan settings schema context).notes.forM fun note =>
    Convert.warn context.location note.1 note.2) progress).2

theorem outcome_notes (location : String) :
    ∀ (notes : List (String × String)) (progress : Progress),
      (outcome (notes.forM fun note => Convert.warn location note.1 note.2) progress).1 = .ok () := by
  intro notes
  induction notes with
  | nil => exact fun _ => rfl
  | cons note rest ih =>
    intro progress
    unfold List.forM
    exact ih _

theorem outcome_noted (settings : Settings) (schema : Schema) (context : Context)
    (progress : Progress) :
    outcome ((plan settings schema context).notes.forM fun note =>
      Convert.warn context.location note.1 note.2) progress =
        (.ok (), noted settings schema context progress) :=
  Prod.ext (outcome_notes _ _ _) rfl

/-- A conversion by a plan returns exactly if its plan is not stuck and its parts return. -/
theorem returns_plan_iff (href : schema.ref = none) (depth : Nat) :
    Returns (convertAt settings (depth + 1) schema context) progress ↔
      (plan settings schema context).stop = none ∧
        Returns (convertParts (convertAt settings depth) (plan settings schema context).parts)
          (noted settings schema context progress) := by
  rw [convertAt, returns_bind_pure, convertKind_eq_plan _ _ _ _ href, Plan.run,
    returns_bind_of_ok (outcome_noted settings schema context progress)]
  cases (plan settings schema context).stop with
  | none =>
    rw [returns_bind_pure]
    simp
  | some error =>
    simp only [reduceCtorEq, false_and, iff_false]
    intro h
    obtain ⟨exprs, reached, -, hthrow⟩ := returns_bind_iff.mp h
    exact not_returns_throw _ _ hthrow

variable {before : List (Schema × Context)} {convert : Converter}

theorem returns_parts_append_iff {after : List (Schema × Context)} :
    Returns (convertParts convert (before ++ after)) progress ↔
      ∃ exprs reached, outcome (convertParts convert before) progress = (.ok exprs, reached) ∧
        Returns (convertParts convert after) reached := by
  rw [convertParts_append, returns_bind_iff]
  simp only [returns_bind_pure]

variable {part : Schema × Context}

theorem returns_parts_cons_iff {rest : List (Schema × Context)} :
    Returns (convertParts convert (part :: rest)) progress ↔
      ∃ expr reached, outcome (convert part.1 part.2) progress = (.ok expr, reached) ∧
        Returns (convertParts convert rest) reached := by
  rw [convertParts, List.mapM_cons, returns_bind_iff]
  simp only [returns_bind_pure]
  rfl

theorem outcome_parts_snoc {exprs : List Expr} {expr : Expr} {reached last : Progress}
    (hbefore : outcome (convertParts convert before) progress = (.ok exprs, reached))
    (hpart : outcome (convert part.1 part.2) reached = (.ok expr, last)) :
    outcome (convertParts convert (before ++ [part])) progress = (.ok (exprs ++ [expr]), last) := by
  have hsingle : outcome (convertParts convert [part]) reached = (.ok [expr], last) :=
    outcome_mapM_cons_ok.mpr ⟨expr, [], last, rfl, hpart, rfl⟩
  rw [convertParts_append]
  exact outcome_bind_ok.mpr ⟨exprs, reached, hbefore,
    outcome_bind_ok.mpr ⟨[expr], last, hsingle, rfl⟩⟩

/-- Parts return if each of them returns from the state that the parts before it leave. -/
theorem returns_parts {parts : List (Schema × Context)}
    (h : ∀ before part after exprs reached, parts = before ++ part :: after →
      outcome (convertParts convert before) progress = (.ok exprs, reached) →
      Returns (convert part.1 part.2) reached) : Returns (convertParts convert parts) progress := by
  -- the induction is on the parts that remain; those before them have returned
  have hrest : ∀ after before exprs reached, parts = before ++ after →
      outcome (convertParts convert before) progress = (.ok exprs, reached) →
      Returns (convertParts convert after) reached := by
    intro after
    induction after with
    | nil => exact fun _ _ _ _ _ => returns_pure _ _
    | cons part rest ih =>
      intro before exprs reached hsplit hbefore
      obtain ⟨expr, last, hexpr⟩ := h before part rest exprs reached hsplit hbefore
      refine returns_parts_cons_iff.mpr ⟨expr, last, hexpr, ?_⟩
      exact ih (before ++ [part]) (exprs ++ [expr]) last (by simp [hsplit])
        (outcome_parts_snoc hbefore hexpr)
  exact hrest parts [] [] progress rfl rfl

/-- If a conversion by a plan returns, each part returns within a smaller depth, from the state
that the parts before it leave. -/
theorem exists_part_outcome (href : schema.ref = none)
    (h : Returns (convertAt settings (depth + 1) schema context) progress)
    {after : List (Schema × Context)}
    (hparts : (plan settings schema context).parts = before ++ part :: after) :
    ∃ exprs reached, outcome (convertParts (convertAt settings depth) before)
        (noted settings schema context progress) = (.ok exprs, reached) ∧
      Returns (convertAt settings depth part.1 part.2) reached := by
  obtain ⟨-, hreturns⟩ := (returns_plan_iff href depth).mp h
  rw [hparts] at hreturns
  obtain ⟨exprs, reached, hbefore, hafter⟩ := returns_parts_append_iff.mp hreturns
  obtain ⟨expr, last, hpart, -⟩ := returns_parts_cons_iff.mp hafter
  exact ⟨exprs, reached, hbefore, expr, last, hpart⟩

/-- The state when the conversion of a named schema begins. -/
def begun (progress : Progress) (name : String) : Progress :=
  { progress with
    records := progress.records ++ [⟨.debug, "Translating schema '" ++ name ++ "'"⟩] }

variable {name : String}

/-- A named schema that has not been declared is declared exactly if its conversion returns. -/
theorem returns_declareWith_iff {target : Schema}
    (hlookup : progress.declarations.lookup name = none)
    (hget : settings.registry.get? name = some target) :
    Returns (declareWith convert settings name context) progress ↔
      Returns (convert target (context.push name)) (begun progress name) := by
  have hlog : outcome (Convert.log .debug ("Translating schema '" ++ name ++ "'")) progress =
      (.ok (), begun progress name) := rfl
  rw [declareWith, returns_bind_of_ok (outcome_get progress), hlookup,
    returns_bind_of_ok hlog, hget]
  constructor
  · intro h
    obtain ⟨expr, reached, hexpr, -⟩ := returns_bind_iff.mp h
    exact ⟨expr, reached, hexpr⟩
  · intro h
    exact returns_bind h fun _ _ _ => returns_bind (returns_modify _ _) fun _ _ _ => returns_pure _ _

theorem returns_declareWith_of_lookup {expr : Expr}
    (hlookup : progress.declarations.lookup name = some expr) :
    Returns (declareWith convert settings name context) progress := by
  rw [declareWith, returns_bind_of_ok (outcome_get progress), hlookup]
  exact returns_pure _ _

theorem returns_allAliases {registry : Registry} {names : List String}
    (h : ∀ name ∈ names, name ∈ registry.names) (progress : Progress) :
    Returns (allAliases registry names) progress := by
  induction names with
  | nil => exact returns_pure _ _
  | cons name rest ih =>
    obtain ⟨schema, hschema⟩ := Registry.exists_get?_of_mem_names (h name List.mem_cons_self)
    simp only [allAliases, hschema]
    split
    · exact ih fun other hother => h other (List.mem_cons_of_mem _ hother)
    · exact returns_pure _ _

variable {ref : String}

theorem outcome_resolved {registry : Registry} (h : registry.resolve ref = .ok name)
    (progress : Progress) :
    outcome (Convert.ofCompile (registry.resolve ref)) progress = (.ok name, progress) := by
  rw [h]
  rfl

/-- A reference to a name on the stack returns. -/
theorem returns_convertRef_of_mem (hresolve : settings.registry.resolve ref = .ok name)
    (hname : name ∈ context.stack)
    (hstack : ∀ other ∈ context.stack, other ∈ settings.registry.names) :
    Returns (convertRef convert settings ref context) progress := by
  have hcycle : ∀ other ∈ context.stack.dropWhile (· ≠ name), other ∈ settings.registry.names :=
    fun other hother => hstack other ((List.dropWhile_sublist _).subset hother)
  rw [convertRef, returns_bind_of_ok (outcome_resolved hresolve progress),
    if_pos (by simpa using hname)]
  refine returns_bind (returns_allAliases hcycle progress) fun aliases checked _ => ?_
  split
  · exact returns_bind ⟨_, _, rfl⟩ fun _ _ _ => returns_pure _ _
  · exact returns_bind ⟨_, _, rfl⟩ fun _ _ _ => returns_pure _ _

/-- A reference to any other name returns exactly if its target can be declared. -/
theorem returns_convertRef_iff (hresolve : settings.registry.resolve ref = .ok name)
    (hname : name ∉ context.stack) :
    Returns (convertRef convert settings ref context) progress ↔
      Returns (declareWith convert settings name context) progress := by
  rw [convertRef, returns_bind_of_ok (outcome_resolved hresolve progress),
    if_neg (by simpa using hname), returns_bind_pure]

theorem returns_ref_iff (href : schema.ref = some ref) (depth : Nat) :
    Returns (convertAt settings (depth + 1) schema context) progress ↔
      Returns (convertRef (convertAt settings depth) settings ref context) progress := by
  rw [convertAt, returns_bind_pure]
  simp only [convertKind, href]

open List

open Relation (ReflTransGen TransGen)

variable {settings : Settings} {schema : Schema} {context : Context} {progress : Progress}

/-! ### Tasks -/

/-- A schema to convert, in a context and from a state. -/
structure Task where
  schema : Schema
  context : Context
  progress : Progress

/-- A task makes the conversion come to another one: to a part of its plan, once the parts before
it have returned, or to the target of a reference that is entered. -/
inductive Visits (settings : Settings) : Task → Task → Prop
  | part {task : Task} {before after : List (Schema × Context)} {part : Schema × Context}
      {depth : Nat} {exprs : List Expr} {reached : Progress} :
      task.schema.ref = none →
      (plan settings task.schema task.context).parts = before ++ part :: after →
      outcome (convertParts (convertAt settings depth) before)
        (noted settings task.schema task.context task.progress) = (.ok exprs, reached) →
      Visits settings task ⟨part.1, part.2, reached⟩
  | target {task : Task} {ref name : String} {target : Schema} :
      task.schema.ref = some ref → settings.registry.resolve ref = .ok name →
      name ∉ task.context.stack → task.progress.declarations.lookup name = none →
      settings.registry.get? name = some target →
      Visits settings task ⟨target, task.context.push name, begun task.progress name⟩

/-- Under a stack, the conversion of a schema opens another one as a part. -/
def Opens (settings : Settings) (stack : List String) (schema other : Schema) : Prop :=
  schema.ref = none ∧ other ∈ (plan settings schema { stack }).parts.map (·.1)

/-- The parts of a task lead back to its schema under the same stack. -/
def Task.Loops (settings : Settings) (task : Task) : Prop :=
  TransGen (Opens settings task.context.stack) task.schema task.schema

/-- A conversion comes to a task that loops. -/
def Circles (settings : Settings) (task : Task) : Prop :=
  ∃ other, ReflTransGen (Visits settings) task other ∧ other.Loops settings

theorem map_fst_objectParts (schema : Schema) (context : Context) :
    (objectParts schema context).map (·.1) =
      schema.properties.map (·.2) ++ schema.otherProperties.toList := by
  unfold objectParts otherParts Schema.otherProperties
  rcases schema.additional with _ | _ | others <;> simp

theorem map_fst_memberParts (keyword : String) (members : List (Schema × Nat))
    (context : Context) : (memberParts keyword members context).map (·.1) = members.map (·.1) := by
  simp [memberParts]

/-- Which schemas are opened depends on the stack alone. -/
theorem map_fst_plan_parts (settings : Settings) (schema : Schema) (context : Context) :
    (plan settings schema context).parts.map (·.1) =
      (plan settings schema { stack := context.stack }).parts.map (·.1) := by
  unfold plan
  split
  · unfold allOfPlan
    split
    · rfl
    · simp only [membersPlan, map_append, map_fst_memberParts]
      split <;> simp [map_flatMap, map_fst_objectParts]
  split
  · simp only [unionPlan, map_fst_memberParts]
  split
  · simp only [unionPlan, map_fst_memberParts]
  split
  · rfl
  split
  · rfl
  split
  · rfl
  split
  · rfl
  split
  · simp only [objectPlan, map_fst_objectParts]
  split
  · simp [arrayPlan]
  · rfl

/-! ### A task that loops never returns -/

variable {depth : Nat} {other : Schema}

/-- If a conversion returns, the schemas it opens return within a smaller depth. -/
theorem exists_returns_of_opens (h : Returns (convertAt settings depth schema context) progress)
    (hopens : Opens settings context.stack schema other) :
    ∃ smaller < depth, ∃ inner start, inner.stack = context.stack ∧
      Returns (convertAt settings smaller other inner) start := by
  obtain ⟨href, hother⟩ := hopens
  rw [← map_fst_plan_parts] at hother
  obtain ⟨part, hpart, rfl⟩ := mem_map.mp hother
  obtain ⟨before, after, hparts⟩ := append_of_mem hpart
  cases depth with
  | zero => exact absurd h (not_returns_throw _ _)
  | succ depth =>
    obtain ⟨exprs, reached, -, hreturns⟩ := exists_part_outcome href h hparts
    exact ⟨depth, Nat.lt_succ_self depth, part.2, reached,
      stack_of_mem_plan_parts settings schema context hpart, hreturns⟩

theorem exists_returns_of_transGen (h : Returns (convertAt settings depth schema context) progress)
    (hopens : TransGen (Opens settings context.stack) schema other) :
    ∃ smaller < depth, ∃ inner start, inner.stack = context.stack ∧
      Returns (convertAt settings smaller other inner) start := by
  induction hopens with
  | single hopens => exact exists_returns_of_opens h hopens
  | tail _ hopens ih =>
    obtain ⟨middle, hmiddle, inner, start, hstack, hreturns⟩ := ih
    obtain ⟨smaller, hsmaller, last, origin, hlast, hlastReturns⟩ :=
      exists_returns_of_opens hreturns (hstack ▸ hopens)
    exact ⟨smaller, hsmaller.trans hmiddle, last, origin, hlast.trans hstack, hlastReturns⟩

/-- A schema that leads back to itself under a stack returns within no depth. -/
theorem not_returns_of_loops {stack : List String}
    (hloops : TransGen (Opens settings stack) schema schema) :
    ∀ depth context progress, context.stack = stack →
      ¬ Returns (convertAt settings depth schema context) progress := by
  intro depth
  induction depth using Nat.strongRecOn with
  | ind depth ih =>
    rintro context progress rfl h
    obtain ⟨smaller, hsmaller, inner, start, hstack, hreturns⟩ :=
      exists_returns_of_transGen h hloops
    exact ih smaller hsmaller inner start hstack hreturns

variable {task : Task}

/-- If a task returns, so do those it makes the conversion come to. -/
theorem returns_of_visits {other : Task}
    (h : Returns (convertAt settings depth task.schema task.context) task.progress)
    (hvisits : Visits settings task other) :
    ∃ smaller, Returns (convertAt settings smaller other.schema other.context) other.progress := by
  cases depth with
  | zero => exact absurd h (not_returns_throw _ _)
  | succ depth =>
    cases hvisits with
    | part href hparts hbefore =>
      obtain ⟨exprs, reached, hsame, hreturns⟩ := exists_part_outcome href h hparts
      obtain ⟨-, rfl⟩ := convertParts_unique hsame hbefore
      exact ⟨depth, hreturns⟩
    | target href hresolve hname hlookup hget =>
      rw [returns_ref_iff href, returns_convertRef_iff hresolve hname,
        returns_declareWith_iff hlookup hget] at h
      exact ⟨depth, h⟩

theorem returns_of_reaches {other : Task} (hreaches : ReflTransGen (Visits settings) task other)
    (h : Returns (convertAt settings depth task.schema task.context) task.progress) :
    ∃ smaller, Returns (convertAt settings smaller other.schema other.context) other.progress := by
  induction hreaches with
  | refl => exact ⟨depth, h⟩
  | tail _ hvisits ih =>
    obtain ⟨smaller, hreturns⟩ := ih
    exact returns_of_visits hreturns hvisits

/-- A conversion that comes to a task that loops returns within no depth. -/
theorem not_returns_of_circles (h : Circles settings task) (depth : Nat) :
    ¬ Returns (convertAt settings depth task.schema task.context) task.progress := by
  obtain ⟨other, hreaches, hloops⟩ := h
  intro hreturns
  obtain ⟨smaller, hother⟩ := returns_of_reaches hreaches hreturns
  exact not_returns_of_loops hloops smaller other.context other.progress rfl hother

/-! ### References that resolve -/

/-- All references that a conversion of the schema can come to name a registered schema. -/
def Resolves (registry : Registry) (schema : Schema) : Prop :=
  ∀ other, ReflTransGen (Uses registry) schema other →
    ∀ ref, other.ref = some ref → ∃ name, registry.resolve ref = .ok name

section Resolves

variable {registry : Registry} {stack : List String}

theorem Resolves.of_uses (h : Resolves registry schema)
    (huses : ReflTransGen (Uses registry) schema other) : Resolves registry other :=
  EveryRef.of_uses h huses

theorem Resolves.sibling {member : Schema} (h : Resolves registry schema)
    (hmember : siblingMember? schema = some member) : Resolves registry member :=
  EveryRef.sibling h hmember

theorem Resolves.of_mem_plan_parts (h : Resolves settings.registry schema)
    {part : Schema × Context} (hpart : part ∈ (plan settings schema context).parts) :
    Resolves settings.registry part.1 :=
  EveryRef.of_mem_plan_parts h hpart

theorem plainObject?_ne_error :
    ∀ {fuel : Nat} {followed : List String} {member : Schema} {error : CompileError},
      Resolves registry member → plainObject? registry stack fuel followed member ≠ .error error := by
  intro fuel
  induction fuel with
  | zero => intro followed member error _ h; cases h
  | succ fuel ih =>
    intro followed member error hresolves h
    unfold plainObject? at h
    cases href : member.ref with
    | none => simp [href] at h
    | some ref =>
      obtain ⟨name, hname⟩ := hresolves member .refl ref href
      simp only [href, hname, bind, Except.bind] at h
      split at h
      · cases h
      · split at h
        · rename_i schema hschema
          exact ih (hresolves.of_uses (.single (.inr ⟨ref, name, href, hname, hschema⟩))) h
        · cases h

theorem sortMembers_stop_eq_none {members : List (Schema × Nat)}
    (h : ∀ member ∈ members, Resolves registry member.1) :
    (sortMembers registry stack members).stop = none := by
  induction members with
  | nil => rfl
  | cons member rest ih =>
    have hrest := ih fun other hother => h other (mem_cons_of_mem _ hother)
    unfold sortMembers
    split
    · rename_i error herror
      exact absurd herror (plainObject?_ne_error (h member mem_cons_self))
    · exact hrest
    · exact hrest

/-- A conversion is not stuck if all references resolve. -/
theorem Resolves.plan_stop (h : Resolves settings.registry schema) :
    (plan settings schema context).stop = none := by
  have hplan := planned settings schema context
  generalize plan settings schema context = current at hplan ⊢
  cases hplan with
  | @members allOf hallOf =>
    refine sortMembers_stop_eq_none fun member hmember => ?_
    rcases mem_append.mp (fst_mem_of_mem_zipIdx hmember) with hlisted | hsibling
    · refine h.of_uses (.single (.inl (Schema.mem_children.mpr ?_)))
      exact .inr (.inr (.inr (.inl ⟨allOf, hallOf, hlisted⟩)))
    · exact h.sibling (Option.mem_toList.mp hsibling)
  | _ => rfl

end Resolves

end OpenApiClient.Conversion
