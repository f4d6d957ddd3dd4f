import OpenApiClient.Proofs.Conversion.Laws

/-!
# Two conversions side by side

Two conversions with the same named schemas and different configurations take the same steps. What
they look at on their way, names, references and the shape of schemas, is the same for both, so they
declare the same names in the same order, record the same warnings and fail alike. Only the
expressions may differ.

How they differ is left open here: `good` relates the expressions of a schema under a stack, and
`related` those of a declared name. `SideBySide` lists what has to be shown of them, which is about
single steps only, and `SideBySide.convertAt_lockstep` gives it for all conversions.
-/

namespace OpenApiClient

open List

/-- Both fail with the same failure, or both return, and the values go together. -/
inductive Alike {α β : Type} (good : α → β → Prop) : Except Failure α → Except Failure β → Prop
  | ok {first : α} {second : β} : good first second → Alike good (.ok first) (.ok second)
  | error (failure : Failure) : Alike good (.error failure) (.error failure)

namespace Alike

variable {α β γ δ : Type}

theorem bind {good : α → β → Prop} {better : γ → δ → Prop} {first : Except Failure α}
    {second : Except Failure β} {next : α → Except Failure γ} {other : β → Except Failure δ}
    (h : Alike good first second)
    (hnext : ∀ value twin, good value twin → Alike better (next value) (other twin)) :
    Alike better (first >>= next) (second >>= other) := by
  cases h with
  | ok hgood => exact hnext _ _ hgood
  | error failure => exact .error failure

theorem imp {good better : α → β → Prop} {first : Except Failure α} {second : Except Failure β}
    (h : Alike good first second) (hbetter : ∀ value twin, good value twin → better value twin) :
    Alike better first second := by
  cases h with
  | ok hgood => exact .ok (hbetter _ _ hgood)
  | error failure => exact .error failure

theorem refl (result : Except Failure α) :
    Alike (fun value twin => value = twin ∧ result = .ok value) result result := by
  cases result with
  | ok value => exact .ok ⟨rfl, rfl⟩
  | error failure => exact .error failure

/-- If one value is a function of the other, so is one result. -/
theorem map_eq {change : α → β} {first : Except Failure α} {second : Except Failure β}
    (h : Alike (fun value twin => twin = change value) first second) : second = first.map change := by
  cases h with
  | ok hvalue => rw [hvalue]; rfl
  | error failure => rfl

end Alike

/-! ### Lists item by item -/

/-- An item with two values for it. -/
structure Twin (ι α : Type) where
  item : ι
  first : α
  second : α

/-- Two lists of values for the items of a list, which go together item by item. -/
def Twinned {ι α : Type} (good : ι → α → α → Prop) (items : List ι) (firsts seconds : List α) :
    Prop :=
  ∃ twins : List (Twin ι α), twins.map (·.item) = items ∧ twins.map (·.first) = firsts ∧
    twins.map (·.second) = seconds ∧ ∀ twin ∈ twins, good twin.item twin.first twin.second

namespace Twinned

variable {ι α : Type} {good : ι → α → α → Prop}

theorem nil : Twinned good [] [] [] := ⟨[], rfl, rfl, rfl, by simp⟩

theorem cons {item : ι} {items : List ι} {first second : α} {firsts seconds : List α}
    (hhead : good item first second) (htail : Twinned good items firsts seconds) :
    Twinned good (item :: items) (first :: firsts) (second :: seconds) := by
  obtain ⟨twins, rfl, rfl, rfl, htwins⟩ := htail
  exact ⟨⟨item, first, second⟩ :: twins, rfl, rfl, rfl, forall_mem_cons.mpr ⟨hhead, htwins⟩⟩

theorem append {items others : List ι} {firsts seconds first second : List α}
    (h : Twinned good items firsts seconds) (hmore : Twinned good others first second) :
    Twinned good (items ++ others) (firsts ++ first) (seconds ++ second) := by
  obtain ⟨twins, rfl, rfl, rfl, htwins⟩ := h
  obtain ⟨more, rfl, rfl, rfl, hmore⟩ := hmore
  refine ⟨twins ++ more, by simp, by simp, by simp, fun twin htwin => ?_⟩
  rcases mem_append.mp htwin with htwin | htwin
  · exact htwins twin htwin
  · exact hmore twin htwin

/-- The values for two lists of items are those for the first and those for the second. -/
theorem split {items others : List ι} {firsts seconds : List α}
    (h : Twinned good (items ++ others) firsts seconds) :
    Twinned good items (firsts.take items.length) (seconds.take items.length) ∧
      Twinned good others (firsts.drop items.length) (seconds.drop items.length) := by
  obtain ⟨twins, hitems, rfl, rfl, htwins⟩ := h
  refine ⟨⟨twins.take items.length, ?_, map_take, map_take, fun twin htwin => ?_⟩,
    ⟨twins.drop items.length, ?_, map_drop, map_drop, fun twin htwin => ?_⟩⟩
  · rw [map_take, hitems, take_left]
  · exact htwins twin (mem_of_mem_take htwin)
  · rw [map_drop, hitems, drop_left]
  · exact htwins twin (mem_of_mem_drop htwin)

theorem imp {better : ι → α → α → Prop} {items : List ι} {firsts seconds : List α}
    (h : Twinned good items firsts seconds)
    (hbetter : ∀ item ∈ items, ∀ first second, good item first second → better item first second) :
    Twinned better items firsts seconds := by
  obtain ⟨twins, rfl, rfl, rfl, htwins⟩ := h
  refine ⟨twins, rfl, rfl, rfl, fun twin htwin => ?_⟩
  exact hbetter _ (mem_map_of_mem htwin) _ _ (htwins twin htwin)

theorem map_item {κ : Type} {view : ι → κ} {good : κ → α → α → Prop} {items : List ι}
    {firsts seconds : List α} (h : Twinned (fun item => good (view item)) items firsts seconds) :
    Twinned good (items.map view) firsts seconds := by
  obtain ⟨twins, rfl, rfl, rfl, htwins⟩ := h
  refine ⟨twins.map fun twin => ⟨view twin.item, twin.first, twin.second⟩, by simp, by simp, by simp,
    fun twin htwin => ?_⟩
  obtain ⟨inner, hinner, rfl⟩ := mem_map.mp htwin
  exact htwins inner hinner

/-- Values for items seen in some way are values for the items. -/
theorem of_map {κ : Type} {view : ι → κ} {good : κ → α → α → Prop} {items : List ι}
    {firsts seconds : List α} (h : Twinned good (items.map view) firsts seconds) :
    Twinned (fun item => good (view item)) items firsts seconds := by
  obtain ⟨twins, hitems, rfl, rfl, htwins⟩ := h
  induction items generalizing twins with
  | nil =>
    obtain rfl : twins = [] := map_eq_nil_iff.mp hitems
    exact .nil
  | cons item rest ih =>
    obtain ⟨twin, others, rfl, hitem, hothers⟩ := map_eq_cons_iff.mp hitems
    rw [forall_mem_cons] at htwins
    exact .cons (hitem ▸ htwins.1) (ih others hothers htwins.2)

/-- If one value of each pair is a function of the other, so is one list. -/
theorem map_eq {change : α → α} {items : List ι} {firsts seconds : List α}
    (h : Twinned good items firsts seconds)
    (hchange : ∀ item first second, good item first second → second = change first) :
    seconds = firsts.map change := by
  obtain ⟨twins, rfl, rfl, rfl, htwins⟩ := h
  rw [map_map]
  exact map_congr_left fun twin htwin => hchange _ _ _ (htwins twin htwin)

end Twinned

namespace Conversion

/-! ### Actions in lockstep -/

/-- Two states with the same warnings and with declarations of the same names, whose expressions are
related. -/
structure Paired (related : String → Expr → Expr → Prop) (first second : Progress) : Prop where
  declarations : List.Forall₂ (fun one other => one.1 = other.1 ∧ related one.1 one.2 other.2)
    first.declarations second.declarations
  warnings : first.warnings = second.warnings

/-- What an action ends with: a value and a state, or a failure. -/
def ending {α : Type} (action : Convert α) (progress : Progress) : Except Failure (α × Progress) :=
  match outcome action progress with
  | (.ok value, reached) => .ok (value, reached)
  | (.error failure, _) => .error failure

theorem ending_bind {α β : Type} (action : Convert α) (next : α → Convert β) (progress : Progress) :
    ending (action >>= next) progress =
      (ending action progress >>= fun reached => ending (next reached.1) reached.2) := by
  unfold ending
  rw [outcome_bind]
  rcases outcome action progress with ⟨failure | value, reached⟩ <;> rfl

variable {related : String → Expr → Expr → Prop} {α β γ δ : Type}

/-- From states that are paired, two actions fail alike, or both return values that go together and
leave states that are paired. -/
def Lockstep (related : String → Expr → Expr → Prop) (first : Convert α) (second : Convert β)
    (good : α → β → Prop) : Prop :=
  ∀ one other, Paired related one other →
    Alike (fun reached last => good reached.1 last.1 ∧ Paired related reached.2 last.2)
      (ending first one) (ending second other)

theorem lockstep_pure {good : α → β → Prop} {first : α} {second : β} (h : good first second) :
    Lockstep related (pure first) (pure second) good :=
  fun _ _ hpaired => .ok ⟨h, hpaired⟩

theorem lockstep_throw {good : α → β → Prop} (failure : Failure) :
    Lockstep related (throw failure) (throw failure) good :=
  fun _ _ _ => .error failure

theorem lockstep_bind {good : α → β → Prop} {better : γ → δ → Prop} {first : Convert α}
    {second : Convert β} {next : α → Convert γ} {other : β → Convert δ}
    (h : Lockstep related first second good)
    (hnext : ∀ value twin, good value twin → Lockstep related (next value) (other twin) better) :
    Lockstep related (first >>= next) (second >>= other) better := by
  intro one two hpaired
  rw [ending_bind, ending_bind]
  refine (h one two hpaired).bind fun reached last hreached => ?_
  exact hnext _ _ hreached.1 _ _ hreached.2

theorem lockstep_get {good : α → β → Prop} {next : Progress → Convert α}
    {other : Progress → Convert β}
    (h : ∀ one two, Paired related one two → Lockstep related (next one) (other two) good) :
    Lockstep related (get >>= next) (get >>= other) good := by
  intro one two hpaired
  rw [ending_bind, ending_bind]
  exact h one two hpaired one two hpaired

theorem lockstep_log (level : Level) (text : String) :
    Lockstep related (Convert.log level text) (Convert.log level text) (fun _ _ => True) :=
  fun _ _ hpaired => .ok ⟨trivial, hpaired.declarations, hpaired.warnings⟩

theorem lockstep_warn (location keyword note : String) :
    Lockstep related (Convert.warn location keyword note) (Convert.warn location keyword note)
      (fun _ _ => True) := by
  intro one two hpaired
  exact .ok ⟨trivial, hpaired.declarations, congrArg (· ++ _) hpaired.warnings⟩

theorem lockstep_add {name : String} {first second : Expr} (h : related name first second) :
    Lockstep related
      (modify fun progress =>
        { progress with declarations := progress.declarations ++ [(name, first)] })
      (modify fun progress =>
        { progress with declarations := progress.declarations ++ [(name, second)] })
      (fun _ _ => True) := by
  intro one two hpaired
  refine .ok ⟨trivial, ?_, hpaired.warnings⟩
  exact rel_append hpaired.declarations (.cons ⟨rfl, h⟩ .nil)

theorem lockstep_ofCompile (result : Except CompileError α) :
    Lockstep related (Convert.ofCompile result) (Convert.ofCompile result)
      (fun value twin => value = twin ∧ result = .ok value) := by
  cases result with
  | ok value => exact lockstep_pure ⟨rfl, rfl⟩
  | error error => exact lockstep_throw _

theorem lockstep_mapM {ι : Type} {act other : ι → Convert α} {good : ι → α → α → Prop}
    {items : List ι} (h : ∀ item ∈ items, Lockstep related (act item) (other item) (good item)) :
    Lockstep related (items.mapM act) (items.mapM other) (Twinned good items) := by
  induction items with
  | nil => exact lockstep_pure .nil
  | cons item rest ih =>
    rw [forall_mem_cons] at h
    rw [mapM_cons, mapM_cons]
    refine lockstep_bind h.1 fun value twin hvalue => ?_
    refine lockstep_bind (ih h.2) fun values twins hvalues => ?_
    exact lockstep_pure (.cons hvalue hvalues)

theorem lockstep_forM {ι : Type} {act other : ι → Convert Unit} {items : List ι}
    (h : ∀ item ∈ items, Lockstep related (act item) (other item) (fun _ _ => True)) :
    Lockstep related (items.forM act) (items.forM other) (fun _ _ => True) := by
  induction items with
  | nil => exact lockstep_pure trivial
  | cons item rest ih =>
    rw [forall_mem_cons] at h
    exact lockstep_bind h.1 fun _ _ _ => ih h.2

theorem lockstep_allAliases (registry : Registry) (names : List String) :
    Lockstep related (allAliases registry names) (allAliases registry names) Eq := by
  induction names with
  | nil => exact lockstep_pure rfl
  | cons name rest ih =>
    unfold allAliases
    split
    · exact lockstep_throw _
    · split
      · exact ih
      · exact lockstep_pure rfl

/-- The declarations of a name are related, if there are any. -/
theorem Paired.lookup {first second : Progress} (h : Paired related first second) (name : String) :
    (first.declarations.lookup name = none ∧ second.declarations.lookup name = none) ∨
      ∃ one other, first.declarations.lookup name = some one ∧
        second.declarations.lookup name = some other ∧ related name one other := by
  have hrel := Named.rel_lookup name h.declarations
  generalize first.declarations.lookup name = one, second.declarations.lookup name = other at hrel ⊢
  cases hrel with
  | none => exact .inl ⟨rfl, rfl⟩
  | some hrelated => exact .inr ⟨_, _, rfl, rfl, hrelated⟩

/-! ### Conversions in lockstep -/

/-- The plans of a schema for two configurations differ in what is built only. -/
theorem plan_eq_of_registry {first second : Settings} (h : first.registry = second.registry)
    (schema : Schema) (context : Context) :
    plan second schema context =
      { plan first schema context with build := (plan second schema context).build } := by
  unfold plan allOfPlan
  rw [h]
  repeat' split
  all_goals rfl

/-- What two conversions side by side rely on. `good` relates the expressions of a schema under a
stack, `related` those of a name. -/
structure SideBySide (first second : Settings)
    (good : List String → Schema → Expr → Expr → Prop) (related : String → Expr → Expr → Prop) :
    Prop where
  registry : first.registry = second.registry
  build : ∀ {schema : Schema} {context : Context} {firsts seconds : List Expr}, schema.ref = none →
    (plan first schema context).stop = none →
    Twinned (fun part => good context.stack part.1) (plan first schema context).parts firsts
      seconds →
    good context.stack schema
      (finished first schema context.optional ((plan first schema context).build firsts))
      (finished second schema context.optional ((plan second schema context).build seconds))
  reference : ∀ {schema : Schema} {stack : List String} {expr : Expr} (optional : Bool),
    schema.ref.isSome = true →
    (∃ note, expr = .unknown note) ∨ (∃ name, expr = .lazyRef name ∨ expr = .namedRef name) →
    good stack schema (finished first schema optional expr) (finished second schema optional expr)
  declared : ∀ {name : String} {target : Schema} {stack : List String} {one other : Expr},
    first.registry.get? name = some target → good (stack ++ [name]) target one other →
    related name one other

namespace SideBySide

variable {first second : Settings} {good : List String → Schema → Expr → Expr → Prop}

section

variable (sides : SideBySide first second good related)

include sides

theorem declareWith_lockstep {convert other : Converter}
    (h : ∀ schema context, Lockstep related (convert schema context) (other schema context)
      (good context.stack schema)) (name : String) (context : Context) :
    Lockstep related (declareWith convert first name context)
      (declareWith other second name context) (fun _ _ => True) := by
  unfold declareWith
  rw [← sides.registry]
  refine lockstep_get fun one two hpaired => ?_
  -- a name is declared in both states or in neither
  rcases hpaired.lookup name with ⟨hone, htwo⟩ | ⟨expr, twin, hone, htwo, -⟩
  · rw [hone, htwo]
    refine lockstep_bind (lockstep_log _ _) fun _ _ _ => ?_
    cases hget : first.registry.get? name with
    | none => exact lockstep_throw _
    | some schema =>
      refine lockstep_bind (h schema (context.push name)) fun expr twin hexpr => ?_
      refine lockstep_bind (lockstep_add (sides.declared hget hexpr)) fun _ _ _ => ?_
      exact lockstep_pure trivial
  · rw [hone, htwo]
    exact lockstep_pure trivial

theorem convertRef_lockstep {convert other : Converter}
    (h : ∀ schema context, Lockstep related (convert schema context) (other schema context)
      (good context.stack schema)) {schema : Schema} {ref : String} (href : schema.ref = some ref)
    (context : Context) :
    Lockstep related (convertRef convert first ref context) (convertRef other second ref context)
      (fun expr twin => good context.stack schema (finished first schema context.optional expr)
        (finished second schema context.optional twin)) := by
  have hreference : ∀ expr, (∃ note, expr = .unknown note) ∨
      (∃ name, expr = .lazyRef name ∨ expr = .namedRef name) → good context.stack schema
        (finished first schema context.optional expr)
        (finished second schema context.optional expr) :=
    fun expr => sides.reference context.optional (Option.isSome_of_mem href)
  unfold convertRef
  rw [← sides.registry]
  refine lockstep_bind (lockstep_ofCompile _) ?_
  rintro name _ ⟨rfl, -⟩
  split
  · refine lockstep_bind (lockstep_allAliases _ _) ?_
    rintro aliases _ rfl
    split
    · refine lockstep_bind (lockstep_warn _ _ _) fun _ _ _ => ?_
      exact lockstep_pure (hreference _ (.inl ⟨_, rfl⟩))
    · refine lockstep_bind (lockstep_log _ _) fun _ _ _ => ?_
      exact lockstep_pure (hreference _ (.inr ⟨name, .inl rfl⟩))
  · refine lockstep_bind (sides.declareWith_lockstep h name context) fun _ _ _ => ?_
    exact lockstep_pure (hreference _ (.inr ⟨name, .inr rfl⟩))

/-- Two conversions of a schema go side by side. -/
theorem convertAt_lockstep :
    ∀ depth schema context, Lockstep related (convertAt first depth schema context)
      (convertAt second depth schema context) (good context.stack schema) := by
  intro depth
  induction depth with
  | zero => exact fun _ _ => lockstep_throw _
  | succ depth ih =>
    intro schema context
    suffices hkind : Lockstep related
        (convertKind (convertAt first depth) first schema context)
        (convertKind (convertAt second depth) second schema context)
        (fun expr twin => good context.stack schema
          (finished first schema context.optional expr)
          (finished second schema context.optional twin)) from
      lockstep_bind hkind fun _ _ hexpr => lockstep_pure hexpr
    cases href : schema.ref with
    | some ref =>
      simp only [convertKind, href]
      exact sides.convertRef_lockstep ih href context
    | none =>
      -- both plans have the same notes, parts and stop, only what they build may differ
      rw [convertKind_eq_plan _ _ _ _ href, convertKind_eq_plan _ _ _ _ href,
        plan_eq_of_registry sides.registry]
      refine lockstep_bind (lockstep_forM fun _ _ => lockstep_warn _ _ _) fun _ _ _ => ?_
      refine lockstep_bind (lockstep_mapM fun part _ => ih part.1 part.2) fun exprs twins h => ?_
      dsimp only
      cases hstop : (plan first schema context).stop with
      | some error => exact lockstep_throw _
      | none =>
        refine lockstep_pure (sides.build href hstop (h.imp fun part hpart one two hgood => ?_))
        rwa [stack_of_mem_plan_parts _ _ _ hpart] at hgood

theorem convert_lockstep (schema : Schema) (context : Context) :
    Lockstep related (convert first schema context) (convert second schema context)
      (good context.stack schema) := by
  unfold convert
  rw [← sides.registry]
  exact sides.convertAt_lockstep _ schema context

theorem declare_lockstep (name : String) :
    Lockstep related (declare first name {}) (declare second name {}) (fun _ _ => True) := by
  unfold declare
  rw [← sides.registry]
  exact sides.declareWith_lockstep (sides.convertAt_lockstep _) name {}

end

end SideBySide

end Conversion

end OpenApiClient
