import Mathlib.Data.List.Perm.Subperm
import OpenApiClient.Proofs.Conversion.Circles
import OpenApiClient.Proofs.Conversion.Laws

/-!
# When a conversion never ends

A conversion all of whose references resolve returns an expression if no task it comes to loops, and
otherwise never ends (`conversion_returns_iff`).

That it returns is shown within the depth that is given to it. Under one stack, the schemas on the
way to a task are distinct if none of them leads back to itself, and they are all among the
fragments that conversions can come to (`convertible`). Every name that is entered makes the stack
longer, and no name is on it twice. So the depth is at most the number of names times the number of
these fragments, and a little more.
-/

namespace OpenApiClient.Conversion

open List
open Relation (ReflTransGen TransGen)

variable {settings : Settings} {registry : Registry} {roots : List Schema}

/-! ### The schemas that conversions come to -/

/-- The fragments of the given schemas and of all registered ones. -/
def basis (registry : Registry) (roots : List Schema) : List Schema :=
  roots.flatMap Schema.fragments ++ registry.schemas.flatMap (·.2.fragments)

/-- The schemas that conversions of the given ones can come to: fragments, and the objects that are
described beside an `allOf`. -/
def convertible (registry : Registry) (roots : List Schema) : List Schema :=
  basis registry roots ++ (basis registry roots).filterMap siblingMember?

variable {schema : Schema}

theorem mem_basis :
    schema ∈ basis registry roots ↔
      (∃ root ∈ roots, schema ∈ root.fragments) ∨
        ∃ entry ∈ registry.schemas, schema ∈ entry.2.fragments := by
  simp [basis]

theorem mem_basis_of_uses {other : Schema} (h : schema ∈ basis registry roots)
    (huses : ReflTransGen (Uses registry) schema other) : other ∈ basis registry roots := by
  induction huses with
  | refl => exact h
  | tail _ huses ih =>
    rw [mem_basis] at ih ⊢
    rcases huses with hchild | ⟨ref, name, -, -, hget⟩
    · rcases ih with ⟨root, hroot, hfragment⟩ | ⟨entry, hentry, hfragment⟩
      · exact .inl ⟨root, hroot, Schema.mem_fragments_of_mem_children hfragment hchild⟩
      · exact .inr ⟨entry, hentry, Schema.mem_fragments_of_mem_children hfragment hchild⟩
    · exact .inr ⟨_, Registry.mem_schemas_of_get? hget, Schema.self_mem_fragments _⟩

/-- What a conversion goes on with is among the schemas that conversions can come to. -/
theorem mem_convertible_of_mem_parts {context : Context} {part : Schema × Context}
    (h : schema ∈ convertible settings.registry roots)
    (hpart : part ∈ (plan settings schema context).parts) :
    part.1 ∈ convertible settings.registry roots := by
  rcases mem_append.mp h with hbasis | hsibling
  · rcases mem_plan_parts hpart with huses | ⟨-, hmember⟩
    · exact mem_append_left _ (mem_basis_of_uses hbasis huses.to_reflTransGen)
    · exact mem_append_right _ (mem_filterMap.mpr ⟨schema, hbasis, hmember⟩)
  · -- an object beside an `allOf` has no `allOf` itself, and no reference
    obtain ⟨whole, hwhole, hmember⟩ := mem_filterMap.mp hsibling
    rcases mem_plan_parts hpart with huses | ⟨hallOf, -⟩
    · obtain ⟨child, hchild | ⟨ref, name, href, -⟩, hrest⟩ := TransGen.head'_iff.mp huses
      · have hchild : Uses settings.registry whole child :=
          .inl (children_siblingMember? hmember hchild)
        exact mem_append_left _ (mem_basis_of_uses hwhole (.head hchild hrest))
      · rw [ref_siblingMember? hmember] at href
        cases href
    · rw [allOf_siblingMember? hmember] at hallOf
      cases hallOf

variable {name : String}

theorem mem_convertible_of_get? {target : Schema} (h : registry.get? name = some target) :
    target ∈ convertible registry roots :=
  mem_append_left _ (mem_basis.mpr
    (.inr ⟨_, Registry.mem_schemas_of_get? h, Schema.self_mem_fragments _⟩))

theorem length_convertible_le (registry : Registry) (roots : List Schema) :
    (convertible registry roots).length ≤
      2 * (propertiesSize registry.schemas + listSize roots) := by
  have hroots : (roots.flatMap Schema.fragments).length ≤ listSize roots := by
    rw [length_flatMap, Schema.listSize_eq]
    exact sum_le_sum fun root _ => Schema.length_fragments_le root
  have hregistry : (registry.schemas.flatMap (·.2.fragments)).length ≤
      propertiesSize registry.schemas := by
    rw [length_flatMap, Schema.propertiesSize_eq]
    exact sum_le_sum fun entry _ => Schema.length_fragments_le entry.2
  have hsiblings := length_filterMap_le siblingMember? (basis registry roots)
  have hbasis : (basis registry roots).length ≤
      propertiesSize registry.schemas + listSize roots := by
    rw [basis, length_append]
    omega
  rw [convertible, length_append]
  omega

/-! ### The way to a task -/

/-- What is true on the way to a task: the references resolve, the stack holds registered names,
each once, the task does not come to a loop, and the schemas opened since the last name was entered
are distinct, can be come to, and lead to the task. -/
structure Way (settings : Settings) (roots : List Schema) (task : Task) (path : List Schema) :
    Prop where
  resolves : Resolves settings.registry task.schema
  ends : ¬ Circles settings task
  stack_nodup : task.context.stack.Nodup
  stack_known : ∀ name ∈ task.context.stack, name ∈ settings.registry.names
  known : task.schema ∈ convertible settings.registry roots
  path_nodup : path.Nodup
  path_known : ∀ schema ∈ path, schema ∈ convertible settings.registry roots
  leads : ∀ schema ∈ path, TransGen (Opens settings task.context.stack) schema task.schema

namespace Way

variable {task : Task} {path : List Schema}

theorem not_circles_of_visits {other : Task} (h : ¬ Circles settings task)
    (hvisits : Visits settings task other) : ¬ Circles settings other :=
  fun ⟨last, hreaches, hloops⟩ => h ⟨last, .head hvisits hreaches, hloops⟩

section

variable (way : Way settings roots task path)

include way

/-- The schema of a task has not been opened on the way to it. -/
theorem not_mem_path : task.schema ∉ path :=
  fun hmem => way.ends ⟨task, .refl, way.leads _ hmem⟩

theorem length_path_lt : path.length < (convertible settings.registry roots).length := by
  have hnodup : (task.schema :: path).Nodup := nodup_cons.mpr ⟨way.not_mem_path, way.path_nodup⟩
  have hknown : ∀ schema ∈ task.schema :: path, schema ∈ convertible settings.registry roots :=
    forall_mem_cons.mpr ⟨way.known, way.path_known⟩
  exact (hnodup.subperm hknown).length_le

/-- The way goes on to a part. -/
theorem part (href : task.schema.ref = none) {part : Schema × Context}
    (hpart : part ∈ (plan settings task.schema task.context).parts) {reached : Progress}
    (hvisits : Visits settings task ⟨part.1, part.2, reached⟩) :
    Way settings roots ⟨part.1, part.2, reached⟩ (task.schema :: path) := by
  have hstack : part.2.stack = task.context.stack :=
    stack_of_mem_plan_parts settings task.schema task.context hpart
  have hopens : Opens settings task.context.stack task.schema part.1 := by
    refine ⟨href, ?_⟩
    rw [← map_fst_plan_parts]
    exact mem_map_of_mem hpart
  refine ⟨way.resolves.of_mem_plan_parts hpart, not_circles_of_visits way.ends hvisits, ?_, ?_,
    mem_convertible_of_mem_parts way.known hpart,
    nodup_cons.mpr ⟨way.not_mem_path, way.path_nodup⟩,
    forall_mem_cons.mpr ⟨way.known, way.path_known⟩, ?_⟩
  · exact hstack ▸ way.stack_nodup
  · exact hstack ▸ way.stack_known
  · intro schema hschema
    simp only [hstack]
    rcases mem_cons.mp hschema with rfl | hschema
    · exact .single hopens
    · exact (way.leads schema hschema).tail hopens

/-- The way goes on to the target of a reference that is entered. -/
theorem target {ref : String} {target : Schema} (href : task.schema.ref = some ref)
    (hresolve : settings.registry.resolve ref = .ok name) (hname : name ∉ task.context.stack)
    (hlookup : task.progress.declarations.lookup name = none)
    (hget : settings.registry.get? name = some target) :
    Way settings roots ⟨target, task.context.push name, begun task.progress name⟩ [] := by
  refine ⟨way.resolves.of_uses (.single (.inr ⟨ref, name, href, hresolve, hget⟩)),
    not_circles_of_visits way.ends (.target href hresolve hname hlookup hget), ?_, ?_,
    mem_convertible_of_get? hget, nodup_nil, by simp, by simp⟩
  · exact way.stack_nodup.append (nodup_singleton name) (by simpa using hname)
  · intro other hother
    rcases mem_append.mp hother with hother | hother
    · exact way.stack_known other hother
    · rw [mem_singleton.mp hother]
      exact Registry.mem_names_of_get? hget

/-- A name that can be entered makes the stack longer, but not longer than there are names. -/
theorem length_stack_lt (hname : name ∉ task.context.stack)
    (hknown : name ∈ settings.registry.names) :
    task.context.stack.length < settings.registry.names.length := by
  have hnodup : (name :: task.context.stack).Nodup := nodup_cons.mpr ⟨hname, way.stack_nodup⟩
  have hall : ∀ other ∈ name :: task.context.stack, other ∈ settings.registry.names :=
    forall_mem_cons.mpr ⟨hknown, way.stack_known⟩
  exact (hnodup.subperm hall).length_le

end

end Way

/-! ### The depth that is enough -/

/-- The depth that is enough for a task with a stack and a path of the given lengths: all fragments
for every name that can still be entered, and those that can still be opened before. -/
def enough (names fragments stack path : Nat) : Nat :=
  (names - stack) * (fragments + 1) + (fragments - path) + 1

theorem enough_part {names fragments stack path depth : Nat} (hpath : path < fragments)
    (h : enough names fragments stack path ≤ depth + 1) :
    enough names fragments stack (path + 1) ≤ depth := by
  unfold enough at h ⊢
  omega

theorem enough_target {names fragments stack path depth : Nat} (hstack : stack < names)
    (h : enough names fragments stack path ≤ depth + 1) :
    enough names fragments (stack + 1) 0 ≤ depth := by
  obtain ⟨rest, hrest⟩ : ∃ rest, names - stack = rest + 1 := ⟨names - stack - 1, by omega⟩
  have hnext : names - (stack + 1) = rest := by omega
  unfold enough at h ⊢
  rw [hrest, Nat.succ_mul] at h
  rw [hnext]
  omega

/-- A task that does not come to a loop returns, given enough depth. -/
theorem returns_of_way :
    ∀ (depth : Nat) (task : Task) (path : List Schema), Way settings roots task path →
      enough settings.registry.names.length (convertible settings.registry roots).length
        task.context.stack.length path.length ≤ depth →
      Returns (convertAt settings depth task.schema task.context) task.progress := by
  intro depth
  induction depth with
  | zero =>
    intro task path _ hdepth
    unfold enough at hdepth
    omega
  | succ depth ih =>
    intro task path way hdepth
    cases href : task.schema.ref with
    | some ref =>
      obtain ⟨name, hresolve⟩ := way.resolves _ .refl ref href
      rw [returns_ref_iff href]
      by_cases hname : name ∈ task.context.stack
      · exact returns_convertRef_of_mem hresolve hname way.stack_known
      rw [returns_convertRef_iff hresolve hname]
      cases hlookup : task.progress.declarations.lookup name with
      | some expr => exact returns_declareWith_of_lookup hlookup
      | none =>
        have hknown := Registry.mem_names_of_resolve hresolve
        obtain ⟨target, hget⟩ := Registry.exists_get?_of_mem_names hknown
        rw [returns_declareWith_iff hlookup hget]
        -- a name is entered: there is one less left, and the path starts anew
        refine ih _ [] (way.target href hresolve hname hlookup hget) ?_
        have hnext := enough_target (way.length_stack_lt hname hknown) hdepth
        simpa [Context.push] using hnext
    | none =>
      rw [returns_plan_iff href]
      refine ⟨way.resolves.plan_stop, returns_parts ?_⟩
      intro before part after exprs reached hsplit hbefore
      have hpart : part ∈ (plan settings task.schema task.context).parts := by simp [hsplit]
      -- a part is opened: the path grows by the schema
      refine ih _ _ (way.part href hpart (.part href hsplit hbefore)) ?_
      rw [stack_of_mem_plan_parts settings task.schema task.context hpart, length_cons]
      exact enough_part way.length_path_lt hdepth

/-! ### How a conversion fails -/

/-- A conversion fails only because it does not end. -/
def endless : Contract Progress where
  inv _ := True
  grows _ _ := True
  fault failure := failure = .unexpected .endless
  refl _ := trivial
  trans _ _ := trivial

theorem endless_ignoresNotes : IgnoresNotes endless := fun _ _ _ _ => ⟨trivial, trivial⟩

theorem declareWith_endless {convert : Converter} {target : Schema} {context : Context}
    {progress : Progress} (hget : settings.registry.get? name = some target)
    (h : ∀ reached, endless.Keeps (convert target (context.push name)) (fun _ _ => True) reached) :
    endless.Keeps (declareWith convert settings name context) (fun _ _ => True) progress := by
  unfold declareWith
  apply Contract.keeps_bind (Contract.keeps_get trivial)
  rintro current reached - - ⟨hcurrent, hreached⟩
  subst current reached
  cases progress.declarations.lookup name with
  | some expr => exact Contract.keeps_pure trivial trivial
  | none =>
    apply Contract.keeps_bind (keeps_log (endless_ignoresNotes.allows fun _ => True) trivial _ _)
    intro _ logged _ _ _
    rw [hget]
    apply Contract.keeps_bind (h logged)
    intro expr reached _ _ _
    have hmodify : endless.Keeps (modify fun progress =>
        { progress with declarations := progress.declarations ++ [(name, expr)] })
        (fun _ _ => True) reached := Contract.keeps_modify trivial trivial trivial
    apply Contract.keeps_bind hmodify
    intro _ last _ _ _
    exact Contract.keeps_pure trivial trivial

/-- If all references resolve, nothing but the depth can fail. -/
theorem endless_laws (settings : Settings) :
    Laws settings endless
      (fun _ schema context => Resolves settings.registry schema ∧
        ∀ name ∈ context.stack, name ∈ settings.registry.names)
      (fun _ _ _ _ _ => True) where
  notes := endless_ignoresNotes
  stable _ _ := trivial
  exhausted _ := rfl
  part := fun ⟨hresolves, hstack⟩ _ hpart => by
    refine ⟨hresolves.of_mem_plan_parts hpart, ?_⟩
    rwa [stack_of_mem_plan_parts settings _ _ hpart]
  stop := fun ⟨hresolves, _⟩ _ hstop => by
    rw [hresolves.plan_stop] at hstop
    cases hstop
  build _ _ _ _ := trivial
  unresolved := fun ⟨hresolves, _⟩ href herror => by
    obtain ⟨target, htarget⟩ := hresolves _ .refl _ href
    rw [htarget] at herror
    cases herror
  unregistered := fun ⟨_, hstack⟩ hname hnone => by
    obtain ⟨found, hfound⟩ := Registry.exists_get?_of_mem_names (hstack _ hname)
    rw [hfound] at hnone
    cases hnone
  unknown _ _ _ _ _ := trivial
  lazy _ _ _ _ _ := trivial
  enter := fun ⟨hresolves, hstack⟩ href hname _ hget => by
    refine ⟨hresolves.of_uses (.single (.inr ⟨_, _, href, hname, hget⟩)), fun other hother => ?_⟩
    rcases mem_append.mp hother with hother | hother
    · exact hstack other hother
    · rw [mem_singleton.mp hother]
      exact Registry.mem_names_of_get? hget
  named _ _ _ _ _ _ := trivial
  declare _ _ _ _ := ⟨trivial, trivial⟩

/-- If all references resolve, a conversion returns or does not end. -/
theorem convertAt_endless (settings : Settings) (depth : Nat) (schema : Schema) (context : Context)
    (progress : Progress) (hresolves : Resolves settings.registry schema)
    (hstack : ∀ name ∈ context.stack, name ∈ settings.registry.names) :
    endless.Keeps (convertAt settings depth schema context) (fun _ _ => True) progress :=
  (endless_laws settings).noted.convertAt_keeps depth schema context progress
    ⟨hresolves, hstack⟩ trivial

/-! ### The exact condition -/

theorem error_of_not_returns {action : Convert Expr} {progress : Progress}
    (hkeeps : endless.Keeps action (fun _ _ => True) progress)
    (h : ¬ Returns action progress) :
    (outcome action progress).1 = .error (.unexpected .endless) := by
  rcases houtcome : outcome action progress with ⟨failure | expr, reached⟩
  · rw [(hkeeps.error houtcome).2.2]
  · exact absurd ⟨expr, reached, houtcome⟩ h

/-- The depth that a conversion is given is enough, whatever is on its stack. -/
theorem enough_le_depthBound (registry : Registry) (roots : List Schema) (stack : Nat) :
    enough registry.names.length (convertible registry roots).length stack 0 ≤
      depthBound registry (listSize roots) := by
  have hfragments := length_convertible_le registry roots
  generalize (convertible registry roots).length = fragments at hfragments
  calc enough registry.names.length fragments stack 0
      = (registry.names.length - stack + 1) * (fragments + 1) := by
        rw [enough, Nat.succ_mul]
        omega
    _ ≤ depthBound registry (listSize roots) := Nat.mul_le_mul (by omega) (by omega)

/-- A task from which a way can start returns exactly if it does not come to a loop. -/
theorem returns_start_iff (roots : List Schema) (task : Task)
    (hstart : ¬ Circles settings task → Way settings roots task []) :
    Returns (convertAt settings (depthBound settings.registry (listSize roots)) task.schema
      task.context) task.progress ↔ ¬ Circles settings task := by
  constructor
  · exact fun h hcircles => not_returns_of_circles hcircles _ h
  · exact fun h => returns_of_way _ task [] (hstart h) (enough_le_depthBound _ roots _)

/-- The way to a schema that is converted with no name on the stack. -/
theorem Way.start {task : Task} (hresolves : Resolves settings.registry task.schema)
    (hstack : task.context.stack = []) (hends : ¬ Circles settings task) :
    Way settings [task.schema] task [] where
  resolves := hresolves
  ends := hends
  stack_nodup := by simp [hstack]
  stack_known := by simp [hstack]
  known := mem_append_left _ (mem_basis.mpr
    (.inl ⟨task.schema, mem_singleton_self _, Schema.self_mem_fragments _⟩))
  path_nodup := nodup_nil
  path_known := by simp
  leads := by simp

/-- The way to a registered schema whose name is the only one on the stack. -/
theorem Way.registered {task : Task} (hresolves : Resolves settings.registry task.schema)
    (hstack : task.context.stack = [name]) (hget : settings.registry.get? name = some task.schema)
    (hends : ¬ Circles settings task) :
    Way settings [] task [] where
  resolves := hresolves
  ends := hends
  stack_nodup := by simp [hstack]
  stack_known := by simp [hstack, Registry.mem_names_of_get? hget]
  known := mem_convertible_of_get? hget
  path_nodup := nodup_nil
  path_known := by simp
  leads := by simp

/-- A conversion that starts with no name on the stack and all of whose references resolve returns
an expression, unless it comes to a task that loops; then no depth of recursion is enough. The same
is true of the declaration of a registered name, which returns at once if the name is declared. -/
theorem conversion_returns_iff (settings : Settings) (context : Context) (progress : Progress)
    (hstack : context.stack = []) :
    (∀ schema, Resolves settings.registry schema →
      (Returns (convert settings schema context) progress ↔
        ¬ Circles settings ⟨schema, context, progress⟩) ∧
      (Circles settings ⟨schema, context, progress⟩ → ∀ depth,
        (outcome (convertAt settings depth schema context) progress).1 =
          .error (.unexpected .endless))) ∧
    (∀ name target, settings.registry.get? name = some target →
      Resolves settings.registry target →
      (Returns (declare settings name context) progress ↔
        ((progress.declarations.lookup name).isSome ∨
          ¬ Circles settings ⟨target, context.push name, begun progress name⟩)) ∧
      (progress.declarations.lookup name = none →
        Circles settings ⟨target, context.push name, begun progress name⟩ → ∀ depth,
        (outcome (declareWith (convertAt settings depth) settings name context) progress).1 =
          .error (.unexpected .endless))) := by
  constructor
  · intro schema hresolves
    constructor
    · have hsize : listSize [schema] = schema.size := by simp [listSize]
      rw [convert, ← hsize]
      exact returns_start_iff [schema] ⟨schema, context, progress⟩ (Way.start hresolves hstack)
    · intro hcircles depth
      refine error_of_not_returns ?_ (not_returns_of_circles hcircles depth)
      exact convertAt_endless settings depth schema context progress hresolves (by simp [hstack])
  · intro name target hget hresolves
    have hpush : (context.push name).stack = [name] := by simp [Context.push, hstack]
    have hknown : ∀ other ∈ (context.push name).stack, other ∈ settings.registry.names := by
      simp [hpush, Registry.mem_names_of_get? hget]
    constructor
    · cases hlookup : progress.declarations.lookup name with
      | some expr => simp [declare, returns_declareWith_of_lookup hlookup]
      | none =>
        rw [declare, returns_declareWith_iff hlookup hget]
        simpa [listSize] using returns_start_iff []
          ⟨target, context.push name, begun progress name⟩ (Way.registered hresolves hpush hget)
    · intro hlookup hcircles depth
      refine error_of_not_returns ?_ ?_
      · exact declareWith_endless hget fun reached =>
          convertAt_endless settings depth target _ reached hresolves hknown
      · rw [returns_declareWith_iff hlookup hget]
        exact not_returns_of_circles hcircles depth

/-- References resolve if those of the fragments do, which are finitely many. -/
theorem resolves_of_basis (hschema : schema ∈ roots)
    (h : ∀ other ∈ basis registry roots, ∀ ref ∈ other.ref, (registry.resolve ref).isOk = true) :
    Resolves registry schema := by
  intro other huses ref href
  have hbasis : schema ∈ basis registry roots :=
    mem_basis.mpr (.inl ⟨schema, hschema, Schema.self_mem_fragments schema⟩)
  exact exists_eq_ok (h other (mem_basis_of_uses hbasis huses) ref href)

/-- An `allOf` that adds nothing to the object `B`. -/
def extendedNode : Schema :=
  { allOf := some [{ ref := some "#/components/schemas/B" }, { kind := .object }] }

/-- An object that has such an extension of itself as a property. -/
def node : Schema := { kind := .object, properties := [("x", extendedNode)] }

def nodeSettings : Settings := { registry := { schemas := [("B", node)] }, config := {} }

theorem resolve_node : nodeSettings.registry.resolve "#/components/schemas/B" = .ok "B" := by
  have hok : (nodeSettings.registry.resolve "#/components/schemas/B").isOk = true := by
    decide +kernel
  obtain ⟨name, hname⟩ := exists_eq_ok hok
  have hknown := Registry.mem_names_of_resolve hname
  rw [hname, mem_singleton.mp hknown]

/-- The object behind the reference is merged, so that its property is a part of the extension. -/
theorem opens_extendedNode : Opens nodeSettings [] extendedNode extendedNode := by
  let reference : Schema := { ref := some "#/components/schemas/B" }
  have hget : nodeSettings.registry.get? "B" = some node := rfl
  have hnode : objectBehind? nodeSettings.registry [] reference = .ok (some node) := by
    simp only [reference, objectBehind?, plainObject?, resolve_node, hget, bind, Except.bind]
    rfl
  have hobject : objectBehind? nodeSettings.registry [] { kind := .object } =
      .ok (some { kind := .object }) := rfl
  have hsorted : sortMembers nodeSettings.registry []
      [(reference, 0), ({ kind := .object }, 1)] = { shapes := [node, { kind := .object }] } := by
    simp only [sortMembers, hnode, hobject]
  have hplan : plan nodeSettings extendedNode {} = membersPlan nodeSettings
      (sortMembers nodeSettings.registry [] [(reference, 0), ({ kind := .object }, 1)]) {} := rfl
  refine ⟨rfl, ?_⟩
  rw [hplan, hsorted]
  exact mem_singleton_self extendedNode

/-- The node itself does not come to a loop, since its name is on the stack when its property is
converted. The extension does if it is converted on its own. -/
theorem conversion_returns_iff_node :
    ¬ Circles nodeSettings ⟨node, Context.push {} "B", begun {} "B"⟩ ∧
      ∀ depth, (outcome (convertAt nodeSettings depth extendedNode {}) {}).1 =
        .error (.unexpected .endless) := by
  have hresolves : ∀ schema ∈ [node, extendedNode], Resolves nodeSettings.registry schema :=
    fun schema hschema => resolves_of_basis hschema (by decide +kernel)
  obtain ⟨hconvert, hdeclare⟩ := conversion_returns_iff nodeSettings {} {} rfl
  constructor
  · have hreturns : Returns (declare nodeSettings "B" {}) {} :=
      returns_of_isOk (by decide +kernel)
    have hget : nodeSettings.registry.get? "B" = some node := rfl
    exact ((hdeclare "B" node hget (hresolves node (by simp))).1.mp hreturns).resolve_left (by simp)
  · have hloops : Task.Loops nodeSettings ⟨extendedNode, {}, {}⟩ := .single opens_extendedNode
    exact (hconvert extendedNode (hresolves extendedNode (by simp))).2 ⟨_, .refl, hloops⟩

end OpenApiClient.Conversion
