import OpenApiClient.Proofs.Conversion.Endless
import OpenApiClient.Proofs.Conversion.Mentions
import OpenApiClient.Proofs.Conversion.Structural

/-!
# Conversions when no schema refers to itself

If no named schema leads back to itself, a conversion never meets a reference to a name on its
stack. So the stack does not matter (`plan_avoids`), and what is declared under a name is the
translation of its schema on its own (`structural_laws`). Nor does a conversion come to a schema
that it is in the middle of, so its depth is at most the number of schemas there are
(`Descent.length_lt`), and no translation is endless.
-/

namespace OpenApiClient

open List

open Relation (ReflTransGen TransGen)

/-! ### Registries -/

/-- No named schema refers to itself, be it through others. -/
def Registry.Acyclic (registry : Registry) : Prop := ∀ name, ¬ TransGen registry.Mentions name name

/-- Two registries have the same named schemas, perhaps in another order. -/
structure Registry.Alike (first second : Registry) : Prop where
  length : first.names.length = second.names.length
  size : propertiesSize first.schemas = propertiesSize second.schemas
  get? : ∀ name, first.get? name = second.get? name
  resolve : ∀ ref, first.resolve ref = second.resolve ref

variable {second : Registry}

namespace Registry

theorem Alike.refl (registry : Registry) : registry.Alike registry :=
  ⟨rfl, rfl, fun _ => rfl, fun _ => rfl⟩

/-- Registries are alike if they differ in the order of the schemas only. -/
theorem alike_of_perm {first : Registry} (h : first.schemas.Perm second.schemas)
    (hnodup : first.names.Nodup) : first.Alike second := by
  have hnames : first.names.Perm second.names := h.map _
  refine ⟨hnames.length_eq, ?_, fun name => ?_, fun ref => ?_⟩
  · rw [Schema.propertiesSize_eq, Schema.propertiesSize_eq]
    exact (h.map _).sum_eq
  · refine Option.ext fun schema => ?_
    rw [get?, get?, Named.lookup_iff_mem hnodup, h.mem_iff,
      Named.lookup_iff_mem (hnames.nodup_iff.mp hnodup)]
  · have hcontains : ∀ name, first.contains name = second.contains name := by
      intro name
      rw [Bool.eq_iff_iff]
      simp [contains, hnames.mem_iff]
    simp only [resolve, hcontains]

theorem Alike.acyclic {first : Registry} (h : first.Alike second) (hfirst : first.Acyclic) :
    second.Acyclic := by
  have hmentions : second.Mentions = first.Mentions := by
    funext name other
    simp only [Mentions, h.get?, h.resolve]
  rwa [Acyclic, hmentions]

/-- A registry has no circles if its names can be ranked such that references go down. -/
theorem acyclic_of_rank {registry : Registry} (rank : String → Nat)
    (h : ∀ entry ∈ registry.schemas, ∀ fragment ∈ entry.2.fragments, ∀ ref ∈ fragment.ref,
      ∀ other ∈ (registry.resolve ref).toOption, rank other < rank entry.1) : registry.Acyclic := by
  have hmentions : ∀ {name other}, registry.Mentions name other → rank other < rank name := by
    rintro name other ⟨schema, hget, fragment, hfragment, ref, href, hresolve⟩
    refine h _ (mem_schemas_of_get? hget) fragment hfragment ref href other ?_
    rw [hresolve]
    rfl
  have hbelow : ∀ {name other}, TransGen registry.Mentions name other → rank other < rank name := by
    intro name other hpath
    induction hpath with
    | single hstep => exact hmentions hstep
    | tail _ hstep ih => exact (hmentions hstep).trans ih
  exact fun name hcircle => lt_irrefl _ (hbelow hcircle)

end Registry

namespace Conversion

variable {settings : Settings} {registry : Registry} {stack : List String} {roots path : List Schema}
  {schema : Schema} {context : Context} {name : String}

/-! ### Neither the stack nor the order of the names matters -/

/-- No reference that the conversion of a schema can come to goes to a name on the stack. -/
def Avoids (registry : Registry) (stack : List String) (schema : Schema) : Prop :=
  EveryRef registry (fun ref => ∀ name, registry.resolve ref = .ok name → name ∉ stack) schema

theorem avoids_nil (registry : Registry) (schema : Schema) : Avoids registry [] schema :=
  fun _ _ _ _ _ _ => not_mem_nil

theorem plainObject?_avoids (halike : registry.Alike second) :
    ∀ {fuel : Nat} {followed : List String} {member : Schema}, Avoids registry stack member →
      plainObject? registry stack fuel followed member =
        plainObject? second [] fuel followed member := by
  intro fuel
  induction fuel with
  | zero => exact fun _ => rfl
  | succ fuel ih =>
    intro followed member h
    cases href : member.ref with
    | none => simp only [plainObject?, href]
    | some ref =>
      simp only [plainObject?, href, ← halike.resolve, ← halike.get?]
      cases hresolve : registry.resolve ref with
      | error error => rfl
      | ok name =>
        -- the name is not on the stack, so both go on with the schema it stands for
        have hname : stack.contains name = false := by
          simpa using h member .refl ref href name hresolve
        simp only [bind, Except.bind, hname, contains_nil, Bool.false_or]
        cases hget : registry.get? name with
        | none => rfl
        | some target =>
          have htarget : Uses registry member target :=
            .inr ⟨ref, name, href, hresolve, hget⟩
          simp only [ih (h.of_uses (.single htarget))]

theorem sortMembers_avoids (halike : registry.Alike second) {members : List (Schema × Nat)}
    (h : ∀ member ∈ members, Avoids registry stack member.1) :
    sortMembers registry stack members = sortMembers second [] members := by
  induction members with
  | nil => rfl
  | cons first rest ih =>
    have hfirst : objectBehind? registry stack first.1 = objectBehind? second [] first.1 := by
      rw [objectBehind?, objectBehind?, halike.length]
      exact plainObject?_avoids halike (h first mem_cons_self)
    unfold sortMembers
    rw [hfirst, ih fun member hmember => h member (mem_cons_of_mem _ hmember)]

section

variable {second : Settings} (halike : settings.registry.Alike second.registry)
  (hconfig : settings.config = second.config)

include halike hconfig

/-- A schema that avoids the names on the stack is converted as if there were none, and with the same
result for all registries that are alike. -/
theorem plan_avoids (h : Avoids settings.registry context.stack schema) :
    (plan settings schema context).Same (plan second schema {}) := by
  refine plan_same hconfig fun allOf hallOf => sortMembers_avoids halike fun member hmember => ?_
  rcases mem_append.mp (fst_mem_of_mem_zipIdx hmember) with hlist | hsibling
  · refine h.of_uses (.single (.inl ?_))
    exact Schema.mem_children.mpr (.inr (.inr (.inr (.inl ⟨allOf, hallOf, hlist⟩))))
  · exact h.sibling (Option.mem_toList.mp hsibling)

/-- Translations depend on what the names stand for, but not on their order. -/
theorem structuralAt_alike :
    ∀ depth, structuralAt settings depth = structuralAt second depth := by
  intro depth
  induction depth with
  | zero => rfl
  | succ depth ih =>
    funext schema optional
    have hplan : (plan settings schema {}).Same (plan second schema {}) :=
      plan_avoids halike hconfig (avoids_nil _ _)
    simp only [structuralAt, halike.resolve, hplan.assemble_eq, ih]
    unfold finished
    rw [hconfig]

theorem structural_alike : structural settings = structural second := by
  funext schema optional
  rw [structural, structural, structuralAt_alike halike hconfig, depthBound, depthBound,
    halike.length, halike.size]

end

/-- In a registry without circles a named schema avoids its own name. -/
theorem avoids_self (hacyclic : registry.Acyclic) (hget : registry.get? name = some schema) :
    Avoids registry [name] schema := by
  intro last huses ref href target hresolve hmem
  have hleads := leads_of_get? hget last huses ref href target hresolve
  rw [mem_singleton.mp hmem] at hleads
  exact hacyclic name hleads

theorem Avoids.push (h : Avoids registry context.stack schema) (hname : Avoids registry [name] schema) :
    Avoids registry (context.push name).stack schema := by
  intro last huses ref href target hresolve hmem
  rcases mem_append.mp hmem with hmem | hmem
  · exact h last huses ref href target hresolve hmem
  · exact hname last huses ref href target hresolve hmem

/-! ### Depth -/

/-- A conversion can go on from one schema to the other. -/
def Takes (registry : Registry) (schema other : Schema) : Prop :=
  Uses registry schema other ∨ (schema.allOf.isSome ∧ siblingMember? schema = some other)

theorem takes_of_mem_parts {part : Schema × Context}
    (h : part ∈ (plan settings schema context).parts) :
    TransGen (Takes settings.registry) schema part.1 := by
  rcases mem_plan_parts h with huses | hsibling
  · exact TransGen.mono (fun _ _ => Or.inl) _ _ huses
  · exact .single (.inr hsibling)

/-- What gets smaller from a schema to those it consists of, and to the object it describes beside
its `allOf`. -/
def weight (schema : Schema) : Nat := 2 * schema.size + if schema.allOf.isSome then 1 else 0

theorem size_siblingMember?_le {member : Schema} (h : siblingMember? schema = some member) :
    member.size ≤ schema.size := by
  unfold siblingMember? at h
  split at h
  · cases h
    obtain ⟨⟩ := schema
    simp only [Schema.size, optionSize, membersSize]
    omega
  · cases h

/-- One schema is a reference to the other. -/
def Enters (registry : Registry) (schema target : Schema) : Prop :=
  ∃ ref name, schema.ref = some ref ∧ registry.resolve ref = .ok name ∧
    registry.get? name = some target

variable {other : Schema}

theorem Takes.weight_lt_or_enters (h : Takes registry schema other) :
    weight other < weight schema ∨ Enters registry schema other := by
  rcases h with (hchild | henters) | ⟨hallOf, hsibling⟩
  · have hsize := Schema.size_lt_of_mem_children hchild
    left
    unfold weight
    split <;> split <;> omega
  · exact .inr henters
  · have hsize := size_siblingMember?_le hsibling
    left
    simp only [weight, hallOf, allOf_siblingMember? hsibling]
    simp
    omega

/-- On the way from one schema to another the weight gets smaller, unless a reference is followed. -/
theorem weight_lt_or_exists_enters (h : TransGen (Takes registry) schema other) :
    weight other < weight schema ∨ ∃ holder target, ReflTransGen (Takes registry) schema holder ∧
      Enters registry holder target ∧ ReflTransGen (Takes registry) target other := by
  induction h with
  | single htakes =>
    exact htakes.weight_lt_or_enters.imp_right fun henters => ⟨_, _, .refl, henters, .refl⟩
  | tail hway htakes ih =>
    rcases ih with hlt | ⟨holder, target, hholder, henters, htarget⟩
    · rcases htakes.weight_lt_or_enters with hless | henters
      · exact .inl (hless.trans hlt)
      · exact .inr ⟨_, _, hway.to_reflTransGen, henters, .refl⟩
    · exact .inr ⟨holder, target, hholder, henters, htarget.tail htakes⟩

theorem EveryRef.of_takes {good : String → Prop} (h : EveryRef registry good schema)
    (htakes : ReflTransGen (Takes registry) schema other) : EveryRef registry good other := by
  induction htakes with
  | refl => exact h
  | tail _ htakes ih =>
    rcases htakes with huses | ⟨-, hsibling⟩
    · exact ih.of_uses (.single huses)
    · exact ih.sibling hsibling

/-- In a registry without circles no conversion comes back to a schema it is in the middle of. -/
theorem not_takes_self (hacyclic : registry.Acyclic) (schema : Schema) :
    ¬ TransGen (Takes registry) schema schema := by
  intro h
  rcases weight_lt_or_exists_enters h with hlt | ⟨holder, target, hholder, henters, htarget⟩
  · exact lt_irrefl _ hlt
  · -- the target of a reference on the way leads back to the schema that holds the reference
    obtain ⟨ref, name, href, hresolve, hget⟩ := henters
    have hleads := (leads_of_get? hget).of_takes (htarget.trans hholder)
    exact hacyclic name (hleads holder .refl ref href name hresolve)

/-- The schemas on the way to another one, each of which leads to it. -/
structure Descent (registry : Registry) (roots : List Schema) (schema : Schema)
    (path : List Schema) : Prop where
  known : schema ∈ convertible registry roots
  path_nodup : path.Nodup
  path_known : ∀ other ∈ path, other ∈ convertible registry roots
  leads : ∀ other ∈ path, TransGen (Takes registry) other schema

namespace Descent

theorem start (h : schema ∈ convertible registry roots) : Descent registry roots schema [] :=
  ⟨h, nodup_nil, by simp, by simp⟩

variable (descent : Descent registry roots schema path)

include descent

theorem all_known : ∀ other ∈ schema :: path, other ∈ convertible registry roots :=
  forall_mem_cons.mpr ⟨descent.known, descent.path_known⟩

theorem nodup (hacyclic : registry.Acyclic) : (schema :: path).Nodup :=
  nodup_cons.mpr ⟨fun hmem => not_takes_self hacyclic schema (descent.leads schema hmem),
    descent.path_nodup⟩

/-- There are fewer schemas on the way than there are schemas. -/
theorem length_lt (hacyclic : registry.Acyclic) :
    path.length < (convertible registry roots).length :=
  ((descent.nodup hacyclic).subperm descent.all_known).length_le

theorem step (hacyclic : registry.Acyclic) {next : Schema}
    (hnext : next ∈ convertible registry roots) (htakes : TransGen (Takes registry) schema next) :
    Descent registry roots next (schema :: path) where
  known := hnext
  path_nodup := descent.nodup hacyclic
  path_known := descent.all_known
  leads := forall_mem_cons.mpr
    ⟨htakes, fun other hother => (descent.leads other hother).trans htakes⟩

end Descent

theorem length_convertible_le_depthBound (registry : Registry) (roots : List Schema) :
    (convertible registry roots).length ≤ depthBound registry (listSize roots) := by
  have hlength := length_convertible_le registry roots
  calc (convertible registry roots).length
      ≤ 1 * (2 * (propertiesSize registry.schemas + listSize roots) + 1) := by omega
    _ ≤ depthBound registry (listSize roots) := Nat.mul_le_mul_right _ (by omega)

/-- A depth is enough for a schema: there are no more schemas than are on the way to it or can still
be come to. -/
def Shallow (registry : Registry) (depth : Nat) (schema : Schema) : Prop :=
  ∃ roots path, Descent registry roots schema path ∧
    (convertible registry roots).length ≤ path.length + depth

variable {target : Schema}

section Shallow

variable {depth : Nat}

theorem shallow_depthBound (h : schema ∈ convertible registry roots) :
    Shallow registry (depthBound registry (listSize roots)) schema := by
  refine ⟨roots, [], .start h, ?_⟩
  rw [length_nil, Nat.zero_add]
  exact length_convertible_le_depthBound registry roots

theorem not_shallow_zero (hacyclic : registry.Acyclic) : ¬ Shallow registry 0 schema := by
  rintro ⟨roots, path, descent, hlength⟩
  have hlt := descent.length_lt hacyclic
  omega

theorem Shallow.part (h : Shallow settings.registry (depth + 1) schema)
    (hacyclic : settings.registry.Acyclic) {part : Schema × Context}
    (hpart : part ∈ (plan settings schema context).parts) :
    Shallow settings.registry depth part.1 := by
  obtain ⟨roots, path, descent, hlength⟩ := h
  have hknown := mem_convertible_of_mem_parts descent.known hpart
  refine ⟨roots, _, descent.step hacyclic hknown (takes_of_mem_parts hpart), ?_⟩
  rw [length_cons]
  omega

theorem Shallow.enter (h : Shallow registry (depth + 1) schema) (hacyclic : registry.Acyclic)
    (henters : Enters registry schema target) : Shallow registry depth target := by
  have htakes : Takes registry schema target := .inl (.inr henters)
  obtain ⟨roots, path, descent, hlength⟩ := h
  obtain ⟨ref, name, -, -, hget⟩ := henters
  refine ⟨roots, _, descent.step hacyclic (mem_convertible_of_get? hget) (.single htakes), ?_⟩
  rw [length_cons]
  omega

/-- Given enough depth, translations in a registry without circles end. -/
theorem structuralAt_ends (hacyclic : settings.registry.Acyclic) :
    ∀ {depth schema optional}, Shallow settings.registry depth schema →
      structuralAt settings depth schema optional ≠ .error (.unexpected .endless) := by
  intro depth
  induction depth with
  | zero => exact fun h => absurd h (not_shallow_zero hacyclic)
  | succ depth ih =>
    intro schema optional hshallow h
    unfold structuralAt at h
    have h := eq_error_of_map h
    cases href : schema.ref with
    | some ref =>
      simp only [href] at h
      cases hresolve : settings.registry.resolve ref <;> rw [hresolve] at h <;> cases h
    | none =>
      simp only [href] at h
      rcases Plan.assemble_eq_error h with ⟨part, hpart, hfailed⟩ | ⟨error, -, herror⟩
      · exact ih (hshallow.part hacyclic hpart) hfailed
      · cases herror

end Shallow

theorem structural_ends (hacyclic : settings.registry.Acyclic) (schema : Schema) (optional : Bool) :
    structural settings schema optional ≠ .error (.unexpected .endless) := by
  have hknown : schema ∈ convertible settings.registry [schema] :=
    mem_append_left _ (mem_basis.mpr
      (.inl ⟨schema, mem_singleton_self _, Schema.self_mem_fragments _⟩))
  have hsize : listSize [schema] = schema.size := by simp [listSize]
  exact structuralAt_ends hacyclic (hsize ▸ shallow_depthBound hknown)

/-! ### Declarations are translations -/

/-- All named schemas can be translated on their own. -/
def Translatable (settings : Settings) : Prop :=
  ∀ name target, settings.registry.get? name = some target →
    ∃ expr, structural settings target false = .ok expr

/-- Where a conversion stands in a registry without circles. -/
structure Fits (settings : Settings) (depth : Nat) (schema : Schema) (context : Context) : Prop where
  avoids : Avoids settings.registry context.stack schema
  shallow : Shallow settings.registry depth schema
  bounded : depth ≤ depthBound settings.registry 0
  known : ∀ name ∈ context.stack, name ∈ settings.registry.names
  translated : Translatable settings →
    ∃ depth expr, structuralAt settings depth schema context.optional = .ok expr

namespace Fits

variable {depth : Nat}

theorem same (h : Fits settings depth schema context) :
    (plan settings schema context).Same (plan settings schema {}) :=
  plan_avoids (.refl _) rfl h.avoids

/-- Where a schema can be translated, its plan is not stuck and its parts can be translated. -/
theorem exists_parts (h : Fits settings depth schema context) (href : schema.ref = none)
    (hall : Translatable settings) :
    (plan settings schema context).stop = none ∧ ∃ depth exprs,
      List.Forall₂ (fun part expr => structuralAt settings depth part.1 part.2.optional = .ok expr)
        (plan settings schema context).parts exprs := by
  obtain ⟨_ | deep, expr, hexpr⟩ := h.translated hall
  · cases hexpr
  · obtain ⟨hstop, exprs, hexprs, -⟩ := (structuralAt_plan href deep h.same).mp hexpr
    exact ⟨hstop, deep, exprs, hexprs⟩

/-- Where a reference can be translated, it resolves. -/
theorem exists_name (h : Fits settings depth schema context) {ref : String}
    (href : schema.ref = some ref) (hall : Translatable settings) :
    ∃ name, settings.registry.resolve ref = .ok name := by
  obtain ⟨_ | deep, expr, hexpr⟩ := h.translated hall
  · cases hexpr
  · obtain ⟨name, hresolve, -⟩ := (structuralAt_ref href deep).mp hexpr
    exact ⟨name, hresolve⟩

theorem part (h : Fits settings (depth + 1) schema context) (hacyclic : settings.registry.Acyclic)
    (href : schema.ref = none) {part : Schema × Context}
    (hpart : part ∈ (plan settings schema context).parts) : Fits settings depth part.1 part.2 := by
  have hstack := stack_of_mem_plan_parts settings schema context hpart
  refine ⟨hstack ▸ h.avoids.of_mem_plan_parts hpart, h.shallow.part hacyclic hpart,
    Nat.le_of_succ_le h.bounded, hstack ▸ h.known, fun hall => ?_⟩
  obtain ⟨-, deep, exprs, hexprs⟩ := h.exists_parts href hall
  obtain ⟨expr, -, hexpr⟩ := exists_of_forall₂ hexprs.flip hpart
  exact ⟨deep, expr, hexpr⟩

/-- A named schema is converted with its name on the stack. -/
theorem push (hacyclic : settings.registry.Acyclic)
    (hget : settings.registry.get? name = some target)
    (havoids : Avoids settings.registry context.stack target)
    (hshallow : Shallow settings.registry depth target)
    (hbounded : depth ≤ depthBound settings.registry 0)
    (hknown : ∀ other ∈ context.stack, other ∈ settings.registry.names) :
    Fits settings depth target (context.push name) := by
  refine ⟨havoids.push (avoids_self hacyclic hget), hshallow, hbounded, fun other hother => ?_,
    fun hall => ⟨_, hall name target hget⟩⟩
  rcases mem_append.mp hother with hother | hother
  · exact hknown other hother
  · rw [mem_singleton.mp hother]
    exact Registry.mem_names_of_get? hget

/-- This is where a declaration starts. -/
theorem start (hacyclic : settings.registry.Acyclic)
    (hget : settings.registry.get? name = some target) :
    Fits settings (depthBound settings.registry 0) target (Context.push {} name) := by
  have hknown : target ∈ convertible settings.registry [] := mem_convertible_of_get? hget
  exact .push hacyclic hget (avoids_nil _ _) (shallow_depthBound hknown) le_rfl (by simp)

end Fits

/-- In a registry without circles every name is declared as the translation of its schema. No
conversion is endless, and if all named schemas can be translated none fails at all. -/
theorem structural_laws (hacyclic : settings.registry.Acyclic) :
    Laws settings
      (eachDeclared (fun name expr => ∀ target, settings.registry.get? name = some target →
        structural settings target false = .ok expr)
        fun failure => failure ≠ .unexpected .endless ∧ ¬ Translatable settings)
      (Fits settings)
      (fun depth schema context expr _ =>
        structuralAt settings depth schema context.optional = .ok expr) where
  notes := eachDeclared_ignoresNotes
  stable _ hexpr := hexpr
  exhausted hfits := absurd hfits.shallow (not_shallow_zero hacyclic)
  part hfits href hpart := hfits.part hacyclic href hpart
  stop hfits href hstop := by
    refine ⟨nofun, fun hall => ?_⟩
    rw [(hfits.exists_parts href hall).1] at hstop
    cases hstop
  build {depth _ _ exprs _} hfits href hstop hexprs :=
    (structuralAt_plan href depth hfits.same).mpr ⟨hstop, exprs, hexprs, rfl⟩
  unresolved hfits href herror := by
    refine ⟨nofun, fun hall => ?_⟩
    obtain ⟨name, hresolve⟩ := hfits.exists_name href hall
    rw [hresolve] at herror
    cases herror
  unregistered hfits hname hnone := by
    obtain ⟨target, hget⟩ := Registry.exists_get?_of_mem_names (hfits.known _ hname)
    rw [hget] at hnone
    cases hnone
  -- no reference goes to a name on the stack
  unknown hfits href hresolve hstack _ :=
    absurd hstack (hfits.avoids _ .refl _ href _ hresolve)
  lazy hfits href hresolve hstack _ :=
    absurd hstack (hfits.avoids _ .refl _ href _ hresolve)
  enter hfits href hresolve _ hget := by
    have henters : Enters settings.registry _ _ := ⟨_, _, href, hresolve, hget⟩
    exact .push hacyclic hget (hfits.avoids.of_uses (.single (.inr henters)))
      (hfits.shallow.enter hacyclic henters) (Nat.le_of_succ_le hfits.bounded) hfits.known
  named {depth _ _ _ name _ _} _ href hresolve _ _ _ :=
    (structuralAt_ref href depth).mpr ⟨name, hresolve, rfl⟩
  declare {_ name target expr _ context} hfits hget hinv hexpr := by
    refine eachDeclared_add hinv fun other hother => ?_
    obtain rfl : target = other := Option.some.inj (hget.symm.trans hother)
    refine structuralAt_le (hfits.bounded.trans ?_) hexpr
    exact Nat.mul_le_mul_left _ (by omega)

end Conversion

end OpenApiClient
