import Mathlib.Data.List.Perm.Subperm
import OpenApiClient.Proofs.Conversion.WellFormed

/-!
# An `allOf` loses nothing

The members of an `allOf` are of two sorts: those that stand for a plain object (`HasShape`), and all
others. What a schema says about objects beside its `allOf` is one more member. The objects are
merged, and the merged object is intersected with the others, which keep their order.

This file says what comes out without mentioning how: `SortedMembers` sorts the members by what they
stand for, `Defines` says which properties the merged object has, and `MergedObject` what it looks
like.
`allOf_sorted_and_merged` states that conversions of an `allOf` with two or more members give this.

Following references is cut off at names on the stack and at names that come up again. A chain in
which a name came up again would never end, and so stand for no object; hence the second cut loses
nothing (`objectBehind?_eq_some_iff`).
-/

namespace OpenApiClient.Conversion

open List

variable {registry : Registry} {stack : List String} {member target shape : Schema}

/-! ### The object that a member stands for -/

theorem PointsTo.unique {other : Schema} (hfirst : PointsTo registry stack member target)
    (hsecond : PointsTo registry stack member other) : target = other := by
  obtain ⟨ref, name, href, hname, -, hget⟩ := hfirst
  obtain ⟨_, _, href', hname', -, hget'⟩ := hsecond
  cases href.symm.trans href'
  cases hname.symm.trans hname'
  exact Option.some.inj (hget.symm.trans hget')

theorem ref_of_isPlainObject (h : shape.isPlainObject = true) : shape.ref = none := by
  simp only [Schema.isPlainObject, Bool.and_eq_true, Option.isNone_iff_eq_none] at h
  exact h.1.1.1.2

theorem not_pointsTo_of_isPlainObject (h : shape.isPlainObject = true) :
    ¬ PointsTo registry stack shape target := by
  rintro ⟨ref, -, href, -⟩
  rw [ref_of_isPlainObject h] at href
  cases href

/-- References that lead to an object do not lead in a circle. -/
theorem HasShape.not_circular (h : HasShape registry stack member shape) :
    ¬ Relation.TransGen (PointsTo registry stack) member member := by
  induction h with
  | plain hplain =>
    intro hcircle
    obtain ⟨_, hpoints, -⟩ := Relation.TransGen.head'_iff.mp hcircle
    exact not_pointsTo_of_isPlainObject hplain hpoints
  | follow hpoints _ ih =>
    intro hcircle
    obtain ⟨next, hnext, hrest⟩ := Relation.TransGen.head'_iff.mp hcircle
    obtain rfl := hpoints.unique hnext
    exact ih (.tail' hrest hpoints)

/-- There are no more names that have been passed than registered ones. -/
theorem length_followed_le {followed : List String} (hnodup : followed.Nodup)
    (h : ∀ name ∈ followed, ∃ found, registry.get? name = some found ∧
      Relation.ReflTransGen (PointsTo registry stack) found member) :
    followed.length ≤ registry.names.length := by
  have hknown : ∀ name ∈ followed, name ∈ registry.names := by
    intro name hname
    obtain ⟨found, hget, -⟩ := h name hname
    exact Registry.mem_names_of_get? hget
  exact (hnodup.subperm hknown).length_le

/-- A member that stands for an object is followed to it, if the names passed so far led here. -/
theorem plainObject?_of_hasShape (h : HasShape registry stack member shape) :
    ∀ {fuel : Nat} {followed : List String},
      (∀ name ∈ followed, ∃ target, registry.get? name = some target ∧
        Relation.ReflTransGen (PointsTo registry stack) target member) →
      followed.Nodup → registry.names.length < fuel + followed.length →
      plainObject? registry stack fuel followed member = .ok (some shape) := by
  induction h with
  | plain hplain =>
    intro fuel followed hfollowed hnodup hfuel
    cases fuel with
    | zero =>
      have hle := length_followed_le hnodup hfollowed
      omega
    | succ fuel => simp [plainObject?, ref_of_isPlainObject hplain, hplain]
  | @follow member target shape hpoints hshape ih =>
    intro fuel followed hfollowed hnodup hfuel
    have hle := length_followed_le hnodup hfollowed
    obtain ⟨fuel, rfl⟩ : ∃ fewer, fuel = fewer + 1 := ⟨fuel - 1, by omega⟩
    obtain ⟨ref, name, href, hname, hstack, hget⟩ := id hpoints
    -- a name that came up before would make the references lead in a circle
    have hnew : name ∉ followed := by
      intro hmem
      obtain ⟨found, hfound, hpath⟩ := hfollowed name hmem
      cases hget.symm.trans hfound
      exact hshape.not_circular (.tail' hpath hpoints)
    have hrest := @ih fuel (followed ++ [name]) ?_
      (hnodup.append (nodup_singleton name) (by simpa using hnew)) (by simp; omega)
    · simp [plainObject?, href, hname, bind, Except.bind, hstack, hnew, hget, hrest]
    · intro other hother
      rcases mem_append.mp hother with hother | hother
      · obtain ⟨found, hfound, hpath⟩ := hfollowed other hother
        exact ⟨found, hfound, hpath.tail hpoints⟩
      · rw [mem_singleton.mp hother]
        exact ⟨target, hget, .refl⟩

theorem objectBehind?_eq_some_iff :
    objectBehind? registry stack member = .ok (some shape) ↔
      HasShape registry stack member shape := by
  refine ⟨hasShape_of_plainObject?, fun h => ?_⟩
  exact plainObject?_of_hasShape h (by simp) nodup_nil (by simp)

/-! ### The members, sorted -/

/-- Members with their places, sorted into the objects that some stand for and all others, both in
their order. -/
inductive SortedMembers (registry : Registry) (stack : List String) :
    List (Schema × Nat) → List Schema → List (Schema × Nat) → Prop
  | nil : SortedMembers registry stack [] [] []
  | shape {member shape : Schema} {index : Nat} {rest others : List (Schema × Nat)}
      {shapes : List Schema} : HasShape registry stack member shape →
      SortedMembers registry stack rest shapes others →
      SortedMembers registry stack ((member, index) :: rest) (shape :: shapes) others
  | other {member : Schema} {index : Nat} {rest others : List (Schema × Nat)}
      {shapes : List Schema} : (∀ shape, ¬ HasShape registry stack member shape) →
      SortedMembers registry stack rest shapes others →
      SortedMembers registry stack ((member, index) :: rest) shapes ((member, index) :: others)

variable {members : List (Schema × Nat)}

theorem sortMembers_sorted (h : (sortMembers registry stack members).stop = none) :
    SortedMembers registry stack members (sortMembers registry stack members).shapes
      (sortMembers registry stack members).others := by
  induction members with
  | nil => exact .nil
  | cons first rest ih =>
    unfold sortMembers at h ⊢
    split at h
    · cases h
    · rename_i shape hshape
      exact .shape (objectBehind?_eq_some_iff.mp hshape) (ih h)
    · rename_i hnone
      refine .other (fun shape hshape => ?_) (ih h)
      rw [objectBehind?_eq_some_iff.mpr hshape] at hnone
      cases hnone

variable {shapes : List Schema}

theorem SortedMembers.others_eq_nil_iff {others : List (Schema × Nat)}
    (h : SortedMembers registry stack members shapes others) :
    others = [] ↔ ∀ member ∈ members.map (·.1), ∃ shape, HasShape registry stack member shape := by
  induction h with
  | nil => simp
  | shape hshape _ ih => simp [ih, Exists.intro _ hshape]
  | other hnone _ ih => simp [hnone]

theorem SortedMembers.shapes_eq_nil_iff {others : List (Schema × Nat)}
    (h : SortedMembers registry stack members shapes others) :
    shapes = [] ↔ ∀ member ∈ members.map (·.1), ∀ shape, ¬ HasShape registry stack member shape := by
  induction h with
  | nil => simp
  | shape hshape _ ih =>
    simp only [reduceCtorEq, map_cons, forall_mem_cons, false_iff, not_and]
    exact fun hnone => absurd hshape (hnone _)
  | other hnone _ ih => simp [ih, hnone]

/-! ### The merged object -/

/-- The names and schemas of the properties of several objects: each name once, where it first comes
up, with its last schema. -/
structure Defines (shapes : List Schema) (definitions : List (String × Schema)) : Prop where
  names : definitions.map (·.1) =
    (shapes.flatMap fun shape => shape.properties.map (·.1)).eraseDups
  last : ∀ definition ∈ definitions,
    (shapes.flatMap (·.properties)).reverse.lookup definition.1 = some definition.2

/-- No object requires a property of this name. -/
def MayMiss (shapes : List Schema) (name : String) : Prop :=
  ∀ shape ∈ shapes, name ∉ shape.required.getD []

/-- No object requires anything. -/
def RequireNothing (shapes : List Schema) : Prop := ∀ shape ∈ shapes, shape.required.getD [] = []

instance (shapes : List Schema) (name : String) : Decidable (MayMiss shapes name) :=
  inferInstanceAs (Decidable (∀ shape ∈ shapes, _))

instance (shapes : List Schema) : Decidable (RequireNothing shapes) :=
  inferInstanceAs (Decidable (∀ shape ∈ shapes, _))

/-- The last word of several objects on other properties. -/
def lastAdditional? (shapes : List Schema) : Option (Additional Schema) :=
  shapes.reverse.findSome? (·.additional)

theorem properties_foldl_mergeObject (shapes : List Schema) (merged : Schema) :
    (shapes.foldl mergeObject merged).properties =
      (shapes.flatMap (·.properties)).foldl
        (fun table property => Named.insert table property.1 property.2) merged.properties := by
  induction shapes generalizing merged with
  | nil => rfl
  | cons shape rest ih =>
    rw [foldl_cons, ih, flatMap_cons, foldl_append]
    rfl

theorem properties_mergeObjects (shapes : List Schema) :
    (mergeObjects shapes).properties = Named.ofPairs (shapes.flatMap (·.properties)) :=
  properties_foldl_mergeObject shapes _

theorem mergeObjects_defines (shapes : List Schema) :
    Defines shapes (mergeObjects shapes).properties := by
  have hnames : (Named.ofPairs (shapes.flatMap (·.properties))).map (·.1) =
      (shapes.flatMap fun shape => shape.properties.map (·.1)).eraseDups := by
    rw [Named.map_fst_ofPairs, map_flatMap]
  refine ⟨by rw [properties_mergeObjects, hnames], fun definition hdefinition => ?_⟩
  rw [properties_mergeObjects] at hdefinition
  rw [← Named.lookup_ofPairs, Named.lookup_iff_mem]
  · exact hdefinition
  · exact Named.nodup_foldl_insert nodup_nil

variable {name : String}

theorem mem_foldl_unionRequired (names all : List String) :
    name ∈ names.foldl (fun all name => if all.contains name then all else all ++ [name]) all ↔
      name ∈ all ∨ name ∈ names := by
  induction names generalizing all with
  | nil => simp
  | cons first rest ih =>
    rw [foldl_cons, ih]
    by_cases hfirst : first ∈ all
    · simp only [contains_iff_mem, hfirst, if_true, mem_cons]
      constructor
      · exact fun h => h.imp_right .inr
      · rintro (h | rfl | h)
        · exact .inl h
        · exact .inl hfirst
        · exact .inr h
    · simp [hfirst, or_assoc]

theorem mem_unionRequired (first second : Option (List String)) :
    name ∈ (unionRequired first second).getD [] ↔
      name ∈ first.getD [] ∨ name ∈ second.getD [] := by
  cases second with
  | none => simp [unionRequired]
  | some names => rw [unionRequired, Option.getD_some, mem_foldl_unionRequired, Option.getD_some]

theorem mem_required_foldl_mergeObject (shapes : List Schema) (merged : Schema) :
    name ∈ (shapes.foldl mergeObject merged).required.getD [] ↔
      name ∈ merged.required.getD [] ∨ ∃ shape ∈ shapes, name ∈ shape.required.getD [] := by
  induction shapes generalizing merged with
  | nil => simp
  | cons shape rest ih =>
    rw [foldl_cons, ih, mergeObject, mem_unionRequired, exists_mem_cons_iff, or_assoc]

/-- A merged object requires what one of the objects requires. -/
theorem mem_required_mergeObjects (shapes : List Schema) :
    name ∈ (mergeObjects shapes).required.getD [] ↔
      ∃ shape ∈ shapes, name ∈ shape.required.getD [] := by
  rw [mergeObjects, mem_required_foldl_mergeObject]
  simp

theorem mayMiss_mergeObjects (shapes : List Schema) (name : String) :
    mayMiss (mergeObjects shapes) name = decide (MayMiss shapes name) := by
  rw [Bool.eq_iff_iff, decide_eq_true_iff, mayMiss, Bool.not_eq_true', ← Bool.not_eq_true,
    contains_iff_mem, mem_required_mergeObjects]
  simp [MayMiss]

theorem makesPartial_mergeObjects (shapes : List Schema) :
    makesPartial (mergeObjects shapes) = true ↔
      RequireNothing shapes ∧ (mergeObjects shapes).properties ≠ [] := by
  have hrequired : (mergeObjects shapes).required.getD [] = [] ↔ RequireNothing shapes := by
    simp only [eq_nil_iff_forall_not_mem, mem_required_mergeObjects, RequireNothing]
    grind
  rw [makesPartial, Bool.and_eq_true, List.isEmpty_iff, hrequired, Bool.not_eq_true',
    isEmpty_eq_false_iff]

theorem additional_mergeObjects_eq (shapes : List Schema) :
    (mergeObjects shapes).additional = lastAdditional? shapes := by
  rw [mergeObjects, lastAdditional?]
  induction shapes using reverseRecOn with
  | nil => rfl
  | append_singleton shapes shape ih =>
    rw [foldl_append, foldl_cons, foldl_nil, mergeObject, ih, reverse_append,
      reverse_singleton, singleton_append, findSome?_cons]
    cases shape.additional <;> rfl

/-! ### What the merged object becomes -/

/-- The merged object, converted from one state to another: its properties in their order, which of
them may be missing, and what it says about others. -/
structure MergedObject (convert : Converter) (settings : Settings) (shapes : List Schema)
    (definitions : List (String × Schema)) (context : Context) (before : Progress) (object : Expr)
    (after : Progress) : Prop where
  form : object = { kind := .object, properties := object.properties, others := object.others
                    modifiers := object.modifiers }
  names : object.properties.map (·.name) = definitions.map (·.1)
  optional : ∀ property ∈ object.properties,
    property.optional = true ↔ MayMiss shapes property.name
  partialObject : object.hasModifier .partialObject ↔ RequireNothing shapes ∧ definitions ≠ []
  strict : object.hasModifier .strict ↔ lastAdditional? shapes = some (.allowed false) ∨
    lastAdditional? shapes = none ∧ settings.config.strictObjects = true
  passthrough : object.hasModifier .passthrough ↔ lastAdditional? shapes = some (.allowed true) ∨
    lastAdditional? shapes = none ∧ settings.config.strictObjects = false
  modifiers : ∀ modifier ∈ object.modifiers,
    modifier.kind = .partialObject ∨ modifier.kind = .strict ∨ modifier.kind = .passthrough
  converted : ∃ middle,
    outcome (convertParts convert (definitions.map fun definition => (definition.2,
        context.child ("properties/" ++ Pointer.escape definition.1)
          (decide (MayMiss shapes definition.1) && !decide (RequireNothing shapes))))) before =
      (.ok (object.properties.map (·.expr)), middle) ∧
    (∀ others, lastAdditional? shapes = some (.schema others) → ∃ expr, object.others = some expr ∧
      outcome (convert others (context.child "additionalProperties" false)) middle =
        (.ok expr, after)) ∧
    ((∀ others, lastAdditional? shapes ≠ some (.schema others)) →
      object.others = none ∧ after = middle)

variable {exprs : List Expr} {schema : Schema}

theorem optional_of_mem_zipWith {properties : List (String × Schema)} {property : Property Expr}
    (h : property ∈ zipWith (convertedProperty schema) properties exprs) :
    property.optional = mayMiss schema property.name := by
  obtain ⟨index, hindex, rfl⟩ := mem_iff_getElem.mp h
  rw [getElem_zipWith]
  rfl

theorem map_expr_zipWith {properties : List (String × Schema)}
    (h : exprs.length = properties.length) :
    (zipWith (convertedProperty schema) properties exprs).map (·.expr) = exprs := by
  rw [map_zipWith]
  refine ext_getElem (by simp [h]) fun index _ _ => ?_
  rw [getElem_zipWith]
  rfl

/-- The kinds of modifiers that an object has. -/
theorem hasModifier_objectExpr {strict : Bool} {kind : ModifierKind} :
    (objectExpr strict schema exprs).hasModifier kind ↔
      kind = .partialObject ∧ makesPartial schema = true ∨
      kind = .strict ∧ (schema.additional = some (.allowed false) ∨
        schema.additional = none ∧ strict = true) ∨
      kind = .passthrough ∧ (schema.additional = some (.allowed true) ∨
        schema.additional = none ∧ strict = false) := by
  rw [objectExpr, Expr.hasModifier_withModifiers]
  simp only [Expr.hasModifier, any_nil, Bool.false_eq_true, false_or]
  cases makesPartial schema <;> rcases schema.additional with _ | (_ | _) | _ <;> cases strict <;>
    simp [objectModifiers]

variable {after before : Progress} {context : Context} {convert : Converter}

/-- The schema for other properties is converted last, if there is one. -/
theorem outcome_otherParts
    (h : outcome (convertParts convert (otherParts schema context)) before = (.ok exprs, after)) :
    (∀ others, schema.additional = some (.schema others) → ∃ expr, exprs.head? = some expr ∧
      outcome (convert others (context.child "additionalProperties" false)) before =
        (.ok expr, after)) ∧
    ((∀ others, schema.additional ≠ some (.schema others)) → exprs.head? = none ∧ after = before) := by
  rw [otherParts_eq] at h
  cases hothers : schema.otherProperties with
  | some others =>
    have hadditional := Schema.otherProperties_eq_some.mp hothers
    rw [hothers, Option.toList_some, map_singleton, convertParts] at h
    obtain ⟨expr, rest, middle, rfl, hexpr, hrest⟩ := outcome_mapM_cons_ok.mp h
    obtain ⟨rfl, rfl⟩ : [] = rest ∧ middle = after := by simpa using hrest
    refine ⟨fun found hfound => ⟨expr, rfl, ?_⟩, fun hnone => absurd hadditional (hnone others)⟩
    cases hadditional.symm.trans hfound
    exact hexpr
  | none =>
    have hnone : ∀ others, schema.additional ≠ some (.schema others) := by
      intro others hadditional
      rw [Schema.otherProperties_eq_some.mpr hadditional] at hothers
      cases hothers
    rw [hothers] at h
    obtain ⟨rfl, rfl⟩ : [] = exprs ∧ before = after := by simpa [convertParts] using h
    exact ⟨fun others hadditional => absurd hadditional (hnone others), fun _ => ⟨rfl, rfl⟩⟩

theorem mergedObject_of_outcome {settings : Settings}
    (h : outcome (convertParts convert (objectParts (mergeObjects shapes) context)) before =
      (.ok exprs, after)) :
    MergedObject convert settings shapes (mergeObjects shapes).properties context before
      (objectExpr settings.config.strictObjects (mergeObjects shapes) exprs) after := by
  rw [objectParts, convertParts_append] at h
  obtain ⟨own, middle, hown, hrest⟩ := outcome_bind_ok.mp h
  obtain ⟨others, last, hothers, hpure⟩ := outcome_bind_ok.mp hrest
  obtain ⟨rfl, rfl⟩ : own ++ others = exprs ∧ last = after := by simpa using hpure
  have hlength : (mergeObjects shapes).properties.length = own.length := by
    simpa using (length_of_outcome_mapM hown).symm
  have hproperties : (objectExpr settings.config.strictObjects (mergeObjects shapes)
      (own ++ others)).properties =
      zipWith (convertedProperty (mergeObjects shapes)) (mergeObjects shapes).properties own := by
    rw [objectExpr, Expr.withModifiers_properties, zipWith_append_right hlength]
  have hlast : (objectExpr settings.config.strictObjects (mergeObjects shapes)
      (own ++ others)).others = others.head? := by
    rw [objectExpr, Expr.withModifiers_others, hlength, getElem?_append_right (Nat.le_refl _),
      Nat.sub_self, head?_eq_getElem?]
  have hkinds : ∀ {kind}, (objectExpr settings.config.strictObjects (mergeObjects shapes)
      (own ++ others)).hasModifier kind ↔ _ := hasModifier_objectExpr
  rw [makesPartial_mergeObjects, additional_mergeObjects_eq] at hkinds
  have hcontext : ∀ property ∈ (mergeObjects shapes).properties,
      (property.2, propertyContext (mergeObjects shapes) context property.1) = (property.2,
        context.child ("properties/" ++ Pointer.escape property.1)
          (decide (MayMiss shapes property.1) && !decide (RequireNothing shapes))) := by
    intro property hproperty
    have hpartial : makesPartial (mergeObjects shapes) = decide (RequireNothing shapes) := by
      rw [Bool.eq_iff_iff, makesPartial_mergeObjects, decide_eq_true_iff,
        and_iff_left (ne_nil_of_mem hproperty)]
    rw [propertyContext, mayMiss_mergeObjects, hpartial]
  refine ⟨?_, ?_, ?_, ?_, ?_, ?_, ?_, middle, ?_, ?_⟩
  · unfold objectExpr Expr.withModifiers
    split <;> rfl
  · rw [hproperties]
    exact map_name_zipWith (Nat.le_of_eq hlength)
  · intro property hproperty
    rw [hproperties] at hproperty
    rw [optional_of_mem_zipWith hproperty, mayMiss_mergeObjects, decide_eq_true_iff]
  · simp [hkinds]
  · simp [hkinds]
  · simp [hkinds]
  · intro modifier hmodifier
    have hkind := hkinds.mp (Expr.hasModifier_iff.mpr (mem_map_of_mem hmodifier))
    exact hkind.imp (·.1) (Or.imp (·.1) (·.1))
  · rw [hproperties, map_expr_zipWith hlength.symm, ← map_congr_left hcontext]
    exact hown
  · rw [hlast, ← additional_mergeObjects_eq]
    exact outcome_otherParts hothers

/-! ### What an `allOf` becomes -/

/-- What several members become, converted from one state to another: the merged object, alone or
intersected with the other members. -/
def Composed (convert : Converter) (settings : Settings) (members : List Schema) (context : Context)
    (before : Progress) (base : Expr) (after : Progress) : Prop :=
  ∃ (shapes : List Schema) (others : List (Schema × Nat)) (definitions : List (String × Schema))
    (translations : List Expr) (middle : Progress),
    SortedMembers settings.registry context.stack members.zipIdx shapes others ∧
    Defines shapes definitions ∧
    outcome (convertParts convert (others.map fun other =>
      (other.1, context.child ("allOf/" ++ toString other.2) false))) before =
      (.ok translations, middle) ∧
    ((∀ member ∈ members, ∀ shape, ¬ HasShape settings.registry context.stack member shape) →
      base = { kind := .intersection, members := translations } ∧ after = middle) ∧
    ((∃ member ∈ members, ∃ shape, HasShape settings.registry context.stack member shape) →
      ∃ object, MergedObject convert settings shapes definitions context middle object after ∧
        ((∀ member ∈ members, ∃ shape, HasShape settings.registry context.stack member shape) →
          base = object) ∧
        ((∃ member ∈ members, ∀ shape, ¬ HasShape settings.registry context.stack member shape) →
          base = { kind := .intersection, members := object :: translations }))

theorem joinParts_of_length {parts : List Expr} (h : parts.length ≠ 1) :
    joinParts parts = { kind := .intersection, members := parts } := by
  unfold joinParts
  split
  · simp at h
  · rfl

theorem Plan.outcome_run_ok {plan : Plan} {location : String} {base : Expr}
    (hnotes : plan.notes = []) (h : outcome (plan.run convert location) before = (.ok base, after)) :
    plan.stop = none ∧ ∃ exprs, outcome (convertParts convert plan.parts) before = (.ok exprs, after) ∧
      base = plan.build exprs := by
  rw [Plan.run, hnotes] at h
  obtain ⟨_, _, hnone, hrest⟩ := outcome_bind_ok.mp h
  cases hnone
  obtain ⟨exprs, middle, hexprs, hbuild⟩ := outcome_bind_ok.mp hrest
  cases hstop : plan.stop with
  | some error => simp [hstop] at hbuild
  | none =>
    obtain ⟨rfl, rfl⟩ : plan.build exprs = base ∧ middle = after := by simpa [hstop] using hbuild
    exact ⟨rfl, exprs, hexprs, rfl⟩

theorem composed_of_outcome {settings : Settings} {members : List Schema} {base : Expr}
    (hmembers : 2 ≤ members.length)
    (h : outcome ((membersPlan settings (sortMembers settings.registry context.stack
      members.zipIdx) context).run convert context.location) before = (.ok base, after)) :
    Composed convert settings members context before base after := by
  obtain ⟨hstop, exprs, hexprs, rfl⟩ := Plan.outcome_run_ok rfl h
  have hsorted := sortMembers_sorted hstop
  have hcount := sortMembers_length hstop
  have hshapes := hsorted.shapes_eq_nil_iff
  have hothers := hsorted.others_eq_nil_iff
  rw [length_zipIdx] at hcount
  rw [zipIdx_map_fst] at hshapes hothers
  generalize sortMembers settings.registry context.stack members.zipIdx = sorted at *
  simp only [membersPlan, show sorted.stop = none from hstop, Option.isSome_none, Bool.false_eq_true,
    if_false, convertParts_append] at hexprs ⊢
  obtain ⟨translations, middle, htranslations, hrest⟩ := outcome_bind_ok.mp hexprs
  obtain ⟨own, last, hown, hpure⟩ := outcome_bind_ok.mp hrest
  obtain ⟨rfl, rfl⟩ : translations ++ own = exprs ∧ last = after := by simpa using hpure
  have hlength : translations.length = sorted.others.length := by
    simpa [memberParts] using length_of_outcome_mapM htranslations
  rw [← hlength, drop_left, take_left]
  refine ⟨sorted.shapes, sorted.others, (mergeObjects sorted.shapes).properties, translations, middle,
    hsorted, mergeObjects_defines _, htranslations, fun hnone => ?_, fun hsome => ?_⟩
  · -- no member is an object, so nothing is merged
    have hnil := hshapes.mpr hnone
    have hmerged : sorted.merged? = none := by simp [Members.merged?, hnil]
    rw [hmerged] at hown ⊢
    obtain ⟨rfl, rfl⟩ : [] = own ∧ middle = last := by simpa [convertParts] using hown
    rw [hnil, length_nil] at hcount
    exact ⟨joinParts_of_length (by simp; omega), rfl⟩
  · have hne : sorted.shapes ≠ [] := by
      rw [Ne, hshapes]
      simpa using hsome
    have hmerged : sorted.merged? = some (mergeObjects sorted.shapes) := by
      simp [Members.merged?, hne]
    rw [hmerged, Option.toList_some, flatMap_singleton] at hown
    rw [hmerged, Option.toList_some, map_singleton, singleton_append]
    refine ⟨_, mergedObject_of_outcome hown, fun hall => ?_, fun hother => ?_⟩
    · rw [hothers.mpr hall, length_nil, length_eq_zero_iff] at hlength
      rw [hlength]
      rfl
    · have hrest : sorted.others ≠ [] := by
        rw [Ne, hothers]
        simpa using hother
      have hpositive := length_pos_iff.mpr hrest
      exact joinParts_of_length (by rw [length_cons]; omega)

/-- An `allOf` with two or more members, its own words on objects included, becomes what its members
are composed to. A schema that is an `allOf` and no reference is converted to that, and gets its last
modifiers then. -/
theorem allOf_sorted_and_merged (settings : Settings) (depth : Nat) (schema : Schema)
    (allOf : List Schema) (context : Context) (before : Progress)
    (hmembers : 2 ≤ (allOf ++ (siblingMember? schema).toList).length) :
    (∀ base after,
      outcome (convertAllOf (convertAt settings depth) settings schema allOf context) before =
        (.ok base, after) →
      Composed (convertAt settings depth) settings (allOf ++ (siblingMember? schema).toList) context
        before base after) ∧
    (schema.ref = none → schema.allOf = some allOf → ∀ expr after,
      outcome (convertAt settings (depth + 1) schema context) before = (.ok expr, after) ↔
        ∃ base, outcome (convertAllOf (convertAt settings depth) settings schema allOf context) before =
          (.ok base, after) ∧ expr = finished settings schema context.optional base) := by
  refine ⟨fun base after h => ?_, fun href hallOf expr after => ?_⟩
  · rw [convertAllOf_eq] at h
    unfold allOfPlan at h
    split at h
    · rename_i member hmember
      simp [hmember] at hmembers
    · exact composed_of_outcome hmembers h
  · have hkind : convertKind (convertAt settings depth) settings schema context =
        convertAllOf (convertAt settings depth) settings schema allOf context := by
      simp [convertKind, href, hallOf]
    rw [convertAt, hkind, outcome_bind_ok]
    constructor
    · rintro ⟨base, reached, hbase, hpure⟩
      cases hpure
      exact ⟨base, hbase, rfl⟩
    · rintro ⟨base, hbase, rfl⟩
      exact ⟨base, after, hbase, rfl⟩

/-- A schema with an object that is referred to, an object of its own and a choice. -/
def composedSchema : Schema where
  allOf := some [{ ref := some "#/components/schemas/A" },
    { oneOf := some [{ kind := .string }, { ref := some "#/components/schemas/A" }] }]
  properties := [("id", { kind := .string }), ("other", { kind := .boolean })]
  required := some ["id"]
  additional := some (.allowed false)

def composedSettings : Settings where
  registry :=
    { schemas := [("A", { kind := .object
                          properties := [("name", { kind := .string }), ("id", { kind := .integer })]
                          additional := some (.schema { kind := .string }) })] }
  config := {}

theorem allOf_sorted_and_merged_composedSchema :
    ∃ base after, outcome (convertAllOf (convertAt composedSettings 5) composedSettings composedSchema
        (composedSchema.allOf.getD []) {}) {} = (.ok base, after) ∧
      base.kind = .intersection ∧
      Composed (convertAt composedSettings 5) composedSettings
        (composedSchema.allOf.getD [] ++ (siblingMember? composedSchema).toList) {} {} base after := by
  have hok : ((outcome (convertAllOf (convertAt composedSettings 5) composedSettings composedSchema
      (composedSchema.allOf.getD []) {}) {}).1.map (·.kind)).toOption = some .intersection := by
    decide +kernel
  rcases hresult : outcome (convertAllOf (convertAt composedSettings 5) composedSettings
    composedSchema (composedSchema.allOf.getD []) {}) {} with ⟨failure | base, after⟩
  · rw [hresult] at hok
    cases hok
  · rw [hresult] at hok
    refine ⟨base, after, rfl, Option.some.inj hok, ?_⟩
    exact (allOf_sorted_and_merged composedSettings 5 composedSchema (composedSchema.allOf.getD []) {}
      {} (by decide)).1 base after hresult

end OpenApiClient.Conversion
