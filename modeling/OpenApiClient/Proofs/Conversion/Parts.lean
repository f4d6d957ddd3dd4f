import Mathlib.Logic.Relation
import OpenApiClient.Proofs.Conversion.Plan
import OpenApiClient.Proofs.Schema.Reader

/-!
# Where the parts of a conversion come from

The conversion of a schema goes on with what the schema consists of, and, because objects behind the
members of an `allOf` are merged, with what other named schemas consist of. `mem_plan_parts` says
so for every schema, and `every_of_mem_plan_parts` draws the conclusion that all proofs about the
results of conversions use: what is true of every fragment of a schema and of the registry stays
true of all that is converted. `EveryRef` says the same of the references that a conversion can
come to.
-/

namespace OpenApiClient.Conversion

open List

variable {registry : Registry} {stack : List String}

/-- A schema refers to a registered one. -/
def RefersTo (registry : Registry) (schema other : Schema) : Prop :=
  ∃ ref name, schema.ref = some ref ∧ registry.resolve ref = .ok name ∧
    registry.get? name = some other

/-- A schema makes use of those it consists of and of the one it refers to. -/
def Uses (registry : Registry) (schema other : Schema) : Prop :=
  other ∈ schema.children ∨ RefersTo registry schema other

theorem uses_of_refersTo {schema other : Schema}
    (h : Relation.ReflTransGen (RefersTo registry) schema other) :
    Relation.ReflTransGen (Uses registry) schema other :=
  h.lift id fun _ _ => .inr

/-! ### Objects that are merged -/

/-- A schema refers to a registered one whose name is not on the stack. -/
def PointsTo (registry : Registry) (stack : List String) (schema other : Schema) : Prop :=
  ∃ ref name, schema.ref = some ref ∧ registry.resolve ref = .ok name ∧ name ∉ stack ∧
    registry.get? name = some other

/-- The plain object that a member of an `allOf` stands for: itself, or the one that references
lead to. -/
inductive HasShape (registry : Registry) (stack : List String) : Schema → Schema → Prop
  | plain {shape : Schema} : shape.isPlainObject = true → HasShape registry stack shape shape
  | follow {member target shape : Schema} : PointsTo registry stack member target →
      HasShape registry stack target shape → HasShape registry stack member shape

theorem HasShape.refersTo {member shape : Schema} (h : HasShape registry stack member shape) :
    Relation.ReflTransGen (RefersTo registry) member shape := by
  induction h with
  | plain => exact .refl
  | follow hpoints _ ih =>
    obtain ⟨ref, name, href, hname, -, hget⟩ := hpoints
    exact .head ⟨ref, name, href, hname, hget⟩ ih

/-- The object behind a member is one that it stands for. -/
theorem hasShape_of_plainObject? :
    ∀ {fuel : Nat} {followed : List String} {member shape : Schema},
      plainObject? registry stack fuel followed member = .ok (some shape) →
        HasShape registry stack member shape := by
  intro fuel
  induction fuel with
  | zero => intro followed member shape h; cases h
  | succ fuel ih =>
    intro followed member shape h
    unfold plainObject? at h
    cases href : member.ref with
    | none =>
      simp only [href] at h
      split at h
      · rename_i hplain
        cases h
        exact .plain hplain
      · cases h
    | some ref =>
      simp only [href] at h
      cases hname : registry.resolve ref with
      | error error => rw [hname] at h; cases h
      | ok name =>
        rw [hname] at h
        simp only [bind, Except.bind] at h
        split at h
        · cases h
        · rename_i hnew
          split at h
          · rename_i schema hschema
            have hstack : name ∉ stack := fun hmem => hnew (by simp [hmem])
            exact .follow ⟨ref, name, href, hname, hstack, hschema⟩ (ih h)
          · cases h

variable {members : List (Schema × Nat)}

theorem mem_sortMembers_others {member : Schema × Nat}
    (h : member ∈ (sortMembers registry stack members).others) : member ∈ members := by
  induction members with
  | nil => cases h
  | cons first rest ih =>
    unfold sortMembers at h
    split at h
    · cases h
    · exact mem_cons_of_mem _ (ih h)
    · rcases mem_cons.mp h with rfl | h
      · exact mem_cons_self
      · exact mem_cons_of_mem _ (ih h)

theorem mem_sortMembers_shapes {shape : Schema}
    (h : shape ∈ (sortMembers registry stack members).shapes) :
    ∃ member ∈ members, HasShape registry stack member.1 shape := by
  induction members with
  | nil => cases h
  | cons first rest ih =>
    have hrest : shape ∈ (sortMembers registry stack rest).shapes →
        ∃ member ∈ first :: rest, HasShape registry stack member.1 shape := by
      intro h
      obtain ⟨member, hmember, hhas⟩ := ih h
      exact ⟨member, mem_cons_of_mem _ hmember, hhas⟩
    unfold sortMembers at h
    split at h
    · cases h
    · rename_i other hother
      rcases mem_cons.mp h with rfl | h
      · exact ⟨first, mem_cons_self, hasShape_of_plainObject? hother⟩
      · exact hrest h
    · exact hrest h

theorem sortMembers_length (h : (sortMembers registry stack members).stop = none) :
    (sortMembers registry stack members).shapes.length +
      (sortMembers registry stack members).others.length = members.length := by
  induction members with
  | nil => rfl
  | cons first rest ih =>
    unfold sortMembers at h ⊢
    split at h
    · cases h
    · have := ih h
      simp only [length_cons]
      omega
    · have := ih h
      simp only [length_cons]
      omega

/-- A merged object has the properties of the objects it was merged from. -/
theorem mem_properties_mergeObjects {property : String × Schema} :
    ∀ {shapes : List Schema} {merged : Schema},
      property ∈ (shapes.foldl mergeObject merged).properties →
        property ∈ merged.properties ∨ ∃ shape ∈ shapes, property ∈ shape.properties := by
  intro shapes
  induction shapes with
  | nil => intro merged h; exact .inl h
  | cons shape rest ih =>
    intro merged h
    rcases ih h with h | ⟨other, hother, h⟩
    · rcases Named.mem_foldl_insert h with h | h
      · exact .inr ⟨shape, mem_cons_self, h⟩
      · exact .inl h
    · exact .inr ⟨other, mem_cons_of_mem _ hother, h⟩

theorem additional_mergeObjects {additional : Additional Schema} :
    ∀ {shapes : List Schema} {merged : Schema},
      (shapes.foldl mergeObject merged).additional = some additional →
        merged.additional = some additional ∨ ∃ shape ∈ shapes, shape.additional = some additional := by
  intro shapes
  induction shapes with
  | nil => intro merged h; exact .inl h
  | cons shape rest ih =>
    intro merged h
    rcases ih h with h | ⟨other, hother, h⟩
    · cases hshape : shape.additional with
      | none =>
        simp only [mergeObject, hshape] at h
        exact .inl h
      | some own =>
        simp only [mergeObject, hshape] at h
        exact .inr ⟨shape, mem_cons_self, hshape.trans h⟩
    · exact .inr ⟨other, mem_cons_of_mem _ hother, h⟩

/-! ### Parts of plans -/

/-- A part of an object is the schema of a property or of all others. -/
theorem mem_objectParts {schema : Schema} {context : Context} {part : Schema × Context}
    (h : part ∈ objectParts schema context) :
    (∃ property ∈ schema.properties, property.2 = part.1) ∨
      schema.additional = some (.schema part.1) := by
  rcases mem_append.mp h with h | h
  · obtain ⟨property, hproperty, rfl⟩ := mem_map.mp h
    exact .inl ⟨property, hproperty, rfl⟩
  · unfold otherParts at h
    split at h
    · rename_i others hothers
      rw [mem_singleton.mp h]
      exact .inr hothers
    · cases h

theorem mem_children_of_objectParts {schema : Schema} {context : Context}
    {part : Schema × Context} (h : part ∈ objectParts schema context) :
    part.1 ∈ schema.children := by
  rcases mem_objectParts h with ⟨property, hproperty, heq⟩ | hadditional
  · exact heq ▸ Schema.mem_children_of_property hproperty
  · exact Schema.mem_children_of_additional hadditional

/-- The parts of a merged object are parts of the objects it was merged from. -/
theorem mem_children_of_mergeObjects {shapes : List Schema} {context : Context}
    {part : Schema × Context} (h : part ∈ objectParts (mergeObjects shapes) context) :
    ∃ shape ∈ shapes, part.1 ∈ shape.children := by
  rcases mem_objectParts h with ⟨property, hproperty, heq⟩ | hadditional
  · rcases mem_properties_mergeObjects hproperty with hnone | ⟨shape, hshape, hproperty⟩
    · cases hnone
    · exact ⟨shape, hshape, heq ▸ Schema.mem_children_of_property hproperty⟩
  · rcases additional_mergeObjects hadditional with hnone | ⟨shape, hshape, hadditional⟩
    · cases hnone
    · exact ⟨shape, hshape, Schema.mem_children_of_additional hadditional⟩

theorem mem_memberParts {keyword : String} {context : Context} {part : Schema × Context}
    (h : part ∈ memberParts keyword members context) : ∃ member ∈ members, member.1 = part.1 := by
  obtain ⟨member, hmember, rfl⟩ := mem_map.mp h
  exact ⟨member, hmember, rfl⟩

/-- What a schema says beside its `allOf` consists of what the schema consists of. -/
theorem children_siblingMember? {schema member child : Schema}
    (hmember : siblingMember? schema = some member) (hchild : child ∈ member.children) :
    child ∈ schema.children := by
  unfold siblingMember? at hmember
  split at hmember
  · cases hmember
    rcases Schema.mem_children.mp hchild with h | h | h | h | h | h
    · cases h
    · exact Schema.mem_children.mpr (.inr (.inl h))
    · exact Schema.mem_children.mpr (.inr (.inr (.inl h)))
    all_goals obtain ⟨members, hmembers, -⟩ := h; cases hmembers
  · cases hmember

variable {settings : Settings} {schema : Schema} {context : Context} {part : Schema × Context}

/-- What a schema says beside its `allOf` is no reference. -/
theorem ref_siblingMember? {schema member : Schema} (h : siblingMember? schema = some member) :
    member.ref = none := by
  unfold siblingMember? at h
  split at h
  · cases h
    rfl
  · cases h

theorem allOf_siblingMember? {schema member : Schema} (h : siblingMember? schema = some member) :
    member.allOf = none := by
  unfold siblingMember? at h
  split at h
  · cases h
    rfl
  · cases h

/-- A part of an `allOf` with sorted members is one of them, or a part of an object behind one. -/
theorem mem_membersPlan_parts
    (h : part ∈ (membersPlan settings (sortMembers settings.registry context.stack members)
      context).parts) :
    ∃ member ∈ members, part.1 = member.1 ∨
      Relation.TransGen (Uses settings.registry) member.1 part.1 := by
  rcases mem_append.mp h with h | h
  · obtain ⟨member, hothers, heq⟩ := mem_memberParts h
    exact ⟨member, mem_sortMembers_others hothers, .inl heq.symm⟩
  · split at h
    · cases h
    · obtain ⟨object, hobject, hpart⟩ := mem_flatMap.mp h
      rw [Option.mem_toList, Members.merged?] at hobject
      split at hobject
      · cases hobject
      · cases hobject
        obtain ⟨shape, hshape, hchild⟩ := mem_children_of_mergeObjects hpart
        obtain ⟨member, hmember, hhas⟩ := mem_sortMembers_shapes hshape
        exact ⟨member, hmember, .inr (.tail' (uses_of_refersTo hhas.refersTo) (.inl hchild))⟩

/-- A part of the conversion of a schema is something the schema makes use of, or the object it
describes beside its `allOf`. -/
theorem mem_plan_parts (h : part ∈ (plan settings schema context).parts) :
    Relation.TransGen (Uses settings.registry) schema part.1 ∨
      (schema.allOf.isSome ∧ siblingMember? schema = some part.1) := by
  have hplan := planned settings schema context
  generalize plan settings schema context = current at h hplan
  have hlisted : ∀ {allOf member}, schema.allOf = some allOf → member ∈ allOf →
      Uses settings.registry schema member := fun hallOf hmember =>
    .inl (Schema.mem_children.mpr (.inr (.inr (.inr (.inl ⟨_, hallOf, hmember⟩)))))
  cases hplan with
  | @single allOf member hallOf hmember =>
    rw [mem_singleton.mp h]
    rcases mem_append.mp (hmember ▸ mem_singleton_self member) with hlist | hsibling
    · exact .inl (.single (hlisted hallOf hlist))
    · exact .inr ⟨by simp [hallOf], Option.mem_toList.mp hsibling⟩
  | @members allOf hallOf =>
    obtain ⟨member, hmember, hpart⟩ := mem_membersPlan_parts h
    rcases mem_append.mp (fst_mem_of_mem_zipIdx hmember) with hlist | hsibling
    · rcases hpart with hpart | hpart
      · exact .inl (.single (hpart ▸ hlisted hallOf hlist))
      · exact .inl (.head (hlisted hallOf hlist) hpart)
    · rw [Option.mem_toList] at hsibling
      rcases hpart with hpart | hpart
      · exact .inr ⟨by simp [hallOf], hpart ▸ hsibling⟩
      · -- what the object makes use of first is something the schema consists of
        obtain ⟨child, hchild | ⟨ref, name, href, -⟩, hrest⟩ :=
          Relation.TransGen.head'_iff.mp hpart
        · exact .inl (.head' (.inl (children_siblingMember? hsibling hchild)) hrest)
        · rw [ref_siblingMember? hsibling] at href
          cases href
  | @union members _ _ hmembers =>
    obtain ⟨member, hmember, heq⟩ := mem_memberParts h
    have hpart : part.1 ∈ members := heq ▸ fst_mem_of_mem_zipIdx hmember
    refine .inl (.single (.inl (Schema.mem_children.mpr (.inr (.inr (.inr (.inr ?_)))))))
    exact hmembers.imp (fun h => ⟨members, h, hpart⟩) fun h => ⟨members, h, hpart⟩
  | object => exact .inl (.single (.inl (mem_children_of_objectParts h)))
  | array =>
    obtain ⟨items, hitems, rfl⟩ := mem_map.mp h
    exact .inl (.single (.inl (Schema.mem_children.mpr (.inl (Option.mem_toList.mp hitems)))))
  -- all other plans have no parts
  | fallback => cases h
  | choice => cases h
  | primitive => cases h

/-- What is true of every fragment of a schema and of the registry is true of every fragment of
what the schema makes use of. -/
theorem every_of_uses {good : Schema → Prop}
    (hregistry : ∀ entry ∈ registry.schemas, entry.2.Every good) {schema other : Schema}
    (hschema : schema.Every good) (h : Relation.ReflTransGen (Uses registry) schema other) :
    other.Every good := by
  induction h with
  | refl => exact hschema
  | tail _ huses ih =>
    rcases huses with hchild | ⟨ref, name, -, -, hget⟩
    · exact (Schema.every_iff.mp ih).2 _ hchild
    · exact hregistry _ (Registry.mem_schemas_of_get? hget)

/-- What is true of every fragment of a schema and of the registry is true of every fragment of
what the conversion goes on with. -/
theorem every_of_mem_plan_parts {good : Schema → Prop}
    (hsibling : ∀ {schema member}, good schema → siblingMember? schema = some member → good member)
    (hregistry : ∀ entry ∈ settings.registry.schemas, entry.2.Every good)
    (hschema : schema.Every good) (h : part ∈ (plan settings schema context).parts) :
    part.1.Every good := by
  rcases mem_plan_parts h with huses | ⟨-, hmember⟩
  · exact every_of_uses hregistry hschema huses.to_reflTransGen
  · rw [Schema.every_iff] at hschema ⊢
    exact ⟨hsibling hschema.1 hmember, fun child hchild =>
      hschema.2 child (children_siblingMember? hmember hchild)⟩

/-! ### References -/

/-- Something is true of all references that the conversion of a schema can come to. -/
def EveryRef (registry : Registry) (good : String → Prop) (schema : Schema) : Prop :=
  ∀ other, Relation.ReflTransGen (Uses registry) schema other →
    ∀ ref, other.ref = some ref → good ref

namespace EveryRef

variable {good : String → Prop}

theorem of_uses {other : Schema} (h : EveryRef registry good schema)
    (huses : Relation.ReflTransGen (Uses registry) schema other) : EveryRef registry good other :=
  fun last hlast => h last (huses.trans hlast)

theorem sibling {member : Schema} (h : EveryRef registry good schema)
    (hmember : siblingMember? schema = some member) : EveryRef registry good member := by
  intro other huses ref href
  rcases Relation.ReflTransGen.cases_head huses with rfl | ⟨child, hchild | ⟨_, _, hown, -⟩, hrest⟩
  · rw [ref_siblingMember? hmember] at href
    cases href
  · exact h other (.head (.inl (children_siblingMember? hmember hchild)) hrest) ref href
  · rw [ref_siblingMember? hmember] at hown
    cases hown

/-- What is true of all references is true of those that the parts of a conversion come to. -/
theorem of_mem_plan_parts (h : EveryRef settings.registry good schema)
    (hpart : part ∈ (plan settings schema context).parts) :
    EveryRef settings.registry good part.1 := by
  rcases mem_plan_parts hpart with huses | ⟨-, hmember⟩
  · exact h.of_uses huses.to_reflTransGen
  · exact h.sibling hmember

end EveryRef

end OpenApiClient.Conversion
