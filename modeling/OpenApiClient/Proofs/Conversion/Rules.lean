import OpenApiClient.Proofs.Conversion.Laws
import OpenApiClient.Proofs.Conversion.Parts

/-!
# Properties of all parts of converted schemas

Many properties of converted schemas are properties of every part of an expression, given some
property of every fragment of the schemas. For these it is enough to look at one node at a time.
`Rules` lists what has to be shown: one rule for each kind of node that a conversion makes, one for
the modifiers that come last, and two on the schemas that a conversion makes up itself. From the
rules follow the laws of conversions (`Rules.laws`), and so the property for all conversions
(`convertAt_builds`) and all declarations.
-/

namespace OpenApiClient.Conversion

open List

/-- The rules by which a property of fragments carries over to a property of nodes. -/
structure Rules (settings : Settings) (fit : Schema → Prop) (good : Expr → Prop) : Prop where
  sibling : ∀ {schema member}, fit schema → siblingMember? schema = some member → fit member
  merge : ∀ {shapes}, (∀ shape ∈ shapes, fit shape) → fit (mergeObjects shapes)
  object : ∀ {schema exprs}, fit schema →
    exprs.length = schema.properties.length + schema.otherProperties.toList.length →
    good (objectExpr settings.config.strictObjects schema exprs)
  array : ∀ {schema exprs}, fit schema → good (arrayExpr schema exprs)
  union : ∀ {schema members exprs}, fit schema →
    schema.oneOf = some members ∨ schema.anyOf = some members →
    exprs.length = members.length → good { kind := .union, members := exprs }
  intersection : ∀ {schema allOf exprs}, fit schema → schema.allOf = some allOf →
    exprs.length ≠ 1 → (allOf ≠ [] → exprs ≠ []) → good { kind := .intersection, members := exprs }
  choice : ∀ {schema values}, fit schema →
    (∃ value, schema.const = some value ∧ values = [value]) ∨ schema.enum = some values →
    good (choiceExpr values)
  primitive : ∀ {schema}, fit schema → good ((primitiveExpr? schema).getD (.unknown none))
  unknown : ∀ note, good (.unknown note)
  namedRef : ∀ name, good (.namedRef name)
  lazyRef : ∀ name, good (.lazyRef name)
  trailing : ∀ {schema expr} optional, fit schema → good expr → good (expr.withModifiers
    (trailingModifiers settings.config.withDefaultValues optional schema expr))

variable {settings : Settings} {fit : Schema → Prop} {good : Expr → Prop}
  {schema : Schema} {context : Context} {exprs : List Expr}

/-! ### Nodes -/

theorem otherParts_eq (schema : Schema) (context : Context) :
    otherParts schema context = schema.otherProperties.toList.map fun others =>
      (others, context.child "additionalProperties" false) := by
  unfold otherParts Schema.otherProperties
  rcases schema.additional with _ | _ | others <;> rfl

theorem length_otherParts (schema : Schema) (context : Context) :
    (otherParts schema context).length = schema.otherProperties.toList.length := by
  rw [otherParts_eq, length_map]

theorem every_leaf {expr : Expr} (hself : good expr) (hchildren : expr.children = []) :
    expr.Every good :=
  Expr.every_iff.mpr ⟨hself, by simp [hchildren]⟩

theorem every_objectExpr (rules : Rules settings fit good) (hfit : fit schema)
    (hlength : exprs.length = (objectParts schema context).length)
    (hexprs : ∀ expr ∈ exprs, expr.Every good) :
    (objectExpr settings.config.strictObjects schema exprs).Every good := by
  rw [objectParts, length_append, length_map, length_otherParts] at hlength
  rw [Expr.every_iff]
  refine ⟨rules.object hfit hlength, fun child hchild => hexprs child ?_⟩
  exact mem_of_mem_children_objectExpr hchild

theorem every_arrayExpr (rules : Rules settings fit good) (hfit : fit schema)
    (hexprs : ∀ expr ∈ exprs, expr.Every good) : (arrayExpr schema exprs).Every good := by
  rw [Expr.every_iff]
  refine ⟨rules.array hfit, fun child hchild => ?_⟩
  rcases mem_children_arrayExpr hchild with rfl | hchild
  · exact every_leaf (rules.unknown none) rfl
  · exact hexprs child hchild

theorem every_members {kind : ExprKind} (hself : good { kind, members := exprs })
    (hexprs : ∀ expr ∈ exprs, expr.Every good) : Expr.Every good { kind, members := exprs } :=
  Expr.every_iff.mpr ⟨hself, by simpa [Expr.children] using hexprs⟩

theorem children_choiceExpr (values : List Value) : (choiceExpr values).children = [] := by
  rw [choiceExpr_eq, Expr.children_withModifiers]
  unfold choiceBase
  split <;> rfl

theorem children_primitive (schema : Schema) :
    ((primitiveExpr? schema).getD (.unknown none)).children = [] := by
  unfold primitiveExpr?
  split <;> simp [Expr.ofPrimitive, Expr.unknown, Expr.children]

/-- The objects that are merged in an `allOf` are fit if all fragments are. -/
theorem fit_of_mem_shapes (rules : Rules settings fit good) {allOf : List Schema}
    (hregistry : ∀ entry ∈ settings.registry.schemas, entry.2.Every fit)
    (hschema : schema.Every fit) (hallOf : schema.allOf = some allOf) (stack : List String) :
    ∀ shape ∈ (sortMembers settings.registry stack
      (allOf ++ (siblingMember? schema).toList).zipIdx).shapes, fit shape := by
  intro shape h
  obtain ⟨member, hmember, hhas⟩ := mem_sortMembers_shapes h
  refine (every_of_uses hregistry ?_ (uses_of_refersTo hhas.refersTo)).self
  rcases mem_append.mp (fst_mem_of_mem_zipIdx hmember) with hlisted | hsibling
  · exact (Schema.every_iff.mp hschema).2 member.1
      (Schema.mem_children.mpr (.inr (.inr (.inr (.inl ⟨allOf, hallOf, hlisted⟩)))))
  · rw [Option.mem_toList] at hsibling
    rw [Schema.every_iff] at hschema ⊢
    exact ⟨rules.sibling hschema.1 hsibling, fun child hchild =>
      hschema.2 child (children_siblingMember? hsibling hchild)⟩

theorem every_joinParts (hexprs : ∀ expr ∈ exprs, expr.Every good)
    (hmany : exprs.length ≠ 1 → good { kind := .intersection, members := exprs }) :
    (joinParts exprs).Every good := by
  unfold joinParts
  split
  · exact hexprs _ (mem_singleton_self _)
  · rename_i hnot
    refine every_members (hmany fun hone => ?_) hexprs
    obtain ⟨expr, rfl⟩ := length_eq_one_iff.mp hone
    exact hnot expr rfl

theorem every_membersPlan (rules : Rules settings fit good) {members : Members}
    (hshapes : ∀ shape ∈ members.shapes, fit shape) (hstop : members.stop = none)
    (hlength : exprs.length = (membersPlan settings members context).parts.length)
    (hexprs : ∀ expr ∈ exprs, expr.Every good)
    (hmany : ∀ parts : List Expr, parts.length ≠ 1 →
      (members.shapes ≠ [] ∨ members.others ≠ [] → parts ≠ []) →
      good { kind := .intersection, members := parts }) :
    ((membersPlan settings members context).build exprs).Every good := by
  simp only [membersPlan, hstop, Option.isSome_none, Bool.false_eq_true, if_false,
    length_append, memberParts, length_map] at hlength
  refine every_joinParts (fun expr hexpr => ?_) fun hone => hmany _ hone fun hsome hnil => ?_
  · rcases mem_append.mp hexpr with hobject | hother
    · obtain ⟨object, hmerged, rfl⟩ := mem_map.mp hobject
      simp only [Option.mem_toList.mp hmerged, Option.toList_some, flatMap_singleton] at hlength
      rw [Option.mem_toList, Members.merged?] at hmerged
      split at hmerged
      · cases hmerged
      · cases hmerged
        refine every_objectExpr rules (rules.merge hshapes) (?_ : _ = (objectParts _ context).length)
          ?_
        · rw [length_drop]
          omega
        · exact fun expr hexpr => hexprs expr (mem_of_mem_drop hexpr)
    · exact hexprs expr (mem_of_mem_take hother)
  · -- some member is there, and with it an expression for it
    obtain ⟨hmerged, hothers⟩ := append_eq_nil_iff.mp hnil
    rcases hsome with hsome | hsome
    · simp [Members.merged?, hsome] at hmerged
    · have hnone : exprs.length = 0 ∨ members.others.length = 0 := by
        simpa [take_eq_nil_iff, or_comm] using hothers
      have hpositive := length_pos_iff.mpr hsome
      omega

/-- What a plan builds out of good expressions is good. -/
theorem every_plan_build (rules : Rules settings fit good)
    (hregistry : ∀ entry ∈ settings.registry.schemas, entry.2.Every fit)
    (hschema : schema.Every fit) (hstop : (plan settings schema context).stop = none)
    (hlength : exprs.length = (plan settings schema context).parts.length)
    (hexprs : ∀ expr ∈ exprs, expr.Every good) :
    ((plan settings schema context).build exprs).Every good := by
  have hfit := hschema.self
  have hplan := planned settings schema context
  generalize plan settings schema context = current at hstop hlength hplan ⊢
  cases hplan with
  | single =>
    obtain ⟨expr, rfl⟩ := length_eq_one_iff.mp hlength
    exact hexprs expr (mem_singleton_self expr)
  | members hallOf =>
    have hshapes := fit_of_mem_shapes rules hregistry hschema hallOf context.stack
    refine every_membersPlan rules hshapes hstop hlength hexprs fun parts hone hsome => ?_
    refine rules.intersection hfit hallOf hone fun hmembers => hsome ?_
    have hcount := sortMembers_length hstop
    rw [length_zipIdx, length_append] at hcount
    have hpositive := length_pos_iff.mpr hmembers
    rw [← length_pos_iff, ← length_pos_iff]
    omega
  | union _ _ hmembers =>
    refine every_members (rules.union hfit hmembers ?_) hexprs
    simpa [unionPlan, memberParts] using hlength
  | fallback => exact every_leaf (rules.unknown _) rfl
  | choice hvalues => exact every_leaf (rules.choice hfit hvalues) (children_choiceExpr _)
  | object => exact every_objectExpr rules hfit hlength hexprs
  | array => exact every_arrayExpr rules hfit hexprs
  | primitive => exact every_leaf (rules.primitive hfit) (children_primitive schema)

theorem Rules.every_finished (rules : Rules settings fit good) {optional : Bool} {expr : Expr}
    (hschema : schema.Every fit) (hexpr : expr.Every good) :
    (finished settings schema optional expr).Every good :=
  Expr.every_withModifiers hexpr (rules.trailing _ hschema.self hexpr.self)

/-! ### Conversions -/

/-- What all conversions respect: every part of every declaration is good. -/
def building (good : Expr → Prop) : Contract Progress where
  inv progress := ∀ entry ∈ progress.declarations, entry.2.Every good
  grows _ _ := True
  fault _ := True
  refl _ := trivial
  trans _ _ := trivial

/-- A property that carries over rule by rule follows the laws of conversions. -/
theorem Rules.laws (rules : Rules settings fit good)
    (hregistry : ∀ entry ∈ settings.registry.schemas, entry.2.Every fit) :
    Laws settings (eachDeclared (fun _ expr => expr.Every good) fun _ => True)
      (fun _ schema _ => schema.Every fit) (fun _ _ _ expr _ => expr.Every good) where
  notes := eachDeclared_ignoresNotes
  stable _ hexpr := hexpr
  exhausted _ := trivial
  part hschema _ hpart := every_of_mem_plan_parts rules.sibling hregistry hschema hpart
  stop _ _ _ := trivial
  build hschema _ hstop hexprs := rules.every_finished hschema
    (every_plan_build rules hregistry hschema hstop hexprs.length_eq.symm
      (forall_mem_of_forall₂ hexprs))
  unresolved _ _ _ := trivial
  unregistered _ _ _ := trivial
  unknown hschema _ _ _ _ := rules.every_finished hschema (every_leaf (rules.unknown _) rfl)
  lazy hschema _ _ _ _ := rules.every_finished hschema (every_leaf (rules.lazyRef _) rfl)
  enter _ _ _ _ hget := hregistry _ (Registry.mem_schemas_of_get? hget)
  named hschema _ _ _ _ _ := rules.every_finished hschema (every_leaf (rules.namedRef _) rfl)
  declare _ _ hinv hexpr := eachDeclared_add hinv hexpr

/-- A converter that builds good expressions out of fit schemas. -/
def Builds (fit : Schema → Prop) (good : Expr → Prop) (convert : Converter) : Prop :=
  ∀ schema context progress, schema.Every fit → (building good).inv progress →
    (building good).Keeps (convert schema context) (fun expr _ => expr.Every good) progress

/-- All conversions of fit schemas build good expressions. -/
theorem convertAt_builds (rules : Rules settings fit good)
    (hregistry : ∀ entry ∈ settings.registry.schemas, entry.2.Every fit) (depth : Nat) :
    Builds fit good (convertAt settings depth) :=
  (rules.laws hregistry).noted.convertAt_keeps depth

end OpenApiClient.Conversion
