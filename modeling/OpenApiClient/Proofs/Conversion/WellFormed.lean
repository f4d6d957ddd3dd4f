import OpenApiClient.Proofs.Conversion.Rules

/-!
# Conversions build well-formed expressions

Every rule of the conversion gives a well-formed node, out of schemas that are well-formed as those
that are read are (`wellFormed_rules`). Which kinds of modifiers a rule can give is said by a list
of kinds in which none stands twice: those that it does give are some of them, in their order. That
they are distinct and that they suit the expression both follow from this.

The modifiers that come last, optional, default and nullable, are only added where they are missing,
and a nullable schema is always converted to a nullable expression (`convertAt_nullable`).
-/

namespace OpenApiClient.Conversion

open List

variable {expr : Expr} {schema : Schema}

/-! ### The kinds of modifiers that a rule gives -/

theorem kinds_toList {α : Type} (found : Option α) (kind : ModifierKind) (args : α → List Value) :
    ((found.map fun value => ({ kind, args := args value } : Modifier)).toList.map
      (·.kind)).Sublist [kind] := by
  cases found <;> simp

/-- At most one of the two kinds for the ordinary bound, and the exclusive one after it. -/
theorem kinds_boundModifiers (inclusive exclusive : ModifierKind) (bound : Option Number)
    (exclusiveBound : Option ExclusiveBound) :
    ((boundModifiers inclusive exclusive bound exclusiveBound).map (·.kind)).Sublist
      [inclusive, exclusive] := by
  unfold boundModifiers
  rcases exclusiveBound with _ | (_ | _) | own <;> cases bound <;> simp

theorem kinds_numberModifiers (schema : Schema) :
    ((numberModifiers schema).map (·.kind)).Sublist [.gte, .gt, .lte, .lt, .multipleOf] := by
  simp only [numberModifiers, map_append]
  have hlower := kinds_boundModifiers .gte .gt schema.minimum schema.exclusiveMinimum
  have hupper := kinds_boundModifiers .lte .lt schema.maximum schema.exclusiveMaximum
  exact (hlower.append hupper).append (kinds_toList _ .multipleOf _)

theorem kinds_countModifiers (least most : Option Nat) :
    ((countModifiers least most).map (·.kind)).Sublist [.min, .max] := by
  simp only [countModifiers, map_append]
  exact (kinds_toList _ .min _).append (kinds_toList _ .max _)

theorem kinds_textModifiers (schema : Schema) :
    ((textModifiers schema).map (·.kind)).Sublist [.min, .max, .regex, .format] := by
  simp only [textModifiers, map_append]
  have hcounts := kinds_countModifiers schema.minLength schema.maxLength
  exact (hcounts.append (kinds_toList _ .regex _)).append (kinds_toList _ .format _)

theorem kinds_trailingModifiers (withDefaults optional : Bool) (schema : Schema) (expr : Expr) :
    ((trailingModifiers withDefaults optional schema expr).map (·.kind)).Sublist
      [.optional, .default, .nullable] := by
  simp only [trailingModifiers, map_append]
  show List.Sublist _ ([ModifierKind.optional] ++ [.default] ++ [.nullable])
  refine (List.Sublist.append ?_ ?_).append ?_
  · split <;> simp
  · split
    · split <;> simp
    · simp
  · split <;> simp

/-- The modifiers that come last are those that are missing. -/
theorem trailingModifiers_missing {withDefaults optional : Bool} :
    ∀ modifier ∈ trailingModifiers withDefaults optional schema expr,
      ¬ expr.hasModifier modifier.kind := by
  intro modifier hmodifier
  simp only [trailingModifiers, mem_append] at hmodifier
  rcases hmodifier with (hoptional | hdefault) | hnullable
  · split at hoptional
    · rename_i hmissing
      rw [mem_singleton.mp hoptional]
      simpa using (Bool.and_eq_true_iff.mp hmissing).2
    · cases hoptional
  · split at hdefault
    · split at hdefault
      · rename_i hmissing
        rw [mem_singleton.mp hdefault]
        simpa using (Bool.and_eq_true_iff.mp hmissing).2
      · cases hdefault
    · cases hdefault
  · split at hnullable
    · rename_i hmissing
      rw [mem_singleton.mp hnullable]
      simpa using (Bool.and_eq_true_iff.mp hmissing).2
    · cases hnullable

/-! ### Well-formed nodes -/

/-- Modifiers of some of the given kinds, each of which suits the expression. -/
theorem wellFormed_of_kinds {modifiers : List Modifier} {kinds : List ModifierKind}
    (hshaped : expr.WellShaped) (hnone : expr.modifiers = [])
    (hkinds : (modifiers.map (·.kind)).Sublist kinds) (hdistinct : kinds.Nodup)
    (hsuits : ∀ kind ∈ kinds, kind.Suits expr)
    (hexclusive : ¬ (.passthrough ∈ kinds ∧ .strict ∈ kinds)) :
    (expr.withModifiers modifiers).WellFormed where
  shaped := Expr.wellShaped_withModifiers.mpr hshaped
  toWellModified := by
    refine (Expr.wellModified_of_nil hnone).withModifiers (hkinds.nodup hdistinct) ?_ ?_ ?_
    · simp [Expr.hasModifier, hnone]
    · exact fun modifier hmodifier => hsuits _ (hkinds.mem (mem_map_of_mem hmodifier))
    · have hadded : ∀ kind, (expr.withModifiers modifiers).hasModifier kind → kind ∈ kinds := by
        intro kind hkind
        rcases Expr.hasModifier_withModifiers.mp hkind with hold | hadded
        · simp [Expr.hasModifier, hnone] at hold
        · exact hkinds.mem hadded
      exact fun hboth => hexclusive ⟨hadded _ hboth.1, hadded _ hboth.2⟩

theorem wellFormed_of_nil (hshaped : expr.WellShaped) (hnone : expr.modifiers = []) :
    expr.WellFormed where
  shaped := hshaped
  toWellModified := Expr.wellModified_of_nil hnone

theorem wellFormed_unknown (note : Option String) : (Expr.unknown note).WellFormed :=
  wellFormed_of_nil trivial rfl

theorem wellFormed_ofPrimitive (type : Primitive) : (Expr.ofPrimitive type).WellFormed :=
  wellFormed_of_nil trivial rfl

theorem wellFormed_optional_unknown (optional : Bool) :
    ((Expr.unknown none).withModifiers
      (if optional then [{ kind := .optional }] else [])).WellFormed := by
  refine wellFormed_of_kinds trivial rfl (?_ : List.Sublist _ [.optional]) (by decide)
    (by simp [ModifierKind.Suits]) (by decide)
  split <;> simp

theorem wellFormed_primitive (schema : Schema) :
    ((primitiveExpr? schema).getD (.unknown none)).WellFormed := by
  have hnumber : ∀ kind ∈ [ModifierKind.integer, .gte, .gt, .lte, .lt, .multipleOf],
      kind.Suits (.ofPrimitive .number) := by simp [ModifierKind.Suits, Expr.ofPrimitive]
  unfold primitiveExpr?
  split
  · exact wellFormed_of_kinds trivial rfl (kinds_textModifiers schema)
      (by decide) (by simp [ModifierKind.Suits, Expr.ofPrimitive]) (by decide)
  · exact wellFormed_of_kinds trivial rfl
      ((kinds_numberModifiers schema).cons .integer) (by decide) hnumber (by decide)
  · have hkinds : ((({ kind := .integer } : Modifier) :: numberModifiers schema).map (·.kind)).Sublist
        [.integer, .gte, .gt, .lte, .lt, .multipleOf] := (kinds_numberModifiers schema).cons_cons _
    exact wellFormed_of_kinds trivial rfl hkinds (by decide) hnumber (by decide)
  · exact wellFormed_ofPrimitive _
  · exact wellFormed_ofPrimitive _
  · exact wellFormed_unknown none

theorem wellFormed_arrayExpr (schema : Schema) (exprs : List Expr) :
    (arrayExpr schema exprs).WellFormed := by
  refine wellFormed_of_kinds rfl rfl (kinds_countModifiers _ _) (by decide) ?_ (by decide)
  simp [ModifierKind.Suits]

theorem null_notMem_presentValues (values : List Value) : .null ∉ presentValues values := by
  simp [presentValues]

theorem wellShaped_choiceBase {present : List Value} (h : .null ∉ present) :
    (choiceBase present).WellShaped := by
  unfold choiceBase
  split
  · exact trivial
  · exact rfl
  · rename_i hnone hone
    have hlength : 2 ≤ present.length := by
      rcases present with _ | ⟨first, _ | ⟨second, rest⟩⟩
      · exact absurd rfl hnone
      · exact absurd rfl (hone first)
      · simp
    exact ⟨hlength, h⟩

theorem kinds_choiceModifiers (values : List Value) :
    ((choiceModifiers values).map (·.kind)).Sublist [.nullable] := by
  unfold choiceModifiers
  split <;> simp

theorem wellFormed_choiceExpr (values : List Value) : (choiceExpr values).WellFormed := by
  rw [choiceExpr_eq]
  refine wellFormed_of_kinds (wellShaped_choiceBase (null_notMem_presentValues values)) ?_
    (kinds_choiceModifiers values) (by decide) (by simp [ModifierKind.Suits]) (by decide)
  unfold choiceBase
  split <;> rfl

/-! ### Objects -/

/-- The properties of a converted object have the names of those of the schema. -/
theorem map_name_zipWith {properties : List (String × Schema)} {exprs : List Expr}
    (h : properties.length ≤ exprs.length) :
    (zipWith (convertedProperty schema) properties exprs).map (·.name) =
      properties.map (·.1) := by
  induction properties generalizing exprs with
  | nil => rfl
  | cons property rest ih =>
    cases exprs with
    | nil => simp at h
    | cons expr exprs =>
      rw [zipWith_cons_cons, map_cons, ih (by simpa using h)]
      rfl

/-- The modifiers of an object: partial, and at most one on other properties, none if there is a
schema for these. -/
theorem kinds_objectModifiers (strict optionalAll : Bool) (schema : Schema) :
    ∃ closing : List ModifierKind,
      (objectModifiers strict optionalAll schema.additional).map (·.kind) =
        (if optionalAll then [.partialObject] else []) ++ closing ∧
      (closing = [] ∨ schema.otherProperties = none ∧
        (closing = [.passthrough] ∨ closing = [.strict])) := by
  have hpartial : ((if optionalAll then [{ kind := .partialObject }] else [] :
      List Modifier).map (·.kind)) = if optionalAll then [.partialObject] else [] := by
    split <;> rfl
  simp only [objectModifiers, map_append, hpartial, Schema.otherProperties]
  refine ⟨_, rfl, ?_⟩
  rcases schema.additional with _ | (_ | _) | others
  · cases strict <;> simp
  · simp
  · simp
  · simp

theorem wellFormed_objectExpr (strict : Bool) {exprs : List Expr}
    (hnames : (schema.properties.map (·.1)).Nodup)
    (hlength : exprs.length = schema.properties.length + schema.otherProperties.toList.length) :
    (objectExpr strict schema exprs).WellFormed := by
  have hsame : (zipWith (convertedProperty schema) schema.properties exprs).map (·.name) =
      schema.properties.map (·.1) := map_name_zipWith (by omega)
  have hproperties : makesPartial schema →
      zipWith (convertedProperty schema) schema.properties exprs ≠ [] := by
    intro hpartial hnil
    rw [hnil, map_nil] at hsame
    simp [makesPartial, map_eq_nil_iff.mp hsame.symm] at hpartial
  have hothers : schema.otherProperties = none → exprs[schema.properties.length]? = none := by
    intro hnone
    rw [hnone, Option.toList_none, length_nil] at hlength
    exact getElem?_eq_none (by omega)
  obtain ⟨closing, hkinds, hclosing⟩ := kinds_objectModifiers strict (makesPartial schema) schema
  rw [← hsame] at hnames
  refine wellFormed_of_kinds hnames rfl (List.Sublist.refl _) ?_ ?_ ?_
  all_goals rw [hkinds]
  · rcases hclosing with rfl | ⟨-, rfl | rfl⟩ <;> split <;> decide
  · intro kind hkind
    rcases mem_append.mp hkind with hpartial | hclosed
    · split at hpartial
      · rename_i hmakes
        rw [mem_singleton.mp hpartial]
        exact ⟨rfl, hproperties hmakes⟩
      · cases hpartial
    · rcases hclosing with rfl | ⟨hnone, rfl | rfl⟩
      · cases hclosed
      · rw [mem_singleton.mp hclosed]
        exact ⟨rfl, hothers hnone⟩
      · rw [mem_singleton.mp hclosed]
        exact ⟨rfl, hothers hnone⟩
  · rcases hclosing with rfl | ⟨-, rfl | rfl⟩ <;> split <;> decide

/-! ### All rules -/

theorem wellFormed_trailing {withDefaults optional : Bool} (h : expr.WellFormed) :
    (expr.withModifiers (trailingModifiers withDefaults optional schema expr)).WellFormed where
  shaped := Expr.wellShaped_withModifiers.mpr h.shaped
  toWellModified := by
    have hkinds := kinds_trailingModifiers withDefaults optional schema expr
    have hlast : ∀ kind ∈ (trailingModifiers withDefaults optional schema expr).map (·.kind),
        kind = .optional ∨ kind = .default ∨ kind = .nullable := by
      intro kind hkind
      simpa using hkinds.mem hkind
    refine h.toWellModified.withModifiers (hkinds.nodup (by decide)) trailingModifiers_missing
      (fun modifier hmodifier => ?_) (fun hboth => h.exclusive ?_)
    · rcases hlast _ (mem_map_of_mem hmodifier) with hkind | hkind | hkind <;>
        simp [hkind, ModifierKind.Suits]
    · have hold : ∀ kind, kind = .passthrough ∨ kind = .strict →
          (expr.withModifiers (trailingModifiers withDefaults optional schema expr)).hasModifier
            kind → expr.hasModifier kind := by
        intro kind hkind hhas
        refine (Expr.hasModifier_withModifiers.mp hhas).resolve_right fun hadded => ?_
        rcases hkind with rfl | rfl <;> simpa using hlast _ hadded
      exact ⟨hold _ (.inl rfl) hboth.1, hold _ (.inr rfl) hboth.2⟩

theorem wellFormed_mergeObjects {plain : Value → Prop} (shapes : List Schema) :
    (mergeObjects shapes).WellFormed plain := by
  have hfold : ∀ (shapes : List Schema) (merged : Schema), merged.WellFormed plain →
      (shapes.foldl mergeObject merged).WellFormed plain := by
    intro shapes
    induction shapes with
    | nil => exact fun merged h => h
    | cons shape rest ih =>
      exact fun merged h => ih _ { h with names := Named.nodup_foldl_insert h.names }
  exact hfold shapes _ (by constructor <;> simp)

theorem wellFormed_siblingMember? {plain : Value → Prop} {member : Schema}
    (h : schema.WellFormed plain) (hmember : siblingMember? schema = some member) :
    member.WellFormed plain := by
  unfold siblingMember? at hmember
  split at hmember
  · cases hmember
    constructor <;> simp [h.names]
  · cases hmember

/-- Every rule of the conversion gives a well-formed node. -/
theorem wellFormed_rules (settings : Settings) (plain : Value → Prop) :
    Rules settings (Schema.WellFormed plain) Expr.WellFormed where
  sibling := wellFormed_siblingMember?
  merge := fun {shapes} _ => wellFormed_mergeObjects shapes
  object := fun {schema exprs} hschema hlength => wellFormed_objectExpr _ hschema.names hlength
  array := fun {schema exprs} _ => wellFormed_arrayExpr schema exprs
  union := fun {schema members exprs} hschema hmembers hlength => by
    have hsome : members ≠ [] := by
      rintro rfl
      exact hmembers.elim hschema.oneOf hschema.anyOf
    have hpositive := length_pos_iff.mpr hsome
    exact wellFormed_of_nil (hlength ▸ hpositive : 1 ≤ exprs.length) rfl
  intersection := fun {schema allOf exprs} hschema hallOf hone hsome => by
    have hmany : allOf ≠ [] := by
      rintro rfl
      exact hschema.allOf hallOf
    have hpositive := length_pos_iff.mpr (hsome hmany)
    exact wellFormed_of_nil (by omega : 2 ≤ exprs.length) rfl
  choice := fun {schema values} _ _ => wellFormed_choiceExpr values
  primitive := fun {schema} _ => wellFormed_primitive schema
  unknown := wellFormed_unknown
  namedRef := fun _ => wellFormed_of_nil trivial rfl
  lazyRef := fun _ => wellFormed_of_nil trivial rfl
  trailing := fun {schema expr} optional _ hexpr => wellFormed_trailing hexpr

/-! ### Nullable schemas -/

theorem hasModifier_nullable_trailing {withDefaults optional : Bool} (h : schema.nullable = true) :
    (expr.withModifiers (trailingModifiers withDefaults optional schema expr)).hasModifier
      .nullable := by
  rw [Expr.hasModifier_withModifiers]
  by_cases hhas : expr.hasModifier .nullable
  · exact .inl hhas
  · right
    simp [trailingModifiers, h, hhas]

/-- A nullable schema is converted to a nullable expression. -/
theorem convertAt_nullable {settings : Settings} {depth : Nat} {context : Context}
    {progress reached : Progress} (hnullable : schema.nullable = true)
    (h : outcome (convertAt settings depth schema context) progress = (.ok expr, reached)) :
    expr.hasModifier .nullable := by
  cases depth with
  | zero => cases h
  | succ depth =>
    obtain ⟨base, middle, -, hbase⟩ := outcome_bind_ok.mp h
    cases hbase
    exact hasModifier_nullable_trailing hnullable

end OpenApiClient.Conversion
