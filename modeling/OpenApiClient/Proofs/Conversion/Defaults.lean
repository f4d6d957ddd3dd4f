import OpenApiClient.Proofs.Conversion.Lockstep
import OpenApiClient.Proofs.Conversion.Optional
import OpenApiClient.Proofs.Expr.Modifiers

/-!
# Defaults

Defaults can be left out of a conversion, or taken out of the expressions it comes to, in all their
parts (`Expr.withoutDefaults`); the outcome is the same. A default is added last, after all that the
kind of a schema gives, and no other modifier depends on it, so taking it out again leaves the
expression that would have been there without it (`withoutDefaults_finished`). That an expression
is put together from its parts does not depend on defaults (`build_withoutDefaults`).

An expression never has two defaults. The default of a schema is the one it has, unless the schema
is nothing but an `allOf` with one member: this is what the member is, and keeps the default that the
member came with (`default_in_force`).
-/

namespace OpenApiClient

open List

/-! ### Taking out the defaults -/

/-- Whether a modifier is no default. -/
def Modifier.isNoDefault (modifier : Modifier) : Bool := modifier.kind ≠ .default

mutual

/-- An expression without the defaults in all its parts. -/
def Expr.withoutDefaults : Expr → Expr
  | ⟨kind, primitive, modifiers, properties, others, items, members, values, ref, note⟩ =>
    ⟨kind, primitive, modifiers.filter Modifier.isNoDefault, propertiesWithoutDefaults properties,
      optionWithoutDefaults others, optionWithoutDefaults items, membersWithoutDefaults members,
      values, ref, note⟩

/-- Properties without defaults. -/
def propertiesWithoutDefaults : List (Property Expr) → List (Property Expr)
  | [] => []
  | ⟨name, expr, optional⟩ :: rest =>
    ⟨name, expr.withoutDefaults, optional⟩ :: propertiesWithoutDefaults rest

/-- Members without defaults. -/
def membersWithoutDefaults : List Expr → List Expr
  | [] => []
  | expr :: rest => expr.withoutDefaults :: membersWithoutDefaults rest

/-- A part without defaults, if there is one. -/
def optionWithoutDefaults : Option Expr → Option Expr
  | none => none
  | some expr => some expr.withoutDefaults

end

theorem propertiesWithoutDefaults_eq (properties : List (Property Expr)) :
    propertiesWithoutDefaults properties =
      properties.map fun property => { property with expr := property.expr.withoutDefaults } := by
  induction properties with
  | nil => rfl
  | cons property rest ih => rw [propertiesWithoutDefaults, ih, map_cons]

theorem membersWithoutDefaults_eq (members : List Expr) :
    membersWithoutDefaults members = members.map Expr.withoutDefaults := by
  induction members with
  | nil => rfl
  | cons expr rest ih => rw [membersWithoutDefaults, ih, map_cons]

theorem optionWithoutDefaults_eq (part : Option Expr) :
    optionWithoutDefaults part = part.map Expr.withoutDefaults := by
  cases part <;> rfl

variable {expr : Expr}

namespace Expr

theorem withoutDefaults_eq (expr : Expr) :
    expr.withoutDefaults =
      { expr with
        modifiers := expr.modifiers.filter Modifier.isNoDefault
        properties := expr.properties.map fun property =>
          { property with expr := property.expr.withoutDefaults }
        others := expr.others.map withoutDefaults
        items := expr.items.map withoutDefaults
        members := expr.members.map withoutDefaults } := by
  obtain ⟨⟩ := expr
  simp only [withoutDefaults, propertiesWithoutDefaults_eq, membersWithoutDefaults_eq,
    optionWithoutDefaults_eq]

/-- An expression without parts and without a default is left as it is. -/
theorem withoutDefaults_of_leaf (hchildren : expr.children = [])
    (hmodifiers : ∀ modifier ∈ expr.modifiers, modifier.kind ≠ .default) :
    expr.withoutDefaults = expr := by
  have hkept : expr.modifiers.filter Modifier.isNoDefault = expr.modifiers :=
    filter_eq_self.mpr fun modifier hmodifier => by
      simpa [Modifier.isNoDefault] using hmodifiers modifier hmodifier
  obtain ⟨kind, primitive, modifiers, properties, others, items, members, values, ref, note⟩ := expr
  simp only [children, append_eq_nil_iff, map_eq_nil_iff, Option.toList_eq_nil_iff]
    at hchildren
  obtain ⟨⟨⟨rfl, rfl⟩, rfl⟩, rfl⟩ := hchildren
  rw [withoutDefaults_eq]
  simp only [map_nil, Option.map_none]
  rw [hkept]

theorem withoutDefaults_withModifiers (h : Modifier.Sorted expr.modifiers)
    (modifiers : List Modifier) :
    (expr.withModifiers modifiers).withoutDefaults =
      expr.withoutDefaults.withModifiers (modifiers.filter Modifier.isNoDefault) := by
  have hfiltered : Modifier.Sorted (expr.withoutDefaults).modifiers := by
    rw [withoutDefaults_eq]
    exact h.filter _
  rw [withModifiers_of_sorted h, withModifiers_of_sorted hfiltered, withoutDefaults_eq,
    withoutDefaults_eq]
  simp only [Modifier.filter_place Modifier.isNoDefault h]

@[simp] theorem children_withoutDefaults (expr : Expr) :
    expr.withoutDefaults.children = expr.children.map withoutDefaults := by
  rw [withoutDefaults_eq]
  obtain ⟨_, _, _, _, others, items, _, _, _, _⟩ := expr
  cases others <;> cases items <;> simp [children, Function.comp_def]

/-- Modifiers of other kinds can be added before or after the defaults are taken out. -/
theorem withoutDefaults_withModifiers_of_kinds (h : Modifier.Sorted expr.modifiers)
    {modifiers : List Modifier} {kinds : List ModifierKind}
    (hkinds : (modifiers.map (·.kind)).Sublist kinds) (hdefault : .default ∉ kinds) :
    (expr.withModifiers modifiers).withoutDefaults =
      expr.withoutDefaults.withModifiers modifiers := by
  rw [withoutDefaults_withModifiers h, filter_eq_self.mpr]
  intro modifier hmodifier
  rw [Modifier.isNoDefault, decide_eq_true_iff]
  exact fun hkind => hdefault (hkind ▸ hkinds.mem (mem_map_of_mem hmodifier))

theorem references_withoutDefaults (mode : ReferenceMode) (expr : Expr) :
    expr.withoutDefaults.references mode = expr.references mode := by
  induction expr using childInduction with
  | step expr ih =>
    rw [references_eq, references_eq mode expr, children_withoutDefaults, flatMap_map]
    have hparts : expr.children.flatMap (fun child => child.withoutDefaults.references mode) =
        expr.children.flatMap (references mode) := flatMap_congr ih
    rw [hparts, withoutDefaults_eq]

theorem hasModifier_withoutDefaults (expr : Expr) {kind : ModifierKind} (h : kind ≠ .default) :
    expr.withoutDefaults.hasModifier kind = expr.hasModifier kind := by
  rw [withoutDefaults_eq, hasModifier, hasModifier, any_filter]
  congr 1
  funext modifier
  by_cases hkind : modifier.kind = kind
  · simp [Modifier.isNoDefault, hkind, h]
  · simp [hkind]

end Expr

/-! ### Converted schemas -/

namespace Conversion

variable {settings : Settings} {schema : Schema} {context : Context}

theorem filter_trailingModifiers (optional : Bool) (schema : Schema) (expr : Expr) :
    (trailingModifiers true optional schema expr).filter Modifier.isNoDefault =
      trailingModifiers false optional schema expr.withoutDefaults := by
  have hoptional : expr.withoutDefaults.hasModifier .optional = expr.hasModifier .optional :=
    expr.hasModifier_withoutDefaults (by decide)
  have hnullable : expr.withoutDefaults.hasModifier .nullable = expr.hasModifier .nullable :=
    expr.hasModifier_withoutDefaults (by decide)
  simp only [trailingModifiers, filter_append, hoptional, hnullable]
  -- only the list in the middle can hold a default
  cases schema.default <;> grind [Modifier.isNoDefault]

variable {first second : Settings}

/-- What comes last is added to an expression without defaults, or the default is taken out
again. -/
theorem withoutDefaults_finished (hfirst : first.config.withDefaultValues = true)
    (hsecond : second.config.withDefaultValues = false) (schema : Schema) (optional : Bool)
    (h : Modifier.Sorted expr.modifiers) :
    (finished first schema optional expr).withoutDefaults =
      finished second schema optional expr.withoutDefaults := by
  rw [finished, finished, Expr.withoutDefaults_withModifiers h, hfirst, hsecond,
    filter_trailingModifiers]

theorem objectExpr_withoutDefaults (strict : Bool) (schema : Schema) (exprs : List Expr) :
    objectExpr strict schema (exprs.map Expr.withoutDefaults) =
      (objectExpr strict schema exprs).withoutDefaults := by
  have hkinds : ((objectModifiers strict (makesPartial schema) schema.additional).map
      (·.kind)).Sublist [.partialObject, .passthrough, .strict] := by
    obtain ⟨closing, hkinds, hclosing⟩ := kinds_objectModifiers strict (makesPartial schema) schema
    rw [hkinds]
    cases makesPartial schema <;> rcases hclosing with rfl | ⟨-, rfl | rfl⟩ <;> decide
  rw [objectExpr, objectExpr, Expr.withoutDefaults_withModifiers_of_kinds (by exact .nil) hkinds
    (by decide), Expr.withoutDefaults_eq]
  simp [map_zipWith, zipWith_map_right, convertedProperty]

theorem headD_withoutDefaults (exprs : List Expr) :
    (exprs.map Expr.withoutDefaults).headD (.unknown none) =
      (exprs.headD (.unknown none)).withoutDefaults := by
  cases exprs with
  | nil => rfl
  | cons expr rest => rfl

theorem arrayExpr_withoutDefaults (schema : Schema) (exprs : List Expr) :
    arrayExpr schema (exprs.map Expr.withoutDefaults) = (arrayExpr schema exprs).withoutDefaults := by
  rw [arrayExpr, arrayExpr, Expr.withoutDefaults_withModifiers_of_kinds (by exact .nil)
    (kinds_countModifiers _ _) (by decide), Expr.withoutDefaults_eq, headD_withoutDefaults]
  rfl

theorem joinParts_withoutDefaults (parts : List Expr) :
    joinParts (parts.map Expr.withoutDefaults) = (joinParts parts).withoutDefaults := by
  match parts with
  | [] => rfl
  | [part] => rfl
  | first :: second :: rest =>
    rw [Expr.withoutDefaults_eq]
    rfl

/-- A value without parts whose modifiers are no defaults is left as it is. -/
theorem withoutDefaults_modified {base : Expr} (hchildren : base.children = [])
    (hmodifiers : base.modifiers = []) {modifiers : List Modifier} {kinds : List ModifierKind}
    (hkinds : (modifiers.map (·.kind)).Sublist kinds) (hdefault : .default ∉ kinds) :
    (base.withModifiers modifiers).withoutDefaults = base.withModifiers modifiers := by
  rw [Expr.withoutDefaults_withModifiers_of_kinds (by rw [hmodifiers]; exact .nil) hkinds hdefault,
    Expr.withoutDefaults_of_leaf hchildren (by simp [hmodifiers])]

theorem choiceExpr_withoutDefaults (values : List Value) :
    (choiceExpr values).withoutDefaults = choiceExpr values := by
  rw [choiceExpr_eq]
  refine withoutDefaults_modified ?_ ?_ (kinds_choiceModifiers values) (by decide) <;>
  · unfold choiceBase
    split <;> rfl

theorem primitive_withoutDefaults (schema : Schema) :
    ((primitiveExpr? schema).getD (.unknown none)).withoutDefaults =
      (primitiveExpr? schema).getD (.unknown none) := by
  unfold primitiveExpr?
  split
  · exact withoutDefaults_modified rfl rfl (kinds_textModifiers schema) (by decide)
  · exact withoutDefaults_modified rfl rfl (kinds_numberModifiers schema) (by decide)
  · have hkinds : (({ kind := .integer } :: numberModifiers schema).map (·.kind)).Sublist
        [.integer, .gte, .gt, .lte, .lt, .multipleOf] :=
      (kinds_numberModifiers schema).cons_cons _
    exact withoutDefaults_modified rfl rfl hkinds (by decide)
  · rfl
  · rfl
  · rfl

/-- What is built from parts without defaults is what is built from the parts, without defaults. -/
theorem build_withoutDefaults (exprs : List Expr) :
    (plan settings schema context).build (exprs.map Expr.withoutDefaults) =
      ((plan settings schema context).build exprs).withoutDefaults := by
  have hplanned := planned settings schema context
  generalize plan settings schema context = made at hplanned ⊢
  cases hplanned with
  | single hallOf hmember => exact headD_withoutDefaults exprs
  | members hallOf =>
    simp only [membersPlan, ← joinParts_withoutDefaults, map_append, map_map,
      map_take]
    congr 2
    refine map_congr_left fun object _ => ?_
    rw [← map_drop]
    exact objectExpr_withoutDefaults _ object _
  | union keyword notes hmembers =>
    rw [Expr.withoutDefaults_eq]
    rfl
  | fallback keyword note => rfl
  | choice hvalues => exact (choiceExpr_withoutDefaults _).symm
  | object => exact objectExpr_withoutDefaults _ schema exprs
  | array => exact arrayExpr_withoutDefaults schema exprs
  | primitive => exact (primitive_withoutDefaults schema).symm

/-- The plans of a schema do not depend on whether there are defaults. -/
theorem plan_eq_of_strictObjects (h : first.registry = second.registry)
    (hstrict : first.config.strictObjects = second.config.strictObjects) (schema : Schema)
    (context : Context) : plan first schema context = plan second schema context := by
  unfold plan allOfPlan objectPlan membersPlan
  rw [h, hstrict]

/-- An expression and the same one without defaults. -/
def WithoutDefaults (expr other : Expr) : Prop :=
  other = expr.withoutDefaults ∧ Modifier.Sorted expr.modifiers

/-- Conversions with and without defaults go side by side. -/
theorem sideBySide_defaults (hregistry : first.registry = second.registry)
    (hstrict : first.config.strictObjects = second.config.strictObjects)
    (hfirst : first.config.withDefaultValues = true)
    (hsecond : second.config.withDefaultValues = false) :
    SideBySide first second (fun _ _ => WithoutDefaults)
      (fun _ expr other => other = expr.withoutDefaults) where
  registry := hregistry
  build := by
    intro schema context firsts seconds _ _ htwins
    have hsorted : ∀ expr ∈ firsts, Modifier.Sorted expr.modifiers := by
      obtain ⟨twins, -, rfl, -, htwins⟩ := htwins
      intro expr hexpr
      obtain ⟨twin, htwin, rfl⟩ := mem_map.mp hexpr
      exact (htwins twin htwin).2
    have hseconds : seconds = firsts.map Expr.withoutDefaults :=
      htwins.map_eq fun _ _ _ hgood => hgood.1
    have hbuilt : Modifier.Sorted ((plan first schema context).build firsts).modifiers :=
      build_sorted hsorted
    refine ⟨?_, finished_sorted first schema _ hbuilt⟩
    rw [withoutDefaults_finished hfirst hsecond schema _ hbuilt, ← build_withoutDefaults, hseconds,
      plan_eq_of_strictObjects hregistry hstrict]
  reference := by
    intro schema stack expr optional _ hexpr
    have hplain : expr.modifiers = [] ∧ expr.withoutDefaults = expr := by
      rcases hexpr with ⟨note, rfl⟩ | ⟨name, rfl | rfl⟩ <;> exact ⟨rfl, rfl⟩
    have hsorted : Modifier.Sorted expr.modifiers := by rw [hplain.1]; exact .nil
    refine ⟨?_, finished_sorted first schema optional hsorted⟩
    rw [withoutDefaults_finished hfirst hsecond schema optional hsorted, hplain.2]
  declared := fun _ hgood => hgood.1

/-! ### The default in force -/

/-- The member of an `allOf` that has no other, and nothing beside it. -/
def soleMember? (schema : Schema) : Option Schema :=
  match schema.ref, schema.allOf, siblingMember? schema with
  | none, some [member], none => some member
  | _, _, _ => none

variable {member : Schema}

theorem soleMember?_eq_some : soleMember? schema = some member ↔
    schema.ref = none ∧ schema.allOf = some [member] ∧ siblingMember? schema = none := by
  unfold soleMember?
  grind

theorem size_soleMember?_lt (h : soleMember? schema = some member) : member.size < schema.size := by
  obtain ⟨-, hallOf, -⟩ := soleMember?_eq_some.mp h
  exact Schema.size_lt_of_mem_children
    (Schema.mem_children.mpr (.inr (.inr (.inr (.inl ⟨_, hallOf, .head _⟩)))))

/-- The default of what a schema becomes: that of its sole member, or else its own. -/
def defaultInForce? (schema : Schema) : Option Value :=
  match _hsole : soleMember? schema with
  | some member => (defaultInForce? member).or schema.default
  | none => schema.default
termination_by schema.size
decreasing_by exact size_soleMember?_lt _hsole

theorem defaultInForce?_eq (schema : Schema) : defaultInForce? schema =
    ((soleMember? schema).bind defaultInForce?).or schema.default := by
  rw [defaultInForce?]
  split <;> rename_i h <;> simp [h]

theorem defaultInForce?_siblingMember? (h : siblingMember? schema = some member) :
    defaultInForce? member = none := by
  unfold siblingMember? at h
  split at h
  · cases h
    rw [defaultInForce?_eq]
    rfl
  · cases h

/-- An expression with this default, or with none, among its modifiers in order. -/
structure Settled (value : Option Value) (expr : Expr) : Prop where
  sorted : Modifier.Sorted expr.modifiers
  defaults : expr.modifiers.filter (·.kind = .default) =
    (value.map fun value => { kind := .default, args := [value] }).toList

theorem Settled.of_not_hasModifier (hsorted : Modifier.Sorted expr.modifiers)
    (h : expr.hasModifier .default = false) : Settled none expr := by
  refine ⟨hsorted, filter_eq_nil_iff.mpr ?_⟩
  simpa [Expr.hasModifier] using h

theorem Settled.hasModifier {value : Option Value} (h : Settled value expr) :
    expr.hasModifier .default = value.isSome := by
  cases value with
  | none => simpa [Expr.hasModifier] using h.defaults
  | some value =>
    have hmem : { kind := .default, args := [value] } ∈
        expr.modifiers.filter (·.kind = .default) := by
      rw [h.defaults]
      exact .head _
    exact Expr.hasModifier_iff.mpr (mem_map_of_mem (mem_of_mem_filter hmem))

/-- The default of a schema is added if there is none yet. -/
theorem Settled.finished (hdefaults : settings.config.withDefaultValues = true)
    {inner : Option Value} (h : Settled inner expr) (optional : Bool) :
    Settled (inner.or schema.default) (finished settings schema optional expr) := by
  refine ⟨finished_sorted settings schema optional h.sorted, ?_⟩
  have htrailing : (trailingModifiers true optional schema expr).filter (·.kind = .default) =
      if inner.isSome then [] else
        (schema.default.map fun value => { kind := .default, args := [value] }).toList := by
    simp only [trailingModifiers, filter_append, h.hasModifier]
    cases schema.default <;> cases inner <;> grind
  rw [Conversion.finished, Expr.withModifiers_of_sorted h.sorted, hdefaults]
  simp only [Modifier.filter_place _ h.sorted, h.defaults, htrailing]
  cases inner <;> cases schema.default <;> rfl

/-- Several members are merged into an object or intersected, and neither has a default. -/
theorem not_hasModifier_members {allOf : List Schema} {exprs : List Expr}
    (hmany : (allOf ++ (siblingMember? schema).toList).length ≠ 1) {sorted : Members}
    (hsorted : sorted = sortMembers settings.registry context.stack
      (allOf ++ (siblingMember? schema).toList).zipIdx) (hstop : sorted.stop = none)
    (hlength : exprs.length = (membersPlan settings sorted context).parts.length) :
    ((membersPlan settings sorted context).build exprs).hasModifier .default = false := by
  have hcount : sorted.shapes.length + sorted.others.length =
      (allOf ++ (siblingMember? schema).toList).length := by
    rw [hsorted] at hstop ⊢
    rw [sortMembers_length hstop, length_zipIdx]
  simp only [membersPlan, hstop, Option.isSome_none, Bool.false_eq_true, if_false, joinParts,
    length_append, memberParts, length_map] at hlength ⊢
  split
  · rename_i part hpart
    -- a single part is the merged object, as one member that is left over would be the only one
    cases hmerged : sorted.merged? with
    | some object =>
      rw [hmerged] at hpart
      cases (List.cons.inj hpart).1
      exact not_hasModifier_objectExpr (by decide)
    | none =>
      have hshapes : sorted.shapes = [] := by
        simpa [Members.merged?] using hmerged
      have hone := congrArg List.length hpart
      simp only [hmerged, hshapes, Option.toList_none, map_nil, nil_append, flatMap_nil,
        length_take, length_singleton, length_nil] at hone hcount hlength
      omega
  · rfl

theorem settled_build {exprs : List Expr} (href : schema.ref = none)
    (hstop : (plan settings schema context).stop = none)
    (hexprs : List.Forall₂ (fun part expr => Settled (defaultInForce? part.1) expr)
      (plan settings schema context).parts exprs) :
    Settled ((soleMember? schema).bind defaultInForce?)
      ((plan settings schema context).build exprs) := by
  cases hsole : soleMember? schema with
  | some member =>
    obtain ⟨-, hallOf, hsibling⟩ := soleMember?_eq_some.mp hsole
    simp only [plan, hallOf, allOfPlan, hsibling, Option.toList_none, append_nil] at hexprs ⊢
    cases hexprs with
    | cons hmember hrest => exact hmember
  | none =>
    have hsorted : Modifier.Sorted ((plan settings schema context).build exprs).modifiers :=
      build_sorted fun expr hexpr =>
        have ⟨_, _, hsettled⟩ := exists_of_forall₂ hexprs hexpr
        hsettled.sorted
    have hplan := planned settings schema context
    generalize plan settings schema context = current at *
    cases hplan with
    | @single allOf member hallOf hmember =>
      -- all that is left is the member that the schema itself makes up
      have hsibling : siblingMember? schema = some member := by
        cases hsibling : siblingMember? schema with
        | none =>
          rw [hsibling, Option.toList_none, append_nil] at hmember
          rw [soleMember?_eq_some.mpr ⟨href, hmember ▸ hallOf, hsibling⟩] at hsole
          cases hsole
        | some sibling =>
          have hlast := congrArg getLast? hmember
          simpa [hsibling] using hlast
      cases hexprs with
      | cons hsettled hrest => rwa [defaultInForce?_siblingMember? hsibling] at hsettled
    | members hallOf hmany =>
      exact .of_not_hasModifier hsorted
        (not_hasModifier_members hmany rfl hstop hexprs.length_eq.symm)
    | union => exact .of_not_hasModifier hsorted rfl
    | object => exact .of_not_hasModifier hsorted (not_hasModifier_objectExpr (by decide))
    | array =>
      exact .of_not_hasModifier hsorted
        (not_hasModifier_of_kinds rfl (kinds_countModifiers _ _) (by decide))
    | fallback => exact .of_not_hasModifier hsorted rfl
    | choice =>
      exact .of_not_hasModifier hsorted (not_hasModifier_choiceExpr (by decide) _)
    | primitive =>
      exact .of_not_hasModifier hsorted (not_hasModifier_primitive (by decide) schema)

/-- A reference has the default that stands beside it. -/
theorem settled_reference (hdefaults : settings.config.withDefaultValues = true) {ref : String}
    (href : schema.ref = some ref) (hexpr : expr.modifiers = []) (optional : Bool) :
    Settled (defaultInForce? schema) (finished settings schema optional expr) := by
  have hsole : soleMember? schema = none := by simp [soleMember?, href]
  have hplain : Settled none expr := ⟨by rw [hexpr]; exact .nil, by rw [hexpr]; rfl⟩
  rw [defaultInForce?_eq, hsole]
  exact hplain.finished hdefaults optional

/-- Conversions give an expression with the default in force, whatever has been declared. -/
theorem settled_laws (hdefaults : settings.config.withDefaultValues = true) :
    Laws settings (eachDeclared (fun _ _ => True) fun _ => True) (fun _ _ _ => True)
      (fun _ schema _ expr _ => Settled (defaultInForce? schema) expr) where
  notes := eachDeclared_ignoresNotes
  stable _ hexpr := hexpr
  exhausted _ := trivial
  part _ _ _ := trivial
  stop _ _ _ := trivial
  build _ href hstop hexprs := by
    rw [defaultInForce?_eq]
    exact (settled_build href hstop hexprs).finished hdefaults _
  unresolved _ _ _ := trivial
  unregistered _ _ _ := trivial
  unknown _ href _ _ _ := settled_reference hdefaults href rfl _
  lazy _ href _ _ _ := settled_reference hdefaults href rfl _
  enter _ _ _ _ _ := trivial
  named _ href _ _ _ _ := settled_reference hdefaults href rfl _
  declare _ _ hinv _ := eachDeclared_add hinv trivial

/-- What a schema with a default is converted to has exactly one default: that of the sole member of
the schema, if there is a default in it, and else the schema's own. -/
theorem default_in_force {own : Value} {expr : Expr} {before after : Progress}
    (hdefaults : settings.config.withDefaultValues = true) (hown : schema.default = some own)
    (h : outcome (convert settings schema context) before = (.ok expr, after)) :
    expr.modifiers.filter (·.kind = .default) =
      [{ kind := .default, args := [((soleMember? schema).bind defaultInForce?).getD own] }] := by
  have hkeeps := (settled_laws hdefaults).noted.convertAt_keeps
    (depthBound settings.registry schema.size) schema context before trivial fun _ _ => trivial
  obtain ⟨-, -, hsettled⟩ := hkeeps.ok h
  rw [hsettled.defaults, defaultInForce?_eq, hown]
  cases (soleMember? schema).bind defaultInForce? <;> rfl

/-- A text with a default, as the sole member of a schema with another default, keeps its own. -/
theorem default_in_force_sole :
    let member : Schema := { kind := .string, default := some (.text "a") }
    let schema : Schema := { allOf := some [member], default := some (.text "b") }
    ∃ expr, outcome (convert ⟨{}, {}⟩ schema {}) {} = (.ok expr, {}) ∧
      expr.modifiers.filter (·.kind = .default) = [{ kind := .default, args := [.text "a"] }] := by
  intro member schema
  have hinner : (soleMember? schema).bind defaultInForce? = some (.text "a") := by
    rw [show soleMember? schema = some member from rfl, Option.bind_some, defaultInForce?_eq]
    rfl
  obtain ⟨expr, hexpr⟩ : ∃ expr, outcome (convert ⟨{}, {}⟩ schema {}) {} = (.ok expr, {}) := ⟨_, rfl⟩
  have hforce := default_in_force rfl rfl hexpr
  rw [hinner] at hforce
  exact ⟨expr, hexpr, hforce⟩

/-- The default of a schema does not win over the one that its sole member comes with. -/
theorem own_default_not_in_force :
    ¬ ∀ (settings : Settings) (schema : Schema) (context : Context) (own : Value) (expr : Expr)
      (before after : Progress), settings.config.withDefaultValues = true →
      schema.default = some own →
      outcome (convert settings schema context) before = (.ok expr, after) →
      expr.modifiers.filter (·.kind = .default) = [{ kind := .default, args := [own] }] := by
  intro h
  let member : Schema := { kind := .string, default := some (.text "a") }
  have hown : [({ kind := .default, args := [.text "a"] } : Modifier)] =
      [{ kind := .default, args := [.text "b"] }] :=
    h ⟨{}, {}⟩ { allOf := some [member], default := some (.text "b") } {} _ _ {} {} rfl rfl rfl
  simp [Value.text] at hown

end Conversion

end OpenApiClient
