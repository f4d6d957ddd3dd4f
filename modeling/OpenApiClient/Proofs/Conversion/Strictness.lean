import OpenApiClient.Proofs.Conversion.Lockstep
import OpenApiClient.Proofs.Conversion.WellFormed
import OpenApiClient.Proofs.Expr.Modifiers

/-!
# Conversions to strict objects

An object that says nothing about other properties lets them pass, or forbids them if objects are to
be strict. `Tightened` says what this comes to in a whole expression: it goes through the schema and
both expressions at once, and the two differ exactly in the objects that say nothing about other
properties, where one forbids what the other lets pass. For an `allOf` this is about the object that
its members are merged to.

Conversions with and without strict objects go side by side in this relation
(`sideBySide_strictObjects`).
-/

namespace OpenApiClient

open List

namespace Modifier

/-- A modifier that forbids other properties in place of one that lets them pass. -/
def tightened (modifier : Modifier) : Modifier :=
  if modifier.kind = .passthrough then { modifier with kind := .strict } else modifier

variable {modifier : Modifier}

theorem tightened_of_ne (h : modifier.kind ≠ .passthrough) : modifier.tightened = modifier :=
  if_neg h

theorem rank_tightened_le {other : Modifier} (h : modifier.kind ≠ .passthrough) :
    other.tightened.kind.rank ≤ modifier.kind.rank ↔ other.kind.rank ≤ modifier.kind.rank := by
  unfold tightened
  split
  · rename_i hother
    show ModifierKind.strict.rank ≤ modifier.kind.rank ↔ other.kind.rank ≤ modifier.kind.rank
    rw [hother]
    revert h
    cases modifier.kind <;> decide
  · rfl

theorem map_insertInto_tightened (h : modifier.kind ≠ .passthrough) (modifiers : List Modifier) :
    (modifier.insertInto modifiers).map tightened = modifier.insertInto (modifiers.map tightened) := by
  induction modifiers with
  | nil => rw [insertInto, map_cons, tightened_of_ne h]; rfl
  | cons first rest ih =>
    rw [insertInto, map_cons, insertInto]
    by_cases hle : first.kind.rank ≤ modifier.kind.rank
    · rw [if_pos hle, if_pos ((rank_tightened_le h).mpr hle), map_cons, ih]
    · rw [if_neg hle, if_neg (mt (rank_tightened_le h).mp hle), map_cons, map_cons,
        tightened_of_ne h]

/-- Further modifiers, none of which lets properties pass, are put into the same places. -/
theorem map_place_tightened {further : List Modifier}
    (h : ∀ modifier ∈ further, modifier.kind ≠ .passthrough) (modifiers : List Modifier) :
    (place modifiers further).map tightened = place (modifiers.map tightened) further := by
  induction further generalizing modifiers with
  | nil => rfl
  | cons modifier rest ih =>
    rw [forall_mem_cons] at h
    refine (ih h.2 _).trans ?_
    rw [map_insertInto_tightened h.1]
    rfl

theorem kind_tightened_iff {kind : ModifierKind} (hpass : kind ≠ .passthrough)
    (hstrict : kind ≠ .strict) : modifier.tightened.kind = kind ↔ modifier.kind = kind := by
  unfold tightened
  split
  · rename_i hkind
    rw [hkind]
    exact ⟨fun h => (hstrict h.symm).elim, fun h => (hpass h.symm).elim⟩
  · rfl

end Modifier

/-- Expressions refer to the same names if those that they consist of do. -/
theorem Expr.references_congr {mode : ReferenceMode} {first second : Expr}
    (hkind : first.kind = second.kind) (href : first.ref = second.ref)
    (hchildren : first.children.map (references mode) = second.children.map (references mode)) :
    first.references mode = second.references mode := by
  rw [references_eq, references_eq mode second, hkind, href, flatMap_def, flatMap_def,
    hchildren]

namespace Conversion

/-- What an `allOf` amounts to: its only member, or the object that the objects among its members are
merged to, and the other members. -/
def constituents (registry : Registry) (stack : List String) (schema : Schema)
    (allOf : List Schema) : List Schema :=
  match allOf ++ (siblingMember? schema).toList with
  | [member] => [member]
  | members =>
    let sorted := sortMembers registry stack members.zipIdx
    sorted.merged?.toList ++ sorted.others.map (·.1)

/-- A schema with the expression it becomes, and the one it becomes if objects are to be strict.
Without objects, both are the same. An `allOf` with one constituent is what this is, one with several
is their intersection. An object that says nothing about other properties lets them pass in one
expression and forbids them in the other, all other modifiers are the same. -/
inductive Tightened (registry : Registry) (stack : List String) : Schema → Expr → Expr → Prop
  | same {schema : Schema} {expr : Expr} : expr.Every (·.kind ≠ .object) →
      Tightened registry stack schema expr expr
  | alone {schema constituent : Schema} {allOf : List Schema} {loose strict : Expr} :
      schema.allOf = some allOf → constituents registry stack schema allOf = [constituent] →
      Tightened registry stack constituent loose strict →
      Tightened registry stack schema loose strict
  | intersection {schema : Schema} {allOf : List Schema} (twins : List (Twin Schema Expr))
      (modifiers : List Modifier) :
      schema.allOf = some allOf →
      constituents registry stack schema allOf = twins.map (·.item) →
      (∀ twin ∈ twins, Tightened registry stack twin.item twin.first twin.second) →
      Tightened registry stack schema
        { kind := .intersection, modifiers, members := twins.map (·.first) }
        { kind := .intersection, modifiers, members := twins.map (·.second) }
  | union {schema : Schema} (twins : List (Twin Schema Expr)) (modifiers : List Modifier) :
      schema.allOf = none → (schema.oneOf <|> schema.anyOf) = some (twins.map (·.item)) →
      (∀ twin ∈ twins, Tightened registry stack twin.item twin.first twin.second) →
      Tightened registry stack schema
        { kind := .union, modifiers, members := twins.map (·.first) }
        { kind := .union, modifiers, members := twins.map (·.second) }
  | array {schema items : Schema} {loose strict : Expr} (modifiers : List Modifier) :
      schema.kind = .array → schema.items = some items →
      Tightened registry stack items loose strict →
      Tightened registry stack schema
        { kind := .array, modifiers, items := loose } { kind := .array, modifiers, items := strict }
  | object {schema : Schema} (properties : List (Twin (String × Schema) Expr))
      (others : Option (Twin Schema Expr)) (modifiers : List Modifier) :
      schema.isPlainObject = true →
      properties.map (·.item) = schema.properties →
      others.map (·.item) = schema.otherProperties →
      (∀ twin ∈ properties, Tightened registry stack twin.item.2 twin.first twin.second) →
      (∀ twin ∈ others, Tightened registry stack twin.item twin.first twin.second) →
      (schema.additional = none → .passthrough ∈ modifiers.map (·.kind)) →
      Tightened registry stack schema
        { kind := .object, modifiers
          properties := properties.map fun twin => convertedProperty schema twin.item twin.first
          others := others.map (·.first) }
        { kind := .object
          modifiers :=
            if schema.additional.isNone then modifiers.map Modifier.tightened else modifiers
          properties := properties.map fun twin => convertedProperty schema twin.item twin.second
          others := others.map (·.second) }

variable {registry : Registry} {stack : List String} {schema : Schema} {loose strict : Expr}

namespace Tightened

/-- Modifiers of all other kinds are the same. -/
theorem hasModifier_eq (h : Tightened registry stack schema loose strict) {kind : ModifierKind}
    (hpass : kind ≠ .passthrough) (hstrict : kind ≠ .strict) :
    strict.hasModifier kind = loose.hasModifier kind := by
  induction h with
  | same _ => rfl
  | alone _ _ _ ih => exact ih
  | intersection _ _ _ _ _ _ => rfl
  | union _ _ _ _ _ _ => rfl
  | array _ _ _ _ _ => rfl
  | @object schema _ _ modifiers _ _ _ _ _ _ _ _ =>
    simp only [Expr.hasModifier]
    split
    · simp [any_map, Function.comp_def, Modifier.kind_tightened_iff hpass hstrict]
    · rfl

/-- Both refer to the same names. -/
theorem references_eq (h : Tightened registry stack schema loose strict) (mode : ReferenceMode) :
    strict.references mode = loose.references mode := by
  induction h with
  | same _ => rfl
  | alone _ _ _ ih => exact ih
  | intersection twins _ _ _ _ ih =>
    refine Expr.references_congr rfl rfl ?_
    simpa [Expr.children] using ih
  | union twins _ _ _ _ ih =>
    refine Expr.references_congr rfl rfl ?_
    simpa [Expr.children] using ih
  | array _ _ _ _ ih =>
    refine Expr.references_congr rfl rfl ?_
    simpa [Expr.children] using ih
  | object properties others _ _ _ _ _ _ _ hproperties hothers =>
    refine Expr.references_congr rfl rfl ?_
    have hrest : others.toList.map (fun twin => twin.second.references mode) =
        others.toList.map (fun twin => twin.first.references mode) :=
      map_congr_left fun twin htwin => hothers twin (Option.mem_toList.mp htwin)
    have hlist : properties.map (fun twin => twin.second.references mode) =
        properties.map (fun twin => twin.first.references mode) :=
      map_congr_left hproperties
    simp [Expr.children, Option.toList_map, convertedProperty, Function.comp_def, hlist, hrest]

/-- The same further modifiers can be added to both. -/
theorem withModifiers (h : Tightened registry stack schema loose strict)
    (hloose : Modifier.Sorted loose.modifiers) (hstrict : Modifier.Sorted strict.modifiers)
    {further : List Modifier} (hfurther : ∀ modifier ∈ further, modifier.kind ≠ .passthrough) :
    Tightened registry stack schema (loose.withModifiers further) (strict.withModifiers further) := by
  induction h with
  | @same schema expr hobjects =>
    exact .same (Expr.every_withModifiers hobjects (by simpa using hobjects.self))
  | alone hallOf hconstituents _ ih => exact .alone hallOf hconstituents (ih hloose hstrict)
  | intersection twins modifiers hallOf hconstituents htwins _ =>
    rw [Expr.withModifiers_of_sorted hloose, Expr.withModifiers_of_sorted hstrict]
    exact .intersection twins _ hallOf hconstituents htwins
  | union twins modifiers hallOf hmembers htwins _ =>
    rw [Expr.withModifiers_of_sorted hloose, Expr.withModifiers_of_sorted hstrict]
    exact .union twins _ hallOf hmembers htwins
  | array modifiers hkind hitems htwin _ =>
    rw [Expr.withModifiers_of_sorted hloose, Expr.withModifiers_of_sorted hstrict]
    exact .array _ hkind hitems htwin
  | @object schema properties others modifiers hplain hitems hrest hproperties hothers hpass _ _ =>
    -- nothing that is added comes between the two modifiers in order, so the places agree
    have hplaced : Modifier.place (if schema.additional.isNone then
          modifiers.map Modifier.tightened else modifiers) further =
        if schema.additional.isNone then (Modifier.place modifiers further).map Modifier.tightened
        else Modifier.place modifiers further := by
      split
      · exact (Modifier.map_place_tightened hfurther modifiers).symm
      · rfl
    rw [Expr.withModifiers_of_sorted hloose, Expr.withModifiers_of_sorted hstrict]
    simp only [hplaced]
    -- what lets other properties pass is still there, so the object stays different
    refine .object properties others _ hplain hitems hrest hproperties hothers fun hnone => ?_
    obtain ⟨modifier, hmodifier, hkind⟩ := mem_map.mp (hpass hnone)
    refine mem_map.mpr ⟨modifier, ?_, hkind⟩
    exact (Modifier.foldl_insertInto further modifiers hloose).1.mem_iff.mpr
      (mem_append_right _ hmodifier)

end Tightened

/-! ### Built expressions -/

/-- Without parts there is no object but the expression itself. -/
theorem Tightened.of_leaf (hkind : loose.kind ≠ .object) (hchildren : loose.children = []) :
    Tightened registry stack schema loose loose :=
  .same (every_leaf hkind hchildren)

theorem place_objectModifiers (optionalAll : Bool) (additional : Option (Additional Schema)) :
    Modifier.place [] (objectModifiers true optionalAll additional) =
      if additional.isNone then
        (Modifier.place [] (objectModifiers false optionalAll additional)).map Modifier.tightened
      else Modifier.place [] (objectModifiers false optionalAll additional) := by
  rcases additional with _ | (_ | _) | others <;> cases optionalAll <;> rfl

theorem passthrough_mem_objectModifiers (optionalAll : Bool) :
    ModifierKind.passthrough ∈
      (Modifier.place [] (objectModifiers false optionalAll none)).map (·.kind) := by
  cases optionalAll <;> decide

theorem isPlainObject_mergeObjects (shapes : List Schema) :
    (mergeObjects shapes).isPlainObject = true := by
  have hfold : ∀ (shapes : List Schema) (merged : Schema), merged.isPlainObject = true →
      (shapes.foldl mergeObject merged).isPlainObject = true := by
    intro shapes
    induction shapes with
    | nil => exact fun merged h => h
    | cons shape rest ih => exact fun merged h => ih _ h
  exact hfold shapes _ rfl

theorem objectExpr_eq (strict : Bool) (schema : Schema) (exprs : List Expr) :
    objectExpr strict schema exprs =
      { kind := .object
        modifiers := Modifier.place []
          (objectModifiers strict (makesPartial schema) schema.additional)
        properties := zipWith (convertedProperty schema) schema.properties
          (exprs.take schema.properties.length)
        others := (exprs.drop schema.properties.length).head? } := by
  have hproperties := @List.take_zipWith _ _ _ (convertedProperty schema) schema.properties exprs
    schema.properties.length
  rw [take_length, take_of_length_le (by simp)] at hproperties
  rw [objectExpr, Expr.withModifiers_of_sorted (by exact .nil), head?_drop, hproperties]

/-- An object is built from its parts. -/
theorem tightened_objectExpr {context : Context} (hplain : schema.isPlainObject = true)
    {firsts seconds : List Expr}
    (h : Twinned (fun part => Tightened registry stack part.1) (objectParts schema context) firsts
      seconds) :
    Tightened registry stack schema (objectExpr false schema firsts)
      (objectExpr true schema seconds) := by
  obtain ⟨hproperties, hothers⟩ := h.split
  rw [length_map] at hproperties hothers
  rw [otherParts_eq] at hothers
  obtain ⟨properties, hitems, hfirsts, hseconds, hproperties⟩ := hproperties.of_map
  obtain ⟨others, hrest, hfirst, hsecond, hothers⟩ := hothers.of_map
  have hhead : others.head?.map (·.item) = schema.otherProperties := by
    rw [← head?_map, hrest, Option.head?_toList]
  rw [objectExpr_eq, objectExpr_eq, ← hfirsts, ← hseconds, ← hfirst, ← hsecond, ← hitems,
    place_objectModifiers]
  simp only [zipWith_map, zipWith_self, head?_map]
  refine .object properties others.head? _ hplain hitems hhead hproperties ?_ ?_
  · exact fun twin htwin => hothers twin (mem_of_mem_head? htwin)
  · intro hnone
    rw [hnone]
    exact passthrough_mem_objectModifiers _

theorem tightened_unknown (note : Option String) :
    Tightened registry stack schema (.unknown note) (.unknown note) :=
  .of_leaf (by simp [Expr.unknown]) rfl

theorem tightened_primitive (schema : Schema) :
    Tightened registry stack schema ((primitiveExpr? schema).getD (.unknown none))
      ((primitiveExpr? schema).getD (.unknown none)) := by
  refine .of_leaf ?_ (children_primitive schema)
  unfold primitiveExpr?
  split <;> simp [Expr.ofPrimitive, Expr.unknown]

theorem tightened_choiceExpr (values : List Value) :
    Tightened registry stack schema (choiceExpr values) (choiceExpr values) := by
  refine .of_leaf ?_ (children_choiceExpr values)
  rw [choiceExpr_eq, Expr.withModifiers_kind]
  unfold choiceBase
  split <;> simp [Expr.ofPrimitive]

variable {allOf : List Schema}

/-- An `allOf` is what its constituents are together. -/
theorem tightened_joinParts (hallOf : schema.allOf = some allOf) {firsts seconds : List Expr}
    (h : Twinned (Tightened registry stack) (constituents registry stack schema allOf) firsts
      seconds) : Tightened registry stack schema (joinParts firsts) (joinParts seconds) := by
  obtain ⟨twins, hitems, rfl, rfl, htwins⟩ := h
  match twins with
  | [] => exact .intersection [] [] hallOf hitems.symm htwins
  | [twin] => exact .alone hallOf hitems.symm (htwins twin mem_cons_self)
  | first :: second :: rest =>
    exact .intersection (first :: second :: rest) [] hallOf hitems.symm htwins

section Plans

variable {first second : Settings} {context : Context} {firsts seconds : List Expr}

theorem tightened_membersPlan (hfirst : first.config.strictObjects = false)
    (hsecond : second.config.strictObjects = true) (hallOf : schema.allOf = some allOf)
    {members : Members} (hconstituents : constituents registry stack schema allOf =
      members.merged?.toList ++ members.others.map (·.1)) (hstop : members.stop = none)
    (h : Twinned (fun part => Tightened registry stack part.1)
      (membersPlan first members context).parts firsts seconds) :
    Tightened registry stack schema ((membersPlan first members context).build firsts)
      ((membersPlan second members context).build seconds) := by
  simp only [membersPlan, hstop, Option.isSome_none, Bool.false_eq_true, if_false] at h ⊢
  obtain ⟨hothers, hmerged⟩ := h.split
  have hlength : (memberParts "allOf" members.others context).length = members.others.length :=
    length_map _
  have hitems : (memberParts "allOf" members.others context).map (·.1) =
      members.others.map (·.1) := by
    simp [memberParts]
  rw [hlength] at hothers hmerged
  rw [hfirst, hsecond]
  refine tightened_joinParts hallOf ?_
  rw [hconstituents, ← hitems]
  refine Twinned.append ?_ hothers.map_item
  cases hshapes : members.merged? with
  | none => exact .nil
  | some object =>
    have hplain : object.isPlainObject = true := by
      unfold Members.merged? at hshapes
      split at hshapes
      · cases hshapes
      · cases hshapes
        exact isPlainObject_mergeObjects _
    simp only [hshapes, Option.toList_some, flatMap_cons, flatMap_nil,
      append_nil] at hmerged
    exact .cons (tightened_objectExpr hplain hmerged) .nil

theorem tightened_allOfPlan (hregistry : first.registry = second.registry)
    (hfirst : first.config.strictObjects = false) (hsecond : second.config.strictObjects = true)
    (hallOf : schema.allOf = some allOf)
    (hstop : (allOfPlan first schema allOf context).stop = none)
    (h : Twinned (fun part => Tightened first.registry context.stack part.1)
      (allOfPlan first schema allOf context).parts firsts seconds) :
    Tightened first.registry context.stack schema
      ((allOfPlan first schema allOf context).build firsts)
      ((allOfPlan second schema allOf context).build seconds) := by
  unfold allOfPlan at h hstop ⊢
  rw [← hregistry]
  rcases hmembers : allOf ++ (siblingMember? schema).toList with _ | ⟨member, _ | ⟨next, rest⟩⟩
  · rw [hmembers] at h hstop
    exact tightened_membersPlan hfirst hsecond hallOf (by rw [constituents, hmembers]) hstop h
  · rw [hmembers] at h
    obtain ⟨twins, hitems, rfl, rfl, htwins⟩ := h
    obtain ⟨twin, rfl, hitem⟩ := map_eq_singleton_iff.mp hitems
    have htwin := htwins twin mem_cons_self
    rw [hitem] at htwin
    exact .alone hallOf (by rw [constituents, hmembers]) htwin
  · rw [hmembers] at h hstop
    exact tightened_membersPlan hfirst hsecond hallOf (by rw [constituents, hmembers]) hstop h

theorem tightened_unionPlan {keyword : String} {notes : List (String × String)}
    {members : List Schema} (hallOf : schema.allOf = none)
    (hmembers : (schema.oneOf <|> schema.anyOf) = some members)
    (h : Twinned (fun part => Tightened registry stack part.1)
      (unionPlan keyword members notes context).parts firsts seconds) :
    Tightened registry stack schema ((unionPlan keyword members notes context).build firsts)
      ((unionPlan keyword members notes context).build seconds) := by
  have hitems : (memberParts keyword members.zipIdx context).map (·.1) = members := by
    simp [memberParts, Function.comp_def]
  obtain ⟨twins, rfl, rfl, rfl, htwins⟩ := hitems ▸ h.map_item
  exact .union twins [] hallOf hmembers htwins

theorem tightened_arrayPlan (hkind : schema.kind = .array)
    (h : Twinned (fun part => Tightened registry stack part.1) (arrayPlan schema context).parts
      firsts seconds) :
    Tightened registry stack schema ((arrayPlan schema context).build firsts)
      ((arrayPlan schema context).build seconds) := by
  have hcounts : ∀ modifier ∈ countModifiers schema.minItems schema.maxItems,
      modifier.kind ≠ .passthrough := by
    intro modifier hmodifier hpass
    have hkinds := (kinds_countModifiers _ _).mem (mem_map_of_mem hmodifier)
    simp [hpass] at hkinds
  obtain ⟨twins, hitems, rfl, rfl, htwins⟩ := h.of_map
  cases hschema : schema.items with
  | none =>
    rw [hschema] at hitems
    obtain rfl : twins = [] := map_eq_nil_iff.mp hitems
    have hitem : (Expr.unknown none).Every (·.kind ≠ .object) :=
      every_leaf (by simp [Expr.unknown]) rfl
    have hunknown : Tightened registry stack schema
        { kind := .array, items := Expr.unknown none }
        { kind := .array, items := Expr.unknown none } :=
      .same (Expr.every_iff.mpr ⟨by simp, by simpa [Expr.children] using hitem⟩)
    exact hunknown.withModifiers (by exact .nil) (by exact .nil) hcounts
  | some items =>
    rw [hschema] at hitems
    obtain ⟨twin, rfl, hitem⟩ := map_eq_singleton_iff.mp hitems
    have htwin := htwins twin mem_cons_self
    rw [hitem] at htwin
    exact Tightened.withModifiers (.array [] hkind hschema htwin) (by exact .nil) (by exact .nil)
      hcounts

/-- What the plans of a schema build from its parts. -/
theorem tightened_build (hregistry : first.registry = second.registry)
    (hfirst : first.config.strictObjects = false) (hsecond : second.config.strictObjects = true)
    (href : schema.ref = none) (hstop : (plan first schema context).stop = none)
    (h : Twinned (fun part => Tightened first.registry context.stack part.1)
      (plan first schema context).parts firsts seconds) :
    Tightened first.registry context.stack schema ((plan first schema context).build firsts)
      ((plan second schema context).build seconds) := by
  unfold plan at h hstop ⊢
  rcases hallOf : schema.allOf with _ | allOf
  on_goal 2 =>
    simp only [hallOf] at h hstop
    exact tightened_allOfPlan hregistry hfirst hsecond hallOf hstop h
  rcases honeOf : schema.oneOf with _ | members
  on_goal 2 =>
    simp only [hallOf, honeOf] at h
    exact tightened_unionPlan hallOf (by rw [honeOf]; rfl) h
  rcases hanyOf : schema.anyOf with _ | members
  on_goal 2 =>
    simp only [hallOf, honeOf, hanyOf] at h
    exact tightened_unionPlan hallOf (by rw [honeOf, hanyOf]; rfl) h
  by_cases hnegated : schema.negated.isSome
  · simp only [hnegated, if_true]
    exact tightened_unknown _
  simp only [hnegated]
  rcases hconst : schema.const with _ | value
  on_goal 2 => exact tightened_choiceExpr _
  rcases henum : schema.enum with _ | values
  on_goal 2 => exact tightened_choiceExpr _
  rcases htype : schema.unsupportedType with _ | name
  on_goal 2 => exact tightened_unknown _
  simp only [hallOf, honeOf, hanyOf, hnegated, hconst, henum, htype] at h
  by_cases hobject : schema.kind = .object
  · have hplain : schema.isPlainObject = true := by
      simp_all [Schema.isPlainObject, Schema.isComposed]
    simp only [hobject, if_true] at h ⊢
    simp only [objectPlan, hfirst, hsecond]
    exact tightened_objectExpr hplain h
  by_cases harray : schema.kind = .array
  · simp only [harray, if_true] at h ⊢
    exact tightened_arrayPlan harray h
  · simp only [hobject, harray, if_false]
    exact tightened_primitive schema

end Plans

/-! ### Conversions side by side -/

/-- What comes last is the same for both expressions. -/
theorem tightened_finished {first second : Settings}
    (hdefaults : first.config.withDefaultValues = second.config.withDefaultValues)
    (optional : Bool) (h : Tightened registry stack schema loose strict)
    (hloose : Modifier.Sorted loose.modifiers) (hstrict : Modifier.Sorted strict.modifiers) :
    Tightened registry stack schema (finished first schema optional loose)
      (finished second schema optional strict) := by
  have htrailing : trailingModifiers second.config.withDefaultValues optional schema strict =
      trailingModifiers first.config.withDefaultValues optional schema loose := by
    have hoptional : strict.hasModifier .optional = loose.hasModifier .optional :=
      h.hasModifier_eq (by decide) (by decide)
    have hdefault : strict.hasModifier .default = loose.hasModifier .default :=
      h.hasModifier_eq (by decide) (by decide)
    have hnullable : strict.hasModifier .nullable = loose.hasModifier .nullable :=
      h.hasModifier_eq (by decide) (by decide)
    simp only [trailingModifiers, hdefaults, hoptional, hdefault, hnullable]
  rw [finished, finished, htrailing]
  refine h.withModifiers hloose hstrict fun modifier hmodifier hpass => ?_
  have hkinds := (kinds_trailingModifiers _ _ _ _).mem (mem_map_of_mem hmodifier)
  simp [hpass] at hkinds

/-- Conversions with and without strict objects go side by side. -/
theorem sideBySide_strictObjects {first second : Settings}
    (hregistry : first.registry = second.registry)
    (hdefaults : first.config.withDefaultValues = second.config.withDefaultValues)
    (hfirst : first.config.strictObjects = false) (hsecond : second.config.strictObjects = true) :
    SideBySide first second
      (fun stack schema loose strict => Tightened first.registry stack schema loose strict ∧
        Modifier.Sorted loose.modifiers ∧ Modifier.Sorted strict.modifiers)
      (fun name loose strict => ∃ stack schema, first.registry.get? name = some schema ∧
        Tightened first.registry (stack ++ [name]) schema loose strict) where
  registry := hregistry
  build := by
    intro schema context firsts seconds href hstop htwins
    have hbuilt := tightened_build hregistry hfirst hsecond href hstop
      (htwins.imp fun _ _ _ _ hgood => hgood.1)
    obtain ⟨twins, -, rfl, rfl, htwins⟩ := htwins
    have hloose : Modifier.Sorted
        ((plan first schema context).build (twins.map (·.first))).modifiers :=
      build_sorted fun expr hexpr => by
        obtain ⟨twin, htwin, rfl⟩ := mem_map.mp hexpr
        exact (htwins twin htwin).2.1
    have hstrict : Modifier.Sorted
        ((plan second schema context).build (twins.map (·.second))).modifiers :=
      build_sorted fun expr hexpr => by
        obtain ⟨twin, htwin, rfl⟩ := mem_map.mp hexpr
        exact (htwins twin htwin).2.2
    exact ⟨tightened_finished hdefaults _ hbuilt hloose hstrict, finished_sorted first schema _ hloose,
      finished_sorted second schema _ hstrict⟩
  reference := by
    intro schema stack expr optional _ hexpr
    have hleaf : expr.kind ≠ .object ∧ expr.children = [] ∧ expr.modifiers = [] := by
      rcases hexpr with ⟨note, rfl⟩ | ⟨name, rfl | rfl⟩ <;> exact ⟨nofun, rfl, rfl⟩
    have hsorted : Modifier.Sorted expr.modifiers := by rw [hleaf.2.2]; exact .nil
    exact ⟨tightened_finished hdefaults optional (.of_leaf hleaf.1 hleaf.2.1) hsorted hsorted,
      finished_sorted first schema optional hsorted, finished_sorted second schema optional hsorted⟩
  declared := fun hget hgood => ⟨_, _, hget, hgood.1⟩

end Conversion

end OpenApiClient
