import OpenApiClient.Conversion.Basic
import OpenApiClient.Proofs.Expr.WellFormed
import OpenApiClient.Proofs.Registry

/-!
# What the conversion of a schema amounts to

A schema that is no reference is converted in three steps: warnings are recorded, the parts of the
schema are converted one after the other, and the expression is put together from what they became.
A `Plan` holds these steps. It depends on the schema, the registry and the stack only, not on what
has been declared before, and `convertKind_eq_plan` says that the conversion of a schema is the
execution of its plan.

All that is proved about conversions goes through this equation: the recursion is dealt with once,
and what remains are facts on plans, which hold no recursion.
-/

namespace OpenApiClient.Conversion

open Contract List

/-- What the conversion of a schema does: the warnings it records, each a keyword with a note, the
parts it converts, the reference it gets stuck at after that, if any, and how it builds the
expression out of the converted parts. -/
structure Plan where
  notes : List (String × String) := []
  parts : List (Schema × Context) := []
  stop : Option CompileError := none
  build : List Expr → Expr

/-- Converts the parts of a plan. -/
def convertParts (convert : Converter) (parts : List (Schema × Context)) : Convert (List Expr) :=
  parts.mapM fun part => convert part.1 part.2

/-- Carries a plan out. -/
def Plan.run (plan : Plan) (convert : Converter) (location : String) : Convert Expr := do
  plan.notes.forM fun note => Convert.warn location note.1 note.2
  let exprs ← convertParts convert plan.parts
  match plan.stop with
  | some error => throw (.compile error)
  | none => return plan.build exprs

/-! ### Objects and arrays -/

/-- Whether all properties of an object are made optional at once. -/
def makesPartial (schema : Schema) : Bool :=
  (schema.required.getD []).isEmpty && !schema.properties.isEmpty

/-- Whether a property of an object may be missing. -/
def mayMiss (schema : Schema) (name : String) : Bool := !(schema.required.getD []).contains name

/-- The context of a property of an object. -/
def propertyContext (schema : Schema) (context : Context) (name : String) : Context :=
  context.child ("properties/" ++ Pointer.escape name) (mayMiss schema name && !makesPartial schema)

/-- The schema for the other properties of an object, as a part. -/
def otherParts (schema : Schema) (context : Context) : List (Schema × Context) :=
  match schema.additional with
  | some (.schema others) => [(others, context.child "additionalProperties" false)]
  | _ => []

/-- The parts of an object: its properties, and the schema for all others. -/
def objectParts (schema : Schema) (context : Context) : List (Schema × Context) :=
  schema.properties.map (fun property => (property.2, propertyContext schema context property.1)) ++
    otherParts schema context

/-- A property of an object that has been converted. -/
def convertedProperty (schema : Schema) (property : String × Schema) (expr : Expr) :
    Property Expr where
  name := property.1
  expr := expr
  optional := mayMiss schema property.1

/-- The object whose parts became the given expressions. -/
def objectExpr (strict : Bool) (schema : Schema) (exprs : List Expr) : Expr :=
  ({ kind := .object
     properties := zipWith (convertedProperty schema) schema.properties exprs
     others := exprs[schema.properties.length]? } : Expr).withModifiers
    (objectModifiers strict (makesPartial schema) schema.additional)

/-- The plan for an object. -/
def objectPlan (settings : Settings) (schema : Schema) (context : Context) : Plan where
  parts := objectParts schema context
  build := objectExpr settings.config.strictObjects schema

/-- The array whose items became the given expression, if there is one. -/
def arrayExpr (schema : Schema) (exprs : List Expr) : Expr :=
  ({ kind := .array, items := exprs.headD (.unknown none) } : Expr).withModifiers
    (countModifiers schema.minItems schema.maxItems)

/-- The plan for an array. -/
def arrayPlan (schema : Schema) (context : Context) : Plan where
  parts := schema.items.toList.map fun items => (items, context.child "items" false)
  build := arrayExpr schema

/-! ### Compositions -/

/-- The members of an `allOf`, sorted: the objects to merge, the members to convert with their
places, and the reference that names nothing, if one was met. -/
structure Members where
  shapes : List Schema := []
  others : List (Schema × Nat) := []
  stop : Option CompileError := none

/-- Sorts the members of an `allOf` up to the first reference that names nothing. -/
def sortMembers (registry : Registry) (stack : List String) : List (Schema × Nat) → Members
  | [] => {}
  | (member, index) :: rest =>
    match objectBehind? registry stack member with
    | .error error => { stop := some error }
    | .ok (some shape) =>
      let sorted := sortMembers registry stack rest
      { sorted with shapes := shape :: sorted.shapes }
    | .ok none =>
      let sorted := sortMembers registry stack rest
      { sorted with others := (member, index) :: sorted.others }

/-- The object that the shapes among the members amount to, if there are any. -/
def Members.merged? (members : Members) : Option Schema :=
  if members.shapes.isEmpty then none else some (mergeObjects members.shapes)

/-- The parts of a composition: members with their places. -/
def memberParts (keyword : String) (members : List (Schema × Nat)) (context : Context) :
    List (Schema × Context) :=
  members.map fun member =>
    (member.1, context.child (keyword ++ "/" ++ toString member.2) false)

/-- A value that is all of the given parts. -/
def joinParts : List Expr → Expr
  | [part] => part
  | parts => { kind := .intersection, members := parts }

/-- The plan for an `allOf` with its members sorted. -/
def membersPlan (settings : Settings) (members : Members) (context : Context) : Plan where
  parts := memberParts "allOf" members.others context ++
    if members.stop.isSome then []
    else members.merged?.toList.flatMap fun object => objectParts object context
  stop := members.stop
  build exprs :=
    joinParts (members.merged?.toList.map (fun object => objectExpr settings.config.strictObjects
      object (exprs.drop members.others.length)) ++ exprs.take members.others.length)

/-- The plan for an `allOf`. -/
def allOfPlan (settings : Settings) (schema : Schema) (allOf : List Schema) (context : Context) :
    Plan :=
  match allOf ++ (siblingMember? schema).toList with
  | [member] =>
    { parts := [(member, context.child "allOf/0" false)]
      build := fun exprs => exprs.headD (.unknown none) }
  | members =>
    membersPlan settings (sortMembers settings.registry context.stack members.zipIdx) context

/-- The plan for a union. -/
def unionPlan (keyword : String) (members : List Schema) (notes : List (String × String))
    (context : Context) : Plan where
  notes := notes
  parts := memberParts keyword members.zipIdx context
  build := fun exprs => { kind := .union, members := exprs }

/-! ### Schemas -/

/-- The warning on alternatives that are passed over. -/
def anyOfNote : String × String := ("anyOf", "anyOf next to oneOf is not supported; anyOf ignored")

/-- The plan for a schema that any value fits. -/
def fallbackPlan (keyword note : String) : Plan where
  notes := [(keyword, note)]
  build := fun _ => .unknown (some note)

/-- The plan for a schema without parts. -/
def leafPlan (expr : Expr) : Plan where
  build := fun _ => expr

/-- The plan for a schema that is no reference. -/
def plan (settings : Settings) (schema : Schema) (context : Context) : Plan :=
  if let some allOf := schema.allOf then allOfPlan settings schema allOf context
  else if let some members := schema.oneOf then
    unionPlan "oneOf" members (if schema.anyOf.isSome then [anyOfNote] else []) context
  else if let some members := schema.anyOf then unionPlan "anyOf" members [] context
  else if schema.negated.isSome then fallbackPlan "not" negationNote
  else if let some value := schema.const then leafPlan (choiceExpr [value])
  else if let some values := schema.enum then leafPlan (choiceExpr values)
  else if let some name := schema.unsupportedType then fallbackPlan "type" (typeNote name)
  else if schema.kind = .object then objectPlan settings schema context
  else if schema.kind = .array then arrayPlan schema context
  else leafPlan ((primitiveExpr? schema).getD (.unknown none))

/-- The plans that a schema can have, one case for each kind of plan. -/
inductive Planned (settings : Settings) (schema : Schema) (context : Context) : Plan → Prop
  | single {allOf : List Schema} {member : Schema} : schema.allOf = some allOf →
      allOf ++ (siblingMember? schema).toList = [member] →
      Planned settings schema context
        { parts := [(member, context.child "allOf/0" false)]
          build := fun exprs => exprs.headD (.unknown none) }
  | members {allOf : List Schema} : schema.allOf = some allOf →
      (allOf ++ (siblingMember? schema).toList).length ≠ 1 →
      Planned settings schema context (membersPlan settings (sortMembers settings.registry
        context.stack (allOf ++ (siblingMember? schema).toList).zipIdx) context)
  | union {members : List Schema} (keyword : String) (notes : List (String × String)) :
      schema.oneOf = some members ∨ schema.anyOf = some members →
      Planned settings schema context (unionPlan keyword members notes context)
  | fallback (keyword note : String) : Planned settings schema context (fallbackPlan keyword note)
  | choice {values : List Value} :
      (∃ value, schema.const = some value ∧ values = [value]) ∨ schema.enum = some values →
      Planned settings schema context (leafPlan (choiceExpr values))
  | object : schema.allOf = none → schema.kind = .object →
      Planned settings schema context (objectPlan settings schema context)
  | array : Planned settings schema context (arrayPlan schema context)
  | primitive :
      Planned settings schema context (leafPlan ((primitiveExpr? schema).getD (.unknown none)))

theorem planned (settings : Settings) (schema : Schema) (context : Context) :
    Planned settings schema context (plan settings schema context) := by
  unfold plan
  split
  · rename_i allOf hallOf
    unfold allOfPlan
    split
    · rename_i member hmember
      exact .single hallOf hmember
    · rename_i hnot
      refine .members hallOf fun hone => ?_
      obtain ⟨member, hmember⟩ := length_eq_one_iff.mp hone
      exact hnot member hmember
  rename_i hallOf
  split
  · rename_i members hmembers
    exact .union _ _ (.inl hmembers)
  split
  · rename_i members hmembers
    exact .union _ _ (.inr hmembers)
  split
  · exact .fallback _ _
  split
  · rename_i value hvalue
    exact .choice (.inl ⟨value, hvalue, rfl⟩)
  split
  · rename_i values hvalues
    exact .choice (.inr hvalues)
  split
  · exact .fallback _ _
  split
  · rename_i hkind
    exact .object (Option.eq_none_iff_forall_ne_some.mpr hallOf) hkind
  split
  · exact .array
  · exact .primitive

/-! ### Choices -/

/-- The values of a choice besides `null`. -/
def presentValues (values : List Value) : List Value :=
  values.filter fun
    | .null => false
    | _ => true

/-- The expression for one of the given values, none of which is `null`. -/
def choiceBase : List Value → Expr
  | [] => .ofPrimitive .null
  | [value] => { kind := .literal, values := [value] }
  | present => { kind := .enum, values := present }

/-- The modifiers of a choice. -/
def choiceModifiers (values : List Value) : List Modifier :=
  if (presentValues values).isEmpty || (presentValues values).length = values.length then []
  else [{ kind := .nullable }]

theorem choiceExpr_eq (values : List Value) :
    choiceExpr values =
      (choiceBase (presentValues values)).withModifiers (choiceModifiers values) := by
  unfold choiceModifiers
  split
  · rename_i h
    exact if_pos h
  · rename_i h
    exact if_neg h

/-! ### What the built expressions consist of -/

theorem mem_of_mem_children_objectExpr {strict : Bool} {schema : Schema} {exprs : List Expr}
    {child : Expr} (h : child ∈ (objectExpr strict schema exprs).children) : child ∈ exprs := by
  rw [objectExpr, Expr.children_withModifiers] at h
  simp only [Expr.children, mem_append, mem_map, Option.mem_toList,
    Option.toList_none, not_mem_nil, or_false] at h
  rcases h with ⟨property, hproperty, rfl⟩ | hother
  · obtain ⟨index, hindex, rfl⟩ := mem_iff_getElem.mp hproperty
    simp [convertedProperty]
  · exact mem_of_getElem? hother

theorem mem_children_arrayExpr {schema : Schema} {exprs : List Expr} {child : Expr}
    (h : child ∈ (arrayExpr schema exprs).children) : child = .unknown none ∨ child ∈ exprs := by
  rw [arrayExpr, Expr.children_withModifiers] at h
  cases exprs with
  | nil => exact .inl (by simpa [Expr.children] using h)
  | cons expr rest => exact .inr (by simp [Expr.children] at h; simp [h])

/-! ### The conversion carries the plan out -/

variable (convert : Converter) (settings : Settings) (schema : Schema) (context : Context)

theorem convertParts_append (first second : List (Schema × Context)) :
    convertParts convert (first ++ second) =
      (do return (← convertParts convert first) ++ (← convertParts convert second)) :=
  mapM_append

theorem convertUnion_eq (keyword : String) (members : List Schema) :
    convertUnion convert keyword members context =
      (unionPlan keyword members [] context).run convert context.location := by
  simp only [convertUnion, Plan.run, unionPlan, convertParts, memberParts, mapM_map]
  rfl

theorem convertArray_eq :
    convertArray convert schema context = (arrayPlan schema context).run convert context.location := by
  cases hitems : schema.items with
  | none => simp [convertArray, Plan.run, arrayPlan, convertParts, arrayExpr, hitems]
  | some items => simp [convertArray, Plan.run, arrayPlan, convertParts, arrayExpr, hitems]

theorem zipWith_append_right {α β γ : Type} {f : α → β → γ} {first : List α}
    {second extra : List β} (h : first.length = second.length) :
    zipWith f first (second ++ extra) = zipWith f first second := by
  have happend := @List.zipWith_append _ _ _ f first [] second extra h
  rwa [append_nil, zipWith_nil_left, append_nil] at happend

theorem convertObject_eq :
    convertObject convert settings schema context =
      (do
        let exprs ← convertParts convert (objectParts schema context)
        return objectExpr settings.config.strictObjects schema exprs) := by
  have hproperties : (schema.properties.mapM fun property => do
      let expr ← convert property.2 (propertyContext schema context property.1)
      return convertedProperty schema property expr) =
      (do
        let exprs ← convertParts convert (schema.properties.map fun property =>
          (property.2, propertyContext schema context property.1))
        return zipWith (convertedProperty schema) schema.properties exprs) :=
    mapM_label (fun part : Schema × Context => convert part.1 part.2)
      (fun property => (property.2, propertyContext schema context property.1))
      (convertedProperty schema) schema.properties
  unfold convertObject
  simp only [objectParts, convertParts_append, bind_assoc, pure_bind]
  refine (congrArg (· >>= _) hproperties).trans ?_
  rw [bind_assoc]
  apply mapM_bind_congr
  intro exprs hlength
  rw [length_map] at hlength
  rw [pure_bind]
  rcases hadditional : schema.additional with _ | _ | others
  · simp [otherParts, hadditional, convertParts, objectExpr, makesPartial, hlength.symm]
  · simp [otherParts, hadditional, convertParts, objectExpr, makesPartial, hlength.symm]
  · simp [otherParts, hadditional, convertParts, objectExpr, makesPartial, hlength.symm,
      zipWith_append_right]

/-! ### The members of an `allOf` -/

theorem splitMembers_eq (members : List (Schema × Nat)) :
    splitMembers convert settings.registry context members =
      (do
        let sorted := sortMembers settings.registry context.stack members
        let exprs ← convertParts convert (memberParts "allOf" sorted.others context)
        match sorted.stop with
        | some error => throw (.compile error)
        | none => return (sorted.shapes, exprs)) := by
  induction members with
  | nil => rfl
  | cons member rest ih =>
    obtain ⟨member, index⟩ := member
    unfold splitMembers
    rw [ih]
    rcases hshape : objectBehind? settings.registry context.stack member with error | _ | shape
    · simp [sortMembers, hshape, Convert.ofCompile, memberParts, convertParts]
    · simp only [sortMembers, hshape, Convert.ofCompile, memberParts, convertParts]
      cases hstop : (sortMembers settings.registry context.stack rest).stop <;> simp
    · simp only [sortMembers, hshape, Convert.ofCompile, memberParts, convertParts]
      cases hstop : (sortMembers settings.registry context.stack rest).stop <;> simp

theorem joinParts_pure (parts : List Expr) :
    (match parts with
      | [part] => pure part
      | parts => pure { kind := .intersection, members := parts } : Convert Expr) =
      pure (joinParts parts) := by
  unfold joinParts
  split <;> rfl

/-- Several members of an `allOf` are sorted, and the objects among them are merged after all else
has been converted. -/
theorem joinMembers_eq (members : List (Schema × Nat)) :
    (do
      let (shapes, others) ← splitMembers convert settings.registry context members
      let objects := if shapes.isEmpty then [] else [mergeObjects shapes]
      let merged ← objects.mapM fun object => convertObject convert settings object context
      match merged ++ others with
      | [part] => return part
      | parts => return { kind := .intersection, members := parts }) =
      (membersPlan settings (sortMembers settings.registry context.stack members) context).run
        convert context.location := by
  simp only [splitMembers_eq, joinParts_pure, convertObject_eq]
  generalize sortMembers settings.registry context.stack members = sorted
  obtain ⟨shapes, others, stop⟩ := sorted
  cases stop with
  | some error => simp [Plan.run, membersPlan]
  | none =>
    -- the parts of the merged object come after the members, so the lengths tell them apart
    cases shapes with
    | nil =>
      simp only [Plan.run, membersPlan, Members.merged?]
      simp only [bind_assoc, pure_bind, isEmpty_nil, if_true, mapM_nil,
        Option.toList_none, flatMap_nil, map_nil, nil_append, append_nil,
        Option.isSome_none, Bool.false_eq_true, if_false]
      apply mapM_bind_congr
      intro exprs hlength
      rw [memberParts, length_map] at hlength
      rw [← hlength, take_length]
    | cons shape rest =>
      simp only [Plan.run, membersPlan, Members.merged?, convertParts_append]
      simp only [bind_assoc, pure_bind, isEmpty_cons, Bool.false_eq_true, if_false,
        mapM_cons, mapM_nil, Option.toList_some, flatMap_cons, flatMap_nil,
        map_cons, map_nil, append_nil, Option.isSome_none]
      apply mapM_bind_congr
      intro exprs hlength
      rw [memberParts, length_map] at hlength
      simp only [← hlength, drop_left, take_left]

theorem convertAllOf_eq (allOf : List Schema) :
    convertAllOf convert settings schema allOf context =
      (allOfPlan settings schema allOf context).run convert context.location := by
  unfold convertAllOf allOfPlan
  match allOf ++ (siblingMember? schema).toList with
  | [] => exact joinMembers_eq convert settings context []
  | [member] => simp [Plan.run, convertParts]
  | first :: second :: rest =>
    exact joinMembers_eq convert settings context (first :: second :: rest).zipIdx

/-! ### Schemas -/

theorem convertUnion_noted_eq (members : List Schema) :
    (do
      if schema.anyOf.isSome then Convert.warn context.location anyOfNote.1 anyOfNote.2
      convertUnion convert "oneOf" members context) =
      (unionPlan "oneOf" members (if schema.anyOf.isSome then [anyOfNote] else []) context).run
        convert context.location := by
  rw [convertUnion_eq]
  cases schema.anyOf with
  | none => rfl
  | some _ => simp [Plan.run, unionPlan]

theorem fallback_eq (keyword note : String) :
    fallback context keyword note = (fallbackPlan keyword note).run convert context.location := by
  simp [fallback, Plan.run, fallbackPlan, convertParts]

/-- The conversion of a schema that is no reference carries its plan out. -/
theorem convertKind_eq_plan (href : schema.ref = none) :
    convertKind convert settings schema context =
      (plan settings schema context).run convert context.location := by
  unfold convertKind plan
  simp only [href]
  rcases schema.allOf with _ | allOf
  on_goal 2 => exact convertAllOf_eq convert settings schema context allOf
  rcases schema.oneOf with _ | members
  on_goal 2 => exact convertUnion_noted_eq convert schema context members
  rcases schema.anyOf with _ | members
  on_goal 2 => exact convertUnion_eq convert context "anyOf" members
  by_cases hnegated : schema.negated.isSome
  · simp only [hnegated, if_true]
    exact fallback_eq convert context "not" negationNote
  simp only [hnegated]
  rcases schema.const with _ | value
  on_goal 2 => rfl
  rcases schema.enum with _ | values
  on_goal 2 => rfl
  rcases schema.unsupportedType with _ | name
  on_goal 2 => exact fallback_eq convert context "type" (typeNote name)
  by_cases hobject : schema.kind = .object
  · simp only [hobject, if_true]
    exact convertObject_eq convert settings schema context
  by_cases harray : schema.kind = .array
  · simp only [harray, if_true]
    exact convertArray_eq convert schema context
  · simp only [hobject, harray, if_false]
    rfl

/-! ### Parts stand under the same stack -/

variable {part : Schema × Context}

theorem stack_of_mem_objectParts (h : part ∈ objectParts schema context) :
    part.2.stack = context.stack := by
  rw [objectParts, mem_append, mem_map] at h
  rcases h with ⟨property, -, rfl⟩ | h
  · rfl
  · unfold otherParts at h
    split at h
    · rw [mem_singleton.mp h]
      rfl
    · cases h

theorem stack_of_mem_memberParts {keyword : String} {members : List (Schema × Nat)}
    (h : part ∈ memberParts keyword members context) : part.2.stack = context.stack := by
  obtain ⟨member, -, rfl⟩ := mem_map.mp h
  rfl

/-- The parts of a schema are converted under the stack of the schema. -/
theorem stack_of_mem_plan_parts (h : part ∈ (plan settings schema context).parts) :
    part.2.stack = context.stack := by
  have hplan := planned settings schema context
  generalize plan settings schema context = current at h hplan
  cases hplan with
  | single =>
    rw [mem_singleton.mp h]
    rfl
  | members =>
    rcases mem_append.mp h with h | h
    · exact stack_of_mem_memberParts context h
    · split at h
      · cases h
      · obtain ⟨object, -, hobject⟩ := mem_flatMap.mp h
        exact stack_of_mem_objectParts object context hobject
  | union => exact stack_of_mem_memberParts context h
  | object => exact stack_of_mem_objectParts schema context h
  | array =>
    obtain ⟨items, -, rfl⟩ := mem_map.mp h
    rfl
  -- all other plans have no parts
  | fallback => cases h
  | choice => cases h
  | primitive => cases h

/-! ### Contracts -/

/-- The state when one more name has been declared. -/
def Progress.add (progress : Progress) (name : String) (expr : Expr) : Progress :=
  { progress with declarations := progress.declarations ++ [(name, expr)] }

section Contracts

variable {convert} {contract : Contract Progress}

/-- A contract that nothing but the declarations matters to. -/
def IgnoresNotes (contract : Contract Progress) : Prop :=
  ∀ first second : Progress, first.declarations = second.declarations → contract.inv first →
    contract.inv second ∧ contract.grows first second

/-- A contract that is kept if nothing but records and warnings of some kind is added. -/
def Allows (contract : Contract Progress) (allowed : Warning → Prop) : Prop :=
  ∀ first second : Progress, first.declarations = second.declarations →
    (∃ added, second.warnings = first.warnings ++ added ∧ ∀ warning ∈ added, allowed warning) →
    contract.inv first → contract.inv second ∧ contract.grows first second

theorem IgnoresNotes.allows (h : IgnoresNotes contract) (allowed : Warning → Prop) :
    Allows contract allowed :=
  fun first second hsame _ => h first second hsame

variable {allowed : Warning → Prop} (hnotes : Allows contract allowed)

include hnotes

variable {progress : Progress}

theorem keeps_log (hinv : contract.inv progress) (level : Level) (text : String) :
    contract.Keeps (Convert.log level text)
      (fun _ reached => reached.declarations = progress.declarations) progress := by
  have hlogged := hnotes progress
    { progress with records := progress.records ++ [⟨level, text⟩] } rfl ⟨[], by simp⟩ hinv
  exact keeps_modify hlogged.1 hlogged.2 rfl

variable {location : String}

theorem keeps_warn (hinv : contract.inv progress) {keyword note : String}
    (hallowed : allowed { message := note, keyword, location }) :
    contract.Keeps (Convert.warn location keyword note) (fun _ _ => True) progress := by
  apply keeps_bind (keeps_log hnotes hinv _ _)
  intro _ reached hinv' _ _
  have hwarned := hnotes reached { reached with
    warnings := reached.warnings ++ [{ message := note, keyword, location }] } rfl
    ⟨_, rfl, by simpa using hallowed⟩ hinv'
  exact keeps_modify hwarned.1 hwarned.2 trivial

theorem keeps_notes :
    ∀ {notes : List (String × String)} {progress : Progress},
      (∀ note ∈ notes, allowed { message := note.2, keyword := note.1, location }) →
      contract.inv progress →
      contract.Keeps (notes.forM fun note => Convert.warn location note.1 note.2)
        (fun _ _ => True) progress := by
  intro notes
  induction notes with
  | nil =>
    intro progress _ hinv
    exact keeps_pure hinv trivial
  | cons note rest ih =>
    intro progress hallowed hinv
    obtain ⟨hfirst, hrest⟩ := forall_mem_cons.mp hallowed
    unfold List.forM
    apply keeps_bind (keeps_warn hnotes hinv hfirst)
    intro _ reached hinv' _ _
    exact ih hrest hinv'

/-- A contract is kept by a plan if it allows its warnings and is kept by the conversions of the
parts, and if what is built from good parts is good. -/
theorem Plan.keeps_run (goodPart : Schema × Context → Expr → Progress → Prop)
    {good : Expr → Progress → Prop}
    (hstable : ∀ part expr first second, contract.grows first second →
      goodPart part expr first → goodPart part expr second) {plan : Plan}
    (hallowed : ∀ note ∈ plan.notes, allowed { message := note.2, keyword := note.1, location })
    (hparts : ∀ part ∈ plan.parts, ∀ progress, contract.inv progress →
      contract.Keeps (convert part.1 part.2) (goodPart part) progress)
    (hstop : ∀ error, plan.stop = some error → contract.fault (.compile error))
    (hbuild : ∀ exprs progress, plan.stop = none →
      List.Forall₂ (fun part expr => goodPart part expr progress) plan.parts exprs →
        good (plan.build exprs) progress) (hinv : contract.inv progress) :
    contract.Keeps (plan.run convert location) good progress := by
  apply keeps_bind (keeps_notes hnotes hallowed hinv)
  intro _ noted hinv' _ _
  apply keeps_bind (keeps_mapM hstable hparts noted hinv')
  intro exprs reached hinv'' _ hexprs
  cases hcases : plan.stop with
  | some error => exact keeps_throw hinv'' (hstop error hcases)
  | none => exact keeps_pure hinv'' (hbuild exprs reached hcases hexprs)

omit hnotes in
theorem keeps_allAliases {registry : Registry} (hinv : contract.inv progress) :
    ∀ {names : List String}, (∀ name ∈ names, registry.get? name = none →
        contract.fault (.unexpected .noSuchKey)) →
      contract.Keeps (allAliases registry names)
        (fun aliases _ => aliases = true ↔ ∀ name ∈ names, registry.IsBare name) progress := by
  intro names
  induction names with
  | nil => intro _; exact keeps_pure hinv (by simp)
  | cons name rest ih =>
    intro hfault
    unfold allAliases
    split
    · rename_i hnone
      exact keeps_throw hinv (hfault name mem_cons_self hnone)
    · rename_i schema hschema
      have hbare := Registry.isBare_iff hschema
      split
      · rename_i href
        refine (ih fun other hother => hfault other (mem_cons_of_mem _ hother)).mono ?_
        intro aliases _ _ _ haliases
        rw [haliases, forall_mem_cons]
        exact ⟨fun hrest => ⟨hbare.mpr href, hrest⟩, And.right⟩
      · rename_i href
        have hnot : ¬ ∀ other ∈ name :: rest, registry.IsBare other :=
          fun h => href (hbare.mp (h name mem_cons_self))
        exact keeps_pure hinv (by simpa using hnot)

/-- A contract is kept by the declaration of a named schema if it is kept by its conversion and by
the entry that is added then. -/
theorem keeps_declareWith {settings : Settings} {name : String} {context : Context}
    (hkey : settings.registry.get? name = none → contract.fault (.unexpected .noSuchKey))
    (hconvert : ∀ target, settings.registry.get? name = some target → ∀ progress,
      contract.inv progress → name ∉ progress.declarations.map (·.1) →
      contract.Keeps (convert target (context.push name))
        (fun expr reached => contract.inv (reached.add name expr) ∧
          contract.grows reached (reached.add name expr)) progress) (hinv : contract.inv progress) :
    contract.Keeps (declareWith convert settings name context)
      (fun expr reached => (name, expr) ∈ reached.declarations) progress := by
  unfold declareWith
  apply keeps_bind (keeps_get hinv)
  rintro current reached - - ⟨hcurrent, hreached⟩
  subst current reached
  cases hlookup : progress.declarations.lookup name with
  | some expr =>
    exact keeps_pure hinv (Named.mem_of_lookup hlookup)
  | none =>
    have hnew : name ∉ progress.declarations.map (·.1) := by
      intro hmem
      obtain ⟨entry, hentry, rfl⟩ := mem_map.mp hmem
      exact absurd (lookup_eq_none_iff.mp hlookup entry hentry) (by simp)
    apply keeps_bind (keeps_log hnotes hinv _ _)
    intro _ logged hlogged _ hsame
    cases hget : settings.registry.get? name with
    | none => exact keeps_throw hlogged (hkey hget)
    | some target =>
      apply keeps_bind (hconvert target hget logged hlogged (hsame ▸ hnew))
      rintro expr reached - - ⟨hadded, hgrows⟩
      have hmodify : contract.Keeps (modify (Progress.add · name expr))
          (fun _ last => (name, expr) ∈ last.declarations) reached :=
        keeps_modify hadded hgrows (by simp [Progress.add])
      apply keeps_bind hmodify
      intro _ last hlast _ hmem
      exact keeps_pure hlast hmem

/-- A contract is kept by a reference if it is kept by the conversion of its target. A reference to
a name on the stack is lazy, unless the names from there on are nothing but references. -/
theorem keeps_convertRef {settings : Settings} {ref : String} {context : Context}
    {good : Expr → Progress → Prop}
    (hallowed : ∀ note, allowed { message := note, keyword := "$ref", location := context.location })
    (hkey : ∀ name ∈ context.stack, settings.registry.get? name = none →
      contract.fault (.unexpected .noSuchKey))
    (hresolve : ∀ error, settings.registry.resolve ref = .error error →
      contract.fault (.compile error))
    (hunknown : ∀ name note progress, settings.registry.resolve ref = .ok name →
      name ∈ context.stack →
      (∀ other ∈ context.stack.dropWhile (· ≠ name), settings.registry.IsBare other) →
      good (.unknown note) progress)
    (hlazy : ∀ name progress, settings.registry.resolve ref = .ok name → name ∈ context.stack →
      (¬ ∀ other ∈ context.stack.dropWhile (· ≠ name), settings.registry.IsBare other) →
      good (.lazyRef name) progress)
    (hdeclare : ∀ name, settings.registry.resolve ref = .ok name → name ∉ context.stack →
      ∀ progress, contract.inv progress → contract.Keeps
        (declareWith convert settings name context)
        (fun _ reached => good (.namedRef name) reached) progress) (hinv : contract.inv progress) :
    contract.Keeps (convertRef convert settings ref context) good progress := by
  have htarget : contract.Keeps (Convert.ofCompile (settings.registry.resolve ref))
      (fun name _ => settings.registry.resolve ref = .ok name) progress := by
    cases hname : settings.registry.resolve ref with
    | ok name => exact keeps_pure hinv rfl
    | error error => exact keeps_throw hinv (hresolve error hname)
  unfold convertRef
  apply keeps_bind htarget
  intro name resolved hresolved _ hname
  split
  · rename_i hstack
    have hstack : name ∈ context.stack := by simpa using hstack
    apply keeps_bind (keeps_allAliases hresolved fun name hname =>
      hkey name ((dropWhile_sublist _).subset hname))
    intro aliases checked hchecked _ hbare
    split
    · rename_i haliases
      apply keeps_bind (keeps_warn hnotes hchecked (hallowed _))
      intro _ warned hwarned _ _
      exact keeps_pure hwarned (hunknown name _ _ hname hstack (hbare.mp haliases))
    · rename_i haliases
      apply keeps_bind (keeps_log hnotes hchecked _ _)
      intro _ logged hlogged _ _
      exact keeps_pure hlogged (hlazy name _ hname hstack fun h => haliases (hbare.mpr h))
  · rename_i hstack
    apply keeps_bind (hdeclare name hname (by simpa using hstack) resolved hresolved)
    intro _ declared hdeclared _ htarget
    exact keeps_pure hdeclared htarget

end Contracts

end OpenApiClient.Conversion
