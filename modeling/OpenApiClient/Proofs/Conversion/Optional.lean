import OpenApiClient.Proofs.Conversion.Merged
import OpenApiClient.Proofs.Conversion.Structural

/-!
# What is marked as optional

Whether a value may be missing is decided where the value stands, not by the schema of the value: an
object decides it for its properties, by what it requires, and an endpoint for its parameters.
Objects that require nothing are partial, and then their properties are not marked once more.

`Becomes` says what a schema becomes apart from all that is declared on the way, so that one
induction covers declarations and endpoints (`Becomes.exact`). An object that comes out stands for
one or more objects of the document (`Describes`), and `ExactObject` says what it has to look like
for these.
-/

namespace OpenApiClient.Conversion

open List

/-- What a schema becomes. Names are declared elsewhere, and a name that is being declared is
referred to lazily, or not at all if it stands for nothing but itself. -/
inductive Becomes (settings : Settings) : Schema → Context → Expr → Prop
  | node {schema : Schema} {context : Context} {exprs : List Expr} : schema.ref = none →
      (plan settings schema context).stop = none →
      exprs.length = (plan settings schema context).parts.length →
      (∀ pair ∈ (plan settings schema context).parts.zip exprs,
        Becomes settings pair.1.1 pair.1.2 pair.2) →
      Becomes settings schema context
        (finished settings schema context.optional ((plan settings schema context).build exprs))
  | named {schema : Schema} {context : Context} {ref name : String} : schema.ref = some ref →
      settings.registry.resolve ref = .ok name → name ∉ context.stack →
      Becomes settings schema context (finished settings schema context.optional (.namedRef name))
  | lazy {schema : Schema} {context : Context} {ref name : String} : schema.ref = some ref →
      settings.registry.resolve ref = .ok name → name ∈ context.stack →
      Becomes settings schema context (finished settings schema context.optional (.lazyRef name))
  | unknown {schema : Schema} {context : Context} {ref name : String} {note : Option String} :
      schema.ref = some ref → settings.registry.resolve ref = .ok name → name ∈ context.stack →
      Becomes settings schema context (finished settings schema context.optional (.unknown note))

variable {settings : Settings} {schema : Schema} {context : Context} {expr : Expr}

theorem Becomes.of_parts {exprs : List Expr} (href : schema.ref = none)
    (hstop : (plan settings schema context).stop = none)
    (hexprs : List.Forall₂ (fun part expr => Becomes settings part.1 part.2 expr)
      (plan settings schema context).parts exprs) :
    Becomes settings schema context
      (finished settings schema context.optional ((plan settings schema context).build exprs)) := by
  obtain ⟨hlength, hpairs⟩ := forall₂_iff_zip.mp hexprs
  exact .node href hstop hlength.symm fun pair hpair => hpairs hpair

/-- The expression of a name is what the schema of the name becomes. -/
def BecomesNamed (settings : Settings) (name : String) (expr : Expr) : Prop :=
  ∃ target context, settings.registry.get? name = some target ∧
    Becomes settings target (Context.push context name) expr

/-- Conversions give what a schema becomes, and declare names as what their schemas become. -/
theorem becomes_laws (settings : Settings) :
    Laws settings (eachDeclared (BecomesNamed settings) fun _ => True) (fun _ _ _ => True)
      (fun _ schema context expr _ => Becomes settings schema context expr) where
  notes := eachDeclared_ignoresNotes
  stable := fun _ hexpr => hexpr
  exhausted := fun _ => trivial
  part := fun _ _ _ => trivial
  stop := fun _ _ _ => trivial
  build := fun _ href hstop hexprs => .of_parts href hstop hexprs
  unresolved := fun _ _ _ => trivial
  unregistered := fun _ _ _ => trivial
  unknown := fun _ href hname hstack _ => .unknown href hname hstack
  lazy := fun _ href hname hstack _ => .lazy href hname hstack
  enter := fun _ _ _ _ _ => trivial
  named := fun _ href hname hstack _ _ => .named href hname hstack
  declare := fun _ hget hinv hexpr => eachDeclared_add hinv ⟨_, _, hget, hexpr⟩

/-- A translation of a schema on its own is what it becomes where no name is being declared. -/
theorem becomes_of_structuralAt :
    ∀ {depth : Nat} {schema : Schema} {context : Context} {expr : Expr}, context.stack = [] →
      structuralAt settings depth schema context.optional = .ok expr →
      Becomes settings schema context expr := by
  intro depth
  induction depth with
  | zero => intro schema context expr _ hexpr; cases hexpr
  | succ depth ih =>
    intro schema context expr hstack hexpr
    cases href : schema.ref with
    | some ref =>
      obtain ⟨name, hname, rfl⟩ := (structuralAt_ref href depth).mp hexpr
      exact .named href hname (by simp [hstack])
    | none =>
      have hsame : (plan settings schema context).Same (plan settings schema {}) :=
        plan_same rfl fun allOf _ => by rw [hstack]
      obtain ⟨hstop, exprs, hexprs, rfl⟩ := (structuralAt_plan href depth hsame).mp hexpr
      have hparts : ∀ part ∈ (plan settings schema context).parts, part.2.stack = [] :=
        fun part hpart => (stack_of_mem_plan_parts settings schema context hpart).trans hstack
      exact .of_parts href hstop (((forall₂_and_left _ _).mpr ⟨hparts, hexprs⟩).imp
        fun part expr hboth => ih hboth.1 hboth.2)

/-! ### The objects that an object stands for -/

/-- The objects that a schema describes an object by: itself, or if it has an `allOf`, those of its
only member or those that its members stand for. -/
inductive Describes (registry : Registry) (stack : List String) : Schema → List Schema → Prop
  | own {schema : Schema} : schema.allOf = none → schema.kind = .object →
      Describes registry stack schema [schema]
  | single {schema member : Schema} {allOf shapes : List Schema} : schema.allOf = some allOf →
      allOf ++ (siblingMember? schema).toList = [member] →
      Describes registry stack member shapes → Describes registry stack schema shapes
  | merged {schema : Schema} {allOf shapes : List Schema} {others : List (Schema × Nat)} :
      schema.allOf = some allOf → 2 ≤ (allOf ++ (siblingMember? schema).toList).length →
      SortedMembers registry stack (allOf ++ (siblingMember? schema).toList).zipIdx shapes others →
      shapes ≠ [] → Describes registry stack schema shapes

/-- An object has the properties of the objects it stands for. Those that none of them requires are
the optional ones, and either the object is partial, all its properties are optional and not marked
once more, or it is not, and the optional ones are marked. -/
structure ExactObject (shapes : List Schema) (object : Expr) : Prop where
  names : ∀ name, name ∈ object.properties.map (·.name) ↔
    ∃ shape ∈ shapes, name ∈ shape.properties.map (·.1)
  optional : ∀ property ∈ object.properties,
    property.optional = true ↔ MayMiss shapes property.name
  marks :
    (object.hasModifier .partialObject = true ∧ ∀ property ∈ object.properties,
      property.optional = true ∧ property.expr.hasModifier .optional = false) ∨
    (object.hasModifier .partialObject = false ∧ ∀ property ∈ object.properties,
      property.expr.hasModifier .optional = property.optional)

/-- A part of an expression marks exactly what may be missing: an object that is a part is what a
schema becomes, or is merged from its members and intersected with others, and nothing but properties
is marked. -/
structure ExactPart (settings : Settings) (fit : Schema → Prop) (part : Expr) : Prop where
  object : part.kind = .object → ∃ schema context whole shapes, fit schema ∧
    Becomes settings schema context whole ∧
    (whole = part ∨ whole.kind = .intersection ∧ whole.members.head? = some part) ∧
    Describes settings.registry context.stack schema shapes ∧ ExactObject shapes part
  properties : part.kind ≠ .object → part.properties = []
  elsewhere : ∀ child ∈ part.others.toList ++ part.items.toList ++ part.members,
    child.hasModifier .optional = false

/-! ### Modifiers -/

variable {kind : ModifierKind}

theorem not_hasModifier_of_kinds {modifiers : List Modifier} {kinds : List ModifierKind}
    (hnone : expr.modifiers = []) (hkinds : (modifiers.map (·.kind)).Sublist kinds)
    (hkind : kind ∉ kinds) : (expr.withModifiers modifiers).hasModifier kind = false := by
  rw [← Bool.not_eq_true, Expr.hasModifier_withModifiers]
  rintro (hold | hadded)
  · simp [Expr.hasModifier, hnone] at hold
  · exact hkind (hkinds.mem hadded)

theorem not_hasModifier_choiceExpr (h : kind ∈ [.optional, .default]) (values : List Value) :
    (choiceExpr values).hasModifier kind = false := by
  rw [choiceExpr_eq]
  refine not_hasModifier_of_kinds ?_ (kinds_choiceModifiers values) (by revert kind; decide)
  unfold choiceBase
  split <;> rfl

theorem not_hasModifier_objectExpr (h : kind ∈ [.optional, .default]) {strict : Bool}
    {exprs : List Expr} : (objectExpr strict schema exprs).hasModifier kind = false := by
  rw [← Bool.not_eq_true, hasModifier_objectExpr]
  rcases mem_pair.mp h with rfl | rfl <;> simp

theorem not_hasModifier_primitive (h : kind ∈ [.optional, .default]) (schema : Schema) :
    ((primitiveExpr? schema).getD (.unknown none)).hasModifier kind = false := by
  unfold primitiveExpr?
  split
  · exact not_hasModifier_of_kinds rfl (kinds_textModifiers schema) (by revert kind; decide)
  · exact not_hasModifier_of_kinds rfl (kinds_numberModifiers schema) (by revert kind; decide)
  · exact not_hasModifier_of_kinds rfl ((kinds_numberModifiers schema).cons_cons _)
      (by revert kind; decide)
  · rfl
  · rfl
  · rfl

variable {optional : Bool}

/-- The modifiers that come last mark an expression as optional if they are told to. -/
theorem optional_finished (h : expr.hasModifier .optional = false) :
    (finished settings schema optional expr).hasModifier .optional = optional := by
  rw [Bool.eq_iff_iff, finished, Expr.hasModifier_withModifiers, h]
  simp only [trailingModifiers, h, Bool.not_false, Bool.and_true, map_append, mem_append]
  constructor
  · rintro (hold | (hoptional | hdefault) | hnullable)
    · cases hold
    · by_contra hnot
      simp [hnot] at hoptional
    · split at hdefault
      · split at hdefault <;> simp at hdefault
      · cases hdefault
    · split at hnullable <;> simp at hnullable
  · intro hoptional
    simp [hoptional]

theorem partialObject_finished :
    (finished settings schema optional expr).hasModifier .partialObject =
      expr.hasModifier .partialObject := by
  rw [Bool.eq_iff_iff, finished, Expr.hasModifier_withModifiers, or_iff_left]
  intro hadded
  exact absurd ((kinds_trailingModifiers _ _ _ _).mem hadded) (by decide)

theorem ExactObject.finished {shapes : List Schema} (h : ExactObject shapes expr) :
    ExactObject shapes (Conversion.finished settings schema optional expr) := by
  have hproperties : (Conversion.finished settings schema optional expr).properties =
    expr.properties := Expr.withModifiers_properties _ _
  refine ⟨?_, ?_, ?_⟩
  · rw [hproperties]
    exact h.names
  · rw [hproperties]
    exact h.optional
  · rw [hproperties, partialObject_finished]
    exact h.marks

/-! ### What is built is exact -/

/-- What an expression has to be, given the schema it comes from and where that stands. -/
structure Converted (settings : Settings) (fit : Schema → Prop) (part : Schema × Context)
    (expr : Expr) : Prop where
  optional : expr.hasModifier .optional = part.2.optional
  object : expr.kind = .object → ∃ shapes,
    Describes settings.registry part.2.stack part.1 shapes ∧ ExactObject shapes expr
  every : expr.Every (ExactPart settings fit)

/-- What a node has to be before it gets its last modifiers. -/
structure Built (settings : Settings) (fit : Schema → Prop) (schema : Schema) (context : Context)
    (base : Expr) : Prop where
  optional : base.hasModifier .optional = false
  object : base.kind = .object → ∃ shapes,
    Describes settings.registry context.stack schema shapes ∧ ExactObject shapes base
  properties : base.kind ≠ .object → base.properties = []
  elsewhere : ∀ child ∈ base.others.toList ++ base.items.toList ++ base.members,
    child.hasModifier .optional = false
  children : ∀ child ∈ base.children, child.Every (ExactPart settings fit)

variable {fit : Schema → Prop} {base : Expr}

theorem exactPart_leaf (hkind : expr.kind ≠ .object) (hchildren : expr.children = []) :
    ExactPart settings fit expr := by
  have hnone : expr.properties = [] ∧
      expr.others.toList ++ expr.items.toList ++ expr.members = [] := by
    simpa [Expr.children, append_eq_nil_iff, and_assoc] using hchildren
  exact ⟨fun hobject => absurd hobject hkind, fun _ => hnone.1, by simp [hnone.2]⟩

theorem Built.leaf (hoptional : base.hasModifier .optional = false) (hkind : base.kind ≠ .object)
    (hchildren : base.children = []) : Built settings fit schema context base := by
  have hexact : ExactPart settings fit base := exactPart_leaf hkind hchildren
  exact ⟨hoptional, fun hobject => absurd hobject hkind, hexact.properties, hexact.elsewhere,
    by simp [hchildren]⟩

theorem Built.converted (h : Built settings fit schema context base) (hfit : fit schema)
    (hbecomes : Becomes settings schema context (finished settings schema context.optional base)) :
    Converted settings fit (schema, context)
      (finished settings schema context.optional base) := by
  have hobject : (finished settings schema context.optional base).kind = .object → ∃ shapes,
      Describes settings.registry context.stack schema shapes ∧
        ExactObject shapes (finished settings schema context.optional base) := by
    intro hkind
    obtain ⟨shapes, hshapes, hexact⟩ := h.object (by simpa using hkind)
    exact ⟨shapes, hshapes, hexact.finished⟩
  refine ⟨optional_finished h.optional, hobject, Expr.every_iff.mpr ⟨⟨?_, ?_, ?_⟩, ?_⟩⟩
  · intro hkind
    obtain ⟨shapes, hshapes, hexact⟩ := hobject hkind
    exact ⟨schema, context, _, shapes, hfit, hbecomes, .inl rfl, hshapes, hexact⟩
  · simpa [finished] using h.properties
  · simpa [finished] using h.elsewhere
  · simpa [finished] using h.children

/-- Several expressions that are not optional, taken together. -/
theorem Built.ofMembers {kind : ExprKind} {members : List Expr} (hkind : kind ≠ .object)
    (hmembers : ∀ member ∈ members,
      member.hasModifier .optional = false ∧ member.Every (ExactPart settings fit)) :
    Built settings fit schema context { kind, members } :=
  ⟨rfl, fun hobject => absurd hobject hkind, fun _ => rfl,
    fun child hchild => (hmembers child (by simpa using hchild)).1,
    fun child hchild => (hmembers child (by simpa [Expr.children] using hchild)).2⟩

theorem Built.array {exprs : List Expr} (hexprs : ∀ expr ∈ exprs,
      expr.hasModifier .optional = false ∧ expr.Every (ExactPart settings fit)) :
    Built settings fit schema context (arrayExpr schema exprs) := by
  have hunknown : (Expr.unknown none).Every (ExactPart settings fit) :=
    every_leaf (exactPart_leaf nofun rfl) rfl
  have hchildren : ∀ child ∈ (arrayExpr schema exprs).children,
      child.hasModifier .optional = false ∧ child.Every (ExactPart settings fit) := by
    intro child hchild
    rcases mem_children_arrayExpr hchild with rfl | hchild
    · exact ⟨rfl, hunknown⟩
    · exact hexprs child hchild
  refine ⟨not_hasModifier_of_kinds rfl (kinds_countModifiers _ _) (by decide), ?_, ?_, ?_, ?_⟩
  · simp [arrayExpr]
  · simp [arrayExpr]
  · intro child hchild
    refine (hchildren child ?_).1
    rw [Expr.children, append_assoc, append_assoc, ← append_assoc _ _ (Expr.members _)]
    exact mem_append_right _ hchild
  · exact fun child hchild => (hchildren child hchild).2

theorem members_of_memberParts {keyword : String} {members : List (Schema × Nat)}
    {exprs : List Expr}
    (h : List.Forall₂ (Converted settings fit) (memberParts keyword members context) exprs) :
    ∀ expr ∈ exprs, expr.hasModifier .optional = false ∧ expr.Every (ExactPart settings fit) := by
  intro expr hexpr
  obtain ⟨part, hpart, hconverted⟩ := exists_of_forall₂ h hexpr
  obtain ⟨member, -, rfl⟩ := mem_map.mp hpart
  exact ⟨hconverted.optional, hconverted.every⟩

/-! ### Objects -/

section Object

variable {object : Schema} {shapes : List Schema} {exprs : List Expr} {strict : Bool}
  (hparts : List.Forall₂ (Converted settings fit) (objectParts object context) exprs)

include hparts

/-- A property is marked if it may be missing and the object is not partial. -/
theorem optional_of_mem_properties {property : Property Expr}
    (h : property ∈ zipWith (convertedProperty object) object.properties exprs) :
    property.expr.hasModifier .optional =
      (mayMiss object property.name && !makesPartial object) := by
  -- the properties come first among the parts, so a property and its part have the same index
  obtain ⟨index, hindex, rfl⟩ := mem_iff_getElem.mp h
  rw [length_zipWith, Nat.lt_min] at hindex
  have hpart : index < (objectParts object context).length := by
    rw [hparts.length_eq]
    exact hindex.2
  have hconverted := (hparts.get hpart hindex.2).optional
  rw [getElem_zipWith]
  refine hconverted.trans ?_
  simp [objectParts, getElem_append_left, hindex.1, propertyContext, Context.child,
    convertedProperty]

theorem exactObject_objectExpr
    (hnames : ∀ name, name ∈ object.properties.map (·.1) ↔
      ∃ shape ∈ shapes, name ∈ shape.properties.map (·.1))
    (hmiss : ∀ name, mayMiss object name = decide (MayMiss shapes name)) :
    ExactObject shapes (objectExpr strict object exprs) := by
  have hproperties : (objectExpr strict object exprs).properties =
    zipWith (convertedProperty object) object.properties exprs :=
      Expr.withModifiers_properties _ _
  have hlength : object.properties.length ≤ exprs.length := by
    rw [← hparts.length_eq, objectParts, length_append, length_map]
    omega
  refine ⟨?_, ?_, ?_⟩
  · rw [hproperties, map_name_zipWith hlength]
    exact hnames
  · rw [hproperties]
    intro property hproperty
    rw [optional_of_mem_zipWith hproperty, hmiss, decide_eq_true_iff]
  · rw [hproperties]
    have hpartial : (objectExpr strict object exprs).hasModifier .partialObject =
        makesPartial object := by
      rw [Bool.eq_iff_iff, hasModifier_objectExpr]
      simp
    rw [hpartial]
    cases hmakes : makesPartial object with
    | true =>
      -- a partial object requires nothing, so none of its properties is anything but optional
      have hall : ∀ name, mayMiss object name = true := by
        simp only [makesPartial, Bool.and_eq_true, List.isEmpty_iff] at hmakes
        simp [mayMiss, hmakes.1]
      refine .inl ⟨rfl, fun property hproperty => ?_⟩
      rw [optional_of_mem_zipWith hproperty, optional_of_mem_properties hparts hproperty, hmakes]
      exact ⟨hall _, by simp⟩
    | false =>
      refine .inr ⟨rfl, fun property hproperty => ?_⟩
      rw [optional_of_mem_zipWith hproperty, optional_of_mem_properties hparts hproperty, hmakes]
      simp

theorem Built.ofObject (hdescribes : Describes settings.registry context.stack schema shapes)
    (hexact : ExactObject shapes (objectExpr strict object exprs)) :
    Built settings fit schema context (objectExpr strict object exprs) := by
  refine ⟨?_, fun _ => ⟨shapes, hdescribes, hexact⟩, ?_, ?_, ?_⟩
  · exact not_hasModifier_objectExpr (.head _)
  · simp [objectExpr]
  · intro child hchild
    have hother : child ∈ exprs.drop object.properties.length := by
      simp only [objectExpr, Expr.withModifiers_others, Expr.withModifiers_items,
        Expr.withModifiers_members, Option.toList_none, append_nil, Option.mem_toList] at hchild
      exact mem_of_getElem? (by rwa [getElem?_drop, Nat.add_zero])
    have hothers := forall₂_drop object.properties.length hparts
    rw [objectParts, drop_left' (by simp), otherParts_eq] at hothers
    obtain ⟨part, hpart, hconverted⟩ := exists_of_forall₂ hothers hother
    obtain ⟨others, -, rfl⟩ := mem_map.mp hpart
    exact hconverted.optional
  · intro child hchild
    obtain ⟨part, -, hconverted⟩ :=
      exists_of_forall₂ hparts (mem_of_mem_children_objectExpr hchild)
    exact hconverted.every

end Object

/-! ### Compositions -/

section AllOf

variable {allOf : List Schema} {exprs : List Expr} (hallOf : schema.allOf = some allOf)

include hallOf

theorem Built.single {member : Schema} {segment : String}
    (hmember : allOf ++ (siblingMember? schema).toList = [member])
    (h : Converted settings fit (member, context.child segment false) base) :
    Built settings fit schema context base := by
  obtain ⟨hself, hchildren⟩ := Expr.every_iff.mp h.every
  refine ⟨h.optional, fun hkind => ?_, hself.properties, hself.elsewhere, hchildren⟩
  obtain ⟨shapes, hshapes, hexact⟩ := h.object hkind
  exact ⟨shapes, .single hallOf hmember hshapes, hexact⟩

/-- The members of an `allOf` with the object merged from some of them. -/
theorem Built.merged (hmany : (allOf ++ (siblingMember? schema).toList).length ≠ 1)
    {sorted : Members} (hsorted : sorted = sortMembers settings.registry context.stack
      (allOf ++ (siblingMember? schema).toList).zipIdx)
    (hstop : sorted.stop = none)
    (hparts : List.Forall₂ (Converted settings fit) (membersPlan settings sorted context).parts exprs)
    (hfit : fit schema)
    (hbecomes : Becomes settings schema context (finished settings schema context.optional
      ((membersPlan settings sorted context).build exprs))) :
    Built settings fit schema context ((membersPlan settings sorted context).build exprs) := by
  have hmembers : SortedMembers settings.registry context.stack
      (allOf ++ (siblingMember? schema).toList).zipIdx sorted.shapes sorted.others := by
    rw [hsorted] at hstop ⊢
    exact sortMembers_sorted hstop
  have hcount : sorted.shapes.length + sorted.others.length =
      (allOf ++ (siblingMember? schema).toList).length := by
    rw [hsorted] at hstop ⊢
    rw [sortMembers_length hstop, length_zipIdx]
  simp only [membersPlan, hstop, Option.isSome_none, Bool.false_eq_true, if_false] at hparts hbecomes ⊢
  have hothers := forall₂_take sorted.others.length hparts
  have hown := forall₂_drop sorted.others.length hparts
  rw [take_left' (by simp [memberParts])] at hothers
  rw [drop_left' (by simp [memberParts])] at hown
  have hlength : (exprs.take sorted.others.length).length = sorted.others.length := by
    rw [← hothers.length_eq, memberParts, length_map]
  have hrest := members_of_memberParts hothers
  by_cases hshapes : sorted.shapes = []
  · have hmerged : sorted.merged? = none := by simp [Members.merged?, hshapes]
    rw [hshapes, length_nil] at hcount
    rw [hmerged, Option.toList_none, map_nil, nil_append,
      joinParts_of_length (by omega)]
    exact .ofMembers (by decide) hrest
  have hmerged : sorted.merged? = some (mergeObjects sorted.shapes) := by
    simp [Members.merged?, hshapes]
  simp only [hmerged, Option.toList_some, flatMap_singleton, map_singleton,
    singleton_append] at hown hbecomes ⊢
  have hdescribes : Describes settings.registry context.stack schema sorted.shapes := by
    have hpositive := length_pos_iff.mpr hshapes
    exact .merged hallOf (by omega) hmembers hshapes
  have hexact : ExactObject sorted.shapes (objectExpr settings.config.strictObjects
      (mergeObjects sorted.shapes) (exprs.drop sorted.others.length)) := by
    refine exactObject_objectExpr hown (fun name => ?_) (mayMiss_mergeObjects sorted.shapes)
    rw [(mergeObjects_defines sorted.shapes).names, mem_eraseDups, mem_flatMap]
  have hobject := Built.ofObject hown hdescribes hexact
  by_cases hnone : sorted.others = []
  · rw [hnone, length_nil, take_zero]
    rw [hnone, length_nil] at hobject
    exact hobject
  · have hpositive := length_pos_iff.mpr hnone
    rw [joinParts_of_length (by rw [length_cons]; omega)] at hbecomes ⊢
    refine .ofMembers (by decide) (forall_mem_cons.mpr ⟨⟨hobject.optional, ?_⟩, hrest⟩)
    -- the merged object is a part whose schema became the whole intersection
    refine Expr.every_iff.mpr ⟨⟨fun _ => ?_, hobject.properties, hobject.elsewhere⟩,
      hobject.children⟩
    exact ⟨schema, context, _, sorted.shapes, hfit, hbecomes,
      .inr ⟨by simp, by simp [finished]⟩, hdescribes, hexact⟩

end AllOf

theorem built_of_plan {exprs : List Expr} (hfit : fit schema)
    (hstop : (plan settings schema context).stop = none)
    (hexprs : List.Forall₂ (Converted settings fit) (plan settings schema context).parts exprs)
    (hbecomes : Becomes settings schema context
      (finished settings schema context.optional ((plan settings schema context).build exprs))) :
    Built settings fit schema context ((plan settings schema context).build exprs) := by
  have hplan := planned settings schema context
  generalize plan settings schema context = current at *
  cases hplan with
  | single hallOf hmember =>
    cases hexprs with
    | cons hconverted hrest => exact .single hallOf hmember hconverted
  | members hallOf hmany => exact .merged hallOf hmany rfl hstop hexprs hfit hbecomes
  | union => exact .ofMembers (by decide) (members_of_memberParts hexprs)
  | object hallOf hkind =>
    refine .ofObject hexprs (.own hallOf hkind) (exactObject_objectExpr hexprs (by simp) fun name => ?_)
    simp [mayMiss, MayMiss]
  | array =>
    refine .array fun expr hexpr => ?_
    obtain ⟨part, hpart, hconverted⟩ := exists_of_forall₂ hexprs hexpr
    obtain ⟨items, -, rfl⟩ := mem_map.mp hpart
    exact ⟨hconverted.optional, hconverted.every⟩
  | fallback => exact .leaf rfl (by simp [fallbackPlan, Expr.unknown]) rfl
  | choice =>
    refine .leaf (not_hasModifier_choiceExpr (.head _) _) ?_ (children_choiceExpr _)
    show (choiceExpr _).kind ≠ .object
    rw [choiceExpr_eq, Expr.withModifiers_kind]
    unfold choiceBase
    split <;> simp [Expr.ofPrimitive]
  | primitive =>
    refine .leaf (not_hasModifier_primitive (.head _) schema) ?_ (children_primitive schema)
    show ((primitiveExpr? schema).getD (.unknown none)).kind ≠ .object
    unfold primitiveExpr?
    split <;> simp [Expr.ofPrimitive, Expr.unknown]

/-- What a schema becomes is marked if the context says so, and marks what may be missing in it. -/
theorem Becomes.exact
    (hsibling : ∀ {schema member}, fit schema → siblingMember? schema = some member → fit member)
    (hregistry : ∀ entry ∈ settings.registry.schemas, entry.2.Every fit)
    (h : Becomes settings schema context expr) (hschema : schema.Every fit) :
    Converted settings fit (schema, context) expr := by
  induction h with
  | @node schema context exprs href hstop hlength hparts ih =>
    have hexprs : List.Forall₂ (Converted settings fit)
        (plan settings schema context).parts exprs := by
      refine forall₂_iff_zip.mpr ⟨hlength.symm, fun hpair => ?_⟩
      exact ih _ hpair
        (every_of_mem_plan_parts hsibling hregistry hschema (of_mem_zip hpair).1)
    -- an object merged in this node refers back to what the whole node becomes
    have hbecomes := Becomes.node href hstop hlength hparts
    exact (built_of_plan hschema.self hstop hexprs hbecomes).converted hschema.self hbecomes
  | named href hname hstack =>
    refine Built.converted (.leaf rfl ?_ rfl) hschema.self (.named href hname hstack)
    simp [Expr.namedRef]
  | lazy href hname hstack =>
    refine Built.converted (.leaf rfl ?_ rfl) hschema.self (.lazy href hname hstack)
    simp [Expr.lazyRef]
  | unknown href hname hstack =>
    refine Built.converted (.leaf rfl ?_ rfl) hschema.self (.unknown href hname hstack)
    simp [Expr.unknown]

end OpenApiClient.Conversion
