import Mathlib.Data.List.Basic
import OpenApiClient.Expr.References
import OpenApiClient.Proofs.Conversion.Plan

/-!
# The references of converted schemas

An expression refers to a name if it is a reference to it or if one of the expressions it consists
of does (`Expr.mem_references`). From this follows what the references of a converted schema are:
those of its converted parts, whatever the schema is (`references_plan_build`).
-/

namespace OpenApiClient

open List

variable {mode : ReferenceMode} {name : String}

/-! ### References of an expression and of its parts -/

theorem mem_memberReferences {members : List Expr} :
    name ∈ memberReferences mode members ↔ ∃ expr ∈ members, name ∈ expr.references mode := by
  induction members with
  | nil => simp [memberReferences]
  | cons expr rest ih => simp [memberReferences, ih]

theorem mem_propertyReferences {properties : List (Property Expr)} :
    name ∈ propertyReferences mode properties ↔
      ∃ property ∈ properties, name ∈ property.expr.references mode := by
  induction properties with
  | nil => simp [propertyReferences]
  | cons property rest ih => simp [propertyReferences, ih]

theorem mem_optionReferences {part : Option Expr} :
    name ∈ optionReferences mode part ↔ ∃ expr ∈ part, name ∈ expr.references mode := by
  cases part <;> simp [optionReferences]

theorem memberReferences_eq (mode : ReferenceMode) (members : List Expr) :
    memberReferences mode members = members.flatMap (Expr.references mode) := by
  induction members with
  | nil => rfl
  | cons expr rest ih => rw [memberReferences, ih, flatMap_cons]

theorem propertyReferences_eq (mode : ReferenceMode) (properties : List (Property Expr)) :
    propertyReferences mode properties = (properties.map (·.expr)).flatMap (Expr.references mode) := by
  induction properties with
  | nil => rfl
  | cons property rest ih => rw [propertyReferences, ih, map_cons, flatMap_cons]

theorem optionReferences_eq (mode : ReferenceMode) (part : Option Expr) :
    optionReferences mode part = part.toList.flatMap (Expr.references mode) := by
  cases part with
  | none => rfl
  | some expr => rw [optionReferences, Option.toList_some, flatMap_singleton]

/-- The references of an expression are its own and those of the expressions it consists of. -/
theorem Expr.references_eq (mode : ReferenceMode) (expr : Expr) :
    expr.references mode = (if expr.kind = mode.kind then expr.ref.toList else []) ++
      expr.children.flatMap (references mode) := by
  obtain ⟨⟩ := expr
  simp only [references, children, propertyReferences_eq, memberReferences_eq, optionReferences_eq,
    flatMap_append, append_assoc]

variable {expr : Expr}

/-- A name that an expression refers to is the one it stands for, or one that an expression it
consists of refers to. -/
theorem Expr.mem_references :
    name ∈ expr.references mode ↔
      (expr.kind = mode.kind ∧ expr.ref = some name) ∨
        ∃ child ∈ expr.children, name ∈ child.references mode := by
  obtain ⟨kind, _, _, properties, others, items, members, _, ref, _⟩ := expr
  have hown : name ∈ (if kind = mode.kind then ref.toList else []) ↔
      kind = mode.kind ∧ ref = some name := by
    by_cases hkind : kind = mode.kind <;> simp [hkind]
  simp only [Expr.references, Expr.children, mem_append, hown, mem_propertyReferences,
    mem_optionReferences, mem_memberReferences, mem_map, Option.mem_toList, or_and_right,
    exists_or, exists_exists_and_eq_and, or_assoc, Option.mem_def]

/-- The references of an expression are those of its parts. -/
theorem Expr.mem_references_of_part (mode : ReferenceMode) {part : Expr}
    (hpart : Expr.Part part expr) (hkind : part.kind = mode.kind) (href : part.ref = some name) :
    name ∈ expr.references mode := by
  induction hpart with
  | self => exact Expr.mem_references.mpr (.inl ⟨hkind, href⟩)
  | child hchild _ ih => exact Expr.mem_references.mpr (.inr ⟨_, hchild, ih⟩)

/-- An expression refers to a name if and only if one of its parts is a reference to it. -/
theorem Expr.mem_references_iff_part :
    name ∈ expr.references mode ↔
      ∃ part, Expr.Part part expr ∧ part.kind = mode.kind ∧ part.ref = some name := by
  constructor
  · induction expr using Expr.childInduction with
    | step expr ih =>
      intro h
      rcases Expr.mem_references.mp h with ⟨hkind, href⟩ | ⟨child, hchild, hname⟩
      · exact ⟨expr, .self, hkind, href⟩
      · obtain ⟨part, hpart, hself⟩ := ih child hchild hname
        exact ⟨part, .child hchild hpart, hself⟩
  · rintro ⟨part, hpart, hkind, href⟩
    exact Expr.mem_references_of_part mode hpart hkind href

@[simp] theorem Expr.references_withModifiers (expr : Expr) (modifiers : List Modifier) :
    (expr.withModifiers modifiers).references mode = expr.references mode := by
  unfold Expr.withModifiers
  split
  · rfl
  · obtain ⟨⟩ := expr
    simp [Expr.references]

theorem Expr.mem_references_namedRef {other : String} :
    name ∈ (Expr.namedRef other).references mode ↔ mode = .named ∧ other = name := by
  rw [Expr.mem_references]
  cases mode <;> simp [Expr.namedRef, Expr.children, ReferenceMode.kind]

theorem Expr.mem_references_lazyRef {other : String} :
    name ∈ (Expr.lazyRef other).references mode ↔ mode = .lazy ∧ other = name := by
  rw [Expr.mem_references]
  cases mode <;> simp [Expr.lazyRef, Expr.children, ReferenceMode.kind]

@[simp] theorem Expr.references_unknown (note : Option String) :
    (Expr.unknown note).references mode = [] := by
  cases mode <;> rfl

@[simp] theorem Expr.references_ofPrimitive (type : Primitive) :
    (Expr.ofPrimitive type).references mode = [] := by
  cases mode <;> rfl

/-! ### References of a converted schema -/

namespace Conversion

@[simp] theorem references_choiceExpr (values : List Value) :
    (choiceExpr values).references mode = [] := by
  rw [choiceExpr_eq, Expr.references_withModifiers]
  unfold choiceBase
  split <;> cases mode <;> rfl

theorem references_primitive (schema : Schema) :
    ((primitiveExpr? schema).getD (.unknown none)).references mode = [] := by
  unfold primitiveExpr?
  split <;> simp

variable {exprs : List Expr} {schema : Schema}

theorem references_objectExpr {strict : Bool}
    (h : name ∈ (objectExpr strict schema exprs).references mode) :
    ∃ expr ∈ exprs, name ∈ expr.references mode := by
  rw [Expr.mem_references] at h
  rcases h with ⟨hkind, -⟩ | ⟨child, hchild, hname⟩
  · cases mode <;> simp [objectExpr, ReferenceMode.kind] at hkind
  · exact ⟨child, mem_of_mem_children_objectExpr hchild, hname⟩

theorem references_arrayExpr (h : name ∈ (arrayExpr schema exprs).references mode) :
    ∃ expr ∈ exprs, name ∈ expr.references mode := by
  rw [Expr.mem_references] at h
  rcases h with ⟨hkind, -⟩ | ⟨child, hchild, hname⟩
  · cases mode <;> simp [arrayExpr, ReferenceMode.kind] at hkind
  · rcases mem_children_arrayExpr hchild with rfl | hchild
    · simp at hname
    · exact ⟨child, hchild, hname⟩

theorem references_members {kind : ExprKind} {parts : List Expr} (hkind : kind ≠ mode.kind)
    (h : name ∈ ({ kind, members := parts } : Expr).references mode) :
    ∃ expr ∈ parts, name ∈ expr.references mode := by
  rw [Expr.mem_references] at h
  rcases h with ⟨hmode, -⟩ | ⟨child, hchild, hname⟩
  · exact absurd hmode hkind
  · exact ⟨child, by simpa [Expr.children] using hchild, hname⟩

theorem references_joinParts {parts : List Expr} (h : name ∈ (joinParts parts).references mode) :
    ∃ expr ∈ parts, name ∈ expr.references mode := by
  unfold joinParts at h
  split at h
  · exact ⟨_, mem_singleton_self _, h⟩
  · exact references_members (by cases mode <;> simp [ReferenceMode.kind]) h

variable {context : Context}

theorem references_unionPlan {keyword : String} {members : List Schema}
    {notes : List (String × String)}
    (h : name ∈ ((unionPlan keyword members notes context).build exprs).references mode) :
    ∃ expr ∈ exprs, name ∈ expr.references mode :=
  references_members (by cases mode <;> simp [ReferenceMode.kind]) h

theorem references_headD {note : Option String}
    (h : name ∈ (exprs.headD (.unknown note)).references mode) :
    ∃ expr ∈ exprs, name ∈ expr.references mode := by
  cases exprs with
  | nil => simp at h
  | cons expr rest => exact ⟨expr, mem_cons_self, h⟩

theorem references_membersPlan {settings : Settings} {members : Members}
    (h : name ∈ ((membersPlan settings members context).build exprs).references mode) :
    ∃ expr ∈ exprs, name ∈ expr.references mode := by
  obtain ⟨part, hpart, hname⟩ := references_joinParts h
  rw [mem_append, mem_map] at hpart
  rcases hpart with ⟨object, -, rfl⟩ | hpart
  · obtain ⟨expr, hexpr, hname⟩ := references_objectExpr hname
    exact ⟨expr, mem_of_mem_drop hexpr, hname⟩
  · exact ⟨part, mem_of_mem_take hpart, hname⟩

/-- What a schema becomes refers to nothing but what its parts refer to. -/
theorem references_plan_build {settings : Settings}
    (h : name ∈ ((plan settings schema context).build exprs).references mode) :
    ∃ expr ∈ exprs, name ∈ expr.references mode := by
  have hplan := planned settings schema context
  generalize plan settings schema context = current at h hplan
  cases hplan with
  | single => exact references_headD h
  | members => exact references_membersPlan h
  | union => exact references_unionPlan h
  | fallback => simp [fallbackPlan] at h
  | choice => simp [leafPlan] at h
  | object => exact references_objectExpr h
  | array => exact references_arrayExpr h
  | primitive => simp [leafPlan, references_primitive] at h

end Conversion

end OpenApiClient
