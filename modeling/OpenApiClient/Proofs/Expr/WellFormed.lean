import Mathlib.Data.List.Nodup
import OpenApiClient.Expr.Basic

/-!
# Well-formed expressions

An expression says what a value is checked against only if its kind and its parts go together. A
literal has one value, an intersection has two members at least, an array has items. Every modifier
narrows or widens some kinds of expressions only, and the modifiers stand in the order in which they
are applied, none of a kind twice.

What is said about the parts (`Expr.WellShaped`) does not depend on the modifiers. What is said
about the modifiers (`Expr.WellModified`) is kept when further ones are added, if these are new and
suit the expression (`Expr.WellModified.withModifiers`). `Expr.Every` says that something is true of
all parts of an expression.
-/

namespace OpenApiClient.Expr

/-! ### The parts of an expression -/

/-- A part of an expression: the expression itself, or a part of one that it consists of. -/
inductive Part (part : Expr) : Expr → Prop
  | self : Part part part
  | child {child expr : Expr} : child ∈ expr.children → Part part child → Part part expr

/-- Something is true of every part of an expression. -/
def Every (good : Expr → Prop) (expr : Expr) : Prop := ∀ part, Part part expr → good part

variable {expr : Expr}

theorem sizeOf_lt_of_mem_children {child : Expr} (h : child ∈ expr.children) :
    sizeOf child < sizeOf expr := by
  obtain ⟨kind, primitive, modifiers, properties, others, items, members, values, ref, note⟩ := expr
  simp only [children, List.mem_append, List.mem_map, Option.mem_toList] at h
  rw [mk.sizeOf_spec]
  rcases h with ((⟨property, hproperty, rfl⟩ | hothers) | hitems) | hmembers
  · have hlist := List.sizeOf_lt_of_mem hproperty
    have hself : sizeOf property.expr < sizeOf property := by
      cases property
      simp only [Property.mk.sizeOf_spec]
      omega
    omega
  · cases hothers
    rw [Option.some.sizeOf_spec]
    omega
  · cases hitems
    rw [Option.some.sizeOf_spec]
    omega
  · have hlist := List.sizeOf_lt_of_mem hmembers
    omega

variable {good : Expr → Prop}

/-- What is true of an expression whenever it is true of those it consists of is true of all. -/
theorem childInduction (step : ∀ expr, (∀ child ∈ expr.children, good child) → good expr)
    (expr : Expr) : good expr :=
  step expr fun child hchild =>
    have := sizeOf_lt_of_mem_children hchild
    childInduction step child
termination_by sizeOf expr

theorem every_iff : Every good expr ↔ good expr ∧ ∀ child ∈ expr.children, Every good child := by
  constructor
  · intro h
    exact ⟨h expr .self, fun child hchild part hpart => h part (.child hchild hpart)⟩
  · rintro ⟨hself, hchildren⟩ part hpart
    cases hpart with
    | self => exact hself
    | child hchild hpart => exact hchildren _ hchild part hpart

theorem Every.self (h : Every good expr) : good expr :=
  h expr .self

/-! ### Modifiers leave the rest of an expression -/

section

variable (expr : Expr) (modifiers : List Modifier)

@[simp] theorem withModifiers_kind :
    (expr.withModifiers modifiers).kind = expr.kind := by
  unfold withModifiers
  split <;> rfl

@[simp] theorem withModifiers_primitive :
    (expr.withModifiers modifiers).primitive = expr.primitive := by
  unfold withModifiers
  split <;> rfl

@[simp] theorem withModifiers_properties :
    (expr.withModifiers modifiers).properties = expr.properties := by
  unfold withModifiers
  split <;> rfl

@[simp] theorem withModifiers_others :
    (expr.withModifiers modifiers).others = expr.others := by
  unfold withModifiers
  split <;> rfl

@[simp] theorem withModifiers_items :
    (expr.withModifiers modifiers).items = expr.items := by
  unfold withModifiers
  split <;> rfl

@[simp] theorem withModifiers_members :
    (expr.withModifiers modifiers).members = expr.members := by
  unfold withModifiers
  split <;> rfl

@[simp] theorem withModifiers_values :
    (expr.withModifiers modifiers).values = expr.values := by
  unfold withModifiers
  split <;> rfl

@[simp] theorem withModifiers_ref :
    (expr.withModifiers modifiers).ref = expr.ref := by
  unfold withModifiers
  split <;> rfl

@[simp] theorem children_withModifiers :
    (expr.withModifiers modifiers).children = expr.children := by
  simp [children]

end

/-- Modifiers concern an expression only, not the others it consists of. -/
theorem every_withModifiers {modifiers : List Modifier} (h : Every good expr)
    (hself : good (expr.withModifiers modifiers)) : Every good (expr.withModifiers modifiers) := by
  rw [every_iff, children_withModifiers]
  exact ⟨hself, (every_iff.mp h).2⟩

end OpenApiClient.Expr

namespace OpenApiClient

open List

/-! ### The order of modifiers -/

theorem ModifierKind.getElem?_all_rank (kind : ModifierKind) : all[kind.rank]? = some kind := by
  cases kind <;> rfl

theorem ModifierKind.rank_injective : Function.Injective rank := by
  intro first second h
  have hfirst := getElem?_all_rank first
  rw [h, getElem?_all_rank] at hfirst
  exact (Option.some.inj hfirst).symm

namespace Modifier

variable {modifiers : List Modifier}

/-- Modifiers in the order of application, none of a kind twice. -/
def Ordered (modifiers : List Modifier) : Prop := modifiers.Pairwise (·.kind.rank < ·.kind.rank)

theorem insertInto_perm (modifier : Modifier) (modifiers : List Modifier) :
    (modifier.insertInto modifiers).Perm (modifier :: modifiers) := by
  induction modifiers with
  | nil => exact .refl _
  | cons first rest ih =>
    unfold insertInto
    split
    · exact (ih.cons first).trans (.swap modifier first rest)
    · exact .refl _

theorem insertInto_sorted (modifier : Modifier) (h : modifiers.Pairwise (·.kind.rank ≤ ·.kind.rank)) :
    (modifier.insertInto modifiers).Pairwise (·.kind.rank ≤ ·.kind.rank) := by
  induction modifiers with
  | nil => exact pairwise_singleton _ _
  | cons first rest ih =>
    obtain ⟨hfirst, hrest⟩ := pairwise_cons.mp h
    unfold insertInto
    split
    · rename_i hle
      refine pairwise_cons.mpr ⟨fun other hother => ?_, ih hrest⟩
      rcases mem_cons.mp ((insertInto_perm modifier rest).mem_iff.mp hother) with rfl | hother
      · exact hle
      · exact hfirst other hother
    · rename_i hlt
      refine pairwise_cons.mpr ⟨fun other hother => ?_, h⟩
      rcases mem_cons.mp hother with rfl | hother
      · omega
      · have hle := hfirst other hother
        omega

theorem foldl_insertInto (modifiers : List Modifier) :
    ∀ sorted : List Modifier, sorted.Pairwise (·.kind.rank ≤ ·.kind.rank) →
      (modifiers.foldl (fun sorted modifier => modifier.insertInto sorted) sorted).Perm
          (modifiers ++ sorted) ∧
        (modifiers.foldl (fun sorted modifier => modifier.insertInto sorted) sorted).Pairwise
          (·.kind.rank ≤ ·.kind.rank) := by
  induction modifiers with
  | nil => exact fun sorted h => ⟨.refl _, h⟩
  | cons modifier rest ih =>
    intro sorted h
    obtain ⟨hperm, hsorted⟩ := ih _ (insertInto_sorted modifier h)
    refine ⟨hperm.trans ?_, hsorted⟩
    exact ((insertInto_perm modifier sorted).append_left rest).trans perm_middle

theorem sort_perm (modifiers : List Modifier) : (sort modifiers).Perm modifiers := by
  simpa [sort] using (foldl_insertInto modifiers [] .nil).1

/-- Modifiers of different kinds are put into the order of application. -/
theorem sort_ordered (h : (modifiers.map (·.kind)).Nodup) : Ordered (sort modifiers) := by
  have hsorted := (foldl_insertInto modifiers [] .nil).2
  have hdistinct := pairwise_map.mp (((sort_perm modifiers).map (·.kind)).nodup_iff.mpr h)
  refine (hsorted.and hdistinct).imp fun {first second} hboth => ?_
  exact Nat.lt_of_le_of_ne hboth.1 fun hrank => hboth.2 (ModifierKind.rank_injective hrank)

theorem Ordered.nodup (h : Ordered modifiers) : (modifiers.map (·.kind)).Nodup := by
  refine pairwise_map.mpr (h.imp fun {first second} hlt heq => ?_)
  rw [heq] at hlt
  exact Nat.lt_irrefl _ hlt

/-- A modifier of the last kind stands last. -/
theorem Ordered.getLast?_nullable (h : Ordered modifiers)
    (hmem : ModifierKind.nullable ∈ modifiers.map (·.kind)) :
    modifiers.getLast?.map (·.kind) = some .nullable := by
  obtain ⟨modifier, hmodifier, hkind⟩ := mem_map.mp hmem
  obtain ⟨before, after, rfl⟩ := append_of_mem hmodifier
  obtain ⟨-, hafter, -⟩ := pairwise_append.mp h
  cases after with
  | nil => simp [hkind]
  | cons next rest =>
    have hlt := (pairwise_cons.mp hafter).1 next mem_cons_self
    have hle : next.kind.rank ≤ 15 := by cases next.kind <;> decide
    have hrank : modifier.kind.rank = 15 := by rw [hkind]; rfl
    omega

end Modifier

/-! ### Well-formed expressions -/

/-- What an expression has to be for a modifier of a kind. -/
def ModifierKind.Suits (expr : Expr) : ModifierKind → Prop
  | .integer | .gt | .gte | .lt | .lte | .multipleOf =>
    expr.kind = .primitive ∧ expr.primitive = some .number
  | .min | .max => (expr.kind = .primitive ∧ expr.primitive = some .string) ∨ expr.kind = .array
  | .regex | .format => expr.kind = .primitive ∧ expr.primitive = some .string
  | .partialObject => expr.kind = .object ∧ expr.properties ≠ []
  | .passthrough | .strict => expr.kind = .object ∧ expr.others = none
  | .optional | .default | .nullable => True

/-- What the parts of an expression have to be for its kind. -/
def ExprKind.Shapes (expr : Expr) : ExprKind → Prop
  | .literal => expr.values.length = 1
  | .enum => 2 ≤ expr.values.length ∧ .null ∉ expr.values
  | .union => 1 ≤ expr.members.length
  | .intersection => 2 ≤ expr.members.length
  | .array => expr.items.isSome
  | .object => (expr.properties.map (·.name)).Nodup
  | .primitive | .namedRef | .lazyRef | .unknown => True

namespace Expr

/-- The parts of an expression are those that its kind needs. -/
def WellShaped (expr : Expr) : Prop := expr.kind.Shapes expr

/-- The modifiers of an expression are in order and suit it, and they do not both allow and forbid
other properties. -/
structure WellModified (expr : Expr) : Prop where
  ordered : Modifier.Ordered expr.modifiers
  suited : ∀ modifier ∈ expr.modifiers, modifier.kind.Suits expr
  exclusive : ¬ (expr.hasModifier .passthrough ∧ expr.hasModifier .strict)

/-- An expression whose parts and modifiers go with its kind. -/
structure WellFormed (expr : Expr) : Prop extends WellModified expr where
  shaped : expr.WellShaped

variable {expr : Expr} {modifiers : List Modifier}

theorem hasModifier_iff {kind : ModifierKind} :
    expr.hasModifier kind ↔ kind ∈ expr.modifiers.map (·.kind) := by
  simp [hasModifier]

theorem mem_withModifiers {modifier : Modifier} :
    modifier ∈ (expr.withModifiers modifiers).modifiers ↔
      modifier ∈ expr.modifiers ∨ modifier ∈ modifiers := by
  unfold withModifiers
  split
  · rename_i hempty
    simp [List.isEmpty_iff.mp hempty]
  · rw [(Modifier.sort_perm _).mem_iff, mem_append]

theorem hasModifier_withModifiers {kind : ModifierKind} :
    (expr.withModifiers modifiers).hasModifier kind ↔
      expr.hasModifier kind ∨ kind ∈ modifiers.map (·.kind) := by
  simp only [hasModifier_iff, mem_map, mem_withModifiers, or_and_right, exists_or]

theorem suits_withModifiers (kind : ModifierKind) :
    kind.Suits (expr.withModifiers modifiers) ↔ kind.Suits expr := by
  cases kind <;> simp [ModifierKind.Suits]

theorem wellShaped_withModifiers :
    (expr.withModifiers modifiers).WellShaped ↔ expr.WellShaped := by
  rw [WellShaped, WellShaped, withModifiers_kind]
  cases expr.kind <;> simp [ExprKind.Shapes]

theorem wellModified_of_nil (h : expr.modifiers = []) : expr.WellModified where
  ordered := h ▸ List.Pairwise.nil
  suited := by simp [h]
  exclusive := by simp [hasModifier, h]

/-- Further modifiers, of new kinds that suit the expression, keep it in order. -/
theorem WellModified.withModifiers (h : expr.WellModified)
    (hdistinct : (modifiers.map (·.kind)).Nodup)
    (hnew : ∀ modifier ∈ modifiers, ¬ expr.hasModifier modifier.kind)
    (hsuits : ∀ modifier ∈ modifiers, modifier.kind.Suits expr)
    (hexclusive : ¬ ((expr.withModifiers modifiers).hasModifier .passthrough ∧
      (expr.withModifiers modifiers).hasModifier .strict)) :
    (expr.withModifiers modifiers).WellModified where
  ordered := by
    unfold Expr.withModifiers
    split
    · exact h.ordered
    · refine Modifier.sort_ordered ?_
      rw [map_append]
      refine h.ordered.nodup.append hdistinct fun kind hold hadded => ?_
      obtain ⟨modifier, hmodifier, rfl⟩ := mem_map.mp hadded
      exact hnew modifier hmodifier (hasModifier_iff.mpr hold)
  suited := fun modifier hmodifier => by
    rw [suits_withModifiers]
    rcases mem_withModifiers.mp hmodifier with hold | hadded
    · exact h.suited modifier hold
    · exact hsuits modifier hadded
  exclusive := hexclusive

end Expr

end OpenApiClient
