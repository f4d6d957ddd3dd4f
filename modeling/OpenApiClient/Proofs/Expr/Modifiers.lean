import OpenApiClient.Proofs.Conversion.Laws

/-!
# Adding modifiers

Modifiers that are added to an expression are put into their places one after the other, if those
that it has are in order (`Expr.withModifiers_of_sorted`). So leaving out the modifiers of some kinds
can be done before or after (`Modifier.filter_place`). Altogether this is a merge in which modifiers
of one kind keep the order in which they were added (`Expr.withModifiers_merges`).
-/

namespace OpenApiClient

open List

namespace Modifier

/-- Modifiers in the order of application. -/
def Sorted (modifiers : List Modifier) : Prop := modifiers.Pairwise (·.kind.rank ≤ ·.kind.rank)

/-- Modifiers with further ones put into their places. -/
def place (modifiers further : List Modifier) : List Modifier :=
  further.foldl (fun sorted modifier => modifier.insertInto sorted) modifiers

variable {modifiers : List Modifier}

theorem insertInto_of_le {modifier : Modifier}
    (h : ∀ other ∈ modifiers, other.kind.rank ≤ modifier.kind.rank) :
    modifier.insertInto modifiers = modifiers ++ [modifier] := by
  induction modifiers with
  | nil => rfl
  | cons first rest ih =>
    rw [forall_mem_cons] at h
    rw [insertInto, if_pos h.1, ih h.2, cons_append]

theorem insertInto_of_lt {modifier : Modifier}
    (h : ∀ other ∈ modifiers, modifier.kind.rank < other.kind.rank) :
    modifier.insertInto modifiers = modifier :: modifiers := by
  cases modifiers with
  | nil => rfl
  | cons first rest =>
    have hfirst := h first mem_cons_self
    rw [insertInto, if_neg (Nat.not_le.mpr hfirst)]

theorem place_of_sorted {further : List Modifier} (h : Sorted (modifiers ++ further)) :
    place modifiers further = modifiers ++ further := by
  induction further generalizing modifiers with
  | nil => rw [append_nil]; rfl
  | cons modifier rest ih =>
    have hsplit : modifiers ++ modifier :: rest = modifiers ++ [modifier] ++ rest := by simp
    have hbefore := (pairwise_append.mp h).2.2
    rw [place, foldl_cons,
      insertInto_of_le fun other hother => hbefore other hother modifier mem_cons_self, hsplit]
    exact ih (hsplit ▸ h)

/-- What is in order stays as it is, and further modifiers are put into their places. -/
theorem sort_append_of_sorted (h : Sorted modifiers) (further : List Modifier) :
    sort (modifiers ++ further) = place modifiers further := by
  have hsort : place [] modifiers = [] ++ modifiers := place_of_sorted h
  rw [sort, foldl_append]
  exact congrArg (place · further) hsort

theorem place_sorted (h : Sorted modifiers) (further : List Modifier) :
    Sorted (place modifiers further) :=
  (foldl_insertInto further modifiers h).2

theorem filter_insertInto (keep : Modifier → Bool) (modifier : Modifier) (h : Sorted modifiers) :
    (modifier.insertInto modifiers).filter keep =
      if keep modifier then modifier.insertInto (modifiers.filter keep) else modifiers.filter keep := by
  induction modifiers with
  | nil => cases hkeep : keep modifier <;> simp [insertInto, hkeep]
  | cons first rest ih =>
    obtain ⟨hfirst, hrest⟩ := pairwise_cons.mp h
    by_cases hle : first.kind.rank ≤ modifier.kind.rank
    · rw [insertInto, if_pos hle, filter_cons, ih hrest, filter_cons]
      cases hkeep : keep first <;> cases keep modifier <;> simp [insertInto, hle]
    · have hlater : ∀ other ∈ (first :: rest).filter keep,
          modifier.kind.rank < other.kind.rank := by
        intro other hother
        rcases mem_cons.mp (mem_of_mem_filter hother) with rfl | hmem
        · exact Nat.not_le.mp hle
        · exact Nat.lt_of_lt_of_le (Nat.not_le.mp hle) (hfirst other hmem)
      rw [insertInto, if_neg hle, filter_cons, insertInto_of_lt hlater]

/-- Modifiers can be left out before or after further ones are put into their places. -/
theorem filter_place (keep : Modifier → Bool) (h : Sorted modifiers) (further : List Modifier) :
    (place modifiers further).filter keep =
      place (modifiers.filter keep) (further.filter keep) := by
  induction further generalizing modifiers with
  | nil => rfl
  | cons modifier rest ih =>
    rw [place, foldl_cons]
    refine (ih (insertInto_sorted modifier h)).trans ?_
    rw [filter_insertInto keep modifier h, filter_cons]
    cases keep modifier <;> rfl

theorem sort_sorted (modifiers : List Modifier) : Sorted (sort modifiers) :=
  place_sorted (by exact .nil) modifiers

theorem sort_append (modifiers further : List Modifier) :
    sort (modifiers ++ further) = place (sort modifiers) further :=
  foldl_append

/-- Modifiers of one kind keep their order. -/
theorem filter_sort (modifiers : List Modifier) (kind : ModifierKind) :
    (sort modifiers).filter (·.kind = kind) = modifiers.filter (·.kind = kind) := by
  have hkept : Sorted (modifiers.filter (·.kind = kind)) := by
    refine pairwise_of_forall_mem_list fun one hone other hother => Nat.le_of_eq ?_
    have hkinds : one.kind = kind ∧ other.kind = kind := by simp_all
    rw [hkinds.1, hkinds.2]
  exact (filter_place _ .nil modifiers).trans (place_of_sorted hkept)

/-! ### Modifiers of different kinds -/

theorem insertInto_comm {one other : Modifier} (h : one.kind ≠ other.kind)
    (modifiers : List Modifier) :
    one.insertInto (other.insertInto modifiers) = other.insertInto (one.insertInto modifiers) := by
  have hrank : one.kind.rank ≠ other.kind.rank := fun heq => h (ModifierKind.rank_injective heq)
  induction modifiers with
  | nil => grind [insertInto]
  | cons first rest ih => grind [insertInto]

theorem insertInto_place {modifier : Modifier} {further : List Modifier}
    (h : ∀ other ∈ further, modifier.kind ≠ other.kind) (modifiers : List Modifier) :
    modifier.insertInto (place modifiers further) =
      place (modifier.insertInto modifiers) further := by
  induction further generalizing modifiers with
  | nil => rfl
  | cons other rest ih =>
    obtain ⟨hother, hrest⟩ := forall_mem_cons.mp h
    exact (ih hrest _).trans (congrArg (place · rest) (insertInto_comm hother modifiers))

/-- Of two lists without a kind in common, either can be put into its places first. -/
theorem place_comm {first second : List Modifier}
    (h : ∀ one ∈ first, ∀ other ∈ second, one.kind ≠ other.kind) (modifiers : List Modifier) :
    place (place modifiers first) second = place (place modifiers second) first := by
  induction first generalizing modifiers with
  | nil => rfl
  | cons one rest ih =>
    obtain ⟨hone, hrest⟩ := forall_mem_cons.mp h
    exact (ih hrest _).trans (congrArg (place · rest) (insertInto_place hone modifiers).symm)

end Modifier

namespace Expr

theorem withModifiers_of_sorted {expr : Expr} (h : Modifier.Sorted expr.modifiers)
    (modifiers : List Modifier) :
    expr.withModifiers modifiers =
      { expr with modifiers := Modifier.place expr.modifiers modifiers } := by
  unfold withModifiers
  split
  · rename_i hempty
    rw [List.isEmpty_iff.mp hempty]
    cases expr
    rfl
  · rw [Modifier.sort_append_of_sorted h]

theorem withModifiers_sorted {expr : Expr} (h : Modifier.Sorted expr.modifiers)
    (modifiers : List Modifier) : Modifier.Sorted (expr.withModifiers modifiers).modifiers := by
  rw [withModifiers_of_sorted h]
  exact Modifier.place_sorted h modifiers

theorem withModifiers_append (expr : Expr) (first second : List Modifier) :
    (expr.withModifiers first).withModifiers second = expr.withModifiers (first ++ second) := by
  rcases first with _ | ⟨one, first⟩
  · rfl
  · rcases second with _ | ⟨other, second⟩
    · rw [append_nil]
      rfl
    · simp only [withModifiers, cons_append, isEmpty_cons, Bool.false_eq_true, if_false]
      rw [Modifier.sort_append_of_sorted (Modifier.sort_sorted _), ← Modifier.sort_append,
        append_assoc, cons_append]

/-- Modifiers are merged with those that an expression has, in the order of application and such that
those of one kind keep the order in which they were added. So it does not matter whether they are
added together or one list after the other, and in which order if no kind is in both lists. -/
theorem withModifiers_merges (expr : Expr) (first second : List Modifier) :
    (expr.withModifiers first).withModifiers second = expr.withModifiers (first ++ second) ∧
    ((∀ one ∈ first, ∀ other ∈ second, one.kind ≠ other.kind) →
      (expr.withModifiers first).withModifiers second =
        (expr.withModifiers second).withModifiers first) ∧
    (first ≠ [] → ∃ merged, expr.withModifiers first = { expr with modifiers := merged } ∧
      merged.Perm (expr.modifiers ++ first) ∧ Modifier.Sorted merged ∧
      ∀ kind, merged.filter (·.kind = kind) =
        expr.modifiers.filter (·.kind = kind) ++ first.filter (·.kind = kind)) := by
  refine ⟨withModifiers_append expr first second, fun hapart => ?_, fun hfirst => ?_⟩
  · have hsort : Modifier.sort (expr.modifiers ++ (first ++ second)) =
        Modifier.sort (expr.modifiers ++ (second ++ first)) := by
      rw [← append_assoc, ← append_assoc]
      simp only [Modifier.sort_append, Modifier.place_comm hapart]
    have hempty : first ++ second = [] ↔ second ++ first = [] := by simp [and_comm]
    rw [withModifiers_append, withModifiers_append, withModifiers, withModifiers, hsort]
    simp only [List.isEmpty_iff, hempty]
  · refine ⟨_, if_neg (by simpa using hfirst), Modifier.sort_perm _, Modifier.sort_sorted _,
      fun kind => ?_⟩
    rw [Modifier.filter_sort, filter_append]

/-- A bound that is already there comes before one that is added. -/
theorem withModifiers_merges_bounds :
    let expr : Expr :=
      { Expr.ofPrimitive .string with modifiers := [{ kind := .min, args := [.int 1] }] }
    let first : List Modifier := [{ kind := .nullable }, { kind := .max, args := [.int 9] }]
    let second : List Modifier := [{ kind := .min, args := [.int 2] }]
    (∀ one ∈ first, ∀ other ∈ second, one.kind ≠ other.kind) ∧ first ≠ [] ∧
      (expr.withModifiers first).withModifiers second =
        (expr.withModifiers second).withModifiers first ∧
      expr.withModifiers (first ++ second) =
        { Expr.ofPrimitive .string with
          modifiers := [{ kind := .min, args := [.int 1] }, { kind := .min, args := [.int 2] },
            { kind := .max, args := [.int 9] }, { kind := .nullable }] } ∧
      Modifier.Sorted (expr.withModifiers first).modifiers := by
  intro expr first second
  have hapart : ∀ one ∈ first, ∀ other ∈ second, one.kind ≠ other.kind := by decide
  obtain ⟨-, hcomm, hmerged⟩ := withModifiers_merges expr first second
  obtain ⟨merged, hexpr, -, hsorted, -⟩ := hmerged (by simp [first])
  exact ⟨hapart, by simp [first], hcomm hapart, rfl, by rw [hexpr]; exact hsorted⟩

end Expr

/-! ### Converted schemas -/

namespace Conversion

theorem objectExpr_sorted (strict : Bool) (schema : Schema) (exprs : List Expr) :
    Modifier.Sorted (objectExpr strict schema exprs).modifiers :=
  Expr.withModifiers_sorted (by exact .nil) _

theorem joinParts_sorted {parts : List Expr} (h : ∀ part ∈ parts, Modifier.Sorted part.modifiers) :
    Modifier.Sorted (joinParts parts).modifiers := by
  unfold joinParts
  split
  · exact h _ (mem_singleton_self _)
  · exact .nil

theorem choiceExpr_sorted (values : List Value) : Modifier.Sorted (choiceExpr values).modifiers := by
  rw [choiceExpr_eq]
  refine Expr.withModifiers_sorted ?_ _
  unfold choiceBase
  split <;> exact .nil

theorem primitive_sorted (schema : Schema) :
    Modifier.Sorted ((primitiveExpr? schema).getD (.unknown none)).modifiers := by
  unfold primitiveExpr?
  split
  · exact Expr.withModifiers_sorted (by exact .nil) _
  · exact Expr.withModifiers_sorted (by exact .nil) _
  · exact Expr.withModifiers_sorted (by exact .nil) _
  · exact .nil
  · exact .nil
  · exact .nil

/-- What is built from parts whose modifiers are in order has its modifiers in order. -/
theorem build_sorted {settings : Settings} {schema : Schema} {context : Context} {exprs : List Expr}
    (h : ∀ expr ∈ exprs, Modifier.Sorted expr.modifiers) :
    Modifier.Sorted ((plan settings schema context).build exprs).modifiers := by
  have hplanned := planned settings schema context
  generalize plan settings schema context = made at hplanned ⊢
  cases hplanned with
  | single hallOf hmember =>
    cases exprs with
    | nil => exact .nil
    | cons expr rest => exact h expr mem_cons_self
  | members hallOf =>
    refine joinParts_sorted fun part hpart => ?_
    rcases mem_append.mp hpart with hpart | hpart
    · obtain ⟨object, -, rfl⟩ := mem_map.mp hpart
      exact objectExpr_sorted _ _ _
    · exact h part (mem_of_mem_take hpart)
  | union keyword notes hmembers => exact .nil
  | fallback keyword note => exact .nil
  | choice hvalues => exact choiceExpr_sorted _
  | object => exact objectExpr_sorted _ _ _
  | array => exact Expr.withModifiers_sorted (by exact .nil) _
  | primitive => exact primitive_sorted schema

theorem finished_sorted (settings : Settings) (schema : Schema) (optional : Bool) {expr : Expr}
    (h : Modifier.Sorted expr.modifiers) :
    Modifier.Sorted (finished settings schema optional expr).modifiers :=
  Expr.withModifiers_sorted h _

end Conversion

end OpenApiClient
