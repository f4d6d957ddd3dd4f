import OpenApiClient.Proofs.Declaration.Graph

/-!
# The order takes the earliest name that is ready

Of the names whose references are all met, the one that was registered first comes next. This rule
and the rule that names stand after those they refer to leave one order only (`Arranged.unique`), and
it is the order that is found (`order_arranged`).

So a property of the order can be proved by exhibiting an arrangement. If one more name is registered
last, it may be ready early, but any other ready name goes before it; and no other name refers to it.
So the arrangement with the new name at the end is the order of the larger graph (`order_append`).
-/

namespace OpenApiClient.Declaration

open List

namespace Graph

variable {graph larger : Graph} {order : List String} {name : String}

/-- Each name of an order has the least place of all remaining names whose references stand before
it. -/
def Earliest (graph : Graph) (order : List String) : Prop :=
  ∀ before name after, order = before ++ name :: after →
    ∀ other ∈ graph.names, other ∉ before → (∀ target ∈ graph.dependencies other, target ∈ before) →
      lastPlace graph.names name ≤ lastPlace graph.names other

/-- An order of all names in which each one follows those it refers to, and the earliest of the
names that could come next does. -/
structure Arranged (graph : Graph) (order : List String) : Prop where
  perm : order.Perm graph.names
  follows : Follows graph order
  earliest : Earliest graph order

/-! ### The run takes the earliest name -/

/-- The name at the first of the ready places is the earliest that could come next. -/
theorem Ordered.lastPlace_le {ordering : Ordering} {place : Nat} {ready : List Nat}
    (hordered : Ordered graph ordering) (hready : ordering.ready = place :: ready)
    (hname : graph.names[place]? = some name) :
    ∀ other ∈ graph.names, other ∉ ordering.order →
      (∀ target ∈ graph.dependencies other, target ∈ ordering.order) →
      lastPlace graph.names name ≤ lastPlace graph.names other := by
  intro other hother hnew hmet
  obtain ⟨found, hfound, -, -, hplace⟩ := (hordered.ready place).mp (by simp [hready])
  obtain rfl : found = name := by
    rw [hplace, getElem?_lastPlace hfound] at hname
    exact Option.some.inj hname
  have hmem := (hordered.ready _).mpr ⟨other, hother, hnew, pending_eq_zero.mpr hmet, rfl⟩
  have hsorted := hordered.sorted
  rw [hready, pairwise_cons] at hsorted
  rw [hready, mem_cons] at hmem
  rw [← hplace]
  rcases hmem with hmem | hmem
  · exact Nat.le_of_eq hmem.symm
  · exact Nat.le_of_lt (hsorted.1 _ hmem)

theorem run_earliest (hregular : Regular graph) (fuel : Nat) (ordering : Ordering)
    (hordered : Ordered graph ordering) (hearliest : Earliest graph ordering.order) :
    Earliest graph (graph.run fuel ordering).order := by
  induction fuel generalizing ordering with
  | zero => exact hearliest
  | succ fuel ih =>
    unfold run
    split
    · exact hearliest
    · rename_i place ready hready
      obtain ⟨name, hname, horder, hnext⟩ := hordered.step hregular hready
      rw [hname]
      refine ih (advance graph ordering ready name) hnext ?_
      rw [horder]
      exact forall_split_append hearliest (hordered.lastPlace_le hready hname)

/-- An order that is found is an arrangement of all names. -/
theorem order_arranged (hregular : Regular graph) (h : graph.order = .ok order) :
    Arranged graph order := by
  obtain ⟨hordered, -⟩ := run_ordered hregular (2 * graph.names.length) graph.start
    (start_ordered hregular) (by omega)
  have hearliest := run_earliest hregular (2 * graph.names.length) graph.start
    (start_ordered hregular) (fun before name after hsplit => by simp [start] at hsplit)
  unfold Graph.order at h
  dsimp only at h
  split at h
  · rename_i hlength
    obtain rfl := Except.ok.inj h
    exact ⟨(hordered.nodup.subperm hordered.known).perm_of_length_le (by omega), hordered.follows,
      hearliest⟩
  · split at h <;> cases h

/-! ### There is one arrangement -/

/-- Two orders of the same length are one if in both the same name follows whatever they begin with
together. -/
theorem eq_of_next {first second : List String} (hlength : first.length = second.length)
    (hnext : ∀ before name after other rest, first = before ++ name :: after →
      second = before ++ other :: rest → name = other) : first = second := by
  -- the induction is on what follows the part that both begin with
  have hrest : ∀ rest other before : List String, first = before ++ rest → second = before ++ other →
      rest = other := by
    intro rest
    induction rest with
    | nil =>
      intro other before heq hother
      rw [heq, hother, length_append, length_append, length_nil] at hlength
      exact (length_eq_zero_iff.mp (by omega)).symm
    | cons name rest ih =>
      intro other before heq hother
      cases other with
      | nil => simp [heq, hother] at hlength
      | cons next others =>
        obtain rfl := hnext before name rest next others heq hother
        rw [ih others (before ++ [name]) (by simp [heq]) (by simp [hother])]
  exact hrest first second [] rfl rfl

namespace Arranged

/-- The next name is determined by those before it. -/
theorem next_le {before after : List String} {other : String} {rest : List String}
    (hregular : Regular graph) (hfirst : Arranged graph (before ++ name :: after))
    (hsecond : Arranged graph (before ++ other :: rest)) :
    lastPlace graph.names name ≤ lastPlace graph.names other := by
  have hnodup : (before ++ other :: rest).Nodup := hsecond.perm.nodup_iff.mpr hregular.names
  have hknown : other ∈ graph.names := hsecond.perm.mem_iff.mp (by simp)
  have hnew : other ∉ before := fun hmem =>
    (nodup_append.mp hnodup).2.2 other hmem other mem_cons_self rfl
  exact hfirst.earliest before name after rfl other hknown hnew (hsecond.follows before other rest rfl)

theorem unique {first second : List String} (hregular : Regular graph)
    (hfirst : Arranged graph first) (hsecond : Arranged graph second) : first = second := by
  refine eq_of_next (hfirst.perm.length_eq.trans hsecond.perm.length_eq.symm) ?_
  rintro before name after other rest rfl rfl
  exact lastPlace_injective (hfirst.perm.mem_iff.mp (by simp)) (hsecond.perm.mem_iff.mp (by simp))
    (Nat.le_antisymm (next_le hregular hfirst hsecond) (next_le hregular hsecond hfirst))

end Arranged

/-! ### One more name -/

theorem lastPlace_append_of_ne {names : List String} {other : String} (hne : other ≠ name) :
    lastPlace (names ++ [name]) other = lastPlace names other := by
  have hindex : (name :: names.reverse).idxOf other = names.reverse.idxOf other + 1 :=
    idxOf_cons_ne _ (Ne.symm hne)
  rw [lastPlace, lastPlace, reverse_append, reverse_singleton, singleton_append,
    hindex, length_append, length_singleton]
  omega

theorem lastPlace_append_self (names : List String) :
    lastPlace (names ++ [name]) name = names.length := by
  simp [lastPlace]

/-- A name that is listed last and that no other name refers to is arranged last. -/
theorem Arranged.append (h : Arranged graph order) (hnew : name ∉ graph.names)
    (hnames : larger.names = graph.names ++ [name])
    (hdependencies : ∀ other ∈ graph.names, larger.dependencies other = graph.dependencies other)
    (hname : ∀ target ∈ larger.dependencies name, target ∈ graph.names) :
    Arranged larger (order ++ [name]) := by
  have hknown : ∀ {before found after}, order = before ++ found :: after → found ∈ graph.names :=
    fun hsplit => h.perm.mem_iff.mp (by simp [hsplit])
  refine ⟨?_, ?_, ?_⟩
  · rw [hnames]
    exact h.perm.append_right _
  · refine forall_split_append (fun before found after hsplit => ?_) fun target htarget =>
      h.perm.mem_iff.mpr (hname target htarget)
    rw [hdependencies found (hknown hsplit)]
    exact h.follows before found after hsplit
  · rw [Earliest, hnames]
    refine forall_split_append (fun before found after hsplit other hother hlater hmet => ?_)
      fun other hother hlater _ => ?_
    · have hfound : found ≠ name := fun heq => hnew (heq ▸ hknown hsplit)
      rw [lastPlace_append_of_ne hfound]
      rcases mem_append.mp hother with hother | hother
      · have hne : other ≠ name := fun heq => hnew (heq ▸ hother)
        rw [lastPlace_append_of_ne hne]
        rw [hdependencies other hother] at hmet
        exact h.earliest before found after hsplit other hother hlater hmet
      · -- the new name is listed last
        rw [mem_singleton.mp hother, lastPlace_append_self, lastPlace]
        omega
    · rcases mem_append.mp hother with hother | hother
      · exact absurd (h.perm.mem_iff.mpr hother) hlater
      · obtain rfl := mem_singleton.mp hother
        exact Nat.le_refl _

end Graph

/-! ### The order of declarations -/

open Conversion (Sound)

variable {registry grown : Registry} {declarations : List (String × Expr)} {name : String}
  {expr : Expr} {order last : List String} {graph larger : Graph}

/-- Sound declarations of all registered names are arranged. -/
theorem arranged_of_sound (hnodup : registry.names.Nodup) (hsound : Sound registry declarations)
    (hall : ∀ name ∈ registry.names, ∃ expr, declarations.lookup name = some expr)
    (hgraph : Graph.ofDeclarations? registry.names declarations = some graph)
    (horder : graph.order = .ok order) :
    graph.Regular ∧ graph.names = registry.names ∧ graph.Arranged order ∧
      ∀ name ∈ registry.names, ∀ expr, declarations.lookup name = some expr →
        graph.dependencies name = Graph.targets registry.names .named expr := by
  obtain ⟨found, hfound, hnames, hregular, hdependencies, -⟩ := exists_graph hnodup hsound hall
  obtain rfl : found = graph := Option.some.inj (hfound.symm.trans hgraph)
  exact ⟨hregular, hnames, Graph.order_arranged hregular horder, hdependencies⟩

theorem targets_congr {first second : List String} {mode : ReferenceMode}
    (h : ∀ other ∈ expr.references mode, other ∈ first ↔ other ∈ second) :
    Graph.targets first mode expr = Graph.targets second mode expr := by
  have hfilter : (expr.references mode).filter first.contains =
      (expr.references mode).filter second.contains :=
    filter_congr fun other hother => by
      rw [Bool.eq_iff_iff, contains_iff_mem, contains_iff_mem]
      exact h other hother
  rw [Graph.targets, hfilter, Graph.targets]

/-- When one more name is registered and declared last, it comes last in the order, and the order of
the others stays. -/
theorem order_append (hnames : grown.names = registry.names ++ [name])
    (hnodup : grown.names.Nodup) (hsound : Sound registry declarations)
    (hall : ∀ name ∈ registry.names, ∃ expr, declarations.lookup name = some expr)
    (hgrown : Sound grown (declarations ++ [(name, expr)]))
    (hgraph : Graph.ofDeclarations? registry.names declarations = some graph)
    (horder : graph.order = .ok order)
    (hlarger : Graph.ofDeclarations? grown.names (declarations ++ [(name, expr)]) = some larger)
    (hlast : larger.order = .ok last) : last = order ++ [name] := by
  have hboth : (registry.names ++ [name]).Nodup := hnames ▸ hnodup
  have hnew : name ∉ registry.names := fun hmem =>
    (nodup_append.mp hboth).2.2 name hmem name (mem_singleton_self _) rfl
  have hdeclared : ∀ other ∈ declarations.map (·.1), other ∈ registry.names := by
    intro other hother
    obtain ⟨entry, hentry, rfl⟩ := mem_map.mp hother
    exact hsound.mem_names entry hentry
  have hlookup : ∀ {other found}, declarations.lookup other = some found →
      (declarations ++ [(name, expr)]).lookup other = some found := by
    intro other found hfound
    rw [lookup_append, hfound]
    rfl
  have hlookup_name : (declarations ++ [(name, expr)]).lookup name = some expr := by
    rw [Named.lookup_iff_mem hgrown.nodup]
    simp
  have hallGrown : ∀ other ∈ grown.names,
      ∃ found, (declarations ++ [(name, expr)]).lookup other = some found := by
    intro other hother
    rw [hnames] at hother
    rcases mem_append.mp hother with hother | hother
    · obtain ⟨found, hfound⟩ := hall other hother
      exact ⟨found, hlookup hfound⟩
    · exact ⟨expr, mem_singleton.mp hother ▸ hlookup_name⟩
  obtain ⟨-, hgraphNames, harranged, hdependencies⟩ :=
    arranged_of_sound hboth.of_append_left hsound hall hgraph horder
  obtain ⟨hregular, hlargerNames, hlastArranged, hlargerDependencies⟩ :=
    arranged_of_sound hnodup hgrown hallGrown hlarger hlast
  -- both orders are arranged, and there is only one such order
  refine hlastArranged.unique hregular (harranged.append ?_ ?_ (fun other hother => ?_) ?_)
  · rwa [hgraphNames]
  · rw [hlargerNames, hgraphNames, hnames]
  · rw [hgraphNames] at hother
    obtain ⟨found, hfound⟩ := hall other hother
    rw [hdependencies other hother found hfound,
      hlargerDependencies other (by simp [hnames, hother]) found (hlookup hfound)]
    refine targets_congr fun target htarget => ?_
    have hknown := (mem_targets.mp ((mem_targets_of_sound hsound hfound).mpr htarget)).2
    simp [hnames, hknown]
  · intro target htarget
    rw [hlargerDependencies name (by simp [hnames]) expr hlookup_name] at htarget
    rw [hgraphNames]
    exact hdeclared target (hgrown.named rfl target (mem_targets.mp htarget).1)

end OpenApiClient.Declaration
