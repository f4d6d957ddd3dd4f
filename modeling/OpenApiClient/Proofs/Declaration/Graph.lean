import OpenApiClient.Proofs.Declaration.Order
import OpenApiClient.Proofs.Expr.References

/-!
# The graph of declarations

The graph of declarations has an edge for every direct reference between them. If the declarations
are sound, each one refers directly only to those completed before it, so the place in the list of
declarations is a rank along which the edges descend. Hence an order is always found, and it has
every name after those it refers to (`order_of_sound`). They are sound after every conversion,
whichever way it ends (`convertAt_declares`): a name on the stack is not entered again, and a direct
reference is only made to a name that has been declared.
-/

namespace OpenApiClient

/-! ### What has been declared -/

open List

namespace Conversion

variable {registry : Registry}

variable {stack : List String}

theorem plainObject?_error :
    ∀ {fuel : Nat} {followed : List String} {member : Schema} {error : CompileError},
      plainObject? registry stack fuel followed member = .error error →
        ∃ ref fault, error = .unresolvedReference ref fault := by
  intro fuel
  induction fuel with
  | zero => intro followed member error h; cases h
  | succ fuel ih =>
    intro followed member error h
    unfold plainObject? at h
    cases href : member.ref with
    | none => simp [href] at h
    | some ref =>
      simp only [href] at h
      cases hname : registry.resolve ref with
      | error other =>
        rw [hname] at h
        cases h
        exact ⟨ref, Registry.resolve_error hname⟩
      | ok name =>
        rw [hname] at h
        simp only [bind, Except.bind] at h
        split at h
        · cases h
        · split at h
          · exact ih h
          · cases h

variable {error : CompileError}

theorem sortMembers_stop {members : List (Schema × Nat)}
    (h : (sortMembers registry stack members).stop = some error) :
    ∃ ref fault, error = .unresolvedReference ref fault := by
  induction members with
  | nil => cases h
  | cons member rest ih =>
    unfold sortMembers at h
    split at h
    · rename_i other hshape
      cases h
      exact plainObject?_error hshape
    · exact ih h
    · exact ih h

variable {context : Context}

/-- A plan gets stuck only at a reference that names nothing. -/
theorem plan_stop {settings : Settings} {schema : Schema}
    (h : (plan settings schema context).stop = some error) :
    ∃ ref fault, error = .unresolvedReference ref fault := by
  have hplan := planned settings schema context
  generalize plan settings schema context = current at h hplan
  cases hplan with
  | members => exact sortMembers_stop h
  | _ => cases h

/-! ### The invariant -/

/-- Declarations in the order of their completion: each under a registered name that is new, with
direct references only to names before it and lazy ones to registered names. -/
inductive Sound (registry : Registry) : List (String × Expr) → Prop
  | nil : Sound registry []
  | snoc {declarations : List (String × Expr)} {name : String} {expr : Expr} :
      Sound registry declarations → name ∈ registry.names → name ∉ declarations.map (·.1) →
      (∀ other ∈ expr.references .named, other ∈ declarations.map (·.1)) →
      (∀ other ∈ expr.references .lazy, other ∈ registry.names) →
      Sound registry (declarations ++ [(name, expr)])

variable {name : String}

namespace Sound

variable {declarations : List (String × Expr)}

section

variable (h : Sound registry declarations)

include h

theorem nodup : (declarations.map (·.1)).Nodup := by
  induction h with
  | nil => exact nodup_nil
  | snoc _ _ hnew _ _ ih =>
    rw [map_append]
    exact ih.append (nodup_singleton _) (by simpa using hnew)

theorem mem_names : ∀ entry ∈ declarations, entry.1 ∈ registry.names := by
  induction h with
  | nil => simp
  | snoc _ hregistered _ _ _ ih =>
    intro entry hentry
    rcases mem_append.mp hentry with hentry | hentry
    · exact ih entry hentry
    · rw [mem_singleton.mp hentry]
      exact hregistered

/-- A declaration refers directly only to those before it. -/
theorem named :
    ∀ {before after : List (String × Expr)} {name : String} {expr : Expr},
      declarations = before ++ (name, expr) :: after →
        ∀ other ∈ expr.references .named, other ∈ before.map (·.1) := by
  induction h with
  | nil => intro before after name expr heq; simp at heq
  | @snoc declarations last lastExpr _ _ _ hnamed _ ih =>
    intro before after name expr heq
    rcases eq_nil_or_concat after with rfl | ⟨init, final, rfl⟩
    · obtain ⟨rfl, hentry⟩ := append_inj' heq rfl
      obtain ⟨rfl, rfl⟩ : last = name ∧ lastExpr = expr := by simpa using hentry
      exact hnamed
    · have hsplit : declarations ++ [(last, lastExpr)] =
          (before ++ (name, expr) :: init) ++ [final] := by simpa using heq
      exact ih (append_inj' hsplit rfl).1

theorem named_of_mem {expr : Expr} (hmem : (name, expr) ∈ declarations) :
    ∀ other ∈ expr.references .named, other ∈ declarations.map (·.1) := by
  intro other hother
  obtain ⟨before, after, heq⟩ := append_of_mem hmem
  have := h.named heq other hother
  rw [heq, map_append]
  exact mem_append_left _ this

theorem lazy :
    ∀ entry ∈ declarations, ∀ other ∈ entry.2.references .lazy, other ∈ registry.names := by
  induction h with
  | nil => simp
  | snoc _ _ _ _ hlazy ih =>
    intro entry hentry
    rcases mem_append.mp hentry with hentry | hentry
    · exact ih entry hentry
    · rw [mem_singleton.mp hentry]
      exact hlazy

end

/-- What is true of a declared name whenever it is true of all names its declaration refers to
directly is true of all declared names. -/
theorem namedInduction (good : String → Prop) (h : Sound registry declarations)
    (step : ∀ entry ∈ declarations, (∀ other ∈ entry.2.references .named, good other) →
      good entry.1) : ∀ entry ∈ declarations, good entry.1 := by
  induction h with
  | nil => simp
  | snoc _ _ _ hnamed _ ih =>
    have hbefore := ih fun entry hentry => step entry (mem_append_left _ hentry)
    intro entry hentry
    rcases mem_append.mp hentry with hentry | hlast
    · exact hbefore entry hentry
    · refine step entry hentry fun other hother => ?_
      rw [mem_singleton.mp hlast] at hother
      obtain ⟨found, hfound, rfl⟩ := mem_map.mp (hnamed other hother)
      exact hbefore found hfound

end Sound

/-- A failure that is no circle of declarations. -/
def NoCycle (failure : Failure) : Prop := ∀ names, failure ≠ .compile (.unbrokenCycle names)

/-- What every conversion under a stack respects: declarations stay sound, new ones come after
those there are, and none of them is on the stack. -/
def declaring (registry : Registry) (stack : List String) : Contract Progress where
  inv progress := Sound registry progress.declarations
  grows before after := ∃ added, after.declarations = before.declarations ++ added ∧
    ∀ entry ∈ added, entry.1 ∉ stack
  fault := NoCycle
  refl progress := ⟨[], by simp⟩
  trans := by
    rintro first second third ⟨added, hadded, hnew⟩ ⟨more, hmore, hnew'⟩
    refine ⟨added ++ more, by simp [hadded, hmore], ?_⟩
    intro entry hentry
    rcases mem_append.mp hentry with hentry | hentry
    · exact hnew entry hentry
    · exact hnew' entry hentry

/-- An expression whose direct references have been declared and whose lazy ones are registered. -/
def Refers (registry : Registry) (expr : Expr) (progress : Progress) : Prop :=
  (∀ other ∈ expr.references .named, other ∈ progress.declarations.map (·.1)) ∧
    ∀ other ∈ expr.references .lazy, other ∈ registry.names

/-- A converter that keeps the contract under every stack. -/
def Declares (settings : Settings) (convert : Converter) : Prop :=
  ∀ schema context progress, Sound settings.registry progress.declarations →
    (declaring settings.registry context.stack).Keeps (convert schema context)
      (Refers settings.registry) progress

theorem declaring_ignoresNotes (registry : Registry) (stack : List String) :
    IgnoresNotes (declaring registry stack) := by
  intro first second hsame hinv
  refine ⟨?_, [], by simp [hsame], by simp⟩
  change Sound registry second.declarations
  rw [← hsame]
  exact hinv

theorem Refers.mono {expr : Expr} {first second : Progress} (h : Refers registry expr first)
    (hgrows : (declaring registry stack).grows first second) : Refers registry expr second := by
  obtain ⟨added, hadded, -⟩ := hgrows
  refine ⟨fun other hother => ?_, h.2⟩
  rw [hadded, map_append]
  exact mem_append_left _ (h.1 other hother)

/-! ### Conversions keep the invariant -/

variable {settings : Settings} {convert : Converter}

theorem noCycle_of_unresolved (h : ∃ ref fault, error = .unresolvedReference ref fault) :
    NoCycle (.compile error) := by
  obtain ⟨ref, fault, rfl⟩ := h
  intro names heq
  cases heq

variable {progress : Progress}

/-- What is converted while a name is on top of the stack declares other names only. -/
theorem keeps_push {free : List String} {action : Convert Expr} {good : Expr → Progress → Prop}
    (hfree : ∀ other ∈ free, other ∈ context.stack)
    (h : (declaring registry (context.push name).stack).Keeps action good progress) :
    (declaring registry free).Keeps action
      (fun expr reached => good expr reached ∧ (name ∉ progress.declarations.map (·.1) →
        name ∉ reached.declarations.map (·.1))) progress := by
  intro result reached houtcome
  obtain ⟨hinv, ⟨added, hadded, hnew⟩, hresult⟩ := h result reached houtcome
  have hfresh : name ∉ progress.declarations.map (·.1) →
      name ∉ reached.declarations.map (·.1) := by
    intro hbefore hafter
    rw [hadded, map_append, mem_append] at hafter
    rcases hafter with hafter | hafter
    · exact hbefore hafter
    · obtain ⟨entry, hentry, rfl⟩ := mem_map.mp hafter
      exact hnew entry hentry (mem_append_right _ (mem_singleton_self _))
  refine ⟨hinv, ⟨added, hadded, fun entry hentry hmem => ?_⟩, ?_⟩
  · exact hnew entry hentry (mem_append_left _ (hfree _ hmem))
  · cases result with
    | ok expr => exact ⟨hresult, hfresh⟩
    | error failure => exact hresult

/-- Declaring a named schema adds it and others that are not on the stack, so it leaves alone any
names of the stack that it is not among. -/
theorem declareWith_keeps (hconvert : Declares settings convert) {free : List String}
    (hname : name ∉ free) (hfree : ∀ other ∈ free, other ∈ context.stack)
    (hinv : Sound settings.registry progress.declarations) :
    (declaring settings.registry free).Keeps (declareWith convert settings name context)
      (fun expr reached => (name, expr) ∈ reached.declarations) progress := by
  refine keeps_declareWith ((declaring_ignoresNotes settings.registry free).allows fun _ => True)
    (fun _ names heq => by cases heq) ?_ hinv
  intro target hget reached hreached hnew
  refine (keeps_push hfree (hconvert target _ reached hreached)).mono ?_
  rintro expr last hlast - ⟨hrefers, hfresh⟩
  refine ⟨hlast.snoc (Registry.mem_names_of_get? hget) (hfresh hnew) hrefers.1 hrefers.2, ?_⟩
  exact ⟨[(name, expr)], rfl, by simpa using hname⟩

/-- References keep the invariant: one to a name on the stack is lazy, and the target of any other
has been declared when the reference is made. -/
theorem convertRef_keeps (hconvert : Declares settings convert) (ref : String)
    (hinv : Sound settings.registry progress.declarations) :
    (declaring settings.registry context.stack).Keeps (convertRef convert settings ref context)
      (Refers settings.registry) progress := by
  refine keeps_convertRef ((declaring_ignoresNotes _ _).allows fun _ => True) (fun _ => trivial)
    (fun _ _ _ names heq => by cases heq)
    (fun error herror => noCycle_of_unresolved ⟨ref, Registry.resolve_error herror⟩)
    (fun _ note _ _ _ _ => by simp [Refers]) ?_ ?_ hinv
  · intro name reached hname _ _
    simpa [Refers, Expr.mem_references_lazyRef] using Registry.mem_names_of_resolve hname
  · intro name _ hstack reached hreached
    refine (declareWith_keeps hconvert hstack (fun _ h => h) hreached).mono ?_
    intro expr declared _ _ hmem
    simp only [Refers, Expr.mem_references_namedRef]
    refine ⟨?_, by simp⟩
    rintro other ⟨-, rfl⟩
    exact mem_map.mpr ⟨_, hmem, rfl⟩

theorem refers_plan_build {schema : Schema} {exprs : List Expr}
    (h : ∀ expr ∈ exprs, Refers settings.registry expr progress) :
    Refers settings.registry ((plan settings schema context).build exprs) progress := by
  constructor
  · intro other hother
    obtain ⟨expr, hexpr, hname⟩ := references_plan_build hother
    exact (h expr hexpr).1 other hname
  · intro other hother
    obtain ⟨expr, hexpr, hname⟩ := references_plan_build hother
    exact (h expr hexpr).2 other hname

/-- All conversions keep the invariant. -/
theorem convertAt_declares (settings : Settings) :
    ∀ depth, Declares settings (convertAt settings depth) := by
  intro depth
  induction depth with
  | zero =>
    intro schema context progress hinv
    exact Contract.keeps_throw hinv (fun names heq => by cases heq)
  | succ depth ih =>
    intro schema context progress hinv
    have hkind : (declaring settings.registry context.stack).Keeps
        (convertKind (convertAt settings depth) settings schema context)
        (Refers settings.registry) progress := by
      cases href : schema.ref with
      | some ref =>
        simp only [convertKind, href]
        exact convertRef_keeps ih ref hinv
      | none =>
        rw [convertKind_eq_plan _ _ _ _ href]
        refine Plan.keeps_run ((declaring_ignoresNotes _ _).allows fun _ => True)
          (fun _ expr reached => Refers settings.registry expr reached)
          (fun _ _ _ _ hgrows hexpr => hexpr.mono hgrows) (fun _ _ => trivial)
          ?_ (fun error herror => noCycle_of_unresolved (plan_stop herror)) ?_ hinv
        · intro part hpart reached hinv'
          rw [← stack_of_mem_plan_parts settings schema context hpart]
          exact ih part.1 part.2 reached hinv'
        · intro exprs reached _ hexprs
          exact refers_plan_build (forall_mem_of_forall₂ hexprs)
    apply Contract.keeps_bind hkind
    intro expr reached hinv' _ hexpr
    refine Contract.keeps_pure hinv' ?_
    simpa only [Refers, Expr.references_withModifiers] using hexpr

end Conversion

end OpenApiClient

namespace OpenApiClient.Declaration

open List

/-! ### The order of the graph -/

open Conversion (Sound)

variable {names : List String} {declarations : List (String × Expr)}

theorem mapM_lookup (h : ∀ name ∈ names, ∃ expr, declarations.lookup name = some expr) :
    ∃ declared, names.mapM (fun name => do return (name, ← declarations.lookup name)) =
        some declared ∧ declared.map (·.1) = names ∧
      ∀ name ∈ names, declared.lookup name = declarations.lookup name := by
  induction names with
  | nil => exact ⟨[], rfl, rfl, by simp⟩
  | cons first rest ih =>
    obtain ⟨expr, hexpr⟩ := h first mem_cons_self
    obtain ⟨declared, hdeclared, hnames, hlookup⟩ :=
      ih fun name hname => h name (mem_cons_of_mem _ hname)
    refine ⟨(first, expr) :: declared, ?_, by simp [hnames], ?_⟩
    · rw [mapM_cons, hdeclared, hexpr]
      rfl
    · intro name hname
      rw [Named.lookup_cons_ite]
      split
      · rename_i hfirst
        rw [hfirst, hexpr]
      · rename_i hfirst
        exact hlookup name ((mem_cons.mp hname).resolve_left hfirst)

theorem lookup_map_snd {α β : Type} (f : α → β) (entries : List (String × α)) (name : String) :
    (entries.map fun (key, value) => (key, f value)).lookup name =
      (entries.lookup name).map f := by
  induction entries with
  | nil => rfl
  | cons entry rest ih =>
    rw [map_cons, Named.lookup_cons_ite, Named.lookup_cons_ite, ih]
    by_cases hname : name = entry.1 <;> simp [hname]

/-- The graph of declarations has the direct references to known names as edges. -/
theorem ofDeclarations?_eq_some
    (h : ∀ name ∈ names, ∃ expr, declarations.lookup name = some expr) :
    ∃ graph, Graph.ofDeclarations? names declarations = some graph ∧ graph.names = names ∧
      (∀ name, (graph.dependencies name).Nodup) ∧
      (∀ name ∉ names, graph.dependencies name = []) ∧
      ∀ name ∈ names, ∀ expr, declarations.lookup name = some expr →
        graph.dependencies name = Graph.targets names .named expr := by
  obtain ⟨declared, hdeclared, hnames, hlookup⟩ := mapM_lookup h
  refine ⟨_, by rw [Graph.ofDeclarations?, hdeclared]; rfl, rfl, fun name => ?_, fun name hname => ?_,
    fun name hname expr hexpr => ?_⟩
  · rw [Graph.dependencies, lookup_map_snd]
    cases declared.lookup name with
    | none => exact nodup_nil
    | some expr => exact Graph.nodup_eraseDups _
  · have hnone : declared.lookup name = none := by
      rw [lookup_eq_none_iff]
      intro entry hentry
      rw [← hnames] at hname
      have hne : name ≠ entry.1 := fun heq => hname (heq ▸ mem_map_of_mem hentry)
      simpa using hne
    rw [Graph.dependencies, lookup_map_snd, hnone]
    rfl
  · rw [Graph.dependencies, lookup_map_snd, hlookup name hname, hexpr]
    rfl

theorem mem_targets {mode : ReferenceMode} {expr : Expr} {name : String} :
    name ∈ Graph.targets names mode expr ↔ name ∈ expr.references mode ∧ name ∈ names := by
  simp [Graph.targets]

variable {registry : Registry}

/-- A name is completed after those that its declaration refers to. -/
theorem idxOf_lt_of_sound (hsound : Sound registry declarations) {name other : String}
    {expr : Expr} (hlookup : declarations.lookup name = some expr)
    (hother : other ∈ expr.references .named) :
    (declarations.map (·.1)).idxOf other < (declarations.map (·.1)).idxOf name := by
  obtain ⟨before, after, hsplit, hfirst⟩ := lookup_eq_some_iff.mp hlookup
  have hbefore : other ∈ before.map (·.1) := hsound.named hsplit other hother
  have hnew : name ∉ before.map (·.1) := by
    intro hmem
    obtain ⟨entry, hentry, rfl⟩ := mem_map.mp hmem
    simpa using hfirst entry hentry
  rw [hsplit, map_append, idxOf_append_of_mem hbefore, idxOf_append_of_notMem hnew]
  have := idxOf_lt_length_of_mem hbefore
  omega

/-- Sound declarations of all registered names have a graph, whose edges descend along the places
of the names in the list of declarations. -/
theorem exists_graph (hnodup : registry.names.Nodup) (hsound : Sound registry declarations)
    (hall : ∀ name ∈ registry.names, ∃ expr, declarations.lookup name = some expr) :
    ∃ graph, Graph.ofDeclarations? registry.names declarations = some graph ∧
      graph.names = registry.names ∧ graph.Regular ∧
      (∀ name ∈ registry.names, ∀ expr, declarations.lookup name = some expr →
        graph.dependencies name = Graph.targets registry.names .named expr) ∧
      ∀ name, ∀ other ∈ graph.dependencies name,
        (declarations.map (·.1)).idxOf other < (declarations.map (·.1)).idxOf name := by
  obtain ⟨graph, hgraph, hnames, hedges, hnone, hdependencies⟩ := ofDeclarations?_eq_some hall
  refine ⟨graph, hgraph, hnames, ⟨hnames ▸ hnodup, hedges, fun name other hother => ?_⟩,
    hdependencies, fun name other hother => ?_⟩
  · by_cases hname : name ∈ registry.names
    · obtain ⟨expr, hexpr⟩ := hall name hname
      rw [hdependencies name hname expr hexpr] at hother
      rw [hnames]
      exact (mem_targets.mp hother).2
    · simp [hnone name hname] at hother
  · by_cases hname : name ∈ registry.names
    · obtain ⟨expr, hexpr⟩ := hall name hname
      rw [hdependencies name hname expr hexpr] at hother
      exact idxOf_lt_of_sound hsound hexpr (mem_targets.mp hother).1
    · simp [hnone name hname] at hother

/-- The names that a sound declaration refers to directly are its edges. -/
theorem mem_targets_of_sound (hsound : Sound registry declarations) {name other : String}
    {expr : Expr} (hexpr : declarations.lookup name = some expr) :
    other ∈ Graph.targets registry.names .named expr ↔ other ∈ expr.references .named := by
  rw [mem_targets, and_iff_left_iff_imp]
  intro hother
  obtain ⟨entry, hentry, rfl⟩ := mem_map.mp
    (hsound.named_of_mem (Named.mem_of_lookup hexpr) other hother)
  exact hsound.mem_names entry hentry

/-- Sound declarations of all registered names are ordered, each after those it refers to
directly. -/
theorem order_of_sound (hnodup : registry.names.Nodup) (hsound : Sound registry declarations)
    (hall : ∀ name ∈ registry.names, ∃ expr, declarations.lookup name = some expr) :
    ∃ graph order, Graph.ofDeclarations? registry.names declarations = some graph ∧
      graph.order = .ok order ∧ order.Perm registry.names ∧
      ∀ before name after, order = before ++ name :: after →
        ∀ expr, declarations.lookup name = some expr →
          ∀ other ∈ expr.references .named, other ∈ before := by
  obtain ⟨graph, hgraph, hnames, hregular, hdependencies, hrank⟩ :=
    exists_graph hnodup hsound hall
  obtain ⟨order, horder, hperm, hfollows⟩ := Graph.order_eq_ok hregular _ hrank
  rw [hnames] at hperm
  refine ⟨graph, order, hgraph, horder, hperm, fun before name after hsplit expr hexpr other hother
    => hfollows before name after hsplit other ?_⟩
  have hname : name ∈ registry.names := hperm.mem_iff.mp (by simp [hsplit])
  rw [hdependencies name hname expr hexpr]
  exact (mem_targets_of_sound hsound hexpr).mpr hother

end OpenApiClient.Declaration
