import OpenApiClient.Proofs.Expr.References

/-!
# One induction for all conversions

What is proved about all conversions is proved by one induction on their depth, and differs only in
what is claimed: which schemas it is claimed of (`fits`), what is true of the expressions
(`good`), and what the state and the failures respect (a contract). `Laws` lists what has to be
shown for a claim, one law for each way in which a conversion goes on or ends, and `NotedLaws` does
so for a claim that also says which warnings there can be. None of them mentions the recursion.
From the laws, `NotedLaws.convertAt_keeps` gives the claim for all conversions, and
`NotedLaws.declareWith_keeps` for all declarations of named schemas.
-/

namespace OpenApiClient.Conversion

/-- The expression of a schema, with the modifiers that come last. -/
def finished (settings : Settings) (schema : Schema) (optional : Bool) (expr : Expr) : Expr :=
  expr.withModifiers (trailingModifiers settings.config.withDefaultValues optional schema expr)

section

variable (settings : Settings) (schema : Schema) (optional : Bool) (expr : Expr)

@[simp] theorem finished_kind : (finished settings schema optional expr).kind = expr.kind :=
  Expr.withModifiers_kind _ _

@[simp] theorem finished_ref : (finished settings schema optional expr).ref = expr.ref :=
  Expr.withModifiers_ref _ _

@[simp] theorem references_finished {mode : ReferenceMode} :
    (finished settings schema optional expr).references mode = expr.references mode :=
  Expr.references_withModifiers _ _

end

theorem depthBound_eq_succ (registry : Registry) (size : Nat) :
    ∃ depth, depthBound registry size = depth + 1 :=
  Nat.exists_eq_succ_of_ne_zero (by simp [depthBound])

theorem convert_eq_plan (settings : Settings) (schema : Schema) (context : Context)
    (href : schema.ref = none) :
    ∃ depth, convert settings schema context =
      ((plan settings schema context).run (convertAt settings depth) context.location >>=
        fun base => pure (finished settings schema context.optional base)) := by
  obtain ⟨depth, hdepth⟩ := depthBound_eq_succ settings.registry schema.size
  rw [convert, hdepth, convertAt, convertKind_eq_plan _ _ _ _ href]
  exact ⟨depth, rfl⟩

/-- What has to be shown for a claim on all conversions, warnings apart: `fits` says which schemas
it is claimed of, under which depth and context, and `good` what is true of the expressions. -/
structure Stepwise (settings : Settings) (contract : Contract Progress)
    (fits : Nat → Schema → Context → Prop)
    (good : Nat → Schema → Context → Expr → Progress → Prop) : Prop where
  stable : ∀ {depth schema context expr first second}, contract.grows first second →
    good depth schema context expr first → good depth schema context expr second
  exhausted : ∀ {schema context}, fits 0 schema context → contract.fault (.unexpected .endless)
  part : ∀ {depth schema context part}, fits (depth + 1) schema context → schema.ref = none →
    part ∈ (plan settings schema context).parts → fits depth part.1 part.2
  stop : ∀ {depth schema context error}, fits (depth + 1) schema context → schema.ref = none →
    (plan settings schema context).stop = some error → contract.fault (.compile error)
  build : ∀ {depth schema context exprs progress}, fits (depth + 1) schema context →
    schema.ref = none → (plan settings schema context).stop = none →
    List.Forall₂ (fun part expr => good depth part.1 part.2 expr progress)
      (plan settings schema context).parts exprs →
    good (depth + 1) schema context
      (finished settings schema context.optional ((plan settings schema context).build exprs))
      progress
  unresolved : ∀ {depth schema context ref error}, fits (depth + 1) schema context →
    schema.ref = some ref → settings.registry.resolve ref = .error error →
    contract.fault (.compile error)
  unregistered : ∀ {depth schema context name}, fits (depth + 1) schema context →
    name ∈ context.stack → settings.registry.get? name = none →
    contract.fault (.unexpected .noSuchKey)
  unknown : ∀ {depth schema context ref name note progress}, fits (depth + 1) schema context →
    schema.ref = some ref → settings.registry.resolve ref = .ok name → name ∈ context.stack →
    (∀ other ∈ context.stack.dropWhile (· ≠ name), settings.registry.IsBare other) →
    good (depth + 1) schema context (finished settings schema context.optional (.unknown note))
      progress
  lazy : ∀ {depth schema context ref name progress}, fits (depth + 1) schema context →
    schema.ref = some ref → settings.registry.resolve ref = .ok name → name ∈ context.stack →
    (¬ ∀ other ∈ context.stack.dropWhile (· ≠ name), settings.registry.IsBare other) →
    good (depth + 1) schema context (finished settings schema context.optional (.lazyRef name))
      progress
  enter : ∀ {depth schema context ref name target}, fits (depth + 1) schema context →
    schema.ref = some ref → settings.registry.resolve ref = .ok name → name ∉ context.stack →
    settings.registry.get? name = some target → fits depth target (context.push name)
  named : ∀ {depth schema context ref name expr progress}, fits (depth + 1) schema context →
    schema.ref = some ref → settings.registry.resolve ref = .ok name → name ∉ context.stack →
    contract.inv progress → (name, expr) ∈ progress.declarations →
    good (depth + 1) schema context (finished settings schema context.optional (.namedRef name))
      progress
  declare : ∀ {depth name target expr progress} {context : Context},
    fits depth target (context.push name) →
    settings.registry.get? name = some target → contract.inv progress →
    good depth target (context.push name) expr progress →
    contract.inv (progress.add name expr) ∧ contract.grows progress (progress.add name expr)

/-- What has to be shown for a claim that warnings do not matter to. -/
structure Laws (settings : Settings) (contract : Contract Progress)
    (fits : Nat → Schema → Context → Prop)
    (good : Nat → Schema → Context → Expr → Progress → Prop) : Prop
    extends Stepwise settings contract fits good where
  notes : IgnoresNotes contract

/-- What has to be shown for a claim that says which warnings there can be: besides the rest, that
they are all the warnings that plans and references that only lead to each other give rise to. -/
structure NotedLaws (settings : Settings) (contract : Contract Progress) (allowed : Warning → Prop)
    (fits : Nat → Schema → Context → Prop)
    (good : Nat → Schema → Context → Expr → Progress → Prop) : Prop
    extends Stepwise settings contract fits good where
  notes : Allows contract allowed
  planned : ∀ {depth schema context note}, fits (depth + 1) schema context → schema.ref = none →
    note ∈ (plan settings schema context).notes →
    allowed { message := note.2, keyword := note.1, location := context.location }
  aliased : ∀ {depth schema context ref note}, fits (depth + 1) schema context →
    schema.ref = some ref →
    allowed { message := note, keyword := "$ref", location := context.location }

variable {settings : Settings} {contract : Contract Progress} {allowed : Warning → Prop}
  {fits : Nat → Schema → Context → Prop} {good : Nat → Schema → Context → Expr → Progress → Prop}

theorem Laws.noted (laws : Laws settings contract fits good) :
    NotedLaws settings contract (fun _ => True) fits good where
  toStepwise := laws.toStepwise
  notes := laws.notes.allows _
  planned := fun _ _ _ => trivial
  aliased := fun _ _ => trivial

variable {name : String} {progress : Progress}

namespace NotedLaws

/-- A named schema is declared in keeping with the contract if its conversion keeps it. -/
theorem keeps_declareWith (laws : NotedLaws settings contract allowed fits good)
    {convert : Converter} {depth : Nat} {context : Context}
    (hkey : settings.registry.get? name = none → contract.fault (.unexpected .noSuchKey))
    (hfits : ∀ target, settings.registry.get? name = some target →
      fits depth target (context.push name))
    (hconvert : ∀ target, settings.registry.get? name = some target → ∀ progress,
      contract.inv progress → contract.Keeps (convert target (context.push name))
        (good depth target (context.push name)) progress) (hinv : contract.inv progress) :
    contract.Keeps (declareWith convert settings name context)
      (fun expr reached => (name, expr) ∈ reached.declarations) progress :=
  Conversion.keeps_declareWith laws.notes hkey (fun target hget state hstate _ =>
    (hconvert target hget state hstate).mono fun _ _ hreached _ hgood =>
      laws.declare (hfits target hget) hget hreached hgood) hinv

/-- What follows the laws is true of all conversions. -/
theorem convertAt_keeps (laws : NotedLaws settings contract allowed fits good) :
    ∀ depth schema context progress, fits depth schema context → contract.inv progress →
      contract.Keeps (convertAt settings depth schema context) (good depth schema context)
        progress := by
  intro depth
  induction depth with
  | zero =>
    intro schema context progress hfits hinv
    exact Contract.keeps_throw hinv (laws.exhausted hfits)
  | succ depth ih =>
    intro schema context progress hfits hinv
    have hkind : contract.Keeps (convertKind (convertAt settings depth) settings schema context)
        (fun expr reached => good (depth + 1) schema context
          (finished settings schema context.optional expr) reached) progress := by
      cases href : schema.ref with
      | none =>
        rw [convertKind_eq_plan _ _ _ _ href]
        refine Plan.keeps_run laws.notes (fun part => good depth part.1 part.2)
          (fun _ _ _ _ hgrows hexpr => laws.stable hgrows hexpr)
          (fun note hnote => laws.planned hfits href hnote) ?_
          (fun error herror => laws.stop hfits href herror) ?_ hinv
        · exact fun part hpart reached hreached =>
            ih part.1 part.2 reached (laws.part hfits href hpart) hreached
        · exact fun exprs reached hstop hexprs => laws.build hfits href hstop hexprs
      | some ref =>
        simp only [convertKind, href]
        refine keeps_convertRef laws.notes (fun note => laws.aliased hfits href)
          (fun name hname hnone => laws.unregistered hfits hname hnone)
          (fun error herror => laws.unresolved hfits href herror)
          (fun name note _ hname hstack hbare => laws.unknown hfits href hname hstack hbare)
          (fun name _ hname hstack hbare => laws.lazy hfits href hname hstack hbare) ?_ hinv
        -- a name off the stack is declared first, then referred to
        intro name hname hstack reached hreached
        obtain ⟨target, hget⟩ :=
          Registry.exists_get?_of_mem_names (Registry.mem_names_of_resolve hname)
        have henter : ∀ target, settings.registry.get? name = some target →
            fits depth target (context.push name) :=
          fun target => laws.enter hfits href hname hstack
        refine (laws.keeps_declareWith (fun hnone => by simp [hget] at hnone) henter
          (fun target hget state => ih target _ state (henter target hget)) hreached).mono ?_
        exact fun expr declared hdeclared _ hmem =>
          laws.named hfits href hname hstack hdeclared hmem
    apply Contract.keeps_bind hkind
    intro expr reached hreached _ hexpr
    exact Contract.keeps_pure hreached hexpr

/-- What follows the laws is true of all declarations of named schemas. -/
theorem declareWith_keeps (laws : NotedLaws settings contract allowed fits good) {depth : Nat}
    {context : Context}
    (hkey : settings.registry.get? name = none → contract.fault (.unexpected .noSuchKey))
    (hfits : ∀ target, settings.registry.get? name = some target →
      fits depth target (context.push name)) (hinv : contract.inv progress) :
    contract.Keeps (declareWith (convertAt settings depth) settings name context)
      (fun expr reached => (name, expr) ∈ reached.declarations) progress :=
  laws.keeps_declareWith hkey hfits
    (fun target hget state => laws.convertAt_keeps depth target _ state (hfits target hget)) hinv

end NotedLaws

/-! ### Claims on single declarations -/

/-- What conversions respect if something is claimed of each declaration on its own. -/
def eachDeclared (good : String → Expr → Prop) (fault : Failure → Prop) : Contract Progress where
  inv progress := ∀ entry ∈ progress.declarations, good entry.1 entry.2
  grows _ _ := True
  fault := fault
  refl _ := trivial
  trans _ _ := trivial

section EachDeclared

variable {good : String → Expr → Prop} {fault : Failure → Prop}

theorem eachDeclared_ignoresNotes : IgnoresNotes (eachDeclared good fault) := by
  intro first second hsame hinv
  exact ⟨fun entry hentry => hinv entry (hsame ▸ hentry), trivial⟩

theorem eachDeclared_add {expr : Expr} (hinv : (eachDeclared good fault).inv progress)
    (hgood : good name expr) :
    (eachDeclared good fault).inv (progress.add name expr) ∧
      (eachDeclared good fault).grows progress (progress.add name expr) := by
  refine ⟨fun entry hentry => ?_, trivial⟩
  rcases List.mem_append.mp hentry with hentry | hentry
  · exact hinv entry hentry
  · rw [List.mem_singleton.mp hentry]
    exact hgood

end EachDeclared

end OpenApiClient.Conversion
