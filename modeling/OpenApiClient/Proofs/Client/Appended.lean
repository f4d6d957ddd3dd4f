import OpenApiClient.Proofs.Client.Operations
import OpenApiClient.Proofs.Conversion.Circles
import OpenApiClient.Proofs.Declaration.Earliest

/-!
# One more schema

When a schema is added after all others, the schemas that were there are declared first and as
before: what they refer to has not changed. By the time the new one is declared all others are, so
it adds one declaration at the end of those that were made (`declareAll_append`), and it comes last
in the order too. The endpoints are bound when all names are declared and do not see it. A
conversion that returns does so in the larger registry too, from the same state to the same state
(`convertAt_grows`).
-/

namespace OpenApiClient

open List

variable {registry grown : Registry} {name ref : String} {schema : Schema}

/-! ### Registries -/

/-- A registry grows to another one by schemas that come after its own. -/
def Registry.Grows (registry grown : Registry) : Prop :=
  ∃ added, grown.schemas = registry.schemas ++ added

namespace Registry.Grows

variable (h : registry.Grows grown)

include h

theorem get? (hget : registry.get? name = some schema) : grown.get? name = some schema := by
  obtain ⟨added, hadded⟩ := h
  rw [Registry.get?] at hget ⊢
  rw [hadded, lookup_append, hget]
  rfl

theorem names_subset : ∀ other ∈ registry.names, other ∈ grown.names := by
  intro other hother
  obtain ⟨schema, hschema⟩ := exists_get?_of_mem_names hother
  exact mem_names_of_get? (h.get? hschema)

theorem resolve (hresolve : registry.resolve ref = .ok name) : grown.resolve ref = .ok name :=
  resolve_of_subset h.names_subset hresolve

theorem depthBound_le (size : Nat) :
    Conversion.depthBound registry size ≤ Conversion.depthBound grown size := by
  obtain ⟨added, hadded⟩ := h
  have hlength : registry.names.length ≤ grown.names.length := by
    simp [names, hadded]
  have hsize : propertiesSize registry.schemas ≤ propertiesSize grown.schemas := by
    simp [Schema.propertiesSize_eq, hadded]
  exact Nat.mul_le_mul (by omega) (by omega)

end Registry.Grows

namespace Conversion

variable {stack : List String} {settings larger : Settings} {context : Context}

/-! ### Plans -/

/-- No more names can be followed than are registered, so more fuel changes nothing. -/
theorem plainObject?_fuel :
    ∀ {first second : Nat} {followed : List String} {member : Schema}, followed.Nodup →
      (∀ name ∈ followed, name ∈ registry.names) →
      registry.names.length < first + followed.length →
      registry.names.length < second + followed.length →
      plainObject? registry stack first followed member =
        plainObject? registry stack second followed member := by
  intro first
  induction first with
  | zero =>
    intro second followed member hnodup hknown hfirst
    -- without fuel more names would have been followed than there are
    have hlength := (hnodup.subperm hknown).length_le
    omega
  | succ first ih =>
    intro second followed member hnodup hknown hfirst hsecond
    have hlength := (hnodup.subperm hknown).length_le
    obtain ⟨second, rfl⟩ : ∃ fewer, second = fewer + 1 := ⟨second - 1, by omega⟩
    cases href : member.ref with
    | none => simp only [plainObject?, href]
    | some ref =>
      simp only [plainObject?, href]
      cases hresolve : registry.resolve ref with
      | error error => rfl
      | ok name =>
        simp only [bind, Except.bind]
        split
        · rfl
        · rename_i hnew
          cases registry.get? name with
          | none => rfl
          | some target =>
            have hname : name ∉ followed := fun hmem => hnew (by simp [hmem])
            refine ih (hnodup.append (nodup_singleton name) (by simpa using hname))
              (fun other hother => ?_) ?_ ?_
            · rcases mem_append.mp hother with hother | hother
              · exact hknown other hother
              · rw [mem_singleton.mp hother]
                exact Registry.mem_names_of_resolve hresolve
            · rw [length_append, length_singleton]
              omega
            · rw [length_append, length_singleton]
              omega

theorem plainObject?_grows (h : registry.Grows grown) :
    ∀ {fuel : Nat} {followed : List String} {member : Schema} {found : Option Schema},
      plainObject? registry stack fuel followed member = .ok found →
        plainObject? grown stack fuel followed member = .ok found := by
  intro fuel
  induction fuel with
  | zero => exact fun hfound => hfound
  | succ fuel ih =>
    intro followed member found hfound
    unfold plainObject? at hfound ⊢
    cases href : member.ref with
    | none => simpa only [href] using hfound
    | some ref =>
      simp only [href] at hfound ⊢
      obtain ⟨name, hresolve, hfound⟩ := bind_eq_ok.mp hfound
      refine bind_eq_ok.mpr ⟨name, h.resolve hresolve, ?_⟩
      split at hfound
      · rename_i hmet
        rw [if_pos hmet]
        exact hfound
      · rename_i hnew
        obtain ⟨target, hget⟩ :=
          Registry.exists_get?_of_mem_names (Registry.mem_names_of_resolve hresolve)
        rw [hget] at hfound
        rw [if_neg hnew, h.get? hget]
        exact ih hfound

theorem objectBehind?_grows (h : registry.Grows grown) {member : Schema} {found : Option Schema}
    (hfound : objectBehind? registry stack member = .ok found) :
    objectBehind? grown stack member = .ok found := by
  have hlength : registry.names.length ≤ grown.names.length := by
    obtain ⟨added, hadded⟩ := h
    simp [Registry.names, hadded]
  refine plainObject?_grows h ?_
  rw [← hfound]
  exact plainObject?_fuel nodup_nil (by simp) (by simp; omega) (by simp)

/-- If all members of an `allOf` could be sorted, they are sorted the same in the larger
registry. -/
theorem sortMembers_grows (h : registry.Grows grown) {members : List (Schema × Nat)}
    (hstop : (sortMembers registry stack members).stop = none) :
    sortMembers grown stack members = sortMembers registry stack members := by
  induction members with
  | nil => rfl
  | cons first rest ih =>
    unfold sortMembers at hstop ⊢
    rcases hfound : objectBehind? registry stack first.1 with error | _ | shape
    · simp only [hfound, reduceCtorEq] at hstop
    · simp only [hfound] at hstop
      simp only [objectBehind?_grows h hfound, ih hstop]
    · simp only [hfound] at hstop
      simp only [objectBehind?_grows h hfound, ih hstop]

/-- A plan that is not stuck is the same in the larger registry. -/
theorem plan_grows (h : settings.registry.Grows larger.registry)
    (hconfig : settings.config = larger.config)
    (hstop : (plan settings schema context).stop = none) :
    plan larger schema context = plan settings schema context := by
  unfold plan at hstop ⊢
  split
  · rename_i allOf hallOf
    simp only [hallOf] at hstop
    unfold allOfPlan at hstop ⊢
    match allOf ++ (siblingMember? schema).toList, hstop with
    | [member], _ => rfl
    | [], hstop => simp only [sortMembers_grows h hstop, membersPlan, hconfig]
    | first :: second :: rest, hstop => simp only [sortMembers_grows h hstop, membersPlan, hconfig]
  · simp only [objectPlan, hconfig]

/-! ### Conversions -/

theorem ofCompile_resolve_grows (h : registry.Grows grown) (ref : String) :
    Extends (Convert.ofCompile (registry.resolve ref)) (Convert.ofCompile (grown.resolve ref)) := by
  cases hresolve : registry.resolve ref with
  | error error => exact extends_throw _ _
  | ok name =>
    rw [h.resolve hresolve]
    exact extends_refl _

theorem allAliases_grows (h : registry.Grows grown) (names : List String) :
    Extends (allAliases registry names) (allAliases grown names) := by
  induction names with
  | nil => exact extends_refl _
  | cons name rest ih =>
    unfold allAliases
    cases hget : registry.get? name with
    | none => exact extends_throw _ _
    | some schema =>
      simp only [h.get? hget]
      split
      · exact ih
      · exact extends_refl _

section

variable (h : settings.registry.Grows larger.registry)

include h

theorem declareWith_grows {first second : Converter}
    (hconvert : ∀ schema context, Extends (first schema context) (second schema context))
    (name : String) (context : Context) :
    Extends (declareWith first settings name context) (declareWith second larger name context) := by
  refine extends_bind (extends_refl _) fun current => ?_
  cases current.declarations.lookup name with
  | some expr => exact extends_refl _
  | none =>
    refine extends_bind (extends_refl _) fun _ => ?_
    cases hget : settings.registry.get? name with
    | none => exact extends_throw _ _
    | some target =>
      simp only [h.get? hget]
      exact extends_bind (hconvert target _) fun _ => extends_refl _

theorem convertRef_grows {first second : Converter}
    (hconvert : ∀ schema context, Extends (first schema context) (second schema context))
    (ref : String) (context : Context) :
    Extends (convertRef first settings ref context) (convertRef second larger ref context) := by
  refine extends_bind (ofCompile_resolve_grows h ref) fun name => ?_
  split
  · exact extends_bind (allAliases_grows h _) fun _ => extends_refl _
  · exact extends_bind (declareWith_grows h hconvert name context) fun _ => extends_refl _

/-- A conversion that returns does the same in a larger registry. -/
theorem convertAt_grows (hconfig : settings.config = larger.config) :
    ∀ depth schema context, Extends (convertAt settings depth schema context)
      (convertAt larger depth schema context) := by
  intro depth
  induction depth with
  | zero => exact fun _ _ => extends_refl _
  | succ depth ih =>
    intro schema context
    cases href : schema.ref with
    | some ref =>
      unfold convertAt
      simp only [convertKind, href, hconfig]
      exact extends_bind (convertRef_grows h ih ref context) fun _ => extends_refl _
    | none =>
      cases hstop : (plan settings schema context).stop with
      | some error =>
        -- a conversion that is stuck does not return
        intro progress expr reached hexpr
        have hnone := ((returns_plan_iff href depth).mp ⟨expr, reached, hexpr⟩).1
        rw [hstop] at hnone
        cases hnone
      | none =>
        unfold convertAt
        rw [convertKind_eq_plan _ _ _ _ href, convertKind_eq_plan _ _ _ _ href,
          plan_grows h hconfig hstop, hconfig]
        exact extends_bind (Plan.run_extends ih _ _) fun _ => extends_refl _

theorem declare_grows (hconfig : settings.config = larger.config) (name : String)
    (context : Context) : Extends (declare settings name context) (declare larger name context) :=
  declareWith_grows h (fun schema context _ _ _ houtcome =>
    convertAt_le (h.depthBound_le 0) schema context (convertAt_grows h hconfig _ _ _ houtcome))
    name context

/-! ### Translations -/

theorem structuralAt_grows (hconfig : settings.config = larger.config) :
    ∀ {depth schema optional expr}, structuralAt settings depth schema optional = .ok expr →
      structuralAt larger depth schema optional = .ok expr := by
  intro depth
  induction depth with
  | zero => intro schema optional expr hexpr; cases hexpr
  | succ depth ih =>
    intro schema optional expr hexpr
    have hfinished : finished settings = finished larger := by
      unfold finished
      rw [hconfig]
    cases href : schema.ref with
    | some ref =>
      obtain ⟨name, hresolve, rfl⟩ := (structuralAt_ref href depth).mp hexpr
      exact (structuralAt_ref href depth).mpr ⟨name, h.resolve hresolve, by rw [hfinished]⟩
    | none =>
      obtain ⟨hstop, exprs, hexprs, rfl⟩ :=
        (structuralAt_plan href depth ⟨rfl, rfl, rfl⟩).mp hexpr
      have hplan := plan_grows h hconfig hstop
      refine (structuralAt_plan href depth ⟨rfl, rfl, rfl⟩).mpr ⟨by rw [hplan]; exact hstop,
        exprs, ?_, by rw [hplan, hfinished]⟩
      rw [hplan]
      exact hexprs.imp fun _ _ => ih

/-- A schema that is translated on its own is translated the same in a larger registry. -/
theorem structural_grows (hconfig : settings.config = larger.config) {schema : Schema}
    {optional : Bool} {expr : Expr} (hexpr : structural settings schema optional = .ok expr) :
    structural larger schema optional = .ok expr :=
  structuralAt_le (h.depthBound_le schema.size) (structuralAt_grows h hconfig hexpr)

end

end Conversion

open Conversion List

/-! ### Declarations -/

namespace Conversion

variable {settings larger : Settings} {name : String} {schema : Schema}
  {declarations later : List (String × Expr)}

/-- All names are declared at the end, each once. -/
theorem declareAll_complete (h : Gives [] (declareAll settings) (.ok ()) declarations) :
    Sound settings.registry declarations ∧
      ∀ name ∈ settings.registry.names, name ∈ declarations.map (·.1) := by
  obtain ⟨hresult, hdeclared⟩ := h {} rfl
  obtain ⟨hsound, -, hall⟩ := (declareAll_keeps settings (.nil : Sound settings.registry
    ({} : Progress).declarations)).ok (Prod.ext hresult rfl)
  rw [← hdeclared]
  exact ⟨hsound, hall⟩

theorem Sound.grows {registry grown : Registry} (h : Sound registry declarations)
    (hgrows : registry.Grows grown) : Sound grown declarations := by
  induction h with
  | nil => exact .nil
  | snoc _ hname hnew hnamed hlazy ih =>
    exact ih.snoc (hgrows.names_subset _ hname) hnew hnamed fun other hother =>
      hgrows.names_subset other (hlazy other hother)

/-- When a schema has been added after all others, the run that declares all names begins with that
which declared them before. -/
theorem declareAll_extends
    (hschemas : larger.registry.schemas = settings.registry.schemas ++ [(name, schema)])
    (hconfig : settings.config = larger.config)
    (hfirst : Gives [] (declareAll settings) (.ok ()) declarations)
    (hsecond : Gives [] (declareAll larger) (.ok ()) later) :
    ∃ added, later = declarations ++ added := by
  have hgrows : settings.registry.Grows larger.registry := ⟨_, hschemas⟩
  have hnames : larger.registry.names = settings.registry.names ++ [name] := by
    simp [Registry.names, hschemas]
  obtain ⟨hsound, -⟩ := declareAll_complete hfirst
  obtain ⟨hresult, rfl⟩ := hfirst {} rfl
  obtain ⟨hlater, rfl⟩ := hsecond {} rfl
  -- the larger registry repeats the run over the names it shares with the smaller one
  have hbefore : outcome (settings.registry.names.forM fun other =>
      discard (declare larger other {})) {} = (.ok (), (outcome (declareAll settings) {}).2) :=
    extends_forM (fun other => extends_bind (declare_grows hgrows hconfig other {}) fun _ =>
      extends_refl _) _ (Prod.ext hresult rfl)
  have hall : declareAll larger =
      (do
        settings.registry.names.forM fun other => discard (declare larger other {})
        [name].forM fun other => discard (declare larger other {})) := by
    rw [declareAll, hnames]
    exact forM_append
  -- what the new name adds comes after that
  have hkeeps : (declaring larger.registry []).Keeps
      ([name].forM fun other => discard (declare larger other {})) (fun _ _ => True)
      (outcome (declareAll settings) {}).2 := by
    apply Contract.keeps_bind (declare_keeps larger name (hsound.grows hgrows))
    intro _ reached hreached _ _
    exact Contract.keeps_pure hreached trivial
  rw [hall, outcome_bind, hbefore]
  obtain ⟨-, ⟨added, hadded, -⟩, -⟩ := hkeeps _ _ rfl
  exact ⟨added, hadded⟩

/-- When a schema has been added after all others, its name is declared after all others. -/
theorem declareAll_append
    (hschemas : larger.registry.schemas = settings.registry.schemas ++ [(name, schema)])
    (hlast : larger.registry.names.Nodup) (hconfig : settings.config = larger.config)
    (hfirst : Gives [] (declareAll settings) (.ok ()) declarations)
    (hsecond : Gives [] (declareAll larger) (.ok ()) later) :
    ∃ expr, later = declarations ++ [(name, expr)] := by
  have hnames : larger.registry.names = settings.registry.names ++ [name] := by
    simp [Registry.names, hschemas]
  obtain ⟨added, rfl⟩ := declareAll_extends hschemas hconfig hfirst hsecond
  obtain ⟨hsound, hdeclared⟩ := declareAll_complete hfirst
  obtain ⟨hlater, hall⟩ := declareAll_complete hsecond
  have hnodup := hlater.nodup
  rw [map_append, nodup_append] at hnodup
  -- nothing else is left to declare
  have hadded : ∀ entry ∈ added, entry.1 = name := by
    intro entry hentry
    have hknown := hlater.mem_names entry (mem_append_right _ hentry)
    rw [hnames, mem_append, mem_singleton] at hknown
    refine hknown.resolve_left fun hbefore => ?_
    exact hnodup.2.2 _ (hdeclared _ hbefore) _ (mem_map_of_mem hentry) rfl
  have hdistinct := hnodup.2.1
  rcases added with _ | ⟨⟨found, expr⟩, _ | ⟨second, rest⟩⟩
  · obtain ⟨entry, hentry, rfl⟩ := mem_map.mp (hall name (by simp [hnames]))
    have hold := hsound.mem_names entry (by simpa using hentry)
    have hnew := hnames ▸ hlast
    exact absurd rfl ((nodup_append.mp hnew).2.2 _ hold _ (mem_singleton_self _))
  · obtain rfl := hadded _ (mem_singleton_self _)
    exact ⟨expr, rfl⟩
  · have hfirst : found = name := hadded (found, expr) (by simp)
    have hsecond := hadded second (by simp)
    simp [hfirst, hsecond] at hdistinct

end Conversion

/-! ### Compiled documents -/

theorem Declaration.ordered_eq_ok {names order : List String} {declarations : List (String × Expr)}
    (h : ordered names declarations = .ok order) :
    ∃ graph, Graph.ofDeclarations? names declarations = some graph ∧ graph.order = .ok order := by
  unfold ordered at h
  split at h
  · cases h
  · rename_i graph hgraph
    exact ⟨graph, hgraph, h⟩

theorem Declaration.collect_append {declarations : List (String × Expr)} {order : List String}
    {name : String} {expr : Expr} (h : ((declarations ++ [(name, expr)]).map (·.1)).Nodup)
    (hall : ∀ other ∈ order, ∃ found, declarations.lookup other = some found) :
    collect (declarations ++ [(name, expr)]) (order ++ [name]) =
      collect declarations order ++ [{ name, identifier := Source.identifier name, expr }] := by
  have hname : (declarations ++ [(name, expr)]).lookup name = some expr := by
    rw [Named.lookup_iff_mem h]
    simp
  have hsame : collect (declarations ++ [(name, expr)]) order = collect declarations order := by
    refine filterMap_congr fun other hother => ?_
    obtain ⟨found, hfound⟩ := hall other hother
    rw [lookup_append, hfound]
    rfl
  have hlast : collect (declarations ++ [(name, expr)]) [name] =
      [{ name, identifier := Source.identifier name, expr }] := by
    simp [collect, hname]
  rw [← hsame, ← hlast, collect, collect, collect, filterMap_append]

section

variable {document appended : Document} {config : Config} {compiled larger : Compiled} {name : String}
  {schema : Schema} (hschemas : appended.schemas = document.schemas ++ [(name, schema)])

include hschemas

/-- A schema that is added after all others is declared after all others. -/
theorem compiled_declarations_append (hcompiled : document.compiled config = .ok compiled)
    (hlarger : appended.compiled config = .ok larger) :
    ∃ expr, larger.declarations =
      compiled.declarations ++ [{ name, identifier := Source.identifier name, expr }] := by
  have hnames : appended.registry.names = document.registry.names ++ [name] := by
    simp [Document.registry, Registry.names, hschemas]
  have hnodup : appended.registry.names.Nodup :=
    (compiled_names hlarger).nodup_iff.mp (compiled_names_nodup hlarger)
  have hconfig : (document.settings config).config = (appended.settings config).config := rfl
  obtain ⟨declarations, order, hdeclared, horder, hcollect, -⟩ := compiled_describes hcompiled
  obtain ⟨later, last, hlater, hlast, hcollectLater, -⟩ := compiled_describes hlarger
  obtain ⟨expr, rfl⟩ := declareAll_append hschemas hnodup hconfig hdeclared hlater
  obtain ⟨hsound, hall⟩ := declareAll_complete hdeclared
  obtain ⟨hsoundLater, -⟩ := declareAll_complete hlater
  have hlookup : ∀ other ∈ document.registry.names, ∃ found, declarations.lookup other = some found :=
    fun other hother => Named.exists_lookup_of_mem (hall other hother)
  obtain ⟨graph, hgraph, horder⟩ := Declaration.ordered_eq_ok horder
  obtain ⟨graphLater, hgraphLater, hlast⟩ := Declaration.ordered_eq_ok hlast
  -- nothing refers to the new name, so it is ordered after all others
  obtain rfl := Declaration.order_append hnames hnodup hsound hlookup hsoundLater hgraph horder
    hgraphLater hlast
  obtain ⟨-, hgraphNames, harranged, -⟩ := Declaration.arranged_of_sound
    (hnames ▸ hnodup).of_append_left hsound hlookup hgraph horder
  have hknown : ∀ other ∈ order, other ∈ document.registry.names :=
    fun other hother => (hgraphNames ▸ harranged.perm).mem_iff.mp hother
  refine ⟨expr, ?_⟩
  rw [hcollectLater, hcollect]
  exact Declaration.collect_append hsoundLater.nodup fun other hother =>
    hlookup other (hknown other hother)

/-- The endpoints do not see a schema that is added. -/
theorem compiled_endpoints_append (hoperations : appended.operations = document.operations)
    (hcompiled : document.compiled config = .ok compiled)
    (hlarger : appended.compiled config = .ok larger) : larger.endpoints = compiled.endpoints := by
  have hgrows : (document.settings config).registry.Grows (appended.settings config).registry :=
    ⟨_, hschemas⟩
  obtain ⟨-, -, -, -, -, hdescribed⟩ := compiled_describes hcompiled
  obtain ⟨-, -, -, -, -, hdescribedLater⟩ := compiled_describes hlarger
  have hsame := mapM_eq_ok_mono (fun _ _ => Endpoint.describe_mono fun _ _ _ hexpr =>
    structural_grows hgrows rfl hexpr) hdescribed
  rw [hoperations] at hdescribedLater
  exact Except.ok.inj (hdescribedLater.symm.trans hsame)

end

/-- When a schema is added after all others and both documents are compiled, the declarations are
those there were, in their order, and after them that of the new schema; the endpoints are the
same. -/
theorem appended_schema_local {document appended : Document} {config : Config}
    {compiled larger : Compiled} {name : String} {schema : Schema}
    (hschemas : appended.schemas = document.schemas ++ [(name, schema)])
    (hoperations : appended.operations = document.operations)
    (hcompiled : (document.compile config).result.1 = .ok compiled)
    (hlarger : (appended.compile config).result.1 = .ok larger) :
    (∃ expr, larger.declarations =
      compiled.declarations ++ [{ name, identifier := Source.identifier name, expr }]) ∧
      larger.endpoints = compiled.endpoints := by
  rw [compile_result] at hcompiled hlarger
  exact ⟨compiled_declarations_append hschemas hcompiled hlarger,
    compiled_endpoints_append hschemas hoperations hcompiled hlarger⟩

/-- A document with two schemas that refer to each other and an operation that is answered with one
of them, and with further schemas after the two. -/
def answeredDocument (further : List (String × Schema)) : Document :=
  { circularDocument with
    schemas := circularDocument.schemas ++ further
    operations :=
      [{ path := "/b", method := .get
         responses := [{ status := "200", mediaType := some "application/json"
                         schema := some { ref := some "#/components/schemas/B" } }] }] }

/-- The schema that is added refers to nothing, so it could be declared before the others. -/
theorem appended_schema_local_answeredDocument :
    ∃ compiled larger : Compiled,
      ((answeredDocument []).compile {}).result.1 = .ok compiled ∧
      ((answeredDocument [("C", { kind := .string })]).compile {}).result.1 = .ok larger ∧
      compiled.declarations.map (·.name) = ["B", "A"] ∧ compiled.endpoints.length = 1 ∧
      (∃ expr, larger.declarations =
        compiled.declarations ++ [{ name := "C", identifier := Source.identifier "C", expr }]) ∧
      larger.endpoints = compiled.endpoints := by
  have hresult : (do
      let compiled ← ((answeredDocument []).compile {}).result.1.toOption
      let larger ← ((answeredDocument [("C", { kind := .string })]).compile {}).result.1.toOption
      return (compiled.declarations.map (·.name), compiled.endpoints.length,
        larger.endpoints.length) : Option (List String × Nat × Nat)) = some (["B", "A"], 1, 1) := by
    decide +kernel
  obtain ⟨compiled, hcompiled, hresult⟩ := exists_ok_of_bind hresult
  obtain ⟨larger, hlarger, hresult⟩ := exists_ok_of_bind hresult
  obtain ⟨hnames, hcount⟩ := Prod.mk.inj (Option.some.inj hresult)
  have hschemas : (answeredDocument [("C", { kind := .string })]).schemas =
      (answeredDocument []).schemas ++ [("C", { kind := .string })] := rfl
  have hlocal := appended_schema_local hschemas rfl hcompiled hlarger
  exact ⟨compiled, larger, hcompiled, hlarger, hnames, (Prod.mk.inj hcount).1, hlocal⟩

end OpenApiClient
