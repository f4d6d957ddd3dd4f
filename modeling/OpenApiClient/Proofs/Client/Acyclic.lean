import OpenApiClient.Proofs.Client.Operations
import OpenApiClient.Proofs.Conversion.Acyclic

/-!
# Documents without circles

Compiling a document declares the targets of references on its way, keeps what it has declared, and
carries a stack of names along. If no schema of the document refers to itself, all this makes no
difference: `acyclic_structural` says that the document is compiled exactly if all its schemas can
be translated on their own, and that every name is then declared as the translation of its schema.
As translations do not depend on the order of the names, neither do the expressions of the names nor
the endpoints.
-/

namespace OpenApiClient

open Conversion List

section Acyclic

variable {document : Document} {config : Config} {compiled : Compiled}
  (hacyclic : document.registry.Acyclic)

include hacyclic

/-! ### Declarations -/

/-- Every name is declared as the translation of its schema. -/
theorem exists_declared_structural (h : document.compiled config = .ok compiled) {name : String}
    {node : Schema} (hget : document.registry.get? name = some node) :
    ∃ declared, compiled.declaration? name = some declared ∧
      structural (document.settings config) node false = .ok declared.expr := by
  have hall := compiled_each (structural_laws hacyclic)
    (fun _ _ hget => Fits.start hacyclic hget) h
  have hname : name ∈ compiled.declarations.map (·.name) :=
    (compiled_names h).mem_iff.mpr (Registry.mem_names_of_get? hget)
  obtain ⟨declared, hdeclared, rfl⟩ := mem_map.mp hname
  exact ⟨declared, (compiled_declaration? h).mpr ⟨hdeclared, rfl⟩,
    hall declared hdeclared node hget⟩

/-- The expression of a name, whether or not it is registered. -/
theorem declaration?_eq (h : document.compiled config = .ok compiled) (name : String) :
    (compiled.declaration? name).map (·.expr) =
      (document.registry.get? name).bind fun node =>
        (structural (document.settings config) node false).toOption := by
  cases hget : document.registry.get? name with
  | some node =>
    obtain ⟨declared, hdeclared, hstructural⟩ := exists_declared_structural hacyclic h hget
    rw [hdeclared, Option.bind_some, hstructural]
    rfl
  | none =>
    cases hdeclared : compiled.declaration? name with
    | none => rfl
    | some declared =>
      obtain ⟨hmem, rfl⟩ := (compiled_declaration? h).mp hdeclared
      have hname := (compiled_names h).mem_iff.mp (mem_map_of_mem hmem)
      obtain ⟨node, hnode⟩ := Registry.exists_get?_of_mem_names hname
      rw [hget] at hnode
      cases hnode

/-- There are no lazy references. -/
theorem kind_ne_lazyRef (h : document.compiled config = .ok compiled) :
    ∀ expr ∈ compiled.exprs, ∀ part, Expr.Part part expr → part.kind ≠ .lazyRef := by
  intro expr hexpr part hpart hkind
  rcases mem_append.mp hexpr with hdeclared | hbound
  · obtain ⟨declared, hmem, rfl⟩ := mem_map.mp hdeclared
    have hname := (compiled_names h).mem_iff.mp (mem_map_of_mem hmem)
    obtain ⟨node, hget⟩ := Registry.exists_get?_of_mem_names hname
    obtain ⟨found, hfound, hstructural⟩ := exists_declared_structural hacyclic h hget
    rw [(compiled_declaration? h).mpr ⟨hmem, rfl⟩, Option.some.injEq] at hfound
    subst hfound
    obtain ⟨name, href⟩ := compiled_targeted h _ hexpr part hpart (.inr hkind)
    exact structuralAt_lazy hstructural (Expr.mem_references_of_part .lazy hpart hkind href)
  · obtain ⟨endpoint, hendpoint, hexpr⟩ := mem_flatMap.mp hbound
    exact (endpoint_references h endpoint hendpoint expr hexpr part hpart).1 hkind

/-! ### When a document is compiled -/

theorem declareAll_fault {failure : Failure} {reached : Progress}
    (h : outcome (declareAll (document.settings config)) { warnings := document.warnings } =
      (.error failure, reached)) :
    failure ≠ .unexpected .endless ∧ ¬ Translatable (document.settings config) :=
  (((structural_laws hacyclic).noted.declareAll_keeps (fun _ _ hget => Fits.start hacyclic hget)
    (by simp [eachDeclared])).error h).2.2

/-- Compiling ends. -/
theorem compiled_ends : document.compiled config ≠ .error (.unexpected .endless) := by
  intro h
  rcases stage_of_error h with ⟨error, -, herror⟩ | ⟨reached, houtcome⟩ | ⟨stages, reached, houtcome⟩
  · cases herror
  · exact (declareAll_fault hacyclic houtcome).1 rfl
  · have hdescribed := stages.bindAll_describes
    rw [houtcome] at hdescribed
    obtain ⟨operation, -, hoperation⟩ := exists_of_mapM_error hdescribed.symm
    rcases Endpoint.describe_error hoperation with ⟨node, optional, hnode⟩ | hselected
    · exact structural_ends hacyclic node optional hnode
    · cases Endpoint.selectResponses_error hselected

/-- A document is compiled exactly if its schemas can be registered and translated, each on its own,
and its operations have descriptions. -/
theorem exists_compiled_iff :
    (∃ compiled, document.compiled config = .ok compiled) ↔
      (∃ registry, Registry.ofSchemas document.schemas = .ok registry) ∧
      Translatable (document.settings config) ∧
      ∀ operation ∈ Endpoint.bound config document.operations,
        ∃ endpoint, Endpoint.describe (document.settings config) operation = .ok endpoint := by
  constructor
  · rintro ⟨compiled, h⟩
    obtain ⟨stages, -⟩ := stages_of_compiled h
    obtain ⟨-, -, -, -, -, hdescribed⟩ := compiled_describes h
    refine ⟨⟨stages.registry, stages.registered⟩, fun name node hget => ?_,
      fun operation hoperation => ?_⟩
    · obtain ⟨declared, -, hstructural⟩ := exists_declared_structural hacyclic h hget
      exact ⟨declared.expr, hstructural⟩
    · obtain ⟨endpoint, -, hendpoint⟩ :=
        exists_of_forall₂ (mapM_eq_ok_iff.mp hdescribed).flip hoperation
      exact ⟨endpoint, hendpoint⟩
  · rintro ⟨⟨registry, hregistry⟩, htranslatable, hdescribed⟩
    cases hcompiled : document.compiled config with
    | ok compiled => exact ⟨compiled, rfl⟩
    | error failure =>
      -- each stage that could have failed goes well
      exfalso
      rcases stage_of_error hcompiled with ⟨error, herror, -⟩ | ⟨reached, houtcome⟩ |
        ⟨stages, reached, houtcome⟩
      · rw [hregistry] at herror
        cases herror
      · exact (declareAll_fault hacyclic houtcome).2 htranslatable
      · have hfailed := stages.bindAll_describes
        rw [houtcome] at hfailed
        obtain ⟨operation, hoperation, herror⟩ := exists_of_mapM_error hfailed.symm
        obtain ⟨endpoint, hendpoint⟩ := hdescribed operation hoperation
        rw [hendpoint] at herror
        cases herror

/-! ### The order of the names -/

/-- A document with the same schemas in another order has the same expressions and endpoints. -/
theorem compiled_perm {other : Document} (hschemas : other.schemas.Perm document.schemas)
    (hoperations : other.operations = document.operations)
    (h : document.compiled config = .ok compiled) :
    ∃ again, other.compiled config = .ok again ∧ again.endpoints = compiled.endpoints ∧
      ∀ name, (again.declaration? name).map (·.expr) = (compiled.declaration? name).map (·.expr) := by
  obtain ⟨hregistry, htranslatable, hdescribed⟩ := (exists_compiled_iff hacyclic).mp ⟨compiled, h⟩
  obtain ⟨stages, -⟩ := stages_of_compiled h
  have halike : document.registry.Alike other.registry :=
    Registry.alike_of_perm hschemas.symm (stages.registry_eq ▸ stages.names_nodup)
  have hstructural : structural (document.settings config) = structural (other.settings config) :=
    structural_alike halike rfl
  have hdescribe := Endpoint.describe_congr hstructural
  have hother := halike.acyclic hacyclic
  -- what decides whether a document is compiled does not depend on the order
  have hfilled : ∃ registry, Registry.ofSchemas other.schemas = .ok registry := by
    rw [Registry.exists_ofSchemas_iff] at hregistry ⊢
    exact (hschemas.map _).nodup_iff.mpr hregistry
  have hall : Translatable (other.settings config) := by
    intro name node hget
    rw [← hstructural]
    exact htranslatable name node ((halike.get? name).trans hget)
  obtain ⟨again, hagain⟩ := (exists_compiled_iff hother).mpr
    ⟨hfilled, hall, by rwa [hoperations, ← hdescribe]⟩
  refine ⟨again, hagain, ?_, fun name => ?_⟩
  · obtain ⟨-, -, -, -, -, hfirst⟩ := compiled_describes h
    obtain ⟨-, -, -, -, -, hsecond⟩ := compiled_describes hagain
    rw [hoperations, ← hdescribe, hfirst] at hsecond
    exact (Except.ok.inj hsecond).symm
  · rw [declaration?_eq hother hagain, declaration?_eq hacyclic h, ← hstructural, ← halike.get?]

end Acyclic

/-- If no schema of a document refers to itself, compiling it ends. It is compiled exactly if its
schemas can be registered and translated, each on its own, and its operations have descriptions; no
translation is endless. A compiled document has no lazy references, every name is declared as the
translation of its schema on its own, and if the schemas stand in another order, neither the
expression of any name nor the endpoints change. -/
theorem acyclic_structural (document : Document) (config : Config)
    (hacyclic : document.registry.Acyclic) :
    (document.compile config).result.1 ≠ .error (.unexpected .endless) ∧
    (∀ node optional, structural (document.settings config) node optional ≠
      .error (.unexpected .endless)) ∧
    ((∃ compiled, (document.compile config).result.1 = .ok compiled) ↔
      (∃ registry, Registry.ofSchemas document.schemas = .ok registry) ∧
      (∀ name node, document.registry.get? name = some node →
        ∃ expr, structural (document.settings config) node false = .ok expr) ∧
      ∀ operation ∈ Endpoint.bound config document.operations,
        ∃ endpoint, Endpoint.describe (document.settings config) operation = .ok endpoint) ∧
    ∀ compiled : Compiled, (document.compile config).result.1 = .ok compiled →
      (∀ expr ∈ compiled.exprs, ∀ part, Expr.Part part expr → part.kind ≠ .lazyRef) ∧
      (∀ name node, document.registry.get? name = some node →
        ∃ declared, compiled.declaration? name = some declared ∧
          structural (document.settings config) node false = .ok declared.expr) ∧
      ∀ other : Document, other.schemas.Perm document.schemas →
        other.operations = document.operations →
        ∃ again : Compiled, (other.compile config).result.1 = .ok again ∧
          again.endpoints = compiled.endpoints ∧
          ∀ name, (again.declaration? name).map (·.expr) =
            (compiled.declaration? name).map (·.expr) := by
  simp only [compile_result]
  refine ⟨compiled_ends hacyclic, structural_ends hacyclic, exists_compiled_iff hacyclic,
    fun compiled h => ⟨kind_ne_lazyRef hacyclic h, ?_, fun other hschemas hoperations => ?_⟩⟩
  · exact fun name node hget => exists_declared_structural hacyclic h hget
  · exact compiled_perm hacyclic hschemas hoperations h

/-- A document with three schemas: the first has a property that refers to the second, which adds a
property to the third. -/
def layeredDocument : Document where
  info := { title := "", version := "" }
  version := "3.0.0"
  schemas :=
    [("A", { kind := .object, properties := [("b", { ref := some "#/components/schemas/B" })] }),
     ("B", { allOf := some [{ ref := some "#/components/schemas/C" },
        { kind := .object, properties := [("y", { kind := .string })] }] }),
     ("C", { kind := .object, properties := [("x", { kind := .integer })] })]
  operations :=
    [{ path := "/a", method := .get
       responses := [{ status := "200", mediaType := some "application/json"
                       schema := some { ref := some "#/components/schemas/A" } }] }]

theorem acyclic_structural_layeredDocument :
    layeredDocument.registry.Acyclic ∧
    ∃ compiled : Compiled, (layeredDocument.compile {}).result.1 = .ok compiled ∧
      (∀ expr ∈ compiled.exprs, ∀ part, Expr.Part part expr → part.kind ≠ .lazyRef) ∧
      (∀ name node, layeredDocument.registry.get? name = some node →
        ∃ declared, compiled.declaration? name = some declared ∧
          structural (layeredDocument.settings {}) node false = .ok declared.expr) ∧
      ∃ again : Compiled,
        ({ layeredDocument with schemas := layeredDocument.schemas.reverse }.compile {}).result.1 =
          .ok again ∧
        again.endpoints = compiled.endpoints ∧
        ∀ name, (again.declaration? name).map (·.expr) =
          (compiled.declaration? name).map (·.expr) := by
  have hacyclic : layeredDocument.registry.Acyclic :=
    Registry.acyclic_of_rank (["C", "B", "A"].idxOf ·) (by decide +kernel)
  have hok : (layeredDocument.compile {}).result.1.isOk = true := by decide +kernel
  obtain ⟨compiled, hcompiled⟩ := exists_eq_ok hok
  obtain ⟨-, -, -, hall⟩ := acyclic_structural layeredDocument {} hacyclic
  obtain ⟨hlazy, hdeclared, hperm⟩ := hall compiled hcompiled
  exact ⟨hacyclic, compiled, hcompiled, hlazy, hdeclared,
    hperm { layeredDocument with schemas := layeredDocument.schemas.reverse }
      (reverse_perm _) rfl⟩

end OpenApiClient
