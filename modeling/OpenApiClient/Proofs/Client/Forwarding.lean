import OpenApiClient.Proofs.Client.Compile
import OpenApiClient.Proofs.Conversion.Forwarding

/-!
# Following references from declaration to declaration

A declaration may be nothing but a reference to another one. Whoever follows such references should
come to a declaration that says something, and mostly does: a circle of names that only refer to
each other is cut where it closes.

But a circle is recognised only if the schemas on it are all references. If one of them is an
`allOf` with a single member, the circle is closed with a lazy reference instead, and the names on
it are declared as nothing but each other. `ends_iff_not_trapped` says that this is the only
exception: following references from a name comes to an end exactly if the name does not lead into
such a circle.
-/

namespace OpenApiClient

open List

open Relation (ReflTransGen TransGen)

/-- A name leads into a circle of names that stand for each other, not all of which are bare
references. -/
def Registry.Trapped (registry : Registry) (name : String) : Prop :=
  ∃ other, registry.Reaches name other ∧ TransGen registry.Aliases other other ∧
    ∃ last, registry.Reaches other last ∧ ¬ registry.IsBare last

namespace Registry

variable {registry : Registry} {name other : String}

theorem Trapped.of_aliases (h : registry.Trapped other) (halias : registry.Aliases name other) :
    registry.Trapped name := by
  obtain ⟨circle, hreaches, hcircle⟩ := h
  exact ⟨circle, .head halias hreaches, hcircle⟩

/-- A trapped name stands for another trapped one, from which a name that is not bare is reached. -/
theorem Trapped.next (h : registry.Trapped name) :
    ∃ other, registry.Aliases name other ∧ registry.Trapped other ∧
      ∃ last, registry.Reaches other last ∧ ¬ registry.IsBare last := by
  obtain ⟨circle, hreaches, hcircle, last, hlast, hnot⟩ := h
  obtain ⟨next, hnext, hrest⟩ : ∃ next, registry.Aliases name next ∧ registry.Reaches next circle := by
    rcases ReflTransGen.cases_head hreaches with rfl | hnext
    · exact TransGen.head'_iff.mp hcircle
    · exact hnext
  exact ⟨next, hnext, ⟨circle, hrest, hcircle, last, hlast, hnot⟩, last, hrest.trans hlast, hnot⟩

end Registry

namespace Compiled

/-- The declaration of a name is nothing but a reference to another one. -/
def Forwards (compiled : Compiled) (name other : String) : Prop :=
  ∃ declared, compiled.declaration? name = some declared ∧ declared.expr.IsReference ∧
    declared.expr.ref = some other

/-- Following references from the declaration of a name comes to one that is no reference. -/
def Ends (compiled : Compiled) (name : String) : Prop :=
  ∃ last declared, ReflTransGen compiled.Forwards name last ∧
    compiled.declaration? last = some declared ∧ ¬ declared.expr.IsReference

theorem Ends.of_forwards {compiled : Compiled} {name other : String} (h : compiled.Ends other)
    (hforwards : compiled.Forwards name other) : compiled.Ends name := by
  obtain ⟨last, declared, hreaches, hend⟩ := h
  exact ⟨last, declared, .head hforwards hreaches, hend⟩

end Compiled

section Forwarding

variable {document : Document} {config : Config} {compiled : Compiled}

/-- The declaration of every registered name follows what its schema stands for. -/
theorem exists_follows (h : document.compiled config = .ok compiled) {name : String}
    (hname : name ∈ document.registry.names) :
    ∃ schema declared, document.registry.get? name = some schema ∧
      compiled.declaration? name = some declared ∧
      Conversion.Follows document.registry name schema declared.expr := by
  obtain ⟨schema, hget⟩ := Registry.exists_get?_of_mem_names hname
  obtain ⟨declared, hdeclared, rfl⟩ := mem_map.mp ((compiled_names h).mem_iff.mpr hname)
  have hfollows := compiled_each (Conversion.forwarding_laws (document.settings config))
    (fun name _ hget => ⟨name, .start hget⟩) h declared hdeclared
  exact ⟨schema, declared, hget, (compiled_declaration? h).mpr ⟨hdeclared, rfl⟩, hfollows schema hget⟩

theorem mem_names_of_aliases {registry : Registry} {name other : String}
    (h : registry.Aliases name other) : name ∈ registry.names ∧ other ∈ registry.names := by
  obtain ⟨schema, hget, ref, -, hresolve⟩ := h
  exact ⟨Registry.mem_names_of_get? hget, Registry.mem_names_of_resolve hresolve⟩

section

variable (h : document.compiled config = .ok compiled)

include h

theorem follows_of_declaration {name : String} {declared : Declared}
    (hdeclared : compiled.declaration? name = some declared) :
    ∃ schema, document.registry.get? name = some schema ∧
      Conversion.Follows document.registry name schema declared.expr := by
  obtain ⟨hmem, rfl⟩ := (compiled_declaration? h).mp hdeclared
  have hname := (compiled_names h).mem_iff.mp (mem_map_of_mem hmem)
  obtain ⟨schema, found, hget, hfound, hfollows⟩ := exists_follows h hname
  obtain rfl := Option.some.inj (hdeclared.symm.trans hfound)
  exact ⟨schema, hget, hfollows⟩

/-- The declaration of a name refers to the name it stands for, or is no reference. -/
theorem forwards_or_ends {name other : String} (halias : document.registry.Aliases name other) :
    compiled.Forwards name other ∨ compiled.Ends name := by
  obtain ⟨schema, declared, hget, hdeclared, hfollows⟩ :=
    exists_follows h (mem_names_of_aliases halias).1
  by_cases hreference : declared.expr.IsReference
  · obtain ⟨target, href, hforwards⟩ := hfollows.forwards hreference
    obtain rfl := hforwards.unique ((Registry.aliases_iff hget).mp halias)
    exact .inl ⟨declared, hdeclared, hreference, href⟩
  · exact .inr ⟨name, declared, .refl, hdeclared, hreference⟩

theorem aliases_of_forwards {name other : String} (hforwards : compiled.Forwards name other) :
    document.registry.Aliases name other := by
  obtain ⟨declared, hdeclared, hreference, href⟩ := hforwards
  obtain ⟨schema, hget, hfollows⟩ := follows_of_declaration h hdeclared
  obtain ⟨target, htarget, hschema⟩ := hfollows.forwards hreference
  obtain rfl := Option.some.inj (href.symm.trans htarget)
  exact (Registry.aliases_iff hget).mpr hschema

/-- A name from which one that stands for nothing is reached comes to an end. -/
theorem ends_of_stops {name last : String} (hreaches : document.registry.Reaches name last)
    (hlast : last ∈ document.registry.names)
    (hstops : ∀ other, ¬ document.registry.Aliases last other) : compiled.Ends name := by
  induction hreaches using ReflTransGen.head_induction_on with
  | refl =>
    obtain ⟨schema, declared, hget, hdeclared, hfollows⟩ := exists_follows h hlast
    refine ⟨last, declared, .refl, hdeclared, fun hreference => ?_⟩
    obtain ⟨target, -, hforwards⟩ := hfollows.forwards hreference
    exact hstops target ((Registry.aliases_iff hget).mpr hforwards)
  | head halias _ ih =>
    rcases forwards_or_ends h halias with hforwards | hends
    · exact ih.of_forwards hforwards
    · exact hends

theorem not_trapped_of_ends {name : String} (hends : compiled.Ends name) :
    ¬ document.registry.Trapped name := by
  obtain ⟨last, declared, hreaches, hdeclared, hnot⟩ := hends
  induction hreaches using ReflTransGen.head_induction_on with
  | refl =>
    intro htrapped
    obtain ⟨other, halias, -, final, hfinal, hbare⟩ := htrapped.next
    obtain ⟨schema, hget, hfollows⟩ := follows_of_declaration h hdeclared
    exact hbare (hfollows.bare hnot other ((Registry.aliases_iff hget).mp halias) final hfinal)
  | head hforwards _ ih =>
    intro htrapped
    obtain ⟨other, halias, hother, -⟩ := htrapped.next
    obtain rfl := (aliases_of_forwards h hforwards).unique halias
    exact ih hother

/-- If all direct references of a declaration come to an end unless they are trapped, so does the
declaration. -/
theorem ends_step {name : String} {declared : Declared}
    (hdeclared : compiled.declaration? name = some declared)
    (hnamed : ∀ other ∈ declared.expr.references .named,
      ¬ document.registry.Trapped other → compiled.Ends other)
    (hfree : ¬ document.registry.Trapped name) : compiled.Ends name := by
  by_cases hreference : declared.expr.IsReference
  swap
  · exact ⟨name, declared, .refl, hdeclared, hreference⟩
  obtain ⟨schema, hget, hfollows⟩ := follows_of_declaration h hdeclared
  obtain ⟨other, href, hforwards⟩ := hfollows.forwards hreference
  have halias := (Registry.aliases_iff hget).mpr hforwards
  suffices compiled.Ends other from this.of_forwards ⟨declared, hdeclared, hreference, href⟩
  rcases hreference with hkind | hkind
  · refine hnamed other (Expr.mem_references.mpr (.inl ⟨hkind, href⟩)) fun htrapped => ?_
    exact hfree (htrapped.of_aliases halias)
  · rcases hfollows.lazy hkind other href with ⟨hback, last, hlast, hbare⟩ | ⟨last, hlast, hstops⟩
    · -- the reference closes a circle that is not bare
      exact absurd ⟨_, .refl, .head' halias hback, last, .head halias hlast, hbare⟩ hfree
    · refine ends_of_stops h hlast ?_ hstops
      rcases ReflTransGen.cases_tail hlast with rfl | ⟨before, -, hstep⟩
      · exact (mem_names_of_aliases halias).2
      · exact (mem_names_of_aliases hstep).2

end

end Forwarding

/-- Following references from a declaration of a compiled document comes to a declaration that is no
reference, exactly if the name does not lead into a circle of schemas that stand for each other and
one of which is not a bare reference but an `allOf` with a single member. -/
theorem ends_iff_not_trapped (document : Document) (config : Config) (compiled : Compiled)
    (h : (document.compile config).result.1 = .ok compiled) :
    ∀ declared ∈ compiled.declarations,
      compiled.Ends declared.name ↔ ¬ document.registry.Trapped declared.name := by
  rw [compile_result] at h
  obtain ⟨declarations, hsound, hentries⟩ := compiled_declarations h
  intro declared hdeclared
  refine ⟨not_trapped_of_ends h, ?_⟩
  -- the induction is on the order in which the names were declared
  refine hsound.namedInduction
    (fun name => ¬ document.registry.Trapped name → compiled.Ends name) ?_
    (declared.name, declared.expr) ((hentries _ _).mpr ⟨declared, hdeclared, rfl, rfl⟩)
  rintro ⟨name, expr⟩ hentry hnamed
  obtain ⟨found, hfound, rfl, rfl⟩ := (hentries name expr).mp hentry
  exact ends_step h ((compiled_declaration? h).mpr ⟨hfound, rfl⟩) hnamed

/-- A document with two schemas that are references to each other, and one that is an `allOf` with
itself as its only member. -/
def aliasDocument : Document where
  info := { title := "", version := "" }
  version := "3.0.0"
  schemas :=
    [("A", { ref := some "#/components/schemas/B" }),
     ("B", { ref := some "#/components/schemas/A" }),
     ("C", { allOf := some [{ ref := some "#/components/schemas/C" }] })]

theorem resolve_aliasDocument :
    aliasDocument.registry.resolve "#/components/schemas/A" = .ok "A" ∧
      aliasDocument.registry.resolve "#/components/schemas/B" = .ok "B" ∧
      aliasDocument.registry.resolve "#/components/schemas/C" = .ok "C" := by
  have hall : ["A", "B", "C"].map (fun name =>
      (aliasDocument.registry.resolve ("#/components/schemas/" ++ name)).toOption) =
        [some "A", some "B", some "C"] := by decide +kernel
  simp only [map_cons, map_nil, List.cons.injEq, and_true] at hall
  exact ⟨eq_ok_of_toOption hall.1, eq_ok_of_toOption hall.2.1, eq_ok_of_toOption hall.2.2⟩

/-- From the bare names only bare names are reached. -/
theorem not_trapped_aliasDocument : ¬ aliasDocument.registry.Trapped "A" := by
  obtain ⟨hresolveA, hresolveB, -⟩ := resolve_aliasDocument
  have hstep : ∀ name other, (name = "A" ∨ name = "B") →
      aliasDocument.registry.Aliases name other → other = "A" ∨ other = "B" := by
    rintro name other (rfl | rfl) ⟨schema, ⟨⟩, ref, hstands, hresolve⟩
    · rw [(Schema.standsFor_of_ref rfl).mp hstands, hresolveB] at hresolve
      exact .inr (Except.ok.inj hresolve).symm
    · rw [(Schema.standsFor_of_ref rfl).mp hstands, hresolveA] at hresolve
      exact .inl (Except.ok.inj hresolve).symm
  have hreaches : ∀ last, aliasDocument.registry.Reaches "A" last → last = "A" ∨ last = "B" := by
    intro last h
    induction h with
    | refl => exact .inl rfl
    | tail _ halias ih => exact hstep _ _ ih halias
  rintro ⟨other, hother, -, last, hlast, hbare⟩
  refine hbare ?_
  rcases hreaches last (hother.trans hlast) with rfl | rfl
  · exact ⟨_, rfl, rfl⟩
  · exact ⟨_, rfl, rfl⟩

theorem trapped_aliasDocument : aliasDocument.registry.Trapped "C" := by
  have halias : aliasDocument.registry.Aliases "C" "C" :=
    ⟨_, rfl, _, .single rfl rfl rfl (.ref rfl), resolve_aliasDocument.2.2⟩
  refine ⟨"C", .refl, .single halias, "C", .refl, ?_⟩
  rintro ⟨schema, ⟨⟩, href⟩
  cases href

/-- The names of a bare circle come to an end, and the `allOf` of itself does not. -/
theorem ends_iff_not_trapped_aliasDocument :
    ∃ compiled : Compiled, (aliasDocument.compile {}).result.1 = .ok compiled ∧
      compiled.Ends "A" ∧ ¬ compiled.Ends "C" := by
  have hok : (do
      let compiled ← (aliasDocument.compile {}).result.1.toOption
      return compiled.declarations.map (·.name) : Option (List String)) = some ["B", "A", "C"] := by
    decide +kernel
  obtain ⟨compiled, hcompiled, hnames⟩ := exists_ok_of_bind hok
  have hnames : compiled.declarations.map (·.name) = ["B", "A", "C"] := Option.some.inj hnames
  have hiff := ends_iff_not_trapped aliasDocument {} compiled hcompiled
  refine ⟨compiled, hcompiled, ?_, ?_⟩
  · obtain ⟨declared, hdeclared, hname⟩ : ∃ declared ∈ compiled.declarations, declared.name = "A" :=
      mem_map.mp (hnames ▸ by simp)
    exact hname ▸ (hiff declared hdeclared).mpr (hname ▸ not_trapped_aliasDocument)
  · obtain ⟨declared, hdeclared, hname⟩ : ∃ declared ∈ compiled.declarations, declared.name = "C" :=
      mem_map.mp (hnames ▸ by simp)
    exact fun hends => (hiff declared hdeclared).mp (hname ▸ hends) (hname ▸ trapped_aliasDocument)

end OpenApiClient
