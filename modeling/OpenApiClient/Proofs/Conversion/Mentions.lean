import OpenApiClient.Proofs.Conversion.Laws
import OpenApiClient.Proofs.Conversion.Parts

/-!
# The reference graph of the named schemas

A named schema mentions another one if a reference to it stands in it, at any depth. Whatever the
conversion of a named schema comes to, the references it meets lead on in this graph
(`leads_of_get?`). So the stack of a conversion is a path in the graph, and a reference that goes
back to a name on the stack closes a circle of it: `circular_laws` says that conversions make lazy
references in no other case.
-/

namespace OpenApiClient

open Relation (ReflTransGen TransGen)

/-- A named schema mentions another one if a reference to it stands in a fragment of the schema.
Fragments under `not`, which are never converted, do not count. -/
def Registry.Mentions (registry : Registry) (name other : String) : Prop :=
  ∃ schema, registry.get? name = some schema ∧ ∃ fragment ∈ schema.fragments,
    ∃ ref, fragment.ref = some ref ∧ registry.resolve ref = .ok other

/-- Two names lie on a common circle of the reference graph. -/
def Registry.Circular (registry : Registry) (name other : String) : Prop :=
  TransGen registry.Mentions name other ∧ TransGen registry.Mentions other name

namespace Conversion

variable {settings : Settings} {registry : Registry} {name : String} {schema : Schema}
  {context : Context}

/-- What the conversion of a named schema comes to is a fragment of a named schema that can be
reached from it. -/
theorem exists_holder (hget : registry.get? name = some schema) {other : Schema}
    (huses : ReflTransGen (Uses registry) schema other) :
    ∃ holder node, ReflTransGen registry.Mentions name holder ∧
      registry.get? holder = some node ∧ other ∈ node.fragments := by
  induction huses with
  | refl => exact ⟨name, schema, .refl, hget, Schema.self_mem_fragments schema⟩
  | tail _ huses ih =>
    obtain ⟨holder, node, hreach, hnode, hfragment⟩ := ih
    rcases huses with hchild | ⟨ref, target, href, hresolve, htarget⟩
    · exact ⟨holder, node, hreach, hnode, Schema.mem_fragments_of_mem_children hfragment hchild⟩
    · have hmentions : registry.Mentions holder target :=
        ⟨node, hnode, _, hfragment, ref, href, hresolve⟩
      exact ⟨target, _, hreach.tail hmentions, htarget, Schema.self_mem_fragments _⟩

/-- All references that the conversion of a schema can come to lead on from a name. -/
def Leads (registry : Registry) (name : String) (schema : Schema) : Prop :=
  EveryRef registry
    (fun ref => ∀ other, registry.resolve ref = .ok other → TransGen registry.Mentions name other)
    schema

theorem leads_of_get? (hget : registry.get? name = some schema) : Leads registry name schema := by
  intro last huses ref href other hresolve
  obtain ⟨holder, node, hreach, hnode, hfragment⟩ := exists_holder hget huses
  exact .tail' hreach ⟨node, hnode, last, hfragment, ref, href, hresolve⟩

/-! ### Lazy references -/

/-- The stack of a conversion is a way to its last name, from which the references lead on. -/
def OnPath (registry : Registry) (schema : Schema) (context : Context) : Prop :=
  ∃ top, context.stack.getLast? = some top ∧
    (∀ name ∈ context.stack, ReflTransGen registry.Mentions name top) ∧ Leads registry top schema

theorem OnPath.part (h : OnPath settings.registry schema context) {part : Schema × Context}
    (hpart : part ∈ (plan settings schema context).parts) :
    OnPath settings.registry part.1 part.2 := by
  obtain ⟨top, htop, hpath, hleads⟩ := h
  have hstack := stack_of_mem_plan_parts settings schema context hpart
  exact ⟨top, hstack ▸ htop, hstack ▸ hpath, hleads.of_mem_plan_parts hpart⟩

/-- A way can start at any registered name. -/
theorem onPath_push_nil (hget : registry.get? name = some schema) :
    OnPath registry schema (Context.push {} name) :=
  ⟨name, rfl, by simp [Context.push, ReflTransGen.refl], leads_of_get? hget⟩

theorem OnPath.enter {ref : String} {target : Schema} (h : OnPath registry schema context)
    (href : schema.ref = some ref) (hresolve : registry.resolve ref = .ok name)
    (hget : registry.get? name = some target) : OnPath registry target (context.push name) := by
  obtain ⟨top, -, hpath, hleads⟩ := h
  refine ⟨name, by simp [Context.push], fun other hother => ?_, leads_of_get? hget⟩
  rcases List.mem_append.mp hother with hother | hother
  · exact (hpath other hother).trans (hleads schema .refl ref href name hresolve).to_reflTransGen
  · rw [List.mem_singleton.mp hother]

/-- A reference back to a name on the stack closes a circle. -/
theorem OnPath.circular {ref top : String} (h : OnPath registry schema context)
    (htop : context.stack.getLast? = some top) (href : schema.ref = some ref)
    (hresolve : registry.resolve ref = .ok name) (hstack : name ∈ context.stack) :
    registry.Circular top name := by
  obtain ⟨last, hlast, hpath, hleads⟩ := h
  obtain rfl : last = top := Option.some.inj (hlast.symm.trans htop)
  have hforth := hleads schema .refl ref href name hresolve
  refine ⟨hforth, ?_⟩
  rcases Relation.reflTransGen_iff_eq_or_transGen.mp (hpath name hstack) with rfl | hback
  · exact hforth
  · exact hback

/-- The lazy references of an expression go back from the last name on the stack. -/
def GoesBack (registry : Registry) (context : Context) (expr : Expr) : Prop :=
  ∀ top, context.stack.getLast? = some top →
    ∀ other ∈ expr.references .lazy, registry.Circular top other

/-- Conversions along a path of the reference graph make lazy references only within circles. -/
theorem circular_laws (settings : Settings) :
    Laws settings
      (eachDeclared (fun name expr => ∀ other ∈ expr.references .lazy,
        settings.registry.Circular name other) fun _ => True)
      (fun _ schema context => OnPath settings.registry schema context)
      (fun _ _ context expr _ => GoesBack settings.registry context expr) where
  notes := eachDeclared_ignoresNotes
  stable _ hexpr := hexpr
  exhausted _ := trivial
  part hpath _ hpart := hpath.part hpart
  stop _ _ _ := trivial
  build {_ schema context exprs _} _ _ _ hexprs := by
    intro top htop other hother
    rw [references_finished] at hother
    obtain ⟨expr, hexpr, hname⟩ := references_plan_build hother
    obtain ⟨part, hpart, hgood⟩ := exists_of_forall₂ hexprs hexpr
    exact hgood top (by rwa [stack_of_mem_plan_parts settings schema context hpart]) other hname
  unresolved _ _ _ := trivial
  unregistered _ _ _ := trivial
  unknown _ _ _ _ _ := by
    intro top _ other hother
    simp at hother
  lazy hpath href hresolve hstack _ := by
    intro top htop other hother
    rw [references_finished, Expr.mem_references_lazyRef] at hother
    obtain ⟨-, rfl⟩ := hother
    exact hpath.circular htop href hresolve hstack
  enter hpath href hresolve _ hget := hpath.enter href hresolve hget
  named _ _ _ _ _ _ := by
    intro top _ other hother
    rw [references_finished, Expr.mem_references_namedRef] at hother
    cases hother.1
  declare _ _ hinv hexpr := eachDeclared_add hinv (hexpr _ (by simp [Context.push]))

end Conversion

end OpenApiClient
