import OpenApiClient.Proofs.Client.Declarations
import OpenApiClient.Proofs.Conversion.Mentions
import OpenApiClient.Proofs.Conversion.WellFormed

/-!
# A compiled document is well-formed

All expressions of a compiled document, those of the declarations as well as those of the
parameters, responses and errors of the endpoints, are well-formed in all their parts
(`compile_wellFormed`). Nothing is asked of the document but that its schemas have been read, as
opposed to made up: a schema with an empty `oneOf`, say, would become a union without members. A
lazy reference is only made where two names lie on a circle of references (`lazyRef_circular`).
-/

namespace OpenApiClient

/-! ### Lazy references break circles, and nothing else -/

open List

/-- Whenever a declaration of a compiled document has a lazy reference, at any depth, its name and
the name referred to can each be reached from the other through references between the schemas of
the document. -/
theorem lazyRef_circular (document : Document) (config : Config) (compiled : Compiled)
    (h : (document.compile config).result.1 = .ok compiled) :
    ∀ declared ∈ compiled.declarations, ∀ part, Expr.Part part declared.expr →
      part.kind = .lazyRef →
        ∃ other, part.ref = some other ∧ document.registry.Circular declared.name other := by
  rw [compile_result] at h
  intro declared hdeclared part hpart hkind
  have hcircular := compiled_each (Conversion.circular_laws (document.settings config))
    (fun _ _ hget => Conversion.onPath_push_nil hget) h declared hdeclared
  have hexpr : declared.expr ∈ compiled.exprs :=
    mem_append_left _ (mem_map_of_mem hdeclared)
  obtain ⟨other, href⟩ := compiled_targeted h declared.expr hexpr part hpart (.inr hkind)
  exact ⟨other, href, hcircular other (Expr.mem_references_of_part .lazy hpart hkind href)⟩

/-- One member of the `allOf` of `B` goes back to `A`, whose property leads to `B`. -/
theorem lazyRef_circular_circularDocument :
    ∃ compiled : Compiled, (circularDocument.compile {}).result.1 = .ok compiled ∧
      ∃ declared ∈ compiled.declarations, declared.name = "B" ∧
        ∃ part, Expr.Part part declared.expr ∧ part.kind = .lazyRef ∧ part.ref = some "A" ∧
          circularDocument.registry.Circular "B" "A" := by
  have hall : (do
      let compiled ← (circularDocument.compile {}).result.1.toOption
      let declared ← compiled.declaration? "B"
      let member ← declared.expr.members.find? (·.kind = .lazyRef)
      member.ref : Option String) = some "A" := by decide +kernel
  obtain ⟨compiled, hcompiled, hrest⟩ := exists_ok_of_bind hall
  obtain ⟨declared, hdeclared, hrest⟩ := Option.bind_eq_some_iff.mp hrest
  obtain ⟨member, hmember, href⟩ := Option.bind_eq_some_iff.mp hrest
  have hmem := mem_of_find?_eq_some hdeclared
  have hname : declared.name = "B" := by simpa using find?_some hdeclared
  have hkind : member.kind = .lazyRef := by simpa using find?_some hmember
  have hpart : Expr.Part member declared.expr := by
    refine .child ?_ .self
    simp [Expr.children, mem_of_find?_eq_some hmember]
  obtain ⟨other, hother, hcircular⟩ :=
    lazyRef_circular circularDocument {} compiled hcompiled declared hmem member hpart hkind
  rw [href, Option.some.injEq] at hother
  exact ⟨compiled, hcompiled, declared, hmem, hname, member, hpart, hkind, href,
    hother ▸ hname ▸ hcircular⟩

/-! ### Well-formed expressions of a compiled document -/

open Conversion (Settings Progress Context convertAt)

/-- A schema that was read out of a value. -/
def Schema.IsRead (schema : Schema) : Prop :=
  ∃ raw location, (Schema.ofValue raw location).value = schema

theorem Schema.IsRead.wellFormed {schema : Schema} (h : schema.IsRead) :
    schema.Every (Schema.WellFormed fun _ => True) := by
  obtain ⟨raw, location, hschema⟩ := h
  exact Schema.ReadFrom.wellFormed Value.hereditary_true ⟨raw, location, trivial, hschema⟩

/-- If the schemas of a document have been read, every part of every expression it is compiled to is
well-formed, with no modifier twice and nullable as the last one. A nullable schema is always
converted to a nullable expression. -/
theorem compile_wellFormed (document : Document) (config : Config) (compiled : Compiled)
    (hread : ∀ schema ∈ document.allSchemas, schema.IsRead)
    (hcompiled : (document.compile config).result.1 = .ok compiled) :
    (∀ expr ∈ compiled.exprs, ∀ part, Expr.Part part expr →
      part.WellFormed ∧ (part.modifiers.map (·.kind)).Nodup ∧
        (part.hasModifier .nullable →
          part.modifiers.getLast?.map (·.kind) = some .nullable)) ∧
    ∀ (settings : Settings) (depth : Nat) (schema : Schema) (context : Context)
      (progress reached : Progress) (expr : Expr), schema.nullable = true →
      outcome (convertAt settings depth schema context) progress = (.ok expr, reached) →
      expr.hasModifier .nullable := by
  rw [compile_result] at hcompiled
  constructor
  · intro expr hexpr part hpart
    have hevery := compiled_every (fun settings => Conversion.wellFormed_rules settings _)
      Conversion.wellFormed_optional_unknown (Conversion.wellFormed_ofPrimitive .void)
      (fun schema hschema => (hread schema hschema).wellFormed) hcompiled expr hexpr
    have hpart := hevery part hpart
    exact ⟨hpart, hpart.ordered.nodup,
      fun hnullable => hpart.ordered.getLast?_nullable (Expr.hasModifier_iff.mp hnullable)⟩
  · intro settings depth schema context progress reached expr hnullable houtcome
    exact Conversion.convertAt_nullable hnullable houtcome

/-- A nullable object with a choice of values, `null` among them, and a bounded integer. -/
def itemValue : Value :=
  .map [(.text "type", .text "object"), (.text "nullable", .bool true),
    (.text "required", .list [.text "state"]),
    (.text "properties", .map [
      (.text "state", .map [(.text "enum", .list [.text "on", .text "off", .null])]),
      (.text "size", .map [(.text "type", .text "integer"), (.text "minimum", .int 0),
        (.text "exclusiveMinimum", .bool true), (.text "default", .int 1)])])]

/-- A document whose only operation returns items or nothing. -/
def itemDocument : Document where
  info := { title := "", version := "" }
  version := "3.0.0"
  schemas := [("Item", (Schema.ofValue itemValue "#/components/schemas/Item").value)]
  operations :=
    [{ path := "/items", method := .get
       responses := [{ status := "200", mediaType := some "application/json"
                       schema := some (Schema.ofValue (.map [(.text "oneOf", .list [
                         .map [(.text "$ref", .text "#/components/schemas/Item")],
                         .map [(.text "type", .text "null")]])]) "#").value }] }]

theorem compile_wellFormed_itemDocument :
    ∃ compiled : Compiled, (itemDocument.compile {}).result.1 = .ok compiled ∧
      compiled.exprs.map (·.kind) = [.object, .union] ∧
      ∀ expr ∈ compiled.exprs, ∀ part, Expr.Part part expr → part.WellFormed := by
  have hread : ∀ schema ∈ itemDocument.allSchemas, schema.IsRead := by
    intro schema hschema
    rcases List.mem_append.mp hschema with hnamed | hinline
    · rw [List.mem_singleton.mp hnamed]
      exact ⟨_, _, rfl⟩
    · rw [List.mem_singleton.mp hinline]
      exact ⟨_, _, rfl⟩
  have hresult : (itemDocument.compile {}).result.1.toOption.map
      (fun compiled => compiled.exprs.map (·.kind)) = some [.object, .union] := by decide +kernel
  obtain ⟨compiled, hcompiled, hkinds⟩ := Option.map_eq_some_iff.mp hresult
  have hcompiled := eq_ok_of_toOption hcompiled
  obtain ⟨hwellFormed, -⟩ := compile_wellFormed itemDocument {} compiled hread hcompiled
  exact ⟨compiled, hcompiled, hkinds, fun expr hexpr part hpart => (hwellFormed expr hexpr part hpart).1⟩

end OpenApiClient
