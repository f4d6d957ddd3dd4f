import Mathlib.Data.List.Chain
import OpenApiClient.Proofs.Conversion.Laws
import OpenApiClient.Proofs.Conversion.Parts

/-!
# Schemas that stand for others

A schema stands for another one if it is nothing but a reference to it. An `allOf` with a single
member amounts to that member, so it stands for whatever the member stands for. Such a schema is
converted to a reference, and no other schema is.

The converter stops at a circle of such schemas only if all names on it are references themselves;
an `allOf` among them keeps it from seeing the circle. `Follows` states what the expression of a
schema says about the names it stands for, and `forwarding_laws` that all conversions respect it.
-/

namespace OpenApiClient

open List
open Relation (ReflTransGen TransGen)

/-- A schema stands for a reference: it is one, or its `allOf` has a single member that does. -/
inductive Schema.StandsFor : Schema → String → Prop
  | ref {schema : Schema} {ref : String} : schema.ref = some ref → StandsFor schema ref
  | single {schema member : Schema} {allOf : List Schema} {ref : String} : schema.ref = none →
      schema.allOf = some allOf →
      allOf ++ (Conversion.siblingMember? schema).toList = [member] →
      StandsFor member ref → StandsFor schema ref

namespace Schema

variable {schema member : Schema} {ref other : String}

theorem standsFor_of_ref (h : schema.ref = some ref) : schema.StandsFor other ↔ other = ref := by
  constructor
  · rintro (hother | ⟨hnone, -⟩)
    · exact Option.some.inj (hother.symm.trans h)
    · rw [h] at hnone
      cases hnone
  · rintro rfl
    exact .ref h

theorem standsFor_of_single {allOf : List Schema} (href : schema.ref = none)
    (hallOf : schema.allOf = some allOf)
    (hmember : allOf ++ (Conversion.siblingMember? schema).toList = [member]) :
    schema.StandsFor other ↔ member.StandsFor other := by
  constructor
  · rintro (hother | ⟨-, hother, hsingle, hstands⟩)
    · rw [href] at hother
      cases hother
    · obtain rfl := Option.some.inj (hallOf.symm.trans hother)
      obtain rfl : member = _ := by simpa using hmember.symm.trans hsingle
      exact hstands
  · exact .single href hallOf hmember

/-- A schema that is no reference and no `allOf` with a single member stands for nothing. -/
theorem not_standsFor (href : schema.ref = none)
    (hsingle : ∀ allOf member, schema.allOf = some allOf →
      allOf ++ (Conversion.siblingMember? schema).toList ≠ [member]) :
    ¬ schema.StandsFor other := by
  rintro (hother | ⟨-, hallOf, hmember, -⟩)
  · rw [href] at hother
    cases hother
  · exact hsingle _ _ hallOf hmember

/-- A schema stands for one reference at most. -/
theorem StandsFor.unique (h : schema.StandsFor ref) : ∀ {other}, schema.StandsFor other →
    ref = other := by
  induction h with
  | ref href => exact fun hother => ((standsFor_of_ref href).mp hother).symm
  | single href hallOf hmember _ ih =>
    exact fun hother => ih ((standsFor_of_single href hallOf hmember).mp hother)

/-- A schema stands for a named one. -/
def Forwards (registry : Registry) (schema : Schema) (name : String) : Prop :=
  ∃ ref, schema.StandsFor ref ∧ registry.resolve ref = .ok name

theorem Forwards.unique {registry : Registry} {name second : String}
    (h : schema.Forwards registry name) (hother : schema.Forwards registry second) :
    name = second := by
  obtain ⟨ref, hstands, hresolve⟩ := h
  obtain ⟨otherRef, hother, hsecond⟩ := hother
  obtain rfl := hstands.unique hother
  exact Except.ok.inj (hresolve.symm.trans hsecond)

end Schema

namespace Registry

variable {registry : Registry} {name other : String}

/-- A named schema stands for another one. -/
def Aliases (registry : Registry) (name other : String) : Prop :=
  ∃ schema, registry.get? name = some schema ∧ schema.Forwards registry other

theorem aliases_iff {schema : Schema} (h : registry.get? name = some schema) :
    registry.Aliases name other ↔ schema.Forwards registry other := by
  simp [Aliases, h]

theorem Aliases.unique {second : String} (h : registry.Aliases name other)
    (hsecond : registry.Aliases name second) : other = second := by
  obtain ⟨schema, hget, hforwards⟩ := h
  exact hforwards.unique ((aliases_iff hget).mp hsecond)

/-- A name that the schema of another one amounts to, in the end or on the way. -/
abbrev Reaches (registry : Registry) : String → String → Prop := ReflTransGen registry.Aliases

end Registry

namespace Expr

/-- An expression is nothing but a reference. -/
def IsReference (expr : Expr) : Prop := expr.kind = .namedRef ∨ expr.kind = .lazyRef

end Expr

namespace Conversion

variable {settings : Settings} {registry : Registry} {schema : Schema} {context : Context}
  {top name ref : String} {expr : Expr}

/-! ### The names on the stack -/

/-- Neighbours on a stack: the second name is what the first one stands for, if it stands for
anything. -/
def Succeeds (registry : Registry) (first second : String) : Prop :=
  ∀ other, registry.Aliases first other → other = second

/-- On the stack every name is followed by what it stands for, and what the last one stands for is
what the schema stands for. -/
structure OnTrail (registry : Registry) (top : String) (schema : Schema) (context : Context) :
    Prop where
  last : context.stack.getLast? = some top
  chain : context.stack.IsChain (Succeeds registry)
  stands : ∀ node, registry.get? top = some node → ∀ ref, node.StandsFor ref → schema.StandsFor ref

theorem exists_dropWhile_eq_cons {names : List String} (h : name ∈ names) :
    ∃ after, names.dropWhile (· ≠ name) = name :: after := by
  induction names with
  | nil => cases h
  | cons first rest ih =>
    by_cases hfirst : first = name
    · exact ⟨rest, by simp [hfirst]⟩
    · obtain ⟨after, hafter⟩ := ih ((mem_cons.mp h).resolve_left (Ne.symm hfirst))
      exact ⟨after, by rw [dropWhile_cons, if_pos (by simpa using hfirst), hafter]⟩

/-- A name on a chain is the last one or is succeeded by another one on it. -/
theorem getLast?_or_succeeds {names : List String} (hchain : names.IsChain (Succeeds registry))
    (h : name ∈ names) :
    names.getLast? = some name ∨ ∃ next ∈ names, Succeeds registry name next := by
  obtain ⟨before, after, rfl⟩ := append_of_mem h
  cases after with
  | nil => exact .inl (by simp)
  | cons next after =>
    refine .inr ⟨next, by simp, ?_⟩
    exact (isChain_append_cons_cons.mp hchain).2.1

/-- From the first name on a chain all are reached, unless one stands for nothing. -/
theorem reaches_chain : ∀ {after : List String} {name : String},
    (name :: after).IsChain (Succeeds registry) →
      (∀ other ∈ name :: after, registry.Reaches name other) ∨
        ∃ last, registry.Reaches name last ∧ ∀ other, ¬ registry.Aliases last other := by
  intro after
  induction after with
  | nil => intro name _; exact .inl (by simp [ReflTransGen.refl])
  | cons next after ih =>
    intro name hchain
    obtain ⟨hnext, hrest⟩ := isChain_cons_cons.mp hchain
    by_cases hnone : ∀ other, ¬ registry.Aliases name other
    · exact .inr ⟨name, .refl, hnone⟩
    obtain ⟨other, halias⟩ := not_forall_not.mp hnone
    obtain rfl := hnext other halias
    rcases ih hrest with hall | ⟨last, hlast, hstops⟩
    · refine .inl (forall_mem_cons.mpr ⟨.refl, fun other hother => ?_⟩)
      exact .head halias (hall other hother)
    · exact .inr ⟨last, .head halias hlast, hstops⟩

namespace OnTrail

variable (trail : OnTrail registry top schema context)
include trail

/-- What stands on the stack from a name on. -/
theorem circle (hname : name ∈ context.stack) :
    ∃ after, context.stack.dropWhile (· ≠ name) = name :: after ∧
      (name :: after).IsChain (Succeeds registry) ∧ (name :: after).getLast? = some top := by
  obtain ⟨after, hafter⟩ := exists_dropWhile_eq_cons hname
  have hsuffix : name :: after <:+ context.stack := hafter ▸ dropWhile_suffix _
  refine ⟨after, hafter, trail.chain.suffix hsuffix, ?_⟩
  obtain ⟨before, hbefore⟩ := hsuffix
  rw [← trail.last, ← hbefore, getLast?_append_of_ne_nil _ (by simp)]

/-- What the last name stands for is what the reference resolves to. -/
theorem succeeds_top (href : schema.ref = some ref) (hresolve : registry.resolve ref = .ok name) :
    Succeeds registry top name := by
  rintro other ⟨node, hnode, found, hfound, hother⟩
  have hstands := trail.stands node hnode found hfound
  rw [(Schema.standsFor_of_ref href).mp hstands, hresolve] at hother
  exact (Except.ok.inj hother).symm

/-- All that is reached from a name on the stack that the schema refers to stands on the stack from
there on. -/
theorem mem_circle_of_reaches (href : schema.ref = some ref)
    (hresolve : registry.resolve ref = .ok name) (hname : name ∈ context.stack) {last : String}
    (hreaches : registry.Reaches name last) : last ∈ context.stack.dropWhile (· ≠ name) := by
  obtain ⟨after, hafter, hchain, hlast⟩ := trail.circle hname
  rw [hafter]
  induction hreaches with
  | refl => exact mem_cons_self
  | tail _ halias ih =>
    rcases getLast?_or_succeeds hchain ih with htop | ⟨next, hnext, hsucceeds⟩
    · obtain rfl := Option.some.inj (hlast.symm.trans htop)
      rw [trail.succeeds_top href hresolve _ halias]
      exact mem_cons_self
    · rw [hsucceeds _ halias]
      exact hnext

end OnTrail

/-! ### What a plan builds -/

theorem not_isReference_joinParts {parts : List Expr}
    (h : ∀ part, parts = [part] → ¬ part.IsReference) : ¬ (joinParts parts).IsReference := by
  unfold joinParts
  split
  · exact h _ rfl
  · simp [Expr.IsReference]

/-- Several members of an `allOf` become an object or an intersection. -/
theorem not_isReference_membersPlan {members : Members} {exprs : List Expr}
    (hstop : members.stop = none)
    (hlength : exprs.length = (membersPlan settings members context).parts.length)
    (hcount : members.shapes.length + members.others.length ≠ 1) :
    ¬ ((membersPlan settings members context).build exprs).IsReference := by
  simp only [membersPlan, hstop, Option.isSome_none, Bool.false_eq_true, if_false,
    length_append, memberParts, length_map] at hlength
  refine not_isReference_joinParts fun part hpart => ?_
  cases hshapes : members.shapes with
  | nil =>
    -- without objects to merge there are as many parts as members
    have hparts := congrArg List.length hpart
    simp only [Members.merged?, hshapes, isEmpty_nil, if_true, Option.toList_none,
      map_nil, nil_append, length_take, length_singleton] at hparts
    rw [hshapes, length_nil] at hcount
    omega
  | cons shape rest =>
    simp only [Members.merged?, hshapes, isEmpty_cons, Bool.false_eq_true, if_false,
      Option.toList_some, map_cons, map_nil, cons_append, nil_append,
      List.cons.injEq] at hpart
    rw [← hpart.1]
    simp [Expr.IsReference, objectExpr]

/-- A schema that is no reference is an `allOf` with a single member, to which it amounts, or it
stands for nothing and does not become a reference. -/
theorem plan_single_or (settings : Settings) (context : Context) (href : schema.ref = none) :
    (∃ member inner, (plan settings schema context).parts = [(member, inner)] ∧
      (∀ expr, (plan settings schema context).build [expr] = expr) ∧
      ∀ ref, schema.StandsFor ref ↔ member.StandsFor ref) ∨
    ((∀ ref, ¬ schema.StandsFor ref) ∧ ∀ exprs, (plan settings schema context).stop = none →
      exprs.length = (plan settings schema context).parts.length →
      ¬ ((plan settings schema context).build exprs).IsReference) := by
  by_cases hsingle : ∃ allOf member, schema.allOf = some allOf ∧
      allOf ++ (siblingMember? schema).toList = [member]
  · obtain ⟨allOf, member, hallOf, hmember⟩ := hsingle
    refine .inl ⟨member, context.child "allOf/0" false, ?_, fun expr => ?_, fun ref =>
      Schema.standsFor_of_single href hallOf hmember⟩
    · simp [plan, hallOf, allOfPlan, hmember]
    · simp [plan, hallOf, allOfPlan, hmember]
  have hmany : ∀ allOf member, schema.allOf = some allOf →
      allOf ++ (siblingMember? schema).toList ≠ [member] :=
    fun allOf member hallOf hmember => hsingle ⟨allOf, member, hallOf, hmember⟩
  refine .inr ⟨fun ref => Schema.not_standsFor href hmany, fun exprs hstop hlength => ?_⟩
  -- no other plan builds a bare reference
  have hplan := planned settings schema context
  generalize plan settings schema context = current at hstop hlength hplan ⊢
  cases hplan with
  | single hallOf hmember => exact absurd hmember (hmany _ _ hallOf)
  | members hallOf =>
    refine not_isReference_membersPlan hstop hlength fun hone => ?_
    rw [sortMembers_length hstop, length_zipIdx] at hone
    obtain ⟨member, hmember⟩ := length_eq_one_iff.mp hone
    exact hmany _ member hallOf hmember
  | union => simp [Expr.IsReference, unionPlan]
  | fallback => simp [Expr.IsReference, fallbackPlan, Expr.unknown]
  | @choice values =>
    simp only [leafPlan, choiceExpr_eq]
    unfold choiceBase
    split <;> simp [Expr.IsReference, Expr.ofPrimitive]
  | object => simp [Expr.IsReference, objectPlan, objectExpr]
  | array => simp [Expr.IsReference, arrayPlan, arrayExpr]
  | primitive =>
    simp only [leafPlan]
    unfold primitiveExpr?
    split <;> simp [Expr.IsReference, Expr.ofPrimitive, Expr.unknown]

namespace OnTrail

variable {top : String}

theorem part (trail : OnTrail settings.registry top schema context) (href : schema.ref = none)
    {part : Schema × Context} (hpart : part ∈ (plan settings schema context).parts) :
    OnTrail settings.registry top part.1 part.2 := by
  have hstack := stack_of_mem_plan_parts settings schema context hpart
  refine ⟨hstack ▸ trail.last, hstack ▸ trail.chain, fun node hnode ref hstands => ?_⟩
  have hschema := trail.stands node hnode ref hstands
  rcases plan_single_or settings context href with ⟨member, inner, hparts, -, hiff⟩ | ⟨hnone, -⟩
  · rw [hparts, mem_singleton] at hpart
    rw [hpart]
    exact (hiff ref).mp hschema
  · exact absurd hschema (hnone ref)

theorem enter (trail : OnTrail registry top schema context) (href : schema.ref = some ref)
    (hresolve : registry.resolve ref = .ok name) {target : Schema}
    (hget : registry.get? name = some target) :
    OnTrail registry name target (context.push name) where
  last := by simp [Context.push]
  chain := by
    refine isChain_append.mpr ⟨trail.chain, .singleton name, ?_⟩
    rintro last hlast first ⟨⟩
    obtain rfl := Option.some.inj (trail.last.symm.trans hlast)
    exact trail.succeeds_top href hresolve
  stands := fun node hnode ref hstands => by
    rwa [← Option.some.inj (hnode.symm.trans hget)]

theorem start {target : Schema} (hget : registry.get? name = some target) :
    OnTrail registry name target (Context.push {} name) where
  last := rfl
  chain := .singleton name
  stands := fun node hnode ref hstands => by
    rwa [← Option.some.inj (hnode.symm.trans hget)]

end OnTrail

/-! ### What the expressions say about the names they stand for -/

/-- What the expression of a schema says about the name the schema stands for: a reference is a
reference to it; if the expression is no reference, the schema stands for bare names only; and a
lazy reference closes a circle that is not bare, or goes to a name that comes to an end. -/
structure Follows (registry : Registry) (top : String) (schema : Schema) (expr : Expr) : Prop where
  forwards : expr.IsReference → ∃ name, expr.ref = some name ∧ schema.Forwards registry name
  bare : ¬ expr.IsReference → ∀ name, schema.Forwards registry name →
    ∀ last, registry.Reaches name last → registry.IsBare last
  lazy : expr.kind = .lazyRef → ∀ name, expr.ref = some name →
    (registry.Reaches name top ∧ ∃ last, registry.Reaches name last ∧ ¬ registry.IsBare last) ∨
      ∃ last, registry.Reaches name last ∧ ∀ other, ¬ registry.Aliases last other

/-- Only the kind and the target of an expression matter, and what the schema stands for. -/
theorem Follows.congr {other : Schema} {second : Expr} (h : Follows registry top schema expr)
    (hstands : ∀ ref, schema.StandsFor ref ↔ other.StandsFor ref) (hkind : second.kind = expr.kind)
    (href : second.ref = expr.ref) : Follows registry top other second := by
  have hforwards : ∀ name, schema.Forwards registry name ↔ other.Forwards registry name := by
    simp [Schema.Forwards, hstands]
  refine ⟨fun hreference => ?_, fun hnot name hname => ?_, fun hlazy name hname => ?_⟩
  · obtain ⟨name, hname, hschema⟩ := h.forwards (by rwa [Expr.IsReference, ← hkind])
    exact ⟨name, href.trans hname, (hforwards name).mp hschema⟩
  · exact h.bare (by rwa [Expr.IsReference, ← hkind]) name ((hforwards name).mpr hname)
  · exact h.lazy (hkind.symm.trans hlazy) name (href.symm.trans hname)

/-- A schema that stands for nothing and is no reference. -/
theorem follows_of_nothing (hnone : ∀ ref, ¬ schema.StandsFor ref) (hnot : ¬ expr.IsReference) :
    Follows registry top schema expr where
  forwards hreference := absurd hreference hnot
  bare := fun _ _ ⟨ref, hstands, _⟩ => absurd hstands (hnone ref)
  lazy hlazy := absurd (.inr hlazy) hnot

theorem OnTrail.follows_unknown (trail : OnTrail registry top schema context)
    (href : schema.ref = some ref) (hresolve : registry.resolve ref = .ok name)
    (hname : name ∈ context.stack)
    (hbare : ∀ other ∈ context.stack.dropWhile (· ≠ name), registry.IsBare other)
    (note : Option String) : Follows registry top schema (.unknown note) where
  forwards hreference := by simp [Expr.IsReference, Expr.unknown] at hreference
  bare := by
    rintro - other ⟨found, hstands, hother⟩ last hlast
    rw [(Schema.standsFor_of_ref href).mp hstands, hresolve] at hother
    obtain rfl := Except.ok.inj hother
    exact hbare last (trail.mem_circle_of_reaches href hresolve hname hlast)
  lazy hlazy := by simp [Expr.unknown] at hlazy

theorem OnTrail.follows_lazyRef (trail : OnTrail registry top schema context)
    (href : schema.ref = some ref) (hresolve : registry.resolve ref = .ok name)
    (hname : name ∈ context.stack)
    (hbare : ¬ ∀ other ∈ context.stack.dropWhile (· ≠ name), registry.IsBare other) :
    Follows registry top schema (.lazyRef name) where
  forwards _ := ⟨name, rfl, ref, .ref href, hresolve⟩
  bare hnot := absurd (.inr rfl) hnot
  lazy _ := by
    rintro other ⟨⟩
    obtain ⟨after, hafter, hchain, hlast⟩ := trail.circle hname
    rw [hafter] at hbare
    rcases reaches_chain hchain with hall | hstops
    · obtain ⟨last, hmem, hnot⟩ := not_forall₂.mp hbare
      exact .inl ⟨hall top (mem_of_getLast? hlast), last, hall last hmem, hnot⟩
    · exact .inr hstops

theorem follows_namedRef (href : schema.ref = some ref)
    (hresolve : registry.resolve ref = .ok name) :
    Follows registry top schema (.namedRef name) where
  forwards _ := ⟨name, rfl, ref, .ref href, hresolve⟩
  bare hnot := absurd (.inl rfl) hnot
  lazy hlazy := by simp [Expr.namedRef] at hlazy

/-- All conversions and declarations follow what the schemas stand for. -/
theorem forwarding_laws (settings : Settings) :
    Laws settings
      (eachDeclared (fun name expr => ∀ schema, settings.registry.get? name = some schema →
        Follows settings.registry name schema expr) fun _ => True)
      (fun _ schema context => ∃ top, OnTrail settings.registry top schema context)
      (fun _ schema context expr _ => ∀ top, context.stack.getLast? = some top →
        Follows settings.registry top schema expr) where
  notes := eachDeclared_ignoresNotes
  stable _ hexpr := hexpr
  exhausted _ := trivial
  part := fun ⟨top, trail⟩ href hpart => ⟨top, trail.part href hpart⟩
  stop _ _ _ := trivial
  build {_ schema context exprs _} := by
    rintro - href hstop hexprs top htop
    rcases plan_single_or settings context href with ⟨member, inner, hparts, hbuild, hiff⟩ | hnothing
    · have hstack := stack_of_mem_plan_parts settings schema context
        (hparts ▸ mem_singleton_self (member, inner))
      rw [hparts] at hexprs
      obtain ⟨expr, hexpr, rfl⟩ : ∃ expr,
          Follows settings.registry top member expr ∧ exprs = [expr] := by
        cases hexprs with
        | cons hexpr hrest =>
          cases hrest
          exact ⟨_, hexpr top (hstack ▸ htop), rfl⟩
      rw [hbuild]
      exact hexpr.congr (fun ref => (hiff ref).symm) (finished_kind ..) (finished_ref ..)
    · obtain ⟨hnone, hnot⟩ := hnothing
      refine (follows_of_nothing hnone (hnot exprs hstop hexprs.length_eq.symm)).congr
        (fun _ => Iff.rfl) (finished_kind ..) (finished_ref ..)
  unresolved _ _ _ := trivial
  unregistered _ _ _ := trivial
  unknown := by
    rintro _ schema context ref name note - ⟨last, trail⟩ href hresolve hname hbare top htop
    obtain rfl := Option.some.inj (trail.last.symm.trans htop)
    exact (trail.follows_unknown href hresolve hname hbare note).congr (fun _ => Iff.rfl)
      (finished_kind ..) (finished_ref ..)
  lazy := by
    rintro _ schema context ref name - ⟨last, trail⟩ href hresolve hname hbare top htop
    obtain rfl := Option.some.inj (trail.last.symm.trans htop)
    exact (trail.follows_lazyRef href hresolve hname hbare).congr (fun _ => Iff.rfl)
      (finished_kind ..) (finished_ref ..)
  enter := fun ⟨_, trail⟩ href hresolve _ hget => ⟨_, trail.enter href hresolve hget⟩
  named _ href hresolve _ _ _ _ _ := (follows_namedRef href hresolve).congr (fun _ => Iff.rfl)
    (finished_kind ..) (finished_ref ..)
  declare {_ name _ _ _ context} _ hget hinv hexpr := by
    refine eachDeclared_add hinv fun schema hschema => ?_
    rw [Option.some.inj (hschema.symm.trans hget)]
    exact hexpr name (by simp [Context.push])

end Conversion

end OpenApiClient
