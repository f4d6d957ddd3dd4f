import OpenApiClient.Expr.Source
import OpenApiClient.Proofs.Conversion.WellFormed
import OpenApiClient.Proofs.Json.Plain

/-!
# Conversions carry plain values over

The values that stand in a converted expression are those of the schema: the values of a choice and
a default are taken over, bounds are numbers, patterns and formats are texts. So they are plain if
the values of the schema are (`spelled_rules`). Writing an expression never fails if in all its
parts it is well-shaped, its values are plain (`Expr.Spelled`) and its references are declared
(`Expr.exists_source`).
-/

namespace OpenApiClient

open List

/-! ### Literals and modifiers -/

theorem Source.exists_literal {value : Value} (h : value.Plain) :
    ∃ text, Source.literal value = .ok text := by
  obtain ⟨text, htext⟩ := Json.exists_write h
  exact ⟨text, by rw [Source.literal, htext]⟩

theorem Source.exists_literals {values : List Value} (h : ∀ value ∈ values, value.Plain) :
    ∃ text, Source.literals values = .ok text :=
  exists_bind_eq_ok (exists_mapM_eq_ok fun value hvalue => Source.exists_literal (h value hvalue))
    fun _ => ⟨_, rfl⟩

/-- The arguments of a modifier are plain, and those that are needed are there. -/
structure Modifier.Spelled (modifier : Modifier) : Prop where
  plain : ∀ value ∈ modifier.args, value.Plain
  given : modifier.kind = .regex ∨ modifier.kind = .format → modifier.args ≠ []

theorem Modifier.exists_firstText {modifier : Modifier} (h : modifier.args ≠ []) :
    ∃ text, modifier.firstText = .ok text := by
  unfold firstText
  split
  · exact ⟨_, rfl⟩
  · rename_i hnil
    exact absurd hnil h

theorem Modifier.exists_source {modifier : Modifier} (h : modifier.Spelled) :
    ∃ text, modifier.source = .ok text := by
  have hcall : ∀ method : String, ∃ text, (do
      return "." ++ method ++ "(" ++ (← Source.literals modifier.args) ++ ")" :
      Except Failure String) = .ok text :=
    fun method => exists_bind_eq_ok (Source.exists_literals h.plain) fun _ => ⟨_, rfl⟩
  unfold Modifier.source
  cases hkind : modifier.kind with
  | regex => exact exists_bind_eq_ok (exists_firstText (h.given (.inl hkind))) fun _ => ⟨_, rfl⟩
  | format => exact exists_bind_eq_ok (exists_firstText (h.given (.inr hkind))) fun _ => ⟨_, rfl⟩
  | integer | partialObject | passthrough | strict | optional | nullable => exact ⟨_, rfl⟩
  | gt | gte | lt | lte | multipleOf | min | max | default => exact hcall _

/-! ### Sources of expressions -/

namespace Expr

/-- The values of an expression and the arguments of its modifiers are plain. -/
structure Spelled (expr : Expr) : Prop where
  values : ∀ value ∈ expr.values, value.Plain
  modifiers : ∀ modifier ∈ expr.modifiers, modifier.Spelled

/-- A reference is to a name that has an identifier. -/
def Declared (identifiers : List (String × String)) (expr : Expr) : Prop :=
  expr.kind = .namedRef ∨ expr.kind = .lazyRef →
    ∃ name identifier, expr.ref = some name ∧ identifiers.lookup name = some identifier

/-- Nothing keeps a node from being written. -/
structure Writable (identifiers : List (String × String)) (expr : Expr) : Prop where
  shaped : expr.WellShaped
  spelled : expr.Spelled
  declared : expr.Declared identifiers

variable {identifiers : List (String × String)}

theorem exists_propertySources {properties : List (Property Expr)}
    (h : ∀ property ∈ properties, ∃ text, property.expr.source identifiers = .ok text) :
    ∃ texts, propertySources identifiers properties = .ok texts := by
  induction properties with
  | nil => exact ⟨[], rfl⟩
  | cons property rest ih =>
    unfold propertySources
    refine exists_bind_eq_ok (h property mem_cons_self) fun text => ?_
    refine exists_bind_eq_ok (ih fun other hother => h other (mem_cons_of_mem _ hother))
      fun texts => ⟨_, rfl⟩

theorem exists_memberSources {members : List Expr}
    (h : ∀ member ∈ members, ∃ text, member.source identifiers = .ok text) :
    ∃ texts, memberSources identifiers members = .ok texts ∧ texts.length = members.length := by
  induction members with
  | nil => exact ⟨[], rfl, rfl⟩
  | cons member rest ih =>
    obtain ⟨text, htext⟩ := h member mem_cons_self
    obtain ⟨texts, htexts, hlength⟩ :=
      ih fun other hother => h other (mem_cons_of_mem _ hother)
    refine ⟨text :: texts, ?_, by simp [hlength]⟩
    rw [memberSources, htext, htexts]
    rfl

theorem exists_optionSource {part : Option Expr}
    (h : ∀ expr ∈ part, ∃ text, expr.source identifiers = .ok text) :
    ∃ text, optionSource identifiers part = .ok text := by
  cases part with
  | none => exact ⟨none, rfl⟩
  | some expr => exact exists_bind_eq_ok (h expr rfl) fun _ => ⟨_, rfl⟩

theorem exists_reference {expr : Expr} (h : expr.Declared identifiers)
    (hkind : expr.kind = .namedRef ∨ expr.kind = .lazyRef) :
    ∃ text, Source.reference identifiers expr.ref = .ok text := by
  obtain ⟨name, identifier, href, hlookup⟩ := h hkind
  refine ⟨identifier, ?_⟩
  rw [Source.reference, href, Option.getD_some, hlookup]

theorem exists_enumeration {values : List Value} (h : ∀ value ∈ values, value.Plain) :
    ∃ text, Source.enumeration values = .ok text := by
  unfold Source.enumeration
  split
  · exact exists_bind_eq_ok (Source.exists_literals h) fun _ => ⟨_, rfl⟩
  · refine exists_bind_eq_ok (exists_mapM_eq_ok fun value hvalue => ?_) fun _ => ⟨_, rfl⟩
    exact exists_bind_eq_ok (Source.exists_literal (h value hvalue)) fun _ => ⟨_, rfl⟩

/-- An expression can be written if nothing keeps any of its parts from being written. -/
theorem exists_source {expr : Expr} (h : expr.Every (Writable identifiers)) :
    ∃ text, expr.source identifiers = .ok text := by
  induction expr using childInduction with
  | step expr ih =>
    obtain ⟨hself, hchildren⟩ := every_iff.mp h
    have hparts : ∀ child ∈ expr.children, ∃ text, child.source identifiers = .ok text :=
      fun child hchild => ih child hchild (hchildren child hchild)
    obtain ⟨kind, primitive, modifiers, properties, others, items, members, values, ref, note⟩ :=
      expr
    simp only [children, mem_append, mem_map, Option.mem_toList] at hparts
    -- whatever the call is, the modifiers are written after it
    have hlast : ∀ call : String, ∃ text, (do
        return call ++ String.join (← modifiers.mapM Modifier.source) :
        Except Failure String) = .ok text := by
      refine fun call => exists_bind_eq_ok (exists_mapM_eq_ok fun modifier hmodifier => ?_)
        fun _ => ⟨_, rfl⟩
      exact Modifier.exists_source (hself.spelled.modifiers modifier hmodifier)
    unfold Expr.source
    cases kind with
    | primitive => exact hlast _
    | unknown => exact hlast _
    | object =>
      refine exists_bind_eq_ok (exists_propertySources fun property hproperty => ?_) fun _ => ?_
      · exact hparts _ (.inl (.inl (.inl ⟨property, hproperty, rfl⟩)))
      refine exists_bind_eq_ok (exists_optionSource fun other hother => ?_) fun _ => hlast _
      exact hparts other (.inl (.inl (.inr hother)))
    | array =>
      refine exists_bind_eq_ok (exists_optionSource fun item hitem => ?_) fun _ => hlast _
      exact hparts item (.inl (.inr hitem))
    | union =>
      obtain ⟨texts, htexts, -⟩ := exists_memberSources fun member hmember =>
        hparts member (.inr hmember)
      exact exists_bind_eq_ok ⟨_, congrArg (Functor.map Source.unionCall) htexts⟩ hlast
    | intersection =>
      obtain ⟨texts, htexts, hlength⟩ := exists_memberSources fun member hmember =>
        hparts member (.inr hmember)
      have hmany : 2 ≤ members.length := hself.shaped
      obtain ⟨first, rest, rfl⟩ : ∃ first rest, texts = first :: rest :=
        exists_cons_of_length_pos (by omega)
      simp only [htexts]
      exact hlast _
    | literal =>
      have hone : values.length = 1 := hself.shaped
      obtain ⟨value, rfl⟩ := length_eq_one_iff.mp hone
      have hvalue := hself.spelled.values value (mem_singleton_self value)
      refine exists_bind_eq_ok ?_ hlast
      exact exists_bind_eq_ok (Source.exists_literal hvalue) fun _ => ⟨_, rfl⟩
    | enum => exact exists_bind_eq_ok (exists_enumeration hself.spelled.values) hlast
    | namedRef => exact exists_bind_eq_ok (exists_reference hself.declared (.inl rfl)) hlast
    | lazyRef =>
      exact exists_bind_eq_ok (exists_reference hself.declared (.inr rfl)) fun _ => hlast _

end Expr

end OpenApiClient

namespace OpenApiClient.Conversion

variable {expr : Expr} {modifiers : List Modifier} {schema : Schema}

theorem spelled_withModifiers (hexpr : expr.Spelled)
    (h : ∀ modifier ∈ modifiers, modifier.Spelled) : (expr.withModifiers modifiers).Spelled where
  values := by simpa using hexpr.values
  modifiers := fun modifier hmodifier =>
    (Expr.mem_withModifiers.mp hmodifier).elim (hexpr.modifiers modifier) (h modifier)

theorem spelled_of_nil (hvalues : expr.values = []) (hmodifiers : expr.modifiers = []) :
    expr.Spelled where
  values := by simp [hvalues]
  modifiers := by simp [hmodifiers]

/-! ### Modifiers -/

/-- A modifier with one plain argument. -/
theorem spelled_single (kind : ModifierKind) {value : Value} (h : value.Plain) :
    Modifier.Spelled { kind, args := [value] } where
  plain := by simpa using h
  given := by simp

/-- A modifier that needs no argument. -/
theorem spelled_bare {kind : ModifierKind} (hregex : kind ≠ .regex) (hformat : kind ≠ .format) :
    Modifier.Spelled { kind } where
  plain := by simp
  given := fun h => absurd h (not_or.mpr ⟨hregex, hformat⟩)

theorem spelled_toList {α : Type} {found : Option α} (kind : ModifierKind) {value : α → Value}
    (h : ∀ given ∈ found, (value given).Plain) :
    ∀ modifier ∈ (found.map fun given => ({ kind, args := [value given] } : Modifier)).toList,
      modifier.Spelled := by
  intro modifier hmodifier
  obtain ⟨given, hgiven, rfl⟩ := Option.map_eq_some_iff.mp (Option.mem_toList.mp hmodifier)
  exact spelled_single kind (h given hgiven)

theorem spelled_boundModifiers (inclusive exclusive : ModifierKind) {bound : Option Number}
    {exclusiveBound : Option ExclusiveBound} (hbound : ∀ number ∈ bound, number.toValue.Plain)
    (hexclusive : ∀ number, exclusiveBound = some (.bound number) → number.toValue.Plain) :
    ∀ modifier ∈ boundModifiers inclusive exclusive bound exclusiveBound, modifier.Spelled := by
  intro modifier hmodifier
  rcases List.mem_append.mp hmodifier with hordinary | hown
  · exact spelled_toList _ hbound modifier hordinary
  · rw [Option.mem_toList] at hown
    split at hown
    · cases hown
      exact spelled_single _ (hexclusive _ rfl)
    · cases hown

theorem spelled_numberModifiers (h : schema.WellFormed Value.Plain) :
    ∀ modifier ∈ numberModifiers schema, modifier.Spelled := by
  intro modifier hmodifier
  rcases List.mem_append.mp hmodifier with hbound | hfactor
  · rcases List.mem_append.mp hbound with hlower | hupper
    · exact spelled_boundModifiers _ _ (h.numbers _ (by simp)) (h.bounds _ (by simp)) _ hlower
    · exact spelled_boundModifiers _ _ (h.numbers _ (by simp)) (h.bounds _ (by simp)) _ hupper
  · exact spelled_toList _ (h.numbers _ (by simp)) modifier hfactor

theorem spelled_countModifiers {least most : Option Nat}
    (h : ∀ given ∈ [least, most], ∀ count ∈ given, (Value.int count).Plain) :
    ∀ modifier ∈ countModifiers least most, modifier.Spelled := by
  have hplain : ∀ given ∈ [least, most], ∀ count ∈ (given : Option Int),
      (Value.int count).Plain := by
    rintro (_ | count) hgiven _ ⟨⟩
    exact h _ hgiven count rfl
  intro modifier hmodifier
  rcases List.mem_append.mp hmodifier with hleast | hmost
  · exact spelled_toList _ (hplain least (by simp)) modifier hleast
  · exact spelled_toList _ (hplain most (by simp)) modifier hmost

theorem spelled_textModifiers (h : schema.WellFormed Value.Plain) :
    ∀ modifier ∈ textModifiers schema, modifier.Spelled := by
  have htext : ∀ {given : Option String}, ∀ text ∈ given, (Value.text text).Plain :=
    fun text _ => .scalar trivial
  intro modifier hmodifier
  rcases List.mem_append.mp hmodifier with hrest | hformat
  · rcases List.mem_append.mp hrest with hcount | hpattern
    · exact spelled_countModifiers
        (fun _ hgiven => h.counts _ (List.mem_append_left [_, _] hgiven)) modifier hcount
    · exact spelled_toList _ htext modifier hpattern
  · exact spelled_toList _ htext modifier hformat

theorem spelled_objectModifiers (strict optionalAll : Bool)
    (additional : Option (Additional Schema)) :
    ∀ modifier ∈ objectModifiers strict optionalAll additional, modifier.Spelled := by
  have hbare : ∀ {kind : ModifierKind} {modifier : Modifier}, kind ≠ .regex → kind ≠ .format →
      modifier ∈ [({ kind } : Modifier)] → modifier.Spelled := by
    intro kind modifier hregex hformat hmodifier
    rw [List.mem_singleton.mp hmodifier]
    exact spelled_bare hregex hformat
  intro modifier hmodifier
  rcases List.mem_append.mp hmodifier with hpartial | hclosing
  · split at hpartial
    · exact hbare (by simp) (by simp) hpartial
    · cases hpartial
  · split at hclosing
    · exact hbare (by simp) (by simp) hclosing
    · cases hclosing
    · exact hbare (by simp) (by simp) hclosing
    · split at hclosing
      · exact hbare (by simp) (by simp) hclosing
      · exact hbare (by simp) (by simp) hclosing

theorem spelled_trailingModifiers {withDefaults optional : Bool}
    (h : ∀ value ∈ schema.default, value.Plain) :
    ∀ modifier ∈ trailingModifiers withDefaults optional schema expr, modifier.Spelled := by
  intro modifier hmodifier
  simp only [trailingModifiers, List.mem_append] at hmodifier
  rcases hmodifier with (hoptional | hdefault) | hnullable
  · split at hoptional
    · rw [List.mem_singleton.mp hoptional]
      exact spelled_bare (by simp) (by simp)
    · cases hoptional
  · split at hdefault
    · rename_i value hvalue
      split at hdefault
      · rw [List.mem_singleton.mp hdefault]
        exact spelled_single _ (h value hvalue)
      · cases hdefault
    · cases hdefault
  · split at hnullable
    · rw [List.mem_singleton.mp hnullable]
      exact spelled_bare (by simp) (by simp)
    · cases hnullable

/-! ### Nodes -/

theorem spelled_optional_unknown (optional : Bool) :
    ((Expr.unknown none).withModifiers
      (if optional then [{ kind := .optional }] else [])).Spelled := by
  refine spelled_withModifiers (spelled_of_nil rfl rfl) fun modifier hmodifier => ?_
  split at hmodifier
  · rw [List.mem_singleton.mp hmodifier]
    exact spelled_bare (by simp) (by simp)
  · cases hmodifier

theorem spelled_choiceExpr {values : List Value} (h : ∀ value ∈ values, value.Plain) :
    (choiceExpr values).Spelled := by
  rw [choiceExpr_eq]
  have hpresent : ∀ value ∈ presentValues values, value.Plain :=
    fun value hvalue => h value (List.mem_of_mem_filter hvalue)
  refine spelled_withModifiers ?_ fun modifier hmodifier => ?_
  · generalize presentValues values = present at hpresent
    unfold choiceBase
    split
    · exact spelled_of_nil rfl rfl
    · exact ⟨hpresent, by simp⟩
    · exact ⟨hpresent, by simp⟩
  · unfold choiceModifiers at hmodifier
    split at hmodifier
    · cases hmodifier
    · rw [List.mem_singleton.mp hmodifier]
      exact spelled_bare (by simp) (by simp)

theorem spelled_primitive (h : schema.WellFormed Value.Plain) :
    ((primitiveExpr? schema).getD (.unknown none)).Spelled := by
  have hinteger : Modifier.Spelled { kind := .integer } := spelled_bare (by simp) (by simp)
  unfold primitiveExpr?
  split
  · exact spelled_withModifiers (spelled_of_nil rfl rfl) (spelled_textModifiers h)
  · exact spelled_withModifiers (spelled_of_nil rfl rfl) (spelled_numberModifiers h)
  · exact spelled_withModifiers (spelled_of_nil rfl rfl)
      (List.forall_mem_cons.mpr ⟨hinteger, spelled_numberModifiers h⟩)
  · exact spelled_of_nil rfl rfl
  · exact spelled_of_nil rfl rfl
  · exact spelled_of_nil rfl rfl

/-- Every rule of the conversion gives a node with plain values. -/
theorem spelled_rules (settings : Settings) :
    Rules settings (Schema.WellFormed Value.Plain) Expr.Spelled where
  sibling := wellFormed_siblingMember?
  merge := fun {shapes} _ => wellFormed_mergeObjects shapes
  object := fun {schema exprs} _ _ =>
    spelled_withModifiers (spelled_of_nil rfl rfl) (spelled_objectModifiers _ _ _)
  array := fun {schema exprs} h =>
    spelled_withModifiers (spelled_of_nil rfl rfl)
      (spelled_countModifiers fun _ hgiven => h.counts _ (List.mem_append_right [_, _] hgiven))
  union := fun {schema members exprs} _ _ _ => spelled_of_nil rfl rfl
  intersection := fun {schema allOf exprs} _ _ _ _ => spelled_of_nil rfl rfl
  choice := fun {schema values} hschema hvalues => by
    rcases hvalues with ⟨value, hconst, rfl⟩ | henum
    · exact spelled_choiceExpr (List.forall_mem_singleton.mpr (hschema.const value hconst))
    · exact spelled_choiceExpr (hschema.enum values henum)
  primitive := spelled_primitive
  unknown := fun _ => spelled_of_nil rfl rfl
  namedRef := fun _ => spelled_of_nil rfl rfl
  lazyRef := fun _ => spelled_of_nil rfl rfl
  trailing := fun {schema expr} optional hschema hexpr =>
    spelled_withModifiers hexpr (spelled_trailingModifiers hschema.default)

end OpenApiClient.Conversion
