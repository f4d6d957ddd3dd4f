import OpenApiClient.Proofs.Conversion.Spellings
import OpenApiClient.Proofs.Conversion.WellFormed
import OpenApiClient.Proofs.Expr.Modifiers
import OpenApiClient.Proofs.Schema.Complaints

/-!
# Constraints on numbers and texts

The constraints of a number or a text become modifiers in the order of application, each with the
value that the document gives; one that makes no sense is dropped with a warning
(`constraints_carried`). Which modifiers these are is said by `constraints`, from what stands in the
document alone.
-/

namespace OpenApiClient

open List

/-! ### Modifiers in the order of application -/

namespace Modifier

theorem ordered_of_kinds {modifiers : List Modifier}
    (h : (modifiers.map (·.kind)).Sublist ModifierKind.all) : Ordered modifiers := by
  have hall : ModifierKind.all.Pairwise (·.rank < ·.rank) := by decide
  have hkinds : (modifiers.map (·.kind)).Pairwise (·.rank < ·.rank) := hall.sublist h
  rwa [pairwise_map] at hkinds

/-- Modifiers in order, none of a kind twice, are what any arrangement of them is sorted to. -/
theorem sort_eq_of_perm {modifiers ordered : List Modifier} (hperm : modifiers.Perm ordered)
    (h : Ordered ordered) : sort modifiers = ordered := by
  have hdistinct : (modifiers.map (·.kind)).Nodup :=
    (hperm.map (·.kind)).nodup_iff.mpr (pairwise_map.mpr
      (h.imp fun {first second} hlt heq => absurd hlt (by rw [heq]; exact Nat.lt_irrefl _)))
  refine List.Perm.eq_of_pairwise (fun first second _ _ hlt hgt => ?_) (sort_ordered hdistinct) h
    ((sort_perm modifiers).trans hperm)
  exact absurd hlt (Nat.lt_asymm hgt)

end Modifier

/-- A primitive with modifiers in any arrangement, and with further ones that come last. -/
theorem Expr.ofPrimitive_withModifiers (type : Primitive) {given ordered trailing : List Modifier}
    (hperm : given.Perm ordered)
    (h : ((ordered ++ trailing).map (·.kind)).Sublist ModifierKind.all) :
    ((ofPrimitive type).withModifiers given).withModifiers trailing =
      { kind := .primitive, primitive := some type, modifiers := ordered ++ trailing } := by
  have hboth := Modifier.ordered_of_kinds h
  have hsorted : Modifier.Sorted (ordered ++ trailing) := hboth.imp Nat.le_of_lt
  have hfirst : (ofPrimitive type).withModifiers given =
      { kind := .primitive, primitive := some type, modifiers := ordered } := by
    rw [withModifiers_of_sorted (by exact .nil)]
    have hsort := Modifier.sort_eq_of_perm hperm (pairwise_append.mp hboth).1
    exact congrArg (Expr.mk .primitive (some type) · [] none none [] [] none none) hsort
  rw [hfirst, withModifiers_of_sorted (by exact (pairwise_append.mp hsorted).1),
    Modifier.place_of_sorted hsorted]

namespace Schema

open Conversion

/-! ### The modifiers that a document asks for -/

/-- The argument of the modifier for an ordinary bound, unless a flag makes the bound exclusive. -/
def inclusive? (raw : Entries) (pair : String × String) : Option Value :=
  if isTrue raw pair.2 then none else accepted? raw pair.1

/-- The argument of the modifier for an exclusive bound: a bound that a flag makes exclusive, or an
exclusive bound that is a number itself. -/
def exclusive? (raw : Entries) (pair : String × String) : Option Value :=
  if isTrue raw pair.2 then accepted? raw pair.1 else (accepted? raw pair.2).filter isNumber

/-- The argument that a modifier gets from what stands in the document. -/
def argument? (raw : Entries) : ModifierKind → Option Value
  | .gt => exclusive? raw ("minimum", "exclusiveMinimum")
  | .gte => inclusive? raw ("minimum", "exclusiveMinimum")
  | .lt => exclusive? raw ("maximum", "exclusiveMaximum")
  | .lte => inclusive? raw ("maximum", "exclusiveMaximum")
  | .multipleOf => accepted? raw "multipleOf"
  | .min => accepted? raw "minLength"
  | .max => accepted? raw "maxLength"
  | .regex => accepted? raw "pattern"
  | _ => none

/-- Whether a kind of modifiers constrains the values of a type. -/
def constrains (type : String) (kind : ModifierKind) : Bool :=
  if type = "string" then kind ∈ [.min, .max, .regex]
  else kind ∈ [.gt, .gte, .lt, .lte, .multipleOf]

/-- A modifier with an argument, if there is one. -/
def modifier? (kind : ModifierKind) (argument : Option Value) : Option Modifier :=
  argument.map fun value => { kind, args := [value] }

/-- The modifiers that the constraints of a schema ask for, in the order of application. -/
def constraints (raw : Entries) (type : String) : List Modifier :=
  (ModifierKind.all.filter (constrains type)).filterMap fun kind =>
    modifier? kind (argument? raw kind)

theorem kinds_filterMap (argument : ModifierKind → Option Value) (kinds : List ModifierKind) :
    ((kinds.filterMap fun kind => modifier? kind (argument kind)).map (·.kind)).Sublist kinds := by
  induction kinds with
  | nil => exact .slnil
  | cons kind rest ih =>
    rw [filterMap_cons]
    cases argument kind with
    | none => exact ih.cons _
    | some value => exact ih.cons_cons _

variable {raw : Entries} {location : String}

theorem filterMap_cons_toList {α β : Type} (f : α → Option β) (first : α) (rest : List α) :
    (first :: rest).filterMap f = (f first).toList ++ rest.filterMap f := by
  rw [filterMap_cons]
  cases f first <;> rfl

theorem constraints_string : constraints raw "string" =
    (modifier? .min (accepted? raw "minLength")).toList ++
      (modifier? .max (accepted? raw "maxLength")).toList ++
      (modifier? .regex (accepted? raw "pattern")).toList := by
  have hkinds : ModifierKind.all.filter (constrains "string") = [.min, .max, .regex] := rfl
  rw [constraints, hkinds]
  simp only [filterMap_cons_toList, filterMap_nil, append_nil, append_assoc, argument?]

theorem constraints_number {type : String} (h : type ≠ "string") : constraints raw type =
    ((modifier? .gt (exclusive? raw ("minimum", "exclusiveMinimum"))).toList ++
      (modifier? .gte (inclusive? raw ("minimum", "exclusiveMinimum"))).toList) ++
    ((modifier? .lt (exclusive? raw ("maximum", "exclusiveMaximum"))).toList ++
      (modifier? .lte (inclusive? raw ("maximum", "exclusiveMaximum"))).toList) ++
    (modifier? .multipleOf (accepted? raw "multipleOf")).toList := by
  have hkinds : ModifierKind.all.filter (constrains type) = [.gt, .gte, .lt, .lte, .multipleOf] := by
    unfold constrains
    simp only [if_neg h]
    rfl
  rw [constraints, hkinds]
  simp only [filterMap_cons_toList, filterMap_nil, append_nil, append_assoc, argument?]

/-! ### What is read becomes these modifiers -/

theorem modifier?_eq {α : Type} {view : α → Value} {key : String} {noted : Noted (Option α)}
    (h : Reads raw key location view noted) (kind : ModifierKind) :
    modifier? kind (accepted? raw key) =
      noted.value.map fun value => { kind, args := [view value] } := by
  rw [← h.value, modifier?, Option.map_map]
  rfl

theorem isTrue_eq (location key : String) :
    isTrue raw key = decide ((readExclusive raw key location).value = some (.flag true)) := by
  cases hget : Entries.get? raw key with
  | none => simp [isTrue, readExclusive_of_none hget, hget]
  | some value =>
    cases value with
    | scalar value =>
      cases value with
      | bool value => cases value <;> simp [isTrue, readExclusive_of_flag hget, hget]
      | _ => simp [isTrue, readExclusive, readNumber, given?, hget]
    | _ => simp [isTrue, readExclusive, readNumber, given?, hget]

theorem boundModifiers_perm (pair : String × String) (hpair : pair ∈ boundPairs)
    (inclusive exclusive : ModifierKind) :
    (boundModifiers inclusive exclusive (readNumber raw pair.1 location).value
        (readExclusive raw pair.2 location).value).Perm
      ((modifier? exclusive (exclusive? raw pair)).toList ++
        (modifier? inclusive (inclusive? raw pair)).toList) := by
  have haccepts : ∀ pair ∈ boundPairs, accepts pair.1 = isNumber ∧
      accepts pair.2 = fun value => isNumber value || isBool value := by
    simp only [boundPairs, mem_cons, not_mem_nil, or_false]
    rintro pair (rfl | rfl) <;> exact ⟨rfl, rfl⟩
  have hbound : (readNumber raw pair.1 location).value.map Number.toValue = accepted? raw pair.1 :=
    (readNumber_reads pair.1 (haccepts pair hpair).1).value
  have hown : (readExclusive raw pair.2 location).value.map ExclusiveBound.toValue =
      accepted? raw pair.2 := (readExclusive_reads pair.2 (haccepts pair hpair).2).value
  rw [exclusive?, inclusive?, isTrue_eq location, ← hbound, ← hown]
  -- from here on it does not matter what stands in the document
  generalize (readNumber raw pair.1 location).value = bound
  generalize (readExclusive raw pair.2 location).value = own
  have hnumber : ∀ number : Number, isNumber number.toValue = true := by
    rintro (_ | _) <;> rfl
  rcases own with _ | (_ | _) | number
  · cases bound <;> simp [boundModifiers, modifier?]
  · cases bound <;> simp [boundModifiers, modifier?, ExclusiveBound.toValue, isNumber, Option.filter]
  · cases bound <;> simp [boundModifiers, modifier?]
  · cases bound with
    | none => simp [boundModifiers, modifier?, ExclusiveBound.toValue, hnumber, Option.filter]
    | some bound =>
      -- the ordinary bound is read first and applied last
      cases number <;> exact .swap _ _ _

/-! ### Schemas that are read -/

variable {type : String}

/-- A schema whose type is given alone is read from its keywords. -/
theorem ofValue_of_type (href : textOf? raw "$ref" = none)
    (htype : Entries.get? raw "type" = some (.text type)) :
    (ofValue (.map raw) location).value =
      (readKeywords (readAt (Value.entriesDepth raw)) raw location
        (readFlag raw "nullable" location).value { kind := .ofTypeName type }).value := by
  rw [ofValue_map le_rfl, ofEntries, href]
  rw [Noted.value_bind, readTyping_of_text htype, pure_bind]

theorem numberModifiers_perm {read : Reader} {nullable : Bool} {typing : Typing}
    (hstring : type ≠ "string") :
    (numberModifiers (readKeywords read raw location nullable typing).value).Perm
      (constraints raw type) := by
  have hmultiple : modifier? .multipleOf (accepted? raw "multipleOf") =
      (readNumber raw "multipleOf" location).value.map fun factor =>
        { kind := .multipleOf, args := [factor.toValue] } :=
    modifier?_eq (readNumber_reads "multipleOf" rfl) .multipleOf
  rw [constraints_number hstring, hmultiple, numberModifiers]
  simp only [readKeywords, Noted.value_bind, Noted.value_pure]
  exact ((boundModifiers_perm ("minimum", "exclusiveMinimum") (by decide) .gte .gt).append
    (boundModifiers_perm ("maximum", "exclusiveMaximum") (by decide) .lte .lt)).append (.refl _)

theorem countModifiers_eq (least most : Option Nat) :
    countModifiers least most =
      (least.map fun count : Nat => ({ kind := .min, args := [.int count] } : Modifier)).toList ++
        (most.map fun count : Nat => ({ kind := .max, args := [.int count] } : Modifier)).toList := by
  cases least <;> cases most <;> rfl

theorem textModifiers_eq {read : Reader} {nullable : Bool} {typing : Typing} :
    textModifiers (readKeywords read raw location nullable typing).value =
      constraints raw "string" ++
        (modifier? .format ((textOf? raw "format").bind checkedFormat? |>.map .text)).toList := by
  have hleast : modifier? .min (accepted? raw "minLength") =
      (readCount raw "minLength" location).value.map fun count =>
        { kind := .min, args := [.int count] } :=
    modifier?_eq (readCount_reads "minLength" rfl) .min
  have hmost : modifier? .max (accepted? raw "maxLength") =
      (readCount raw "maxLength" location).value.map fun count =>
        { kind := .max, args := [.int count] } :=
    modifier?_eq (readCount_reads "maxLength" rfl) .max
  have hpattern : modifier? .regex (accepted? raw "pattern") =
      (readPattern raw location).value.map fun pattern =>
        { kind := .regex, args := [.text pattern] } :=
    modifier?_eq readPattern_reads .regex
  have hformat : modifier? .format ((textOf? raw "format").bind checkedFormat? |>.map .text) =
      ((textOf? raw "format").bind checkedFormat?).map fun format =>
        { kind := .format, args := [.text format] } := by
    rw [modifier?, Option.map_map]
    rfl
  rw [constraints_string, hleast, hmost, hpattern, hformat, textModifiers,
    countModifiers_eq]
  simp only [readKeywords, Noted.value_bind, Noted.value_pure]

/-- The primitive that a type stands for. -/
def primitiveOf (type : String) : Primitive := if type = "string" then .string else .number

/-- What makes a number an integer. -/
def integerModifiers (type : String) : List Modifier :=
  if type = "integer" then [{ kind := .integer }] else []

theorem primitiveExpr?_of_type (location : String) (htype : type ∈ ["string", "number", "integer"])
    (read : Reader) (nullable : Bool) :
    ∃ given format, primitiveExpr?
        (readKeywords read raw location nullable { kind := .ofTypeName type }).value =
          some ((Expr.ofPrimitive (primitiveOf type)).withModifiers given) ∧
      given.Perm (integerModifiers type ++ constraints raw type ++ format) ∧
      (format.map Modifier.kind).Sublist [.format] := by
  simp only [mem_cons, not_mem_nil, or_false] at htype
  rcases htype with rfl | rfl | rfl
  · refine ⟨_, (modifier? .format ((textOf? raw "format").bind checkedFormat? |>.map .text)).toList,
      rfl, ?_, ?_⟩
    · rw [textModifiers_eq]
      exact .refl _
    · exact kinds_toList _ .format _
  · refine ⟨_, [], rfl, ?_, nil_sublist _⟩
    rw [append_nil]
    exact numberModifiers_perm (by decide)
  · refine ⟨_, [], rfl, ?_, nil_sublist _⟩
    rw [append_nil]
    exact (numberModifiers_perm (by decide)).cons _

theorem mem_trailingModifiers {withDefaults optional : Bool} {schema : Schema} {expr : Expr}
    {modifier : Modifier} (h : modifier ∈ trailingModifiers withDefaults optional schema expr) :
    modifier.kind ∈ [.default, .nullable] ∨ optional = true ∧ modifier.kind = .optional := by
  simp only [trailingModifiers, mem_append] at h
  rcases h with (hoptional | hdefault) | hnullable
  · split at hoptional
    · rename_i hmissing
      rw [mem_singleton.mp hoptional]
      exact .inr ⟨(Bool.and_eq_true_iff.mp hmissing).1, rfl⟩
    · cases hoptional
  · split at hdefault
    · split at hdefault
      · rw [mem_singleton.mp hdefault]
        exact .inl (.head _)
      · cases hdefault
    · cases hdefault
  · split at hnullable
    · rw [mem_singleton.mp hnullable]
      exact .inl (.tail _ (.head _))
    · cases hnullable

/-! ### Conversion -/

/-- A schema without parts, choices or a reference is converted by its type alone. -/
theorem convert_of_primitive (settings : Settings) {schema : Schema} (context : Context) {expr : Expr}
    (href : schema.ref = none) (hplain : schema.isComposed = false) (hconst : schema.const = none)
    (henum : schema.enum = none) (htype : schema.unsupportedType = none)
    (hexpr : primitiveExpr? schema = some expr) :
    convert settings schema context = pure (finished settings schema context.optional expr) := by
  have hkind : schema.kind ≠ .object ∧ schema.kind ≠ .array := by
    constructor <;> intro hkind <;> simp [primitiveExpr?, hkind] at hexpr
  simp only [isComposed, Bool.or_eq_false_iff, Option.isSome_eq_false_iff, Option.isNone_iff_eq_none]
    at hplain
  obtain ⟨⟨⟨hallOf, honeOf⟩, hanyOf⟩, hnegated⟩ := hplain
  have hleaf : plan settings schema context = leafPlan expr := by
    simp only [plan, hallOf, honeOf, hanyOf, hnegated, hconst, henum, htype, hexpr, if_neg hkind.1,
      if_neg hkind.2, Option.isSome_none, Option.getD_some]
    rfl
  obtain ⟨depth, hplan⟩ := convert_eq_plan settings schema context href
  rw [hplan, hleaf]
  rfl

/-- The modifiers of a primitive, all of different kinds, in the order of application. -/
theorem kinds_primitive (htype : type ∈ ["string", "number", "integer"])
    {format trailing : List Modifier} (hformat : (format.map Modifier.kind).Sublist [.format])
    (htrailing : (trailing.map Modifier.kind).Sublist [.optional, .default, .nullable]) :
    ((integerModifiers type ++ constraints raw type ++ format ++ trailing).map (·.kind)).Sublist
      ModifierKind.all := by
  have hall : ∀ type ∈ ["string", "number", "integer"],
      List.Sublist ([.integer] ++ ModifierKind.all.filter (constrains type) ++ [.format] ++
        [.optional, .default, .nullable]) ModifierKind.all := by decide
  have hinteger : ((integerModifiers type).map (·.kind)).Sublist [.integer] := by
    unfold integerModifiers
    split <;> simp
  have hconstraints : ((constraints raw type).map (·.kind)).Sublist
    (ModifierKind.all.filter (constrains type)) := kinds_filterMap _ _
  simp only [map_append]
  exact (((hinteger.append hconstraints).append hformat).append htrailing).trans (hall type htype)

theorem finished_of_primitive (settings : Settings) (schema : Schema) (optional : Bool)
    (htype : type ∈ ["string", "number", "integer"]) {given format : List Modifier}
    (hperm : given.Perm (integerModifiers type ++ constraints raw type ++ format))
    (hformat : (format.map Modifier.kind).Sublist [.format]) :
    ∃ aside : List Modifier,
      (∀ modifier ∈ aside, modifier.kind ∈ [.format, .default, .nullable] ∨
        optional = true ∧ modifier.kind = .optional) ∧
      finished settings schema optional ((Expr.ofPrimitive (primitiveOf type)).withModifiers given) =
        { kind := .primitive, primitive := some (primitiveOf type)
          modifiers := integerModifiers type ++ constraints raw type ++ aside } := by
  have hbuilt := Expr.ofPrimitive_withModifiers (primitiveOf type) hperm
    (kinds_primitive htype hformat (kinds_trailingModifiers settings.config.withDefaultValues optional
      schema ((Expr.ofPrimitive (primitiveOf type)).withModifiers given)))
  rw [append_assoc _ format] at hbuilt
  refine ⟨_, fun modifier hmodifier => ?_, hbuilt⟩
  rcases mem_append.mp hmodifier with hmodifier | hmodifier
  · have hkind := mem_singleton.mp (hformat.mem (mem_map_of_mem hmodifier))
    exact .inl (hkind ▸ .head _)
  · exact (mem_trailingModifiers hmodifier).imp_left (.tail _)

/-- A number or a text, given without choices and compositions, is converted to the primitive whose
modifiers are those that the document asks for, besides those for integers, formats, defaults and
`null`. There is a warning for each constraint that makes no sense, and for no other. -/
theorem constraints_carried (htype : type ∈ ["string", "number", "integer"])
    (hgiven : Entries.get? raw "type" = some (.text type)) (href : textOf? raw "$ref" = none)
    (hconst : (ofValue (.map raw) location).value.const = none)
    (henum : (ofValue (.map raw) location).value.enum = none)
    (hplain : (ofValue (.map raw) location).value.isComposed = false) :
    (∀ settings context, ∃ aside : List Modifier,
      (∀ modifier ∈ aside, modifier.kind ∈ [.format, .default, .nullable] ∨
        context.optional = true ∧ modifier.kind = .optional) ∧
      ∀ progress, outcome (convert settings (ofValue (.map raw) location).value context) progress =
        (.ok { kind := .primitive, primitive := some (primitiveOf type)
               modifiers := integerModifiers type ++ constraints raw type ++ aside }, progress)) ∧
    ∀ keyword ∈ constraintKeywords, (ofValue (.map raw) location).about keyword location =
      if malformed raw keyword then 1 else 0 := by
  refine ⟨fun settings context => ?_, fun keyword hkeyword => ?_⟩
  · rw [ofValue_of_type href hgiven] at hconst henum hplain ⊢
    obtain ⟨given, format, hexpr, hperm, hformat⟩ := primitiveExpr?_of_type location htype
      (readAt (Value.entriesDepth raw)) (readFlag raw "nullable" location).value
    have hsupported : ∀ type ∈ ["string", "number", "integer"], Kind.ofTypeName type ≠ .unknown := by
      decide
    have hunsupported : (readKeywords (readAt (Value.entriesDepth raw)) raw location
        (readFlag raw "nullable" location).value { kind := .ofTypeName type }).value.unsupportedType =
        none := by
      simp [readKeywords, hsupported type htype]
    have hconvert := convert_of_primitive settings context rfl hplain hconst henum hunsupported hexpr
    generalize Noted.value (readKeywords _ _ _ _ _) = schema at hconvert ⊢
    obtain ⟨aside, haside, hfinished⟩ :=
      finished_of_primitive settings schema context.optional htype hperm hformat
    refine ⟨aside, haside, fun progress => ?_⟩
    rw [hconvert, hfinished]
    rfl
  · -- the warnings arise when the schema is read, and its conversion adds none
    rw [ofValue_map le_rfl, about_ofEntries (readAt_carries _) href hkeyword]
    cases malformed raw keyword <;> rfl

/-- A flag makes the least value exclusive, and the greatest value is no number. -/
theorem constraints_carried_integer :
    let raw : Entries := [(.text "maximum", .text "many"), (.text "multipleOf", .int 5),
      (.text "exclusiveMinimum", .bool true), (.text "minimum", .int 10),
      (.text "type", .text "integer")]
    (ofValue (.map raw) "#").about "maximum" "#" = 1 ∧ ∀ settings, ∃ aside : List Modifier,
      (∀ modifier ∈ aside, modifier.kind ∈ [.format, .default, .nullable]) ∧
      ∀ progress, outcome (convert settings (ofValue (.map raw) "#").value {}) progress =
        (.ok { kind := .primitive, primitive := some .number
               modifiers := [{ kind := .integer }, { kind := .gt, args := [.int 10] },
                 { kind := .multipleOf, args := [.int 5] }] ++ aside }, progress) := by
  intro raw
  have hgiven : Entries.get? raw "type" = some (.text "integer") := rfl
  obtain ⟨hconverted, habout⟩ := constraints_carried (by decide) hgiven rfl rfl rfl rfl
  refine ⟨habout "maximum" (by decide), fun settings => ?_⟩
  obtain ⟨aside, haside, houtcome⟩ := hconverted settings {}
  exact ⟨aside, fun modifier hmodifier => (haside modifier hmodifier).resolve_right nofun, houtcome⟩

end Schema

end OpenApiClient
