import OpenApiClient.Proofs.Schema.Congruence
import OpenApiClient.Proofs.Schema.Steps

/-!
# Warnings about constraints

A constraint with a value that makes no sense is dropped with exactly one warning, and there is no
other warning about its keyword at the place of the schema (`about_ofEntries`). Warnings about the
parts of a schema say where those stand, so none of them is at the place of the schema itself.
-/

namespace OpenApiClient

open List

namespace Noted

variable {α β : Type}

/-- The number of warnings about a keyword at a location. -/
def about (noted : Noted α) (keyword location : String) : Nat :=
  noted.warnings.countP fun warning => warning.keyword = keyword && warning.location = location

variable {keyword location : String}

@[simp] theorem about_pure (value : α) : (pure value : Noted α).about keyword location = 0 := rfl

@[simp] theorem about_bind (noted : Noted α) (next : α → Noted β) :
    (noted >>= next).about keyword location =
      noted.about keyword location + (next noted.value).about keyword location :=
  countP_append

@[simp] theorem about_map (change : α → β) (noted : Noted α) :
    (change <$> noted).about keyword location = noted.about keyword location := by
  rw [← bind_pure_comp, about_bind, about_pure, Nat.add_zero]

@[simp] theorem about_warn (key message : String) :
    (warn location key message).about keyword location = if key = keyword then 1 else 0 := by
  by_cases h : key = keyword <;> simp [about, warn, h]

theorem about_under {noted : Noted α} {start : String} (h : start ≠ "") :
    (noted.under (location ++ start)).about keyword location = 0 := by
  refine countP_eq_zero.mpr fun warning hwarning => ?_
  obtain ⟨inner, -, rfl⟩ := mem_map.mp hwarning
  -- the location is longer than that of the schema
  have hlonger : location ++ start ++ inner.location ≠ location := by
    intro heq
    have hlength := congrArg String.length heq
    have hstart : start.length ≠ 0 := fun hzero => h (String.length_eq_zero_iff.mp hzero)
    simp only [String.length_append] at hlength
    omega
  simp [hlonger]

end Noted

/-- The value that an exclusive bound is. -/
def ExclusiveBound.toValue : ExclusiveBound → Value
  | .flag value => .bool value
  | .bound value => value.toValue

namespace Schema

open Noted

/-! ### Malformed values -/

/-- The keywords that constrain numbers and texts. -/
def constraintKeywords : List String :=
  ["minimum", "maximum", "exclusiveMinimum", "exclusiveMaximum", "multipleOf", "minLength",
   "maxLength", "pattern"]

/-- Whether a value is a number of characters. -/
def isCount : Value → Bool
  | .int value => 0 ≤ value
  | _ => false

/-- Whether a value makes sense as a constraint under a keyword. -/
def accepts (key : String) (value : Value) : Bool :=
  if key ∈ ["minimum", "maximum", "multipleOf"] then isNumber value
  else if key ∈ ["exclusiveMinimum", "exclusiveMaximum"] then isNumber value || isBool value
  else if key ∈ ["minLength", "maxLength"] then isCount value
  else isText value

/-- The value under a keyword, if it makes sense there. -/
def accepted? (raw : Entries) (key : String) : Option Value := (given? raw key).filter (accepts key)

/-- Whether there is a value under a keyword, not `null`, that makes no sense there. -/
def malformed (raw : Entries) (key : String) : Bool := (given? raw key).any (!accepts key ·)

variable {read : Reader} {raw : Entries} {key keyword location : String}

/-! ### Constraints -/

/-- A constraint is read as what stands under its keyword if that makes sense, and else as nothing,
with one warning. -/
structure Reads {α : Type} (raw : Entries) (key location : String) (view : α → Value)
    (noted : Noted (Option α)) : Prop where
  value : noted.value.map view = accepted? raw key
  about : ∀ keyword, noted.about keyword location =
    if key = keyword then (malformed raw key).toNat else 0

section Reads

variable {α : Type} {view : α → Value} {value : Value}

theorem reads_none (h : given? raw key = none) :
    Reads raw key location view (pure none) := by
  constructor <;> simp [accepted?, malformed, h]

theorem reads_some (h : given? raw key = some value) (haccepts : accepts key value = true)
    {found : α} (hview : view found = value) :
    Reads raw key location view (pure (some found)) := by
  constructor <;> simp [accepted?, malformed, h, haccepts, hview, Option.filter]

theorem reads_malformed (h : given? raw key = some value) (haccepts : accepts key value = false)
    (message : String) :
    Reads raw key location view (do Noted.warn location key message; return none) := by
  constructor <;> simp [accepted?, malformed, h, haccepts, Option.filter]

end Reads

theorem readNumber_reads (key : String) (h : accepts key = isNumber) :
    Reads raw key location Number.toValue (readNumber raw key location) := by
  unfold readNumber
  split
  · exact reads_none ‹_›
  · exact reads_some ‹_› (by rw [h]; rfl) rfl
  · exact reads_some ‹_› (by rw [h]; rfl) rfl
  · rename_i value hint hfloat hgiven
    have hnot : isNumber value = false := by
      unfold isNumber
      split
      · exact absurd rfl (hint _)
      · exact absurd rfl (hfloat _)
      · rfl
    exact reads_malformed hgiven (by rw [h, hnot]) _

theorem readExclusive_reads (key : String)
    (h : accepts key = fun value => isNumber value || isBool value) :
    Reads raw key location ExclusiveBound.toValue (readExclusive raw key location) := by
  unfold readExclusive readNumber
  split
  · exact reads_some ‹_› (by rw [h]; rfl) rfl
  · rename_i hbool
    split
    · exact reads_none ‹_›
    · exact reads_some ‹_› (by rw [h]; rfl) rfl
    · exact reads_some ‹_› (by rw [h]; rfl) rfl
    · rename_i value hint hfloat hgiven
      have hnot : (isNumber value || isBool value) = false := by
        unfold isNumber isBool
        split
        · exact absurd rfl (hint _)
        · exact absurd rfl (hfloat _)
        · split
          · exact absurd hgiven (hbool _)
          · rfl
      exact reads_malformed hgiven (by rw [h]; exact hnot) _

theorem readCount_reads (key : String) (h : accepts key = isCount) :
    Reads raw key location (fun count : Nat => .int count) (readCount raw key location) := by
  unfold readCount
  split
  · exact reads_none ‹_›
  · rename_i value hgiven
    by_cases hle : 0 ≤ value
    · rw [if_pos hle]
      exact reads_some hgiven (by rw [h]; exact decide_eq_true hle) (by rw [Int.toNat_of_nonneg hle])
    · rw [if_neg hle]
      exact reads_malformed hgiven (by rw [h]; exact decide_eq_false hle) _
  · rename_i value hint hgiven
    have hnot : isCount value = false := by
      unfold isCount
      split
      · exact absurd rfl (hint _)
      · rfl
    exact reads_malformed hgiven (by rw [h, hnot]) _

theorem readPattern_reads :
    Reads raw "pattern" location Value.text (readPattern raw location) := by
  unfold readPattern
  split
  · exact reads_none ‹_›
  · exact reads_some ‹_› rfl rfl
  · rename_i value htext hgiven
    have hnot : isText value = false := by
      unfold isText
      split
      · exact absurd rfl (htext _)
      · rfl
    exact reads_malformed hgiven hnot _

/-! ### Other keywords -/

theorem about_readFlag (h : key ≠ keyword) :
    (readFlag raw key location).about keyword location = 0 := by
  unfold readFlag
  split <;> simp [h]

theorem about_joinMembers {anyOf types : Option (List Schema)}
    (h : types = none ∨ "type" ≠ keyword) :
    (joinMembers location anyOf types).about keyword location = 0 := by
  unfold joinMembers
  split
  · simp [h.resolve_left (by simp)]
  · rfl
  · rfl

theorem about_placed {α : Type} {noted : String → Noted α} {start : String} (hstart : start ≠ "")
    (h : ∀ before after, noted (before ++ after) = (noted after).under before) (rest : String) :
    (noted (location ++ start ++ rest)).about keyword location = 0 := by
  rw [h]
  exact about_under hstart

/-- Steps that warn about other keywords do not warn about this one at the place of the schema: the
warnings about a part are somewhere else. -/
theorem Steps.about {keys : String → Prop} {α : Type} {act : Reader → String → Noted α}
    (h : Steps keys raw act) (hread : read.Carries) (hkeys : ∀ key, keys key → key ≠ keyword) :
    (act read location).about keyword location = 0 := by
  induction h with
  | pure value => rfl
  | warn hkey => simp [hkeys _ hkey]
  | part => exact about_placed (by decide) (hread _) _
  | property => exact about_placed (by decide) (hread _) _
  | typed _ _ hinner => exact about_placed (by decide) (hinner.append hread) _
  | bind _ _ ihfirst ihnext => simp [ihfirst hkeys, ihnext read location hkeys]

section Parts

variable (hread : read.Carries)

include hread

theorem about_readKeywords (nullable : Bool) {typing : Typing}
    (h : keyword ∈ "type" :: constraintKeywords) (htype : typing.members = none ∨ "type" ≠ keyword) :
    (readKeywords read raw location nullable typing).about keyword location =
      if "type" = keyword then 0 else (malformed raw keyword).toNat := by
  have hplain : ∀ keyword ∈ "type" :: constraintKeywords, keyword ∉ unsupportedKeywords ∧
      ∀ key ∈ ["enum", "minItems", "maxItems", "properties", "required", "additionalProperties",
        "items", "allOf", "oneOf", "anyOf"], key ≠ keyword := by decide
  obtain ⟨hunsupported, hother⟩ := hplain keyword h
  -- the readers of all other keywords say nothing about this one
  have hsilent : ∀ {α : Type} {act : Reader → String → Noted α}, Steps (· ≠ keyword) raw act →
      (act read location).about keyword location = 0 := fun hsteps => hsteps.about hread fun _ => id
  simp only [readKeywords, about_bind, about_pure,
    hsilent (readEnum_steps (hother "enum" (by decide))),
    hsilent (readCount_steps (hother "minItems" (by decide))),
    hsilent (readCount_steps (hother "maxItems" (by decide))),
    hsilent (readProperties_steps (hother "properties" (by decide))),
    hsilent (readRequired_steps (hother "required" (by decide))),
    hsilent (readAdditional_steps (hother "additionalProperties" (by decide))),
    hsilent (readItems_steps (hother "items" (by decide))), hsilent readNegated_steps,
    hsilent (readMembers_steps (hother "allOf" (by decide)) (by decide)),
    hsilent (readMembers_steps (hother "oneOf" (by decide)) (by decide)),
    hsilent (readMembers_steps (hother "anyOf" (by decide)) (by decide)),
    about_joinMembers htype,
    hsilent (noteUnsupported_steps fun key hkey heq => hunsupported (heq ▸ hkey)),
    (readNumber_reads "minimum" rfl).about, (readNumber_reads "maximum" rfl).about,
    (readNumber_reads "multipleOf" rfl).about,
    (readExclusive_reads "exclusiveMinimum" rfl).about,
    (readExclusive_reads "exclusiveMaximum" rfl).about,
    (readCount_reads "minLength" rfl).about, (readCount_reads "maxLength" rfl).about,
    readPattern_reads.about]
  simp only [constraintKeywords, mem_cons, not_mem_nil, or_false] at h
  rcases h with rfl | rfl | rfl | rfl | rfl | rfl | rfl | rfl | rfl <;> simp

/-- Every malformed constraint, and no other, gives one warning about its keyword at the place of
the schema. -/
theorem about_ofEntries (href : textOf? raw "$ref" = none) (h : keyword ∈ constraintKeywords) :
    (ofEntries read raw location).about keyword location = (malformed raw keyword).toNat := by
  have hplain : ∀ keyword ∈ constraintKeywords, "nullable" ≠ keyword ∧ "type" ≠ keyword := by decide
  obtain ⟨hnullable, htype⟩ := hplain keyword h
  simp only [ofEntries, href, about_bind, about_readFlag hnullable,
    (readTyping_steps htype).about hread (fun _ => id),
    about_readKeywords hread _ (.tail _ h) (.inr htype), if_neg htype, Nat.zero_add]

end Parts

end Schema

end OpenApiClient
