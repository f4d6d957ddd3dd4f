import OpenApiClient.Proofs.Conversion.Merged
import OpenApiClient.Proofs.Conversion.Spellings
import OpenApiClient.Proofs.Schema.Complaints

/-!
# Types that nothing stands for

A schema whose type makes no sense is taken for any value, which turns its validation off. That this
is done is said in a warning about the type, with one exception: a list of types that names none is
passed over without a word (`type_dropped_iff`).

Reading and conversion share the work. Reading understands the type, or it keeps its name for the
conversion to complain about, or it complains itself (`readTyping_cases`).
-/

namespace OpenApiClient.Schema

open Conversion Noted List

variable {read : Reader} {raw : Entries} {location : String}

/-- Whether the type of a schema is a list that names no type. -/
def NamesNoType (raw : Entries) : Prop :=
  ∃ types, Entries.get? raw "type" = some (.list types) ∧ types.filterMap Value.text? = []

/-- The keywords for choices and compositions. -/
def shapeKeywords : List String := ["const", "enum", "allOf", "oneOf", "anyOf", "not"]

/-- A schema is taken for any value, and neither its reading nor its conversion has a warning about
its type. -/
def DropsType (settings : Settings) (raw : Entries) (context : Context) (progress : Progress) :
    Prop :=
  ∃ expr reached,
    outcome (convert settings (ofValue (.map raw) context.location).value context) progress =
      (.ok expr, reached) ∧ expr.kind = .unknown ∧
    ∀ warning ∈ (ofValue (.map raw) context.location).warnings ++
        reached.warnings.drop progress.warnings.length,
      ¬ (warning.keyword = "type" ∧ warning.location = context.location)

/-! ### Reading -/

theorem readTyping_of_namesNoType (h : NamesNoType raw) :
    readTyping read raw location = pure { kind := .unknown } := by
  obtain ⟨types, htype, htexts⟩ := h
  simp [readTyping, given?, htype, typeNames, htexts]

theorem soleTypeName?_of_namesNoType (h : NamesNoType raw) : soleTypeName? raw = none := by
  obtain ⟨types, htype, htexts⟩ := h
  simp [soleTypeName?, htype, typeNames, htexts]

/-- Any other type is understood, or it has one name, or there is a warning about it. -/
theorem readTyping_cases (read : Reader) (location : String) (hgiven : given? raw "type" ≠ none)
    (h : ¬ NamesNoType raw) :
    ((readTyping read raw location).value.members = none →
      (readTyping read raw location).value.kind = .unknown → soleTypeName? raw ≠ none) ∨
    0 < (readTyping read raw location).about "type" location := by
  unfold readTyping
  split
  · exact absurd ‹_› hgiven
  · rename_i name hname
    exact .inl fun _ _ => by simp [soleTypeName?, given?_eq_some hname]
  · rename_i types htypes
    have htype := given?_eq_some htypes
    left
    dsimp only
    split
    · rename_i hnames
      -- a list that names nothing but `null` is understood
      have hnull : "null" ∈ types.filterMap Value.text? := by
        by_contra hnot
        refine h ⟨types, htype, eq_nil_iff_forall_not_mem.mpr fun name hname => ?_⟩
        have hother : name ≠ "null" := fun heq => hnot (heq ▸ hname)
        have hlisted : name ∈ typeNames types := mem_filter.mpr ⟨hname, by simpa using hother⟩
        rw [hnames] at hlisted
        cases hlisted
      intro _ hkind
      rw [contains_iff_mem.mpr hnull] at hkind
      cases hkind
    · rename_i name hnames
      simp [soleTypeName?, htype, hnames]
    · simp
  · exact .inr (by simp)

/-- The name of the only type of a schema, if nothing stands for it. -/
def Typing.unsupported (typing : Typing) (raw : Entries) : Option String :=
  if typing.kind = .unknown && typing.members.isNone then soleTypeName? raw else none

/-- A schema of a type, without choices and compositions. -/
def typed (schema : Schema) (typing : Typing) (unsupportedType : Option String) : Schema :=
  { schema with
    ref := none, allOf := none, oneOf := none, anyOf := typing.members, negated := none
    const := none, enum := none, kind := typing.kind, unsupportedType }

theorem readKeywords_typed (read : Reader) (location : String) (nullable : Bool) (typing : Typing)
    (hplain : ∀ key ∈ shapeKeywords, Entries.get? raw key = none) :
    ∃ schema, (readKeywords read raw location nullable typing).value =
      typed schema typing (typing.unsupported raw) := by
  have hmembers : ∀ key ∈ shapeKeywords, readMembers read raw key location = pure none :=
    fun key hkey => by simp [readMembers, given?, hplain key hkey]
  refine ⟨(readKeywords read raw location nullable typing).value, ?_⟩
  simp [readKeywords, typed, Typing.unsupported, joinMembers, readEnum, readNegated, given?,
    hmembers "allOf" (by decide), hmembers "oneOf" (by decide), hmembers "anyOf" (by decide),
    hplain "enum" (by decide), hplain "not" (by decide), hplain "const" (by decide)]

/-! ### Conversion -/

section Conversion

variable {settings : Settings} {schema : Schema} {context : Context} {progress reached : Progress}
  {expr : Expr} {typing : Typing}

/-- A type that is understood is converted to something of its own. -/
theorem kind_ne_unknown_of_typed (h : typing.members = none → typing.kind ≠ .unknown)
    (hconvert : outcome (convert settings (typed schema typing none) context) progress =
      (.ok expr, reached)) : expr.kind ≠ .unknown := by
  obtain ⟨depth, hplan⟩ := convert_eq_plan settings (typed schema typing none) context rfl
  rw [hplan] at hconvert
  obtain ⟨base, _, hbase, hfinished⟩ := outcome_bind_ok.mp hconvert
  cases hfinished
  rw [finished_kind]
  obtain ⟨kind, nullable, members⟩ := typing
  cases members with
  | some members =>
    obtain ⟨-, exprs, -, rfl⟩ := Plan.outcome_run_ok rfl hbase
    simp [typed, plan, unionPlan]
  | none =>
    cases kind
    case unknown => exact absurd rfl (h rfl)
    all_goals
      obtain ⟨-, exprs, -, rfl⟩ := Plan.outcome_run_ok rfl hbase
      simp [typed, plan, objectPlan, objectExpr, arrayPlan, arrayExpr, leafPlan, primitiveExpr?,
        Expr.ofPrimitive]

/-- A type that nothing stands for is named in a warning. -/
theorem warnings_of_unsupported {name : String} (hmembers : typing.members = none)
    (hconvert : outcome (convert settings (typed schema typing (some name)) context) progress =
      (.ok expr, reached)) :
    reached.warnings = progress.warnings ++
      [{ message := typeNote name, keyword := "type", location := context.location }] := by
  obtain ⟨depth, hplan⟩ := convert_eq_plan settings (typed schema typing (some name)) context rfl
  obtain ⟨kind, nullable, members⟩ := typing
  subst hmembers
  rw [hplan] at hconvert
  cases hconvert
  rfl

/-- A schema without a type is taken for any value. -/
theorem outcome_of_untyped (settings : Settings) (schema : Schema) (context : Context)
    (progress : Progress) :
    outcome (convert settings (typed schema { kind := .unknown } none) context) progress =
      (.ok (finished settings (typed schema { kind := .unknown } none) context.optional
        (.unknown none)), progress) := by
  obtain ⟨depth, hplan⟩ :=
    convert_eq_plan settings (typed schema { kind := .unknown } none) context rfl
  rw [hplan]
  rfl

end Conversion

/-! ### Reading and conversion -/

theorem about_eq_zero_iff {α : Type} {noted : Noted α} {keyword : String} :
    noted.about keyword location = 0 ↔
      ∀ warning ∈ noted.warnings, ¬ (warning.keyword = keyword ∧ warning.location = location) := by
  simp [about, countP_eq_zero]

/-- A schema without choices and compositions is read as its type, and warnings about the type come
from there. -/
theorem ofValue_typed (location : String) (href : textOf? raw "$ref" = none)
    (hplain : ∀ key ∈ shapeKeywords, Entries.get? raw key = none) :
    ∃ noted schema, noted = readTyping (readAt (Value.entriesDepth raw)) raw location ∧
      (ofValue (.map raw) location).value =
        typed schema noted.value (noted.value.unsupported raw) ∧
      noted.about "type" location ≤ (ofValue (.map raw) location).about "type" location ∧
      (noted.value.members = none →
        (ofValue (.map raw) location).about "type" location = noted.about "type" location) := by
  obtain ⟨schema, hschema⟩ := readKeywords_typed (readAt (Value.entriesDepth raw)) location
    (readFlag raw "nullable" location).value
    (readTyping (readAt (Value.entriesDepth raw)) raw location).value hplain
  refine ⟨_, schema, rfl, ?_, ?_, fun hmembers => ?_⟩
  · rw [ofValue_map le_rfl, ofEntries, href, Noted.value_bind, Noted.value_bind, hschema]
  · rw [ofValue_map le_rfl, ofEntries, href]
    simp only [about_bind]
    omega
  · rw [ofValue_map le_rfl, ofEntries, href]
    simp only [about_bind, about_readFlag (show "nullable" ≠ "type" by decide),
      about_readKeywords (readAt_carries _) _ (.head _) (.inl hmembers), if_true]
    omega

/-- A schema with a type, and without choices and compositions, is taken for any value without a
warning about its type exactly if the type is a list that names none. -/
theorem type_dropped_iff (href : textOf? raw "$ref" = none)
    (hplain : ∀ key ∈ shapeKeywords, Entries.get? raw key = none)
    (hgiven : given? raw "type" ≠ none) (settings : Settings) (context : Context)
    (progress : Progress) : DropsType settings raw context progress ↔ NamesNoType raw := by
  obtain ⟨noted, schema, hnoted, hvalue, hle, habout⟩ := ofValue_typed context.location href hplain
  rw [DropsType, hvalue]
  constructor
  · rintro ⟨expr, reached, hconvert, hkind, hsilent⟩
    by_contra hnames
    obtain ⟨hread, hconverted⟩ := forall_mem_append.mp hsilent
    rcases readTyping_cases (readAt (Value.entriesDepth raw)) context.location hgiven hnames
      with hsole | hwarned
    · rw [← hnoted] at hsole
      cases hunsupported : noted.value.unsupported raw with
      | none =>
        rw [hunsupported] at hconvert
        refine kind_ne_unknown_of_typed (fun hmembers hunknown => ?_) hconvert hkind
        exact hsole hmembers hunknown
          (by simpa [Typing.unsupported, hmembers, hunknown] using hunsupported)
      | some name =>
        have hmembers : noted.value.members = none := by
          simp only [Typing.unsupported] at hunsupported
          split at hunsupported
          · rename_i hunknown
            simpa using (Bool.and_eq_true_iff.mp hunknown).2
          · cases hunsupported
        rw [hunsupported] at hconvert
        rw [warnings_of_unsupported hmembers hconvert, drop_left] at hconverted
        exact hconverted _ (.head _) ⟨rfl, rfl⟩
    · -- there was a warning about the type when it was read
      rw [← hnoted] at hwarned
      have hzero := about_eq_zero_iff.mpr hread
      omega
  · intro hnames
    have htyping : noted = pure { kind := .unknown } := hnoted.trans (readTyping_of_namesNoType hnames)
    have hunsupported : noted.value.unsupported raw = none := by
      rw [htyping]
      exact soleTypeName?_of_namesNoType hnames
    subst htyping
    rw [hunsupported]
    refine ⟨_, _, outcome_of_untyped settings schema context progress, ?_, ?_⟩
    · exact finished_kind _ _ _ _
    · rw [drop_length, append_nil]
      exact about_eq_zero_iff.mp (habout rfl)

/-- An empty list is passed over, and a name that stands for no type is not. -/
theorem type_dropped_iff_emptyList :
    let settings : Settings := { registry := {}, config := {} }
    DropsType settings [(.text "type", .list []), (.text "minLength", .int 3)] {} {} ∧
      ¬ DropsType settings [(.text "type", .text "money")] {} {} := by
  intro settings
  have hempty : DropsType settings [(.text "type", .list []), (.text "minLength", .int 3)] {} {} ↔
      NamesNoType _ := type_dropped_iff rfl (by decide) (by decide) settings {} {}
  have hnamed : DropsType settings [(.text "type", .text "money")] {} {} ↔ NamesNoType _ :=
    type_dropped_iff rfl (by decide) (by decide) settings {} {}
  refine ⟨hempty.mpr ⟨[], rfl, rfl⟩, fun hdrops => ?_⟩
  obtain ⟨types, htypes, -⟩ := hnamed.mp hdrops
  cases htypes

end OpenApiClient.Schema
