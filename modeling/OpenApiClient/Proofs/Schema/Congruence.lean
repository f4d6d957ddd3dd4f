import OpenApiClient.Proofs.Schema.Reader

/-!
# What the reading of a schema depends on

A schema is read keyword by keyword, and what a keyword is read as depends on nothing but what stands
under it. `Alike` says when two mappings have the same under a keyword as far as reading goes, where
the schemas inside may differ if two readers read them as the same. Mappings that are alike under all
keywords are read as the same schema (`ofEntries_congr`). Where they differ in bounds only,
`readKeywords_eq` says in what the schemas differ.

So the depth up to which a schema is read does not matter once it is that of the value
(`ofValue_eq_readAt`).
-/

namespace OpenApiClient

open Entries List

theorem Noted.warnings_bind {α β : Type} (noted : Noted α) (next : α → Noted β) :
    (noted >>= next).warnings = noted.warnings ++ (next noted.value).warnings := rfl

theorem Value.depth_pos (value : Value) : 0 < value.depth := by
  cases value <;> simp [Value.depth]

namespace Schema

/-! ### Keywords with schemas under them -/

/-- The keywords under which a schema stands. -/
def schemaKeywords : List String :=
  ["additionalProperties", "items", "not", "if", "then", "else", "contains", "propertyNames",
   "unevaluatedProperties", "unevaluatedItems"]

/-- The keywords under which a list of schemas stands. -/
def memberKeywords : List String := ["allOf", "oneOf", "anyOf", "items", "prefixItems"]

/-- The keywords under which schemas stand with names of their own. -/
def tableKeywords : List String :=
  ["properties", "patternProperties", "dependentSchemas", "definitions", "$defs"]

/-- The keywords under which there are schemas. -/
def partKeywords : List String := schemaKeywords ++ memberKeywords ++ tableKeywords

/-- What stands under a key is kept as a whole, or but for related schemas in the place of others. -/
inductive Kept (whole : Value → Prop) (related : Value → Value → Prop) : Scalar → Value → Value → Prop
  | same {key : Scalar} {value : Value} : (isKeyword partKeywords key → whole value) →
      Kept whole related key value value
  | schema {name : String} {value other : Value} : name ∈ schemaKeywords → related value other →
      Kept whole related (.text name) value other
  | members {name : String} {items others : List Value} : name ∈ memberKeywords →
      List.Forall₂ related items others →
      Kept whole related (.text name) (.list items) (.list others)
  | table {name : String} {entries others : Entries} : name ∈ tableKeywords →
      List.Forall₂ (fun entry other => entry.1 = other.1 ∧ related entry.2 other.2) entries others →
      Kept whole related (.text name) (.map entries) (.map others)

/-- Two readers read a value, and all that is nested no deeper, as the same. -/
def ReadsSame (read reread : Reader) (value : Value) : Prop :=
  ∀ part, part.depth ≤ value.depth → ∀ location, read part location = reread part location

/-- One value, or two mappings, of which one reader reads the first as another one the second. -/
inductive ReadAlike (read reread : Reader) : Value → Value → Prop
  | same {value : Value} : (∀ location, read value location = reread value location) →
      ReadAlike read reread value value
  | maps {entries others : Entries} : entries ≠ [] → others ≠ [] →
      (∀ location, read (.map entries) location = reread (.map others) location) →
      ReadAlike read reread (.map entries) (.map others)

variable {read reread : Reader} {raw other : Entries} {location name : String}

theorem ReadAlike.read_eq {value given : Value} (h : ReadAlike read reread value given)
    (location : String) : read value location = reread given location := by
  cases h with
  | same hread => exact hread location
  | maps _ _ hread => exact hread location

/-- Two mappings have the same under a keyword, as far as readers of the schemas there go. -/
def Alike (read reread : Reader) (raw other : Entries) (name : String) : Prop :=
  Option.Rel (Kept (ReadsSame read reread) (ReadAlike read reread) (.text name))
    (get? raw name) (get? other name)

theorem alike_of_get?_eq (h : get? raw name = get? other name)
    (hread : ∀ value, get? other name = some value → ReadsSame read reread value) :
    Alike read reread raw other name := by
  rw [Alike, h]
  cases hvalue : get? other name with
  | none => exact .none
  | some value => exact .some (.same fun _ => hread value hvalue)

theorem Alike.has (h : Alike read reread raw other name) :
    has raw name = has other name := by
  unfold Entries.has
  rw [Alike] at h
  generalize get? raw name = first, get? other name = second at h
  cases h <;> rfl

/-- Where no schema stands under a keyword, the same stands there. -/
theorem Alike.get?_eq (h : Alike read reread raw other name)
    (hname : name ∉ partKeywords) : get? raw name = get? other name := by
  simp only [partKeywords, mem_append, not_or] at hname
  rw [Alike] at h
  generalize get? raw name = first, get? other name = second at h
  cases h with
  | none => rfl
  | some hkept =>
    cases hkept with
    | same => rfl
    | schema hmem => exact absurd hmem hname.1.1
    | members hmem => exact absurd hmem hname.1.2
    | table hmem => exact absurd hmem hname.2

/-! ### Depths of parts -/

theorem depth_le_listDepth {items : List Value} {item : Value} (h : item ∈ items) :
    item.depth ≤ Value.listDepth items := by
  induction items with
  | nil => cases h
  | cons first rest ih =>
    rw [Value.listDepth]
    cases h with
    | head => exact le_max_left _ _
    | tail _ hrest => exact (ih hrest).trans (le_max_right _ _)

theorem depth_le_entriesDepth {entries : Entries} {entry : Scalar × Value} (h : entry ∈ entries) :
    entry.2.depth ≤ Value.entriesDepth entries := by
  induction entries with
  | nil => cases h
  | cons first rest ih =>
    rw [Value.entriesDepth]
    cases h with
    | head => exact le_max_left _ _
    | tail _ hrest => exact (ih hrest).trans (le_max_right _ _)

/-! ### Parts -/

/-- The members of a list that is kept are read alike. -/
theorem ReadsSame.members {items : List Value} (h : ReadsSame read reread (.list items)) :
    List.Forall₂ (ReadAlike read reread) items items := by
  refine forall₂_same.mpr fun item hitem => .same (h item ?_)
  rw [Value.depth]
  exact (depth_le_listDepth hitem).trans (Nat.le_succ _)

/-- The schemas in a table that is kept are read alike. -/
theorem ReadsSame.table {entries : Entries} (h : ReadsSame read reread (.map entries)) :
    List.Forall₂ (fun entry other => entry.1 = other.1 ∧ ReadAlike read reread entry.2 other.2)
      entries entries := by
  refine forall₂_same.mpr fun entry hentry => ⟨rfl, .same (h entry.2 ?_)⟩
  rw [Value.depth]
  exact (depth_le_entriesDepth hentry).trans (Nat.le_succ _)

theorem mapM_zipIdx_congr {m : Type → Type} [Monad m] [LawfulMonad m] {α β : Type}
    {act react : α × Nat → m β} {items others : List α}
    (h : List.Forall₂ (fun item other => ∀ index, act (item, index) = react (other, index))
      items others) : ∀ start, (items.zipIdx start).mapM act = (others.zipIdx start).mapM react := by
  induction h with
  | nil => exact fun _ => rfl
  | cons hfirst _ ih =>
    intro start
    rw [zipIdx_cons, zipIdx_cons, mapM_cons, mapM_cons, hfirst, ih]

theorem readProperties_congr (h : Alike read reread raw other "properties") :
    readProperties read raw location = readProperties reread other location := by
  have htable : ∀ {entries others : Entries}, List.Forall₂ (fun entry other => entry.1 = other.1 ∧
      ReadAlike read reread entry.2 other.2) entries others →
      (entries.mapM fun entry => do
        let schema ← read entry.2 (location ++ "/properties/" ++ Pointer.escape entry.1.plain)
        return (entry.1.plain, schema)) =
      others.mapM fun entry => do
        let schema ← reread entry.2 (location ++ "/properties/" ++ Pointer.escape entry.1.plain)
        return (entry.1.plain, schema) := by
    intro entries others hentries
    induction hentries with
    | nil => rfl
    | cons hfirst _ ih => rw [mapM_cons, mapM_cons, ih, hfirst.1, hfirst.2.read_eq]
  unfold readProperties given?
  rw [Alike] at h
  generalize get? raw "properties" = first, get? other "properties" = second at h
  cases h with
  | none => rfl
  | @some value _ hkept =>
    cases hkept with
    | same hsame =>
      cases value with
      | map entries => exact congrArg (· >>= _) (htable (hsame (by decide)).table)
      | scalar value => cases value <;> rfl
      | _ => rfl
    | schema hmem => exact absurd hmem (by decide)
    | members hmem => exact absurd hmem (by decide)
    | table _ hentries => exact congrArg (· >>= _) (htable hentries)

/-- Under a keyword without a table there are schemas that are read alike, or lists. -/
theorem Kept.readAlike_or_lists {value given : Value}
    (h : Kept (ReadsSame read reread) (ReadAlike read reread) (.text name) value given)
    (hpart : name ∈ partKeywords) (hname : name ∉ tableKeywords) :
    ReadAlike read reread value given ∨
      ∃ items others, value = .list items ∧ given = .list others := by
  cases h with
  | same hsame => exact .inl (.same (hsame (by simpa [isKeyword] using hpart) _ le_rfl))
  | schema _ halike => exact .inl halike
  | members => exact .inr ⟨_, _, rfl, rfl⟩
  | table hmem => exact absurd hmem hname

theorem readAdditional_congr (h : Alike read reread raw other "additionalProperties") :
    readAdditional read raw location = readAdditional reread other location := by
  unfold readAdditional
  rw [Alike] at h
  generalize get? raw "additionalProperties" = first,
    get? other "additionalProperties" = second at h
  cases h with
  | none => rfl
  | @some value _ hkept =>
    obtain halike | ⟨_, _, rfl, rfl⟩ := hkept.readAlike_or_lists (by decide) (by decide)
    · cases halike with
      | same hread =>
        cases value with
        | map entries => cases entries <;> simp only [hread]
        | scalar value => cases value <;> rfl
        | _ => rfl
      | maps hentries hothers hread => simp only [hread]
    · rfl

theorem readItems_congr (h : Alike read reread raw other "items") :
    readItems read raw location = readItems reread other location := by
  unfold readItems
  rw [Alike] at h
  generalize get? raw "items" = first, get? other "items" = second at h
  cases h with
  | none => rfl
  | @some value _ hkept =>
    obtain halike | ⟨_, _, rfl, rfl⟩ := hkept.readAlike_or_lists (by decide) (by decide)
    · cases halike with
      | same hread =>
        cases value with
        | list items => rfl
        | _ => simp only [hread]
      | maps _ _ hread => simp only [hread]
    · rfl

theorem readNegated_congr (h : Alike read reread raw other "not") :
    readNegated read raw location = readNegated reread other location := by
  unfold readNegated
  rw [Alike] at h
  generalize get? raw "not" = first, get? other "not" = second at h
  cases h with
  | none => rfl
  | some hkept =>
    cases hkept with
    | same hsame => simp only [hsame (by decide) _ le_rfl]
    | schema _ halike => simp only [halike.read_eq]
    | members hmem => exact absurd hmem (by decide)
    | table hmem => exact absurd hmem (by decide)

theorem readMembers_congr (h : Alike read reread raw other name) (hpart : name ∈ partKeywords)
    (hname : name ∉ schemaKeywords ++ tableKeywords) :
    readMembers read raw name location = readMembers reread other name location := by
  have hmembers : ∀ {items others : List Value},
      List.Forall₂ (ReadAlike read reread) items others → ∀ start,
      ((items.zipIdx start).mapM fun member =>
        read member.1 (location ++ "/" ++ name ++ "/" ++ toString member.2)) =
      (others.zipIdx start).mapM fun member =>
        reread member.1 (location ++ "/" ++ name ++ "/" ++ toString member.2) :=
    fun hitems => mapM_zipIdx_congr (hitems.imp fun _ _ halike _ => halike.read_eq _)
  rw [mem_append, not_or] at hname
  unfold readMembers given?
  rw [Alike] at h
  generalize get? raw name = first, get? other name = second at h
  cases h with
  | none => rfl
  | @some value _ hkept =>
    cases hkept with
    | same hsame =>
      have hwhole : ReadsSame read reread value := hsame (by simpa [isKeyword] using hpart)
      cases value with
      | list items =>
        cases items with
        | nil => rfl
        | cons => exact congrArg (· >>= _) (hmembers hwhole.members 0)
      | scalar value => cases value <;> rfl
      | _ => rfl
    | schema hmem => exact absurd hmem hname.1
    | table hmem => exact absurd hmem hname.2
    | members _ hitems =>
      cases hitems with
      | nil => rfl
      | cons hfirst hrest => exact congrArg (· >>= _) (hmembers (.cons hfirst hrest) 0)

/-! ### All keywords -/

/-- The keywords that bound a number. -/
def boundKeywords : List String :=
  ["minimum", "maximum", "exclusiveMinimum", "exclusiveMaximum"]

/-- The keywords that can say the same in several ways. -/
def spellingKeywords : List String := "type" :: "nullable" :: boundKeywords

theorem warnings_joinMembers {types given : Option (List Schema)}
    (h : types.isNone = given.isNone) (anyOf : Option (List Schema)) :
    (joinMembers location anyOf types).warnings = (joinMembers location anyOf given).warnings := by
  cases anyOf with
  | none => rfl
  | some members =>
    rcases types with _ | first <;> rcases given with _ | second
    · rfl
    · cases h
    · cases h
    · rfl

section Congruence

variable (h : ∀ name ∉ spellingKeywords, Alike read reread raw other name)

include h

theorem noteUnsupported_congr : noteUnsupported raw location = noteUnsupported other location := by
  have hplain : ∀ keyword ∈ unsupportedKeywords, keyword ∉ spellingKeywords := by decide
  have hsame : ∀ keyword ∈ unsupportedKeywords,
      has raw keyword = has other keyword :=
    fun keyword hkeyword => (h keyword (hplain keyword hkeyword)).has
  unfold noteUnsupported
  generalize unsupportedKeywords = keywords at hsame
  induction keywords with
  | nil => rfl
  | cons keyword rest ih =>
    obtain ⟨hfirst, hrest⟩ := forall_mem_cons.mp hsame
    rw [List.forM, List.forM, hfirst, ih hrest]

/-- Mappings that are alike are read as the same schema, bounds and members for types apart. -/
theorem readKeywords_eq {typing given : Typing} (nullable : Bool)
    (hsole : soleTypeName? raw = soleTypeName? other) (hkind : typing.kind = given.kind)
    (hnullable : typing.nullable = given.nullable)
    (hmembers : typing.members.isNone = given.members.isNone)
    (hnumber : ∀ key ∈ ["minimum", "maximum"],
      (readNumber raw key location).warnings = (readNumber other key location).warnings)
    (hexclusive : ∀ key ∈ ["exclusiveMinimum", "exclusiveMaximum"],
      (readExclusive raw key location).warnings = (readExclusive other key location).warnings) :
    readKeywords read raw location nullable typing =
      { readKeywords reread other location nullable given with
        value :=
          { (readKeywords reread other location nullable given).value with
            minimum := (readNumber raw "minimum" location).value
            maximum := (readNumber raw "maximum" location).value
            exclusiveMinimum := (readExclusive raw "exclusiveMinimum" location).value
            exclusiveMaximum := (readExclusive raw "exclusiveMaximum" location).value
            anyOf := (joinMembers location (readMembers reread other "anyOf" location).value
              typing.members).value } } := by
  have hget : ∀ name, name ∉ partKeywords → name ∉ spellingKeywords →
      get? raw name = get? other name :=
    fun name hpart hspelling => (h name hspelling).get?_eq hpart
  have hparts : ∀ name ∈ partKeywords, Alike read reread raw other name := by
    have hplain : ∀ name ∈ partKeywords, name ∉ spellingKeywords := by decide
    exact fun name hname => h name (hplain name hname)
  have hfactor : readNumber raw "multipleOf" location = readNumber other "multipleOf" location := by
    simp only [readNumber, given?, hget "multipleOf" (by decide) (by decide)]
  have hcount : ∀ key ∈ ["minLength", "maxLength", "minItems", "maxItems"],
      readCount raw key location = readCount other key location := by
    have hplain : ∀ key ∈ ["minLength", "maxLength", "minItems", "maxItems"],
        key ∉ partKeywords ∧ key ∉ spellingKeywords := by decide
    intro key hkey
    simp only [readCount, given?, hget key (hplain key hkey).1 (hplain key hkey).2]
  have henum : readEnum raw location = readEnum other location := by
    simp only [readEnum, given?, hget "enum" (by decide) (by decide)]
  have hpattern : readPattern raw location = readPattern other location := by
    simp only [readPattern, given?, hget "pattern" (by decide) (by decide)]
  have hrequired : readRequired raw location = readRequired other location := by
    simp only [readRequired, given?, hget "required" (by decide) (by decide)]
  have htext : ∀ key ∈ ["format", "description"], textOf? raw key = textOf? other key := by
    have hplain : ∀ key ∈ ["format", "description"],
        key ∉ partKeywords ∧ key ∉ spellingKeywords := by decide
    intro key hkey
    rw [textOf?, textOf?, hget key (hplain key hkey).1 (hplain key hkey).2]
  have hdeprecated : isTrue raw "deprecated" = isTrue other "deprecated" := by
    rw [isTrue, isTrue, hget "deprecated" (by decide) (by decide)]
  -- what is read, and then the warnings
  refine Noted.ext ?_ ?_
  all_goals simp only [readKeywords, Noted.value_bind, Noted.value_pure, Noted.warnings_bind,
    henum, hfactor, hcount "minLength" (by decide), hcount "maxLength" (by decide),
    hcount "minItems" (by decide), hcount "maxItems" (by decide), hpattern, hrequired,
    readProperties_congr (hparts _ (by decide)), readAdditional_congr (hparts _ (by decide)),
    readItems_congr (hparts _ (by decide)), readNegated_congr (hparts _ (by decide)),
    readMembers_congr (hparts "allOf" (by decide)) (by decide) (by decide),
    readMembers_congr (hparts "oneOf" (by decide)) (by decide) (by decide),
    readMembers_congr (hparts "anyOf" (by decide)) (by decide) (by decide), noteUnsupported_congr h,
    hget "const" (by decide) (by decide), hget "default" (by decide) (by decide),
    htext "format" (by decide), htext "description" (by decide), hdeprecated, hsole, hkind,
    hnullable, hmembers, warnings_joinMembers hmembers, hnumber "minimum" (by decide),
    hnumber "maximum" (by decide), hexclusive "exclusiveMinimum" (by decide),
    hexclusive "exclusiveMaximum" (by decide)]
  all_goals rfl

/-- Mappings that are alike and have the same bounds are read as the same schema. -/
theorem readKeywords_congr (nullable : Bool) (typing : Typing)
    (hsole : soleTypeName? raw = soleTypeName? other)
    (hbounds : ∀ name ∈ boundKeywords, get? raw name = get? other name) :
    readKeywords read raw location nullable typing =
      readKeywords reread other location nullable typing := by
  have hnumber : ∀ key ∈ boundKeywords,
      readNumber raw key location = readNumber other key location := by
    intro key hkey
    simp only [readNumber, given?, hbounds key hkey]
  have hexclusive : ∀ key ∈ boundKeywords,
      readExclusive raw key location = readExclusive other key location := by
    intro key hkey
    simp only [readExclusive, given?, hbounds key hkey, hnumber key hkey]
  have hin : ∀ key ∈ ["minimum", "maximum"], key ∈ boundKeywords := by decide
  have hinExclusive : ∀ key ∈ ["exclusiveMinimum", "exclusiveMaximum"], key ∈ boundKeywords := by
    decide
  rw [readKeywords_eq h nullable hsole rfl rfl rfl
    (fun key hkey => by rw [hnumber key (hin key hkey)])
    (fun key hkey => by rw [hexclusive key (hinExclusive key hkey)]),
    hnumber "minimum" (by decide), hnumber "maximum" (by decide),
    hexclusive "exclusiveMinimum" (by decide), hexclusive "exclusiveMaximum" (by decide)]
  rfl

end Congruence

/-! ### One of several types -/

theorem Alike.narrowed (h : Alike read reread raw other name) (type : String) :
    Alike read reread (narrowed raw type) (Schema.narrowed other type) name := by
  rw [Alike, get?_narrowed, get?_narrowed]
  split
  · rename_i htype
    subst htype
    exact .some (.same fun hpart => absurd hpart (by decide))
  · split
    · exact .none
    · exact h

/-! ### Whole schemas -/

theorem readTyping_congr (h : ∀ name, Alike read reread raw other name) :
    readTyping read raw location = readTyping reread other location := by
  have htype : get? raw "type" = get? other "type" := (h "type").get?_eq (by decide)
  have henum : get? raw "enum" = get? other "enum" := (h "enum").get?_eq (by decide)
  have hkind : inferredKind raw = inferredKind other := by
    simp only [inferredKind, (h _).has, henum]
  have hmember : ∀ (type location : String) (typing : Typing),
      readKeywords read (narrowed raw type) location false typing =
        readKeywords reread (narrowed other type) location false typing := by
    intro type location typing
    have hbounds : ∀ name ∈ boundKeywords, name ∉ partKeywords := by decide
    refine readKeywords_congr (fun name _ => (h name).narrowed type) false typing ?_
      fun name hname => ((h name).narrowed type).get?_eq (hbounds name hname)
    rw [soleTypeName?, soleTypeName?, get?_narrowed, get?_narrowed, if_pos rfl, if_pos rfl]
  simp only [readTyping, given?, htype, hkind, hmember]

/-- Mappings that are alike under every keyword are read as the same schema. -/
theorem ofEntries_congr (h : ∀ name, Alike read reread raw other name) :
    ofEntries read raw location = ofEntries reread other location := by
  have hget : ∀ name ∉ partKeywords, get? raw name = get? other name :=
    fun name hname => (h name).get?_eq hname
  have hsole : soleTypeName? raw = soleTypeName? other := by
    rw [soleTypeName?, soleTypeName?, hget "type" (by decide)]
  have hbounds : ∀ name ∈ boundKeywords, name ∉ partKeywords := by decide
  simp only [ofEntries, textOf?, isTrue, readFlag, given?, hget "$ref" (by decide),
    hget "nullable" (by decide), hget "description" (by decide), readTyping_congr h,
    readKeywords_congr (fun name _ => h name) _ _ hsole
      fun name hname => hget name (hbounds name hname)]

/-! ### Depth -/

/-- A schema is read the same at all depths from its own on. -/
theorem readAt_eq_of_depth_le {depth more : Nat} {value : Value} (hdepth : value.depth ≤ depth)
    (hmore : depth ≤ more) (location : String) :
    readAt depth value location = readAt more value location := by
  induction depth generalizing more value location with
  | zero => exact absurd hdepth (by have := value.depth_pos; omega)
  | succ depth ih =>
    obtain ⟨more, rfl⟩ := Nat.exists_eq_add_of_lt hmore
    cases value with
    | map entries =>
      -- the values of the mapping are nested less deeply than it
      refine ofEntries_congr fun name => alike_of_get?_eq rfl fun part hpart inner hinner => ?_
      have hle : part.depth ≤ _ := depth_le_entriesDepth (mem_of_get? hpart)
      rw [Value.depth] at hdepth
      exact ih (by omega) (by omega)
    | scalar value =>
      cases value with
      | bool value => cases value <;> rfl
      | _ => rfl
    | _ => rfl

theorem ofValue_eq_readAt {value : Value} {depth : Nat} (h : value.depth ≤ depth)
    (location : String) : ofValue value location = readAt depth value location :=
  readAt_eq_of_depth_le le_rfl h location

theorem ofValue_map {depth : Nat} (h : Value.entriesDepth raw ≤ depth) (location : String) :
    ofValue (.map raw) location = ofEntries (readAt depth) raw location := by
  have hdepth : (Value.map raw).depth ≤ depth + 1 := by
    rw [Value.depth]
    exact Nat.succ_le_succ h
  exact ofValue_eq_readAt hdepth location

end Schema

end OpenApiClient
