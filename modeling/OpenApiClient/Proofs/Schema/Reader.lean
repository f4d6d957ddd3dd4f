import Mathlib.Algebra.Order.BigOperators.Group.List
import Mathlib.Algebra.Order.Ring.Nat
import OpenApiClient.Proofs.Named
import OpenApiClient.Schema.Reader

/-!
# What every schema that is read has

Malformed keywords are dropped when a schema is read, so some things are true of all schemas that
are read, whatever the document says: a composition has a member, no property is declared twice, and
the values that a schema holds are values of the document. `Schema.WellFormed` collects these, and
`Schema.ofValue_wellFormed` states them for all fragments of a schema that is read.

The predicate on values is a parameter, which only has to be passed on from a value to what it
holds: nothing need be said about the values, or that they come from a certain kind of text. A
schema has no more fragments than its size says (`length_fragments_le`), which bounds the depth of
conversions.
-/

namespace OpenApiClient.Schema

/-! ### The fragments of a schema -/

open Entries List

/-- The schema for other properties, if there is one. -/
def otherProperties (schema : Schema) : Option Schema :=
  match schema.additional with
  | some (.schema others) => some others
  | _ => none

theorem otherProperties_eq_some {schema others : Schema} :
    schema.otherProperties = some others ↔ schema.additional = some (.schema others) := by
  unfold otherProperties
  rcases schema.additional with _ | _ | found <;> simp

/-- The schemas that a schema consists of and that are converted with it. -/
def children (schema : Schema) : List Schema :=
  schema.items.toList ++ schema.properties.map (·.2) ++ schema.otherProperties.toList ++
    schema.allOf.getD [] ++ schema.oneOf.getD [] ++ schema.anyOf.getD []

section Children

variable {schema child : Schema}

theorem mem_children :
    child ∈ schema.children ↔
      schema.items = some child ∨ (∃ property ∈ schema.properties, property.2 = child) ∨
      schema.otherProperties = some child ∨ (∃ members ∈ schema.allOf, child ∈ members) ∨
      (∃ members ∈ schema.oneOf, child ∈ members) ∨ ∃ members ∈ schema.anyOf, child ∈ members := by
  have hmembers : ∀ members : Option (List Schema),
      child ∈ members.getD [] ↔ ∃ listed ∈ members, child ∈ listed := by
    rintro (_ | members) <;> simp
  simp only [children, mem_append, mem_map, Option.mem_toList, hmembers, or_assoc,
    Option.mem_def]

theorem mem_children_of_property {property : String × Schema}
    (h : property ∈ schema.properties) : property.2 ∈ schema.children :=
  mem_children.mpr (.inr (.inl ⟨property, h, rfl⟩))

theorem mem_children_of_additional (h : schema.additional = some (.schema child)) :
    child ∈ schema.children :=
  mem_children.mpr (.inr (.inr (.inl (otherProperties_eq_some.mpr h))))

end Children

/-! ### Sizes -/

theorem propertiesSize_eq (properties : List (String × Schema)) :
    propertiesSize properties = (properties.map fun property => property.2.size).sum := by
  induction properties with
  | nil => rfl
  | cons property rest ih => rw [propertiesSize, ih, map_cons, sum_cons]

theorem listSize_eq (schemas : List Schema) : listSize schemas = (schemas.map size).sum := by
  induction schemas with
  | nil => rfl
  | cons schema rest ih => rw [listSize, ih, map_cons, sum_cons]

theorem membersSize_eq (members : Option (List Schema)) :
    membersSize members = ((members.getD []).map size).sum := by
  cases members with
  | none => rfl
  | some members => exact listSize_eq members

theorem optionSize_eq (part : Option Schema) :
    optionSize part = (part.toList.map size).sum := by
  cases part <;> simp [optionSize]

theorem additionalSize_eq (schema : Schema) :
    additionalSize schema.additional = (schema.otherProperties.toList.map size).sum := by
  unfold otherProperties
  rcases schema.additional with _ | _ | others <;> simp [additionalSize]

/-- The size of a schema is more than that of all it consists of. -/
theorem sum_size_children_lt (schema : Schema) :
    (schema.children.map size).sum < schema.size := by
  have hadditional := additionalSize_eq schema
  obtain ⟨⟩ := schema
  simp only [children, map_append, sum_append, map_map, size, optionSize_eq,
    propertiesSize_eq, membersSize_eq, Function.comp_def] at hadditional ⊢
  omega

theorem size_lt_of_mem_children {child schema : Schema} (h : child ∈ schema.children) :
    child.size < schema.size := by
  have hsum := sum_size_children_lt schema
  have hle : child.size ≤ (schema.children.map size).sum :=
    single_le_sum (by simp) _ (mem_map_of_mem h)
  omega

/-- What is true of a schema whenever it is true of those it consists of is true of all. -/
theorem childInduction {good : Schema → Prop}
    (step : ∀ schema, (∀ child ∈ schema.children, good child) → good schema) (schema : Schema) :
    good schema :=
  step schema fun child hchild =>
    have := size_lt_of_mem_children hchild
    childInduction step child
termination_by schema.size

/-! ### Fragments -/

/-- A schema and all those it consists of, at any depth. -/
def fragments (schema : Schema) : List Schema :=
  schema :: schema.children.attach.flatMap fun ⟨child, hchild⟩ =>
    have := size_lt_of_mem_children hchild
    child.fragments
termination_by schema.size

theorem fragments_eq (schema : Schema) :
    schema.fragments = schema :: schema.children.flatMap fragments := by
  rw [fragments]
  simp

theorem self_mem_fragments (schema : Schema) : schema ∈ schema.fragments := by
  rw [fragments_eq]
  exact mem_cons_self

theorem mem_fragments {fragment schema : Schema} :
    fragment ∈ schema.fragments ↔
      fragment = schema ∨ ∃ child ∈ schema.children, fragment ∈ child.fragments := by
  rw [fragments_eq, mem_cons, mem_flatMap]

theorem mem_fragments_trans {schema fragment part : Schema} (hpart : part ∈ fragment.fragments)
    (hfragment : fragment ∈ schema.fragments) : part ∈ schema.fragments := by
  induction schema using childInduction with
  | step schema ih =>
    rcases mem_fragments.mp hfragment with rfl | ⟨other, hother, hfragment⟩
    · exact hpart
    · exact mem_fragments.mpr (.inr ⟨other, hother, ih other hother hfragment⟩)

/-- What a fragment consists of are fragments too. -/
theorem mem_fragments_of_mem_children {schema fragment child : Schema}
    (hfragment : fragment ∈ schema.fragments) (hchild : child ∈ fragment.children) :
    child ∈ schema.fragments :=
  mem_fragments_trans (mem_fragments.mpr (.inr ⟨child, hchild, self_mem_fragments child⟩)) hfragment

theorem length_fragments_le (schema : Schema) : schema.fragments.length ≤ schema.size := by
  induction schema using childInduction with
  | step schema ih =>
    have hsum : (schema.children.map fun child => child.fragments.length).sum ≤
        (schema.children.map size).sum := sum_le_sum ih
    have hlt := sum_size_children_lt schema
    rw [fragments_eq, length_cons, length_flatMap]
    omega

/-- Something is true of every fragment of a schema. -/
def Every (good : Schema → Prop) (schema : Schema) : Prop :=
  ∀ fragment ∈ schema.fragments, good fragment

theorem every_iff {good : Schema → Prop} {schema : Schema} :
    Every good schema ↔ good schema ∧ ∀ child ∈ schema.children, Every good child := by
  constructor
  · intro h
    refine ⟨h schema (self_mem_fragments schema), fun child hchild fragment hfragment => ?_⟩
    exact h fragment (mem_fragments.mpr (.inr ⟨child, hchild, hfragment⟩))
  · rintro ⟨hself, hchildren⟩ fragment hfragment
    rcases mem_fragments.mp hfragment with rfl | ⟨child, hchild, hfragment⟩
    · exact hself
    · exact hchildren child hchild fragment hfragment

theorem Every.self {good : Schema → Prop} {schema : Schema} (h : Every good schema) : good schema :=
  h schema (self_mem_fragments schema)

end OpenApiClient.Schema

namespace OpenApiClient

open List

/-! ### Values with warnings -/

namespace Noted

variable {α β : Type}

@[simp] theorem value_pure (value : α) : (pure value : Noted α).value = value := rfl

@[simp] theorem value_bind (noted : Noted α) (next : α → Noted β) :
    (noted >>= next).value = (next noted.value).value := rfl

@[simp] theorem value_map (change : α → β) (noted : Noted α) :
    (change <$> noted).value = change noted.value := rfl

@[ext] theorem ext {first second : Noted α} (hvalue : first.value = second.value)
    (hwarnings : first.warnings = second.warnings) : first = second := by
  cases first
  cases second
  cases hvalue
  cases hwarnings
  rfl

instance : LawfulMonad Noted :=
  LawfulMonad.mk' Noted
    (fun noted => Noted.ext rfl (append_nil noted.warnings))
    (fun value next => Noted.ext rfl (nil_append (next value).warnings))
    (fun noted next last => Noted.ext rfl (append_assoc noted.warnings
      (next noted.value).warnings (last (next noted.value).value).warnings))

theorem value_mapM (read : α → Noted β) (items : List α) :
    (items.mapM read).value = items.map fun item => (read item).value := by
  induction items with
  | nil => rfl
  | cons item rest ih => simp [mapM_cons, ih]

end Noted

namespace Value

/-- A predicate on values that is passed on to what a value holds, and that texts have. -/
structure Hereditary (plain : Value → Prop) : Prop where
  text : ∀ text, plain (.text text)
  item : ∀ items, plain (.list items) → ∀ item ∈ items, plain item
  entry : ∀ entries, plain (.map entries) → ∀ entry ∈ entries, plain entry.2

theorem hereditary_true : Hereditary fun _ => True := ⟨fun _ => trivial, by simp, by simp⟩

end Value

theorem Scalar.sameValue_text (key : Scalar) (name : String) :
    key.sameValue (.text name) = decide (key = .text name) := by
  cases key with
  | text value => simp [Scalar.sameValue, Scalar.toInt?]
  | float value =>
    simp only [Scalar.sameValue, Scalar.toInt?]
    cases value.toInt? <;> rfl
  | _ => rfl

variable {key : String} {value : Value}

theorem Entries.mem_of_get? {raw : Entries} (h : Entries.get? raw key = some value) :
    (.text key, value) ∈ raw :=
  Named.mem_of_lookup h

/-- What was put under a key is found there, and all else as before. -/
theorem Entries.get?_insert (raw : Entries) (key name : String) (value : Value) :
    get? (insert raw (.text key) value) name =
      if name = key then some value else get? raw name := by
  unfold get?
  induction raw with
  | nil => simp [insert, Named.lookup_cons_ite]
  | cons entry rest ih =>
    rw [insert, Scalar.sameValue_text, Named.lookup_cons_ite]
    by_cases hentry : entry.1 = .text key <;> grind [Named.lookup_cons_ite]

namespace Schema

variable {raw : Entries} {location : String}

theorem given?_eq_some (h : given? raw key = some value) : Entries.get? raw key = some value := by
  unfold given? at h
  split at h
  · cases h
  · exact h

/-- What a schema says for one of its types: the type itself, and nothing about the whole. -/
theorem get?_narrowed (raw : Entries) (type name : String) :
    Entries.get? (narrowed raw type) name =
      if name = "type" then some (.text type)
      else if name ∈ wholeKeywords then none else Entries.get? raw name := by
  rw [narrowed, Entries.get?, lookup_append, Named.lookup_filter (!isKeyword wholeKeywords ·),
    Named.lookup_cons_ite, isKeyword]
  by_cases htype : name = "type"
  · subst htype
    rfl
  · by_cases hwhole : name ∈ wholeKeywords <;> simp [htype, hwhole, Entries.get?]

/-! ### What is read for the parts of a schema -/

/-- The schemas that a schema consists of, those under `not` included. -/
def parts (schema : Schema) : List Schema := schema.children ++ schema.negated.toList

/-- What stands in a mapping under a keyword, or in a list or a mapping there. -/
inductive Held (raw : Entries) : Value → Prop
  | value {key : String} {value : Value} : Entries.get? raw key = some value → Held raw value
  | item {key : String} {items : List Value} {item : Value} :
      Entries.get? raw key = some (.list items) → item ∈ items → Held raw item
  | entry {key : String} {entries : Entries} {entry : Scalar × Value} :
      Entries.get? raw key = some (.map entries) → entry ∈ entries → Held raw entry.2

/-- What a reader makes of something that a mapping holds. -/
def ReadIn (read : Reader) (raw : Entries) (schema : Schema) : Prop :=
  ∃ value location, Held raw value ∧ (read value location).value = schema

/-- What a reader makes of the value under a keyword. -/
def ReadUnder (read : Reader) (raw : Entries) (key : String) (schema : Schema) : Prop :=
  ∃ value location, Entries.get? raw key = some value ∧ (read value location).value = schema

section Parts

variable {read : Reader} {part : Schema}

theorem ReadUnder.readIn (h : ReadUnder read raw key part) : ReadIn read raw part := by
  obtain ⟨value, location, hvalue, hread⟩ := h
  exact ⟨value, location, .value hvalue, hread⟩

theorem mem_readProperties {property : String × Schema}
    (h : property ∈ (readProperties read raw location).value) :
    ∃ properties entry place, Entries.get? raw "properties" = some (.map properties) ∧
      entry ∈ properties ∧ (entry.1.plain, (read entry.2 place).value) = property := by
  unfold readProperties at h
  split at h
  · cases h
  · rename_i properties hgiven
    have hpairs := (Named.mem_foldl_insert h).resolve_right not_mem_nil
    rw [Noted.value_mapM] at hpairs
    obtain ⟨entry, hentry, hread⟩ := mem_map.mp hpairs
    exact ⟨properties, entry, _, given?_eq_some hgiven, hentry, hread⟩
  · cases h

theorem readAdditional_under (h : (readAdditional read raw location).value = some (.schema part)) :
    ReadUnder read raw "additionalProperties" part := by
  unfold readAdditional at h
  split at h
  · cases h
  · cases h
  · cases h
  · rename_i entries _ hentries
    cases h
    exact ⟨_, _, hentries, rfl⟩
  · cases h

theorem readItems_under (h : (readItems read raw location).value = some part) :
    ReadUnder read raw "items" part := by
  unfold readItems at h
  split at h
  · cases h
  · cases h
  · rename_i value _ hvalue
    cases h
    exact ⟨_, _, hvalue, rfl⟩

theorem readNegated_under (h : (readNegated read raw location).value = some part) :
    ReadUnder read raw "not" part := by
  unfold readNegated at h
  split at h
  · cases h
  · rename_i value hvalue
    cases h
    exact ⟨_, _, hvalue, rfl⟩

theorem readMembers_eq_some {members : List Schema}
    (h : (readMembers read raw key location).value = some members) :
    ∃ items, items ≠ [] ∧ Entries.get? raw key = some (.list items) ∧
      items.zipIdx.map (fun member =>
        (read member.1 (location ++ "/" ++ key ++ "/" ++ toString member.2)).value) = members := by
  unfold readMembers at h
  split at h
  · cases h
  · rename_i first others hgiven
    rw [Noted.value_bind, Noted.value_mapM] at h
    exact ⟨_, cons_ne_nil first others, given?_eq_some hgiven, Option.some.inj h⟩
  · cases h

theorem member_readIn {members : List Schema}
    (h : (readMembers read raw key location).value = some members) (hpart : part ∈ members) :
    ReadIn read raw part := by
  obtain ⟨items, -, hitems, rfl⟩ := readMembers_eq_some h
  obtain ⟨item, hitem, rfl⟩ := mem_map.mp hpart
  exact ⟨_, _, .item hitems (fst_mem_of_mem_zipIdx hitem), rfl⟩

theorem value_joinMembers (location : String) (anyOf types : Option (List Schema)) :
    (joinMembers location anyOf types).value = anyOf.or types := by
  unfold joinMembers
  split <;> rfl

/-- The parts of a schema are read out of what its mapping holds, or stand for one of its types. -/
theorem part_readKeywords {nullable : Bool} {typing : Typing}
    (h : part ∈ (readKeywords read raw location nullable typing).value.parts) :
    ReadIn read raw part ∨ ∃ members ∈ typing.members, part ∈ members := by
  rcases mem_append.mp h with hchild | hnegated
  · rcases mem_children.mp hchild with hitems | ⟨property, hproperty, rfl⟩ | hothers |
      ⟨members, hmembers, hmember⟩ | ⟨members, hmembers, hmember⟩ | ⟨members, hmembers, hmember⟩
    · exact .inl (readItems_under hitems).readIn
    · obtain ⟨properties, entry, place, hproperties, hentry, rfl⟩ := mem_readProperties hproperty
      exact .inl ⟨_, place, .entry hproperties hentry, rfl⟩
    · exact .inl (readAdditional_under (otherProperties_eq_some.mp hothers)).readIn
    · exact .inl (member_readIn hmembers hmember)
    · exact .inl (member_readIn hmembers hmember)
    · change (joinMembers location (readMembers read raw "anyOf" location).value
        typing.members).value = some members at hmembers
      rw [value_joinMembers, Option.or_eq_some_iff] at hmembers
      rcases hmembers with hown | ⟨-, htyped⟩
      · exact .inl (member_readIn hown hmember)
      · exact .inr ⟨members, htyped, hmember⟩
  · exact .inl (readNegated_under (Option.mem_toList.mp hnegated)).readIn

end Parts

/-! ### Well-formed schemas -/

/-- What is true of every fragment of a schema that is read. -/
structure WellFormed (plain : Value → Prop) (schema : Schema) : Prop where
  allOf : schema.allOf ≠ some []
  oneOf : schema.oneOf ≠ some []
  anyOf : schema.anyOf ≠ some []
  names : (schema.properties.map (·.1)).Nodup
  enum : ∀ values ∈ schema.enum, ∀ value ∈ values, plain value
  const : ∀ value ∈ schema.const, plain value
  default : ∀ value ∈ schema.default, plain value
  counts : ∀ given ∈ [schema.minLength, schema.maxLength, schema.minItems, schema.maxItems],
    ∀ count ∈ given, plain (.int count)
  numbers : ∀ given ∈ [schema.minimum, schema.maximum, schema.multipleOf],
    ∀ number ∈ given, plain number.toValue
  bounds : ∀ given ∈ [schema.exclusiveMinimum, schema.exclusiveMaximum],
    ∀ number, given = some (.bound number) → plain number.toValue

variable {schema : Schema}

section Reading

variable {plain : Value → Prop} {read : Reader}

/-- A schema without compositions, properties and values. -/
theorem every_wellFormed_leaf (hchildren : schema.children = []) (hself : schema.WellFormed plain) :
    schema.Every (WellFormed plain) :=
  every_iff.mpr ⟨hself, by simp [hchildren]⟩

/-- The reader reads well-formed schemas out of plain values. -/
def ReadsWellFormed (plain : Value → Prop) (read : Reader) : Prop :=
  ∀ value location, plain value → (read value location).value.Every (WellFormed plain)

/-- The members for types, if there are any: at least one, all of them well-formed. -/
def MembersWellFormed (plain : Value → Prop) (members : Option (List Schema)) : Prop :=
  members ≠ some [] ∧ ∀ listed ∈ members, ∀ member ∈ listed, member.Every (WellFormed plain)

theorem readProperties_nodup (read : Reader) (raw : Entries) (location : String) :
    ((readProperties read raw location).value.map (·.1)).Nodup := by
  unfold readProperties
  split
  · exact nodup_nil
  · exact Named.nodup_foldl_insert nodup_nil
  · exact nodup_nil

theorem readMembers_ne_nil (read : Reader) (raw : Entries) (key location : String) :
    (readMembers read raw key location).value ≠ some [] := by
  intro h
  obtain ⟨items, hnil, -, hread⟩ := readMembers_eq_some h
  exact hnil (by simpa using hread)

theorem anyOf_ne_nil {nullable : Bool} {typing : Typing} (h : typing.members ≠ some []) :
    (readKeywords read raw location nullable typing).value.anyOf ≠ some [] := by
  change (joinMembers location (readMembers read raw "anyOf" location).value
    typing.members).value ≠ some []
  rw [value_joinMembers]
  intro hor
  rcases Option.or_eq_some_iff.mp hor with hown | ⟨-, htyped⟩
  · exact readMembers_ne_nil _ _ _ _ hown
  · exact h htyped

variable (hplain : Value.Hereditary plain) (hread : ReadsWellFormed plain read)
  (hraw : ∀ entry ∈ raw, plain entry.2)

include hraw in
theorem plain_of_get? (h : Entries.get? raw key = some value) : plain value :=
  hraw _ (Entries.mem_of_get? h)

include hplain hraw in
theorem plain_of_held (h : Held raw value) : plain value := by
  cases h with
  | value hvalue => exact plain_of_get? hraw hvalue
  | item hitems hitem => exact hplain.item _ (plain_of_get? hraw hitems) _ hitem
  | entry hentries hentry => exact hplain.entry _ (plain_of_get? hraw hentries) _ hentry

theorem readEnum_cons {values : List Value} (h : (readEnum raw location).value = some values) :
    values ≠ [] ∧ Entries.get? raw "enum" = some (.list values) := by
  unfold readEnum at h
  split at h
  · cases h
  · rename_i hgiven
    cases h
    exact ⟨by simp, given?_eq_some hgiven⟩
  · cases h

theorem readCount_eq_some {count : Nat}
    (h : (readCount raw key location).value = some count) :
    Entries.get? raw key = some (.int count) := by
  unfold readCount at h
  dsimp only at h
  split at h
  · cases h
  · rename_i value hgiven
    split at h
    · rename_i hpositive
      cases h
      rw [given?_eq_some hgiven, Int.toNat_of_nonneg hpositive]
    · cases h
  · cases h

theorem readNumber_eq_some {number : Number}
    (h : (readNumber raw key location).value = some number) :
    Entries.get? raw key = some number.toValue := by
  unfold readNumber at h
  split at h
  · cases h
  · rename_i hgiven
    cases h
    exact given?_eq_some hgiven
  · rename_i hgiven
    cases h
    exact given?_eq_some hgiven
  · cases h

theorem readExclusive_eq_some {number : Number}
    (h : (readExclusive raw key location).value = some (.bound number)) :
    Entries.get? raw key = some number.toValue := by
  unfold readExclusive at h
  split at h
  · cases h
  · obtain ⟨found, hfound, heq⟩ := Option.map_eq_some_iff.mp h
    cases heq
    exact readNumber_eq_some hfound

include hplain hread hraw in
theorem readKeywords_wellFormed {nullable : Bool} {typing : Typing}
    (htyping : MembersWellFormed plain typing.members) :
    (readKeywords read raw location nullable typing).value.Every (WellFormed plain) := by
  refine every_iff.mpr ⟨⟨readMembers_ne_nil _ _ _ _, readMembers_ne_nil _ _ _ _,
    anyOf_ne_nil htyping.1, readProperties_nodup _ _ _, fun values hvalues value hvalue => ?_,
    fun value hvalue => plain_of_get? hraw hvalue, fun value hvalue => plain_of_get? hraw hvalue,
    ?_, ?_, ?_⟩, fun child hchild => ?_⟩
  · exact plain_of_held hplain hraw (.item (readEnum_cons hvalues).2 hvalue)
  · have hcount : ∀ key, ∀ count ∈ (readCount raw key location).value, plain (.int count) :=
      fun key count h => plain_of_get? hraw (readCount_eq_some h)
    simp only [forall_mem_cons, not_mem_nil, false_implies, implies_true, and_true]
    exact ⟨hcount _, hcount _, hcount _, hcount _⟩
  · have hnumber : ∀ key, ∀ number ∈ (readNumber raw key location).value, plain number.toValue :=
      fun key number h => plain_of_get? hraw (readNumber_eq_some h)
    simp only [forall_mem_cons, not_mem_nil, false_implies, implies_true, and_true]
    exact ⟨hnumber _, hnumber _, hnumber _⟩
  · have hbound : ∀ key number, (readExclusive raw key location).value = some (.bound number) →
        plain number.toValue := fun key number h => plain_of_get? hraw (readExclusive_eq_some h)
    simp only [forall_mem_cons, not_mem_nil, false_implies, implies_true, and_true]
    exact ⟨hbound _, hbound _⟩
  · rcases part_readKeywords (mem_append_left _ hchild) with
      ⟨value, place, hheld, rfl⟩ | ⟨members, hmembers, hmember⟩
    · exact hread _ _ (plain_of_held hplain hraw hheld)
    · exact htyping.2 members hmembers child hmember

include hplain hread hraw in
theorem readTyping_wellFormed :
    MembersWellFormed plain (readTyping read raw location).value.members := by
  have hnone : MembersWellFormed plain none := ⟨by simp, by simp⟩
  unfold readTyping
  split
  · exact hnone
  · exact hnone
  · rename_i types _
    dsimp only
    split
    · exact hnone
    · exact hnone
    · rename_i names hnames _
      rw [Noted.value_bind, Noted.value_mapM]
      refine ⟨?_, ?_⟩
      · simpa using hnames
      · rintro listed ⟨⟩ member hmember
        obtain ⟨name, -, rfl⟩ := mem_map.mp hmember
        refine readKeywords_wellFormed hplain hread (fun entry hentry => ?_) hnone
        rcases mem_append.mp hentry with hentry | hentry
        · exact hraw entry (mem_of_mem_filter hentry)
        · rw [mem_singleton.mp hentry]
          exact hplain.text _
  · exact hnone

include hplain hread hraw in
theorem ofEntries_wellFormed : (ofEntries read raw location).value.Every (WellFormed plain) := by
  unfold ofEntries
  split
  · exact every_wellFormed_leaf rfl (by constructor <;> simp)
  · rw [Noted.value_bind, Noted.value_bind]
    exact readKeywords_wellFormed hplain hread hraw (readTyping_wellFormed hplain hread hraw)

include hplain in
theorem readAt_wellFormed : ∀ depth, ReadsWellFormed plain (readAt depth) := by
  have hempty : ∀ negated : Option Schema,
      Every (WellFormed plain) ({ negated } : Schema) := fun negated =>
    every_wellFormed_leaf rfl (by constructor <;> simp)
  intro depth
  induction depth with
  | zero => exact fun value location _ => hempty none
  | succ depth ih =>
    intro value location hvalue
    unfold readAt
    split
    · exact hempty none
    · exact hempty (some {})
    · exact ofEntries_wellFormed hplain ih (hplain.entry _ hvalue)
    · exact hempty none

end Reading

/-- Every fragment of a schema that is read out of a plain value is well-formed. -/
theorem ofValue_wellFormed {plain : Value → Prop} (hplain : Value.Hereditary plain) (raw : Value)
    (location : String) (hraw : plain raw) :
    (ofValue raw location).value.Every (WellFormed plain) :=
  readAt_wellFormed hplain raw.depth raw location hraw

/-- A schema that was read out of a plain value. -/
def ReadFrom (plain : Value → Prop) (schema : Schema) : Prop :=
  ∃ raw location, plain raw ∧ (ofValue raw location).value = schema

theorem ReadFrom.wellFormed {plain : Value → Prop} (hplain : Value.Hereditary plain)
    (h : schema.ReadFrom plain) : schema.Every (WellFormed plain) := by
  obtain ⟨raw, location, hraw, rfl⟩ := h
  exact ofValue_wellFormed hplain raw location hraw

theorem readAt_default_of_ref (depth : Nat) (raw : Value) (location : String)
    (href : (readAt depth raw location).value.ref.isSome = true) :
    (readAt depth raw location).value.default = none := by
  cases depth with
  | zero => rfl
  | succ depth =>
    unfold readAt at href ⊢
    split at href
    · rfl
    · rfl
    · unfold ofEntries at href ⊢
      split at href
      · rfl
      · cases href
    · rfl

/-- A reference is read without a default, whatever stands beside it. -/
theorem ReadFrom.default_of_ref {plain : Value → Prop} (h : schema.ReadFrom plain)
    (href : schema.ref.isSome = true) : schema.default = none := by
  obtain ⟨raw, location, -, rfl⟩ := h
  exact readAt_default_of_ref raw.depth raw location href

end Schema

end OpenApiClient
