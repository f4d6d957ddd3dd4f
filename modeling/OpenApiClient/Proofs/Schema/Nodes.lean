import OpenApiClient.Proofs.Document.Places

/-!
# The schemas that are read out of a document

What is read out of the value at a place is a node of the document (`Node`), and so is what is read
for one of several types that the value lists. `Node.view` says what a node consists of: nodes at
the places under its own, or, for several types, nodes at the same place. Every warning of a reading
is founded on something that stands there (`readAt_founded`).
-/

namespace OpenApiClient

open List

/-! ### All warnings of a reading -/

namespace Noted

variable {α β : Type} {good : Warning → Prop}

/-- All warnings are good. -/
def All (good : Warning → Prop) (noted : Noted α) : Prop := ∀ warning ∈ noted.warnings, good warning

theorem all_pure (value : α) : All good (pure value : Noted α) := by
  rintro warning ⟨⟩

theorem all_warn {location keyword message : String} (h : good { message, keyword, location }) :
    All good (warn location keyword message) := by
  intro warning hwarning
  rw [mem_singleton.mp hwarning]
  exact h

theorem all_bind {noted : Noted α} {next : α → Noted β} (h : All good noted)
    (hnext : All good (next noted.value)) : All good (noted >>= next) := by
  intro warning hwarning
  rcases mem_append.mp hwarning with hwarning | hwarning
  · exact h warning hwarning
  · exact hnext warning hwarning

theorem all_mapM {read : α → Noted β} :
    ∀ {items : List α}, (∀ item ∈ items, All good (read item)) → All good (items.mapM read) := by
  intro items
  induction items with
  | nil => exact fun _ => all_pure []
  | cons item rest ih =>
    intro h
    obtain ⟨hfirst, hrest⟩ := forall_mem_cons.mp h
    rw [mapM_cons]
    exact all_bind hfirst (all_bind (ih hrest) (all_pure _))

end Noted

namespace Schema

open Noted

variable {good : Warning → Prop} {read : Reader} {raw : Entries} {location : String}

/-- Warnings about the keywords of a schema are good, and so are those about its parts. -/
structure Grounded (good : Warning → Prop) (read : Reader) (raw : Entries) (location : String) :
    Prop where
  keyword : ∀ key message, Entries.has raw key = true → good { message, keyword := key, location }
  part : ∀ segment value, Part raw segment value →
    All good (read value (location ++ "/" ++ segment))
  keyed : ∀ properties : Entries, Entries.get? raw "properties" = some (.map properties) →
    properties.Keyed

theorem Grounded.mono {fewer : Entries} (h : Grounded good read raw location)
    (hfewer : Restricts fewer raw) : Grounded good read fewer location where
  keyword := fun key message hhas => h.keyword key message (hfewer.has hhas)
  part := fun segment value hpart => h.part segment value (hpart.mono hfewer)
  keyed := fun properties hproperties => h.keyed properties (hfewer.entry (by decide) hproperties)

/-- All steps of the reading of a schema give good warnings. -/
theorem Steps.all {keys : String → Prop} {α : Type} {act : Reader → String → Noted α}
    (hsteps : Steps keys raw act) (h : Grounded good read raw location)
    (htyped : raw.ListsTypes → ∀ index < raw.listedTypes.length,
      Grounded good read raw (location ++ "/type/" ++ toString index)) :
    All good (act read location) := by
  induction hsteps generalizing location with
  | pure value => exact all_pure value
  | warn _ hhas => exact all_warn (h.keyword _ _ hhas)
  | part hpart => exact h.part _ _ hpart
  | property hproperties hentry =>
    have hpart := h.part _ _ (.property hproperties ((h.keyed _ hproperties).get?_of_mem hentry))
    have hslash : "/properties/" = "/" ++ "properties/" := by decide
    simpa only [hslash, String.append_assoc] using hpart
  | typed hlists hindex _ ih =>
    -- what is read for one of the types lists no types itself
    refine ih ((htyped hlists _ hindex).mono (restricts_narrowed hlists.has_type _)) fun hagain => ?_
    simp [Entries.ListsTypes, Entries.listedTypes, get?_narrowed] at hagain
  | bind _ _ ihfirst ihnext =>
    exact all_bind (ihfirst h htyped) (ihnext read location h htyped)

/-! ### Schemas of a document -/

open Document (SchemaAt Reported)

variable {root : Entries} {place : String}

theorem Grounded.of_place {stage : Document.Stage} (hroot : (Value.map root).Keyed)
    (hplace : SchemaAt root place (.map raw)) (hreported : Reported root stage place location)
    (hread : ∀ place value location, SchemaAt root place value →
      Reported root stage place location → All (Warning.Founded root stage) (read value location)) :
    Grounded (Warning.Founded root stage) read raw location where
  keyword := fun _ _ hhas => Warning.founded_of_carries hplace hreported hhas
  part := fun segment _ hpart => hread _ _ _ (hplace.part hpart) (hreported.part segment)
  keyed := fun _ hproperties => hplace.keyed_entry hroot hproperties

/-- Every warning about a schema of the document is founded on something that stands there. -/
theorem readAt_founded (hroot : (Value.map root).Keyed) (depth : Nat) :
    ∀ place value location, SchemaAt root place value → Reported root .reading place location →
      All (Warning.Founded root .reading) (readAt depth value location) := by
  induction depth with
  | zero => exact fun _ _ _ _ _ => all_pure _
  | succ depth ih =>
    intro place value location hplace hreported
    unfold readAt
    split
    · exact all_pure _
    · exact all_pure _
    · rename_i raw
      refine ofEntries_steps.all (.of_place hroot hplace hreported ih) fun htypes index hindex => ?_
      -- a member for a type is read at the same place, under a location of its own
      have hslash : "/type/" = "/" ++ (Document.Stage.reading.typesKeyword ++ "/") := by decide
      have hmember := Grounded.of_place hroot hplace (hreported.typed hplace htypes hindex) ih
      simpa only [hslash, String.append_assoc] using hmember
    · rename_i htrue hfalse hmap
      refine all_bind (all_warn (Warning.founded_of_carries hplace hreported ?_)) (all_pure _)
      unfold Value.Carries
      split
      · rename_i raw
        exact absurd rfl (hmap raw)
      · rename_i flag
        cases flag
        · exact absurd rfl hfalse
        · exact absurd rfl htrue
      · rfl

end Schema

end OpenApiClient

namespace OpenApiClient.Schema

open List

open Conversion (siblingMember?)
open Document (SchemaAt)

/-! ### Parts of what is read -/

section Parts

variable {read : Reader} {raw : Entries} {location : String}

/-- The members of a composition are read out of the items of the list, in their order. -/
theorem parts_of_members {key : String} (hkey : key ∈ compositions) {members : List Schema}
    (h : (readMembers read raw key location).value = some members) :
    ∃ items, Entries.get? raw key = some (.list items) ∧ members.length = items.length ∧
      members ≠ [] ∧ ∀ (index : Nat) member, members[index]? = some member →
        ∃ value place, Part raw (key ++ "/" ++ toString index) value ∧
          (read value place).value = member := by
  obtain ⟨items, hnil, hitems, rfl⟩ := readMembers_eq_some h
  refine ⟨items, hitems, by simp, by simpa using hnil, fun index member hmember => ?_⟩
  rw [getElem?_map, Option.map_eq_some_iff] at hmember
  obtain ⟨⟨item, place⟩, hitem, rfl⟩ := hmember
  rw [getElem?_zipIdx, Option.map_eq_some_iff] at hitem
  obtain ⟨found, hfound, heq⟩ := hitem
  cases heq
  exact ⟨_, _, .member hkey hitems hfound, rfl⟩

theorem has_of_soleTypeName? (h : (soleTypeName? raw).isSome = true) :
    Entries.has raw "type" = true := by
  unfold soleTypeName? at h
  split at h
  · rename_i hvalue
    exact Entries.has_of_get? hvalue
  · rename_i hvalue
    exact Entries.has_of_get? hvalue
  · cases h

/-- What is said about objects beside an `allOf` is said by keywords. -/
theorem has_of_sibling {nullable : Bool} {typing : Typing} {member : Schema}
    (h : siblingMember? (readKeywords read raw location nullable typing).value = some member) :
    Entries.has raw "properties" = true ∨ Entries.has raw "required" = true ∨
      Entries.has raw "additionalProperties" = true := by
  by_contra hnone
  have hget : ∀ key, ¬ Entries.has raw key = true → Entries.get? raw key = none := by
    intro key hkey
    simpa [Entries.has] using hkey
  simp only [not_or] at hnone
  -- without the keywords all three fields are empty, and there is no such member
  have hproperties : (readKeywords read raw location nullable typing).value.properties = [] := by
    change (readProperties read raw location).value = []
    simp [readProperties, given?, hget _ hnone.1]
  have hrequired : (readKeywords read raw location nullable typing).value.required = none := by
    change (readRequired raw location).value = none
    simp [readRequired, given?, hget _ hnone.2.1]
  have hadditional : (readKeywords read raw location nullable typing).value.additional = none := by
    change (readAdditional read raw location).value = none
    simp [readAdditional, hget _ hnone.2.2]
  simp [siblingMember?, hproperties, hrequired, hadditional] at h

/-- The members for several types are as many as the types that are listed. -/
theorem members_of_typing {members : List Schema}
    (h : (readTyping read raw location).value.members = some members) :
    raw.ListsTypes ∧ members.length = raw.listedTypes.length ∧ ∀ member ∈ members,
      ∃ type place, (readKeywords read (narrowed raw type) place false
        { kind := .ofTypeName type }).value = member := by
  unfold readTyping at h
  split at h
  · cases h
  · cases h
  · rename_i types hgiven
    have hlisted := Entries.listedTypes_eq (given?_eq_some hgiven)
    dsimp only at h
    split at h
    · cases h
    · cases h
    · rename_i hnil hsingle
      rw [Noted.value_bind, Noted.value_mapM, Noted.value_pure] at h
      cases h
      refine ⟨Entries.listsTypes_of_names hlisted hnil hsingle, by simp [hlisted], ?_⟩
      intro member hmember
      obtain ⟨type, -, rfl⟩ := mem_map.mp hmember
      exact ⟨type.1, _, rfl⟩
  · cases h

end Parts

/-! ### Nodes -/

/-- A schema that was read out of the value at a place, as a whole or for one of several types. -/
inductive Node (root : Entries) : (place : String) → Schema → Prop
  | whole {place : String} {value : Value} (depth : Nat) (location : String) :
      SchemaAt root place value → Node root place (readAt depth value location).value
  | typed {place : String} {raw : Entries} (depth : Nat) (location type : String) :
      SchemaAt root place (.map raw) → raw.ListsTypes →
      Node root place (readKeywords (readAt depth) (narrowed raw type) location false
        { kind := .ofTypeName type }).value

/-- The members of a composition are nodes under the place. -/
def NodesUnder (root : Entries) (place keyword : String) (members : List Schema) : Prop :=
  ∀ (index : Nat) member, members[index]? = some member →
    Node root (place ++ "/" ++ (keyword ++ "/" ++ toString index)) member

/-- What a node is read from, and what it consists of. -/
structure View (root : Entries) (place : String) (schema : Schema) : Prop where
  ref : ∀ ref, schema.ref = some ref →
    ∃ raw, SchemaAt root place (.map raw) ∧ textOf? raw "$ref" = some ref
  property : ∀ property ∈ schema.properties,
    Node root (place ++ "/" ++ ("properties/" ++ Pointer.escape property.1)) property.2
  additional : ∀ others, schema.additional = some (.schema others) →
    Node root (place ++ "/" ++ "additionalProperties") others
  items : ∀ items, schema.items = some items → Node root (place ++ "/" ++ "items") items
  allOf : ∀ members, schema.allOf = some members → members ≠ [] ∧
    NodesUnder root place "allOf" members
  merges : ∀ members, schema.allOf = some members →
    2 ≤ (members ++ (siblingMember? schema).toList).length →
    ∃ raw : Entries, SchemaAt root place (.map raw) ∧ raw.Merges ∧ ∀ index < members.length,
      ∃ value, Part raw ("allOf" ++ "/" ++ toString index) value
  oneOf : ∀ members, schema.oneOf = some members → NodesUnder root place "oneOf" members
  anyOf : ∀ members, schema.anyOf = some members →
    ∃ raw : Entries, SchemaAt root place (.map raw) ∧
      (Entries.has raw "anyOf" = true ∧ NodesUnder root place "anyOf" members ∨
        raw.ListsTypes ∧ members.length = raw.listedTypes.length ∧
          ∀ member ∈ members, Node root place member)
  negated : schema.negated.isSome = true →
    ∃ value, SchemaAt root place value ∧ value.Carries "not"
  unsupported : schema.unsupportedType.isSome = true →
    ∃ raw, SchemaAt root place (.map raw) ∧ Entries.has raw "type" = true

section Nodes

variable {root raw fewer : Entries} {place location : String} {depth : Nat}

/-- A node without parts. -/
theorem view_leaf {ref : Option String} {nullable : Bool} {description : Option String}
    {negated : Option Schema}
    (href : ∀ text, ref = some text →
      ∃ raw, SchemaAt root place (.map raw) ∧ textOf? raw "$ref" = some text)
    (hnegated : negated.isSome = true → ∃ value, SchemaAt root place value ∧ value.Carries "not") :
    View root place { ref, nullable, description, negated } where
  ref := href
  negated := hnegated
  property := by simp
  additional := by simp
  items := by simp
  allOf := by simp
  merges := by simp
  oneOf := by simp
  anyOf := by simp
  unsupported := by simp

/-- What is read out of a part of the value at a place is a node under that place. -/
theorem Node.of_part (hplace : SchemaAt root place (.map raw)) (hfewer : Restricts fewer raw)
    {segment : String} {value : Value} (hpart : Part fewer segment value) :
    Node root (place ++ "/" ++ segment) (readAt depth value location).value :=
  .whole depth location (hplace.part (hpart.mono hfewer))

theorem nodesUnder_of_members {key : String} (hkey : key ∈ compositions)
    (hplace : SchemaAt root place (.map raw)) (hfewer : Restricts fewer raw) {members : List Schema}
    (h : (readMembers (readAt depth) fewer key location).value = some members) :
    NodesUnder root place key members := by
  obtain ⟨items, -, -, -, hmembers⟩ := parts_of_members hkey h
  intro index member hmember
  obtain ⟨value, location, hpart, rfl⟩ := hmembers index member hmember
  exact .of_part hplace hfewer hpart

theorem view_readKeywords (hroot : (Value.map root).Keyed)
    (hplace : SchemaAt root place (.map raw)) (hfewer : Restricts fewer raw) (nullable : Bool)
    {typing : Typing}
    (hmembers : ∀ members, typing.members = some members → raw.ListsTypes ∧
      members.length = raw.listedTypes.length ∧ ∀ member ∈ members, Node root place member) :
    View root place (readKeywords (readAt depth) fewer location nullable typing).value where
  ref := fun _ href => by cases href
  property := by
    intro property hproperty
    obtain ⟨properties, entry, location, hproperties, hentry, rfl⟩ := mem_readProperties hproperty
    have hkeyed := hplace.keyed_entry hroot (hfewer.entry (by decide) hproperties)
    exact .of_part hplace hfewer (.property hproperties (hkeyed.get?_of_mem hentry))
  additional := by
    intro others hothers
    obtain ⟨value, location, hvalue, rfl⟩ := readAdditional_under hothers
    exact .of_part hplace hfewer (.additional hvalue)
  items := by
    intro items hitems
    obtain ⟨value, location, hvalue, rfl⟩ := readItems_under hitems
    exact .of_part hplace hfewer (.items hvalue)
  allOf := by
    intro members h
    obtain ⟨-, -, -, hnil, -⟩ := parts_of_members (by decide) h
    exact ⟨hnil, nodesUnder_of_members (by decide) hplace hfewer h⟩
  merges := by
    intro members h hlength
    obtain ⟨items, hitems, hsame, -, hparts⟩ := parts_of_members (by decide) h
    refine ⟨raw, hplace, ⟨items, hfewer.entry (by decide) hitems, ?_⟩, fun index hindex => ?_⟩
    · -- several members, or an object beside them
      cases hsibling : siblingMember?
          (readKeywords (readAt depth) fewer location nullable typing).value with
      | none =>
        rw [hsibling] at hlength
        exact .inl (by simpa [hsame] using hlength)
      | some member =>
        exact .inr ((has_of_sibling hsibling).imp hfewer.has (.imp hfewer.has hfewer.has))
    · obtain ⟨value, -, hpart, -⟩ := hparts index _ (getElem?_eq_getElem hindex)
      exact ⟨value, hpart.mono hfewer⟩
  oneOf := fun members h => nodesUnder_of_members (by decide) hplace hfewer h
  anyOf := by
    intro members h
    refine ⟨raw, hplace, ?_⟩
    change (joinMembers location (readMembers (readAt depth) fewer "anyOf" location).value
      typing.members).value = some members at h
    -- alternatives win over the schemas for the types
    rw [value_joinMembers, Option.or_eq_some_iff] at h
    rcases h with hown | ⟨-, htyped⟩
    · obtain ⟨items, hitems, -⟩ := parts_of_members (by decide) hown
      exact .inl ⟨hfewer.has (Entries.has_of_get? hitems),
        nodesUnder_of_members (by decide) hplace hfewer hown⟩
    · exact .inr (hmembers members htyped)
  negated := by
    intro h
    obtain ⟨negated, hnegated⟩ := Option.isSome_iff_exists.mp h
    obtain ⟨value, location, hvalue, -⟩ := readNegated_under hnegated
    exact ⟨.map raw, hplace, hfewer.has (Entries.has_of_get? hvalue)⟩
  unsupported := by
    intro h
    refine ⟨raw, hplace, hfewer.has (has_of_soleTypeName? ?_)⟩
    change (if typing.kind = .unknown && typing.members.isNone then soleTypeName? fewer
      else none).isSome = true at h
    split at h
    · exact h
    · cases h

/-- What a node of a document consists of. -/
theorem Node.view (hroot : (Value.map root).Keyed) {schema : Schema} (h : Node root place schema) :
    View root place schema := by
  cases h with
  | typed depth location type hplace htypes =>
    exact view_readKeywords hroot hplace (restricts_narrowed htypes.has_type type) false
      fun members hnone => by cases hnone
  | whole depth location hplace =>
    cases depth with
    | zero => exact view_leaf (by simp) (by simp)
    | succ depth =>
      unfold readAt
      split
      · exact view_leaf (by simp) (by simp)
      · exact view_leaf (by simp) fun _ => ⟨_, hplace, rfl, rfl⟩
      · rename_i raw
        unfold ofEntries
        split
        · rename_i ref href
          exact view_leaf (fun text htext => ⟨raw, hplace, href.trans htext⟩) (by simp)
        · rw [Noted.value_bind, Noted.value_bind]
          refine view_readKeywords hroot hplace (.refl raw) _ fun members hmembers => ?_
          obtain ⟨htypes, hlength, hread⟩ := members_of_typing hmembers
          refine ⟨htypes, hlength, fun member hmember => ?_⟩
          obtain ⟨type, location, rfl⟩ := hread member hmember
          exact .typed depth location type hplace htypes
      · exact view_leaf (by simp) (by simp)

end Nodes

end OpenApiClient.Schema
