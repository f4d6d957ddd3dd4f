import OpenApiClient.Proofs.Schema.Reader

/-!
# What is done to read a schema

However a keyword is read, a value is returned, with a warning about the keyword if it is there, or
parts of the schema are read, whose locations begin with that of the schema. `Steps` says this once,
for every reader of keywords and for the whole schema (`ofEntries_steps`). What is true of readings
follows from it by induction.

So the location at which a schema is read is only passed on: it stands at the start of the locations
of all warnings, and what is read does not depend on it (`ofValue_append`).
-/

namespace OpenApiClient

open Entries

namespace Noted

variable {α β : Type} (start : String)

/-- The same value, with all warnings at locations that begin with `start`. -/
def under (noted : Noted α) : Noted α :=
  { noted with
    warnings := noted.warnings.map fun warning =>
      { warning with location := start ++ warning.location } }

@[simp] theorem value_under (noted : Noted α) : (noted.under start).value = noted.value := rfl

@[simp] theorem under_pure (value : α) : (pure value : Noted α).under start = pure value := rfl

@[simp] theorem under_warn (location keyword message : String) :
    (warn location keyword message).under start = warn (start ++ location) keyword message := rfl

@[simp] theorem under_bind (noted : Noted α) (next : α → Noted β) :
    (noted >>= next).under start = noted.under start >>= fun value => (next value).under start :=
  Noted.ext rfl List.map_append

theorem bind_congr {noted : Noted α} {next other : α → Noted β}
    (h : next noted.value = other noted.value) : noted >>= next = noted >>= other :=
  congrArg (fun last : Noted β => (⟨last.value, noted.warnings ++ last.warnings⟩ : Noted β)) h

end Noted

namespace Entries

variable {raw : Entries} {value : Value}

theorem has_of_get? {key : String} (h : get? raw key = some value) :
    has raw key = true := by
  rw [has, h, Option.isSome_some]

/-- The types that a schema lists, `null` apart. -/
def listedTypes (raw : Entries) : List String :=
  match get? raw "type" with
  | some (.list types) => Schema.typeNames types
  | _ => []

/-- A schema lists several types. -/
def ListsTypes (raw : Entries) : Prop := 2 ≤ raw.listedTypes.length

theorem listedTypes_eq {types : List Value} (h : get? raw "type" = some (.list types)) :
    raw.listedTypes = Schema.typeNames types := by
  rw [listedTypes, h]

theorem listsTypes_of_names {names : List String} (h : raw.listedTypes = names) (hnil : names ≠ [])
    (hsingle : ∀ name, names ≠ [name]) : raw.ListsTypes := by
  rw [ListsTypes, h]
  rcases names with _ | ⟨first, _ | ⟨second, rest⟩⟩
  · exact absurd rfl hnil
  · exact absurd rfl (hsingle first)
  · simp

theorem ListsTypes.has_type (h : raw.ListsTypes) : has raw "type" = true := by
  unfold ListsTypes listedTypes at h
  split at h
  · rename_i hlist
    exact has_of_get? hlist
  · exact absurd h (by simp)

end Entries

namespace Schema

/-- Reading at a longer location writes its start before all locations. -/
def Reader.Carries (read : Reader) : Prop :=
  ∀ raw start location, read raw (start ++ location) = (read raw location).under start

/-- The keywords under which members of a schema are listed. -/
def compositions : List String := ["allOf", "oneOf", "anyOf"]

/-- What stands in a schema where another schema is expected, and where that is. -/
inductive Part (raw : Entries) : (segment : String) → Value → Prop
  | property {properties : Entries} {name : String} {value : Value} :
      get? raw "properties" = some (.map properties) →
      get? properties name = some value →
      Part raw ("properties/" ++ Pointer.escape name) value
  | additional {value : Value} : get? raw "additionalProperties" = some value →
      Part raw "additionalProperties" value
  | items {value : Value} : get? raw "items" = some value → Part raw "items" value
  | negated {value : Value} : get? raw "not" = some value → Part raw "not" value
  | member {keyword : String} {items : List Value} {index : Nat} {value : Value} :
      keyword ∈ compositions → get? raw keyword = some (.list items) →
      items[index]? = some value → Part raw (keyword ++ "/" ++ toString index) value

/-- What is done to read something out of a mapping: a warning about a keyword that is there and is
one of `keys`, or the reading of a part, of a property, or for one of several types. -/
inductive Steps : (keys : String → Prop) → {α : Type} → Entries → (Reader → String → Noted α) → Prop
  | pure {keys : String → Prop} {α : Type} {raw : Entries} (value : α) :
      Steps keys raw fun _ _ => pure value
  | warn {keys : String → Prop} {raw : Entries} {key message : String} : keys key →
      has raw key = true → Steps keys raw fun _ location => Noted.warn location key message
  | part {keys : String → Prop} {raw : Entries} {segment : String} {value : Value} :
      Part raw segment value →
      Steps keys raw fun read location => read value (location ++ "/" ++ segment)
  | property {keys : String → Prop} {raw properties : Entries} {entry : Scalar × Value} :
      get? raw "properties" = some (.map properties) → entry ∈ properties →
      Steps keys raw fun read location =>
        read entry.2 (location ++ "/properties/" ++ Pointer.escape entry.1.plain)
  | typed {keys : String → Prop} {α : Type} {raw : Entries} {act : Reader → String → Noted α}
      {type : String} {index : Nat} : raw.ListsTypes → index < raw.listedTypes.length →
      Steps (fun _ => True) (narrowed raw type) act →
      Steps keys raw fun read location => act read (location ++ "/type/" ++ toString index)
  | bind {keys : String → Prop} {α β : Type} {raw : Entries} {first : Reader → String → Noted α}
      {next : α → Reader → String → Noted β} : Steps keys raw first →
      (∀ read location, Steps keys raw (next (first read location).value)) →
      Steps keys raw fun read location => first read location >>= fun value => next value read location

/-! ### Single keywords -/

section Keywords

variable {keys : String → Prop} {raw : Entries} {key : String}

theorem Steps.mapM {α β : Type} {act : α → Reader → String → Noted β} {items : List α}
    (h : ∀ item ∈ items, Steps keys raw (act item)) :
    Steps keys raw fun read location => items.mapM fun item => act item read location := by
  induction items with
  | nil => exact .pure []
  | cons item rest ih =>
    obtain ⟨hfirst, hrest⟩ := List.forall_mem_cons.mp h
    simp only [List.mapM_cons]
    exact .bind hfirst fun _ _ => .bind (ih hrest) fun _ _ => .pure _

theorem Steps.complain {α : Type} {value : Value} {message : String} {found : α} (hkey : keys key)
    (h : given? raw key = some value) :
    Steps keys raw fun _ location => do Noted.warn location key message; return found :=
  .bind (.warn hkey (has_of_get? (given?_eq_some h))) fun _ _ => .pure _

theorem readFlag_steps (hkey : keys key) : Steps keys raw fun _ => readFlag raw key := by
  unfold readFlag
  rcases h : given? raw key with _ | ⟨⟨⟨⟩⟩⟩ <;> first | exact .pure _ | exact .complain hkey h

theorem readNumber_steps (hkey : keys key) : Steps keys raw fun _ => readNumber raw key := by
  unfold readNumber
  rcases h : given? raw key with _ | ⟨⟨⟨⟩⟩⟩ <;> first | exact .pure _ | exact .complain hkey h

theorem readCount_steps (hkey : keys key) : Steps keys raw fun _ => readCount raw key := by
  unfold readCount
  cases h : given? raw key with
  | none => exact .pure _
  | some value =>
    cases value with
    | scalar value =>
      cases value with
      | int value =>
        by_cases hle : 0 ≤ value
        · simp only [if_pos hle]
          exact .pure _
        · simp only [if_neg hle]
          exact .complain hkey h
      | _ => exact .complain hkey h
    | _ => exact .complain hkey h

theorem readExclusive_steps (hkey : keys key) : Steps keys raw fun _ => readExclusive raw key := by
  have hnumber : Steps keys raw fun _ location => do
      return (← readNumber raw key location).map ExclusiveBound.bound :=
    .bind (readNumber_steps hkey) fun _ _ => .pure _
  unfold readExclusive
  rcases given? raw key with _ | ⟨⟨⟨⟩⟩⟩ <;> first | exact .pure _ | exact hnumber

theorem readEnum_steps (hkey : keys "enum") : Steps keys raw fun _ => readEnum raw := by
  unfold readEnum
  rcases h : given? raw "enum" with _ | ⟨_ | ⟨⟨⟩⟩⟩ <;> first | exact .pure _ | exact .complain hkey h

theorem readPattern_steps (hkey : keys "pattern") : Steps keys raw fun _ => readPattern raw := by
  unfold readPattern
  rcases h : given? raw "pattern" with _ | ⟨⟨⟨⟩⟩⟩ <;> first | exact .pure _ | exact .complain hkey h

theorem readRequired_steps (hkey : keys "required") : Steps keys raw fun _ => readRequired raw := by
  unfold readRequired
  cases h : given? raw "required" with
  | none => exact .pure _
  | some value =>
    cases value with
    | list names =>
      dsimp only
      cases names.mapM Value.text? <;> first | exact .pure _ | exact .complain hkey h
    | _ => exact .complain hkey h

theorem noteUnsupported_steps (hkeys : ∀ key ∈ unsupportedKeywords, keys key) :
    Steps keys raw fun _ => noteUnsupported raw := by
  unfold noteUnsupported
  generalize unsupportedKeywords = keywords at hkeys
  induction keywords with
  | nil => exact .pure _
  | cons keyword rest ih =>
    obtain ⟨hfirst, hrest⟩ := List.forall_mem_cons.mp hkeys
    simp only [List.forM]
    refine .bind ?_ fun _ _ => ih hrest
    by_cases hhas : has raw keyword = true
    · simp only [if_pos hhas]
      exact .warn hfirst hhas
    · simp only [if_neg hhas]
      exact .pure _

theorem joinMembers_steps {types : Option (List Schema)} (anyOf : Option (List Schema))
    (htypes : types.isSome = true → keys "type" ∧ has raw "type" = true) :
    Steps keys raw fun _ location => joinMembers location anyOf types := by
  unfold joinMembers
  rcases anyOf with _ | members <;> rcases types with _ | typed
  · exact .pure _
  · exact .pure _
  · exact .pure _
  · exact .bind (.warn (htypes rfl).1 (htypes rfl).2) fun _ _ => .pure _

/-! ### Parts -/

theorem Steps.member {start segment : String} {value : Value} (h : Part raw segment value)
    (hstart : start = "/" ++ segment) :
    Steps keys raw fun read location => read value (location ++ start) := by
  subst hstart
  simp only [← String.append_assoc]
  exact .part h

theorem readProperties_steps (hkey : keys "properties") :
    Steps keys raw fun read => readProperties read raw := by
  unfold readProperties
  cases h : given? raw "properties" with
  | none => exact .pure _
  | some value =>
    cases value with
    | map properties =>
      refine .bind (.mapM fun entry hentry => ?_) fun _ _ => .pure _
      exact .bind (.property (given?_eq_some h) hentry) fun _ _ => .pure _
    | _ => exact .complain hkey h

theorem readAdditional_steps (hkey : keys "additionalProperties") :
    Steps keys raw fun read => readAdditional read raw := by
  unfold readAdditional
  cases h : get? raw "additionalProperties" with
  | none => exact .pure _
  | some value =>
    have hwarn : Steps keys raw fun _ location => (do
        Noted.warn location "additionalProperties"
          "additionalProperties must be a boolean or a schema; ignored"
        return none : Noted (Option (Additional Schema))) :=
      .bind (.warn hkey (has_of_get? h)) fun _ _ => .pure _
    cases value with
    | scalar value => cases value <;> first | exact .pure _ | exact hwarn
    | map entries =>
      cases entries with
      | nil => exact .pure _
      | cons => exact .bind (.member (.additional h) rfl) fun _ _ => .pure _
    | _ => exact hwarn

theorem readItems_steps (hkey : keys "items") : Steps keys raw fun read => readItems read raw := by
  unfold readItems
  cases h : get? raw "items" with
  | none => exact .pure _
  | some value =>
    cases value with
    | list items => exact .bind (.warn hkey (has_of_get? h)) fun _ _ => .pure _
    | _ => exact .bind (.member (.items h) rfl) fun _ _ => .pure _

theorem readNegated_steps : Steps keys raw fun read => readNegated read raw := by
  unfold readNegated
  cases h : get? raw "not" with
  | none => exact .pure _
  | some value => exact .bind (.member (.negated h) rfl) fun _ _ => .pure _

theorem readMembers_steps (hkey : keys key) (hmem : key ∈ compositions) :
    Steps keys raw fun read => readMembers read raw key := by
  unfold readMembers
  cases h : given? raw key with
  | none => exact .pure _
  | some value =>
    cases value with
    | list items =>
      cases items with
      | nil => exact .complain hkey h
      | cons first others =>
        refine .bind (.mapM fun member hmember => ?_) fun _ _ => .pure _
        simp only [String.append_assoc]
        exact .member (.member hmem (given?_eq_some h) (List.mem_zipIdx_iff_getElem?.mp hmember))
          (by simp only [String.append_assoc])
    | _ => exact .complain hkey h

/-! ### Whole schemas -/

theorem readKeywords_steps (nullable : Bool) {typing : Typing}
    (htypes : typing.members.isSome = true → has raw "type" = true) :
    Steps (fun _ => True) raw fun read location => readKeywords read raw location nullable typing := by
  unfold readKeywords
  refine .bind (readEnum_steps trivial) fun _ _ => ?_
  refine .bind (readNumber_steps trivial) fun _ _ => ?_
  refine .bind (readNumber_steps trivial) fun _ _ => ?_
  refine .bind (readNumber_steps trivial) fun _ _ => ?_
  refine .bind (readExclusive_steps trivial) fun _ _ => ?_
  refine .bind (readExclusive_steps trivial) fun _ _ => ?_
  refine .bind (readCount_steps trivial) fun _ _ => ?_
  refine .bind (readCount_steps trivial) fun _ _ => ?_
  refine .bind (readCount_steps trivial) fun _ _ => ?_
  refine .bind (readCount_steps trivial) fun _ _ => ?_
  refine .bind (readPattern_steps trivial) fun _ _ => ?_
  refine .bind (readProperties_steps trivial) fun _ _ => ?_
  refine .bind (readRequired_steps trivial) fun _ _ => ?_
  refine .bind (readAdditional_steps trivial) fun _ _ => ?_
  refine .bind (readItems_steps trivial) fun _ _ => ?_
  refine .bind (readMembers_steps trivial (by decide)) fun _ _ => ?_
  refine .bind (readMembers_steps trivial (by decide)) fun _ _ => ?_
  refine .bind (readMembers_steps trivial (by decide)) fun _ _ => ?_
  refine .bind (joinMembers_steps _ fun h => ⟨trivial, htypes h⟩) fun _ _ => ?_
  refine .bind readNegated_steps fun _ _ => ?_
  exact .bind (noteUnsupported_steps fun _ _ => trivial) fun _ _ => .pure _

theorem readTyping_steps (hkey : keys "type") : Steps keys raw fun read => readTyping read raw := by
  unfold readTyping
  cases h : given? raw "type" with
  | none => exact .pure _
  | some value =>
    cases value with
    | scalar value => cases value <;> first | exact .pure _ | exact .complain hkey h
    | list types =>
      have hlisted := listedTypes_eq (given?_eq_some h)
      dsimp only
      rcases hnames : typeNames types with _ | ⟨first, _ | ⟨second, rest⟩⟩
      · exact .pure _
      · exact .pure _
      · rw [hnames] at hlisted
        refine .bind (.mapM fun member hmember => ?_) fun _ _ => .pure _
        refine .typed (listsTypes_of_names hlisted (by simp) (by simp)) ?_
          (readKeywords_steps false fun hnone => by cases hnone)
        have hindex := (List.mem_zipIdx hmember).2.1
        rw [hlisted]
        omega
    | _ => exact .complain hkey h

theorem has_type_of_members {read : Reader} {location : String}
    (h : (readTyping read raw location).value.members.isSome = true) :
    has raw "type" = true := by
  unfold readTyping at h
  split at h
  · cases h
  · cases h
  · rename_i hgiven
    exact has_of_get? (given?_eq_some hgiven)
  · cases h

/-- A schema is read by steps. -/
theorem ofEntries_steps : Steps (fun _ => True) raw fun read => ofEntries read raw := by
  unfold ofEntries
  cases textOf? raw "$ref" with
  | some ref => exact .pure _
  | none =>
    refine .bind (readFlag_steps trivial) fun _ _ => ?_
    exact .bind (readTyping_steps trivial) fun _ _ => readKeywords_steps _ has_type_of_members

end Keywords

/-! ### Locations -/

/-- Steps at a longer location are those at its end, with the start before all locations. -/
theorem Steps.append {keys : String → Prop} {α : Type} {raw : Entries}
    {act : Reader → String → Noted α} (h : Steps keys raw act) {read : Reader}
    (hread : read.Carries) (start location : String) :
    act read (start ++ location) = (act read location).under start := by
  induction h generalizing location with
  | pure value => rfl
  | warn => rfl
  | part => simpa only [String.append_assoc] using hread _ start _
  | property => simpa only [String.append_assoc] using hread _ start _
  | typed _ _ _ ih => simpa only [String.append_assoc] using ih _
  | bind _ _ ihfirst ihnext =>
    rw [Noted.under_bind]
    dsimp only
    rw [ihfirst]
    exact Noted.bind_congr (ihnext read location location)

theorem readAt_carries (depth : Nat) : Reader.Carries (readAt depth) := by
  induction depth with
  | zero => exact fun _ _ _ => rfl
  | succ depth ih =>
    intro raw start location
    unfold readAt
    split
    · rfl
    · rfl
    · exact ofEntries_steps.append ih start location
    · rfl

/-- Reading at a longer location writes its start before all locations. -/
theorem ofValue_append (raw : Value) (start location : String) :
    ofValue raw (start ++ location) = (ofValue raw location).under start :=
  readAt_carries raw.depth raw start location

/-- What is read does not depend on the location. -/
theorem value_ofValue_eq (raw : Value) (location other : String) :
    (ofValue raw location).value = (ofValue raw other).value := by
  have hplaced : ∀ place, (ofValue raw place).value = (ofValue raw "").value := by
    intro place
    rw [← @String.append_empty place, ofValue_append, Noted.value_under]
  rw [hplaced location, hplaced other]

end Schema

end OpenApiClient
