import Mathlib.Logic.Function.Iterate
import OpenApiClient.Proofs.Schema.Congruence
import OpenApiClient.Proofs.Schema.Nodes

/-!
# What every node of a schema that is read is like

The reader calls itself for what stands in a mapping, and for a mapping that lists several types
once for each of them, with a mapping made up for this type. These calls come to an end, and every
node of the schema is what is read out of some value (`nodes_sound`). So what can be said about a
node can be said about one call: its keywords are absent or make sense (`Sound`).
-/

namespace OpenApiClient.Schema

variable {read : Reader} {raw : Entries} {location type : String}

/-! ### One of several types -/

theorem ofEntries_narrowed (href : textOf? raw "$ref" = none) :
    ofEntries read (narrowed raw type) location =
      readKeywords read (narrowed raw type) location false { kind := .ofTypeName type } := by
  rw [textOf?] at href
  simp [ofEntries, textOf?, readFlag, readTyping, given?, get?_narrowed, wholeKeywords, href]

theorem isComposed_narrowed (nullable : Bool) (kind : Kind) :
    (readKeywords read (narrowed raw type) location nullable { kind }).value.isComposed = false := by
  simp [readKeywords, isComposed, readMembers, readNegated, joinMembers, given?, get?_narrowed,
    wholeKeywords]

theorem Held.depth_le {value : Value} (h : Held raw value) :
    value.depth ≤ Value.entriesDepth raw := by
  cases h with
  | value hvalue => exact depth_le_entriesDepth (Entries.mem_of_get? hvalue)
  | item hitems hitem =>
    have hle := depth_le_entriesDepth (Entries.mem_of_get? hitems)
    rw [Value.depth] at hle
    exact ((depth_le_listDepth hitem).trans (Nat.le_succ _)).trans hle
  | entry hentries hentry =>
    have hle := depth_le_entriesDepth (Entries.mem_of_get? hentries)
    rw [Value.depth] at hle
    exact ((depth_le_entriesDepth hentry).trans (Nat.le_succ _)).trans hle

theorem entriesDepth_le {depth : Nat} (h : ∀ entry ∈ raw, entry.2.depth ≤ depth) :
    Value.entriesDepth raw ≤ depth := by
  induction raw with
  | nil => exact Nat.zero_le _
  | cons entry rest ih =>
    obtain ⟨hfirst, hrest⟩ := List.forall_mem_cons.mp h
    exact max_le hfirst (ih hrest)

theorem entriesDepth_narrowed (h : raw.ListsTypes) (type : String) :
    Value.entriesDepth (narrowed raw type) ≤ Value.entriesDepth raw := by
  obtain ⟨types, htypes⟩ := Option.isSome_iff_exists.mp h.has_type
  refine entriesDepth_le fun entry hentry => ?_
  rcases List.mem_append.mp hentry with hentry | hentry
  · exact depth_le_entriesDepth (List.mem_of_mem_filter hentry)
  · rw [List.mem_singleton.mp hentry]
    exact types.depth_pos.trans_le (depth_le_entriesDepth (Entries.mem_of_get? htypes))

/-- For one of several types, the schema is that of a mapping of its own. -/
theorem ofValue_narrowed (href : textOf? raw "$ref" = none) (h : raw.ListsTypes) :
    ofValue (.map (narrowed raw type)) location =
      readKeywords (readAt (Value.entriesDepth raw)) (narrowed raw type) location false
        { kind := .ofTypeName type } := by
  rw [ofValue_map (entriesDepth_narrowed h type), ofEntries_narrowed href]

/-! ### The calls of the reader -/

/-- The reader with `read` in the place of all calls to itself: for what stands in a mapping, and
for a mapping that is made up for one of several types. -/
def unfolded (read : Reader) : Reader
  | .map raw, location =>
    match Entries.get? raw "type", textOf? raw "$ref" with
    | some (.list types), none =>
      if 2 ≤ (typeNames types).length then do
        let nullable ← readFlag raw "nullable" location
        let members ← (typeNames types).zipIdx.mapM fun (type, index) =>
          read (.map (narrowed raw type)) (location ++ "/type/" ++ toString index)
        readKeywords read raw location nullable
          { kind := .unknown, nullable := (types.filterMap Value.text?).contains "null"
            members := some members }
      else ofEntries read raw location
    | _, _ => ofEntries read raw location
  | value, location => readAt 1 value location

/-- Two readers agree on all values up to a depth. -/
def Agree (depth : Nat) (read reread : Reader) : Prop :=
  ∀ value, value.depth ≤ depth → ∀ location, read value location = reread value location

theorem Agree.mono {depth less : Nat} {read reread : Reader} (h : Agree depth read reread)
    (hless : less ≤ depth) : Agree less read reread :=
  fun value hvalue => h value (hvalue.trans hless)

section Agree

variable {reread : Reader} (h : Agree (Value.entriesDepth raw) read reread)

include h

theorem Agree.alike (name : String) : Alike read reread raw raw name := by
  refine alike_of_get?_eq rfl fun value hvalue part hpart => h part ?_
  exact hpart.trans (depth_le_entriesDepth (Entries.mem_of_get? hvalue))

theorem Agree.ofEntries_eq : ofEntries read raw location = ofEntries reread raw location :=
  ofEntries_congr h.alike

theorem Agree.unfolded_eq (htypes : textOf? raw "$ref" = none → raw.ListsTypes → ∀ type location,
      read (.map (narrowed raw type)) location =
        readKeywords reread (narrowed raw type) location false { kind := .ofTypeName type }) :
    unfolded read (.map raw) location = ofEntries reread raw location := by
  rw [unfolded]
  split
  · rename_i types htype href
    split
    · rename_i hseveral
      have hlists : raw.ListsTypes := by rwa [Entries.ListsTypes, Entries.listedTypes_eq htype]
      have hkeywords : ∀ nullable typing, readKeywords read raw location nullable typing =
          readKeywords reread raw location nullable typing := fun nullable typing =>
        readKeywords_congr (fun name _ => h.alike name) nullable typing rfl fun _ _ => rfl
      rw [ofEntries, href]
      simp only [readTyping, given?, htype, htypes href hlists, hkeywords]
      split
      · rename_i hnil
        simp [hnil] at hseveral
      · rename_i hsingle
        simp [hsingle] at hseveral
      · simp
    · exact h.ofEntries_eq
  · exact h.ofEntries_eq

end Agree

/-- However the calls of the reader go on, twice as many of them inside each other as the value is
deep are enough. -/
theorem agree_iterate_unfolded {depth steps : Nat} (hsteps : 2 * depth ≤ steps) (read : Reader) :
    Agree depth (unfolded^[steps] read) (readAt depth) := by
  induction depth generalizing steps with
  | zero => exact fun value hvalue => absurd value.depth_pos (by omega)
  | succ depth ih =>
    obtain ⟨steps, rfl⟩ := Nat.exists_eq_add_of_le' (Nat.le_trans (by omega) hsteps : 2 ≤ steps)
    have hinner : Agree depth (unfolded^[steps] read) (readAt depth) := ih (by omega)
    have houter : Agree depth (unfolded^[steps + 1] read) (readAt depth) := ih (by omega)
    intro value hvalue location
    rw [Function.iterate_succ_apply']
    cases value with
    | map raw =>
      rw [Value.depth, Nat.add_le_add_iff_right] at hvalue
      refine (houter.mono hvalue).unfolded_eq fun href htypes type place => ?_
      -- the mapping that is made up lists one type only, and this call is the last but for parts
      have hnarrowed := (entriesDepth_narrowed htypes type).trans hvalue
      rw [Function.iterate_succ_apply', ← ofEntries_narrowed href]
      refine (hinner.mono hnarrowed).unfolded_eq fun _ hlists => absurd hlists ?_
      simp [Entries.ListsTypes, Entries.listedTypes, get?_narrowed]
    | scalar value =>
      cases value with
      | bool value => cases value <;> rfl
      | _ => rfl
    | _ => rfl

/-! ### Keywords -/

theorem readRequired_nodup {names : List String}
    (h : (readRequired raw location).value = some names) : names.Nodup := by
  have hfold : ∀ names seen : List String, seen.Nodup →
      (names.foldl (fun seen n => if seen.contains n then seen else seen ++ [n]) seen).Nodup := by
    intro names
    induction names with
    | nil => exact fun _ hseen => hseen
    | cons name rest ih =>
      intro seen hseen
      rw [List.foldl_cons]
      split
      · exact ih seen hseen
      · rename_i hnew
        rw [← List.concat_eq_append]
        exact ih _ (hseen.concat (by simpa using hnew))
  unfold readRequired at h
  dsimp only at h
  split at h
  · cases h
  · split at h
    · cases h
      exact hfold _ [] List.nodup_nil
    · cases h
  · cases h

theorem kind_of_soleTypeName? (h : soleTypeName? raw = some type) :
    (readTyping read raw location).value.kind = .ofTypeName type := by
  unfold soleTypeName? at h
  split at h
  · rename_i htype
    cases h
    simp [readTyping, given?, htype]
  · rename_i htypes
    split at h
    · rename_i hnames
      cases h
      simp [readTyping, given?, htypes, hnames]
    · cases h
  · cases h

theorem ne_word_of_unknown (h : Kind.ofTypeName type = .unknown) {kind : Kind}
    (hkind : kind ≠ .unknown) : type ≠ kind.word := by
  rintro rfl
  revert h hkind
  cases kind <;> decide

/-! ### The nodes of a schema -/

/-- A node of a schema: the schema itself, or a node of one of its parts. -/
inductive Within (node : Schema) : Schema → Prop
  | self : Within node node
  | part {schema part : Schema} : part ∈ schema.parts → Within node part → Within node schema

/-- What the reader is called for when it reads a value. For `false` it is what is negated. -/
inductive Called (raw : Value) : Value → Prop
  | self : Called raw raw
  | held {entries : Entries} {value : Value} : Called raw (.map entries) → Held entries value →
      Called raw value
  | typed {entries : Entries} {type : String} : Called raw (.map entries) → entries.ListsTypes →
      Called raw (.map (narrowed entries type))
  | negated : Called raw (.bool false) → Called raw (.bool true)

/-- What the node that is read out of a value is like: its keywords are absent or make sense. -/
structure Sound (raw : Value) (node : Schema) : Prop where
  enum : node.enum ≠ some []
  allOf : node.allOf ≠ some []
  oneOf : node.oneOf ≠ some []
  anyOf : node.anyOf ≠ some []
  required : ∀ names ∈ node.required, names.Nodup
  counts : ∀ entry ∈ [("minLength", node.minLength), ("maxLength", node.maxLength),
    ("minItems", node.minItems), ("maxItems", node.maxItems)],
    ∀ count ∈ entry.2, raw.get? entry.1 = some (.int count)
  numbers : ∀ entry ∈ [("minimum", node.minimum), ("maximum", node.maximum),
    ("multipleOf", node.multipleOf)], ∀ number ∈ entry.2, raw.get? entry.1 = some number.toValue
  ref : node.ref.isSome = true →
    node = { ref := node.ref, nullable := node.nullable, description := node.description }
  unsupported : ∀ name ∈ node.unsupportedType,
    node.kind = .unknown ∧ ∀ kind : Kind, kind ≠ .unknown → name ≠ kind.word
  /-- Alternatives that no `anyOf` lists are made up for the types. -/
  typed : ∀ members ∈ node.anyOf,
    (∃ items, items ≠ [] ∧ raw.get? "anyOf" = some (.list items)) ∨
      ∃ entries : Entries, raw = .map entries ∧ entries.ListsTypes ∧
        members.length = entries.listedTypes.length ∧ ∀ member ∈ members, member.isComposed = false

theorem sound_leaf (value : Value) (ref description : Option String) (nullable : Bool)
    (negated : Option Schema) (h : ref.isSome = true → negated = none) :
    Sound value { ref, nullable, description, negated } where
  enum := by simp
  allOf := by simp
  oneOf := by simp
  anyOf := by simp
  required := by simp
  counts := by simp
  numbers := by simp
  ref := fun href => by rw [h href]
  unsupported := by simp
  typed := by simp

theorem sound_readKeywords (nullable : Bool) :
    Sound (.map raw) (readKeywords read raw location nullable
      (readTyping read raw location).value).value where
  enum := fun h => (readEnum_cons h).1 rfl
  allOf := readMembers_ne_nil _ _ _ _
  oneOf := readMembers_ne_nil _ _ _ _
  anyOf := by
    refine anyOf_ne_nil fun h => ?_
    obtain ⟨hlists, hlength, -⟩ := members_of_typing h
    rw [Entries.ListsTypes, ← hlength] at hlists
    cases hlists
  required := fun names h => readRequired_nodup h
  counts := by
    simp only [List.forall_mem_cons, List.not_mem_nil, false_implies, implies_true, and_true]
    exact ⟨fun _ => readCount_eq_some, fun _ => readCount_eq_some, fun _ => readCount_eq_some,
      fun _ => readCount_eq_some⟩
  numbers := by
    simp only [List.forall_mem_cons, List.not_mem_nil, false_implies, implies_true, and_true]
    exact ⟨fun _ => readNumber_eq_some, fun _ => readNumber_eq_some, fun _ => readNumber_eq_some⟩
  ref := fun h => by cases h
  unsupported := by
    intro name h
    change (if _ then _ else _) = some name at h
    split at h
    · rename_i hkind
      simp only [Bool.and_eq_true, decide_eq_true_eq] at hkind
      exact ⟨hkind.1, fun kind => ne_word_of_unknown ((kind_of_soleTypeName? h).symm.trans hkind.1)⟩
    · cases h
  typed := by
    intro members h
    change (joinMembers location (readMembers read raw "anyOf" location).value
      (readTyping read raw location).value.members).value = some members at h
    rw [value_joinMembers, Option.or_eq_some_iff] at h
    rcases h with hown | ⟨-, htyped⟩
    · obtain ⟨items, hnil, hitems, -⟩ := readMembers_eq_some hown
      exact .inl ⟨items, hnil, hitems⟩
    · obtain ⟨hlists, hlength, hmembers⟩ := members_of_typing htyped
      refine .inr ⟨raw, rfl, hlists, hlength, fun member hmember => ?_⟩
      obtain ⟨type, place, rfl⟩ := hmembers member hmember
      exact isComposed_narrowed false _

/-- What is no mapping is read as a schema without keywords, or as the negation of one. -/
theorem ofValue_leaf (raw : Value) (location : String) : (∃ entries, raw = .map entries) ∨
    (ofValue raw location).value = {} ∨
      raw = .bool false ∧ (ofValue raw location).value = { negated := some {} } := by
  cases raw with
  | map entries => exact .inl ⟨entries, rfl⟩
  | scalar value =>
    rw [ofValue, Value.depth]
    cases value with
    | bool value =>
      cases value with
      | false => exact .inr (.inr ⟨rfl, rfl⟩)
      | true => exact .inr (.inl rfl)
    | _ => exact .inr (.inl rfl)
  | _ =>
    rw [ofValue, Value.depth]
    exact .inr (.inl rfl)

/-- What is read out of a value makes sense. -/
theorem ofValue_sound (raw : Value) (location : String) :
    Sound raw (ofValue raw location).value := by
  rcases ofValue_leaf raw location with ⟨entries, rfl⟩ | hempty | ⟨-, hnegated⟩
  · rw [ofValue_map le_rfl, ofEntries]
    split
    · exact sound_leaf _ _ _ _ none fun _ => rfl
    · rw [Noted.value_bind, Noted.value_bind]
      exact sound_readKeywords _
  · rw [hempty]
    exact sound_leaf _ none none false none (by simp)
  · rw [hnegated]
    exact sound_leaf _ none none false _ (by simp)

/-- The parts of what is read are what the reader is called for. -/
theorem part_ofValue {raw value : Value} {part : Schema} (hcalled : Called raw value)
    (h : part ∈ (ofValue value location).value.parts) :
    ∃ inner place, Called raw inner ∧ (ofValue inner place).value = part := by
  rcases ofValue_leaf value location with ⟨entries, rfl⟩ | hempty | ⟨rfl, hnegated⟩
  · rw [ofValue_map le_rfl, ofEntries] at h
    split at h
    · exact absurd h List.not_mem_nil
    · rename_i href
      rw [Noted.value_bind, Noted.value_bind] at h
      -- a part is read out of what stands in the mapping, or for one of the types it lists
      rcases part_readKeywords h with ⟨inner, place, hheld, hread⟩ | ⟨members, hmembers, hmember⟩
      · exact ⟨inner, place, hcalled.held hheld, by rwa [ofValue_eq_readAt hheld.depth_le]⟩
      · obtain ⟨hlists, -, hread⟩ := members_of_typing hmembers
        obtain ⟨type, place, htype⟩ := hread part hmember
        exact ⟨_, place, hcalled.typed hlists, by rwa [ofValue_narrowed href hlists]⟩
  · rw [hempty] at h
    exact absurd h List.not_mem_nil
  · rw [hnegated] at h
    exact ⟨.bool true, location, hcalled.negated, (List.mem_singleton.mp h).symm⟩

/-- The reader comes to an end for every value, whatever stands for the calls that are nested too
deeply. Every node of the schema is read by one of the calls, and makes sense. -/
theorem nodes_sound (raw : Value) (location : String) :
    (∀ steps ≥ 2 * raw.depth, ∀ read,
        unfolded^[steps] read raw location = ofValue raw location) ∧
      ∀ node, Within node (ofValue raw location).value → ∃ value place, Called raw value ∧
        (ofValue value place).value = node ∧ Sound value node := by
  refine ⟨fun steps hsteps read => agree_iterate_unfolded hsteps read raw le_rfl location, ?_⟩
  have hnodes : ∀ {node schema : Schema}, Within node schema →
      (∃ value place, Called raw value ∧ (ofValue value place).value = schema) →
      ∃ value place, Called raw value ∧ (ofValue value place).value = node := by
    intro node schema h
    induction h with
    | self => exact id
    | part hpart _ ih =>
      rintro ⟨value, place, hcalled, rfl⟩
      exact ih (part_ofValue hcalled hpart)
  intro node h
  obtain ⟨value, place, hcalled, rfl⟩ := hnodes h ⟨raw, location, .self, rfl⟩
  exact ⟨value, place, hcalled, rfl, ofValue_sound value place⟩

end OpenApiClient.Schema
