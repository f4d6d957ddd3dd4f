import OpenApiClient.Proofs.Schema.Reader

/-!
# What is read from JSON can be written

The values of a document are more than JSON has: bytes, timestamps, sets, pairs, values that contain
themselves and integers with more digits than are read. A text in JSON has none of these at any
depth (`Value.Plain`), whatever its shape (`Json.read_plain`), and a value without them can always
be written (`Json.exists_write`). The keys of a mapping are texts, no two of them the same, at all
depths too (`Value.Keyed`, `Json.read_keyed`).

Both are properties that are passed on when values are put together (`Json.Passed`), and what is
passed on is true of all that is read (`Json.read_passed`).
-/

namespace OpenApiClient

open List

/-- A scalar that JSON has. An integer has no more digits than are read. -/
def Scalar.Plain : Scalar → Prop
  | .bytes _ | .timestamp _ => False
  | .int value => (Scalar.int value).isLong = false
  | .null | .bool _ | .float _ | .text _ => True

/-- A value that JSON has, at all depths. -/
inductive Value.Plain : Value → Prop
  | scalar {scalar : Scalar} : scalar.Plain → Plain (.scalar scalar)
  | list {items : List Value} : (∀ item ∈ items, Plain item) → Plain (.list items)
  | map {entries : Entries} : (∀ entry ∈ entries, entry.1.Plain) →
      (∀ entry ∈ entries, Plain entry.2) → Plain (.map entries)

/-- The keys of entries are texts, each of which stands once. -/
structure Entries.Keyed (entries : Entries) : Prop where
  text : ∀ entry ∈ entries, ∃ name, entry.1 = .text name
  nodup : (entries.map (·.1)).Nodup

/-- The keys of mappings are texts, each of which stands once, at all depths. -/
inductive Value.Keyed : Value → Prop
  | scalar (scalar : Scalar) : Keyed (.scalar scalar)
  | list {items : List Value} : (∀ item ∈ items, Keyed item) → Keyed (.list items)
  | map {entries : Entries} : entries.Keyed → (∀ entry ∈ entries, Keyed entry.2) →
      Keyed (.map entries)

theorem Value.Keyed.keys {entries : Entries} (h : (Value.map entries).Keyed) : entries.Keyed := by
  cases h with
  | map hkeys _ => exact hkeys

theorem Value.keyed_hereditary : Value.Hereditary Value.Keyed where
  text _ := .scalar _
  item items h := by
    cases h with
    | list hitems => exact hitems
  entry entries h := by
    cases h with
    | map _ hvalues => exact hvalues

theorem Value.plain_hereditary : Value.Hereditary Value.Plain where
  text _ := .scalar trivial
  item _ h := by
    cases h with
    | list h => exact h
  entry _ h := by
    cases h with
    | map _ h => exact h

namespace Json

/-! ### Reading -/

theorem readMagnitude?_plain {negative : Bool} {text rest : List Char} {number : Scalar}
    (h : readMagnitude? negative text = some (number, rest)) (hshort : ¬ number.isLong = true) :
    number.Plain := by
  unfold readMagnitude? at h
  obtain ⟨⟨whole, following⟩, -, h⟩ := Option.bind_eq_some_iff.mp h
  dsimp only at h
  split at h
  · cases h
    trivial
  · split at h
    · cases h
      exact Bool.eq_false_of_not_eq_true hshort
    · cases h
      trivial

theorem readNumber?_plain {text rest : List Char} {number : Scalar}
    (h : readNumber? text = some (number, rest)) (hshort : ¬ number.isLong = true) :
    number.Plain := by
  unfold readNumber? at h
  split at h
  · exact readMagnitude?_plain h hshort
  · exact readMagnitude?_plain h hshort

/-- The key of an entry is one of those that were given, and so is its value. -/
theorem mem_insert {α : Type} {entries : List (Scalar × α)} {key : Scalar} {value : α}
    {entry : Scalar × α} (h : entry ∈ Entries.insert entries key value) :
    (entry.1 = key ∨ ∃ other ∈ entries, entry.1 = other.1) ∧
      (entry.2 = value ∨ ∃ other ∈ entries, entry.2 = other.2) := by
  induction entries with
  | nil =>
    rw [mem_singleton.mp h]
    exact ⟨.inl rfl, .inl rfl⟩
  | cons first others ih =>
    have hself : ∀ other ∈ first :: others,
        (other.1 = key ∨ ∃ given ∈ first :: others, other.1 = given.1) ∧
          (other.2 = value ∨ ∃ given ∈ first :: others, other.2 = given.2) :=
      fun other hother => ⟨.inr ⟨other, hother, rfl⟩, .inr ⟨other, hother, rfl⟩⟩
    unfold Entries.insert at h
    split at h
    · rcases mem_cons.mp h with rfl | h
      · exact ⟨.inr ⟨first, mem_cons_self, rfl⟩, .inl rfl⟩
      · exact hself entry (mem_cons_of_mem _ h)
    · rcases mem_cons.mp h with rfl | h
      · exact hself _ mem_cons_self
      · obtain ⟨hkey, hvalue⟩ := ih h
        refine ⟨hkey.imp_right ?_, hvalue.imp_right ?_⟩
        · rintro ⟨other, hother, heq⟩
          exact ⟨other, mem_cons_of_mem _ hother, heq⟩
        · rintro ⟨other, hother, heq⟩
          exact ⟨other, mem_cons_of_mem _ hother, heq⟩

theorem plain_insert {entries : Entries} (name : String) {value : Value}
    (hentries : (Value.map entries).Plain) (hvalue : value.Plain) :
    (Value.map (Entries.insert entries (.text name) value)).Plain := by
  cases hentries with
  | map hkeys hvalues =>
    refine .map (fun entry hentry => ?_) (fun entry hentry => ?_)
    · rcases (mem_insert hentry).1 with hkey | ⟨other, hother, hkey⟩
      · rw [hkey]
        trivial
      · rw [hkey]
        exact hkeys other hother
    · rcases (mem_insert hentry).2 with heq | ⟨other, hother, heq⟩
      · rwa [heq]
      · rw [heq]
        exact hvalues other hother

theorem keys_insert (entries : Entries) (name : String) (value : Value) :
    (Entries.insert entries (.text name) value).map (·.1) =
      if .text name ∈ entries.map (·.1) then entries.map (·.1)
      else entries.map (·.1) ++ [.text name] := by
  induction entries with
  | nil => rfl
  | cons first others ih =>
    rw [Entries.insert, Scalar.sameValue_text]
    by_cases hfirst : first.1 = .text name
    · simp [hfirst]
    · by_cases hmem : .text name ∈ others.map (·.1) <;> simp_all [Ne.symm hfirst]

theorem insert_keyed {entries : Entries} (h : entries.Keyed) (name : String) (value : Value) :
    Entries.Keyed (Entries.insert entries (.text name) value) := by
  refine ⟨fun entry hentry => ?_, ?_⟩
  · rcases (mem_insert hentry).1 with hkey | ⟨other, hother, hkey⟩
    · exact ⟨name, hkey⟩
    · rw [hkey]
      exact h.text other hother
  · rw [keys_insert]
    split
    · exact h.nodup
    · rename_i hnew
      exact h.nodup.append (nodup_singleton _) (by simpa using hnew)

theorem keyed_insert {entries : Entries} (name : String) {value : Value}
    (hentries : (Value.map entries).Keyed) (hvalue : value.Keyed) :
    (Value.map (Entries.insert entries (.text name) value)).Keyed := by
  cases hentries with
  | map hkeys hvalues =>
    refine .map (insert_keyed hkeys name value) (fun entry hentry => ?_)
    rcases (mem_insert hentry).2 with heq | ⟨other, hother, heq⟩
    · rwa [heq]
    · rw [heq]
      exact hvalues other hother

/-- A property that values have if they are put together, as a reader does it, of values that
have it. -/
structure Passed (good : Value → Prop) : Prop where
  scalar : ∀ {scalar : Scalar}, scalar.Plain → good (.scalar scalar)
  list : ∀ {items : List Value}, (∀ item ∈ items, good item) → good (.list items)
  empty : good (.map [])
  insert : ∀ {entries : Entries} (name : String) {value : Value}, good (.map entries) →
    good value → good (.map (Entries.insert entries (.text name) value))

/-- What is read within a depth is good if the items and entries that were read before are. -/
structure Reads (good : Value → Prop) (depth : Nat) : Prop where
  value : ∀ text value rest, readValue depth text = .ok (value, rest) → good value
  items : ∀ items text value rest, (∀ item ∈ items, good item) →
    readItems depth items text = .ok (value, rest) → good value
  members : ∀ entries text value rest, good (.map entries) →
    readMembers depth entries text = .ok (value, rest) → good value

section Passed

variable {good : Value → Prop} (hgood : Passed good)

include hgood

theorem readValue_passed {depth : Nat} (h : Reads good depth) {text rest : List Char}
    {value : Value} (hread : readValue (depth + 1) text = .ok (value, rest)) : good value := by
  unfold readValue at hread
  split at hread
  · split at hread
    · cases hread
      exact hgood.scalar trivial
    · cases hread
  · split at hread
    · cases hread
      exact hgood.empty
    · exact h.members _ _ _ _ hgood.empty hread
  · split at hread
    · cases hread
      exact hgood.list (by simp)
    · exact h.items _ _ _ _ (by simp) hread
  · cases hread
    exact hgood.scalar trivial
  · cases hread
    exact hgood.scalar trivial
  · cases hread
    exact hgood.scalar trivial
  · cases hread
    exact hgood.scalar trivial
  · cases hread
    exact hgood.scalar trivial
  · cases hread
    exact hgood.scalar trivial
  · split at hread
    · rename_i hnumber
      split at hread
      · cases hread
      · rename_i hshort
        cases hread
        exact hgood.scalar (readNumber?_plain hnumber hshort)
    · cases hread

theorem readItems_passed {depth : Nat} (h : Reads good depth) {items : List Value}
    {text rest : List Char} {value : Value} (hitems : ∀ item ∈ items, good item)
    (hread : readItems (depth + 1) items text = .ok (value, rest)) : good value := by
  unfold readItems at hread
  split at hread
  · cases hread
  · rename_i item following hitem
    have hall : ∀ other ∈ item :: items, good other :=
      forall_mem_cons.mpr ⟨h.value _ _ _ hitem, hitems⟩
    split at hread
    · cases hread
      exact hgood.list fun other hother => hall other (mem_reverse.mp hother)
    · exact h.items _ _ _ _ hall hread
    · cases hread

theorem readMembers_passed {depth : Nat} (h : Reads good depth) {entries : Entries}
    {text rest : List Char} {value : Value} (hentries : good (.map entries))
    (hread : readMembers (depth + 1) entries text = .ok (value, rest)) : good value := by
  unfold readMembers at hread
  split at hread
  · split at hread
    · cases hread
    · rename_i name _ _
      split at hread
      · split at hread
        · cases hread
        · rename_i member _ hmember
          have hall := hgood.insert name hentries (h.value _ _ _ hmember)
          dsimp only at hread
          split at hread
          · cases hread
            exact hall
          · exact h.members _ _ _ _ hall hread
          · cases hread
      · cases hread
  · cases hread

theorem reads_passed : ∀ depth, Reads good depth := by
  intro depth
  induction depth with
  | zero =>
    constructor
    · intro text value rest h
      cases h
    · intro items text value rest _ h
      cases h
    · intro entries text value rest _ h
      cases h
  | succ depth ih =>
    exact ⟨fun _ _ _ => readValue_passed hgood ih, fun _ _ _ _ => readItems_passed hgood ih,
      fun _ _ _ _ => readMembers_passed hgood ih⟩

/-- What a text in JSON denotes has every property that is passed on. -/
theorem read_passed {text : String} {value : Value} (h : read text = .ok value) : good value := by
  unfold read at h
  split at h
  · rename_i found hfound
    cases h
    unfold readChars at hfound
    split at hfound
    · cases hfound
    · split at hfound
      · cases hfound
      · rename_i value rest hvalue
        split at hfound
        · cases hfound
          exact (reads_passed hgood _).value _ _ _ hvalue
        · cases hfound
  · cases h

end Passed

/-- What a text in JSON denotes is plain. -/
theorem read_plain {text : String} {value : Value} (h : read text = .ok value) : value.Plain :=
  read_passed ⟨.scalar, .list, .map (by simp) (by simp), plain_insert⟩ h

/-- In what a text in JSON denotes, the keys of mappings are texts, each of which stands once. -/
theorem read_keyed {text : String} {value : Value} (h : read text = .ok value) : value.Keyed :=
  read_passed ⟨fun _ => .scalar _, .list, .map ⟨by simp, nodup_nil⟩ (by simp), keyed_insert⟩ h

/-! ### Writing -/

theorem exists_writeScalar {scalar : Scalar} (h : scalar.Plain) :
    ∃ text, writeScalar scalar = .ok text := by
  cases scalar with
  | bytes value => exact h.elim
  | timestamp value => exact h.elim
  | int value => exact ⟨_, if_neg (Bool.eq_false_iff.mp h)⟩
  | _ => exact ⟨_, rfl⟩

theorem exists_writeKey {key : Scalar} (h : key.Plain) : ∃ text, writeKey key = .ok text := by
  obtain ⟨text, htext⟩ := exists_writeScalar h
  cases key with
  | bytes value => exact h.elim
  | timestamp value => exact h.elim
  | text value => exact ⟨_, rfl⟩
  | _ => exact ⟨writeString text, by simp only [writeKey, htext]⟩

theorem exists_writeItems {items : List Value}
    (h : ∀ item ∈ items, ∃ text, write item = .ok text) :
    ∃ texts, writeItems items = .ok texts := by
  induction items with
  | nil => exact ⟨[], rfl⟩
  | cons item rest ih =>
    obtain ⟨text, htext⟩ := h item mem_cons_self
    obtain ⟨texts, htexts⟩ := ih fun other hother => h other (mem_cons_of_mem _ hother)
    exact ⟨text :: texts, by simp [writeItems, htext, htexts]; rfl⟩

theorem exists_writeEntries {entries : Entries} (hkeys : ∀ entry ∈ entries, entry.1.Plain)
    (h : ∀ entry ∈ entries, ∃ text, write entry.2 = .ok text) :
    ∃ texts, writeEntries entries = .ok texts := by
  induction entries with
  | nil => exact ⟨[], rfl⟩
  | cons entry rest ih =>
    obtain ⟨key, hkey⟩ := exists_writeKey (hkeys entry mem_cons_self)
    obtain ⟨text, htext⟩ := h entry mem_cons_self
    obtain ⟨texts, htexts⟩ := ih (fun other hother => hkeys other (mem_cons_of_mem _ hother))
      fun other hother => h other (mem_cons_of_mem _ hother)
    exact ⟨(key ++ ": " ++ text) :: texts, by simp [writeEntries, hkey, htext, htexts]; rfl⟩

/-- A plain value can be written. -/
theorem exists_write {value : Value} (h : value.Plain) : ∃ text, write value = .ok text := by
  induction h with
  | scalar h => exact exists_writeScalar h
  | list _ ih =>
    obtain ⟨texts, htexts⟩ := exists_writeItems ih
    exact ⟨_, by rw [write, htexts]; rfl⟩
  | map hkeys _ ih =>
    obtain ⟨texts, htexts⟩ := exists_writeEntries hkeys ih
    exact ⟨_, by rw [write, htexts]; rfl⟩

end Json

end OpenApiClient
