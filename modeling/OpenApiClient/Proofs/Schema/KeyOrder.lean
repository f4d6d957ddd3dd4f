import OpenApiClient.Conversion.Basic
import OpenApiClient.Proofs.Schema.Congruence

/-!
# The order of keywords

The order in which the mappings of a schema list their keywords does not matter
(`keyword_order_irrelevant`). The order of declared properties does matter, and so does the order
inside values that are only passed on, so `Reordered` keeps both.
-/

namespace OpenApiClient

open List

namespace Schema

/-! ### Schemas with their keywords in another order -/

/-- The entries of a mapping in another order. No text is a key twice. -/
def Shuffled (related : Value → Value → Prop) (entries others : Entries) : Prop :=
  (∀ name, (entries.map (·.1)).count (.text name) ≤ 1) ∧ ∃ middle, entries.Perm middle ∧
    List.Forall₂ (fun entry other => entry.1 = other.1 ∧
      Kept (fun _ => True) related entry.1 entry.2 other.2) middle others

/-- A schema with the keywords of its mappings in another order, down to a depth. -/
def Reordered : (depth : Nat) → Value → Value → Prop
  | depth + 1, .map entries, .map others => Shuffled (Reordered depth) entries others
  | _, value, other => value = other

/-! ### Entries in another order -/

variable {entries : Entries} {key : Scalar}

theorem lookup_eq_of_perm {middle : Entries} (h : entries.Perm middle)
    (honce : (entries.map (·.1)).count key ≤ 1) : entries.lookup key = middle.lookup key := by
  induction h with
  | nil => rfl
  | cons entry _ ih =>
    rw [map_cons, count_cons] at honce
    rw [Named.lookup_cons_ite, Named.lookup_cons_ite, ih (by omega)]
  | swap first second rest =>
    simp only [map_cons, count_cons, beq_iff_eq] at honce
    simp only [Named.lookup_cons_ite]
    -- the key cannot be that of both entries
    grind
  | trans hfirst _ ihfirst ihsecond =>
    rw [ihfirst honce, ihsecond (by rwa [← (hfirst.map (·.1)).count_eq])]

variable {others : Entries}

variable {given value : Value} {related : Value → Value → Prop}

theorem Kept.mono {whole : Value → Prop} {wanted : Value → Value → Prop}
    (h : Kept (fun _ => True) related key value given) (hwhole : ∀ value, whole value)
    (himp : ∀ value given, related value given → wanted value given) :
    Kept whole wanted key value given := by
  cases h with
  | same => exact .same fun _ => hwhole _
  | schema hname hrelated => exact .schema hname (himp _ _ hrelated)
  | members hname hitems => exact .members hname (hitems.imp himp)
  | table hname hentries =>
    exact .table hname (hentries.imp fun _ _ hentry => ⟨hentry.1, himp _ _ hentry.2⟩)

/-- What stands under a keyword of a mapping in another order is kept. -/
theorem Shuffled.rel {wanted : Value → Value → Prop} {whole : Value → Prop}
    (h : Shuffled related entries others) (hwhole : ∀ value, whole value)
    (himp : ∀ value given, related value given → wanted value given) (name : String) :
    Option.Rel (Kept whole wanted (.text name)) (Entries.get? entries name)
      (Entries.get? others name) := by
  obtain ⟨honce, middle, hperm, hkept⟩ := h
  rw [Entries.get?, lookup_eq_of_perm hperm (honce name)]
  exact Named.rel_lookup (.text name) (hkept.imp fun _ _ hentry => ⟨hentry.1, hentry.2.mono hwhole himp⟩)

/-! ### Reordered schemas -/

theorem Shuffled.nil_iff (h : Shuffled related entries others) : entries = [] ↔ others = [] := by
  obtain ⟨-, middle, hperm, hkept⟩ := h
  rw [← length_eq_zero_iff, ← length_eq_zero_iff, hperm.length_eq, hkept.length_eq]

variable {depth : Nat}

/-- Values that are reordered and not told apart by a reader are read alike. -/
theorem Reordered.readAlike {read : Reader} (h : Reordered depth value given)
    (hread : ∀ location, read value location = read given location) :
    ReadAlike read read value given := by
  unfold Reordered at h
  split at h
  · rename_i entries others
    by_cases hnil : entries = []
    · rw [hnil, h.nil_iff.mp hnil]
      exact .same fun _ => rfl
    · exact .maps hnil (mt h.nil_iff.mpr hnil) hread
  · rw [h]
    exact .same fun _ => rfl

/-- At every depth of the reading, schemas with their keywords in another order are read alike. -/
theorem readAt_eq_of_reordered (h : Reordered depth value given) (fuel : Nat) (location : String) :
    readAt fuel value location = readAt fuel given location := by
  induction depth generalizing value given fuel location with
  | zero =>
    rw [Reordered] at h
    · rw [h]
    · nofun
  | succ depth ih =>
    unfold Reordered at h
    split at h
    · rename_i hdepth
      cases hdepth
      cases fuel with
      | zero => rfl
      | succ fuel =>
        exact ofEntries_congr (h.rel (fun _ _ _ _ => rfl) fun _ _ hpart =>
          hpart.readAlike (ih hpart fuel))
    · rw [h]

theorem listDepth_congr {items others : List Value}
    (h : List.Forall₂ (fun item other => item.depth = other.depth) items others) :
    Value.listDepth items = Value.listDepth others := by
  induction h with
  | nil => rfl
  | cons hfirst _ ih => rw [Value.listDepth, Value.listDepth, hfirst, ih]

theorem entriesDepth_congr
    (h : List.Forall₂ (fun entry other => entry.2.depth = other.2.depth) entries others) :
    Value.entriesDepth entries = Value.entriesDepth others := by
  induction h with
  | nil => rfl
  | cons hfirst _ ih => rw [Value.entriesDepth, Value.entriesDepth, hfirst, ih]

theorem entriesDepth_perm {middle : Entries} (h : entries.Perm middle) :
    Value.entriesDepth entries = Value.entriesDepth middle := by
  induction h with
  | nil => rfl
  | cons _ _ ih => rw [Value.entriesDepth, Value.entriesDepth, ih]
  | swap => simp only [Value.entriesDepth, Nat.max_left_comm]
  | trans _ _ ihfirst ihsecond => rw [ihfirst, ihsecond]

theorem Kept.depth_eq
    (h : Kept (fun _ => True) (fun value given => value.depth = given.depth) key value given) :
    value.depth = given.depth := by
  cases h with
  | same => rfl
  | schema _ hdepth => exact hdepth
  | members _ hitems => rw [Value.depth, Value.depth, listDepth_congr hitems]
  | table _ hentries =>
    rw [Value.depth, Value.depth, entriesDepth_congr (hentries.imp fun _ _ hentry => hentry.2)]

/-- A reordered schema is nested as deeply. -/
theorem Reordered.depth_eq (h : Reordered depth value given) : value.depth = given.depth := by
  induction depth generalizing value given with
  | zero =>
    rw [Reordered] at h
    · rw [h]
    · nofun
  | succ depth ih =>
    unfold Reordered at h
    split at h
    · rename_i hdepth
      cases hdepth
      obtain ⟨-, middle, hperm, hkept⟩ := h
      rw [Value.depth, Value.depth, entriesDepth_perm hperm, entriesDepth_congr
        (hkept.imp fun _ _ hentry => (hentry.2.mono (fun _ => trivial) fun _ _ => ih).depth_eq)]
    · rw [h]

/-- The order of the keywords of a schema, and of the schemas in it, changes neither what it is read
as nor the warnings, and so not what it is converted to. -/
theorem keyword_order_irrelevant {depth : Nat} {raw other : Value} (h : Reordered depth raw other)
    (location : String) :
    ofValue raw location = ofValue other location ∧
      ∀ (settings : Conversion.Settings) (context : Conversion.Context),
        Conversion.convert settings (ofValue raw location).value context =
          Conversion.convert settings (ofValue other location).value context := by
  have hread : ofValue raw location = ofValue other location := by
    rw [ofValue, ofValue, h.depth_eq, readAt_eq_of_reordered h]
  exact ⟨hread, fun settings context => by rw [hread]⟩

/-- An object with a malformed bound and a property, and the same in another order. -/
theorem keyword_order_irrelevant_inner :
    let name (first second : Scalar × Value) : Value := .map [(.text "name", .map [first, second])]
    let plain := name (.text "type", .text "string") (.text "minLength", .text "few")
    let swapped := name (.text "minLength", .text "few") (.text "type", .text "string")
    let raw := .map [(.text "required", .list []), (.text "properties", plain)]
    let other := .map [(.text "properties", swapped), (.text "required", .list [])]
    Reordered 2 raw other ∧ ofValue raw "#" = ofValue other "#" := by
  intro name plain swapped raw other
  have hinner : Reordered 1 (.map [(.text "type", .text "string"), (.text "minLength", .text "few")])
      (.map [(.text "minLength", .text "few"), (.text "type", .text "string")]) :=
    ⟨fun _ => nodup_iff_count_le_one.mp (by decide) _, _, .swap _ _ _,
      .cons ⟨rfl, .same fun _ => trivial⟩ (.cons ⟨rfl, .same fun _ => trivial⟩ .nil)⟩
  have h : Reordered 2 raw other :=
    ⟨fun _ => nodup_iff_count_le_one.mp (by decide) _, _, .swap _ _ _,
      .cons ⟨rfl, .table (by decide) (.cons ⟨rfl, hinner⟩ .nil)⟩
        (.cons ⟨rfl, .same fun _ => trivial⟩ .nil)⟩
  exact ⟨h, (keyword_order_irrelevant h "#").1⟩

end Schema

end OpenApiClient
