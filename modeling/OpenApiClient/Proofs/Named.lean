import Mathlib.Data.List.Forall2
import Mathlib.Data.List.Induction
import Mathlib.Data.List.Nodup
import Mathlib.Data.Option.Defs
import OpenApiClient.Named

/-!
# Tables keep their names apart

What is entered into a table is found there besides what was there before, and a table in which no
name stands twice stays one. In such a table the entry of a name is the only one.
-/

namespace OpenApiClient.Named

open List

variable {α : Type} {table : List (String × α)} {name : String} {value : α}

theorem mem_insert {entry : String × α} (h : entry ∈ insert table name value) :
    entry = (name, value) ∨ entry ∈ table := by
  induction table with
  | nil => exact .inl (mem_singleton.mp h)
  | cons first rest ih =>
    unfold insert at h
    split at h
    · exact (mem_cons.mp h).imp_right (mem_cons_of_mem _)
    · rcases mem_cons.mp h with rfl | h
      · exact .inr mem_cons_self
      · exact (ih h).imp_right (mem_cons_of_mem _)

/-- A name that is present keeps its place, a new one comes last. -/
theorem map_fst_insert :
    (insert table name value).map (·.1) =
      if name ∈ table.map (·.1) then table.map (·.1) else table.map (·.1) ++ [name] := by
  induction table with
  | nil => simp [insert]
  | cons first rest ih =>
    unfold insert
    by_cases hfirst : first.1 = name
    · simp [hfirst]
    · rw [if_neg hfirst, map_cons, ih, map_cons]
      by_cases hrest : name ∈ rest.map (·.1)
      · simp [hrest]
      · simp [hrest, Ne.symm hfirst]

/-- A new name comes last. -/
theorem insert_of_notMem (h : name ∉ table.map (·.1)) :
    insert table name value = table ++ [(name, value)] := by
  induction table with
  | nil => rfl
  | cons first rest ih =>
    rw [map_cons, mem_cons, not_or] at h
    unfold insert
    rw [if_neg (Ne.symm h.1), ih h.2, cons_append]

theorem nodup_insert (h : (table.map (·.1)).Nodup) :
    ((insert table name value).map (·.1)).Nodup := by
  rw [map_fst_insert]
  split
  · exact h
  · rename_i hnew
    exact h.append (nodup_singleton name) (by simpa using hnew)

theorem mem_foldl_insert {entry : String × α} :
    ∀ {pairs table : List (String × α)},
      entry ∈ pairs.foldl (fun table pair => insert table pair.1 pair.2) table →
        entry ∈ pairs ∨ entry ∈ table := by
  intro pairs
  induction pairs with
  | nil => intro table h; exact .inr h
  | cons pair rest ih =>
    intro table h
    rcases ih h with h | h
    · exact .inl (mem_cons_of_mem _ h)
    · rcases mem_insert h with rfl | h
      · exact .inl mem_cons_self
      · exact .inr h

theorem nodup_foldl_insert :
    ∀ {pairs table : List (String × α)}, (table.map (·.1)).Nodup →
      ((pairs.foldl (fun table pair => insert table pair.1 pair.2) table).map (·.1)).Nodup := by
  intro pairs
  induction pairs with
  | nil => intro table h; exact h
  | cons pair rest ih => intro table h; exact ih (nodup_insert h)

theorem foldl_insert_of_nodup :
    ∀ {pairs table : List (String × α)}, ((table ++ pairs).map (·.1)).Nodup →
      pairs.foldl (fun table pair => insert table pair.1 pair.2) table = table ++ pairs := by
  intro pairs
  induction pairs with
  | nil => intro table _; simp
  | cons pair rest ih =>
    intro table h
    have hnew : pair.1 ∉ table.map (·.1) := by
      rw [map_append, map_cons] at h
      exact fun hmem => (nodup_append.mp h).2.2 _ hmem _ mem_cons_self rfl
    rw [foldl_cons, insert_of_notMem hnew, ih (by simpa using h), append_assoc]
    rfl

/-- Pairs with different names are a table as they are. -/
theorem ofPairs_of_nodup {pairs : List (String × α)} (h : (pairs.map (·.1)).Nodup) :
    ofPairs pairs = pairs := foldl_insert_of_nodup h

/-! ### Looking up -/

section Lookup

variable {κ : Type} [BEq κ] [LawfulBEq κ] {table : List (κ × α)} {key : κ}

theorem mem_of_lookup (h : table.lookup key = some value) : (key, value) ∈ table := by
  obtain ⟨before, after, rfl, -⟩ := lookup_eq_some_iff.mp h
  simp

/-- In a table in which no key stands twice, every entry is found. -/
theorem lookup_iff_mem (h : (table.map (·.1)).Nodup) :
    table.lookup key = some value ↔ (key, value) ∈ table := by
  refine ⟨mem_of_lookup, fun hmem => ?_⟩
  obtain ⟨before, after, rfl⟩ := append_of_mem hmem
  refine lookup_eq_some_iff.mpr ⟨before, after, rfl, fun entry hentry => ?_⟩
  rw [map_append, map_cons, nodup_append] at h
  have hne := h.2.2 entry.1 (mem_map_of_mem hentry) key mem_cons_self
  simpa using Ne.symm hne

variable [DecidableEq κ]

theorem lookup_cons_ite (entry : κ × α) (rest : List (κ × α)) (key : κ) :
    (entry :: rest).lookup key = if key = entry.1 then some entry.2 else rest.lookup key := by
  obtain ⟨other, value⟩ := entry
  rw [lookup_cons]
  split <;> simp_all

/-- Entries that are left out by their keys leave the others where they are. -/
theorem lookup_filter (keep : κ → Bool) (table : List (κ × α)) (key : κ) :
    (table.filter fun entry => keep entry.1).lookup key =
      if keep key then table.lookup key else none := by
  induction table with
  | nil => simp
  | cons entry rest ih =>
    rw [filter_cons, lookup_cons_ite]
    by_cases hkey : key = entry.1
    · subst hkey
      split
      · rw [lookup_cons_ite, if_pos rfl, if_pos rfl]
      · simp [*]
    · rw [if_neg hkey, ← ih]
      split
      · rw [lookup_cons_ite, if_neg hkey]
      · rfl

/-- A table with a row for each item is searched for the first item with the right key. -/
theorem lookup_map {β : Type} (name : β → κ) (value : β → α) (items : List β) (key : κ) :
    (items.map fun item => (name item, value item)).lookup key =
      (items.find? (name · = key)).map value := by
  induction items with
  | nil => rfl
  | cons item rest ih =>
    rw [map_cons, lookup_cons_ite, find?_cons, ih]
    by_cases hkey : name item = key
    · simp [hkey]
    · simp [hkey, Ne.symm hkey]

/-- Tables that are related row by row have related values under a key. -/
theorem rel_lookup {related : κ → α → α → Prop} {others : List (κ × α)} (key : κ)
    (h : List.Forall₂ (fun entry other => entry.1 = other.1 ∧ related entry.1 entry.2 other.2)
      table others) : Option.Rel (related key) (table.lookup key) (others.lookup key) := by
  induction h with
  | nil => exact .none
  | cons hfirst _ ih =>
    rw [lookup_cons_ite, lookup_cons_ite, ← hfirst.1]
    split
    · rename_i hkey
      rw [hkey]
      exact .some hfirst.2
    · exact ih

end Lookup

theorem exists_lookup_of_mem (h : name ∈ table.map (·.1)) :
    ∃ value, table.lookup name = some value := by
  obtain ⟨entry, hentry, rfl⟩ := mem_map.mp h
  exact Option.isSome_iff_exists.mp (lookup_isSome_iff.mpr ⟨entry, hentry, by simp⟩)

/-- Entering what is there already changes nothing. -/
theorem insert_of_lookup (h : table.lookup name = some value) :
    insert table name value = table := by
  induction table with
  | nil => cases h
  | cons first rest ih =>
    rw [lookup_cons_ite] at h
    unfold insert
    split at h
    · rename_i hname
      cases h
      rw [if_pos hname.symm, hname]
    · rename_i hname
      rw [if_neg (Ne.symm hname), ih h]

/-- What was entered last is found under its name, and all else as before. -/
theorem lookup_insert {other : String} :
    (insert table name value).lookup other =
      if other = name then some value else table.lookup other := by
  induction table with
  | nil => rw [insert, lookup_cons_ite]
  | cons first rest ih =>
    unfold insert
    by_cases hfirst : first.1 = name
    · rw [if_pos hfirst, lookup_cons_ite, lookup_cons_ite, hfirst]
      split <;> rfl
    · rw [if_neg hfirst, lookup_cons_ite, lookup_cons_ite, ih]
      grind

theorem ofPairs_append (pairs : List (String × α)) :
    ofPairs (pairs ++ [(name, value)]) = insert (ofPairs pairs) name value := by
  rw [ofPairs, foldl_append]
  rfl

/-- The names of a table stand in the order in which they first came up. -/
theorem map_fst_ofPairs (pairs : List (String × α)) :
    (ofPairs pairs).map (·.1) = (pairs.map (·.1)).eraseDups := by
  induction pairs using reverseRecOn with
  | nil => rfl
  | append_singleton pairs pair ih =>
    rw [ofPairs_append, map_fst_insert, ih, map_append, eraseDups_append]
    by_cases hmem : pair.1 ∈ pairs.map (·.1)
    · simp [hmem, removeAll]
    · simp [hmem, removeAll, eraseDups_cons]

/-- Under each name there is what was entered last. -/
theorem lookup_ofPairs (pairs : List (String × α)) :
    (ofPairs pairs).lookup name = pairs.reverse.lookup name := by
  induction pairs using reverseRecOn with
  | nil => rfl
  | append_singleton pairs pair ih =>
    rw [ofPairs_append, lookup_insert, ih, reverse_append, reverse_singleton,
      singleton_append, lookup_cons_ite]

end OpenApiClient.Named
