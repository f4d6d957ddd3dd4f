import OpenApiClient.Proofs.Named
import OpenApiClient.Proofs.Outcome
import OpenApiClient.Registry.Memo

/-!
# Facts about registries

A reference stands for a registered name or for none, and a registry that was filled holds the given
schemas in their order, no two of them under one name. A registry in use has tables besides, which
every call keeps consistent, whether it succeeds or not (`Memo.Consistent.call`); so it answers as
if it had the schemas only (`Memo.tables_after_calls`).
-/

namespace OpenApiClient.Registry

open List Source

variable {registry : Registry} {ref name : String}

/-! ### Looking up -/

theorem mem_names_of_resolve (h : registry.resolve ref = .ok name) : name ∈ registry.names := by
  unfold resolve at h
  dsimp only at h
  split at h
  · split at h
    · cases h
    · split at h
      · rename_i hcontains
        cases h
        simpa [contains] using hcontains
      · cases h
  · split at h <;> cases h

/-- What a reference stands for it still stands for when names have been added. -/
theorem resolve_of_subset {grown : Registry}
    (hsubset : ∀ other ∈ registry.names, other ∈ grown.names)
    (h : registry.resolve ref = .ok name) : grown.resolve ref = .ok name := by
  have hname : name ∈ grown.names := hsubset name (mem_names_of_resolve h)
  unfold resolve at h ⊢
  dsimp only at h ⊢
  split at h
  · split at h
    · cases h
    · rename_i hslash
      split at h
      · cases h
        rw [if_neg hslash, if_pos (by simpa [contains] using hname)]
      · cases h
  · split at h <;> cases h

variable {error : CompileError}

theorem resolve_error (h : registry.resolve ref = .error error) :
    ∃ fault, error = .unresolvedReference ref fault := by
  unfold resolve at h
  dsimp only at h
  split at h
  · split at h
    · cases h
      exact ⟨_, rfl⟩
    · split at h
      · cases h
      · cases h
        exact ⟨_, rfl⟩
  · split at h <;> cases h <;> exact ⟨_, rfl⟩

variable {schema : Schema}

theorem mem_schemas_of_get? (h : registry.get? name = some schema) :
    (name, schema) ∈ registry.schemas :=
  Named.mem_of_lookup h

theorem mem_names_of_get? (h : registry.get? name = some schema) : name ∈ registry.names :=
  mem_map.mpr ⟨_, mem_schemas_of_get? h, rfl⟩

theorem exists_get?_of_mem_names (h : name ∈ registry.names) :
    ∃ schema, registry.get? name = some schema := by
  obtain ⟨⟨_, schema⟩, hentry, rfl⟩ := mem_map.mp h
  rw [← Option.isSome_iff_exists, get?, lookup_isSome_iff]
  exact ⟨_, hentry, by simp⟩

/-- A name whose schema is nothing but a reference. -/
def IsBare (registry : Registry) (name : String) : Prop :=
  ∃ schema, registry.get? name = some schema ∧ schema.ref.isSome = true

theorem isBare_iff (h : registry.get? name = some schema) :
    registry.IsBare name ↔ schema.ref.isSome = true := by
  simp [IsBare, h]

/-! ### Filling a registry -/

variable {filled : Registry}

theorem register_ok (h : registry.register name schema = .ok filled) :
    name ∉ registry.names ∧ filled.schemas = registry.schemas ++ [(name, schema)] := by
  unfold register at h
  split at h
  · cases h
  · rename_i hnew
    split at h
    · cases h
    · cases h
      exact ⟨by simpa [contains] using hnew, rfl⟩

theorem foldlM_register_ok :
    ∀ (schemas : List (String × Schema)) (registry : Registry), registry.names.Nodup →
      schemas.foldlM (fun registry (name, schema) => registry.register name schema) registry =
        .ok filled →
      filled.names.Nodup ∧ filled.schemas = registry.schemas ++ schemas := by
  intro schemas
  induction schemas with
  | nil =>
    intro registry hnodup h
    cases h
    exact ⟨hnodup, by simp⟩
  | cons entry rest ih =>
    intro registry hnodup h
    obtain ⟨name, schema⟩ := entry
    rw [foldlM_cons] at h
    cases hentry : registry.register name schema with
    | error error =>
      simp only [hentry] at h
      cases h
    | ok next =>
      simp only [hentry] at h
      obtain ⟨hnew, hschemas⟩ := register_ok hentry
      have hnext : next.names.Nodup := by
        rw [names, hschemas, map_append]
        exact hnodup.append (nodup_singleton _) (by simpa [names] using hnew)
      obtain ⟨hfilled, hall⟩ := ih next hnext h
      exact ⟨hfilled, by simp [hall, hschemas]⟩

variable {schemas : List (String × Schema)}

/-- A registry that could be filled holds what it was filled with, each name once. -/
theorem ofSchemas_ok (h : ofSchemas schemas = .ok registry) :
    registry.schemas = schemas ∧ registry.names.Nodup := by
  obtain ⟨hnodup, hschemas⟩ := foldlM_register_ok schemas {} nodup_nil h
  exact ⟨by simpa using hschemas, hnodup⟩

/-- A schema can be registered if its identifier is free, and so is its name then. -/
theorem register_eq_ok_iff :
    registry.register name schema = .ok filled ↔
      identifier name ∉ registry.names.map identifier ∧
        filled = { schemas := registry.schemas ++ [(name, schema)] } := by
  have howner : registry.owner? (identifier name) = none ↔
      identifier name ∉ registry.names.map identifier := by
    simp [owner?]
  unfold register
  split
  · rename_i hcontains
    have hname : name ∈ registry.names := by simpa [contains] using hcontains
    simp [mem_map_of_mem hname]
  · cases hfound : registry.owner? (identifier name) with
    | some other =>
      have htaken := mt howner.mpr (by simp [hfound])
      exact ⟨nofun, fun h => absurd h.1 htaken⟩
    | none => simp only [howner.mp hfound, not_false_eq_true, true_and, Except.ok.injEq, eq_comm]

theorem exists_foldlM_register_iff {schemas : List (String × Schema)} :
    ∀ {registry : Registry}, (registry.names.map identifier).Nodup →
      ((∃ filled, schemas.foldlM (fun registry (name, schema) => registry.register name schema)
          registry = .ok filled) ↔
        (registry.names.map identifier ++
          schemas.map fun entry => identifier entry.1).Nodup) := by
  induction schemas with
  | nil => intro registry hnodup; simpa [pure, Except.pure] using hnodup
  | cons entry rest ih =>
    intro registry hnodup
    obtain ⟨name, schema⟩ := entry
    -- the registry that the first entry leads to if its identifier is free
    let next : Registry := { schemas := registry.schemas ++ [(name, schema)] }
    have hidentifiers : next.names.map identifier =
        registry.names.map identifier ++ [identifier name] := by
      simp [next, names]
    have hnext : identifier name ∉ registry.names.map identifier →
        (next.names.map identifier).Nodup := by
      intro hfree
      rw [hidentifiers]
      exact hnodup.append (nodup_singleton _) (by simpa using hfree)
    rw [map_cons, append_cons, ← hidentifiers, foldlM_cons]
    constructor
    · rintro ⟨filled, h⟩
      obtain ⟨found, hfound, h⟩ := bind_eq_ok.mp h
      obtain ⟨hfree, rfl⟩ := register_eq_ok_iff.mp hfound
      exact (ih (hnext hfree)).mp ⟨filled, h⟩
    · intro h
      have hfree : identifier name ∉ registry.names.map identifier := by
        have hboth := h.of_append_left
        rw [hidentifiers] at hboth
        exact fun hmem => (nodup_append.mp hboth).2.2 _ hmem _ (mem_singleton_self _) rfl
      obtain ⟨filled, hfilled⟩ := (ih (hnext hfree)).mpr h
      exact ⟨filled, bind_eq_ok.mpr ⟨next, register_eq_ok_iff.mpr ⟨hfree, rfl⟩, hfilled⟩⟩

/-- A registry can be filled exactly if no two identifiers are the same. -/
theorem exists_ofSchemas_iff :
    (∃ registry, ofSchemas schemas = .ok registry) ↔
      (schemas.map fun entry => identifier entry.1).Nodup := by
  simpa [ofSchemas, names] using @exists_foldlM_register_iff schemas {} nodup_nil

theorem register_error (h : registry.register name schema = .error error) :
    ∃ existing, error = .duplicateDeclaration name existing := by
  unfold register at h
  split at h
  · cases h
    exact ⟨none, rfl⟩
  · split at h
    · rename_i other _
      cases h
      exact ⟨some other, rfl⟩
    · cases h

/-- A registry cannot be filled only if a name or an identifier is taken. -/
theorem ofSchemas_error (h : ofSchemas schemas = .error error) :
    ∃ name existing, error = .duplicateDeclaration name existing := by
  unfold ofSchemas at h
  generalize ({} : Registry) = registry at h
  induction schemas generalizing registry with
  | nil => cases h
  | cons entry rest ih =>
    obtain ⟨name, schema⟩ := entry
    rw [foldlM_cons] at h
    rcases bind_eq_error.mp h with h | ⟨next, -, h⟩
    · exact ⟨name, register_error h⟩
    · exact ih next h

end OpenApiClient.Registry

namespace OpenApiClient.Registry.Memo

/-! ### A registry in use stays consistent -/

open List

variable {memo : Memo} {name ref : String} {schema : Schema}

/-- The tables of a registry go together: every name has its own identifier, every identifier the
name it was made of, and what is remembered of a reference is what it stands for. -/
structure Consistent (memo : Memo) : Prop where
  identifiers : memo.identifiers = memo.registry.identifiers
  owners : memo.owners = memo.registry.names.map fun name => (Source.identifier name, name)
  distinct : (memo.registry.names.map Source.identifier).Nodup
  resolved : ∀ entry ∈ memo.resolved, memo.registry.resolve entry.1 = .ok entry.2

namespace Consistent

theorem identifier?_eq (h : Consistent memo) (name : String) :
    memo.identifier? name =
      if name ∈ memo.registry.names then some (Source.identifier name) else none := by
  rw [identifier?, h.identifiers, Registry.identifiers, Named.lookup_map]
  cases hfound : memo.registry.names.find? (· = name) with
  | some other =>
    have hother : other = name := by simpa using find?_some hfound
    have hname : name ∈ memo.registry.names := hother ▸ mem_of_find?_eq_some hfound
    rw [if_pos hname, hother]
    rfl
  | none =>
    have hname : name ∉ memo.registry.names := fun hname => by
      simpa using find?_eq_none.mp hfound name hname
    rw [if_neg hname]
    rfl

theorem owner?_eq (h : Consistent memo) (identifier : String) :
    memo.owner? identifier = memo.registry.owner? identifier := by
  rw [owner?, h.owners, Named.lookup_map Source.identifier fun name => name, Registry.owner?]
  exact Option.map_id'

/-- An identifier is owned by the name it was made of and by no other. -/
theorem owner?_eq_some_iff (h : Consistent memo) {identifier : String} :
    memo.owner? identifier = some name ↔
      name ∈ memo.registry.names ∧ Source.identifier name = identifier := by
  rw [h.owner?_eq, Registry.owner?]
  constructor
  · intro hfound
    exact ⟨mem_of_find?_eq_some hfound, by simpa using find?_some hfound⟩
  · rintro ⟨hname, rfl⟩
    obtain ⟨other, hother⟩ : ∃ other,
        memo.registry.names.find? (Source.identifier · = Source.identifier name) = some other :=
      Option.isSome_iff_exists.mp (find?_isSome.mpr ⟨name, hname, by simp⟩)
    have hsame : Source.identifier other = Source.identifier name := by
      simpa using find?_some hother
    rw [hother, inj_on_of_nodup_map h.distinct (mem_of_find?_eq_some hother) hname hsame]

theorem owner?_eq_none_iff (h : Consistent memo) {identifier : String} :
    memo.owner? identifier = none ↔ identifier ∉ memo.registry.names.map Source.identifier := by
  simp [h.owner?_eq, Registry.owner?]

end Consistent

/-! ### Registering -/

/-- The registry with one more row in every table that has a row for each name. -/
def add (memo : Memo) (name : String) (schema : Schema) : Memo :=
  { memo with
    registry := { schemas := memo.registry.schemas ++ [(name, schema)] }
    identifiers := memo.identifiers ++ [(name, Source.identifier name)]
    owners := memo.owners ++ [(Source.identifier name, name)] }

@[simp] theorem names_add (memo : Memo) (name : String) (schema : Schema) :
    (memo.add name schema).registry.names = memo.registry.names ++ [name] := by
  simp [add, names]

namespace Consistent

theorem register_of_mem (hname : name ∈ memo.registry.names) :
    memo.register name schema = (.error (.duplicateDeclaration name none), memo) := by
  rw [register, if_pos (by simpa [contains] using hname)]

theorem register_of_owned {other : String} (hname : name ∉ memo.registry.names)
    (howner : memo.owner? (Source.identifier name) = some other) :
    memo.register name schema = (.error (.duplicateDeclaration name (some other)), memo) := by
  rw [register, if_neg (by simpa [contains] using hname)]
  simp only [howner]

/-- A name that is free gets a new row everywhere, because no table has one for it. -/
theorem register_of_free (h : Consistent memo)
    (hfree : Source.identifier name ∉ memo.registry.names.map Source.identifier) :
    memo.register name schema = (.ok (), memo.add name schema) := by
  have hname : name ∉ memo.registry.names := fun hname => hfree (mem_map_of_mem hname)
  have hschemas : name ∉ memo.registry.schemas.map (·.1) := hname
  have hidentifiers : name ∉ memo.identifiers.map (·.1) := by
    simpa [h.identifiers, Registry.identifiers] using hname
  have howners : Source.identifier name ∉ memo.owners.map (·.1) := by
    simpa [h.owners] using hfree
  rw [register, if_neg (by simpa [contains] using hname)]
  simp only [h.owner?_eq_none_iff.mpr hfree, Named.insert_of_notMem hschemas,
    Named.insert_of_notMem hidentifiers, Named.insert_of_notMem howners, add]

/-- What registering comes to: a name that is taken and one whose identifier is taken are refused
for different reasons, and any other is added. -/
theorem register_cases (h : Consistent memo) (name : String) (schema : Schema) :
    (name ∈ memo.registry.names ∧
      memo.register name schema = (.error (.duplicateDeclaration name none), memo)) ∨
    (∃ other ∈ memo.registry.names, name ∉ memo.registry.names ∧
      Source.identifier other = Source.identifier name ∧
      memo.register name schema = (.error (.duplicateDeclaration name (some other)), memo)) ∨
    (Source.identifier name ∉ memo.registry.names.map Source.identifier ∧
      memo.register name schema = (.ok (), memo.add name schema)) := by
  by_cases hname : name ∈ memo.registry.names
  · exact .inl ⟨hname, register_of_mem hname⟩
  · cases howner : memo.owner? (Source.identifier name) with
    | some other =>
      obtain ⟨hother, hsame⟩ := h.owner?_eq_some_iff.mp howner
      exact .inr (.inl ⟨other, hother, hname, hsame, register_of_owned hname howner⟩)
    | none =>
      have hfree := h.owner?_eq_none_iff.mp howner
      exact .inr (.inr ⟨hfree, h.register_of_free hfree⟩)

theorem add (h : Consistent memo)
    (hfree : Source.identifier name ∉ memo.registry.names.map Source.identifier) :
    Consistent (memo.add name schema) where
  identifiers := by
    rw [Registry.identifiers, names_add, map_append, ← Registry.identifiers, ← h.identifiers]
    rfl
  owners := by
    rw [names_add, map_append, ← h.owners]
    rfl
  distinct := by
    rw [names_add, map_append]
    exact h.distinct.append (nodup_singleton _) (by simpa using hfree)
  resolved := fun entry hentry =>
    resolve_of_subset (fun other hother => by simp [hother]) (h.resolved entry hentry)

theorem register (h : Consistent memo) (name : String) (schema : Schema) :
    Consistent (memo.register name schema).2 := by
  rcases h.register_cases name schema with ⟨-, hregister⟩ | ⟨_, -, -, -, hregister⟩ |
    ⟨hfree, hregister⟩
  · rwa [hregister]
  · rwa [hregister]
  · rw [hregister]
    exact h.add hfree

end Consistent

/-! ### Resolving -/

namespace Consistent

/-- Memory makes no difference: a reference that stands for a name is remembered, again if it was
before, and nothing is remembered of any other. -/
theorem resolve_eq (h : Consistent memo) (ref : String) :
    memo.resolve ref = memo.lookUp ref := by
  rw [resolve]
  cases hfound : memo.resolved.lookup ref with
  | none => rfl
  | some name =>
    have hname : memo.registry.resolve ref = .ok name := h.resolved _ (Named.mem_of_lookup hfound)
    simp only [lookUp, hname, Named.insert_of_lookup hfound]

theorem resolve (h : Consistent memo) (ref : String) : Consistent (memo.resolve ref).2 := by
  rw [h.resolve_eq, lookUp]
  cases hname : memo.registry.resolve ref with
  | error error => exact h
  | ok name =>
    refine ⟨h.identifiers, h.owners, h.distinct, fun entry hentry => ?_⟩
    rcases Named.mem_insert hentry with rfl | hentry
    · exact hname
    · exact h.resolved entry hentry

/-- A reference that stands for nothing is not remembered. -/
theorem lookup_eq_none (h : Consistent memo) {error : CompileError}
    (herror : memo.registry.resolve ref = .error error) : memo.resolved.lookup ref = none := by
  cases hfound : memo.resolved.lookup ref with
  | none => rfl
  | some name =>
    have hname := h.resolved _ (Named.mem_of_lookup hfound)
    rw [herror] at hname
    cases hname

end Consistent

/-! ### Sequences of calls -/

/-- A call that can change the tables. -/
inductive Call where
  | register (name : String) (schema : Schema)
  | resolve (ref : String)

/-- The registry that a call leaves. -/
def call (memo : Memo) : Call → Memo
  | .register name schema => (memo.register name schema).2
  | .resolve ref => (memo.resolve ref).2

/-- The registry that calls leave when the first finds it new. -/
def after (calls : List Call) : Memo := calls.foldl call {}

theorem Consistent.call (h : Consistent memo) : ∀ action, Consistent (memo.call action)
  | .register name schema => h.register name schema
  | .resolve ref => h.resolve ref

theorem Consistent.calls : ∀ (calls : List Call) {memo : Memo}, Consistent memo →
    Consistent (calls.foldl Memo.call memo) := by
  intro calls
  induction calls with
  | nil => exact fun h => h
  | cons action rest ih => exact fun h => ih (h.call action)

theorem after_consistent (calls : List Call) : Consistent (after calls) :=
  Consistent.calls calls ⟨rfl, rfl, nodup_nil, nofun⟩

/-- After any calls the identifiers and their owners are those of the registered names and no two
names share an identifier. A name is refused exactly if it or its identifier is taken, and the
registry is left as it was then. A reference gets the answer of a look-up among the names that are
registered now; one that stands for nothing is never remembered. -/
theorem tables_after_calls (calls : List Call) :
    let memo := after calls
    (∀ name, memo.identifier? name =
      if name ∈ memo.registry.names then some (Source.identifier name) else none) ∧
    (∀ identifier name, memo.owner? identifier = some name ↔
      name ∈ memo.registry.names ∧ Source.identifier name = identifier) ∧
    (memo.registry.names.map Source.identifier).Nodup ∧
    (∀ name schema,
      (name ∈ memo.registry.names ∧
        memo.register name schema = (.error (.duplicateDeclaration name none), memo)) ∨
      (∃ other ∈ memo.registry.names, name ∉ memo.registry.names ∧
        Source.identifier other = Source.identifier name ∧
        memo.register name schema = (.error (.duplicateDeclaration name (some other)), memo)) ∨
      (Source.identifier name ∉ memo.registry.names.map Source.identifier ∧
        memo.register name schema = (.ok (), memo.add name schema))) ∧
    (∀ ref, (memo.resolve ref).1 = memo.registry.resolve ref ∧
      match memo.registry.resolve ref with
      | .ok name =>
        (memo.resolve ref).2 = { memo with resolved := Named.insert memo.resolved ref name }
      | .error _ => (memo.resolve ref).2 = memo ∧ memo.resolved.lookup ref = none) := by
  intro memo
  have h : Consistent memo := after_consistent calls
  refine ⟨h.identifier?_eq, fun _ _ => h.owner?_eq_some_iff, h.distinct, h.register_cases,
    fun ref => ?_⟩
  rw [h.resolve_eq, lookUp]
  cases hresolve : memo.registry.resolve ref with
  | ok name => exact ⟨rfl, rfl⟩
  | error error => exact ⟨rfl, rfl, h.lookup_eq_none hresolve⟩

end OpenApiClient.Registry.Memo
