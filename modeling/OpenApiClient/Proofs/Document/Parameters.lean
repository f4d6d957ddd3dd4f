import OpenApiClient.Proofs.Document.Reader

/-!
# Parameters of an operation and of its path

An operation has the parameters of its path besides its own, and one of its own takes the place of
one of the path that has the same name and place. Which ones are the same is decided before
parameters are read, by comparing what is written: a place that is missing counts as an empty text
there, and as `query` when the parameter is read; a name that is no text is compared as the value it
is, and read as its text.

So the parameters of an operation are the ones that they should be exactly if the two comparisons
agree on all parameters of the path (`parameters_overridden_iff`). They do if names and places are
written as texts (`comparedAlike_of_spelled`).
-/

namespace OpenApiClient

open List Parameter Reading

namespace Reading

variable {α β : Type}

/-- What is read for a list is what is read for its items. -/
theorem forall₂_of_mapM {act : α → Reading β} : ∀ {items : List α} {values : List β},
    (items.mapM act).run.value = .ok values →
      List.Forall₂ (fun item value => (act item).run.value = .ok value) items values := by
  intro items
  induction items with
  | nil =>
    intro values h
    cases h
    exact .nil
  | cons item rest ih =>
    intro values h
    rw [mapM_cons] at h
    obtain ⟨value, hvalue, h, -⟩ := run_bind_eq_ok h
    obtain ⟨others, hothers, h, -⟩ := run_bind_eq_ok h
    cases h
    exact .cons hvalue (ih hothers)

end Reading

variable {raw : Entries}

namespace Parameter

/-! ### What is compared and what is read -/

/-- What tells parameters apart when they have been read. -/
def key (parameter : Parameter) : String × Place := (parameter.name, parameter.place)

/-- The place of a parameter, if it is one that parameters are read in. -/
def place? (raw : Entries) : Option Place :=
  (((Entries.get? raw "in").getD (.text "query")).text?.bind Place.ofWord?).filter (· ≠ .body)

/-- The name and the place that a parameter is read with, unless it is left out. -/
def target? (raw : Entries) : Option (String × Place) :=
  (place? raw).map (((Entries.get? raw "name").getD (.text "")).plain, ·)

/-- Whether a parameter of an operation takes the place of another one as they are written. -/
def replacedBy (raw other : Entries) : Bool :=
  (identity? raw).any fun first => (identity? other).any fun second => sameIdentity first second

/-- A parameter is read out of what is written. -/
def Extracts (raw : Entries) (parameter : Parameter) : Prop :=
  ∃ location, (read raw location).run.value = .ok (some parameter)

/-- What is read has the name and the place that are written. -/
theorem read_key (raw : Entries) (location : String) :
    Reading.Ensures (read raw location) fun found => found.map key = target? raw := by
  unfold read target? place?
  dsimp only
  split
  · rename_i hplace
    refine ensures_then fun _ => ensures_pure ?_
    simp [hplace]
  · rename_i hplace
    refine ensures_then fun _ => ensures_pure ?_
    simp [hplace]
  · rename_i place hbody hplace
    have hne : place ≠ .body := hbody
    split
    all_goals
      refine ensures_then fun schema => ?_
      refine ensures_then fun description => ?_
      exact ensures_pure (by simp [hplace, hne, key])

theorem map_eq_of_mapM {α β : Type} {f : α → Option β} : ∀ {items : List α} {values : List β},
    items.mapM f = some values → items.map f = values.map some := by
  intro items
  induction items with
  | nil =>
    intro values h
    cases h
    rfl
  | cons item rest ih =>
    intro values h
    rw [mapM_cons] at h
    obtain ⟨value, hvalue, h⟩ := Option.bind_eq_some_iff.mp h
    obtain ⟨others, hothers, h⟩ := Option.bind_eq_some_iff.mp h
    cases h
    rw [map_cons, hvalue, ih hothers, map_cons]

theorem filter_zip {α β : Type} {f : α → Option β} {keep : β → Bool} :
    ∀ {items : List α} {values : List β}, items.map f = values.map some →
      ((items.zip values).filter fun pair => keep pair.2).map (·.1) =
        items.filter fun item => (f item).any keep := by
  intro items
  induction items with
  | nil => exact fun _ => rfl
  | cons item rest ih =>
    intro values h
    cases values with
    | nil => cases h
    | cons value others =>
      rw [map_cons, map_cons, List.cons.injEq] at h
      rw [zip_cons_cons, filter_cons, filter_cons, h.1, ← ih h.2]
      split
      · rename_i hkeep
        rw [if_pos (by exact hkeep), map_cons]
      · rename_i hkeep
        rw [if_neg (by exact hkeep)]

/-- Merging leaves out the parameters of the path that are replaced. -/
theorem merge?_eq_some {shared own merged : List Entries} (h : merge? shared own = some merged) :
    merged = shared.filter (fun raw => !own.any (replacedBy raw)) ++ own := by
  unfold merge? at h
  obtain ⟨taken, htaken, h⟩ := Option.bind_eq_some_iff.mp h
  obtain ⟨identities, hidentities, h⟩ := Option.bind_eq_some_iff.mp h
  cases h
  have hkept := @filter_zip _ _ _ (fun identity => !taken.any (sameIdentity identity)) _ _
    (map_eq_of_mapM hidentities)
  refine congrArg (· ++ own) (hkept.trans (filter_congr fun raw hraw => ?_))
  obtain ⟨identity, -, hidentity⟩ : ∃ identity ∈ identities, some identity = identity? raw := by
    rw [← mem_map, ← map_eq_of_mapM hidentities]
    exact mem_map_of_mem hraw
  have hany := congrArg (any · (Option.any (sameIdentity identity))) (map_eq_of_mapM htaken)
  have hraw' : replacedBy raw = fun other => (identity? other).any (sameIdentity identity) := by
    funext other
    rw [replacedBy, ← hidentity, Option.any_some]
  rw [← hidentity, Option.any_some, hraw']
  simpa [any_map, Function.comp_def] using hany.symm

/-! ### The parameters of an operation -/

/-- No two parameters of a list are read with the same name and place. -/
def Distinct (list : List Entries) : Prop := (list.filterMap target?).Nodup

/-- The parameters of a path that an operation keeps, as they are read: no parameter of the
operation has the same name and place. -/
def kept (shared own : List Entries) : List Entries :=
  (shared.filter (target? · |>.isSome)).filter fun raw => !own.any (target? · = target? raw)

/-- The parameters of an operation are those of the path that it keeps and all its own, in the order
in which they are written, but for those that are left out, and no two of them have the same name
and place. -/
structure Overrides (shared own : List Entries) (parameters : List Parameter) : Prop where
  nodup : (parameters.map key).Nodup
  read : List.Forall₂ Extracts (kept shared own ++ own.filter (target? · |>.isSome)) parameters

/-- A parameter of the path is replaced as it is written exactly if it is as it is read. -/
def ComparedAlike (shared own : List Entries) : Prop :=
  ∀ raw ∈ shared, (target? raw).isSome = true →
    ((∃ other ∈ own, replacedBy raw other = true) ↔ ∃ other ∈ own, target? other = target? raw)

/-- The parameters that are not left out become those of the operation. -/
theorem forall₂_extracts {merged : List Entries} {start : String} {index : Nat} :
    ∀ {found : List (Option Parameter)}, List.Forall₂ (fun entry value =>
        (read entry.1 (start ++ toString entry.2)).run.value = .ok value)
      (merged.zipIdx index) found →
      List.Forall₂ Extracts (merged.filter (target? · |>.isSome)) (found.filterMap id) := by
  induction merged generalizing index with
  | nil =>
    intro found h
    cases h
    exact .nil
  | cons raw rest ih =>
    intro found h
    rw [zipIdx_cons] at h
    cases h with
    | @cons _ value _ others hvalue hothers =>
      have hkey := read_key raw _ value hvalue
      rw [filter_cons, ← hkey, filterMap_cons]
      cases value with
      | none => exact ih hothers
      | some parameter => exact .cons ⟨_, hvalue⟩ (ih hothers)

variable {list : List Entries}

theorem map_key {parameters : List Parameter} (h : List.Forall₂ Extracts list parameters) :
    list.map target? = parameters.map (some ·.key) := by
  induction h with
  | nil => rfl
  | cons hfirst _ ih =>
    obtain ⟨location, hread⟩ := hfirst
    rw [map_cons, map_cons, ih, ← read_key _ location _ hread]
    rfl

theorem Distinct.nodup (h : Distinct list) :
    ((list.filter (target? · |>.isSome)).map target?).Nodup := by
  have hsome : (list.filter (target? · |>.isSome)).map target? =
      (list.filterMap target?).map some := by
    rw [map_filterMap_some_eq_filter_map_isSome, filter_map]
    rfl
  rw [hsome]
  exact h.map (Option.some_injective _)

theorem mem_kept {shared own : List Entries} : raw ∈ kept shared own ↔
    raw ∈ shared ∧ (target? raw).isSome = true ∧ ¬ ∃ other ∈ own, target? other = target? raw := by
  simp [kept, mem_filter, and_comm]

/-- The parameters of a path that are left when what is written is compared, but for those that are
not read. -/
def left (shared own : List Entries) : List Entries :=
  (shared.filter fun raw => !own.any (replacedBy raw)).filter (target? · |>.isSome)

theorem mem_left {shared own : List Entries} : raw ∈ left shared own ↔
    raw ∈ shared ∧ (target? raw).isSome = true ∧ ¬ ∃ other ∈ own, replacedBy raw other = true := by
  simp [left, mem_filter]

/-- The name and the place of a parameter tell whether it is among some of the list. -/
theorem Distinct.mem_iff {part : List Entries} (h : Distinct list)
    (hpart : ∀ given ∈ part, given ∈ list ∧ (target? given).isSome = true) (hraw : raw ∈ list)
    (hread : (target? raw).isSome = true) : raw ∈ part ↔ target? raw ∈ part.map target? := by
  refine ⟨mem_map_of_mem, fun htarget => ?_⟩
  obtain ⟨given, hgiven, heq⟩ := mem_map.mp htarget
  rwa [← inj_on_of_nodup_map h.nodup (mem_filter.mpr (hpart given hgiven))
    (mem_filter.mpr ⟨hraw, hread⟩) heq]

section Comparison

variable {shared own : List Entries} {parameters : List Parameter} (hshared : Distinct shared)
  (h : List.Forall₂ Extracts (left shared own ++ own.filter (target? · |>.isSome)) parameters)

include hshared h

theorem comparedAlike_of_overrides (hoverrides : Overrides shared own parameters) :
    ComparedAlike shared own := by
  intro raw hraw hread
  -- the names and places that were read tell which parameters of the path are left
  have hsame : (kept shared own).map target? = (left shared own).map target? := by
    have hkeys := (map_key hoverrides.read).trans (map_key h).symm
    rw [map_append, map_append] at hkeys
    exact append_cancel_right hkeys
  have hkept : ∀ given ∈ kept shared own, given ∈ shared ∧ (target? given).isSome = true :=
    fun given hgiven => (mem_kept.mp hgiven).imp_right And.left
  have hleft : ∀ given ∈ left shared own, given ∈ shared ∧ (target? given).isSome = true :=
    fun given hgiven => (mem_left.mp hgiven).imp_right And.left
  have hiff : raw ∈ kept shared own ↔ raw ∈ left shared own := by
    rw [hshared.mem_iff hkept hraw hread, hshared.mem_iff hleft hraw hread, hsame]
  rw [mem_kept, mem_left] at hiff
  simp only [hraw, hread, true_and, not_iff_not] at hiff
  exact hiff.symm

theorem overrides_of_comparedAlike (hown : Distinct own) (halike : ComparedAlike shared own) :
    Overrides shared own parameters := by
  have hsame : left shared own = kept shared own := by
    rw [left, filter_comm, kept]
    refine filter_congr fun raw hraw => congrArg Bool.not (Bool.eq_iff_iff.mpr ?_)
    obtain ⟨hraw, hread⟩ := mem_filter.mp hraw
    simpa using halike raw hraw hread
  rw [hsame] at h
  refine ⟨List.Nodup.of_map some ?_, h⟩
  rw [map_map, Function.comp_def, ← map_key h, map_append]
  -- within each part the names and places differ, and what is kept differs from the operation's own
  refine nodup_append'.mpr ⟨?_, hown.nodup, fun target hkept hmine => ?_⟩
  · exact hshared.nodup.sublist (filter_sublist.map _)
  · obtain ⟨raw, hraw, rfl⟩ := mem_map.mp hkept
    obtain ⟨other, hother, heq⟩ := mem_map.mp hmine
    exact (mem_kept.mp hraw).2.2 ⟨other, mem_of_mem_filter hother, heq⟩

end Comparison

/-! ### Names and places written as texts -/

/-- A parameter is written with a name and a place that are texts. -/
structure Names (raw : Entries) (name place : String) : Prop where
  name : Entries.get? raw "name" = some (.text name)
  place : Entries.get? raw "in" = some (.text place)

/-- The name and the place of a parameter are written as texts. -/
def Spelled (raw : Entries) : Prop := ∃ name place, Names raw name place

theorem ofWord?_eq_some_iff {word : String} {place : Place} :
    Place.ofWord? word = some place ↔ place.word = word := by
  constructor
  · intro h
    unfold Place.ofWord? at h
    simpa using find?_some h
  · rintro rfl
    cases place <;> rfl

theorem Names.target? {name place : String} (h : Names raw name place) :
    target? raw = ((Place.ofWord? place).filter (· ≠ .body)).map (name, ·) := by
  rw [Parameter.target?, place?, h.name, h.place]
  rfl

theorem Names.replacedBy_iff {other : Entries} {name place otherName otherPlace : String}
    (h : Names raw name place) (hother : Names other otherName otherPlace) :
    replacedBy raw other = true ↔ name = otherName ∧ place = otherPlace := by
  have hraw : identity? raw = some (.text name, .text place) := by
    rw [identity?, h.name, h.place]
    rfl
  have hgiven : identity? other = some (.text otherName, .text otherPlace) := by
    rw [identity?, hother.name, hother.place]
    rfl
  simp [replacedBy, hraw, hgiven, sameIdentity, Scalar.sameValue, Scalar.toInt?]

/-- Texts are the same as they are written exactly if they are as they are read. -/
theorem comparedAlike_of_spelled {shared own : List Entries} (hshared : ∀ raw ∈ shared, Spelled raw)
    (hown : ∀ raw ∈ own, Spelled raw) : ComparedAlike shared own := by
  intro raw hraw hsome
  obtain ⟨name, place, hnames⟩ := hshared raw hraw
  obtain ⟨target, htarget⟩ := Option.isSome_iff_exists.mp hsome
  refine exists_congr fun other => and_congr_right fun hother => ?_
  obtain ⟨otherName, otherPlace, hothers⟩ := hown other hother
  rw [hnames.replacedBy_iff hothers, htarget]
  rw [hnames.target?] at htarget
  rw [hothers.target?]
  simp only [Option.map_eq_some_iff, Option.filter_eq_some_iff, ofWord?_eq_some_iff] at htarget ⊢
  obtain ⟨found, ⟨rfl, hbody⟩, rfl⟩ := htarget
  constructor
  · rintro ⟨rfl, rfl⟩
    exact ⟨found, ⟨rfl, hbody⟩, rfl⟩
  · rintro ⟨given, ⟨rfl, -⟩, heq⟩
    cases heq
    exact ⟨rfl, rfl⟩

end Parameter

/-- What an operation has as parameters: those of the merged list that are not left out. -/
theorem Operation.read_parameters {root : Entries} {path : String} {method : Method}
    {shared : List Entries} {operation : Operation}
    (h : (Operation.read root path method shared raw).run.value = .ok operation) :
    ∃ own, (Reading.components root (Entries.get? raw "parameters")).run.value = .ok own ∧
      List.Forall₂ Parameter.Extracts
        (left shared own ++ own.filter (target? · |>.isSome))
        operation.parameters := by
  unfold Operation.read at h
  obtain ⟨own, hown, h, -⟩ := run_bind_eq_ok h
  refine ⟨own, hown, ?_⟩
  dsimp only at h
  split at h
  · rename_i merged hmerged
    obtain ⟨found, hfound, h, -⟩ := run_bind_eq_ok h
    obtain ⟨body, -, h, -⟩ := run_bind_eq_ok h
    obtain ⟨responses, -, h, -⟩ := run_bind_eq_ok h
    obtain ⟨_, -, h, -⟩ := run_bind_eq_ok h
    cases h
    rw [left, ← filter_append, ← merge?_eq_some hmerged]
    exact forall₂_extracts (forall₂_of_mapM hfound)
  · cases h

/-- The parameters of each operation of a path are those that are written for it and those of the
path with another name or place, exactly if the comparison of what is written agrees with that of
what is read. -/
theorem parameters_overridden_iff {root : Entries} {path : String} {value : Value} {item : Entries}
    {shared : List Entries} {operations : List Operation}
    (hitem : (Reading.follow root value).run.value = .ok (.map item))
    (hshared : (Reading.components root (Entries.get? item "parameters")).run.value = .ok shared)
    (h : (Operation.readPath root path value).run.value = .ok operations) :
    List.Forall₂ (fun entry operation => ∃ own,
      (Reading.components root (Entries.get? entry.2 "parameters")).run.value = .ok own ∧
      (Parameter.Distinct shared → Parameter.Distinct own →
        (Parameter.Overrides shared own operation.parameters ↔ Parameter.ComparedAlike shared own) ∧
        ((∀ raw ∈ shared ++ own, Parameter.Spelled raw) →
          Parameter.Overrides shared own operation.parameters)))
      (item.filterMap Operation.entry?) operations := by
  unfold Operation.readPath at h
  obtain ⟨found, hfound, h, -⟩ := run_bind_eq_ok h
  rw [hitem] at hfound
  cases hfound
  obtain ⟨given, hgiven, h, -⟩ := run_bind_eq_ok h
  rw [hshared] at hgiven
  cases hgiven
  refine (forall₂_of_mapM h).imp fun entry operation hread => ?_
  obtain ⟨own, hown, hextracts⟩ := Operation.read_parameters hread
  refine ⟨own, hown, fun hapart hmine => ?_⟩
  have hoverrides := Parameter.overrides_of_comparedAlike hapart hextracts hmine
  refine ⟨⟨Parameter.comparedAlike_of_overrides hapart hextracts, hoverrides⟩, fun hspelled => ?_⟩
  rw [forall_mem_append] at hspelled
  exact hoverrides (Parameter.comparedAlike_of_spelled hspelled.1 hspelled.2)

/-- A parameter without a place. -/
def unplaced : Entries := [(.text "name", .text "a")]

/-- The same parameter with the place that it is read in. -/
def queried : Entries := unplaced ++ [(.text "in", .text "query")]

/-- A path with the one parameter, and an operation with the other. -/
def unplacedItem : Entries :=
  [(.text "parameters", .list [.map unplaced]),
   (.text "get", .map [(.text "parameters", .list [.map queried])])]

theorem parameters_overridden_iff_unplaced : ∃ operation,
    (Operation.readPath [] "/a" (.map unplacedItem)).run.value = .ok [operation] ∧
      Parameter.Distinct [unplaced] ∧ Parameter.Distinct [queried] ∧
      ¬ Parameter.Overrides [unplaced] [queried] operation.parameters := by
  have hread : (Operation.readPath [] "/a" (.map unplacedItem)).run.value.isOk = true := by decide
  obtain ⟨operations, hoperations⟩ := exists_eq_ok hread
  have hunplaced : Parameter.Distinct [unplaced] := by unfold Parameter.Distinct; decide
  have hqueried : Parameter.Distinct [queried] := by unfold Parameter.Distinct; decide
  have hentries : unplacedItem.filterMap Operation.entry? =
      [(.get, [(.text "parameters", .list [.map queried])])] := rfl
  have hall := @parameters_overridden_iff [] "/a" (.map unplacedItem) unplacedItem [unplaced] _
    rfl rfl hoperations
  rw [hentries] at hall
  cases hall with
  | @cons _ operation _ _ hfirst hrest =>
    cases hrest
    obtain ⟨own, hown, hiff⟩ := hfirst
    have heq : own = [queried] := Except.ok.inj hown.symm
    subst heq
    refine ⟨operation, hoperations, hunplaced, hqueried, fun hoverrides => ?_⟩
    have halike := (hiff hunplaced hqueried).1.mp hoverrides
    obtain ⟨other, hother, htrue⟩ := (halike unplaced mem_cons_self (by decide)).mpr
      ⟨queried, mem_cons_self, by decide⟩
    rw [mem_singleton.mp hother] at htrue
    exact absurd htrue (by decide)

end OpenApiClient
