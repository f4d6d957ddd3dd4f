import OpenApiClient.Proofs.Document.Reader
import OpenApiClient.Proofs.Json.Plain
import OpenApiClient.Proofs.Schema.Steps
import OpenApiClient.Proofs.Text.Integer

/-!
# References are pointers to named schemas

A reference is understood in two ways. As a pointer it is followed key by key from the root of the
document; as a name it is looked up among the schemas that were registered. For a document in JSON
the two agree on every text (`Registry.resolves_iff_pointer`): a reference has a registered name
exactly if it has the right start, a single segment after it, and leads somewhere as a pointer, and
what is registered under the name is the schema that is read where the pointer leads. A pointer that
goes on with one more segment names what a step along it leads to (`Pointer.resolve_child_iff`).
-/

namespace OpenApiClient

open Entries List Pointer

namespace Pointer

/-! ### Segments of pointers -/

theorem replaceMark_cons {mark replacement c : Char} (rest : List Char) (h : c ≠ '~') :
    replaceMark mark replacement (c :: rest) = c :: replaceMark mark replacement rest := by
  rw [replaceMark]
  exact fun _ _ heq _ => h heq

theorem replaceMark_of_forall {mark replacement : Char} {text : List Char}
    (h : ∀ c ∈ text, c ≠ '~') : replaceMark mark replacement text = text := by
  induction text with
  | nil => rfl
  | cons c rest ih =>
    obtain ⟨hfirst, hrest⟩ := forall_mem_cons.mp h
    rw [replaceMark_cons rest hfirst, ih hrest]

variable {segment : String}

/-- A text without tildes is read as it is. -/
theorem unescape_of_notMem (h : '~' ∉ segment.toList) : unescape segment = segment := by
  have hother : ∀ c ∈ segment.toList, c ≠ '~' := fun c hc heq => h (heq ▸ hc)
  rw [unescape, replaceMark_of_forall hother, replaceMark_of_forall hother, String.ofList_toList]

theorem replaceMark_escapeChars (text : List Char) :
    replaceMark '0' '~' (replaceMark '1' '/' (text.flatMap escapeChar)) = text := by
  -- slashes are put back before tildes, so that `~01` stays a tilde and a one
  induction text with
  | nil => rfl
  | cons c rest ih =>
    rw [flatMap_cons]
    by_cases htilde : c = '~'
    · simp [escapeChar, htilde, replaceMark, replaceMark_cons, ih]
    · by_cases hslash : c = '/'
      · simp [escapeChar, hslash, replaceMark, replaceMark_cons, ih]
      · simp [escapeChar, htilde, hslash, replaceMark_cons, ih]

/-- A segment is read back as it was written. -/
@[simp] theorem unescape_escape (segment : String) : unescape (escape segment) = segment := by
  rw [unescape, escape, String.toList_ofList, replaceMark_escapeChars, String.ofList_toList]

/-- A written segment has no slash. -/
theorem slash_notMem_escape (segment : String) : '/' ∉ (escape segment).toList := by
  rw [escape, String.toList_ofList, mem_flatMap]
  rintro ⟨c, -, hc⟩
  unfold escapeChar at hc
  split at hc
  · cases hc with | tail _ hc => cases hc with | tail _ hc => cases hc
  · split at hc
    · cases hc with | tail _ hc => cases hc with | tail _ hc => cases hc
    · rename_i hslash
      exact hslash (mem_singleton.mp hc).symm

/-! ### Steps -/

variable {child value : Value} {ref : String}

/-- Where a step leads does not depend on the pointer it belongs to. -/
theorem step_eq_ok_congr {other : String} :
    step ref value segment = .ok child ↔ step other value segment = .ok child := by
  unfold step
  split
  · split <;> simp
  · split <;> simp
  · simp

theorem foldlM_step_eq_ok_congr {other : String} {segments : List String} :
    ∀ {value last : Value}, segments.foldlM (step ref) value = .ok last ↔
      segments.foldlM (step other) value = .ok last := by
  induction segments with
  | nil => exact Iff.rfl
  | cons segment rest ih =>
    intro value last
    rw [foldlM_cons, foldlM_cons, bind_eq_ok, bind_eq_ok]
    exact exists_congr fun next => and_congr step_eq_ok_congr ih

theorem step_map {entries : Entries} :
    step ref (.map entries) segment = .ok child ↔ get? entries segment = some child := by
  rw [step]
  split <;> simp_all

theorem step_list {items : List Value} {index : Nat} :
    step ref (.list items) (toString index) = .ok child ↔ items[index]? = some child := by
  have hitem : itemAt? items index = items[index]? := by simp [itemAt?]
  rw [step, Text.index_toString, Option.bind_some, hitem]
  split <;> simp_all

theorem splitSlashes_append (path rest : List Char) :
    splitSlashes (path ++ '/' :: rest) = splitSlashes path ++ splitSlashes rest := by
  rw [splitSlashes, List.splitOn, splitOnP_append_cons _ _ (by simp), map_append]
  rfl

theorem splitSlashes_of_notMem {text : List Char} (h : '/' ∉ text) :
    splitSlashes text = [String.ofList text] := by
  rw [splitSlashes, splitOn_eq_singleton h, map_singleton]

variable {root : Value}

theorem resolve_eq_ok_iff :
    resolve root ref = .ok value ↔ ∃ path, ref.toList = '#' :: '/' :: path ∧
      ((splitSlashes path).map unescape).foldlM (step ref) root = .ok value := by
  unfold resolve
  split
  · rename_i path heq
    simp [heq]
  · rename_i hother
    constructor
    · rintro ⟨⟩
    · rintro ⟨path, heq, -⟩
      exact absurd heq (hother path)

/-- A pointer of one segment names what a step from the root leads to. -/
theorem resolve_single_iff (hsegment : '/' ∉ segment.toList) :
    resolve root ("#/" ++ segment) = .ok child ↔
      step "#" root (unescape segment) = .ok child := by
  rw [resolve_eq_ok_iff]
  constructor
  · rintro ⟨path, hpath, h⟩
    obtain rfl : segment.toList = path := by simpa using hpath
    rw [splitSlashes_of_notMem hsegment, String.ofList_toList, map_singleton,
      foldlM_cons] at h
    obtain ⟨found, hfound, hlast⟩ := bind_eq_ok.mp h
    cases hlast
    exact step_eq_ok_congr.mp hfound
  · intro h
    refine ⟨segment.toList, by simp, ?_⟩
    rw [splitSlashes_of_notMem hsegment, String.ofList_toList, map_singleton,
      foldlM_cons]
    exact bind_eq_ok.mpr ⟨child, step_eq_ok_congr.mp h, rfl⟩

/-- A pointer that goes on with one more segment names what a step along it leads to. -/
theorem resolve_child_iff {path : List Char} (href : ref.toList = '#' :: '/' :: path)
    (hsegment : '/' ∉ segment.toList) :
    resolve root (ref ++ "/" ++ segment) = .ok child ↔
      ∃ value, resolve root ref = .ok value ∧ step ref value (unescape segment) = .ok child := by
  have hlonger : (ref ++ "/" ++ segment).toList =
      '#' :: '/' :: (path ++ '/' :: segment.toList) := by
    simp [href]
  have hsteps : ((splitSlashes (path ++ '/' :: segment.toList)).map unescape) =
      (splitSlashes path).map unescape ++ [unescape segment] := by
    rw [splitSlashes_append, splitSlashes_of_notMem hsegment, String.ofList_toList, map_append,
      map_singleton]
  -- the steps of the longer pointer carry its own text, which matters to failures only
  have hshort : ∀ value, resolve root ref = .ok value ↔
      ((splitSlashes path).map unescape).foldlM (step (ref ++ "/" ++ segment)) root =
        .ok value := by
    intro value
    rw [resolve_eq_ok_iff]
    simpa [href] using foldlM_step_eq_ok_congr
  rw [resolve_eq_ok_iff]
  constructor
  · rintro ⟨longer, hpath, h⟩
    obtain rfl : path ++ '/' :: segment.toList = longer := by simpa [hlonger] using hpath
    rw [hsteps, foldlM_append] at h
    obtain ⟨value, hvalue, hlast⟩ := bind_eq_ok.mp h
    obtain ⟨found, hfound, hlast⟩ := bind_eq_ok.mp hlast
    cases hlast
    exact ⟨value, (hshort value).mpr hvalue, step_eq_ok_congr.mp hfound⟩
  · rintro ⟨value, hvalue, hstep⟩
    refine ⟨_, hlonger, ?_⟩
    rw [hsteps, foldlM_append]
    refine bind_eq_ok.mpr ⟨value, (hshort value).mp hvalue, ?_⟩
    exact bind_eq_ok.mpr ⟨child, step_eq_ok_congr.mp hstep, rfl⟩

theorem resolve_child (segment : String) (h : resolve root ref = .ok value)
    (hsegment : '/' ∉ segment.toList) (hstep : step ref value (unescape segment) = .ok child) :
    resolve root (ref ++ "/" ++ segment) = .ok child := by
  obtain ⟨path, href, -⟩ := resolve_eq_ok_iff.mp h
  exact (resolve_child_iff href hsegment).mpr ⟨value, h, hstep⟩

end Pointer

/-! ### Mappings whose keys are texts -/

namespace Entries

theorem Keyed.plain_nodup {entries : Entries} (h : entries.Keyed) :
    (entries.map (·.1.plain)).Nodup := by
  have hkeys : ∀ first ∈ entries.map (·.1), ∀ second ∈ entries.map (·.1),
      first.plain = second.plain → first = second := by
    simp only [mem_map]
    rintro _ ⟨one, hone, rfl⟩ _ ⟨two, htwo, rfl⟩ heq
    obtain ⟨first, hfirst⟩ := h.text one hone
    obtain ⟨second, hsecond⟩ := h.text two htwo
    rw [hfirst, hsecond] at heq ⊢
    exact congrArg Scalar.text heq
  have hplain := h.nodup.map_on hkeys
  rwa [map_map] at hplain

/-- Entries whose keys are texts, changed one by one, are found under the same names. -/
theorem lookup_map_plain {α : Type} {entries : Entries} (change : String → Value → α)
    (h : ∀ entry ∈ entries, ∃ name, entry.1 = .text name) (name : String) :
    (entries.map fun entry => (entry.1.plain, change entry.1.plain entry.2)).lookup name =
      (get? entries name).map (change name) := by
  unfold get?
  induction entries with
  | nil => rfl
  | cons entry rest ih =>
    obtain ⟨⟨other, hother⟩, hrest⟩ := forall_mem_cons.mp h
    rw [map_cons, Named.lookup_cons_ite, Named.lookup_cons_ite, ih hrest, hother]
    by_cases hname : name = other <;> simp [hname, Scalar.plain]

end Entries

/-! ### The named schemas of a document -/

theorem Reading.mapM_lift {α β : Type} (read : α → Noted β) (items : List α) :
    (items.mapM fun item => (liftM (read item) : Reading β)) = liftM (items.mapM read) := by
  induction items with
  | nil => simp
  | cons item rest ih => simp [mapM_cons, ih]

namespace Document

variable {root components schemas : Entries}

/-- The named schemas with the warnings that arose when they were read. -/
def namedSchemas (schemas : Entries) : Noted (List (String × Schema)) := do
  let pairs ← schemas.mapM fun entry =>
    (entry.1.plain, ·) <$> Schema.ofValue entry.2 (schemaLocation entry.1.plain)
  return Named.ofPairs pairs

theorem readSchemas_eq (hcomponents : get? root "components" = some (.map components))
    (hschemas : get? components "schemas" = some (.map schemas)) :
    readSchemas root = liftM (namedSchemas schemas) := by
  have hfound : (get? root "components").bind (·.get? "schemas") = some (.map schemas) := by
    rw [hcomponents, Option.bind_some, Value.get?, hschemas]
  have hentry : ∀ entry : Scalar × Value,
      (do return (entry.1.plain, ← Reading.schema entry.2 (schemaLocation entry.1.plain)) :
        Reading (String × Schema)) =
      liftM ((entry.1.plain, ·) <$> Schema.ofValue entry.2 (schemaLocation entry.1.plain)) := by
    intro entry
    simp [Reading.schema]
  unfold readSchemas namedSchemas
  rw [hfound]
  simp only [hentry, Reading.mapM_lift, liftM_bind, liftM_pure]

/-- A document has named schemas, or none are read. -/
theorem readSchemas_cases (root : Entries) :
    (∃ components schemas, get? root "components" = some (.map components) ∧
      get? components "schemas" = some (.map schemas)) ∨ readSchemas root = pure [] := by
  unfold readSchemas
  split
  · rename_i schemas hschemas
    obtain ⟨value, hvalue, hget⟩ := Option.bind_eq_some_iff.mp hschemas
    left
    unfold Value.get? at hget
    split at hget
    · rename_i components
      exact ⟨components, schemas, hvalue, hget⟩
    · cases hget
  · exact .inr rfl

/-- If keys are texts and stand once, every named schema is read out of the entry of its name. -/
theorem value_namedSchemas (hkeyed : schemas.Keyed) :
    (namedSchemas schemas).value = schemas.map fun entry =>
      (entry.1.plain, (Schema.ofValue entry.2 (schemaLocation entry.1.plain)).value) := by
  rw [namedSchemas, Noted.value_bind, Noted.value_mapM, Noted.value_pure]
  refine Named.ofPairs_of_nodup ?_
  rw [map_map]
  exact hkeyed.plain_nodup

end Document

/-! ### Both readings of a reference -/

namespace Registry

variable {registry : Registry} {ref name : String}

theorem after?_eq_some_iff {start text rest : List Char} :
    after? start text = some rest ↔ text = start ++ rest := by
  fun_induction after? start text with
  | case1 text => simp [eq_comm]
  | case2 start d text ih => simp [ih]
  | case3 c start d text hne => simp [Ne.symm hne]
  | case4 c start => simp

/-- A reference has a registered name exactly if it is the common start of references with one
segment after it, which is the name as it is written in pointers. -/
theorem resolve_eq_ok_iff :
    registry.resolve ref = .ok name ↔ ∃ segment, ref = referenceStart ++ segment ∧
      '/' ∉ segment.toList ∧ unescape segment = name ∧ name ∈ registry.names := by
  constructor
  · intro h
    unfold resolve at h
    dsimp only at h
    split at h
    · rename_i encoded hafter
      split at h
      · cases h
      · rename_i hslash
        split at h
        · rename_i hcontains
          cases h
          refine ⟨String.ofList encoded, ?_, by simpa using hslash, rfl,
            by simpa [contains] using hcontains⟩
          rw [← String.toList_inj, String.toList_append, String.toList_ofList]
          exact after?_eq_some_iff.mp hafter
        · cases h
    · split at h <;> cases h
  · rintro ⟨segment, rfl, hslash, rfl, hname⟩
    have hafter : after? referenceStart.toList (referenceStart ++ segment).toList =
        some segment.toList := after?_eq_some_iff.mpr (by rw [String.toList_append])
    unfold resolve
    rw [hafter]
    simp [hslash, contains, hname]

/-- What is registered under a name is read out of its entry. -/
theorem get?_named {schemas : Entries} (hkeyed : schemas.Keyed)
    (h : ofSchemas (Document.namedSchemas schemas).value = .ok registry) (name : String) :
    registry.get? name = (Entries.get? schemas name).map fun raw =>
      (Schema.ofValue raw (Document.schemaLocation name)).value := by
  rw [get?, (ofSchemas_ok h).1, Document.value_namedSchemas hkeyed]
  exact lookup_map_plain
    (fun name raw => (Schema.ofValue raw (Document.schemaLocation name)).value) hkeyed.text name

end Registry

theorem Document.resolve_schemas {root components schemas : Entries}
    (hcomponents : get? root "components" = some (.map components))
    (hschemas : get? components "schemas" = some (.map schemas)) :
    resolve (.map root) "#/components/schemas" = .ok (.map schemas) := by
  have hfirst : resolve (.map root) ("#/" ++ "components") = .ok (.map components) := by
    rw [resolve_single_iff (by decide), step_map,
      unescape_of_notMem (by decide)]
    exact hcomponents
  refine resolve_child "schemas" hfirst (by decide) ?_
  rw [step_map, unescape_of_notMem (by decide)]
  exact hschemas

/-- A single segment after the common start of references leads to the entry of its name. -/
theorem Document.resolve_reference_iff {root components schemas : Entries}
    (hcomponents : get? root "components" = some (.map components))
    (hschemas : get? components "schemas" = some (.map schemas)) {segment : String}
    (hsegment : '/' ∉ segment.toList) {value : Value} :
    resolve (.map root) (Registry.referenceStart ++ segment) = .ok value ↔
      get? schemas (unescape segment) = some value := by
  have hstart : Registry.referenceStart = "#/components/schemas" ++ "/" := by decide
  have hpath : "#/components/schemas".toList = '#' :: '/' :: "components/schemas".toList := by
    decide
  rw [hstart, resolve_child_iff hpath hsegment]
  simp [Document.resolve_schemas hcomponents hschemas, step_map]

theorem Document.keyed_schemas {root components schemas : Entries} (hroot : (Value.map root).Keyed)
    (hcomponents : get? root "components" = some (.map components))
    (hschemas : get? components "schemas" = some (.map schemas)) :
    (Value.map schemas).Keyed := by
  have houter : Entries.Plain Value.Keyed root := Value.keyed_hereditary.entry _ hroot
  have hinner : Entries.Plain Value.Keyed components :=
    Value.keyed_hereditary.entry _ (houter.get? _ _ hcomponents)
  exact hinner.get? _ _ hschemas

/-- In a document in JSON, a reference has a registered name exactly if it has the start that all
references have, a single segment after it, and leads somewhere as a pointer; and what is registered
under the name is the schema that is read where the pointer leads. -/
theorem Registry.resolves_iff_pointer (text : String) (root components schemas : Entries)
    (named : List (String × Schema)) (registry : Registry)
    (htext : Json.read text = .ok (.map root))
    (hcomponents : Entries.get? root "components" = some (.map components))
    (hschemas : Entries.get? components "schemas" = some (.map schemas))
    (hnamed : (Document.readSchemas root).run.value = .ok named)
    (hregistry : Registry.ofSchemas named = .ok registry) (ref : String) :
    ((∃ name, registry.resolve ref = .ok name) ↔
      (∃ segment, ref = referenceStart ++ segment ∧ '/' ∉ segment.toList) ∧
        ∃ value, Pointer.resolve (.map root) ref = .ok value) ∧
    ∀ name value location, registry.resolve ref = .ok name →
      Pointer.resolve (.map root) ref = .ok value →
        registry.get? name = some (Schema.ofValue value location).value := by
  have hkeyed := (Document.keyed_schemas (Json.read_keyed htext) hcomponents hschemas).keys
  rw [Document.readSchemas_eq hcomponents hschemas, Reading.run_lift] at hnamed
  cases hnamed
  have hget := get?_named hkeyed hregistry
  constructor
  · constructor
    · rintro ⟨name, hname⟩
      obtain ⟨segment, rfl, hsegment, rfl, hmem⟩ := resolve_eq_ok_iff.mp hname
      obtain ⟨schema, hschema⟩ := exists_get?_of_mem_names hmem
      rw [hget] at hschema
      obtain ⟨value, hvalue, -⟩ := Option.map_eq_some_iff.mp hschema
      exact ⟨⟨segment, rfl, hsegment⟩, value,
        (Document.resolve_reference_iff hcomponents hschemas hsegment).mpr hvalue⟩
    · rintro ⟨⟨segment, rfl, hsegment⟩, value, hvalue⟩
      have hentry := (Document.resolve_reference_iff hcomponents hschemas hsegment).mp hvalue
      have hschema := hget (Pointer.unescape segment)
      rw [hentry, Option.map_some] at hschema
      exact ⟨_, resolve_eq_ok_iff.mpr ⟨segment, rfl, hsegment, rfl, mem_names_of_get? hschema⟩⟩
  · intro name value location hname hvalue
    obtain ⟨segment, rfl, hsegment, rfl, -⟩ := resolve_eq_ok_iff.mp hname
    have hentry := (Document.resolve_reference_iff hcomponents hschemas hsegment).mp hvalue
    rw [hget, hentry, Option.map_some, Schema.value_ofValue_eq value _ location]

/-- Schemas whose names hold a slash and tildes. -/
def slashedText : String :=
  "\x7b\"components\": \x7b\"schemas\": \x7b\"a/b\": \x7b\"type\": \"string\"\x7d, " ++
    "\"~1\": \x7b\"items\": \x7b\"not\": 1\x7d\x7d, \"\": true\x7d\x7d\x7d"

theorem Registry.resolves_iff_pointer_slashedText :
    ∃ root components schemas named registry value, Json.read slashedText = .ok (.map root) ∧
      Entries.get? root "components" = some (.map components) ∧
      Entries.get? components "schemas" = some (.map schemas) ∧
      (Document.readSchemas root).run.value = .ok named ∧
      Registry.ofSchemas named = .ok registry ∧
      Pointer.resolve (.map root) "#/components/schemas/~01" = .ok value ∧
      registry.resolve "#/components/schemas/~01" = .ok "~1" ∧
      registry.get? "~1" = some (Schema.ofValue value "").value := by
  have hall : (do
      let value ← (Json.read slashedText).toOption
      let root ← (Document.requireMapping value).toOption
      let value ← Entries.get? root "components"
      let components ← (Document.requireMapping value).toOption
      let value ← Entries.get? components "schemas"
      let _ ← (Document.requireMapping value).toOption
      let named ← (Document.readSchemas root).run.value.toOption
      let registry ← (Registry.ofSchemas named).toOption
      let _ ← (Pointer.resolve (.map root) "#/components/schemas/~01").toOption
      (registry.resolve "#/components/schemas/~01").toOption : Option String) = some "~1" := by
    decide +kernel
  obtain ⟨root, htext, hrest⟩ := Document.exists_of_read_bind hall
  obtain ⟨held, hcomponents, hrest⟩ := Option.bind_eq_some_iff.mp hrest
  obtain ⟨components, hheld, hrest⟩ := Option.bind_eq_some_iff.mp hrest
  obtain ⟨listed, hschemas, hrest⟩ := Option.bind_eq_some_iff.mp hrest
  obtain ⟨schemas, hlisted, hrest⟩ := Option.bind_eq_some_iff.mp hrest
  obtain ⟨named, hnamed, hrest⟩ := exists_ok_of_bind hrest
  obtain ⟨registry, hregistry, hrest⟩ := exists_ok_of_bind hrest
  obtain ⟨found, hfound, hname⟩ := exists_ok_of_bind hrest
  rw [Document.requireMapping_eq_ok (eq_ok_of_toOption hheld)] at hcomponents
  rw [Document.requireMapping_eq_ok (eq_ok_of_toOption hlisted)] at hschemas
  have hname := eq_ok_of_toOption hname
  have hstored := (Registry.resolves_iff_pointer slashedText root components schemas named registry
    htext hcomponents hschemas hnamed hregistry "#/components/schemas/~01").2 "~1" found "" hname
    hfound
  exact ⟨root, components, schemas, named, registry, found, htext, hcomponents, hschemas, hnamed,
    hregistry, hfound, hname, hstored⟩

end OpenApiClient
