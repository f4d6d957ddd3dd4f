import OpenApiClient.Document.Text
import OpenApiClient.Proofs.Client.Compile

/-!
# The schemas of a document come from its values

Whatever a schema of a document is read out of is a value that the document holds, also where
pointers have been followed to it. So a property of values that is passed on to what they hold
(`Value.Hereditary`) is a property of all the values that schemas are read out of, if it is one of
the whole document (`Document.ofEntries_readFrom`).
-/

namespace OpenApiClient

open List Operation Parameter Reading

/-! ### Pointers -/

variable {value : Value}

namespace Pointer

variable {plain : Value → Prop} (hplain : Value.Hereditary plain)

include hplain

variable {ref : String}

theorem step_plain {segment : String} {child : Value} (hvalue : plain value)
    (h : step ref value segment = .ok child) : plain child := by
  unfold step at h
  split at h
  · split at h
    · rename_i found hfound
      cases h
      exact hplain.entry _ hvalue _ (Entries.mem_of_get? hfound)
    · cases h
  · split at h
    · rename_i found hfound
      cases h
      obtain ⟨index, -, hindex⟩ := Option.bind_eq_some_iff.mp hfound
      refine hplain.item _ hvalue child ?_
      unfold itemAt? at hindex
      split at hindex
      · exact mem_of_getElem? hindex
      · split at hindex
        · exact mem_of_getElem? hindex
        · cases hindex
    · cases h
  · cases h

theorem foldlM_step_plain {segments : List String} :
    ∀ {value child : Value}, plain value → segments.foldlM (step ref) value = .ok child →
      plain child := by
  induction segments with
  | nil =>
    intro value child hvalue h
    cases h
    exact hvalue
  | cons segment rest ih =>
    intro value child hvalue h
    rw [foldlM_cons] at h
    obtain ⟨next, hnext, h⟩ := bind_eq_ok.mp h
    exact ih (step_plain hplain hvalue hnext) h

theorem resolve_plain {root : Value} (hroot : plain root) (h : resolve root ref = .ok value) :
    plain value := by
  unfold resolve at h
  split at h
  · exact foldlM_step_plain hplain hroot h
  · cases h

theorem followFrom_plain {root : Value} (hroot : plain root) :
    ∀ {hops : Nat} {seen : List String} {value last : Value}, plain value →
      followFrom root hops seen value = .ok last → plain last := by
  intro hops
  induction hops with
  | zero =>
    intro seen value last hvalue h
    unfold followFrom at h
    split at h
    · cases h
      exact hvalue
    · cases h
  | succ hops ih =>
    intro seen value last hvalue h
    unfold followFrom at h
    split at h
    · cases h
      exact hvalue
    · dsimp only at h
      split at h
      · cases h
      · obtain ⟨next, hnext, h⟩ := bind_eq_ok.mp h
        exact ih (resolve_plain hplain hroot hnext) h

end Pointer

/-! ### Reading parts of a document -/

namespace Reading

variable {α β : Type}

/-- What is read, if reading does not fail, is good. -/
def Ensures (action : Reading α) (good : α → Prop) : Prop :=
  ∀ value, action.run.value = .ok value → good value

theorem run_lift (noted : Noted α) : (liftM noted : Reading α).run = Except.ok <$> noted := rfl

theorem run_bind_eq_ok {action : Reading α} {next : α → Reading β} {result : β}
    (h : (action >>= next).run.value = .ok result) :
    ∃ value, action.run.value = .ok value ∧ (next value).run.value = .ok result ∧
      (action >>= next).run.warnings = action.run.warnings ++ (next value).run.warnings := by
  rw [ExceptT.run_bind] at h ⊢
  rw [Noted.value_bind] at h
  cases haction : action.run.value with
  | error failure =>
    rw [haction] at h
    cases h
  | ok value =>
    rw [haction] at h
    refine ⟨value, rfl, h, ?_⟩
    change action.run.warnings ++ _ = _
    rw [haction]

theorem ensures_pure {value : α} {good : α → Prop} (h : good value) :
    Ensures (pure value) good := by
  rintro found ⟨⟩
  exact h

theorem ensures_throw (failure : Failure) (good : α → Prop) :
    Ensures (throw failure) good := by
  rintro found ⟨⟩

theorem ensures_lift {noted : Noted α} {good : α → Prop} (h : good noted.value) :
    Ensures (liftM noted) good := by
  rintro found ⟨⟩
  exact h

theorem ensures_bind {action : Reading α} {next : α → Reading β} {good : α → Prop}
    {last : β → Prop} (h : Ensures action good)
    (hnext : ∀ value, good value → Ensures (next value) last) : Ensures (action >>= next) last := by
  intro result hresult
  rw [ExceptT.run_bind, Noted.value_bind] at hresult
  cases haction : action.run.value with
  | error failure =>
    rw [haction] at hresult
    cases hresult
  | ok value =>
    rw [haction] at hresult
    exact hnext value (h value haction) result hresult

theorem ensures_then {action : Reading α} {next : α → Reading β} {last : β → Prop}
    (hnext : ∀ value, Ensures (next value) last) : Ensures (action >>= next) last :=
  ensures_bind (fun _ _ => trivial) fun value (_ : True) => hnext value

theorem ensures_map {action : Reading α} {change : α → β} {good : α → Prop} {last : β → Prop}
    (h : Ensures action good) (hchange : ∀ value, good value → last (change value)) :
    Ensures (change <$> action) last := by
  rw [← bind_pure_comp]
  exact ensures_bind h fun value hvalue => ensures_pure (hchange value hvalue)

theorem ensures_mapM {act : α → Reading β} {good : β → Prop} :
    ∀ {items : List α}, (∀ item ∈ items, Ensures (act item) good) →
      Ensures (items.mapM act) fun values => ∀ value ∈ values, good value := by
  intro items
  induction items with
  | nil => exact fun _ => ensures_pure (by simp)
  | cons item rest ih =>
    intro h
    rw [mapM_cons]
    refine ensures_bind (h item mem_cons_self) fun value hvalue => ?_
    refine ensures_bind (ih fun other hother => h other (mem_cons_of_mem _ hother))
      fun values hvalues => ?_
    exact ensures_pure (forall_mem_cons.mpr ⟨hvalue, hvalues⟩)

end Reading

variable {root : Entries} {version : Option String}

section Operations

variable {plain : Value → Prop} (hplain : Value.Hereditary plain)

/-- The values of entries are plain. -/
def Entries.Plain (plain : Value → Prop) (raw : Entries) : Prop := ∀ entry ∈ raw, plain entry.2

variable {raw : Entries}

theorem Entries.Plain.get? (h : raw.Plain plain) (key : String) :
    ∀ value ∈ Entries.get? raw key, plain value :=
  fun _ hvalue => h _ (Entries.mem_of_get? hvalue)

/-- A schema, if there is one, was read out of a plain value. -/
def FromPlain (plain : Value → Prop) (schema : Option Schema) : Prop :=
  ∀ found ∈ schema, found.ReadFrom plain

theorem schema_ensures {raw : Value} (h : plain raw) (location : String) :
    Reading.Ensures (Reading.schema raw location) (Schema.ReadFrom plain) :=
  ensures_lift ⟨raw, location, h, rfl⟩

include hplain

theorem follow_ensures (hroot : plain (.map root)) (hvalue : plain value) :
    Reading.Ensures (Reading.follow root value) plain := by
  unfold Reading.follow
  split
  · rename_i last hlast
    exact ensures_pure (Pointer.followFrom_plain hplain hroot hvalue hlast)
  · exact ensures_throw _ _

theorem components_ensures (hroot : plain (.map root)) {items : Option Value}
    (hitems : ∀ value ∈ items, plain value) :
    Reading.Ensures (Reading.components root items) fun found =>
      ∀ entries ∈ found, Entries.Plain plain entries := by
  unfold Reading.components
  split
  · rename_i items
    have hall := hplain.item items (hitems _ rfl)
    refine ensures_bind (ensures_mapM fun item hitem =>
      follow_ensures hplain hroot (hall item hitem)) fun resolved hresolved => ?_
    refine ensures_pure fun entries hentries => ?_
    obtain ⟨value, hvalue, hsome⟩ := mem_filterMap.mp hentries
    split at hsome
    · cases hsome
      exact hplain.entry _ (hresolved _ hvalue)
    · cases hsome
  · exact ensures_pure (by simp)

theorem Media.pick_plain {content : Option Value} (hcontent : ∀ value ∈ content, plain value)
    {mediaType : String} {raw : Option Value} (h : Media.pick content = some (mediaType, raw)) :
    ∀ value ∈ raw, plain value := by
  unfold Media.pick at h
  split at h
  · rename_i entries
    obtain ⟨chosen, -, h⟩ := Option.bind_eq_some_iff.mp h
    have hentries : Entries.Plain plain entries := hplain.entry _ (hcontent _ rfl)
    split at h
    · rename_i media hmedia
      cases h
      have hinner : Entries.Plain plain media := hplain.entry _ (hentries.get? _ _ hmedia)
      exact hinner.get? _
    · cases h
      simp
  · cases h

theorem Parameter.contentSchema_ensures {content : Option Value}
    (hcontent : ∀ value ∈ content, plain value) (location : String) :
    Reading.Ensures (contentSchema content location) fun found =>
      FromPlain plain found.2 := by
  have hnone : FromPlain plain none := by simp [FromPlain]
  unfold contentSchema
  split
  · rename_i mediaType raw hpick
    split
    · exact ensures_pure hnone
    · exact ensures_pure hnone
    · rename_i value _
      have hvalue := Media.pick_plain hplain hcontent hpick value rfl
      refine ensures_bind (schema_ensures hvalue _) fun schema hschema => ?_
      exact ensures_pure (by simpa [FromPlain] using hschema)
  · exact ensures_pure hnone

theorem Parameter.read_ensures (hraw : Entries.Plain plain raw) (location : String) :
    Reading.Ensures (read raw location) fun found =>
      ∀ parameter ∈ found, FromPlain plain parameter.schema := by
  unfold read
  dsimp only
  split
  · exact ensures_then fun _ => ensures_pure (by simp)
  · exact ensures_then fun _ => ensures_pure (by simp)
  · split
    · rename_i value hvalue
      have hread := schema_ensures (hraw.get? _ value hvalue) (location ++ "/schema")
      have hschema : Reading.Ensures (some <$> Reading.schema value (location ++ "/schema"))
          (FromPlain plain) := ensures_map hread (by simp [FromPlain])
      refine ensures_bind hschema fun schema hschema => ?_
      refine ensures_then fun description => ?_
      exact ensures_pure (by simpa using hschema)
    · have hread := contentSchema_ensures hplain (hraw.get? "content") location
      refine ensures_bind (ensures_map hread fun _ h => h) fun schema hschema => ?_
      refine ensures_then fun description => ?_
      exact ensures_pure (by simpa using hschema)

theorem RequestBody.read_ensures (hroot : plain (.map root)) {raw : Option Value}
    (hraw : ∀ value ∈ raw, plain value) (location : String) :
    Reading.Ensures (RequestBody.read root raw location) fun found =>
      ∀ body ∈ found, FromPlain plain body.schema := by
  unfold RequestBody.read
  split
  · exact ensures_pure (by simp)
  · exact ensures_pure (by simp)
  · rename_i value _
    refine ensures_bind (follow_ensures hplain hroot (hraw value rfl))
      fun last hlast => ?_
    split
    · rename_i entries
      have hentries : Entries.Plain plain entries := hplain.entry _ hlast
      refine ensures_bind (contentSchema_ensures hplain (hentries.get? _) _)
        fun found hfound => ?_
      refine ensures_then fun description => ?_
      exact ensures_pure (by simpa using hfound)
    · exact ensures_pure (by simp)

theorem Response.read_ensures (hroot : plain (.map root)) (status : String) (hvalue : plain value)
    (location : String) :
    Reading.Ensures (Response.read root status value location) fun found =>
      ∀ response ∈ found, FromPlain plain response.schema := by
  unfold Response.read
  refine ensures_bind (follow_ensures hplain hroot hvalue) fun last hlast => ?_
  split
  · rename_i entries
    have hentries : Entries.Plain plain entries := hplain.entry _ hlast
    refine ensures_bind (contentSchema_ensures hplain (hentries.get? _) _)
      fun found hfound => ?_
    refine ensures_then fun description => ?_
    exact ensures_pure (by simpa using hfound)
  · exact ensures_pure (by simp)

theorem Response.readAll_ensures (hroot : plain (.map root)) {raw : Option Value}
    (hraw : ∀ value ∈ raw, plain value) (location : String) :
    Reading.Ensures (Response.readAll root raw location) fun responses =>
      ∀ response ∈ responses, FromPlain plain response.schema := by
  unfold Response.readAll
  split
  · rename_i entries
    have hentries := hplain.entry entries (hraw _ rfl)
    refine ensures_bind (ensures_mapM fun entry hentry =>
      Response.read_ensures hplain hroot _ (hentries entry hentry) location) fun found hfound => ?_
    refine ensures_pure fun response hresponse => ?_
    obtain ⟨option, hoption, hsome⟩ := mem_filterMap.mp hresponse
    exact hfound option hoption response hsome
  · exact ensures_pure (by simp)

omit hplain in
theorem Parameter.mem_of_merge? {shared own merged : List Entries}
    (h : merge? shared own = some merged) :
    ∀ entries ∈ merged, entries ∈ shared ∨ entries ∈ own := by
  unfold merge? at h
  obtain ⟨taken, -, h⟩ := Option.bind_eq_some_iff.mp h
  obtain ⟨identities, -, h⟩ := Option.bind_eq_some_iff.mp h
  cases h
  intro entries hentries
  rcases mem_append.mp hentries with hkept | hown
  · obtain ⟨pair, hpair, rfl⟩ := mem_map.mp hkept
    exact .inl (of_mem_zip (mem_of_mem_filter hpair)).1
  · exact .inr hown

/-- All schemas of an operation were read out of plain values. -/
theorem Operation.read_ensures (hroot : plain (.map root)) (path : String) (method : Method)
    {shared : List Entries} (hshared : ∀ raw ∈ shared, Entries.Plain plain raw)
    (hraw : Entries.Plain plain raw) :
    Reading.Ensures (read root path method shared raw) fun operation =>
      ∀ schema ∈ operation.schemas, schema.ReadFrom plain := by
  unfold read
  refine ensures_bind (components_ensures hplain hroot (hraw.get? _)) fun own hown => ?_
  split
  · rename_i merged hmerged
    have hall : ∀ entries ∈ merged, Entries.Plain plain entries := fun entries hentries =>
      (mem_of_merge? hmerged entries hentries).elim (hshared entries) (hown entries)
    refine ensures_bind (ensures_mapM fun parameter hparameter =>
      Parameter.read_ensures hplain (hall _ (fst_mem_of_mem_zipIdx hparameter)) _)
      fun parameters hparameters => ?_
    refine ensures_bind (RequestBody.read_ensures hplain hroot (hraw.get? _) _)
      fun body hbody => ?_
    refine ensures_bind (Response.readAll_ensures hplain hroot (hraw.get? _) _)
      fun responses hresponses => ?_
    refine ensures_then fun _ => ?_
    refine ensures_pure fun schema hschema => ?_
    simp only [schemas, mem_append, Option.mem_toList, mem_filterMap,
      Option.bind_eq_some_iff] at hschema
    rcases hschema with (⟨given, hgiven, hschema⟩ | ⟨parameter, ⟨found, hfound, hsome⟩, hschema⟩) |
      ⟨response, hresponse, hschema⟩
    · exact hbody given hgiven schema hschema
    · exact hparameters found hfound parameter hsome schema hschema
    · exact hresponses response hresponse schema hschema
  · exact ensures_throw _ _

/-- All schemas of operations were read out of plain values. -/
def OperationsFromPlain (plain : Value → Prop) (operations : List Operation) : Prop :=
  ∀ operation ∈ operations, ∀ schema ∈ operation.schemas, schema.ReadFrom plain

theorem Operation.readPath_ensures (hroot : plain (.map root)) (path : String)
    (hvalue : plain value) :
    Reading.Ensures (readPath root path value) (OperationsFromPlain plain) := by
  unfold readPath
  refine ensures_bind (follow_ensures hplain hroot hvalue) fun last hlast => ?_
  split
  · rename_i item
    have hitem : Entries.Plain plain item := hplain.entry _ hlast
    refine ensures_bind (components_ensures hplain hroot (hitem.get? _))
      fun shared hshared => ?_
    refine ensures_mapM fun pair hpair => ?_
    obtain ⟨entry, hentry, hsome⟩ := mem_filterMap.mp hpair
    refine read_ensures hplain hroot path _ hshared ?_
    unfold entry? at hsome
    split at hsome
    · obtain ⟨method, -, rfl⟩ := Option.map_eq_some_iff.mp hsome
      exact hplain.entry _ (hitem _ hentry)
    · cases hsome
  · exact ensures_pure (by simp [OperationsFromPlain])

theorem Operation.readAll_ensures (hroot : plain (.map root)) :
    Reading.Ensures (readAll root) (OperationsFromPlain plain) := by
  have hentries : Entries.Plain plain root := hplain.entry _ hroot
  unfold readAll
  split
  · rename_i paths hpaths
    have hall := hplain.entry paths (hentries.get? _ _ hpaths)
    refine ensures_bind (ensures_mapM fun entry hentry =>
      readPath_ensures hplain hroot _ (hall entry hentry)) fun groups hgroups => ?_
    refine ensures_pure fun operation hoperation => ?_
    obtain ⟨group, hgroup, hmem⟩ := mem_flatten.mp hoperation
    exact hgroups group hgroup operation hmem
  · exact ensures_pure (by simp [OperationsFromPlain])

theorem Document.readSchemas_ensures (hroot : plain (.map root)) :
    Reading.Ensures (Document.readSchemas root) fun schemas =>
      ∀ entry ∈ schemas, entry.2.ReadFrom plain := by
  have hentries : Entries.Plain plain root := hplain.entry _ hroot
  unfold Document.readSchemas
  split
  · rename_i schemas hschemas
    obtain ⟨components, hcomponents, hget⟩ := Option.bind_eq_some_iff.mp hschemas
    have hall : Entries.Plain plain schemas := by
      unfold Value.get? at hget
      split at hget
      · rename_i inner
        have hinner : Entries.Plain plain inner := hplain.entry _ (hentries.get? _ _ hcomponents)
        exact hplain.entry _ (hinner.get? _ _ hget)
      · cases hget
    have hpair : ∀ entry ∈ schemas, Reading.Ensures (do
        return (entry.1.plain, ← Reading.schema entry.2 (Document.schemaLocation entry.1.plain)))
        fun pair : String × Schema => pair.2.ReadFrom plain := by
      intro entry hentry
      refine ensures_bind (schema_ensures (hall entry hentry) _) fun schema h => ?_
      exact ensures_pure h
    refine ensures_bind (ensures_mapM hpair) fun pairs hpairs => ?_
    refine ensures_pure fun entry hentry => hpairs entry ?_
    exact (Named.mem_foldl_insert hentry).resolve_right not_mem_nil
  · exact ensures_pure (by simp)

/-- All schemas of a document were read out of plain values, if the whole document is plain. -/
theorem Document.ofEntries_readFrom (hroot : plain (.map root)) {document : Document}
    (h : Document.ofEntries root version = .ok document) :
    ∀ schema ∈ document.allSchemas, schema.ReadFrom plain := by
  have hparts : Reading.Ensures (do
      return (← Document.readInfo root, ← Document.readSchemas root, ← readAll root))
      fun parts => (∀ entry ∈ parts.2.1, entry.2.ReadFrom plain) ∧
        OperationsFromPlain plain parts.2.2 := by
    refine ensures_then fun info => ?_
    refine ensures_bind (Document.readSchemas_ensures hplain hroot) fun schemas hschemas => ?_
    refine ensures_bind (readAll_ensures hplain hroot)
      fun operations hoperations => ?_
    exact ensures_pure ⟨hschemas, hoperations⟩
  obtain ⟨parts, hvalue, rfl⟩ := exists_of_map_eq_ok h
  obtain ⟨hschemas, hoperations⟩ := hparts parts hvalue
  intro schema hschema
  rcases mem_append.mp hschema with hnamed | hinline
  · obtain ⟨entry, hentry, rfl⟩ := mem_map.mp hnamed
    exact hschemas entry hentry
  · obtain ⟨operation, hoperation, hschema⟩ := mem_flatMap.mp hinline
    exact hoperations operation hoperation schema hschema

end Operations

/-- The warnings about the named schemas stand among those of the document. -/
theorem Document.ofEntries_eq_ok {document : Document}
    (h : Document.ofEntries root version = .ok document) :
    (Document.readSchemas root).run.value = .ok document.schemas ∧ ∃ before after,
      document.warnings = before ++ (Document.readSchemas root).run.warnings ++ after := by
  obtain ⟨parts, hparts, rfl⟩ := exists_of_map_eq_ok h
  obtain ⟨info, -, hparts, hwarnings⟩ := run_bind_eq_ok hparts
  obtain ⟨schemas, hschemas, hparts, hmore⟩ := run_bind_eq_ok hparts
  obtain ⟨operations, -, hparts, -⟩ := run_bind_eq_ok hparts
  cases hparts
  rw [hmore, ← append_assoc] at hwarnings
  exact ⟨hschemas, _, _, hwarnings⟩

theorem Document.requireMapping_eq_ok (h : Document.requireMapping value = .ok root) :
    value = .map root := by
  unfold Document.requireMapping at h
  split at h <;> cases h
  rfl

theorem Document.exists_of_read_bind {text : String} {next : Entries → Option α} {last : α}
    (h : (do next (← (requireMapping (← (Json.read text).toOption)).toOption)) = some last) :
    ∃ root, Json.read text = .ok (.map root) ∧ next root = some last := by
  obtain ⟨value, hvalue, hrest⟩ := exists_ok_of_bind h
  obtain ⟨root, hroot, hlast⟩ := exists_ok_of_bind hrest
  rw [requireMapping_eq_ok hroot] at hvalue
  exact ⟨root, hvalue, hlast⟩

/-- The named schemas of a document depend on what it has as components only. -/
theorem Document.schemas_eq_of_components {first second : Entries} {other : Option String}
    {one two : Document} (h : Entries.get? first "components" = Entries.get? second "components")
    (hone : Document.ofEntries first version = .ok one)
    (htwo : Document.ofEntries second other = .ok two) : one.schemas = two.schemas := by
  have hparts : ∀ root, Reading.Ensures (do
      return (← Document.readInfo root, ← Document.readSchemas root, ← readAll root))
      fun parts => (Document.readSchemas root).run.value = .ok parts.2.1 := by
    intro root
    refine ensures_then fun info => ?_
    refine ensures_bind (fun _ hschemas => hschemas) fun schemas hschemas => ?_
    refine ensures_then fun operations => ?_
    exact ensures_pure hschemas
  obtain ⟨parts, hparts₁, rfl⟩ := exists_of_map_eq_ok hone
  obtain ⟨others, hparts₂, rfl⟩ := exists_of_map_eq_ok htwo
  have hsame : Document.readSchemas first = Document.readSchemas second := by
    rw [Document.readSchemas, Document.readSchemas, h]
  have hfirst := hparts first parts hparts₁
  rw [hsame, hparts second others hparts₂] at hfirst
  exact (Except.ok.inj hfirst).symm

end OpenApiClient
