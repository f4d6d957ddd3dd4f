import OpenApiClient.Proofs.Document.References

/-!
# Where the schemas of a document stand

A schema stands at a place of a document, and so do the schemas it consists of (`SchemaAt`). Places
are pointers, and a place names the value that stands there (`SchemaAt.resolve`).

A warning gives a location, which is put together piece by piece on the way down. `Reported` says
which locations are given for a place. As a rule this is the place itself. There are two ways in
which a location gets out of step with it: a schema that lists several types is taken apart into
members that stand nowhere in the document, and an `allOf` whose members are merged has the
properties of all of them, which may stand somewhere else altogether. If a document has neither,
the location is the place (`Reported.eq`).
-/

namespace OpenApiClient

open Entries

/-! ### Parts of schemas -/

variable {entries raw : Entries} {value : Value}

namespace Entries

theorem Keyed.get?_of_mem (h : entries.Keyed) {entry : Scalar × Value} (hentry : entry ∈ entries) :
    get? entries entry.1.plain = some entry.2 := by
  have hlookup := lookup_map_plain (fun _ value => value) h.text entry.1.plain
  rw [Option.map_id'] at hlookup
  rw [← hlookup, Named.lookup_iff_mem (by rw [List.map_map]; exact h.plain_nodup)]
  exact List.mem_map_of_mem hentry

/-- The members of an `allOf` are merged: there are several, or the schema itself says something
about objects. -/
def Merges (raw : Entries) : Prop :=
  ∃ members, get? raw "allOf" = some (.list members) ∧
    (2 ≤ members.length ∨ has raw "properties" = true ∨
      has raw "required" = true ∨ has raw "additionalProperties" = true)

end Entries

namespace Schema

/-- A schema has the keywords of another at most, and with the same values but for the type. -/
structure Restricts (fewer raw : Entries) : Prop where
  type : has fewer "type" = true → has raw "type" = true
  entry : ∀ {key value}, key ≠ "type" → get? fewer key = some value →
    get? raw key = some value

theorem Restricts.refl (raw : Entries) : Restricts raw raw := ⟨id, fun _ => id⟩

theorem Restricts.has {fewer : Entries} {key : String} (h : Restricts fewer raw)
    (hhas : has fewer key = true) : has raw key = true := by
  by_cases htype : key = "type"
  · subst htype
    exact h.type hhas
  · obtain ⟨value, hvalue⟩ := Option.isSome_iff_exists.mp hhas
    exact has_of_get? (h.entry htype hvalue)

theorem Part.mono {fewer : Entries} {segment : String} (h : Part fewer segment value)
    (hfewer : Restricts fewer raw) : Part raw segment value := by
  cases h with
  | property hproperties hvalue => exact .property (hfewer.entry (by decide) hproperties) hvalue
  | additional hvalue => exact .additional (hfewer.entry (by decide) hvalue)
  | items hvalue => exact .items (hfewer.entry (by decide) hvalue)
  | negated hvalue => exact .negated (hfewer.entry (by decide) hvalue)
  | @member keyword _ _ _ hkeyword hitems hvalue =>
    have hne : ∀ keyword ∈ compositions, keyword ≠ "type" := by decide
    exact .member hkeyword (hfewer.entry (hne keyword hkeyword) hitems) hvalue

/-- For one of its types a schema has some of its keywords. -/
theorem restricts_narrowed (htype : has raw "type" = true) (type : String) :
    Restricts (narrowed raw type) raw where
  type := fun _ => htype
  entry := by
    intro key value hkey h
    rw [get?_narrowed, if_neg hkey] at h
    split at h
    · cases h
    · exact h

end Schema

namespace Document

/-- What stands at a place of a document where a schema is expected: under a name, or in another
schema. -/
inductive SchemaAt (root : Entries) : (place : String) → Value → Prop
  | named {components schemas : Entries} {name : String} {value : Value} :
      get? root "components" = some (.map components) →
      get? components "schemas" = some (.map schemas) →
      get? schemas name = some value → SchemaAt root (schemaLocation name) value
  | part {place segment : String} {raw : Entries} {value : Value} :
      SchemaAt root place (.map raw) → Schema.Part raw segment value →
      SchemaAt root (place ++ "/" ++ segment) value

end Document

/-! ### Places are pointers -/

namespace Pointer

variable {root : Value} {place : String}

theorem resolve_entry {name : String} (h : resolve root place = .ok (.map entries))
    (hentry : get? entries name = some value) :
    resolve root (place ++ "/" ++ escape name) = .ok value :=
  resolve_child (escape name) h (slash_notMem_escape name)
    (step_map.mpr (by rwa [unescape_escape]))

theorem resolve_keyword {keyword : String} (hkeyword : escape keyword = keyword)
    (h : resolve root place = .ok (.map entries))
    (hentry : get? entries keyword = some value) :
    resolve root (place ++ "/" ++ keyword) = .ok value := by
  have hresolve := resolve_entry h hentry
  rwa [hkeyword] at hresolve

theorem resolve_item {items : List Value} {index : Nat} (h : resolve root place = .ok (.list items))
    (hitem : items[index]? = some value) :
    resolve root (place ++ "/" ++ toString index) = .ok value := by
  have hdigits : ∀ c ∈ (toString index).toList, c.isDigit = true := by
    rw [Nat.toString_eq_repr, Nat.toList_repr]
    exact fun c hc => Nat.isDigit_of_mem_toDigits (by decide) (by decide) hc
  have hother : ∀ mark : Char, mark.isDigit = false → mark ∉ (toString index).toList :=
    fun mark hmark hmem => Bool.false_ne_true (hmark ▸ hdigits mark hmem)
  refine resolve_child (toString index) h (hother '/' (by decide)) ?_
  rw [unescape_of_notMem (hother '~' (by decide))]
  exact step_list.mpr hitem

theorem resolve_part {segment : String} (h : resolve root place = .ok (.map raw))
    (hpart : Schema.Part raw segment value) :
    resolve root (place ++ "/" ++ segment) = .ok value := by
  cases hpart with
  | property hproperties hvalue =>
    have hinner := resolve_entry (resolve_keyword (by decide) h hproperties) hvalue
    have hslash : "properties/" = "properties" ++ "/" := by decide
    simpa only [hslash, String.append_assoc] using hinner
  | additional hvalue => exact resolve_keyword (by decide) h hvalue
  | items hvalue => exact resolve_keyword (by decide) h hvalue
  | negated hvalue => exact resolve_keyword (by decide) h hvalue
  | @member keyword items index value hkeyword hitems hvalue =>
    have hescape : ∀ keyword ∈ Schema.compositions, escape keyword = keyword := by decide
    have hinner := resolve_item (resolve_keyword (hescape keyword hkeyword) h hitems) hvalue
    simpa only [String.append_assoc] using hinner

end Pointer

namespace Document

variable {root : Entries}

/-- A place is a pointer to what stands there. -/
theorem SchemaAt.resolve {place : String} (h : SchemaAt root place value) :
    Pointer.resolve (.map root) place = .ok value := by
  induction h with
  | @named _ _ name _ hcomponents hschemas hvalue =>
    exact (resolve_reference_iff hcomponents hschemas (Pointer.slash_notMem_escape name)).mpr
      (by rwa [Pointer.unescape_escape])
  | part _ hpart ih => exact Pointer.resolve_part ih hpart

theorem SchemaAt.keyed {place : String} (h : SchemaAt root place value)
    (hroot : (Value.map root).Keyed) : value.Keyed :=
  Pointer.resolve_plain Value.keyed_hereditary hroot h.resolve

theorem SchemaAt.keyed_entry {place key : String} (h : SchemaAt root place (.map raw))
    (hroot : (Value.map root).Keyed) (hentries : get? raw key = some (.map entries)) :
    entries.Keyed :=
  (Schema.plain_of_get? (Value.keyed_hereditary.entry raw (h.keyed hroot)) hentries).keys

/-! ### Locations of warnings -/

/-- The two times at which warnings about schemas are recorded. -/
inductive Stage where
  | reading
  | translating

/-- The keyword under which the members are reported that stand for several types. -/
def Stage.typesKeyword : Stage → String
  | .reading => "type"
  | .translating => "anyOf"

/-- From a place, references lead to another. -/
inductive LeadsTo (root : Entries) : (place shape : String) → Prop
  | here (place : String) : LeadsTo root place place
  | follow {place segment shape : String} {raw : Entries} : SchemaAt root place (.map raw) →
      Schema.textOf? raw "$ref" = some (Registry.referenceStart ++ segment) →
      '/' ∉ segment.toList → LeadsTo root (schemaLocation (Pointer.unescape segment)) shape →
      LeadsTo root place shape

/-- Under a location, what stands at a place is reported. -/
inductive Reported (root : Entries) (stage : Stage) : (place location : String) → Prop
  | there (place : String) : Reported root stage place place
  | part {place location : String} (segment : String) : Reported root stage place location →
      Reported root stage (place ++ "/" ++ segment) (location ++ "/" ++ segment)
  -- the member for a type is told from the others by its location only
  | typed {place location : String} {raw : Entries} {index : Nat} :
      SchemaAt root place (.map raw) → raw.ListsTypes → index < raw.listedTypes.length →
      Reported root stage place location →
      Reported root stage place (location ++ "/" ++ (stage.typesKeyword ++ "/" ++ toString index))
  -- a property that stands in a member, or where its references lead to
  | merged {place shape location segment : String} {raw : Entries} {index : Nat} {member : Value} :
      stage = .translating → SchemaAt root place (.map raw) → raw.Merges →
      Schema.Part raw ("allOf" ++ "/" ++ toString index) member →
      LeadsTo root (place ++ "/" ++ ("allOf" ++ "/" ++ toString index)) shape →
      (segment = "additionalProperties" ∨ ∃ name, segment = "properties/" ++ Pointer.escape name) →
      Reported root stage place location →
      Reported root stage (shape ++ "/" ++ segment) (location ++ "/" ++ segment)

/-- If no schema lists several types or merges the members of an `allOf`, the location is the
place. -/
theorem Reported.eq {stage : Stage} {place location : String}
    (hplain : ∀ place (raw : Entries), SchemaAt root place (.map raw) →
      ¬ raw.ListsTypes ∧ ¬ raw.Merges)
    (h : Reported root stage place location) : place = location := by
  induction h with
  | there => rfl
  | part segment _ ih => rw [ih]
  | typed hplace htypes => exact absurd htypes (hplain _ _ hplace).1
  | merged _ hplace hmerges => exact absurd hmerges (hplain _ _ hplace).2

end Document

/-- A value has a keyword that a warning is about. A schema that is `false` stands for a negation,
and one that is no mapping is malformed as a whole. -/
def Value.Carries : Value → (keyword : String) → Prop
  | .map raw, keyword => has raw keyword = true
  | .bool value, keyword => value = false ∧ keyword = "not"
  | _, keyword => keyword = "schema"

/-- A warning is about a schema of the document, one that has the keyword or lists the types that
the keyword stands for, and is reported under a location for the place of this schema. -/
def Warning.Founded (root : Entries) (stage : Document.Stage) (warning : Warning) : Prop :=
  ∃ place value, Document.SchemaAt root place value ∧
    Pointer.resolve (.map root) place = .ok value ∧
    (value.Carries warning.keyword ∨
      ∃ raw : Entries, value = .map raw ∧ raw.ListsTypes ∧ warning.keyword = stage.typesKeyword) ∧
    Document.Reported root stage place warning.location

theorem Warning.founded_of_carries {root : Entries} {stage : Document.Stage} {warning : Warning}
    {place : String} (hplace : Document.SchemaAt root place value)
    (hreported : Document.Reported root stage place warning.location)
    (hcarries : value.Carries warning.keyword) : warning.Founded root stage :=
  ⟨place, value, hplace, hplace.resolve, .inl hcarries, hreported⟩

/-- If no schema lists several types or merges the members of an `allOf`, the location of a founded
warning is a pointer to the schema that has the keyword. -/
theorem Warning.Founded.resolve {root : Entries} {stage : Document.Stage} {warning : Warning}
    (hplain : ∀ place (raw : Entries), Document.SchemaAt root place (.map raw) →
      ¬ raw.ListsTypes ∧ ¬ raw.Merges)
    (h : warning.Founded root stage) :
    ∃ value, Pointer.resolve (.map root) warning.location = .ok value ∧
      value.Carries warning.keyword := by
  obtain ⟨place, value, hplace, hresolve, hcarries, hreported⟩ := h
  refine ⟨value, hreported.eq hplain ▸ hresolve, hcarries.resolve_right ?_⟩
  rintro ⟨raw, rfl, htypes, -⟩
  exact (hplain place raw hplace).1 htypes

end OpenApiClient
