import OpenApiClient.Proofs.Client.Source
import OpenApiClient.Proofs.Schema.Nodes

/-!
# What warnings are about

The warnings about the named schemas of a document arise when they are read and when they are
converted. Both walk down the schemas and put together the location on the way. The first walk
follows the values of the document (`readAt_founded`), the second the schemas that were read, each
of which is a node that belongs to a place (`Standing`).

`warnings_founded` says for all these warnings that there is a place in the document where a schema
with the keyword stands, and how the location comes from it; and that the location is a pointer to
this schema if no schema of the document lists several types or merges the members of an `allOf`.
-/

namespace OpenApiClient.Conversion

/-! ### Under which locations a conversion goes on -/

open List

variable {registry : Registry} {stack : List String} {schema : Schema} {context : Context}
  {part : Schema × Context}

/-- What the conversion of an object goes on with, and under which segment. -/
inductive ObjectPart (schema : Schema) : (segment : String) → Schema → Prop
  | property {property : String × Schema} : property ∈ schema.properties →
      ObjectPart schema ("properties/" ++ Pointer.escape property.1) property.2
  | additional {others : Schema} : schema.additional = some (.schema others) →
      ObjectPart schema "additionalProperties" others

/-- What the conversion of a schema goes on with, and under which segment. -/
inductive Visited (registry : Registry) (schema : Schema) : (segment : String) → Schema → Prop
  | items {items : Schema} : schema.items = some items → Visited registry schema "items" items
  | object {segment : String} {part : Schema} : ObjectPart schema segment part →
      Visited registry schema segment part
  | allOf {members : List Schema} {index : Nat} {member : Schema} : schema.allOf = some members →
      members[index]? = some member →
      Visited registry schema ("allOf" ++ "/" ++ toString index) member
  | oneOf {members : List Schema} {index : Nat} {member : Schema} : schema.oneOf = some members →
      members[index]? = some member →
      Visited registry schema ("oneOf" ++ "/" ++ toString index) member
  | anyOf {members : List Schema} {index : Nat} {member : Schema} : schema.anyOf = some members →
      members[index]? = some member →
      Visited registry schema ("anyOf" ++ "/" ++ toString index) member
  | merged {members : List Schema} {index : Nat} {member shape part : Schema} {segment : String} :
      schema.allOf = some members → 2 ≤ (members ++ (siblingMember? schema).toList).length →
      members[index]? = some member → Relation.ReflTransGen (RefersTo registry) member shape →
      ObjectPart shape segment part → Visited registry schema segment part

/-! ### Objects -/

theorem objectPart_of_mem (h : part ∈ objectParts schema context) :
    ∃ segment, ObjectPart schema segment part.1 ∧
      part.2.location = context.location ++ "/" ++ segment := by
  rcases mem_append.mp h with h | h
  · obtain ⟨property, hproperty, rfl⟩ := mem_map.mp h
    exact ⟨_, .property hproperty, rfl⟩
  · unfold otherParts at h
    split at h
    · rename_i others hothers
      rw [mem_singleton.mp h]
      exact ⟨_, .additional hothers, rfl⟩
    · cases h

variable {segment : String}

/-- The parts of a merged object are parts of the objects it was merged from. -/
theorem ObjectPart.of_mergeObjects {shapes : List Schema} {part : Schema}
    (h : ObjectPart (mergeObjects shapes) segment part) :
    ∃ shape ∈ shapes, ObjectPart shape segment part := by
  cases h with
  | property hproperty =>
    rcases mem_properties_mergeObjects hproperty with hnone | ⟨shape, hshape, hproperty⟩
    · cases hnone
    · exact ⟨shape, hshape, .property hproperty⟩
  | additional hadditional =>
    rcases additional_mergeObjects hadditional with hnone | ⟨shape, hshape, hadditional⟩
    · cases hnone
    · exact ⟨shape, hshape, .additional hadditional⟩

/-- What a schema says about objects beside its `allOf` it says itself. -/
theorem ObjectPart.of_sibling {member part : Schema} (hmember : siblingMember? schema = some member)
    (h : ObjectPart member segment part) : ObjectPart schema segment part := by
  unfold siblingMember? at hmember
  split at hmember
  · cases hmember
    cases h with
    | property hproperty => exact .property hproperty
    | additional hadditional => exact .additional hadditional
  · cases hmember

/-! ### The members of an `allOf` -/

theorem objectBehind?_of_mem_others {members : List (Schema × Nat)} {member : Schema × Nat}
    (h : member ∈ (sortMembers registry stack members).others) :
    objectBehind? registry stack member.1 = .ok none := by
  induction members with
  | nil => cases h
  | cons first rest ih =>
    unfold sortMembers at h
    split at h
    · cases h
    · exact ih h
    · rename_i hnone
      rcases mem_cons.mp h with rfl | h
      · exact hnone
      · exact ih h

/-- What a schema says about objects beside its `allOf` is merged. -/
theorem objectBehind?_siblingMember? {member : Schema} (h : siblingMember? schema = some member) :
    objectBehind? registry stack member = .ok (some member) := by
  unfold siblingMember? at h
  split at h
  · cases h
    rfl
  · cases h

variable {allOf : List Schema}

theorem getElem?_of_mem_others {member : Schema × Nat}
    (h : member ∈ (sortMembers registry stack
      (allOf ++ (siblingMember? schema).toList).zipIdx).others) :
    allOf[member.2]? = some member.1 := by
  have hmember := mem_zipIdx_iff_getElem?.mp (mem_sortMembers_others h)
  rw [getElem?_append] at hmember
  split at hmember
  · exact hmember
  · -- the member that stands for the schema itself is an object, so it is not left over
    have hsibling := Option.mem_toList.mp (mem_of_getElem? hmember)
    have hnone := objectBehind?_of_mem_others h
    rw [objectBehind?_siblingMember? hsibling] at hnone
    cases hnone

/-- A part of a merged object is one of the schema itself, or comes from a member. -/
theorem visited_of_shape {shape part : Schema} (hallOf : schema.allOf = some allOf)
    (hlength : 2 ≤ (allOf ++ (siblingMember? schema).toList).length)
    (hshape : shape ∈ (sortMembers registry stack
      (allOf ++ (siblingMember? schema).toList).zipIdx).shapes) (h : ObjectPart shape segment part) :
    Visited registry schema segment part := by
  obtain ⟨member, hmember, hhas⟩ := mem_sortMembers_shapes hshape
  rw [mem_zipIdx_iff_getElem?, getElem?_append] at hmember
  split at hmember
  · exact .merged hallOf hlength hmember hhas.refersTo h
  · -- the member that stands for the schema itself is no reference, so it is its own shape
    have hsibling := Option.mem_toList.mp (mem_of_getElem? hmember)
    cases hhas with
    | plain => exact .object (h.of_sibling hsibling)
    | follow hpoints =>
      obtain ⟨ref, -, href, -⟩ := hpoints
      rw [ref_siblingMember? hsibling] at href
      cases href

theorem visited_of_mem_membersPlan {settings : Settings} (hallOf : schema.allOf = some allOf)
    (hlength : (allOf ++ (siblingMember? schema).toList).length ≠ 1)
    (h : part ∈ (membersPlan settings (sortMembers settings.registry context.stack
      (allOf ++ (siblingMember? schema).toList).zipIdx) context).parts) :
    ∃ segment, Visited settings.registry schema segment part.1 ∧
      part.2.location = context.location ++ "/" ++ segment := by
  rcases mem_append.mp h with h | h
  · obtain ⟨member, hmember, rfl⟩ := mem_map.mp h
    exact ⟨_, .allOf hallOf (getElem?_of_mem_others hmember), rfl⟩
  · split at h
    · cases h
    · obtain ⟨object, hobject, hpart⟩ := mem_flatMap.mp h
      rw [Option.mem_toList, Members.merged?] at hobject
      split at hobject
      · cases hobject
      · cases hobject
        obtain ⟨segment, hpart, hlocation⟩ := objectPart_of_mem hpart
        obtain ⟨shape, hshape, hpart⟩ := hpart.of_mergeObjects
        obtain ⟨member, hmember, -⟩ := mem_sortMembers_shapes hshape
        -- there is a member, and it is not the only one
        have hpositive := length_pos_of_mem (fst_mem_of_mem_zipIdx hmember)
        exact ⟨segment, visited_of_shape hallOf (by omega) hshape hpart, hlocation⟩

/-! ### Schemas -/

theorem getElem?_of_mem_memberParts {keyword : String} {members : List Schema}
    (h : part ∈ memberParts keyword members.zipIdx context) :
    ∃ index : Nat, members[index]? = some part.1 ∧
      part.2.location = context.location ++ "/" ++ (keyword ++ "/" ++ toString index) := by
  obtain ⟨member, hmember, rfl⟩ := mem_map.mp h
  exact ⟨member.2, mem_zipIdx_iff_getElem?.mp hmember, rfl⟩

variable {settings : Settings}

/-- What the conversion of a schema goes on with is converted under the location of the schema with
one more segment. -/
theorem visited_of_mem_plan (hnil : schema.allOf ≠ some [])
    (h : part ∈ (plan settings schema context).parts) :
    ∃ segment, Visited settings.registry schema segment part.1 ∧
      part.2.location = context.location ++ "/" ++ segment := by
  unfold plan at h
  split at h
  · rename_i allOf hallOf
    unfold allOfPlan at h
    split at h
    · rename_i member hmembers
      rw [mem_singleton.mp h]
      have hfirst : allOf[0]? = some member := by
        cases allOf with
        | nil => exact absurd hallOf hnil
        | cons first rest => simpa using (List.cons.inj hmembers).1
      exact ⟨_, .allOf hallOf hfirst, rfl⟩
    · rename_i hmany
      refine visited_of_mem_membersPlan hallOf (fun hlength => ?_) h
      obtain ⟨member, hmember⟩ := length_eq_one_iff.mp hlength
      exact hmany member hmember
  split at h
  · rename_i members hmembers
    obtain ⟨index, hindex, hlocation⟩ := getElem?_of_mem_memberParts h
    exact ⟨_, .oneOf hmembers hindex, hlocation⟩
  split at h
  · rename_i members hmembers
    obtain ⟨index, hindex, hlocation⟩ := getElem?_of_mem_memberParts h
    exact ⟨_, .anyOf hmembers hindex, hlocation⟩
  -- negations, constants, choices and unsupported types have no parts
  split at h
  · cases h
  split at h
  · cases h
  split at h
  · cases h
  split at h
  · cases h
  split at h
  · obtain ⟨segment, hpart, hlocation⟩ := objectPart_of_mem h
    exact ⟨segment, .object hpart, hlocation⟩
  split at h
  · obtain ⟨items, hitems, rfl⟩ := mem_map.mp h
    exact ⟨_, .items (Option.mem_toList.mp hitems), rfl⟩
  · cases h

/-- The warnings of a plan are about alternatives, a negation or a type. -/
theorem keyword_of_mem_notes {note : String × String}
    (h : note ∈ (plan settings schema context).notes) :
    note.1 = "anyOf" ∧ schema.anyOf.isSome = true ∨ note.1 = "not" ∧ schema.negated.isSome = true ∨
      note.1 = "type" ∧ schema.unsupportedType.isSome = true := by
  unfold plan at h
  split at h
  · unfold allOfPlan at h
    split at h <;> cases h
  split at h
  · change note ∈ (if schema.anyOf.isSome = true then [anyOfNote] else []) at h
    split at h
    · rename_i hanyOf
      rw [mem_singleton.mp h]
      exact .inl ⟨rfl, hanyOf⟩
    · cases h
  split at h
  · cases h
  split at h
  · rename_i hnegated
    rw [mem_singleton.mp h]
    exact .inr (.inl ⟨rfl, hnegated⟩)
  split at h
  · cases h
  split at h
  · cases h
  split at h
  · rename_i name hname
    rw [mem_singleton.mp h]
    exact .inr (.inr ⟨rfl, by rw [hname, Option.isSome_some]⟩)
  split at h
  · cases h
  split at h
  · cases h
  · cases h

end OpenApiClient.Conversion

namespace OpenApiClient

open List

open Conversion (Settings Progress Context Visited ObjectPart RefersTo)
open Document (SchemaAt Reported LeadsTo schemaLocation)
open Schema (Node)

variable {root : Entries}

/-! ### Named schemas -/

namespace Document

/-- Every warning about the named schemas is founded on something that stands in the document. -/
theorem readSchemas_founded (hroot : (Value.map root).Keyed) :
    Noted.All (Warning.Founded root .reading) (readSchemas root).run := by
  rcases readSchemas_cases root with ⟨components, schemas, hcomponents, hschemas⟩ | hnone
  · rw [readSchemas_eq hcomponents hschemas, Reading.run_lift]
    have hkeyed := (keyed_schemas hroot hcomponents hschemas).keys
    refine Noted.all_bind (Noted.all_bind (Noted.all_mapM fun entry hentry => ?_)
      (Noted.all_pure _)) (Noted.all_pure _)
    have hplace : SchemaAt root (schemaLocation entry.1.plain) entry.2 :=
      .named hcomponents hschemas (hkeyed.get?_of_mem hentry)
    exact Noted.all_bind (Schema.readAt_founded hroot _ _ _ _ hplace (.there _)) (Noted.all_pure _)
  · rw [hnone]
    exact Noted.all_pure _

/-- Every registered schema is the node at the place of its name. -/
theorem node_of_get? (hroot : (Value.map root).Keyed) {named : List (String × Schema)}
    {registry : Registry} (hnamed : (readSchemas root).run.value = .ok named)
    (hregistry : Registry.ofSchemas named = .ok registry) {name : String} {target : Schema}
    (h : registry.get? name = some target) : Node root (schemaLocation name) target := by
  rcases readSchemas_cases root with ⟨components, schemas, hcomponents, hschemas⟩ | hnone
  · rw [readSchemas_eq hcomponents hschemas, Reading.run_lift] at hnamed
    cases hnamed
    rw [Registry.get?_named (keyed_schemas hroot hcomponents hschemas).keys hregistry,
      Option.map_eq_some_iff] at h
    obtain ⟨raw, hraw, rfl⟩ := h
    exact .whole _ _ (.named hcomponents hschemas hraw)
  · rw [hnone] at hnamed
    cases hnamed
    have hmem := Registry.mem_schemas_of_get? h
    rw [(Registry.ofSchemas_ok hregistry).1] at hmem
    cases hmem

end Document

/-! ### Nodes that a conversion comes to -/

section Nodes

variable {registry : Registry} {schema : Schema} {place location : String}

theorem node_of_objectPart (hroot : (Value.map root).Keyed) (hnode : Node root place schema)
    {segment : String} {part : Schema} (h : ObjectPart schema segment part) :
    Node root (place ++ "/" ++ segment) part := by
  cases h with
  | property hproperty => exact (hnode.view hroot).property _ hproperty
  | additional hadditional => exact (hnode.view hroot).additional _ hadditional

/-- References lead from nodes to nodes. -/
theorem node_of_refersTo (hroot : (Value.map root).Keyed)
    (hregistry : ∀ name target, registry.get? name = some target →
      Node root (schemaLocation name) target)
    {member shape : Schema} (h : Relation.ReflTransGen (RefersTo registry) member shape)
    (hnode : Node root place member) :
    ∃ reached, LeadsTo root place reached ∧ Node root reached shape := by
  -- from the front, since the place of a schema is known only when its reference has been followed
  induction h using Relation.ReflTransGen.head_induction_on generalizing place with
  | refl => exact ⟨place, .here place, hnode⟩
  | head hrefers _ ih =>
    obtain ⟨ref, name, href, hname, hget⟩ := hrefers
    obtain ⟨raw, hplace, htext⟩ := (hnode.view hroot).ref ref href
    obtain ⟨segment, rfl, hslash, rfl, -⟩ := Registry.resolve_eq_ok_iff.mp hname
    obtain ⟨reached, hleads, hshape⟩ := ih (hregistry _ _ hget)
    exact ⟨reached, .follow hplace htext hslash hleads, hshape⟩

/-- A schema is a node of the document that is reported under a location. -/
def Standing (root : Entries) (schema : Schema) (location : String) : Prop :=
  ∃ place, Node root place schema ∧ Reported root .translating place location

theorem Standing.allOf_ne_nil (hroot : (Value.map root).Keyed) (h : Standing root schema location) :
    schema.allOf ≠ some [] := by
  obtain ⟨place, hnode, -⟩ := h
  exact fun hallOf => ((hnode.view hroot).allOf _ hallOf).1 rfl

/-- What the conversion of a node goes on with is a node again. -/
theorem Standing.visited (hroot : (Value.map root).Keyed)
    (hregistry : ∀ name target, registry.get? name = some target →
      Node root (schemaLocation name) target)
    {segment : String} {part : Schema} (h : Standing root schema location)
    (hvisited : Visited registry schema segment part) :
    Standing root part (location ++ "/" ++ segment) := by
  obtain ⟨place, hnode, hreported⟩ := h
  have hview := hnode.view hroot
  cases hvisited with
  | items hitems => exact ⟨_, hview.items _ hitems, hreported.part _⟩
  | object hpart => exact ⟨_, node_of_objectPart hroot hnode hpart, hreported.part _⟩
  | allOf hmembers hmember => exact ⟨_, (hview.allOf _ hmembers).2 _ _ hmember, hreported.part _⟩
  | oneOf hmembers hmember => exact ⟨_, hview.oneOf _ hmembers _ _ hmember, hreported.part _⟩
  | anyOf hmembers hmember =>
    obtain ⟨raw, hplace, ⟨-, hunder⟩ | ⟨htypes, hlength, hnodes⟩⟩ := hview.anyOf _ hmembers
    · exact ⟨_, hunder _ _ hmember, hreported.part _⟩
    · -- a member for one of several types stands where the schema itself does
      obtain ⟨hindex, -⟩ := List.getElem?_eq_some_iff.mp hmember
      exact ⟨place, hnodes _ (mem_of_getElem? hmember),
        hreported.typed hplace htypes (hlength ▸ hindex)⟩
  | merged hmembers hlength hmember hrefers hpart =>
    obtain ⟨raw, hplace, hmerges, hparts⟩ := hview.merges _ hmembers hlength
    obtain ⟨hindex, -⟩ := List.getElem?_eq_some_iff.mp hmember
    obtain ⟨value, hvalue⟩ := hparts _ hindex
    -- the part stands in the member, or in what the member refers to
    obtain ⟨reached, hleads, hshape⟩ := node_of_refersTo hroot hregistry hrefers
      ((hview.allOf _ hmembers).2 _ _ hmember)
    have hsegment : segment = "additionalProperties" ∨
        ∃ name, segment = "properties/" ++ Pointer.escape name := by
      cases hpart with
      | property => exact .inr ⟨_, rfl⟩
      | additional => exact .inl rfl
    exact ⟨_, node_of_objectPart hroot hshape hpart,
      hreported.merged rfl hplace hmerges hvalue hleads hsegment⟩

/-- A warning about a reference that leads nowhere is founded. -/
theorem Standing.aliased (hroot : (Value.map root).Keyed) {ref note : String}
    (h : Standing root schema location) (href : schema.ref = some ref) :
    Warning.Founded root .translating { message := note, keyword := "$ref", location } := by
  obtain ⟨place, hnode, hreported⟩ := h
  obtain ⟨raw, hplace, htext⟩ := (hnode.view hroot).ref ref href
  obtain ⟨value, hvalue, -⟩ := Option.bind_eq_some_iff.mp htext
  exact Warning.founded_of_carries hplace hreported (Entries.has_of_get? hvalue)

/-- The warnings of the plan for a node are founded. -/
theorem Standing.planned (hroot : (Value.map root).Keyed) {settings : Settings} {context : Context}
    {note : String × String} (h : Standing root schema context.location)
    (hnote : note ∈ (Conversion.plan settings schema context).notes) :
    Warning.Founded root .translating
      { message := note.2, keyword := note.1, location := context.location } := by
  obtain ⟨place, hnode, hreported⟩ := h
  have hview := hnode.view hroot
  rcases Conversion.keyword_of_mem_notes hnote with ⟨hkeyword, hsome⟩ | ⟨hkeyword, hsome⟩ |
    ⟨hkeyword, hsome⟩
  · obtain ⟨members, hmembers⟩ := Option.isSome_iff_exists.mp hsome
    obtain ⟨raw, hplace, ⟨hhas, -⟩ | ⟨htypes, -⟩⟩ := hview.anyOf members hmembers
    · exact Warning.founded_of_carries hplace hreported (hkeyword ▸ hhas)
    · exact ⟨place, .map raw, hplace, hplace.resolve, .inr ⟨raw, rfl, htypes, hkeyword⟩, hreported⟩
  · obtain ⟨value, hplace, hcarries⟩ := hview.negated hsome
    exact Warning.founded_of_carries hplace hreported (hkeyword ▸ hcarries)
  · obtain ⟨raw, hplace, hhas⟩ := hview.unsupported hsome
    exact Warning.founded_of_carries hplace hreported (hkeyword ▸ hhas)

end Nodes

/-! ### Warnings of conversions -/

namespace Conversion

/-- What conversions respect that add warnings of some kind only. -/
def recording (base : List Warning) (allowed : Warning → Prop) : Contract Progress where
  inv progress := ∃ added, progress.warnings = base ++ added ∧ ∀ warning ∈ added, allowed warning
  grows _ _ := True
  fault _ := True
  refl _ := trivial
  trans _ _ := trivial

variable {base : List Warning} {allowed : Warning → Prop} {settings : Settings}

theorem recording_allows : Allows (recording base allowed) allowed := by
  rintro first second - ⟨added, hadded, hall⟩ ⟨before, hbefore, hallowed⟩
  refine ⟨⟨before ++ added, ?_, fun warning hwarning => ?_⟩, trivial⟩
  · rw [hadded, hbefore, append_assoc]
  · exact (mem_append.mp hwarning).elim (hallowed warning) (hall warning)

/-- All warnings of conversions are of some kind if those of plans and references are. -/
theorem recording_laws (base : List Warning) {fits : Schema → Context → Prop}
    (hpart : ∀ {schema context part}, fits schema context →
      part ∈ (plan settings schema context).parts → fits part.1 part.2)
    (henter : ∀ {name target} (context : Context), settings.registry.get? name = some target →
      fits target (context.push name))
    (hplanned : ∀ {schema context note}, fits schema context →
      note ∈ (plan settings schema context).notes →
      allowed { message := note.2, keyword := note.1, location := context.location })
    (haliased : ∀ {schema context ref note}, fits schema context → schema.ref = some ref →
      allowed { message := note, keyword := "$ref", location := context.location }) :
    NotedLaws settings (recording base allowed) allowed (fun _ => fits)
      (fun _ _ _ _ _ => True) where
  notes := recording_allows
  planned := fun hfits _ hnote => hplanned hfits hnote
  aliased := fun hfits href => haliased hfits href
  part := fun hfits _ hmem => hpart hfits hmem
  enter := fun {_ _ context _ _ _} _ _ _ _ hget => henter context hget
  declare := fun _ _ hinv _ => ⟨hinv, trivial⟩
  stable := fun _ _ => trivial
  exhausted := fun _ => trivial
  stop := fun _ _ _ => trivial
  build := fun _ _ _ _ => trivial
  unresolved := fun _ _ _ => trivial
  unregistered := fun _ _ _ => trivial
  unknown := fun _ _ _ _ _ => trivial
  lazy := fun _ _ _ _ _ => trivial
  named := fun _ _ _ _ _ _ => trivial

end Conversion

/-- Declaring the schemas of a document adds founded warnings. -/
theorem declareAll_founded (hroot : (Value.map root).Keyed) {named : List (String × Schema)}
    {settings : Settings} (hnamed : (Document.readSchemas root).run.value = .ok named)
    (hregistry : Registry.ofSchemas named = .ok settings.registry) (base : List Warning) :
    (Conversion.recording base (Warning.Founded root .translating)).Keeps
      (Conversion.declareAll settings) (fun _ _ => True) { warnings := base } := by
  have hnodes : ∀ name target, settings.registry.get? name = some target →
      Node root (schemaLocation name) target :=
    fun _ _ hget => Document.node_of_get? hroot hnamed hregistry hget
  have henter : ∀ {name : String} {target : Schema} (context : Context),
      settings.registry.get? name = some target →
      Standing root target (context.push name).location :=
    fun _ hget => ⟨_, hnodes _ _ hget, .there _⟩
  have hpart : ∀ {schema : Schema} {context : Context} {part : Schema × Context},
      Standing root schema context.location →
      part ∈ (Conversion.plan settings schema context).parts →
      Standing root part.1 part.2.location := by
    intro schema context part hstanding hpart
    obtain ⟨segment, hvisited, hlocation⟩ :=
      Conversion.visited_of_mem_plan (hstanding.allOf_ne_nil hroot) hpart
    exact hlocation ▸ hstanding.visited hroot hnodes hvisited
  have hlaws := @Conversion.recording_laws (Warning.Founded root .translating) settings base
    (fun schema context => Standing root schema context.location) hpart henter
    (fun hstanding hnote => hstanding.planned hroot hnote)
    (fun hstanding href => hstanding.aliased hroot href)
  exact hlaws.declareAll_keeps (fun _ _ hget => henter {} hget) ⟨[], by simp⟩

/-- Binding the endpoints of a document adds warnings to those there are. -/
theorem bindAll_records (settings : Settings) (operations : List Operation) (progress : Progress) :
    (Conversion.recording progress.warnings fun _ => True).Keeps
      (Endpoint.bindAll settings operations) (fun _ _ => True) progress := by
  have hlaws := @Conversion.recording_laws (fun _ => True) settings progress.warnings
    (fun _ _ => True) (fun _ _ => trivial) (fun _ _ => trivial) (fun _ _ => trivial)
    (fun _ _ => trivial)
  have hbindable : Endpoint.Bindable settings (Conversion.recording progress.warnings fun _ => True)
      (fun _ _ => True) (operations.flatMap (·.schemas)) :=
    { notes := fun first second hsame hadded => Conversion.recording_allows first second hsame
        (hadded.imp fun _ => .imp_right fun _ _ _ => trivial)
      fault := trivial
      stable := fun _ _ _ _ _ => trivial
      unknown := fun _ _ => trivial
      void := fun _ => trivial
      convert := fun schema _ context _ state hstate =>
        hlaws.convertAt_keeps _ schema context state trivial hstate }
  exact (Endpoint.bindAll_keeps hbindable progress ⟨[], by simp⟩).mono fun _ _ _ _ _ => trivial

/-- In a document in JSON that is compiled, every warning about the named schemas, be it from
reading or from converting them, is founded on a schema that has the keyword and on the location of
its place. If no schema lists several types or merges the members of an `allOf`, the location is a
pointer to the schema that has the keyword. -/
theorem warnings_founded (text : String) (root : Entries) (version : Option String)
    (document : Document) (config : Config) (compiled : Compiled)
    (htext : Json.read text = .ok (.map root))
    (hdocument : Document.ofEntries root version = .ok document)
    (hcompiled : (document.compile config).result.1 = .ok compiled) :
    ∃ before after translated bound,
      document.warnings = before ++ (Document.readSchemas root).run.warnings ++ after ∧
      (outcome (Conversion.declareAll (document.settings config))
        { warnings := document.warnings }).2.warnings = document.warnings ++ translated ∧
      compiled.warnings = document.warnings ++ translated ++ bound ∧
      (∀ warning ∈ (Document.readSchemas root).run.warnings, warning.Founded root .reading) ∧
      (∀ warning ∈ translated, warning.Founded root .translating) ∧
      ((∀ place (raw : Entries), SchemaAt root place (.map raw) →
          ¬ raw.ListsTypes ∧ ¬ raw.Merges) →
        ∀ warning ∈ (Document.readSchemas root).run.warnings ++ translated,
          ∃ value, Pointer.resolve (.map root) warning.location = .ok value ∧
            value.Carries warning.keyword) := by
  have hroot := Json.read_keyed htext
  rw [compile_result] at hcompiled
  obtain ⟨stages, order, progress, -, hbound, -, hwarnings⟩ := stages_of_compiled hcompiled
  obtain ⟨hschemas, before, after, hdocument⟩ := Document.ofEntries_eq_ok hdocument
  obtain ⟨⟨translated, htranslated, hfounded⟩, -⟩ :=
    (@declareAll_founded root hroot document.schemas stages.settings hschemas stages.registered
      document.warnings).ok stages.complete
  -- binding starts without records, but from the warnings there are
  obtain ⟨⟨bound, hbound, -⟩, -⟩ := (bindAll_records stages.settings document.operations
    { stages.declared with records := [] }).ok hbound
  have hread := Document.readSchemas_founded hroot
  refine ⟨before, after, translated, bound, hdocument, ?_, ?_, hread, hfounded, ?_⟩
  · rw [← stages.settings_eq]
    exact (congrArg (·.2.warnings) stages.complete).trans htranslated
  · rw [hwarnings, hbound]
    exact congrArg (· ++ bound) htranslated
  · intro hplain warning hwarning
    rcases mem_append.mp hwarning with hwarning | hwarning
    · exact (hread warning hwarning).resolve hplain
    · exact (hfounded warning hwarning).resolve hplain

/-- A schema that is merged into another, with a negation, and with a property that lists types. -/
def mergedText : String :=
  "\x7b\"components\": \x7b\"schemas\": \x7b\"A\": \x7b\"allOf\": " ++
    "[\x7b\"$ref\": \"#/components/schemas/B\"\x7d, \x7b\"type\": \"object\"\x7d]\x7d, " ++
    "\"B\": \x7b\"type\": \"object\", \"properties\": \x7b\"x\": \x7b\"not\": \x7b\x7d\x7d, " ++
    "\"y\": \x7b\"type\": [\"string\", \"integer\"], \"minLength\": -1\x7d\x7d\x7d\x7d\x7d\x7d"

theorem warnings_founded_mergedText :
    ∃ root document, ∃ compiled : Compiled, Json.read mergedText = .ok (.map root) ∧
      Document.ofEntries root none = .ok document ∧
      (document.compile {}).result.1 = .ok compiled ∧
      ∃ warning ∈ compiled.warnings, warning.keyword = "not" ∧
        warning.location = "#/components/schemas/A/properties/x" ∧
        (∀ value, Pointer.resolve (.map root) warning.location ≠ .ok value) ∧
        warning.Founded root .translating := by
  have hall : (do
      let value ← (Json.read mergedText).toOption
      let root ← (Document.requireMapping value).toOption
      let document ← (Document.ofEntries root none).toOption
      let _ ← (document.compile {}).result.1.toOption
      let declared := outcome (Conversion.declareAll (document.settings {}))
        { warnings := document.warnings }
      let warning ← (declared.2.warnings.drop document.warnings.length).head?
      guard (Pointer.resolve (.map root) "#/components/schemas/A/properties/x").toOption.isNone
      return (warning.keyword, warning.location) : Option (String × String)) =
      some ("not", "#/components/schemas/A/properties/x") := by
    decide +kernel
  obtain ⟨root, htext, hrest⟩ := Document.exists_of_read_bind hall
  obtain ⟨document, hdocument, hrest⟩ := exists_ok_of_bind hrest
  obtain ⟨compiled, hcompiled, hrest⟩ := exists_ok_of_bind hrest
  obtain ⟨warning, hwarning, hrest⟩ := Option.bind_eq_some_iff.mp hrest
  obtain ⟨⟨⟩, hresolve, hreported⟩ := Option.bind_eq_some_iff.mp hrest
  obtain ⟨before, after, translated, bound, -, htranslated, hwarnings, -, hfounded, -⟩ :=
    warnings_founded mergedText root none document {} compiled htext hdocument hcompiled
  obtain ⟨hkeyword, hlocation⟩ := Prod.mk.inj (Option.some.inj hreported)
  rw [htranslated, drop_left] at hwarning
  have hmem : warning ∈ translated := mem_of_mem_head? hwarning
  have hnone : ∀ value, Pointer.resolve (.map root) warning.location ≠ .ok value := by
    rintro value hvalue
    rw [← hlocation, hvalue] at hresolve
    cases hresolve
  refine ⟨root, document, compiled, htext, hdocument, hcompiled, warning, ?_, hkeyword, hlocation,
    hnone, hfounded warning hmem⟩
  rw [hwarnings]
  exact mem_append_left _ (mem_append_right _ hmem)

end OpenApiClient
