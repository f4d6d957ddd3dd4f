import OpenApiClient.Config.Layers
import OpenApiClient.Proofs.Json.Plain
import OpenApiClient.Proofs.Outcome

/-!
# Which layer of a configuration counts

The layers are put over each other before they are checked. So of the values that they have for a
field only the highest one is looked at, and one that the field cannot have is let pass under it
(`resolve_layers`). Two things are seen wherever they stand: a key that is no field, and a variable
for a flag that holds no truth value.
-/

namespace OpenApiClient.Config

open Entries List

variable {environment : List (String × String)} {project options entries : Entries} {field : String}

/-! ### Layers over each other -/

theorem get?_override {higher : Entries} (h : higher.Keyed) (lower : Entries) (name : String) :
    get? (override lower higher) name =
      (get? higher name).or (get? lower name) := by
  unfold override
  induction higher generalizing lower with
  | nil => rfl
  | cons entry rest ih =>
    obtain ⟨⟨key, hkey⟩, htext⟩ := forall_mem_cons.mp h.text
    obtain ⟨hnew, hnodup⟩ := nodup_cons.mp h.nodup
    rw [foldl_cons, ih ⟨htext, hnodup⟩, hkey, get?_insert]
    simp only [get?, Named.lookup_cons_ite, hkey, Scalar.text.injEq]
    split
    · rename_i hname
      -- keys are unique, so no later entry is put over this one
      have hnone : rest.lookup (.text name) = none := by
        refine Option.eq_none_iff_forall_ne_some.mpr fun value hvalue => hnew ?_
        exact mem_map.mpr ⟨_, Named.mem_of_lookup hvalue, by simp [hkey, hname]⟩
      rw [hnone, Option.none_or, Option.some_or]
    · rfl

theorem keyed_override {lower higher : Entries} (hlower : lower.Keyed)
    (hhigher : ∀ entry ∈ higher, ∃ name, entry.1 = .text name) : (override lower higher).Keyed := by
  unfold override
  induction higher generalizing lower with
  | nil => exact hlower
  | cons entry rest ih =>
    obtain ⟨⟨key, hkey⟩, hrest⟩ := forall_mem_cons.mp hhigher
    rw [foldl_cons, hkey]
    exact ih (Json.insert_keyed hlower key entry.2) hrest

theorem keyed_commandLayer (h : options.Keyed) : (commandLayer options).Keyed :=
  ⟨fun entry hentry => h.text entry (mem_of_mem_filter hentry),
    (filter_sublist.map _).nodup h.nodup⟩

theorem keyed_projectLayer {tree : File.Tree} {directory : File.Path} {layer : Option Entries}
    (h : projectLayer tree directory = .ok layer) : (layer.getD []).Keyed := by
  unfold projectLayer at h
  dsimp only at h
  split at h
  · cases h
  · cases h
    exact ⟨by simp, by simp⟩
  · split at h
    · cases h
    · split at h
      · cases h
      · rename_i hread
        cases h
        exact (Json.read_keyed hread).keys
      · cases h

/-! ### The environment -/

section Environment

variable (environment : List (String × String)) (field : String)

/-- What the environment says about a field, if its variable is not empty. -/
def environmentValue? : Option Value :=
  ((environment.lookup (variableName field)).filter (· ≠ "")).bind fun value =>
    (variableValue field value).toOption

/-- The variable for a flag holds a text that is no truth value. -/
def Unreadable : Prop :=
  field ∈ flagNames ∧ ∃ value, environment.lookup (variableName field) = some value ∧ value ≠ "" ∧
    variableTruth? value = none

/-- The entries that the environment has for all fields. -/
def environmentEntries : Entries :=
  fieldNames.filterMap fun field => (environmentValue? environment field).map (.text field, ·)

theorem environmentEntry_cases :
    Unreadable environment field ∧ (∃ error, environmentEntry environment field = .error error) ∨
      ¬ Unreadable environment field ∧ environmentEntry environment field =
        .ok ((environmentValue? environment field).map (.text field, ·)).toList := by
  unfold environmentEntry environmentValue? Unreadable
  cases environment.lookup (variableName field) with
  | none => simp
  | some value =>
    by_cases hempty : value = ""
    · simp [hempty]
    · unfold variableValue
      by_cases hflag : field ∈ flagNames
      · cases htruth : variableTruth? value <;>
          simp [hempty, hflag, htruth, bind, Except.bind, pure, Except.pure, Except.toOption,
            Option.filter]
      · simp [hempty, hflag, bind, Except.bind, pure, Except.pure, Except.toOption, Option.filter]

theorem environmentLayer_cases :
    (∃ field, Unreadable environment field) ∧
        (∃ error, environmentLayer environment = .error error) ∨
      (∀ field, ¬ Unreadable environment field) ∧
        environmentLayer environment = .ok (environmentEntries environment) := by
  by_cases hreadable : ∃ field, Unreadable environment field
  · refine .inl ⟨hreadable, ?_⟩
    obtain ⟨field, hfield⟩ := hreadable
    cases hlayer : environmentLayer environment with
    | error error => exact ⟨error, rfl⟩
    | ok layer =>
      -- then there are entries for all fields, but none can be made for this one
      obtain ⟨parts, hparts, -⟩ := bind_eq_ok.mp hlayer
      have hentries := (eq_map_of_mapM (fun field found hfound => (by rw [hfound]; rfl :
        (environmentEntry environment field).toOption.getD [] = found)) hparts).2 field
          (mem_append_left _ hfield.1)
      rcases environmentEntry_cases environment field with ⟨-, error, herror⟩ | ⟨hreadable, -⟩
      · cases hentries.symm.trans herror
      · exact absurd hfield hreadable
  · rw [not_exists] at hreadable
    refine .inr ⟨hreadable, ?_⟩
    have hparts : fieldNames.mapM (environmentEntry environment) = .ok (fieldNames.map fun field =>
        ((environmentValue? environment field).map (.text field, ·)).toList) := by
      rw [mapM_eq_ok_iff, forall₂_map_right_iff, forall₂_same]
      exact fun field _ =>
        ((environmentEntry_cases environment field).resolve_left fun h => hreadable field h.1).2
    rw [environmentLayer, hparts, environmentEntries, filterMap_eq_flatMap_toList]
    rfl

theorem keyed_environmentEntries : (environmentEntries environment).Keyed := by
  refine ⟨fun entry hentry => ?_, ?_⟩
  · obtain ⟨field, -, hfield⟩ := mem_filterMap.mp hentry
    obtain ⟨value, -, rfl⟩ := Option.map_eq_some_iff.mp hfield
    exact ⟨field, rfl⟩
  · rw [environmentEntries, map_filterMap]
    refine Nodup.filterMap ?_ (by decide)
    simp only [Option.map_map, Option.mem_def, Option.map_eq_some_iff]
    rintro field other _ ⟨_, -, rfl⟩ ⟨_, -, hother⟩
    exact (Scalar.text.inj hother).symm

theorem get?_environmentEntries : get? (environmentEntries environment) field =
      if field ∈ fieldNames then environmentValue? environment field else none := by
  ext value
  rw [get?, Named.lookup_iff_mem (keyed_environmentEntries environment).nodup,
    environmentEntries, mem_filterMap]
  split <;> simp_all

end Environment

/-! ### Fields -/

/-- The fields of a configuration with their values. -/
def values (config : Config) : List (String × Value) :=
  [("strict_objects", .bool config.strictObjects),
   ("with_default_values", .bool config.withDefaultValues),
   ("exclude_deprecated", .bool config.excludeDeprecated),
   ("export_schemas", .bool config.exportSchemas), (clientNameField, .text config.clientName)]

/-- What a value stands for in a field, if it has the right type. -/
def typed? (field : String) (value : Value) : Option Value :=
  if field = clientNameField then (Field.text? value).map .text
  else (Field.truth value).toOption.map .bool

/-- Whether a text can be the name of a client. -/
def isUsable : Value → Bool
  | .text name => Source.isClientName name
  | _ => true

/-- What a value stands for in a field that can have it. -/
def accepted? (field : String) (value : Value) : Option Value :=
  (typed? field value).filter isUsable

/-- What a mapping says about a field, or what is usual. -/
def stated (value : Option Value) (field : String) : Value :=
  value.getD ((({} : Config).values.lookup field).getD .null)

/-- An entry is valid if its key is a field, and the type of its value that of the field. -/
theorem invalidEntry?_eq_none_iff {entry : Scalar × Value} :
    invalidEntry? entry = none ↔ ∃ field ∈ fieldNames, entry.1 = .text field ∧
      (typed? field entry.2).isSome = true := by
  obtain ⟨key, value⟩ := entry
  cases key with
  | text field =>
    by_cases hflag : field ∈ flagNames
    · have hname : field ≠ clientNameField := by
        rintro rfl
        exact absurd hflag (by decide)
      cases htruth : Field.truth value <;>
        simp [fieldNames, invalidEntry?, typed?, hflag, hname, htruth, Except.toOption]
    · by_cases hname : field = clientNameField
      · subst hname
        cases htext : Field.text value <;>
          simp [fieldNames, invalidEntry?, typed?, hflag, Field.text?, htext, Except.toOption]
      · simp [fieldNames, invalidEntry?, hflag, hname]
  | _ => simp [ invalidEntry?]

theorem valid_of_ofEntries {config : Config} (h : ofEntries entries = .ok config) :
    ∀ entry ∈ entries, invalidEntry? entry = none := by
  unfold ofEntries at h
  split at h
  · rename_i hnil
    exact filterMap_eq_nil_iff.mp hnil
  · cases h

theorem exists_invalid {invalid : List InvalidField} (h : ofEntries entries = .error invalid) :
    ∃ entry ∈ entries, invalidEntry? entry ≠ none := by
  by_contra hnone
  simp only [not_exists, not_and, not_not] at hnone
  rw [ofEntries, filterMap_eq_nil_iff.mpr hnone] at h
  cases h

/-- The fields of a configuration are what the values of a mapping stand for. -/
theorem values_of_ofEntries {config : Config} (h : ofEntries entries = .ok config) :
    ∀ entry ∈ config.values,
      typed? entry.1 (stated (get? entries entry.1) entry.1) = some entry.2 := by
  -- every value that is given has the right type, or the mapping would be refused
  have htyped : ∀ field value, get? entries field = some value →
      ∃ found, typed? field value = some found := by
    intro field value hvalue
    obtain ⟨other, -, hkey, hvalid⟩ := invalidEntry?_eq_none_iff.mp
      (valid_of_ofEntries h _ (mem_of_get? hvalue))
    cases hkey
    exact Option.isSome_iff_exists.mp hvalid
  have hflag : ∀ field, field ≠ clientNameField → ∀ usual, typed? field
      ((get? entries field).getD (.bool usual)) = some (.bool (flag entries field usual)) := by
    intro field hfield usual
    unfold flag
    cases hvalue : get? entries field with
    | none => simp [typed?, hfield, Field.truth, Except.toOption]
    | some value =>
      obtain ⟨found, hfound⟩ := htyped field value hvalue
      rw [typed?, if_neg hfield] at hfound
      obtain ⟨truth, htruth, -⟩ := Option.map_eq_some_iff.mp hfound
      simp [typed?, hfield, eq_ok_of_toOption htruth, Except.toOption]
  unfold ofEntries at h
  split at h
  · cases h
    simp only [values, forall_mem_cons, not_mem_nil, false_implies, implies_true, and_true]
    refine ⟨hflag _ (by decide) _, hflag _ (by decide) _, hflag _ (by decide) _,
      hflag _ (by decide) _, ?_⟩
    cases hvalue : get? entries clientNameField with
    | none => rfl
    | some value =>
      obtain ⟨found, hfound⟩ := htyped _ value hvalue
      obtain ⟨name, hname, -⟩ := Option.map_eq_some_iff.mp hfound
      simp [stated, typed?, hname]
  · cases h

/-! ### All layers -/

section Layers

variable (project : Entries) (environment : List (String × String)) (options : Entries)

/-- The value of the highest layer that sets a field: an option that has a value, a variable that is
not empty, the project file, and what is usual. -/
def highest (field : String) : Value :=
  stated ((get? (commandLayer options) field).or
    ((environmentValue? environment field).or (get? project field))) field

/-- Why a configuration is rejected. -/
inductive Rejected : Prop
  | unreadable {field : String} : Unreadable environment field → Rejected
  | unknown {field : String} : field ∉ fieldNames →
      (has project field || has (commandLayer options) field) = true → Rejected
  | value {field : String} : field ∈ fieldNames →
      accepted? field (highest project environment options field) = none → Rejected

/-- All layers in one mapping. -/
def merged : Entries :=
  override (override project (environmentEntries environment)) (commandLayer options)

end Layers

section Merged

variable (hoptions : options.Keyed)

include hoptions

theorem get?_merged : get? (merged project environment options) field =
    (get? (commandLayer options) field).or
      ((if field ∈ fieldNames then environmentValue? environment field else none).or
        (get? project field)) := by
  rw [merged, get?_override (keyed_commandLayer hoptions),
    get?_override (keyed_environmentEntries environment), get?_environmentEntries]

theorem highest_eq (hfield : field ∈ fieldNames) : highest project environment options field =
    stated (get? (merged project environment options) field) field := by
  rw [get?_merged hoptions, if_pos hfield, highest]

theorem has_merged (hfield : field ∉ fieldNames) :
    has (merged project environment options) field =
      (has project field || has (commandLayer options) field) := by
  rw [has, get?_merged hoptions, if_neg hfield, Option.none_or, Option.isSome_or, Bool.or_comm]
  rfl

/-- An entry that a layer should not have leads to a rejection. -/
theorem rejected_of_invalid (hproject : project.Keyed) {entry : Scalar × Value}
    (hentry : entry ∈ merged project environment options) (hinvalid : invalidEntry? entry ≠ none) :
    Rejected project environment options := by
  have hkeyed : (merged project environment options).Keyed :=
    keyed_override (keyed_override hproject (keyed_environmentEntries environment).text)
      (keyed_commandLayer hoptions).text
  obtain ⟨key, value⟩ := entry
  obtain ⟨field, rfl⟩ := hkeyed.text _ hentry
  have hvalue : get? (merged project environment options) field = some value :=
    (Named.lookup_iff_mem hkeyed.nodup).mpr hentry
  by_cases hfield : field ∈ fieldNames
  · refine .value hfield ?_
    rw [highest_eq hoptions hfield, hvalue, accepted?, Option.filter_eq_none_iff]
    intro found hfound
    exact absurd (invalidEntry?_eq_none_iff.mpr
      ⟨field, hfield, rfl, Option.isSome_of_eq_some hfound⟩) hinvalid
  · refine .unknown hfield ?_
    rw [← has_merged hoptions hfield, has, hvalue, Option.isSome_some]

/-- A configuration that all layers give together has what the highest layers say. -/
theorem not_rejected {config : Config} (hreadable : ∀ field, ¬ Unreadable environment field)
    (hentries : ofEntries (merged project environment options) = .ok config)
    (hvalues : ∀ entry ∈ config.values,
      accepted? entry.1 (highest project environment options entry.1) = some entry.2) :
    ¬ Rejected project environment options := by
  intro hrejected
  cases hrejected with
  | unreadable hunreadable => exact hreadable _ hunreadable
  | unknown hfield hlayers =>
    rw [← has_merged hoptions hfield] at hlayers
    obtain ⟨value, hvalue⟩ := Option.isSome_iff_exists.mp hlayers
    obtain ⟨field, hknown, hkey, -⟩ := invalidEntry?_eq_none_iff.mp
      (valid_of_ofEntries hentries _ (mem_of_get? hvalue))
    exact hfield (Scalar.text.inj hkey ▸ hknown)
  | value hfield hnone =>
    obtain ⟨entry, hentry, rfl⟩ : ∃ entry ∈ config.values, entry.1 = _ := mem_map.mp hfield
    cases hnone.symm.trans (hvalues entry hentry)

end Merged

/-- A configuration is rejected for a variable that cannot be read, for a key that is no field, and
for what the highest layer that sets a field says about it. Otherwise each field is what that layer
says, whatever the layers below it say. -/
theorem resolve_layers {tree : File.Tree} {directory : File.Path} {project : Option Entries}
    (hproject : projectLayer tree directory = .ok project) (hoptions : options.Keyed)
    (environment : List (String × String)) :
    Rejected (project.getD []) environment options ∧
        (∃ error, resolve tree directory environment options = .error (.config error)) ∨
      ¬ Rejected (project.getD []) environment options ∧
        ∃ config, resolve tree directory environment options = .ok config ∧
          ∀ entry ∈ config.values,
            accepted? entry.1 (highest (project.getD []) environment options entry.1) =
              some entry.2 := by
  have hkeyed := keyed_projectLayer hproject
  rw [resolve, hproject]
  rcases environmentLayer_cases environment with
    ⟨⟨field, hunreadable⟩, error, hlayer⟩ | ⟨hreadable, hlayer⟩
  · rw [hlayer]
    exact .inl ⟨.unreadable hunreadable, error, rfl⟩
  · rw [hlayer]
    simp only [bind, Except.bind, Except.mapError]
    rw [← merged]
    cases hentries : ofEntries (merged (project.getD []) environment options) with
    | error invalid =>
      obtain ⟨entry, hentry, hinvalid⟩ := exists_invalid hentries
      exact .inl ⟨rejected_of_invalid hoptions hkeyed hentry hinvalid, _, rfl⟩
    | ok config =>
      have htyped : ∀ entry ∈ config.values,
          accepted? entry.1 (highest (project.getD []) environment options entry.1) =
            (some entry.2).filter isUsable := by
        intro entry hentry
        rw [accepted?, highest_eq hoptions (mem_map_of_mem hentry),
          values_of_ofEntries hentries entry hentry]
      -- every field has the right type; what is left to check is the name of the client
      dsimp only
      by_cases hname : Source.isClientName config.clientName = true
      · have hvalues : ∀ entry ∈ config.values,
            accepted? entry.1 (highest (project.getD []) environment options entry.1) =
              some entry.2 := by
          intro entry hentry
          have husable : ∀ entry ∈ config.values, isUsable entry.2 = true := by
            simp [values, isUsable, hname]
          rw [htyped entry hentry, Option.filter_some, if_pos (husable entry hentry)]
        rw [if_pos hname]
        exact .inr ⟨not_rejected hoptions hreadable hentries hvalues, config, rfl, hvalues⟩
      · rw [if_neg hname]
        refine .inl ⟨.value (mem_append_right _ mem_cons_self) ?_, _, rfl⟩
        rw [htyped (clientNameField, .text config.clientName) (by simp [values])]
        simp [isUsable, hname]

/-- A project file with a text under a flag that stands for no truth value. -/
def doubtful : File.Tree :=
  ({} : File.Tree).addFile [projectFileName]
    ("\x7b\"strict_objects\": \"maybe\"\x7d".toList.map fun c => c.toNat.toUInt8)

theorem resolve_layers_doubtful : ∃ project value config,
    projectLayer doubtful {} = .ok (some project) ∧
      Entries.get? project "strict_objects" = some value ∧ accepted? "strict_objects" value = none ∧
      resolve doubtful {} [] [(.text "strict_objects", .bool true)] = .ok config ∧
      config.strictObjects = true := by
  have hlayers : ((projectLayer doubtful {}).toOption.bind fun layer => layer.bind fun project =>
      (Entries.get? project "strict_objects").map fun value =>
        (accepted? "strict_objects" value).isNone) = some true := by
    decide +kernel
  have hresolve : (resolve doubtful {} [] [(.text "strict_objects", .bool true)]).toOption.map
      strictObjects = some true := by
    decide +kernel
  obtain ⟨layer, hlayer, hrest⟩ := exists_ok_of_bind hlayers
  obtain ⟨project, rfl, hproject⟩ := Option.bind_eq_some_iff.mp hrest
  obtain ⟨value, hvalue, hnone⟩ := Option.map_eq_some_iff.mp hproject
  rcases resolve_layers hlayer (⟨by simp, by simp⟩ :
      Entries.Keyed [(.text "strict_objects", .bool true)]) [] with
    ⟨-, error, herror⟩ | ⟨-, config, hconfig, -⟩
  · rw [herror] at hresolve
    cases hresolve
  · rw [hconfig] at hresolve
    exact ⟨project, value, config, hlayer, hvalue, Option.isNone_iff_eq_none.mp hnone, hconfig,
      Option.some.inj hresolve⟩

end OpenApiClient.Config
