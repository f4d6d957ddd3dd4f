import OpenApiClient.Proofs.Document.Reader
import OpenApiClient.Proofs.Json.Plain

/-!
# What keeps a document from being read

Most of what is wrong with a document is passed over or reported. Two things are neither: a record
with an annotation that is no text, and a parameter whose name or place is no scalar, since the
parameters of a path and those of an operation are told apart by them.

`Document.Misread` says where in a document these stand, without following how it is read, and
`Document.ofEntries_judged` that it is exactly these that let reading fail unexpectedly: the fault
is that of a flaw of the document, and a document that is read has no flaw. Which of several flaws
is met first, or whether another failure is met before them, is left open.
-/

namespace OpenApiClient

open List Operation Parameter Reading

/-! ### Flaws and results -/

/-- A result is an unexpected fault only if there is such a flaw, or if something does not end, and
there are no flaws if it is a value. Nothing is said about failures that are expected. -/
structure Judged {α : Type} (result : Except Failure α) (flaw : Fault → Prop) : Prop where
  sound : ∀ fault, result = .error (.unexpected fault) → fault = .endless ∨ flaw fault
  complete : ∀ value, result = .ok value → ∀ fault, ¬flaw fault

namespace Judged

variable {α β : Type} {result : Except Failure α} {flaw : Fault → Prop}

theorem ok {value : α} (h : ∀ fault, ¬flaw fault) : Judged (.ok value) flaw where
  sound _ heq := by cases heq
  complete _ _ := h

theorem flawless {value : α} : Judged (.ok value) fun _ => False := .ok fun _ h => h

theorem unexpected {fault : Fault} (h : flaw fault) :
    Judged (.error (.unexpected fault) : Except Failure α) flaw where
  sound _ heq := by cases heq; exact .inr h
  complete _ heq := by cases heq

theorem congr {other : Fault → Prop} (h : Judged result flaw)
    (hflaw : ∀ fault, flaw fault ↔ other fault) : Judged result other where
  sound fault heq := (h.sound fault heq).imp_right (hflaw fault).mp
  complete value heq fault hother := h.complete value heq fault ((hflaw fault).mpr hother)

/-- What is done one after the other has the flaws of both. -/
theorem bind {next : α → Except Failure β} {later : Fault → Prop} (h : Judged result flaw)
    (hnext : ∀ value, result = .ok value → Judged (next value) later) :
    Judged (result >>= next) fun fault => flaw fault ∨ later fault where
  sound fault heq := by
    rcases bind_eq_error.mp heq with hfirst | ⟨value, hvalue, hlater⟩
    · exact (h.sound fault hfirst).imp_right .inl
    · exact ((hnext value hvalue).sound fault hlater).imp_right .inr
  complete last heq fault := by
    obtain ⟨value, hvalue, hlast⟩ := bind_eq_ok.mp heq
    rintro (hfirst | hlater)
    · exact h.complete value hvalue fault hfirst
    · exact (hnext value hvalue).complete last hlast fault hlater

/-- What comes after something without flaws has its own. -/
theorem after {next : α → Except Failure β} (h : Judged result fun _ => False)
    (hnext : ∀ value, result = .ok value → Judged (next value) flaw) :
    Judged (result >>= next) flaw :=
  (h.bind hnext).congr fun _ => iff_of_eq (false_or _)

/-- What is done before something without flaws has its own. -/
theorem before {next : α → Except Failure β} (h : Judged result flaw)
    (hnext : ∀ value, Judged (next value) fun _ => False) : Judged (result >>= next) flaw :=
  (h.bind fun value _ => hnext value).congr fun _ => iff_of_eq (or_false _)

theorem map {change : α → β} (h : Judged result flaw) : Judged (result.map change) flaw where
  sound fault heq := h.sound fault (eq_error_of_map heq)
  complete _ heq := by
    obtain ⟨value, hvalue, -⟩ := exists_of_map_eq_ok heq
    exact h.complete value hvalue

theorem mapM {act : α → Except Failure β} {items : List α} {flaw : α → Fault → Prop}
    (h : ∀ item ∈ items, Judged (act item) (flaw item)) :
    Judged (items.mapM act) fun fault => ∃ item ∈ items, flaw item fault where
  sound fault heq := by
    obtain ⟨item, hitem, hfailed⟩ := exists_of_mapM_error heq
    exact ((h item hitem).sound fault hfailed).imp_right fun hflaw => ⟨item, hitem, hflaw⟩
  complete values heq fault := by
    rintro ⟨item, hitem, hflaw⟩
    obtain ⟨value, -, hvalue⟩ := exists_of_forall₂ (mapM_eq_ok_iff.mp heq).flip hitem
    exact (h item hitem).complete value hvalue fault hflaw

theorem mapM_none {act : α → Except Failure β} {items : List α}
    (h : ∀ item ∈ items, Judged (act item) fun _ => False) :
    Judged (items.mapM act) fun _ => False :=
  (mapM h).congr fun _ => by simp

end Judged

/-! ### What reading comes to -/

namespace Reading

variable {α β : Type}

/-- What reading comes to, without the warnings. -/
def result (action : Reading α) : Except Failure α := action.run.value

@[simp] theorem result_pure (value : α) : result (pure value) = .ok value := rfl

@[simp] theorem result_bind (action : Reading α) (next : α → Reading β) :
    result (action >>= next) = result action >>= fun value => result (next value) := by
  rw [result, ExceptT.run_bind, Noted.value_bind, result]
  cases action.run.value <;> rfl

@[simp] theorem result_map (change : α → β) (action : Reading α) :
    result (change <$> action) = (result action).map change := by
  rw [← bind_pure_comp, result_bind]
  cases result action <;> rfl

@[simp] theorem result_mapM (act : α → Reading β) (items : List α) :
    result (items.mapM act) = items.mapM fun item => result (act item) := by
  induction items with
  | nil => rfl
  | cons item rest ih => simp only [mapM_cons, result_bind, result_pure, ih]; rfl

theorem result_follow_eq_ok {root : Entries} {value last : Value} :
    result (follow root value) = .ok last ↔ Pointer.follow (.map root) value = .ok last := by
  unfold follow
  cases Pointer.follow (.map root) value with
  | ok found => simp
  | error error => exact ⟨nofun, nofun⟩

theorem judged_follow (root : Entries) (value : Value) :
    Judged (result (follow root value)) fun _ => False := by
  unfold follow
  cases Pointer.follow (.map root) value with
  | ok last => exact .flawless
  | error error => exact ⟨nofun, nofun⟩

end Reading

/-! ### Annotations -/

/-- The fields of a record that hold something that is no text. Each is given by its key and by the
name under which it is reported. -/
def Entries.misworded (raw : Entries) (fields : List (String × String)) : List InvalidField :=
  fields.filterMap fun (key, field) =>
    match Entries.get? raw key with
    | none => none
    | some .null => none
    | some (.text _) => none
    | some _ => some { field, fault := .notText }

/-- A record has annotations that are no texts; all of them are reported together. -/
def Entries.Miswords (raw : Entries) (fields : List (String × String)) (fault : Fault) : Prop :=
  raw.misworded fields ≠ [] ∧ fault = .invalidFields (raw.misworded fields)

/-- The annotation that most records have. -/
def descriptions : List (String × String) := [("description", "description")]

/-- The annotations of an operation. -/
def Operation.annotations : List (String × String) :=
  [("operationId", "operation_id"), ("summary", "summary"), ("description", "description")]

namespace Reading

variable {raw : Entries}

theorem invalid_fieldText (hraw : raw.Plain Value.Plain) (key field : String) :
    (fieldText raw key field).2 = raw.misworded [(key, field)] := by
  cases hvalue : Entries.get? raw key with
  | none => simp [fieldText, textField, Entries.misworded, hvalue]
  | some value =>
    cases hraw.get? key value hvalue with
    | scalar hscalar =>
      rename_i scalar
      -- bytes would be taken for a text, but JSON has none
      cases scalar with
      | bytes => cases hscalar
      | _ => simp [fieldText, textField, Field.text, Except.map, Entries.misworded, hvalue]
    | _ => simp [fieldText, textField, Field.text, Except.map, Entries.misworded, hvalue]

theorem invalid_annotations (hraw : raw.Plain Value.Plain) :
    (fieldText raw "operationId" "operation_id").2 ++ (fieldText raw "summary" "summary").2 ++
      (fieldText raw "description" "description").2 = raw.misworded annotations := by
  simp only [invalid_fieldText hraw, Entries.misworded, ← filterMap_append]
  rfl

theorem judged_requireValid (raw : Entries) (fields : List (String × String)) :
    Judged (result (requireValid (raw.misworded fields))) (raw.Miswords fields) := by
  unfold requireValid
  split
  · rename_i hempty
    exact .ok fun fault hflaw => hflaw.1 (List.isEmpty_iff.mp hempty)
  · rename_i hinvalid
    exact .unexpected ⟨fun hempty => hinvalid (List.isEmpty_iff.mpr hempty), rfl⟩

theorem judged_description (hraw : raw.Plain Value.Plain) :
    Judged (result (Reading.description raw)) (raw.Miswords descriptions) := by
  unfold Reading.description
  dsimp only
  rw [result_bind, invalid_fieldText hraw]
  exact (judged_requireValid raw descriptions).before fun _ => .flawless

end Reading

/-! ### Bodies and responses -/

/-- Pointers are followed from a value to a record. -/
def Value.Leads (root : Entries) (value : Value) (record : Entries) : Prop :=
  Pointer.follow (.map root) value = .ok (.map record)

section Parts

variable {root : Entries} (hroot : (Value.map root).Plain)

theorem Parameter.judged_contentSchema (content : Option Value) (location : String) :
    Judged (Reading.result (contentSchema content location)) fun _ => False := by
  unfold contentSchema
  split
  · split
    · exact .flawless
    · exact .flawless
    · exact .flawless
  · exact .flawless

/-- A parameter that a client can take: one that says nothing about its place, or names one that is
not the body. -/
def Parameter.Placed (raw : Entries) : Prop :=
  ∃ place, ((Entries.get? raw "in").getD (.text "query")).text?.bind Place.ofWord? = some place ∧
    place ≠ .body

theorem Parameter.judged_read {raw : Entries} (hraw : raw.Plain Value.Plain) (location : String) :
    Judged (Reading.result (read raw location)) fun fault =>
      Placed raw ∧ raw.Miswords descriptions fault := by
  unfold read
  dsimp only
  split
  · rename_i hplace
    refine .ok fun fault => ?_
    rintro ⟨⟨place, hfound, -⟩, -⟩
    rw [hplace] at hfound
    cases hfound
  · rename_i hplace
    refine .ok fun fault => ?_
    rintro ⟨⟨place, hfound, hother⟩, -⟩
    rw [hplace] at hfound
    exact hother (Option.some.inj hfound).symm
  · rename_i place hother hplace
    have hplaced : Placed raw := ⟨place, hplace, hother⟩
    -- whichever schema was found, the annotation is looked at last
    have hdescribed : ∀ parameter : Option String → Option Parameter,
        Judged (Reading.result (do
          let description ← Reading.description raw
          return parameter description)) fun fault =>
            Placed raw ∧ raw.Miswords descriptions fault := by
      intro parameter
      rw [result_bind]
      refine ((judged_description hraw).before fun _ => .flawless).congr ?_
      exact fun fault => (and_iff_right hplaced).symm
    split
    · rw [result_bind]
      exact .after (.flawless) fun schema _ => hdescribed _
    · rw [result_bind, result_map]
      exact .after (judged_contentSchema _ _).map fun schema _ => hdescribed _

/-- Contents, then the annotation of a record. -/
theorem judged_record {raw : Entries} (hraw : raw.Plain Value.Plain) (location : String) {α : Type}
    (record : Option String × Option Schema → Option String → α) :
    Judged (Reading.result (do
      let content ← contentSchema (Entries.get? raw "content") location
      let description ← Reading.description raw
      return record content description)) (raw.Miswords descriptions) := by
  rw [result_bind]
  refine .after (judged_contentSchema _ _) fun content _ => ?_
  rw [result_bind]
  exact (judged_description hraw).before fun _ => .flawless

theorem plain_of_leads (hroot : (Value.map root).Plain) {value : Value} {record : Entries}
    (hvalue : value.Plain) (h : value.Leads root record) : record.Plain Value.Plain :=
  Value.plain_hereditary.entry _
    (Pointer.followFrom_plain Value.plain_hereditary hroot hvalue h)

/-- If only records are looked into, the flaws are those of the record that a value leads to. -/
theorem judged_leads {α : Type} {value : Value} {next : Value → Reading α}
    {flaw : Entries → Fault → Prop}
    (hrecord : ∀ record, value.Leads root record →
      Judged (Reading.result (next (.map record))) (flaw record))
    (hother : ∀ other, (∀ record, other ≠ .map record) →
      Judged (Reading.result (next other)) fun _ => False) :
    Judged (Reading.result (Reading.follow root value >>= next)) fun fault =>
      ∃ record, value.Leads root record ∧ flaw record fault := by
  rw [result_bind]
  refine .after (judged_follow root value) fun last hlast => ?_
  have hfollowed := result_follow_eq_ok.mp hlast
  by_cases hmap : ∃ record, last = .map record
  · obtain ⟨record, rfl⟩ := hmap
    refine (hrecord record hfollowed).congr fun fault => ⟨fun h => ⟨record, hfollowed, h⟩, ?_⟩
    rintro ⟨other, hother, hflaw⟩
    cases hfollowed.symm.trans hother
    exact hflaw
  · refine (hother last fun record heq => hmap ⟨record, heq⟩).congr fun fault => ?_
    refine ⟨False.elim, ?_⟩
    rintro ⟨record, hrecord, -⟩
    exact hmap ⟨record, Except.ok.inj (hfollowed.symm.trans hrecord)⟩

include hroot

theorem RequestBody.judged_read {raw : Option Value} (hraw : ∀ value ∈ raw, value.Plain)
    (location : String) :
    Judged (Reading.result (RequestBody.read root raw location)) fun fault =>
      ∃ value ∈ raw, ∃ body, value.Leads root body ∧ body.Miswords descriptions fault := by
  unfold RequestBody.read
  split
  · exact .ok (by simp)
  · refine .ok fun fault => ?_
    rintro ⟨value, ⟨⟩, body, hleads, -⟩
    cases hleads
  · rename_i value _
    refine (@judged_leads root _ value _ (·.Miswords descriptions) (fun body hleads => ?_)
      fun other hother => ?_).congr fun fault => by simp
    · exact judged_record (plain_of_leads hroot (hraw value rfl) hleads) _ _
    · split
      · exact absurd rfl (hother _)
      · exact .flawless

theorem Response.judged_read (status : String) {value : Value} (hvalue : value.Plain)
    (location : String) :
    Judged (Reading.result (Response.read root status value location)) fun fault =>
      ∃ response, value.Leads root response ∧ response.Miswords descriptions fault := by
  unfold Response.read
  refine judged_leads (fun response hleads => ?_) fun other hother => ?_
  · exact judged_record (plain_of_leads hroot hvalue hleads) _ _
  · split
    · exact absurd rfl (hother _)
    · exact .flawless

/-- An operation lists a value as the response for a status. -/
def Operation.Lists (raw : Entries) (status : String) (value : Value) : Prop :=
  ∃ responses, Entries.get? raw "responses" = some (.map responses) ∧
    ∃ entry ∈ responses, entry.1.plain = status ∧ entry.2 = value

theorem Response.judged_readAll {raw : Entries} (hraw : raw.Plain Value.Plain) (location : String) :
    Judged (Reading.result (Response.readAll root (Entries.get? raw "responses") location))
      fun fault => ∃ status value response, Operation.Lists raw status value ∧
        value.Leads root response ∧ response.Miswords descriptions fault := by
  unfold Response.readAll
  split
  · rename_i responses hresponses
    have hall := Value.plain_hereditary.entry _ (hraw.get? _ _ hresponses)
    rw [result_bind, result_mapM]
    refine ((Judged.mapM fun entry hentry =>
      Response.judged_read hroot entry.1.plain (hall entry hentry) location).before
        fun _ => .flawless).congr fun fault => ?_
    constructor
    · rintro ⟨entry, hentry, response, hleads, hflaw⟩
      exact ⟨_, _, response, ⟨responses, hresponses, entry, hentry, rfl, rfl⟩, hleads, hflaw⟩
    · rintro ⟨-, -, response, ⟨others, hothers, entry, hentry, rfl, rfl⟩, hleads, hflaw⟩
      cases hresponses.symm.trans hothers
      exact ⟨entry, hentry, response, hleads, hflaw⟩
  · rename_i hother
    refine .ok fun fault => ?_
    rintro ⟨-, -, -, ⟨responses, hresponses, -⟩, -⟩
    exact hother responses hresponses

end Parts

/-! ### Parameters -/

/-- A path or an operation lists a parameter, which may stand elsewhere in the document. -/
def Parameter.Listed (root holder parameter : Entries) : Prop :=
  ∃ items, Entries.get? holder "parameters" = some (.list items) ∧
    ∃ value ∈ items, value.Leads root parameter

/-- Two parameters have the same name and place. -/
def Parameter.Namesakes (first second : Entries) : Prop :=
  ∃ one two, identity? first = some one ∧ identity? second = some two ∧
    sameIdentity one two = true

/-- An operation takes a parameter: its own, or one of the path that none of its own replaces. -/
def Parameter.Taken (root item raw parameter : Entries) : Prop :=
  Listed root raw parameter ∨
    Listed root item parameter ∧ ∀ own, Listed root raw own → ¬Namesakes parameter own

namespace Parameter

theorem mem_components {root holder : Entries} {found : List Entries}
    (h : Reading.result (Reading.components root (Entries.get? holder "parameters")) = .ok found)
    (parameter : Entries) : parameter ∈ found ↔ Listed root holder parameter := by
  unfold Reading.components at h
  split at h
  · rename_i items hitems
    rw [result_bind, result_mapM] at h
    obtain ⟨resolved, hresolved, hfound⟩ := bind_eq_ok.mp h
    cases hfound
    rw [mapM_eq_ok_iff] at hresolved
    rw [mem_filterMap]
    constructor
    · rintro ⟨last, hlast, hsome⟩
      split at hsome
      · cases hsome
        obtain ⟨value, hvalue, hleads⟩ := exists_of_forall₂ hresolved hlast
        exact ⟨items, hitems, value, hvalue, result_follow_eq_ok.mp hleads⟩
      · cases hsome
    · rintro ⟨others, hothers, value, hvalue, hleads⟩
      cases hitems.symm.trans hothers
      obtain ⟨last, hlast, hfollowed⟩ := exists_of_forall₂ hresolved.flip hvalue
      cases hleads.symm.trans (result_follow_eq_ok.mp hfollowed)
      exact ⟨.map parameter, hlast, rfl⟩
  · rename_i hother
    cases h
    refine ⟨nofun, ?_⟩
    rintro ⟨items, hitems, -⟩
    exact absurd hitems (hother items)

theorem judged_components (root : Entries) (items : Option Value) :
    Judged (Reading.result (Reading.components root items)) fun _ => False := by
  unfold Reading.components
  split
  · rw [result_bind, result_mapM]
    exact (Judged.mapM_none fun item _ => judged_follow root item).before
      fun _ => .flawless
  · exact .flawless

theorem mapM_identity?_eq_none_iff {parameters : List Entries} :
    parameters.mapM identity? = none ↔ ∃ parameter ∈ parameters, identity? parameter = none := by
  induction parameters with
  | nil => simp
  | cons parameter rest ih =>
    rw [mapM_cons, exists_mem_cons_iff, ← ih]
    cases identity? parameter <;> cases rest.mapM identity? <;> simp

theorem merge?_eq_none_iff {shared own : List Entries} :
    merge? shared own = none ↔ ∃ parameter, (parameter ∈ shared ∨ parameter ∈ own) ∧
      identity? parameter = none := by
  have hmissing : merge? shared own = none ↔
      shared.mapM identity? = none ∨ own.mapM identity? = none := by
    unfold merge?
    cases own.mapM identity? <;> cases shared.mapM identity? <;> simp
  rw [hmissing, mapM_identity?_eq_none_iff, mapM_identity?_eq_none_iff, ← exists_or]
  exact exists_congr fun parameter => or_and_right.symm

theorem mapM_identity?_eq_some {parameters : List Entries} :
    ∀ {identities : List (Scalar × Scalar)}, parameters.mapM identity? = some identities →
      identities = parameters.filterMap identity? ∧
        parameters.zip identities =
          parameters.filterMap fun parameter => (identity? parameter).map (parameter, ·) := by
  induction parameters with
  | nil =>
    intro identities h
    cases h
    exact ⟨rfl, rfl⟩
  | cons parameter rest ih =>
    intro identities h
    rw [mapM_cons] at h
    obtain ⟨identity, hidentity, h⟩ := Option.bind_eq_some_iff.mp h
    obtain ⟨others, hothers, h⟩ := Option.bind_eq_some_iff.mp h
    cases h
    obtain ⟨hsame, hzip⟩ := ih hothers
    rw [filterMap_cons, filterMap_cons, hidentity, zip_cons_cons, hzip]
    exact ⟨congrArg (identity :: ·) hsame, rfl⟩

theorem mem_merge?_iff {shared own merged : List Entries} (h : merge? shared own = some merged)
    (parameter : Entries) : parameter ∈ merged ↔
      parameter ∈ own ∨ parameter ∈ shared ∧ ∀ other ∈ own, ¬Namesakes parameter other := by
  have hidentified : ∀ other, other ∈ shared → ∃ identity, identity? other = some identity := by
    intro other hother
    cases hidentity : identity? other with
    | some identity => exact ⟨identity, rfl⟩
    | none =>
      rw [merge?_eq_none_iff.mpr ⟨other, .inl hother, hidentity⟩] at h
      cases h
  unfold merge? at h
  obtain ⟨taken, htaken, h⟩ := Option.bind_eq_some_iff.mp h
  obtain ⟨identities, hidentities, h⟩ := Option.bind_eq_some_iff.mp h
  cases h
  rw [(mapM_identity?_eq_some hidentities).2, (mapM_identity?_eq_some htaken).1, mem_append,
    or_comm]
  refine or_congr_right ?_
  simp only [mem_map, mem_filter, mem_filterMap, Option.map_eq_some_iff,
    Bool.not_eq_true', any_eq_false, Bool.not_eq_true]
  constructor
  · rintro ⟨_, ⟨⟨found, hshared, identity, hidentity, rfl⟩, hfree⟩, rfl⟩
    refine ⟨hshared, fun other hother => ?_⟩
    rintro ⟨one, two, hone, htwo, hsame⟩
    cases hidentity.symm.trans hone
    rw [hfree two ⟨other, hother, htwo⟩] at hsame
    cases hsame
  · rintro ⟨hshared, hfree⟩
    obtain ⟨identity, hidentity⟩ := hidentified parameter hshared
    refine ⟨(parameter, identity), ⟨⟨parameter, hshared, identity, hidentity, rfl⟩, ?_⟩, rfl⟩
    rintro two ⟨other, hother, htwo⟩
    refine Bool.eq_false_iff.mpr fun hsame => ?_
    exact hfree other hother ⟨identity, two, hidentity, htwo, hsame⟩

end Parameter

/-! ### Operations -/

/-- What is wrong with an operation of a path. -/
inductive Operation.Flawed (root item raw : Entries) : Fault → Prop
  | identity {parameter : Entries} :
      Parameter.Listed root item parameter ∨ Parameter.Listed root raw parameter →
      identity? parameter = none → Flawed root item raw .wrongKind
  | parameter {parameter : Entries} {fault : Fault} :
      Parameter.Taken root item raw parameter → Parameter.Placed parameter →
      parameter.Miswords descriptions fault → Flawed root item raw fault
  | body {value : Value} {body : Entries} {fault : Fault} :
      Entries.get? raw "requestBody" = some value → value.Leads root body →
      body.Miswords descriptions fault → Flawed root item raw fault
  | response {status : String} {value : Value} {response : Entries} {fault : Fault} :
      Operation.Lists raw status value → value.Leads root response →
      response.Miswords descriptions fault → Flawed root item raw fault
  | wording {fault : Fault} :
      raw.Miswords annotations fault → Flawed root item raw fault

/-- A value leads to a path with an operation. -/
def Operation.StandsAt (root : Entries) (value : Value) (item raw : Entries) : Prop :=
  value.Leads root item ∧
    ∃ word method, (.text word, .map raw) ∈ item ∧ Method.ofWord? word = some method

/-- A document has an operation in a path. -/
def Operation.Stands (root item raw : Entries) : Prop :=
  ∃ paths, Entries.get? root "paths" = some (.map paths) ∧
    ∃ entry ∈ paths, Operation.StandsAt root entry.2 item raw

theorem Operation.mem_filterMap_entry? {item raw : Entries} {method : Method} :
    (method, raw) ∈ item.filterMap entry? ↔
      ∃ word, (.text word, .map raw) ∈ item ∧ Method.ofWord? word = some method := by
  rw [mem_filterMap]
  constructor
  · rintro ⟨entry, hentry, hsome⟩
    unfold entry? at hsome
    split at hsome
    · obtain ⟨found, hfound, heq⟩ := Option.map_eq_some_iff.mp hsome
      cases heq
      exact ⟨_, hentry, hfound⟩
    · cases hsome
  · rintro ⟨word, hentry, hword⟩
    exact ⟨_, hentry, by simp [hword, entry?]⟩

section Operations

variable {root : Entries} (hroot : (Value.map root).Plain)

theorem plain_of_listed (hroot : (Value.map root).Plain) {holder parameter : Entries}
    (hholder : holder.Plain Value.Plain) (h : Parameter.Listed root holder parameter) :
    parameter.Plain Value.Plain := by
  obtain ⟨items, hitems, value, hvalue, hleads⟩ := h
  exact plain_of_leads hroot
    (Value.plain_hereditary.item _ (hholder.get? _ _ hitems) value hvalue) hleads

include hroot

theorem Operation.judged_read (path : String) (method : Method) {item raw : Entries}
    (hitem : item.Plain Value.Plain) (hraw : raw.Plain Value.Plain) {shared : List Entries}
    (hshared : ∀ parameter, parameter ∈ shared ↔ Parameter.Listed root item parameter) :
    Judged (Reading.result (read root path method shared raw))
      (Operation.Flawed root item raw) := by
  unfold read
  dsimp only
  rw [result_bind]
  refine .after (judged_components _ _) fun own hown => ?_
  have hlisted := mem_components hown
  split
  · rename_i merged hmerged
    have htaken : ∀ parameter, parameter ∈ merged ↔ Parameter.Taken root item raw parameter := by
      intro parameter
      rw [mem_merge?_iff hmerged, hlisted, hshared]
      exact or_congr_right (and_congr_right fun _ => forall_congr' fun own => by rw [hlisted])
    -- the parameters could be merged, so all of them have an identity, also those left out
    have hidentified : ¬∃ parameter, (Parameter.Listed root item parameter ∨
        Parameter.Listed root raw parameter) ∧ identity? parameter = none := by
      simp only [← hshared, ← hlisted, ← merge?_eq_none_iff, hmerged]
      exact nofun
    have hplain : ∀ parameter ∈ merged, parameter.Plain Value.Plain := by
      intro parameter hparameter
      rcases (htaken parameter).mp hparameter with hown | ⟨hpath, -⟩
      · exact plain_of_listed hroot hraw hown
      · exact plain_of_listed hroot hitem hpath
    simp only [result_bind, result_mapM, invalid_annotations hraw]
    refine (Judged.bind (Judged.mapM fun pair hpair => Parameter.judged_read
      (hplain _ (fst_mem_of_mem_zipIdx hpair)) _) fun _ _ =>
        (RequestBody.judged_read hroot (hraw.get? "requestBody") _).bind fun _ _ =>
          (Response.judged_readAll hroot hraw _).bind fun _ _ =>
            (judged_requireValid raw annotations).before fun _ =>
              .flawless).congr fun fault => ?_
    constructor
    · rintro (⟨pair, hpair, hplaced, hflaw⟩ | ⟨value, hvalue, body, hleads, hflaw⟩ |
        ⟨status, value, response, hlists, hleads, hflaw⟩ | hflaw)
      · exact .parameter ((htaken _).mp (fst_mem_of_mem_zipIdx hpair)) hplaced hflaw
      · exact .body hvalue hleads hflaw
      · exact .response hlists hleads hflaw
      · exact .wording hflaw
    · intro hflaw
      cases hflaw with
      | identity hparameter hnone => exact absurd ⟨_, hparameter, hnone⟩ hidentified
      | parameter hparameter hplaced hflaw =>
        have hmem := (htaken _).mpr hparameter
        rw [← zipIdx_map_fst 0 merged] at hmem
        obtain ⟨pair, hpair, rfl⟩ := mem_map.mp hmem
        exact .inl ⟨pair, hpair, hplaced, hflaw⟩
      | body hvalue hleads hflaw => exact .inr (.inl ⟨_, hvalue, _, hleads, hflaw⟩)
      | response hlists hleads hflaw => exact .inr (.inr (.inl ⟨_, _, _, hlists, hleads, hflaw⟩))
      | wording hflaw => exact .inr (.inr (.inr hflaw))
  · rename_i hnone
    obtain ⟨parameter, hparameter, hidentity⟩ :=
      merge?_eq_none_iff.mp (Option.eq_none_iff_forall_ne_some.mpr hnone)
    rw [hshared, hlisted] at hparameter
    exact .unexpected (.identity hparameter hidentity)

theorem Operation.judged_readPath (path : String) {value : Value} (hvalue : value.Plain) :
    Judged (Reading.result (readPath root path value)) fun fault =>
      ∃ item raw, Operation.StandsAt root value item raw ∧
        Operation.Flawed root item raw fault := by
  unfold readPath
  refine (@judged_leads root _ value _ (fun item fault => ∃ raw,
    (∃ word method, (.text word, .map raw) ∈ item ∧ Method.ofWord? word = some method) ∧
      Operation.Flawed root item raw fault) (fun item hleads => ?_) fun other hother => ?_).congr
      fun fault => by simp only [Operation.StandsAt, and_assoc, exists_and_left]
  · have hitem := plain_of_leads hroot hvalue hleads
    dsimp only
    rw [result_bind]
    refine .after (judged_components _ _) fun shared hshared => ?_
    rw [result_mapM]
    have hread : ∀ pair ∈ item.filterMap entry?, Judged
        (Reading.result (read root path pair.1 shared pair.2))
        (Operation.Flawed root item pair.2) := by
      rintro ⟨method, raw⟩ hpair
      obtain ⟨word, hentry, -⟩ := mem_filterMap_entry?.mp hpair
      exact judged_read hroot path method hitem
        (Value.plain_hereditary.entry _ (hitem _ hentry)) (mem_components hshared)
    refine (Judged.mapM hread).congr fun fault => ?_
    constructor
    · rintro ⟨⟨method, raw⟩, hpair, hflaw⟩
      obtain ⟨word, hentry, hword⟩ := mem_filterMap_entry?.mp hpair
      exact ⟨raw, ⟨word, method, hentry, hword⟩, hflaw⟩
    · rintro ⟨raw, ⟨word, method, hentry, hword⟩, hflaw⟩
      exact ⟨(method, raw), mem_filterMap_entry?.mpr ⟨word, hentry, hword⟩, hflaw⟩
  · split
    · exact absurd rfl (hother _)
    · exact .flawless

theorem Operation.judged_readAll :
    Judged (Reading.result (readAll root)) fun fault =>
      ∃ item raw, Operation.Stands root item raw ∧ Operation.Flawed root item raw fault := by
  have hentries : root.Plain Value.Plain := Value.plain_hereditary.entry _ hroot
  unfold readAll
  split
  · rename_i paths hpaths
    have hall := Value.plain_hereditary.entry _ (hentries.get? _ _ hpaths)
    rw [result_bind, result_mapM]
    refine ((Judged.mapM fun entry hentry => judged_readPath hroot entry.1.plain
      (hall entry hentry)).before fun _ => .flawless).congr fun fault => ?_
    constructor
    · rintro ⟨entry, hentry, item, raw, hstands, hflaw⟩
      exact ⟨item, raw, ⟨paths, hpaths, entry, hentry, hstands⟩, hflaw⟩
    · rintro ⟨item, raw, ⟨others, hothers, entry, hentry, hstands⟩, hflaw⟩
      cases hpaths.symm.trans hothers
      exact ⟨entry, hentry, item, raw, hstands, hflaw⟩
  · rename_i hother
    refine .ok fun fault => ?_
    rintro ⟨item, raw, ⟨paths, hpaths, -⟩, -⟩
    exact hother paths hpaths

end Operations

/-! ### Documents -/

/-- What keeps a document from being read. -/
inductive Document.Misread (root : Entries) : Fault → Prop
  | info {info : Entries} {fault : Fault} : Entries.get? root "info" = some (.map info) →
      info.Miswords descriptions fault → Misread root fault
  | operation {item raw : Entries} {fault : Fault} : Operation.Stands root item raw →
      Operation.Flawed root item raw fault → Misread root fault

namespace Document

variable {root : Entries} (hroot : (Value.map root).Plain)

theorem judged_readSchemas (root : Entries) :
    Judged (Reading.result (readSchemas root)) fun _ => False := by
  unfold readSchemas
  split
  · rw [result_bind, result_mapM]
    exact (Judged.mapM_none fun entry _ => .flawless).before fun _ => .flawless
  · exact .flawless

include hroot

theorem judged_readInfo :
    Judged (Reading.result (readInfo root)) fun fault =>
      ∃ info : Entries, Entries.get? root "info" = some (.map info) ∧
        info.Miswords descriptions fault := by
  have hentries : root.Plain Value.Plain := Value.plain_hereditary.entry _ hroot
  unfold readInfo
  split
  · rename_i info hinfo
    have hplain := Value.plain_hereditary.entry _ (hentries.get? _ _ hinfo)
    rw [result_bind]
    refine ((judged_description hplain).before fun _ => .flawless).congr
      fun fault => ⟨fun hflaw => ⟨info, hinfo, hflaw⟩, ?_⟩
    rintro ⟨other, hother, hflaw⟩
    cases hinfo.symm.trans hother
    exact hflaw
  · rename_i hother
    refine .ok fun fault => ?_
    rintro ⟨info, hinfo, -⟩
    exact hother info hinfo

/-- Reading a document fails unexpectedly only with the fault of a flaw, and a document that is read
has none. -/
theorem ofEntries_judged (version : Option String) :
    Judged (ofEntries root version) (Misread root) := by
  have hparts : Judged (Reading.result (do
      return (← readInfo root, ← readSchemas root, ← readAll root))) (Misread root) := by
    simp only [result_bind]
    refine ((judged_readInfo hroot).bind fun info _ => (judged_readSchemas root).after
      fun schemas _ => (judged_readAll hroot).before fun operations =>
        .flawless).congr fun fault => ?_
    constructor
    · rintro (⟨info, hinfo, hflaw⟩ | ⟨item, raw, hstands, hflaw⟩)
      · exact .info hinfo hflaw
      · exact .operation hstands hflaw
    · intro hflaw
      cases hflaw with
      | info hinfo hflaw => exact .inl ⟨_, hinfo, hflaw⟩
      | operation hstands hflaw => exact .inr ⟨_, _, hstands, hflaw⟩
  exact hparts.map

end Document

end OpenApiClient
