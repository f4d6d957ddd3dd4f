import OpenApiClient.Proofs.Client.Operations
import OpenApiClient.Proofs.Client.Source
import OpenApiClient.Proofs.Document.Flaws

/-!
# Which faults a document can lead to

From a document in JSON to the source of its client, a run goes through four stages: the version is
checked, the document is read, compiled, and written out. Each of them fails in a way that is
expected of it, with a few exceptions. When a document is read these are the flaws of
`Document.Misread`; when it is compiled they are conversions that do not end, and responses whose
status consists of digits that denote no number: one of them has no decimal value, or there are more
than are read.

`generated_faults` collects the exceptions for the whole run: it ends in an unexpected fault only if
the document has such a flaw, or if a conversion does not end, and a document with a flaw never has
a source.
-/

namespace OpenApiClient

open Conversion List Operation Reading

/-! ### Conversions -/

namespace Conversion

/-- How a conversion fails: it does not end, or a document cannot be compiled. -/
def Fails (failure : Failure) : Prop :=
  failure = .unexpected .endless ∨ ∃ error, failure = .compile error

/-- Nothing is asked but that conversions fail in their own ways. -/
def failing : Contract Progress where
  inv _ := True
  grows _ _ := True
  fault := Fails
  refl _ := trivial
  trans _ _ := trivial

/-- Conversions fail in their own ways if the stack holds registered names only. -/
theorem failing_laws (settings : Settings) :
    Laws settings failing
      (fun _ _ context => ∀ name ∈ context.stack, name ∈ settings.registry.names)
      (fun _ _ _ _ _ => True) where
  notes _ _ _ _ := ⟨trivial, trivial⟩
  stable _ _ := trivial
  exhausted _ := .inl rfl
  part hfits _ hpart := by
    rw [stack_of_mem_plan_parts _ _ _ hpart]
    exact hfits
  stop _ _ _ := .inr ⟨_, rfl⟩
  build _ _ _ _ := trivial
  unresolved _ _ _ := .inr ⟨_, rfl⟩
  -- the names of a circle are all on the stack
  unregistered hfits hname hnone := by
    obtain ⟨schema, hschema⟩ := Registry.exists_get?_of_mem_names (hfits _ hname)
    rw [hnone] at hschema
    cases hschema
  unknown _ _ _ _ _ := trivial
  lazy _ _ _ _ _ := trivial
  enter hfits _ hname _ _ := by
    intro other hother
    rcases mem_append.mp hother with hother | hother
    · exact hfits other hother
    · rw [mem_singleton.mp hother]
      exact Registry.mem_names_of_resolve hname
  named _ _ _ _ _ _ := trivial
  declare _ _ _ _ := ⟨trivial, trivial⟩

theorem structuralAt_fails {settings : Settings} {failure : Failure} :
    ∀ {depth : Nat} {schema : Schema} {optional : Bool},
      structuralAt settings depth schema optional = .error failure → Fails failure := by
  intro depth
  induction depth with
  | zero =>
    intro schema optional h
    cases h
    exact .inl rfl
  | succ depth ih =>
    intro schema optional h
    unfold structuralAt at h
    have hexpr := eq_error_of_map h
    split at hexpr
    · rename_i ref href
      have hresolve := eq_error_of_map hexpr
      cases hname : settings.registry.resolve ref with
      | ok name => rw [hname] at hresolve; cases hresolve
      | error error => rw [hname] at hresolve; cases hresolve; exact .inr ⟨error, rfl⟩
    · rcases Plan.assemble_eq_error hexpr with ⟨part, -, hpart⟩ | ⟨error, -, rfl⟩
      · exact ih hpart
      · exact .inr ⟨error, rfl⟩

end Conversion

/-! ### Statuses -/

/-- A text of digits of which one has no decimal value, such as a superscript, or of more digits than
are read. -/
def Text.Numberless (text : String) : Prop :=
  isDigitText text = true ∧
    ((∃ c ∈ text.toList, decimalValue? c = none) ∨ digitLimit < text.length)

namespace Text

theorem digitsValue?_eq_none_iff {digits : List Char} :
    ∀ {value : Nat}, '_' ∉ digits →
      (digitsValue? value digits = none ↔ ∃ c ∈ digits, decimalValue? c = none) := by
  induction digits with
  | nil => simp [digitsValue?]
  | cons c rest ih =>
    intro value hmark
    rw [mem_cons, not_or] at hmark
    rw [digitsValue?, exists_mem_cons_iff]
    · cases hdigit : decimalValue? c with
      | none => simp
      | some digit => simpa using ih hmark.2
    · exact fun _ _ heq _ => hmark.1 heq.symm

theorem natValue?_eq_none_iff {text : String} (h : isDigitText text = true) :
    natValue? text.toList = none ↔
      (∃ c ∈ text.toList, decimalValue? c = none) ∨ digitLimit < text.length := by
  rw [isDigitText, Bool.and_eq_true, all_eq_true] at h
  obtain ⟨hne, hdigits⟩ := h
  have hmark : ∀ c ∈ text.toList, c ≠ '_' := by
    rintro _ hmem rfl
    cases hdigits '_' hmem
  have hcount : digitCount text.toList = text.length :=
    (countP_eq_length.mpr (by simpa using hmark)).trans String.length_toList
  have hnumeral : numeralValue? text.toList = none ↔ ∃ c ∈ text.toList, decimalValue? c = none := by
    cases hlist : text.toList with
    | nil => simp_all
    | cons c rest =>
      rw [hlist] at hmark
      rw [numeralValue?, exists_mem_cons_iff]
      cases hdigit : decimalValue? c with
      | none => simp
      | some digit =>
        simpa using digitsValue?_eq_none_iff fun hmem => hmark '_' (mem_cons_of_mem c hmem) rfl
  rw [natValue?, hcount]
  split
  · rename_i hlimit
    rw [hnumeral, or_iff_left (by omega)]
  · rename_i hlimit
    exact iff_of_true rfl (.inr (by omega))

end Text

namespace Endpoint

theorem read_status_error_iff {text : String} :
    (∃ failure, Status.read text = .error failure) ↔ Text.Numberless text := by
  unfold Status.read Text.Numberless
  split
  · rename_i hdigits
    rw [← Text.natValue?_eq_none_iff hdigits]
    cases Text.natValue? text.toList <;> simp [hdigits]
  · rename_i hdigits
    split <;> simp [hdigits]

/-- The responses of an operation cannot be told apart exactly if one of them has a status without a
number. -/
theorem selectResponses_error_iff {responses : List Response} :
    (∃ failure, selectResponses responses = .error failure) ↔
      ∃ response ∈ responses, Text.Numberless response.status := by
  constructor
  · rintro ⟨failure, h⟩
    unfold selectResponses rankedResponses at h
    rcases bind_eq_error.mp h with h | ⟨ordered, -, h⟩
    · rcases bind_eq_error.mp h with h | ⟨statuses, -, h⟩
      · obtain ⟨response, hresponse, hread⟩ := exists_of_mapM_error h
        exact ⟨response, hresponse, read_status_error_iff.mp ⟨failure, hread⟩⟩
      · cases h
    · dsimp only at h
      split at h <;> cases h
  · rintro ⟨response, hresponse, hnumberless⟩
    obtain ⟨failure, hfailure⟩ := read_status_error_iff.mpr hnumberless
    cases hselected : selectResponses responses with
    | error other => exact ⟨other, rfl⟩
    | ok selection =>
      obtain ⟨ordered, hordered, -⟩ := bind_eq_ok.mp hselected
      obtain ⟨statuses, hstatuses, -⟩ := bind_eq_ok.mp hordered
      obtain ⟨status, -, hstatus⟩ :=
        exists_of_forall₂ (mapM_eq_ok_iff.mp hstatuses).flip hresponse
      rw [hfailure] at hstatus
      cases hstatus

end Endpoint

/-! ### Compiling -/

/-- Compiling a document fails unexpectedly only if a conversion does not end or a response that is
looked at has a status without a number, and no response has one if the document is compiled. -/
theorem compiled_judged (document : Document) (config : Config) :
    Judged (document.compiled config) fun fault =>
      fault = .noSuchValue ∧ ∃ operation ∈ Endpoint.bound config document.operations,
        ∃ response ∈ operation.responses, Text.Numberless response.status := by
  have hfails : ∀ fault, Fails (.unexpected fault) → fault = .endless := by
    rintro fault (heq | ⟨error, heq⟩)
    · exact Failure.unexpected.inj heq
    · cases heq
  constructor
  · intro fault h
    rcases stage_of_error h with ⟨error, -, heq⟩ | ⟨reached, houtcome⟩ | ⟨stages, reached, houtcome⟩
    · cases heq
    · have hkeeps : failing.Keeps (declareAll (document.settings config)) (fun _ _ => True)
          { warnings := document.warnings } :=
        (failing_laws (document.settings config)).noted.declareAll_keeps (fun name target hget => by
          simpa [Context.push] using Registry.mem_names_of_get? hget) trivial
      exact .inl (hfails fault (hkeeps.error houtcome).2.2)
    · -- once all names are declared, endpoints are bound without regard to the progress
      have hdescribed := stages.bindAll_describes
      rw [houtcome] at hdescribed
      obtain ⟨operation, hoperation, hfailed⟩ := exists_of_mapM_error hdescribed.symm
      rcases Endpoint.describe_error hfailed with ⟨node, optional, hnode⟩ | hselected
      · exact .inl (hfails fault (structuralAt_fails hnode))
      · cases Endpoint.selectResponses_error hselected
        exact .inr ⟨rfl, operation, hoperation,
          Endpoint.selectResponses_error_iff.mp ⟨_, hselected⟩⟩
  · rintro compiled h fault ⟨-, operation, hoperation, hnumberless⟩
    obtain ⟨-, -, -, -, -, hdescribed⟩ := compiled_describes h
    obtain ⟨endpoint, -, hendpoint⟩ :=
      exists_of_forall₂ (mapM_eq_ok_iff.mp hdescribed).flip hoperation
    obtain ⟨main, failed, hselection, -⟩ := Endpoint.describe_slots hendpoint
    obtain ⟨failure, hfailure⟩ := Endpoint.selectResponses_error_iff.mpr hnumberless
    rw [hselection] at hfailure
    cases hfailure

/-! ### Statuses of a document -/

/-- An operation has a response for a status. -/
def Operation.Answers (root raw : Entries) (status : String) : Prop :=
  ∃ value response, Operation.Lists raw status value ∧ value.Leads root response

/-- What was read out of the description of an operation, as far as statuses are concerned. -/
structure Operation.ReadFrom (root raw : Entries) (operation : Operation) : Prop where
  deprecated : operation.deprecated = Schema.isTrue raw "deprecated"
  statuses : ∀ status, (∃ response ∈ operation.responses, response.status = status) ↔
    Operation.Answers root raw status

variable {root : Entries}

theorem Response.status_of_read {status location : String} {value : Value} {found : Option Response}
    (h : Reading.result (Response.read root status value location) = .ok found) :
    (∀ response ∈ found, response.status = status) ∧
      (found.isSome = true ↔ ∃ record, value.Leads root record) := by
  unfold Response.read at h
  rw [result_bind] at h
  obtain ⟨last, hlast, h⟩ := bind_eq_ok.mp h
  have hfollowed := result_follow_eq_ok.mp hlast
  split at h
  · rename_i record
    simp only [result_bind] at h
    obtain ⟨content, -, h⟩ := bind_eq_ok.mp h
    obtain ⟨description, -, h⟩ := bind_eq_ok.mp h
    cases h
    exact ⟨by simp, by simpa using ⟨record, hfollowed⟩⟩
  · rename_i hother
    cases h
    refine ⟨by simp, ⟨nofun, ?_⟩⟩
    rintro ⟨record, hleads⟩
    cases hfollowed.symm.trans hleads
    exact absurd rfl (hother record)

theorem Response.statuses_of_readAll {raw : Entries} {location : String} {responses : List Response}
    (h : Reading.result (Response.readAll root (Entries.get? raw "responses") location) =
      .ok responses) (status : String) :
    (∃ response ∈ responses, response.status = status) ↔ Operation.Answers root raw status := by
  unfold Response.readAll at h
  split at h
  · rename_i entries hentries
    rw [result_bind, result_mapM] at h
    obtain ⟨found, hfound, h⟩ := bind_eq_ok.mp h
    cases h
    rw [mapM_eq_ok_iff] at hfound
    constructor
    · rintro ⟨response, hresponse, rfl⟩
      obtain ⟨option, hoption, rfl⟩ := mem_filterMap.mp hresponse
      obtain ⟨entry, hentry, hread⟩ := exists_of_forall₂ hfound hoption
      obtain ⟨hstatus, hleads⟩ := Response.status_of_read hread
      obtain ⟨record, hrecord⟩ := hleads.mp rfl
      exact ⟨entry.2, record, ⟨entries, hentries, entry, hentry, (hstatus response rfl).symm, rfl⟩,
        hrecord⟩
    · rintro ⟨-, record, ⟨others, hothers, entry, hentry, rfl, rfl⟩, hrecord⟩
      cases hentries.symm.trans hothers
      obtain ⟨option, hoption, hread⟩ := exists_of_forall₂ hfound.flip hentry
      obtain ⟨hstatus, hleads⟩ := Response.status_of_read hread
      obtain ⟨response, rfl⟩ := Option.isSome_iff_exists.mp (hleads.mpr ⟨record, hrecord⟩)
      exact ⟨response, mem_filterMap.mpr ⟨_, hoption, rfl⟩, hstatus response rfl⟩
  · rename_i hother
    cases h
    refine ⟨by simp, ?_⟩
    rintro ⟨-, -, ⟨entries, hentries, -⟩, -⟩
    exact absurd hentries (hother entries)

theorem Operation.readFrom_of_read {raw : Entries} {path : String} {method : Method}
    {shared : List Entries} {operation : Operation}
    (h : Reading.result (read root path method shared raw) = .ok operation) :
    Operation.ReadFrom root raw operation := by
  unfold read at h
  dsimp only at h
  rw [result_bind] at h
  obtain ⟨own, -, h⟩ := bind_eq_ok.mp h
  split at h
  · simp only [result_bind] at h
    obtain ⟨parameters, -, h⟩ := bind_eq_ok.mp h
    obtain ⟨body, -, h⟩ := bind_eq_ok.mp h
    obtain ⟨responses, hresponses, h⟩ := bind_eq_ok.mp h
    obtain ⟨-, -, h⟩ := bind_eq_ok.mp h
    cases h
    exact ⟨rfl, Response.statuses_of_readAll hresponses⟩
  · cases h

theorem Operation.readFrom_of_readPath {path : String} {value : Value} {operations : List Operation}
    (h : Reading.result (readPath root path value) = .ok operations) :
    (∀ operation ∈ operations, ∃ item raw, Operation.StandsAt root value item raw ∧
      Operation.ReadFrom root raw operation) ∧
    ∀ item raw, Operation.StandsAt root value item raw →
      ∃ operation ∈ operations, Operation.ReadFrom root raw operation := by
  unfold readPath at h
  rw [result_bind] at h
  obtain ⟨last, hlast, h⟩ := bind_eq_ok.mp h
  have hfollowed := result_follow_eq_ok.mp hlast
  split at h
  · rename_i item
    rw [result_bind] at h
    obtain ⟨shared, -, h⟩ := bind_eq_ok.mp h
    rw [result_mapM, mapM_eq_ok_iff] at h
    constructor
    · intro operation hoperation
      obtain ⟨⟨method, raw⟩, hpair, hread⟩ := exists_of_forall₂ h hoperation
      obtain ⟨word, hentry, hword⟩ := mem_filterMap_entry?.mp hpair
      exact ⟨item, raw, ⟨hfollowed, word, method, hentry, hword⟩, readFrom_of_read hread⟩
    · rintro other raw ⟨hleads, word, method, hentry, hword⟩
      cases hfollowed.symm.trans hleads
      have hpair := mem_filterMap_entry?.mpr ⟨word, hentry, hword⟩
      obtain ⟨operation, hoperation, hread⟩ := exists_of_forall₂ h.flip hpair
      exact ⟨operation, hoperation, readFrom_of_read hread⟩
  · rename_i hother
    cases h
    refine ⟨by simp, ?_⟩
    rintro item raw ⟨hleads, -⟩
    cases hfollowed.symm.trans hleads
    exact absurd rfl (hother item)

/-- The operations of a document are those that stand in it. -/
theorem Operation.readFrom_of_readAll {operations : List Operation}
    (h : Reading.result (readAll root) = .ok operations) :
    (∀ operation ∈ operations, ∃ item raw, Operation.Stands root item raw ∧
      Operation.ReadFrom root raw operation) ∧
    ∀ item raw, Operation.Stands root item raw →
      ∃ operation ∈ operations, Operation.ReadFrom root raw operation := by
  unfold readAll at h
  split at h
  · rename_i paths hpaths
    rw [result_bind, result_mapM] at h
    obtain ⟨groups, hgroups, h⟩ := bind_eq_ok.mp h
    cases h
    rw [mapM_eq_ok_iff] at hgroups
    constructor
    · intro operation hoperation
      obtain ⟨group, hgroup, hmem⟩ := mem_flatten.mp hoperation
      obtain ⟨entry, hentry, hread⟩ := exists_of_forall₂ hgroups hgroup
      obtain ⟨item, raw, hstands, hfrom⟩ := (readFrom_of_readPath hread).1 operation hmem
      exact ⟨item, raw, ⟨paths, hpaths, entry, hentry, hstands⟩, hfrom⟩
    · rintro item raw ⟨others, hothers, entry, hentry, hstands⟩
      cases hpaths.symm.trans hothers
      obtain ⟨group, hgroup, hread⟩ := exists_of_forall₂ hgroups.flip hentry
      obtain ⟨operation, hmem, hfrom⟩ := (readFrom_of_readPath hread).2 item raw hstands
      exact ⟨operation, mem_flatten.mpr ⟨group, hgroup, hmem⟩, hfrom⟩
  · rename_i hother
    cases h
    refine ⟨by simp, ?_⟩
    rintro item raw ⟨paths, hpaths, -⟩
    exact absurd hpaths (hother paths)

/-- An operation that is not passed over has a response for a status without a number. -/
def Document.Misnumbered (root : Entries) (config : Config) : Prop :=
  ∃ item raw status, Operation.Stands root item raw ∧
    (Schema.isTrue raw "deprecated" && config.excludeDeprecated) = false ∧
    Operation.Answers root raw status ∧ Text.Numberless status

theorem Document.misnumbered_iff {version : Option String} {document : Document}
    (h : Document.ofEntries root version = .ok document) (config : Config) :
    (∃ operation ∈ Endpoint.bound config document.operations, ∃ response ∈ operation.responses,
      Text.Numberless response.status) ↔ Document.Misnumbered root config := by
  have hoperations : Reading.result (readAll root) = .ok document.operations := by
    obtain ⟨parts, hparts, rfl⟩ := exists_of_map_eq_ok h
    have hresult : Reading.result (do return (← Document.readInfo root, ← Document.readSchemas root,
        ← readAll root)) = .ok parts := hparts
    simp only [result_bind] at hresult
    obtain ⟨info, -, hresult⟩ := bind_eq_ok.mp hresult
    obtain ⟨schemas, -, hresult⟩ := bind_eq_ok.mp hresult
    obtain ⟨operations, hread, hresult⟩ := bind_eq_ok.mp hresult
    cases hresult
    exact hread
  obtain ⟨hall, hevery⟩ := readFrom_of_readAll hoperations
  simp only [Endpoint.bound, mem_filter, Bool.not_eq_true']
  constructor
  · rintro ⟨operation, ⟨hoperation, hbound⟩, response, hresponse, hnumberless⟩
    obtain ⟨item, raw, hstands, hfrom⟩ := hall operation hoperation
    rw [hfrom.deprecated] at hbound
    exact ⟨item, raw, response.status, hstands, hbound,
      (hfrom.statuses _).mp ⟨response, hresponse, rfl⟩, hnumberless⟩
  · rintro ⟨item, raw, status, hstands, hbound, hanswers, hnumberless⟩
    obtain ⟨operation, hoperation, hfrom⟩ := hevery item raw hstands
    obtain ⟨response, hresponse, rfl⟩ := (hfrom.statuses status).mpr hanswers
    rw [← hfrom.deprecated] at hbound
    exact ⟨operation, ⟨hoperation, hbound⟩, response, hresponse, hnumberless⟩

/-! ### From a document to the source of its client -/

/-- What lets the way from a document to the source of its client break off unexpectedly. -/
inductive Document.Flawed (root : Entries) (config : Config) : Fault → Prop
  | misread {fault : Fault} : Document.Misread root fault → Flawed root config fault
  | misnumbered : Document.Misnumbered root config → Flawed root config .noSuchValue

theorem Yields.checkVersion (root : Entries) :
    Yields (Document.checkVersion root) (Document.supportedVersion root) := by
  refine (Yields.of _).before_log fun version => ?_
  split
  · exact (Yields.log _ _).bind_ok (Yields.pure version)
  · exact Yields.pure version

theorem Yields.extract (root : Entries) (version : Option String) :
    Yields (Document.extract root version) (Document.ofEntries root version) :=
  (Yields.of _).before_log fun document => (Yields.log _ _).bind_ok (Yields.pure document)

/-- A run that goes through two stages has the flaws of both. -/
theorem Judged.stages {α β : Type} {run : Run α} {result : Except Failure α} {next : α → Run β}
    {flaw later : Fault → Prop} (hyields : Yields run result) (h : Judged result flaw)
    (hnext : ∀ value, result = .ok value → ∀ records, Judged (outcome (next value) records).1 later)
    (records : List Record) :
    Judged (outcome (run >>= next) records).1 fun fault => flaw fault ∨ later fault := by
  have hresult := hyields records
  rw [outcome_bind]
  rcases houtcome : outcome run records with ⟨failure | value, reached⟩
  · rw [houtcome] at hresult
    subst hresult
    refine ⟨fun fault heq => ?_, nofun⟩
    cases heq
    exact (h.sound fault rfl).imp_right .inl
  · rw [houtcome] at hresult
    have hlater := hnext value hresult.symm reached
    refine ⟨fun fault heq => (hlater.sound fault heq).imp_right .inr, fun last hlast fault => ?_⟩
    rintro (hflaw | hflaw)
    · exact h.complete value hresult.symm fault hflaw
    · exact hlater.complete last hlast fault hflaw

theorem Document.judged_supportedVersion (root : Entries) :
    Judged (Document.supportedVersion root) fun _ => False := by
  refine ⟨fun fault h => ?_, fun _ _ _ h => h⟩
  unfold Document.supportedVersion at h
  split at h
  · cases h
  · cases h
  · cases h
  · dsimp only at h
    split at h <;> cases h

/-- If a document was read out of plain values, its client is written, or has the name of a
schema. -/
theorem Client.judged_source {document : Document} {config writing : Config} {compiled : Compiled}
    (hread : ∀ schema ∈ document.allSchemas, schema.ReadFrom Value.Plain)
    (h : document.compiled config = .ok compiled) (records : List Record) :
    Judged (outcome (do return (compiled, ← Client.source compiled writing)) records).1
      fun _ => False := by
  rw [outcome_bind]
  by_cases hname : writing.clientName ∈ compiled.declarations.map (·.identifier)
  · rw [Client.outcome_source_of_taken hname]
    exact ⟨nofun, nofun⟩
  · have hwritable := compiled_writable hread h
    obtain ⟨source, reached, hsource⟩ := Client.returns_source
      (fun expr hexpr => Expr.exists_source (hwritable expr hexpr)) hname records
    rw [hsource]
    exact .flawless

/-- A document in JSON leads to an unexpected fault only if it has a flaw with this fault or if a
conversion does not end; otherwise its client has a source, or there is a failure that says what is
wrong. A document with a flaw has no source. -/
theorem generated_faults (text : String) (root : Entries) (config : Config)
    (htext : Json.read text = .ok (.map root)) :
    (∀ fault, (Client.generated root config).result.1 = .error (.unexpected fault) →
      fault = .endless ∨ Document.Flawed root config fault) ∧
    ∀ made, (Client.generated root config).result.1 = .ok made →
      ∀ fault, ¬Document.Flawed root config fault := by
  have hroot := Json.read_plain htext
  -- one disjunct for each stage, in the order in which they are gone through
  have hjudged : Judged (outcome (Client.generated root config) []).1 fun fault =>
      False ∨ Document.Misread root fault ∨
        (fault = .noSuchValue ∧ Document.Misnumbered root config) ∨ False := by
    rw [Client.generated, Document.ofRoot, bind_assoc]
    refine .stages (.checkVersion root) (Document.judged_supportedVersion root)
      (fun version _ => ?_) []
    refine .stages (.extract root _) (Document.ofEntries_judged hroot _)
      fun document hdocument => ?_
    refine .stages (.compile document config) ?_ fun compiled hcompiled => ?_
    · refine (compiled_judged document config).congr fun fault => and_congr_right fun _ => ?_
      exact Document.misnumbered_iff hdocument config
    · exact Client.judged_source
        (Document.ofEntries_readFrom Value.plain_hereditary hroot hdocument) hcompiled
  have hflawed : Judged (outcome (Client.generated root config) []).1
      (Document.Flawed root config) := by
    refine hjudged.congr fun fault => ⟨?_, fun hflaw => ?_⟩
    · rintro (hnone | hmisread | ⟨rfl, hmisnumbered⟩ | hnone)
      · exact hnone.elim
      · exact .misread hmisread
      · exact .misnumbered hmisnumbered
      · exact hnone.elim
    · cases hflaw with
      | misread hmisread => exact .inr (.inl hmisread)
      | misnumbered hmisnumbered => exact .inr (.inr (.inl ⟨rfl, hmisnumbered⟩))
  exact ⟨hflawed.sound, hflawed.complete⟩

/-- The fault that kept a result from being returned, if it was one. -/
def fault? {α : Type} : Except Failure α → Option Fault
  | .error (.unexpected fault) => some fault
  | _ => none

theorem eq_error_of_fault? {α : Type} {result : Except Failure α} {fault : Fault}
    (h : fault? result = some fault) : result = .error (.unexpected fault) := by
  unfold fault? at h
  split at h <;> cases h
  rfl

/-- A document with a deprecated operation that answers with a superscript. -/
def superscriptText : String :=
  "\x7b\"openapi\": \"3.0.3\", \"paths\": \x7b\"/a\": \x7b\"get\": " ++
    "\x7b\"deprecated\": true, \"responses\": \x7b\"²\": \x7b\x7d\x7d\x7d\x7d\x7d\x7d"

theorem generated_faults_superscriptText :
    ∃ root made, Json.read superscriptText = .ok (.map root) ∧
      (Client.generated root {}).result.1 = .error (.unexpected .noSuchValue) ∧
      Document.Flawed root {} .noSuchValue ∧
      (Client.generated root { excludeDeprecated := true }).result.1 = .ok made ∧
      ∀ fault, ¬Document.Flawed root { excludeDeprecated := true } fault := by
  have hall : (do
      let value ← (Json.read superscriptText).toOption
      let root ← (Document.requireMapping value).toOption
      let _ ← (Client.generated root { excludeDeprecated := true }).result.1.toOption
      fault? (Client.generated root {}).result.1) = some .noSuchValue := by
    decide +kernel
  obtain ⟨root, htext, hrest⟩ := Document.exists_of_read_bind hall
  obtain ⟨made, hmade, hfault⟩ := exists_ok_of_bind hrest
  have hfailed := eq_error_of_fault? hfault
  have hflaw := (generated_faults _ root {} htext).1 _ hfailed
  exact ⟨root, made, htext, hfailed, hflaw.resolve_left nofun, hmade,
    (generated_faults _ root { excludeDeprecated := true } htext).2 made hmade⟩

end OpenApiClient
