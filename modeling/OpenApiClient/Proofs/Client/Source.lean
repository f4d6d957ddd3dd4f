import OpenApiClient.Client.Source
import OpenApiClient.Proofs.Client.Declarations
import OpenApiClient.Proofs.Conversion.Spelled
import OpenApiClient.Proofs.Document.Reader

/-!
# Every compiled client has a source

The source of a client is written in many steps that can fail on their own: identifiers are looked
up, first values and first arguments are taken, values are written as literals. For a document that
was read from JSON none of them fails, and all that can go wrong is that the name of the client is
also the identifier of a schema (`source_of_json`).

What the steps rely on comes from different places. The parts of expressions have the shape their
kind needs, because schemas that are read are well-formed. Literals can be written, because JSON
has plain values only and conversions carry them over. References are declared, because all names
are declared before the endpoints are bound.
-/

namespace OpenApiClient

open List

open Conversion (Settings Progress)

/-! ### Expressions that can be written -/

variable {compiled : Compiled}

theorem exists_identifier {name : String} (h : name ∈ compiled.declarations.map (·.name)) :
    ∃ identifier, compiled.identifiers.lookup name = some identifier := by
  obtain ⟨declared, hdeclared, rfl⟩ := mem_map.mp h
  refine Option.isSome_iff_exists.mp (lookup_isSome_iff.mpr ?_)
  exact ⟨_, mem_map_of_mem hdeclared, by simp⟩

variable {config : Config}

/-- If all schemas of a document were read out of plain values, nothing keeps any part of an
expression of the compiled document from being written. -/
theorem compiled_writable {document : Document}
    (hread : ∀ schema ∈ document.allSchemas, schema.ReadFrom Value.Plain)
    (h : document.compiled config = .ok compiled) :
    ∀ expr ∈ compiled.exprs, expr.Every (Expr.Writable compiled.identifiers) := by
  have hfit : ∀ schema ∈ document.allSchemas, schema.Every (Schema.WellFormed Value.Plain) :=
    fun schema hschema => (hread schema hschema).wellFormed Value.plain_hereditary
  have hshaped := compiled_every (fun settings => Conversion.wellFormed_rules settings Value.Plain)
    Conversion.wellFormed_optional_unknown (Conversion.wellFormed_ofPrimitive .void) hfit h
  have hspelled := compiled_every Conversion.spelled_rules Conversion.spelled_optional_unknown
    (Conversion.spelled_of_nil rfl rfl) hfit h
  intro expr hexpr part hpart
  refine ⟨(hshaped expr hexpr part hpart).shaped, hspelled expr hexpr part hpart, fun hkind => ?_⟩
  obtain ⟨name, href⟩ := compiled_targeted h expr hexpr part hpart hkind
  obtain ⟨mode, hmode⟩ : ∃ mode : ReferenceMode, part.kind = mode.kind :=
    hkind.elim (fun hnamed => ⟨.named, hnamed⟩) fun hlazy => ⟨.lazy, hlazy⟩
  have hname := Expr.mem_references_of_part mode hpart hmode href
  obtain ⟨identifier, hlookup⟩ :=
    exists_identifier (compiled_references h expr hexpr mode name hname)
  exact ⟨name, identifier, href, hlookup⟩

/-! ### Writing a client -/

namespace Client

variable {identifiers : List (String × String)}

theorem returns_of {α : Type} {result : Except Failure α} (h : ∃ value, result = .ok value)
    (records : List Record) : Returns (Run.of result) records := by
  obtain ⟨value, rfl⟩ := h
  exact ⟨value, records, rfl⟩

theorem returns_parameterLines {endpoint : Endpoint} {parameter : Endpoint.Parameter}
    (h : ∃ text, parameter.expr.source identifiers = .ok text) (records : List Record) :
    Returns (parameterLines identifiers endpoint parameter) records := by
  unfold parameterLines
  split
  · exact returns_bind (returns_modify _ _) fun _ _ _ => returns_pure _ _
  · exact returns_bind (returns_of h records) fun _ _ _ => returns_pure _ _

theorem returns_errorLines {error : Endpoint.ErrorResponse}
    (h : ∃ text, error.expr.source identifiers = .ok text) (records : List Record) :
    Returns (errorLines identifiers error) records :=
  returns_bind (returns_of h records) fun _ _ _ => returns_pure _ _

theorem returns_endpointLines {endpoint : Endpoint}
    (h : ∀ expr ∈ endpoint.exprs, ∃ text, expr.source identifiers = .ok text)
    (records : List Record) : Returns (endpointLines identifiers endpoint) records := by
  simp only [Endpoint.exprs, mem_append, mem_cons, mem_map] at h
  unfold endpointLines
  refine returns_bind (returns_mapM (fun parameter hparameter => returns_parameterLines ?_) records)
    fun _ _ _ => ?_
  · exact h _ (.inl ⟨parameter, hparameter, rfl⟩)
  refine returns_bind (returns_of (h _ (.inr (.inl rfl))) _) fun _ _ _ => ?_
  refine returns_bind (returns_mapM (fun error herror => returns_errorLines ?_) _) fun _ _ _ => ?_
  · exact h _ (.inr (.inr ⟨error, herror, rfl⟩))
  exact returns_pure _ _

theorem any_identifier_iff {name : String} :
    (compiled.identifiers.any fun identifier => decide (identifier.2 = name)) = true ↔
      name ∈ compiled.declarations.map (·.identifier) := by
  simp [Compiled.identifiers]

/-- A client whose name is no identifier is written if all its expressions can be. -/
theorem returns_source
    (h : ∀ expr ∈ compiled.exprs, ∃ text, expr.source compiled.identifiers = .ok text)
    (hname : config.clientName ∉ compiled.declarations.map (·.identifier)) (records : List Record) :
    Returns (source compiled config) records := by
  have hfree := Bool.eq_false_iff.mpr (mt any_identifier_iff.mp hname)
  have hdeclaration : ∀ declared ∈ compiled.declarations, ∀ state,
      Returns (declarationLine compiled.identifiers declared) state := by
    intro declared hdeclared state
    have hsource := h declared.expr (mem_append_left _ (mem_map_of_mem hdeclared))
    exact returns_bind (returns_of hsource state) fun _ _ _ => returns_pure _ _
  have hendpoint : ∀ endpoint ∈ compiled.endpoints, ∀ state,
      Returns (endpointLines compiled.identifiers endpoint) state := by
    intro endpoint hendpoint
    refine returns_endpointLines fun expr hexpr => h expr ?_
    exact mem_append_right _ (mem_flatMap.mpr ⟨endpoint, hendpoint, hexpr⟩)
  unfold source
  simp only [hfree]
  refine returns_bind (returns_mapM hdeclaration records) fun declarations reached _ => ?_
  exact returns_bind (returns_mapM hendpoint reached) fun _ _ _ => returns_pure _ _

theorem outcome_source_of_taken
    (hname : config.clientName ∈ compiled.declarations.map (·.identifier)) (records : List Record) :
    outcome (source compiled config) records =
      (.error (.render (.clientNameTaken config.clientName)), records) := by
  unfold source
  simp only [any_identifier_iff.mpr hname]
  rfl

theorem source_of_taken (hname : config.clientName ∈ compiled.declarations.map (·.identifier)) :
    (source compiled config).result.1 = .error (.render (.clientNameTaken config.clientName)) :=
  congrArg Prod.fst (outcome_source_of_taken hname [])

end Client

/-- The client of a compiled document that was read from JSON has a source, unless its name is also
the identifier of a schema, and this is then the failure that is reported. -/
theorem source_of_json (text : String) (root : Entries) (version : Option String)
    (document : Document) (config writing : Config) (compiled : Compiled)
    (htext : Json.read text = .ok (.map root))
    (hdocument : Document.ofEntries root version = .ok document)
    (hcompiled : (document.compile config).result.1 = .ok compiled) :
    ((∃ source, (Client.source compiled writing).result.1 = .ok source) ↔
      writing.clientName ∉ compiled.declarations.map (·.identifier)) ∧
    (writing.clientName ∈ compiled.declarations.map (·.identifier) →
      (Client.source compiled writing).result.1 =
        .error (.render (.clientNameTaken writing.clientName))) := by
  rw [compile_result] at hcompiled
  have hread := Document.ofEntries_readFrom Value.plain_hereditary (Json.read_plain htext) hdocument
  have hwritable := compiled_writable hread hcompiled
  refine ⟨⟨?_, fun hname => ?_⟩, Client.source_of_taken⟩
  · rintro ⟨source, hsource⟩ hname
    rw [Client.source_of_taken hname] at hsource
    cases hsource
  · obtain ⟨source, reached, hsource⟩ := Client.returns_source
      (fun expr hexpr => Expr.exists_source (hwritable expr hexpr)) hname []
    exact ⟨source, congrArg Prod.fst hsource⟩

/-- A document with a choice that has a default, and an operation that refers to it. -/
def stateText : String :=
  "\x7b\"components\": \x7b\"schemas\": \x7b\"State\": " ++
    "\x7b\"enum\": [\"on\", 1.5, null], \"default\": [1]\x7d\x7d\x7d, " ++
    "\"paths\": \x7b\"/states\": \x7b\"get\": \x7b\"responses\": \x7b\"200\": " ++
    "\x7b\"content\": \x7b\"application/json\": \x7b\"schema\": " ++
    "\x7b\"type\": \"array\", \"items\": \x7b\"$ref\": \"#/components/schemas/State\"\x7d\x7d\x7d\x7d\x7d\x7d\x7d\x7d\x7d\x7d"

theorem source_of_json_stateText :
    ∃ root document, ∃ compiled : Compiled, Json.read stateText = .ok (.map root) ∧
      Document.ofEntries root none = .ok document ∧
      (document.compile {}).result.1 = .ok compiled ∧
      (∃ source, (Client.source compiled {}).result.1 = .ok source) ∧
      (Client.source compiled { clientName := "State" }).result.1 =
        .error (.render (.clientNameTaken "State")) := by
  have hall : (do
      let value ← (Json.read stateText).toOption
      let root ← (Document.requireMapping value).toOption
      let document ← (Document.ofEntries root none).toOption
      let compiled ← (document.compile {}).result.1.toOption
      return compiled.declarations.map (·.identifier) : Option (List String)) = some ["State"] := by
    decide +kernel
  obtain ⟨root, htext, hrest⟩ := Document.exists_of_read_bind hall
  obtain ⟨document, hdocument, hrest⟩ := exists_ok_of_bind hrest
  obtain ⟨compiled, hcompiled, hnames⟩ := exists_ok_of_bind hrest
  have hidentifiers : compiled.declarations.map (·.identifier) = ["State"] := Option.some.inj hnames
  have hwritten := source_of_json stateText root none document {} {} compiled htext hdocument
    hcompiled
  have htaken := source_of_json stateText root none document {} { clientName := "State" } compiled
    htext hdocument hcompiled
  rw [hidentifiers] at hwritten htaken
  exact ⟨root, document, compiled, htext, hdocument, hcompiled, hwritten.1.mpr (by decide),
    htaken.2 (by decide)⟩

end OpenApiClient
