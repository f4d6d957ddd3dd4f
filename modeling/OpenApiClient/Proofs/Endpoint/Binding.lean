import OpenApiClient.Endpoint.Binding
import OpenApiClient.Proofs.Conversion.Plan

/-!
# What binding endpoints keeps

Every expression of an endpoint is either the conversion of a schema of its operation, from an empty
stack, or one of the two that stand in where there is no schema. So whatever conversions of these
schemas keep is kept by binding all endpoints, and what is true of each converted expression is true
of all expressions of the endpoints (`bindAll_keeps`).
-/

namespace OpenApiClient

open Contract List

/-- The schemas that are converted for an operation. -/
def Operation.schemas (operation : Operation) : List Schema :=
  (operation.body.bind (·.schema)).toList ++ operation.parameters.filterMap (·.schema) ++
    operation.responses.filterMap (·.schema)

namespace Operation

variable {operation : Operation} {schema : Schema}

theorem mem_schemas_of_body {body : RequestBody} (hbody : body ∈ operation.body)
    (hschema : schema ∈ body.schema) : schema ∈ operation.schemas := by
  refine mem_append_left _ (mem_append_left _ ?_)
  exact Option.mem_toList.mpr (Option.bind_eq_some_iff.mpr ⟨body, hbody, hschema⟩)

theorem mem_schemas_of_parameter {parameter : Parameter}
    (hparameter : parameter ∈ operation.parameters) (hschema : schema ∈ parameter.schema) :
    schema ∈ operation.schemas :=
  mem_append_left _
    (mem_append_right _ (mem_filterMap.mpr ⟨parameter, hparameter, hschema⟩))

theorem mem_schemas_of_response {response : Response} (hresponse : response ∈ operation.responses)
    (hschema : schema ∈ response.schema) : schema ∈ operation.schemas :=
  mem_append_right _ (mem_filterMap.mpr ⟨response, hresponse, hschema⟩)

end Operation

namespace Endpoint

/-- The expressions of an endpoint: those of its parameters, its response and its errors. -/
def exprs (endpoint : Endpoint) : List Expr :=
  endpoint.parameters.map (·.expr) ++ endpoint.response :: endpoint.errors.map (·.expr)

/-! ### Selected responses -/

theorem mem_insertRanked {response other : Ranked} {sorted : List Ranked} :
    other ∈ insertRanked response sorted ↔ other = response ∨ other ∈ sorted := by
  induction sorted with
  | nil => simp [insertRanked]
  | cons first rest ih =>
    unfold insertRanked
    split
    · simp
    · rw [mem_cons, ih, mem_cons, or_left_comm]

theorem mem_foldl_insertRanked {ranked : List Ranked} :
    ∀ {sorted : List Ranked} {response : Ranked},
      response ∈ ranked.foldl (fun sorted response => insertRanked response sorted) sorted →
        response ∈ ranked ∨ response ∈ sorted := by
  induction ranked with
  | nil => intro sorted response h; exact .inr h
  | cons first rest ih =>
    intro sorted response h
    rcases ih h with h | h
    · exact .inl (mem_cons_of_mem _ h)
    · rcases mem_insertRanked.mp h with rfl | h
      · exact .inl mem_cons_self
      · exact .inr h

variable {responses : List Response}

theorem mem_of_mem_rankedResponses {ordered : List Ranked}
    (h : rankedResponses responses = .ok ordered) :
    ∀ response ∈ ordered, response.2 ∈ responses := by
  unfold rankedResponses at h
  cases hstatuses : responses.mapM fun response => Status.read response.status with
  | error failure => rw [hstatuses] at h; cases h
  | ok statuses =>
    rw [hstatuses] at h
    cases h
    intro response hresponse
    have hranked := (mem_foldl_insertRanked hresponse).resolve_right not_mem_nil
    obtain ⟨⟨status, other⟩, hpair, hsome⟩ := mem_filterMap.mp hranked
    obtain ⟨value, -, rfl⟩ := Option.map_eq_some_iff.mp hsome
    exact (of_mem_zip hpair).2

variable {failure : Failure}

theorem read_error {text : String} (h : Status.read text = .error failure) :
    failure = .unexpected .noSuchValue := by
  unfold Status.read at h
  split at h
  · split at h
    · cases h
    · cases h
      rfl
  · split at h <;> cases h

theorem rankedResponses_error (h : rankedResponses responses = .error failure) :
    failure = .unexpected .noSuchValue := by
  unfold rankedResponses at h
  cases hstatuses : responses.mapM fun response => Status.read response.status with
  | ok statuses => rw [hstatuses] at h; cases h
  | error other =>
    rw [hstatuses] at h
    cases h
    obtain ⟨response, -, hread⟩ := exists_of_mapM_error hstatuses
    exact read_error hread

/-- The selected responses are responses of the operation. -/
theorem mem_of_selectResponses {main : Option Response} {failed : List Response}
    (h : selectResponses responses = .ok (main, failed)) :
    (∀ response ∈ main, response ∈ responses) ∧ ∀ response ∈ failed, response ∈ responses := by
  unfold selectResponses at h
  cases hordered : rankedResponses responses with
  | error failure => rw [hordered] at h; cases h
  | ok ordered =>
    rw [hordered] at h
    have hmem := mem_of_mem_rankedResponses hordered
    simp only [Bind.bind, Except.bind] at h
    split at h
    · rename_i found hfound
      cases h
      refine ⟨?_, ?_⟩
      · rintro response ⟨⟩
        exact hmem found (mem_of_find?_eq_some hfound)
      · intro response hresponse
        obtain ⟨other, hother, rfl⟩ := mem_map.mp hresponse
        exact hmem other (mem_of_mem_filter hother)
    · cases h
      refine ⟨?_, ?_⟩
      · intro response hresponse
        obtain ⟨other, hother, rfl⟩ := Option.map_eq_some_iff.mp hresponse
        exact hmem other (mem_of_find?_eq_some hother)
      · intro response hresponse
        obtain ⟨other, hother, rfl⟩ := mem_map.mp hresponse
        exact hmem other (mem_of_mem_filter (mem_of_mem_eraseP hother))

theorem selectResponses_error (h : selectResponses responses = .error failure) :
    failure = .unexpected .noSuchValue := by
  unfold selectResponses at h
  cases hordered : rankedResponses responses with
  | error other =>
    rw [hordered] at h
    cases h
    exact rankedResponses_error hordered
  | ok ordered =>
    rw [hordered] at h
    simp only [Bind.bind, Except.bind] at h
    split at h <;> cases h

/-! ### Binding keeps what conversions keep -/

open Conversion (Settings Progress Allows)

variable {settings : Settings} {contract : Contract Progress} {good : Expr → Progress → Prop}

/-- What binding relies on: conversions of the schemas from an empty stack keep the contract and
return good expressions, those that stand in where there is no schema are good, and expressions stay
good. -/
structure Bindable (settings : Settings) (contract : Contract Progress)
    (good : Expr → Progress → Prop) (schemas : List Schema) : Prop where
  notes : Allows contract fun _ => False
  fault : contract.fault (.unexpected .noSuchValue)
  stable : ∀ expr first second, contract.grows first second → good expr first → good expr second
  unknown : ∀ optional : Bool, ∀ progress, good
    ((Expr.unknown none).withModifiers (if optional then [{ kind := .optional }] else [])) progress
  void : ∀ progress, good (.ofPrimitive .void) progress
  convert : ∀ schema ∈ schemas, ∀ context, context.stack = [] → ∀ progress, contract.inv progress →
    contract.Keeps (Conversion.convert settings schema context) good progress

theorem Bindable.mono {schemas fewer : List Schema}
    (h : Bindable settings contract good schemas) (hfewer : ∀ schema ∈ fewer, schema ∈ schemas) :
    Bindable settings contract good fewer :=
  { h with convert := fun schema hschema => h.convert schema (hfewer schema hschema) }

theorem Bindable.response {operation : Operation} {response : Option Response}
    (h : Bindable settings contract good operation.schemas)
    (hresponse : ∀ given ∈ response, given ∈ operation.responses) :
    Bindable settings contract good (response.bind (·.schema)).toList :=
  h.mono fun schema hschema => by
    obtain ⟨given, hgiven, hschema⟩ :=
      Option.bind_eq_some_iff.mp (Option.mem_toList.mp hschema)
    exact Operation.mem_schemas_of_response (hresponse given hgiven) hschema

variable {progress : Progress}

theorem bindSchema_keeps {schema : Option Schema}
    (h : Bindable settings contract good schema.toList) (location : String) (optional : Bool)
    (hinv : contract.inv progress) :
    contract.Keeps (bindSchema settings schema location optional) good progress := by
  cases schema with
  | none => exact keeps_pure hinv (h.unknown optional progress)
  | some schema => exact h.convert schema mem_cons_self _ rfl progress hinv

theorem bindResponse_keeps {response : Option Response}
    (h : Bindable settings contract good (response.bind (·.schema)).toList) (location : String)
    (hinv : contract.inv progress) :
    contract.Keeps (bindResponse settings response location) good progress := by
  cases response with
  | none => exact keeps_pure hinv (h.void progress)
  | some response =>
    cases hmedia : response.mediaType with
    | none =>
      simp only [bindResponse, hmedia]
      exact keeps_pure hinv (h.void progress)
    | some mediaType =>
      cases hschema : response.schema with
      | none =>
        simp only [bindResponse, hmedia, hschema]
        exact keeps_pure hinv (h.unknown false progress)
      | some schema =>
        simp only [bindResponse, hmedia, hschema]
        exact h.convert schema (by simp [hschema]) _ rfl progress hinv

/-- Good expressions that are each put into a record of their own. -/
theorem mapM_wrap_keeps {ι ρ : Type} {items : List ι} {act : ι → Convert Expr} (wrap : ι → Expr → ρ)
    (view : ρ → Expr) (hview : ∀ item expr, view (wrap item expr) = expr)
    (hstable : ∀ expr first second, contract.grows first second → good expr first →
      good expr second) (hact : ∀ item ∈ items, ∀ progress, contract.inv progress →
      contract.Keeps (act item) good progress) (hinv : contract.inv progress) :
    contract.Keeps (items.mapM fun item => do
        let expr ← act item
        return wrap item expr)
      (fun records reached => ∀ record ∈ records, good (view record) reached) progress := by
  have hwrapped : ∀ item ∈ items, ∀ state, contract.inv state → contract.Keeps
      (do let expr ← act item; return wrap item expr)
      (fun record reached => good (view record) reached) state := by
    intro item hitem state hstate
    apply keeps_bind (hact item hitem state hstate)
    intro expr reached hreached _ hexpr
    exact keeps_pure hreached ((hview item expr).symm ▸ hexpr)
  have hrecords : ∀ (_ : ι) (record : ρ) (first second : Progress), contract.grows first second →
      good (view record) first → good (view record) second :=
    fun _ record => hstable (view record)
  refine (keeps_mapM hrecords hwrapped progress hinv).mono ?_
  intro records reached _ _ hrecords
  exact forall_mem_of_forall₂ hrecords

/-- Every expression of the endpoint of an operation is good. -/
theorem bind_keeps {operation : Operation} (h : Bindable settings contract good operation.schemas)
    (hinv : contract.inv progress) :
    contract.Keeps (Endpoint.bind settings operation)
      (fun endpoint reached => ∀ expr ∈ endpoint.exprs, good expr reached) progress := by
  unfold Endpoint.bind
  apply keeps_bind (mapM_wrap_keeps _ (·.expr) (fun _ _ => rfl) h.stable
    (fun body hbody state hstate => bindSchema_keeps (h.mono fun schema hschema =>
      Operation.mem_schemas_of_body (Option.mem_toList.mp hbody) (Option.mem_toList.mp hschema))
      _ _ hstate) hinv)
  intro body bodied hbodied _ hbody
  apply keeps_bind (mapM_wrap_keeps _ (·.expr) (fun _ _ => rfl) h.stable
    (fun parameter hparameter state hstate => bindSchema_keeps (h.mono fun schema hschema =>
      Operation.mem_schemas_of_parameter (fst_mem_of_mem_zipIdx hparameter)
        (Option.mem_toList.mp hschema)) _ _ hstate) hbodied)
  intro parameters taken htaken hgrows hparameters
  cases hselected : selectResponses operation.responses with
  | error failure =>
    have hfault : contract.fault failure := selectResponses_error hselected ▸ h.fault
    have hstop : contract.Keeps
        (throw failure : Convert (Option Response × List Response)) (fun _ _ => False) taken :=
      keeps_throw htaken hfault
    exact keeps_bind hstop fun _ _ _ _ hfalse => hfalse.elim
  | ok selection =>
    obtain ⟨main, failed⟩ := selection
    obtain ⟨hmain, hfailed⟩ := mem_of_selectResponses hselected
    simp only [pure_bind]
    apply keeps_bind (bindResponse_keeps (h.response hmain) _ htaken)
    intro response answered hanswered hgrows' hresponse
    apply keeps_bind (mapM_wrap_keeps _ (·.expr) (fun _ _ => rfl) h.stable
      (fun error herror state hstate => bindResponse_keeps
        (h.response fun given hgiven => Option.some.inj hgiven ▸ hfailed error herror)
        _ hstate) hanswered)
    intro errors last hlast hgrows'' herrors
    refine keeps_pure hlast fun expr hexpr => ?_
    have hlater := contract.trans hgrows' hgrows''
    simp only [exprs, map_append, mem_append, mem_cons, mem_map] at hexpr
    rcases hexpr with (⟨parameter, hmem, rfl⟩ | ⟨parameter, hmem, rfl⟩) | rfl | ⟨error, hmem, rfl⟩
    · exact h.stable _ _ _ (contract.trans hgrows hlater) (hbody parameter hmem)
    · exact h.stable _ _ _ hlater (hparameters parameter hmem)
    · exact h.stable _ _ _ hgrows'' hresponse
    · exact herrors error hmem

/-- Every expression of the endpoints is good. -/
theorem bindAll_keeps :
    ∀ {operations : List Operation},
      Bindable settings contract good (operations.flatMap (·.schemas)) →
      ∀ progress, contract.inv progress →
        contract.Keeps (bindAll settings operations)
          (fun endpoints reached => ∀ endpoint ∈ endpoints, ∀ expr ∈ endpoint.exprs,
            good expr reached) progress := by
  intro operations
  induction operations with
  | nil =>
    intro _ progress hinv
    exact keeps_pure hinv (by simp)
  | cons operation rest ih =>
    intro h progress hinv
    rw [flatMap_cons] at h
    have hrest := ih (h.mono fun schema hschema => mem_append_right _ hschema)
    unfold bindAll
    split
    · apply keeps_bind (Conversion.keeps_log h.notes hinv _ _)
      intro _ logged hlogged _ _
      exact hrest logged hlogged
    · have hfirst := h.mono fun schema hschema => mem_append_left _ hschema
      apply keeps_bind (bind_keeps hfirst hinv)
      intro endpoint bound hbound _ hendpoint
      apply keeps_bind (hrest bound hbound)
      intro endpoints last hlast hgrows hendpoints
      refine keeps_pure hlast (forall_mem_cons.mpr ⟨fun expr hexpr => ?_, hendpoints⟩)
      exact h.stable _ _ _ hgrows (hendpoint expr hexpr)

end Endpoint

end OpenApiClient
