import OpenApiClient.Client.Source
import OpenApiClient.Proofs.Outcome
import OpenApiClient.Proofs.Text.Integer

/-!
# The statuses of errors

The status of every error stands in the source of the client, as a text or, if it consists of digits,
as it is. Not all digits make an integer literal: they may be digits of another script, and they may
start with a zero. A status is written as it should be unless it is of that kind
(`error_status_legal_iff`).
-/

namespace OpenApiClient

open Json List

/-! ### Integer literals -/

/-- The digits from `0` to `9`, of which the first is no zero unless it is the only one. -/
def PlainInteger (text : String) : Prop :=
  text ≠ "" ∧ (∀ c ∈ text.toList, isDecimal c = true) ∧
    (text.toList.head? = some '0' → text = "0")

/-- An integer literal, with its value. -/
def IntegerLiteral (text : String) (value : Nat) : Prop :=
  PlainInteger text ∧ decimalNat text.toList = value

namespace Text

theorem decimalValue?_of_isDecimal {c : Char} (h : isDecimal c = true) :
    decimalValue? c = some (c.toNat - '0'.toNat) := by
  obtain ⟨hleast, hmost⟩ := Bool.and_eq_true_iff.mp h
  have hleast : 48 ≤ c.toNat := of_decide_eq_true hleast
  have hmost : c.toNat ≤ 57 := of_decide_eq_true hmost
  simp [decimalValue?, decimalZeros, hleast, hmost]

theorem numeral_decimalNat {digits : List Char} (hne : digits ≠ [])
    (h : ∀ c ∈ digits, isDecimal c = true) : Numeral digits (decimalNat digits) := by
  induction digits using List.reverseRecOn with
  | nil => exact absurd rfl hne
  | append_singleton digits c ih =>
    have hlast := decimalValue?_of_isDecimal (h c (by simp))
    rw [decimalNat, foldl_append]
    by_cases hnil : digits = []
    · subst hnil
      simpa using Numeral.digit hlast
    · exact (ih hnil fun d hd => h d (mem_append_left _ hd)).next hlast

/-- A literal is worth the integer that it denotes as a text. -/
theorem numeralValue?_of_plainInteger {text : String} (h : PlainInteger text) :
    numeralValue? text.toList = some (decimalNat text.toList) :=
  numeralValue?_eq_some_iff.mpr (numeral_decimalNat (by simpa using h.1) h.2.1)

end Text

namespace Client

/-- A status is written as a text, or as an integer literal that is worth what the status denotes,
however many digits it has. -/
def LegalStatus (status written : String) : Prop :=
  written = writeString status ∨
    ∃ value : Nat, Text.signedValue? Text.numeralValue? status = some (value : Int) ∧
      IntegerLiteral written value

theorem legalStatus_iff (status : String) :
    LegalStatus status (statusText status) ↔
      (Text.isDigitText status = true → PlainInteger status) := by
  unfold statusText
  split
  · rename_i hdigits
    constructor
    · rintro (htext | ⟨value, -, hliteral⟩) -
      · -- no digit is a quote
        rw [Text.isDigitText, Bool.and_eq_true, all_eq_true] at hdigits
        have hquote : '"' ∈ status.toList := by
          rw [htext]
          simp [writeString]
        cases hdigits.2 '"' hquote
      · exact hliteral.1
    · intro h
      refine .inr ⟨_, ?_, h hdigits, rfl⟩
      rw [Text.signedValue?_of_digits _ hdigits, Text.numeralValue?_of_plainInteger (h hdigits)]
      rfl
  · rename_i hdigits
    exact ⟨fun _ h => absurd h hdigits, fun _ => .inl rfl⟩

/-! ### The lines of a client -/

theorem exists_of_mem_outcome_mapM {α β : Type} {act : α → Run β} {items : List α} {item : α}
    (hitem : item ∈ items) :
    ∀ {records values reached}, outcome (items.mapM act) records = (.ok values, reached) →
      ∃ value ∈ values, ∃ before after, outcome (act item) before = (.ok value, after) := by
  induction items with
  | nil => cases hitem
  | cons first rest ih =>
    intro records values reached h
    obtain ⟨value, others, middle, rfl, hvalue, hothers⟩ := outcome_mapM_cons_ok.mp h
    rcases mem_cons.mp hitem with rfl | hitem
    · exact ⟨value, .head _, records, middle, hvalue⟩
    · obtain ⟨found, hfound, houtcome⟩ := ih hitem hothers
      exact ⟨found, .tail _ hfound, houtcome⟩

/-- The line with the status of an error. -/
def statusLine (error : Endpoint.ErrorResponse) : String :=
  "        status: " ++ statusText error.status ++ ","

variable {identifiers : List (String × String)} {error : Endpoint.ErrorResponse}
  {records reached : List Record} {lines : List String}

theorem mem_errorLines (h : outcome (errorLines identifiers error) records = (.ok lines, reached)) :
    statusLine error ∈ lines := by
  obtain ⟨schema, middle, -, h⟩ := outcome_bind_ok.mp h
  cases h
  exact .tail _ (.head _)

theorem mem_endpointLines {endpoint : Endpoint} (herror : error ∈ endpoint.errors)
    (h : outcome (endpointLines identifiers endpoint) records = (.ok lines, reached)) :
    statusLine error ∈ lines := by
  obtain ⟨parameters, first, -, h⟩ := outcome_bind_ok.mp h
  obtain ⟨response, second, -, h⟩ := outcome_bind_ok.mp h
  obtain ⟨errors, third, herrors, h⟩ := outcome_bind_ok.mp h
  cases h
  obtain ⟨found, hfound, before, after, houtcome⟩ := exists_of_mem_outcome_mapM herror herrors
  have hmem : statusLine error ∈ errors.flatten :=
    mem_flatten.mpr ⟨found, hfound, mem_errorLines houtcome⟩
  have hlisted : statusLine error ∈ listLines "errors" errors.flatten := by
    unfold listLines
    split
    · rename_i hnone
      rw [List.isEmpty_iff.mp hnone] at hmem
      cases hmem
    · exact mem_append_left _ (mem_append_right _ hmem)
  exact mem_append_left _ (mem_append_right _ hlisted)

/-- Every line of a text stands in it. -/
theorem exists_of_mem_lines {line : String} (h : line ∈ lines) :
    ∃ before after, String.join (lines.map (· ++ "\n")) = before ++ (line ++ "\n") ++ after := by
  obtain ⟨first, rest, rfl⟩ := append_of_mem h
  refine ⟨String.join (first.map (· ++ "\n")), String.join (rest.map (· ++ "\n")), ?_⟩
  rw [map_append, String.join_append, map_cons, String.join_cons,
    ← String.append_assoc]

theorem statusLine_in_source {compiled : Compiled} {config : Config} {client : String}
    {endpoint : Endpoint} (hendpoint : endpoint ∈ compiled.endpoints)
    (herror : error ∈ endpoint.errors)
    (h : outcome (source compiled config) records = (.ok client, reached)) :
    ∃ before after, client = before ++ (statusLine error ++ "\n") ++ after := by
  unfold source at h
  dsimp only at h
  split at h
  · cases h
  obtain ⟨declarations, first, -, h⟩ := outcome_bind_ok.mp h
  obtain ⟨endpoints, second, hendpoints, h⟩ := outcome_bind_ok.mp h
  cases h
  obtain ⟨found, hfound, before, after, houtcome⟩ := exists_of_mem_outcome_mapM hendpoint hendpoints
  have hmem : statusLine error ∈ endpoints.flatten :=
    mem_flatten.mpr ⟨found, hfound, mem_endpointLines herror houtcome⟩
  exact exists_of_mem_lines (mem_append_left _ (mem_append_left _
    (mem_append_right _ hmem)))

/-- The status of every error of every endpoint stands in the source of the client. It is written as
a text or as an integer literal for the number it denotes, unless it consists of digits that start
with a zero or are not all between `0` and `9`. -/
theorem error_status_legal_iff {compiled : Compiled} {config : Config} {client : String}
    (h : (source compiled config).result.1 = .ok client) :
    ∀ endpoint ∈ compiled.endpoints, ∀ error ∈ endpoint.errors,
      (∃ before after, client =
        before ++ ("        status: " ++ statusText error.status ++ ",\n") ++ after) ∧
      (LegalStatus error.status (statusText error.status) ↔
        (Text.isDigitText error.status = true → PlainInteger error.status)) := by
  intro endpoint hendpoint error herror
  refine ⟨?_, legalStatus_iff error.status⟩
  have hline : statusLine error ++ "\n" =
      "        status: " ++ statusText error.status ++ ",\n" := by
    unfold statusLine
    -- otherwise the rewrite would unfold how the status is written
    generalize statusText error.status = text
    rw [String.append_assoc]
    rfl
  simp only [← hline]
  exact statusLine_in_source hendpoint herror (Prod.ext h rfl)

/-- A client with three errors, of which the first is written with a zero at the start. -/
def paddedClient : Compiled where
  endpoints := [{ method := .get, path := "/a", response := .ofPrimitive .void
                  errors := ["0404", "404", "5XX"].map fun status =>
                    { status, expr := .unknown none } }]

theorem error_status_legal_iff_padded :
    ∃ client, (source paddedClient {}).result.1 = .ok client ∧
      (∃ before after, client = before ++ "        status: 0404,\n" ++ after) ∧
      ¬ LegalStatus "0404" (statusText "0404") ∧ LegalStatus "404" (statusText "404") ∧
      LegalStatus "5XX" (statusText "5XX") := by
  obtain ⟨client, hclient⟩ := exists_eq_ok
    (by decide +kernel : (source paddedClient {}).result.1.isOk = true)
  have hstatus := error_status_legal_iff hclient _ (.head _)
  have hpadded := hstatus { status := "0404", expr := .unknown none } (by simp)
  have hplain := hstatus { status := "404", expr := .unknown none } (by simp)
  have hrange := hstatus { status := "5XX", expr := .unknown none } (by simp)
  have hline : "        status: " ++ statusText "0404" ++ ",\n" = "        status: 0404,\n" := by
    decide +kernel
  simp only [hline] at hpadded
  refine ⟨client, hclient, hpadded.1, fun hlegal => ?_, hplain.2.mpr fun _ => ?_,
    hrange.2.mpr fun hdigits => ?_⟩
  · exact absurd ((hpadded.2.mp hlegal (by decide)).2.2 rfl) (by decide)
  · exact ⟨by decide, all_eq_true.mp (by decide), by decide⟩
  · exact absurd hdigits (by decide)

end Client

end OpenApiClient
