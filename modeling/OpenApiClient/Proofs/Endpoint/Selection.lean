import Mathlib.Data.List.Nodup
import Mathlib.Data.Prod.Lex
import OpenApiClient.Endpoint.Binding
import OpenApiClient.Proofs.Outcome
import OpenApiClient.Proofs.Text.Integer

/-!
# Which responses are selected

The main response is the first success in the order of statuses, or the first default if there is no
success; the other responses that mean something and are no success are the failed ones, in the same
order. Responses with the same status keep the order in which they are written.

All this is said of the positions of responses, so that of two equal responses each counts for
itself: `Before` is the order of positions, `IsMain` says which position is the main one. Putting
the responses in order one after the other also puts their positions in order, since each response
goes behind those that have the same status (`exists_insertRanked`).
-/

namespace OpenApiClient

open List

variable {text : String}

namespace Endpoint

/-! ### What a status means -/

variable {status : Status}

namespace Status

/-- The letter of a range in both cases. -/
def letters : List Char := ['x', 'X']

/-- What a text stands for as a status: a number in digits, a digit from one to five with two
letters x and perhaps a line end, or the word for all others. -/
inductive Denotes : String → Status → Prop
  | code {text : String} {value : Nat} : Text.isDigitText text = true →
      Text.natValue? text.toList = some value → Denotes text (.code value)
  | range {digit a b : Char} {line : List Char} : '1' ≤ digit → digit ≤ '5' → a ∈ letters →
      b ∈ letters → line ∈ [[], ['\n']] →
      Denotes (String.ofList (digit :: a :: b :: line)) (.range (digit.toNat - '0'.toNat))
  | default : Denotes "default" .default

/-- The range of success in either case. -/
def successRange : List String := ["2xx", "2xX", "2Xx", "2XX"]

/-- A status of success: a number from 200 to 299, or the range of these. -/
def Succeeds (text : String) : Prop :=
  (∃ value, Denotes text (.code value) ∧ 200 ≤ value ∧ value < 300) ∨ text ∈ successRange

theorem isDigit_letter {c : Char} (h : c ∈ letters) : Text.isDigit c = false := by
  have hnone : letters.any Text.isDigit = false := by decide
  simpa using any_eq_false.mp hnone c h

/-- The range that three characters denote. -/
theorem range?_parts {digit a b : Char} {line : List Char}
    (htext : text.toList = digit :: a :: b :: line) (hline : line ∈ [[], ['\n']]) :
    range? text = if '1' ≤ digit ∧ digit ≤ '5' ∧ a ∈ letters ∧ b ∈ letters then
      some (digit.toNat - '0'.toNat) else none := by
  unfold range?
  rw [mem_cons, mem_singleton] at hline
  rcases hline with rfl | rfl
  · simp [htext, letters, and_assoc]
  · simp [htext, letters, and_assoc]

theorem range?_eq_some_iff {hundreds : Nat} : range? text = some hundreds ↔
    ∃ digit a b line, text.toList = digit :: a :: b :: line ∧ '1' ≤ digit ∧ digit ≤ '5' ∧
      a ∈ letters ∧ b ∈ letters ∧ line ∈ [[], ['\n']] ∧ hundreds = digit.toNat - '0'.toNat := by
  constructor
  · intro h
    obtain ⟨digit, a, b, line, htext, hline⟩ : ∃ digit a b line,
        text.toList = digit :: a :: b :: line ∧ line ∈ [[], ['\n']] := by
      unfold range? at h
      dsimp only at h
      split at h
      · rename_i digit a b htext
        exact ⟨digit, a, b, [], htext, by decide⟩
      · rename_i digit a b htext
        exact ⟨digit, a, b, ['\n'], htext, by decide⟩
      · cases h
    rw [range?_parts htext hline] at h
    split at h
    · rename_i hparts
      obtain ⟨hlow, hhigh, ha, hb⟩ := hparts
      exact ⟨digit, a, b, line, htext, hlow, hhigh, ha, hb, hline, (Option.some.inj h).symm⟩
    · cases h
  · rintro ⟨digit, a, b, line, htext, hlow, hhigh, ha, hb, hline, rfl⟩
    rw [range?_parts htext hline, if_pos ⟨hlow, hhigh, ha, hb⟩]

theorem denotes_of_read (h : read text = .ok (some status)) : Denotes text status := by
  unfold read at h
  split at h
  · rename_i hdigits
    split at h
    · rename_i value hvalue
      cases h
      exact .code hdigits hvalue
    · cases h
  · split at h
    · rename_i hundreds hrange
      cases h
      obtain ⟨digit, a, b, line, htext, hlow, hhigh, ha, hb, hline, rfl⟩ :=
        range?_eq_some_iff.mp hrange
      rw [← @String.ofList_toList text, htext]
      exact .range hlow hhigh ha hb hline
    · split at h
      · rename_i hword
        cases h
        rw [hword]
        exact .default
      · cases h

theorem read_of_denotes (h : Denotes text status) : read text = .ok (some status) := by
  cases h with
  | code hdigits hvalue => rw [read, if_pos hdigits, hvalue]
  | @range digit a b line hlow hhigh ha hb hline =>
    have hrange : range? (String.ofList (digit :: a :: b :: line)) = _ :=
      range?_eq_some_iff.mpr
        ⟨digit, a, b, line, String.toList_ofList, hlow, hhigh, ha, hb, hline, rfl⟩
    have hdigits : Text.isDigitText (String.ofList (digit :: a :: b :: line)) = false := by
      simp [Text.isDigitText, isDigit_letter ha]
    rw [read, hdigits, hrange]
    rfl
  | default => rfl

theorem Denotes.eq {first second : Status} (hfirst : Denotes text first)
    (hsecond : Denotes text second) : first = second := by
  have hread := read_of_denotes hfirst
  rw [read_of_denotes hsecond] at hread
  exact (Option.some.inj (Except.ok.inj hread)).symm

theorem denotes_successRange : ∀ text ∈ successRange, Denotes text (.range 2) := by
  have hread : ∀ text ∈ successRange, (read text).toOption = some (some (.range 2)) := by decide
  exact fun text htext => denotes_of_read (eq_ok_of_toOption (hread text htext))

theorem Succeeds.denotes (h : Succeeds text) : ∃ status, Denotes text status := by
  rcases h with ⟨value, hvalue, -⟩ | hmem
  · exact ⟨_, hvalue⟩
  · exact ⟨_, denotes_successRange text hmem⟩

/-- Of the texts for ranges, those for the range of success are the same in capitals. -/
theorem toUpper_iff {hundreds : Nat} (h : Denotes text (.range hundreds)) :
    text.toUpper = "2XX" ↔ text ∈ successRange := by
  have hupper : ∀ text ∈ successRange, text.toList.map Char.toUpper = "2XX".toList := by decide
  rw [String.toUpper, ← String.toList_inj, String.toList_map]
  refine ⟨fun hcapitals => ?_, hupper text⟩
  generalize hstatus : Status.range hundreds = status at h
  cases h with
  | code _ _ => cases hstatus
  | default => cases hstatus
  | @range digit a b line hlow hhigh ha hb hline =>
    obtain ⟨hdigit, -, -, rfl⟩ :
        digit.toUpper = '2' ∧ a.toUpper = 'X' ∧ b.toUpper = 'X' ∧ line = [] := by
      simpa using hcapitals
    have hsmall : ¬ ('a'.val ≤ digit.val ∧ digit.val ≤ 'z'.val) :=
      fun hletter => absurd (UInt32.le_trans hletter.1 hhigh) (by decide)
    have hsame : digit.toUpper = digit := dif_neg hsmall
    rw [← hsame, hdigit]
    simp only [letters, mem_cons, not_mem_nil, or_false] at ha hb
    rcases ha with rfl | rfl <;> rcases hb with rfl | rfl <;> decide

end Status

open Status (Denotes Succeeds)

variable {response : Response}

theorem isSuccess_iff (h : Denotes response.status status) :
    isSuccess (status, response) = true ↔ Succeeds response.status := by
  have hrange : response.status ∈ Status.successRange → status = .range 2 :=
    fun hmem => h.eq (Status.denotes_successRange _ hmem)
  cases status with
  | code value =>
    simp only [isSuccess, Bool.and_eq_true, decide_eq_true_eq]
    constructor
    · exact fun hbounds => .inl ⟨value, h, hbounds⟩
    · rintro (⟨other, hother, hbounds⟩ | hmem)
      · cases hother.eq h
        exact hbounds
      · cases hrange hmem
  | range hundreds =>
    rw [isSuccess, decide_eq_true_eq, Status.toUpper_iff h]
    refine ⟨.inr, ?_⟩
    rintro (⟨other, hother, -⟩ | hmem)
    · cases hother.eq h
    · exact hmem
  | default =>
    refine ⟨fun htrue => absurd htrue (by simp [isSuccess]), ?_⟩
    rintro (⟨other, hother, -⟩ | hmem)
    · cases hother.eq h
    · cases hrange hmem

/-! ### Positions of responses -/

variable {responses : List Response}

/-- What the status of the response at a position stands for. -/
def StatusAt (responses : List Response) (i : Nat) (status : Status) : Prop :=
  ∃ response, responses[i]? = some response ∧ Denotes response.status status

/-- The response at a position is a success. -/
def SuccessAt (responses : List Response) (i : Nat) : Prop :=
  ∃ response, responses[i]? = some response ∧ Succeeds response.status

/-- A position comes before another one by its status, or as the earlier one of two with the same
status. -/
def Before (responses : List Response) (i j : Nat) : Prop :=
  ∃ first second, StatusAt responses i first ∧ StatusAt responses j second ∧
    (toLex first.key < toLex second.key ∨ first.key = second.key ∧ i < j)

/-- A position is the first one with a property. -/
def First (responses : List Response) (property : Nat → Prop) (i : Nat) : Prop :=
  property i ∧ ∀ j, property j → j ≠ i → Before responses i j

/-- The position of the main response: the first success, else the first default, if there is
any. -/
inductive IsMain (responses : List Response) : Option Nat → Prop
  | success {i : Nat} : First responses (SuccessAt responses) i → IsMain responses (some i)
  | default {i : Nat} : (∀ j, ¬ SuccessAt responses j) →
      First responses (StatusAt responses · .default) i → IsMain responses (some i)
  | none : (∀ j, ¬ SuccessAt responses j ∧ ¬ StatusAt responses j .default) → IsMain responses none

/-- A choice among responses: the position of the main one, and those of all others that mean
something and are no success, in order. -/
structure Selection (responses : List Response) (main : Option Nat) (failed : List Nat) : Prop where
  isMain : IsMain responses main
  ordered : failed.Pairwise (Before responses)
  mem : ∀ i, i ∈ failed ↔
    (∃ status, StatusAt responses i status) ∧ ¬ SuccessAt responses i ∧ main ≠ some i

/-! ### Putting responses in order -/

/-- What the status of a response stands for, if anything. -/
def status? (response : Response) : Option Status :=
  (Status.read response.status).toOption.join

theorem status?_eq_some_iff : status? response = some status ↔ Denotes response.status status := by
  rw [status?, Option.join_eq_some_iff]
  exact ⟨fun h => Status.denotes_of_read (eq_ok_of_toOption h),
    fun h => by rw [Status.read_of_denotes h]; rfl⟩

/-- A response with what its status stands for. -/
def ranked? (response : Response) : Option Ranked := (status? response).map (·, response)

theorem ranked?_eq_some_iff {ranked : Ranked} :
    ranked? response = some ranked ↔ ranked.2 = response ∧ Denotes response.status ranked.1 := by
  simp only [ranked?, Option.map_eq_some_iff, status?_eq_some_iff]
  constructor
  · rintro ⟨status, hstatus, rfl⟩
    exact ⟨rfl, hstatus⟩
  · rintro ⟨rfl, hstatus⟩
    exact ⟨ranked.1, hstatus, rfl⟩

/-- The order of responses with their positions. -/
def Earlier (first second : Ranked × Nat) : Prop :=
  toLex first.1.1.key < toLex second.1.1.key ∨
    first.1.1.key = second.1.1.key ∧ first.2 < second.2

theorem isAfter_iff {first second : Status} :
    first.isAfter second = true ↔ toLex second.key < toLex first.key := by
  simp only [Status.isAfter, Bool.or_eq_true, Bool.and_eq_true, decide_eq_true_eq,
    Prod.Lex.toLex_lt_toLex]

/-- A response with a later position goes behind those that have the same status, so that the
positions stay in order too. -/
theorem exists_insertRanked {sorted : List (Ranked × Nat)} {last : Ranked × Nat}
    (hsorted : sorted.Pairwise Earlier) (hlast : ∀ item ∈ sorted, item.2 < last.2) :
    ∃ next : List (Ranked × Nat), next.map (·.1) = insertRanked last.1 (sorted.map (·.1)) ∧
      next.Perm (last :: sorted) ∧ next.Pairwise Earlier := by
  induction sorted with
  | nil => exact ⟨[last], rfl, .refl _, pairwise_singleton _ _⟩
  | cons first rest ih =>
    rw [pairwise_cons] at hsorted
    rw [forall_mem_cons] at hlast
    rw [map_cons, insertRanked]
    by_cases hafter : first.1.1.isAfter last.1.1 = true
    · rw [if_pos hafter]
      -- all that follow are beyond the new one, since they are not before the first
      have hless := isAfter_iff.mp hafter
      refine ⟨last :: first :: rest, rfl, .refl _, pairwise_cons.mpr ⟨?_, ?_⟩⟩
      · refine forall_mem_cons.mpr ⟨.inl hless, fun item hitem => .inl ?_⟩
        rcases hsorted.1 item hitem with hlater | ⟨hsame, -⟩
        · exact hless.trans hlater
        · rwa [← hsame]
      · exact pairwise_cons.mpr hsorted
    · rw [if_neg hafter]
      obtain ⟨next, hnext, hperm, hpairwise⟩ := ih hsorted.2 hlast.2
      refine ⟨first :: next, by rw [map_cons, hnext], ?_, ?_⟩
      · exact (hperm.cons first).trans (.swap ..)
      · refine pairwise_cons.mpr ⟨fun item hitem => ?_, hpairwise⟩
        rcases mem_cons.mp (hperm.mem_iff.mp hitem) with rfl | hitem
        · rw [isAfter_iff, not_lt] at hafter
          rcases hafter.lt_or_eq with hless | hsame
          · exact .inl hless
          · -- with the same status the later position comes later
            exact .inr ⟨hsame, hlast.1⟩
        · exact hsorted.1 item hitem

theorem exists_foldl_insertRanked {items : List (Ranked × Nat)} :
    ∀ {sorted : List (Ranked × Nat)}, sorted.Pairwise Earlier → items.Pairwise (·.2 < ·.2) →
      (∀ first ∈ sorted, ∀ item ∈ items, first.2 < item.2) →
      ∃ next : List (Ranked × Nat),
        next.map (·.1) = (items.map (·.1)).foldl (fun sorted ranked => insertRanked ranked sorted)
          (sorted.map (·.1)) ∧ next.Perm (sorted ++ items) ∧ next.Pairwise Earlier := by
  induction items with
  | nil =>
    intro sorted hsorted _ _
    exact ⟨sorted, rfl, by rw [append_nil], hsorted⟩
  | cons item rest ih =>
    intro sorted hsorted hitems hbounds
    rw [pairwise_cons] at hitems
    obtain ⟨next, hnext, hperm, hpairwise⟩ :=
      exists_insertRanked hsorted fun first hfirst => hbounds first hfirst item mem_cons_self
    have hrest : ∀ first ∈ next, ∀ other ∈ rest, first.2 < other.2 := by
      intro first hfirst other hother
      rcases mem_cons.mp (hperm.mem_iff.mp hfirst) with rfl | hfirst
      · exact hitems.1 other hother
      · exact hbounds first hfirst other (mem_cons_of_mem _ hother)
    obtain ⟨last, hlast, hlastPerm, hlastPairwise⟩ := ih hpairwise hitems.2 hrest
    refine ⟨last, by rw [hlast, hnext]; rfl, hlastPerm.trans ?_, hlastPairwise⟩
    exact (hperm.append_right rest).trans perm_middle.symm

/-- The responses that mean something, with their positions. -/
def placed (responses : List Response) : List (Ranked × Nat) :=
  responses.zipIdx.filterMap fun entry => (ranked? entry.1).map (·, entry.2)

variable {item : Ranked × Nat}

theorem mem_placed : item ∈ placed responses ↔
    responses[item.2]? = some item.1.2 ∧ Denotes item.1.2.status item.1.1 := by
  simp only [placed, mem_filterMap, Option.map_eq_some_iff, ranked?_eq_some_iff]
  constructor
  · rintro ⟨⟨response, i⟩, hmem, ranked, ⟨rfl, hstatus⟩, rfl⟩
    exact ⟨mk_mem_zipIdx_iff_getElem?.mp hmem, hstatus⟩
  · rintro ⟨hget, hstatus⟩
    have hmem := mk_mem_zipIdx_iff_getElem?.mpr hget
    exact ⟨(item.1.2, item.2), hmem, item.1, ⟨rfl, hstatus⟩, rfl⟩

theorem map_fst_placed (responses : List Response) :
    (placed responses).map (·.1) = responses.filterMap ranked? := by
  have hfst : ∀ entry : Response × Nat,
      ((ranked? entry.1).map (·, entry.2)).map (·.1) = ranked? entry.1 := by
    simp [Function.comp_def]
  rw [placed, map_filterMap]
  simp only [hfst]
  rw [← Function.comp_def ranked?, ← filterMap_map, zipIdx_map_fst]

theorem pairwise_placed (responses : List Response) : (placed responses).Pairwise (·.2 < ·.2) := by
  have hindices : responses.zipIdx.Pairwise (·.2 < ·.2) := by
    have hrange : (responses.zipIdx.map (·.2)).Pairwise (· < ·) := by
      rw [zipIdx_map_snd]
      exact pairwise_lt_range'
    exact pairwise_map.mp hrange
  refine hindices.filterMap _ fun first second hless item hitem other hother => ?_
  obtain ⟨ranked, -, rfl⟩ := Option.map_eq_some_iff.mp hitem
  obtain ⟨later, -, rfl⟩ := Option.map_eq_some_iff.mp hother
  exact hless

theorem exists_read
    (h : Text.isDigitText text = true →
      (Text.intValue? text).isSome = true) : ∃ status, Status.read text = .ok status := by
  unfold Status.read
  split
  · rename_i hdigits
    have hsome := h hdigits
    rw [Text.intValue?, Text.signedValue?_of_digits _ hdigits, Option.isSome_map] at hsome
    obtain ⟨value, hvalue⟩ := Option.isSome_iff_exists.mp hsome
    exact ⟨_, by rw [hvalue]⟩
  · split
    · exact ⟨_, rfl⟩
    · exact ⟨_, rfl⟩

/-- The responses that mean something can be put in order, together with their positions. -/
theorem exists_rankedResponses (h : ∀ response ∈ responses,
      Text.isDigitText response.status = true → (Text.intValue? response.status).isSome = true) :
    ∃ sorted : List (Ranked × Nat), rankedResponses responses = .ok (sorted.map (·.1)) ∧
      sorted.Perm (placed responses) ∧ sorted.Pairwise Earlier := by
  obtain ⟨statuses, hstatuses⟩ :=
    exists_mapM_eq_ok fun response hresponse => exists_read (h response hresponse)
  obtain ⟨rfl, -⟩ := @eq_map_of_mapM _ _ _ _ _ _ status?
    (fun response status hread => by rw [status?, hread]; rfl) hstatuses
  obtain ⟨sorted, hsorted, hperm, hpairwise⟩ :=
    @exists_foldl_insertRanked (placed responses) [] .nil (pairwise_placed responses) (by simp)
  have hzip : (responses.map status?).zip responses =
      responses.map fun response => (status? response, response) := by
    rw [← zip_map', map_id']
  have hranked : ((responses.map status?).zip responses).filterMap
      (fun pair => pair.1.map (·, pair.2)) = responses.filterMap ranked? := by
    rw [hzip, filterMap_map]
    rfl
  refine ⟨sorted, ?_, hperm, hpairwise⟩
  rw [hsorted, rankedResponses, hstatuses, map_fst_placed, ← hranked]
  rfl

/-! ### Selecting -/

variable {found : Ranked × Nat}

theorem selectResponses_of_success {sorted : List (Ranked × Nat)}
    (h : rankedResponses responses = .ok (sorted.map (·.1)))
    (hfound : sorted.find? (isSuccess ·.1) = some found) : selectResponses responses =
      .ok (some found.1.2, (sorted.filter (!isSuccess ·.1)).map (·.1.2)) := by
  have hfind : (sorted.map (·.1)).find? isSuccess = some found.1 := by
    rw [find?_map, Function.comp_def, hfound]
    rfl
  rw [selectResponses, h]
  simp only [Bind.bind, Except.bind, hfind]
  rw [filter_map, map_map]
  rfl

theorem selectResponses_of_none {sorted : List (Ranked × Nat)}
    (h : rankedResponses responses = .ok (sorted.map (·.1)))
    (hnone : ∀ item ∈ sorted, isSuccess item.1 = false) : selectResponses responses =
      .ok ((sorted.find? (·.1.1 = .default)).map (·.1.2),
        (sorted.eraseP (·.1.1 = .default)).map (·.1.2)) := by
  have hfind : (sorted.map (·.1)).find? isSuccess = none := by
    rw [find?_map, Function.comp_def, find?_eq_none.mpr (by simpa using hnone)]
    rfl
  have hfilter : (sorted.map (·.1)).filter (!isSuccess ·) = sorted.map (·.1) := by
    rw [filter_eq_self, forall_mem_map]
    exact fun item hitem => by rw [hnone item hitem]; rfl
  rw [selectResponses, h]
  simp only [Bind.bind, Except.bind, hfind, hfilter]
  rw [find?_map, eraseP_map, Option.map_map, map_map]
  rfl

theorem mem_eraseP_of_find? {α : Type} {property : α → Bool} {items : List α} {found : α}
    (hitems : items.Nodup) (h : items.find? property = some found) {item : α} :
    item ∈ items.eraseP property ↔ item ∈ items ∧ item ≠ found := by
  obtain ⟨hfound, before, after, rfl, hbefore⟩ := find?_eq_some_iff_append.mp h
  rw [eraseP_append_right _ (by simpa using hbefore), eraseP_cons_of_pos hfound]
  have hnot : found ∉ before ++ after :=
    (nodup_cons.mp (perm_middle.nodup_iff.mp hitems)).1
  rw [perm_middle.mem_iff, mem_cons]
  constructor
  · exact fun hitem => ⟨.inr hitem, fun heq => hnot (heq ▸ hitem)⟩
  · exact fun hitem => hitem.1.resolve_left hitem.2

/-- A list of exactly the responses that mean something, with their positions and in order. -/
structure Sorted (responses : List Response) (sorted : List (Ranked × Nat)) : Prop where
  mem : ∀ item, item ∈ sorted ↔
    responses[item.2]? = some item.1.2 ∧ Denotes item.1.2.status item.1.1
  ordered : sorted.Pairwise Earlier

namespace Sorted

variable {sorted : List (Ranked × Nat)} (h : Sorted responses sorted)

include h

theorem eq_of_position {other : Ranked × Nat} (hitem : item ∈ sorted) (hother : other ∈ sorted)
    (heq : item.2 = other.2) : item = other := by
  obtain ⟨hget, hstatus⟩ := (h.mem item).mp hitem
  obtain ⟨hgetOther, hstatusOther⟩ := (h.mem other).mp hother
  rw [heq, hgetOther, Option.some.injEq] at hget
  rw [← hget] at hstatus
  exact Prod.ext (Prod.ext (hstatus.eq hstatusOther) hget.symm) heq

theorem nodup : sorted.Nodup := by
  refine h.ordered.imp fun {item other} hless heq => ?_
  rcases heq ▸ hless with hless | ⟨-, hless⟩
  · exact lt_irrefl _ hless
  · exact lt_irrefl _ hless

variable {i : Nat}

theorem statusAt_iff :
    StatusAt responses i status ↔ ∃ item ∈ sorted, item.2 = i ∧ item.1.1 = status := by
  constructor
  · rintro ⟨response, hget, hstatus⟩
    exact ⟨((status, response), i), (h.mem _).mpr ⟨hget, hstatus⟩, rfl, rfl⟩
  · rintro ⟨item, hitem, rfl, rfl⟩
    exact ⟨item.1.2, (h.mem item).mp hitem⟩

theorem successAt_iff :
    SuccessAt responses i ↔ ∃ item ∈ sorted, item.2 = i ∧ isSuccess item.1 = true := by
  constructor
  · rintro ⟨response, hget, hsucceeds⟩
    obtain ⟨status, hstatus⟩ := hsucceeds.denotes
    exact ⟨((status, response), i), (h.mem _).mpr ⟨hget, hstatus⟩, rfl,
      (isSuccess_iff hstatus).mpr hsucceeds⟩
  · rintro ⟨item, hitem, rfl, hsuccess⟩
    obtain ⟨hget, hstatus⟩ := (h.mem item).mp hitem
    exact ⟨item.1.2, hget, (isSuccess_iff hstatus).mp hsuccess⟩

theorem before {other : Ranked × Nat} (hitem : item ∈ sorted) (hother : other ∈ sorted)
    (hless : Earlier item other) : Before responses item.2 other.2 :=
  ⟨item.1.1, other.1.1, h.statusAt_iff.mpr ⟨item, hitem, rfl, rfl⟩,
    h.statusAt_iff.mpr ⟨other, hother, rfl, rfl⟩, hless⟩

/-- The first item with a property has the first position with it. -/
theorem first_of_find? {property : Ranked × Nat → Bool} {holds : Nat → Prop}
    (hholds : ∀ i, holds i ↔ ∃ item ∈ sorted, item.2 = i ∧ property item = true)
    (hfound : sorted.find? property = some found) : First responses holds found.2 := by
  have hmem := mem_of_find?_eq_some hfound
  obtain ⟨hself, before, after, hsplit, hbefore⟩ := find?_eq_some_iff_append.mp hfound
  refine ⟨(hholds _).mpr ⟨found, hmem, rfl, hself⟩, fun j hj hne => ?_⟩
  obtain ⟨item, hitem, rfl, hproperty⟩ := (hholds j).mp hj
  have hordered := h.ordered
  rw [hsplit, pairwise_append, pairwise_cons] at hordered
  refine h.before hmem hitem (hordered.2.1.1 item ?_)
  rw [hsplit, mem_append, mem_cons] at hitem
  rcases hitem with hitem | rfl | hitem
  · have hnot := hbefore item hitem
    rw [hproperty] at hnot
    cases hnot
  · exact absurd rfl hne
  · exact hitem

/-- What is left over of the responses in order beside the main one. -/
theorem selection {main : Option Nat} (hmain : IsMain responses main) {items : List (Ranked × Nat)}
    (hsub : items.Sublist sorted)
    (hitems : ∀ item ∈ sorted, item ∈ items ↔ isSuccess item.1 = false ∧ main ≠ some item.2) :
    Selection responses main (items.map (·.2)) := by
  refine ⟨hmain, pairwise_map.mpr ?_, fun i => ?_⟩
  · exact (h.ordered.sublist hsub).imp_of_mem fun hitem hother =>
      h.before (hsub.subset hitem) (hsub.subset hother)
  · rw [mem_map]
    constructor
    · rintro ⟨item, hitem, rfl⟩
      have hmem := hsub.subset hitem
      obtain ⟨hfails, hmain⟩ := (hitems item hmem).mp hitem
      refine ⟨⟨item.1.1, h.statusAt_iff.mpr ⟨item, hmem, rfl, rfl⟩⟩, fun hsuccess => ?_, hmain⟩
      obtain ⟨other, hother, heq, htrue⟩ := h.successAt_iff.mp hsuccess
      rw [h.eq_of_position hother hmem heq, hfails] at htrue
      cases htrue
    · rintro ⟨⟨status, hstatus⟩, hfails, hmain⟩
      obtain ⟨item, hitem, rfl, -⟩ := h.statusAt_iff.mp hstatus
      refine ⟨item, (hitems item hitem).mpr ⟨Bool.eq_false_iff.mpr fun htrue => ?_, hmain⟩, rfl⟩
      exact hfails (h.successAt_iff.mpr ⟨item, hitem, rfl, htrue⟩)

theorem filterMap_positions {items : List (Ranked × Nat)} (hsub : items.Sublist sorted) :
    (items.map (·.2)).filterMap (responses[·]?) = items.map (·.1.2) := by
  rw [filterMap_map, ← filterMap_eq_map]
  exact filterMap_congr fun item hitem => ((h.mem item).mp (hsub.subset hitem)).1

/-- The first success is the main response, and all that are no success have failed. -/
theorem selection_of_success (hfound : sorted.find? (isSuccess ·.1) = some found) :
    Selection responses (some found.2) ((sorted.filter (!isSuccess ·.1)).map (·.2)) := by
  refine h.selection (.success (h.first_of_find? (fun _ => h.successAt_iff) hfound))
    filter_sublist fun item hitem => ?_
  -- a success is left out anyway, so that the main response needs no look at its position
  have hne : isSuccess item.1 = false → some found.2 ≠ some item.2 := by
    intro hfails heq
    have hself := find?_some hfound
    rw [h.eq_of_position (mem_of_find?_eq_some hfound) hitem (Option.some.inj heq),
      hfails] at hself
    cases hself
  simpa [mem_filter, hitem] using hne

theorem not_successAt (hfails : ∀ item ∈ sorted, isSuccess item.1 = false) (i : Nat) :
    ¬ SuccessAt responses i := by
  intro hi
  obtain ⟨item, hitem, -, htrue⟩ := h.successAt_iff.mp hi
  rw [hfails item hitem] at htrue
  cases htrue

theorem defaultAt_iff : StatusAt responses i .default ↔
    ∃ item ∈ sorted, item.2 = i ∧ decide (item.1.1 = .default) = true := by
  simpa using h.statusAt_iff

/-- Without a success, the first default is the main response, and all others have failed: a second
default too. -/
theorem selection_of_default (hfails : ∀ item ∈ sorted, isSuccess item.1 = false)
    (hfound : sorted.find? (·.1.1 = .default) = some found) :
    Selection responses (some found.2) ((sorted.eraseP (·.1.1 = .default)).map (·.2)) := by
  have hmem := mem_of_find?_eq_some hfound
  have hfirst := h.first_of_find? (fun _ => h.defaultAt_iff) hfound
  refine h.selection (.default (h.not_successAt hfails) hfirst) eraseP_sublist
    fun item hitem => ?_
  rw [mem_eraseP_of_find? h.nodup hfound, Ne.eq_def (some _), Option.some.injEq]
  constructor
  · rintro ⟨-, hne⟩
    exact ⟨hfails item hitem, fun heq => hne (h.eq_of_position hmem hitem heq).symm⟩
  · rintro ⟨-, hne⟩
    exact ⟨hitem, fun heq => hne (by rw [heq])⟩

/-- Without a success and a default there is no main response. -/
theorem selection_of_none (hfails : ∀ item ∈ sorted, isSuccess item.1 = false)
    (hfound : sorted.find? (·.1.1 = .default) = none) :
    Selection responses none ((sorted.eraseP (·.1.1 = .default)).map (·.2)) := by
  have hnone := find?_eq_none.mp hfound
  have hdefault : ∀ i, ¬ StatusAt responses i .default := by
    intro i hi
    obtain ⟨item, hitem, -, htrue⟩ := h.defaultAt_iff.mp hi
    exact hnone item hitem htrue
  refine h.selection (.none fun i => ⟨h.not_successAt hfails i, hdefault i⟩) eraseP_sublist
    fun item hitem => ?_
  rw [eraseP_of_forall_not hnone]
  simp [hitem, hfails item hitem]

/-- What is selected from the responses in order. -/
theorem selects (hranked : rankedResponses responses = .ok (sorted.map (·.1))) :
    ∃ main failed, Selection responses main failed ∧
      selectResponses responses =
        .ok (main.bind (responses[·]?), failed.filterMap (responses[·]?)) := by
  have hget : ∀ {found : Ranked × Nat} {property : Ranked × Nat → Bool},
      sorted.find? property = some found → responses[found.2]? = some found.1.2 :=
    fun hfound => ((h.mem _).mp (mem_of_find?_eq_some hfound)).1
  cases hsuccess : sorted.find? (isSuccess ·.1) with
  | some found =>
    refine ⟨_, _, h.selection_of_success hsuccess, ?_⟩
    rw [selectResponses_of_success hranked hsuccess, h.filterMap_positions filter_sublist,
      Option.bind_some, hget hsuccess]
  | none =>
    have hfails : ∀ item ∈ sorted, isSuccess item.1 = false := by
      simpa using find?_eq_none.mp hsuccess
    rw [selectResponses_of_none hranked hfails]
    cases hfound : sorted.find? (·.1.1 = .default) with
    | some found =>
      refine ⟨_, _, h.selection_of_default hfails hfound, ?_⟩
      rw [h.filterMap_positions eraseP_sublist, Option.bind_some, hget hfound]
      rfl
    | none =>
      refine ⟨_, _, h.selection_of_none hfails hfound, ?_⟩
      rw [h.filterMap_positions eraseP_sublist]
      rfl

end Sorted

/-- In whatever order responses are written, they come out in the same one if no two of their
statuses have the same place. -/
theorem map_fst_eq_of_perm {others : List Response} (hperm : others.Perm responses)
    (hkeys : responses.Pairwise fun first second => ∀ status other,
      Denotes first.status status → Denotes second.status other → status.key ≠ other.key)
    {sorted again : List (Ranked × Nat)} (hsorted : sorted.Perm (placed responses))
    (hagain : again.Perm (placed others)) (hordered : sorted.Pairwise Earlier)
    (hreordered : again.Pairwise Earlier) : again.map (·.1) = sorted.map (·.1) := by
  have hapart : ((responses.filterMap ranked?).map (·.1.key)).Nodup := by
    refine pairwise_map.mpr ?_
    refine hkeys.filterMap _ fun first second hne ranked hranked other hother => ?_
    obtain ⟨rfl, hstatus⟩ := ranked?_eq_some_iff.mp hranked
    obtain ⟨rfl, hother⟩ := ranked?_eq_some_iff.mp hother
    exact hne _ _ hstatus hother
  have hsame : (sorted.map (·.1)).Perm (responses.filterMap ranked?) :=
    map_fst_placed responses ▸ hsorted.map _
  have hothers : (again.map (·.1)).Perm (responses.filterMap ranked?) :=
    (map_fst_placed others ▸ hagain.map _).trans (hperm.filterMap _)
  have hweak : ∀ {items : List (Ranked × Nat)}, items.Pairwise Earlier →
      (items.map (·.1)).Pairwise fun first second => toLex first.1.key ≤ toLex second.1.key := by
    intro items hitems
    refine pairwise_map.mpr (hitems.imp fun hless => ?_)
    rcases hless with hless | ⟨heq, -⟩
    · exact hless.le
    · exact (congrArg toLex heq).le
  -- both are the same responses in order, and no two of them could change places
  refine List.Perm.eq_of_pairwise ?_ (hweak hreordered) (hweak hordered) (hothers.trans hsame.symm)
  intro first second hfirst hsecond hle hge
  exact inj_on_of_nodup_map hapart (hothers.mem_iff.mp hfirst) (hsame.mem_iff.mp hsecond)
    (toLex.injective (le_antisymm hle hge))

/-- The main response and the failed ones are the ones that their statuses say, in the order of
statuses, and if no two statuses have the same place in this order, it does not matter in which
order the responses are written. -/
theorem responses_selected (responses : List Response)
    (hnumbers : ∀ response ∈ responses, Text.isDigitText response.status = true →
      (Text.intValue? response.status).isSome = true) :
    (∃ main failed, Selection responses main failed ∧
      selectResponses responses =
        .ok (main.bind (responses[·]?), failed.filterMap (responses[·]?))) ∧
    ∀ others : List Response, others.Perm responses →
      (responses.Pairwise fun first second => ∀ status other,
        Denotes first.status status → Denotes second.status other → status.key ≠ other.key) →
      selectResponses others = selectResponses responses := by
  obtain ⟨sorted, hranked, hsorted, hordered⟩ := exists_rankedResponses hnumbers
  refine ⟨?_, fun others hperm hkeys => ?_⟩
  · have hmem : Sorted responses sorted :=
      ⟨fun item => hsorted.mem_iff.trans mem_placed, hordered⟩
    exact hmem.selects hranked
  · obtain ⟨again, hagain, hplaced, hreordered⟩ :=
      exists_rankedResponses fun response hmem => hnumbers response (hperm.mem_iff.mp hmem)
    rw [map_fst_eq_of_perm hperm hkeys hsorted hplaced hordered hreordered] at hagain
    rw [selectResponses, selectResponses, hagain, hranked]

/-- Responses of all kinds, of which the third and the last have the same status. -/
def mixedResponses : List Response :=
  [{ status := "default" }, { status := "4XX\n" }, { status := "204" }, { status := "2xX" },
   { status := "again" }, { status := "٤٠٤" }, { status := "204", description := some "later" }]

theorem responses_selected_mixed :
    (∀ response ∈ mixedResponses, Text.isDigitText response.status = true →
      (Text.intValue? response.status).isSome = true) ∧
    (∃ main failed, Selection mixedResponses main failed ∧
      selectResponses mixedResponses =
        .ok (main.bind (mixedResponses[·]?), failed.filterMap (mixedResponses[·]?))) ∧
    selectResponses (mixedResponses.take 6).reverse = selectResponses (mixedResponses.take 6) := by
  have hnumbers : ∀ response ∈ mixedResponses, Text.isDigitText response.status = true →
      (Text.intValue? response.status).isSome = true := by decide
  refine ⟨hnumbers, (responses_selected mixedResponses hnumbers).1, ?_⟩
  refine (responses_selected (mixedResponses.take 6) fun response hmem =>
    hnumbers response (mem_of_mem_take hmem)).2 _ (reverse_perm _) ?_
  have hapart : (mixedResponses.take 6).Pairwise fun first second =>
      ∀ status ∈ status? first, ∀ other ∈ status? second, status.key ≠ other.key := by decide
  exact hapart.imp fun hne status other hstatus hother =>
    hne status (status?_eq_some_iff.mpr hstatus) other (status?_eq_some_iff.mpr hother)

end Endpoint

end OpenApiClient
