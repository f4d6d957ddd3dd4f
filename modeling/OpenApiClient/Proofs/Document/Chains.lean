import OpenApiClient.Document.Pointer
import OpenApiClient.Proofs.Outcome

/-!
# Chains of references

What stands for another component may lead to one that again stands for another. A `Chain` is the
pointers that are followed on the way, each of which is what the value before it says. All chains
from a value are beginnings of the one that ends at a value that stands for itself, if there is such
an end (`Chain.exists_rest`).

A chain is followed to its end exactly if the end is at most 32 pointers away and no pointer comes
twice before it; otherwise one of three things is in the way (`component_chains`).
-/

namespace OpenApiClient.Pointer

open List

/-- Pointers that are followed one after the other from a value, and the value they lead to. -/
inductive Chain (root : Value) : Value → List String → Value → Prop
  | here (value : Value) : Chain root value [] value
  | step {value next last : Value} {ref : String} {refs : List String} :
      reference? value = some ref → resolve root ref = .ok next → Chain root next refs last →
      Chain root value (ref :: refs) last

variable (root value : Value) (hops : Nat) (seen : List String)

/-- The chain comes to an end within a number of pointers, and there is none twice among those and
the ones seen before. -/
def Ends (last : Value) : Prop :=
  ∃ refs, Chain root value refs last ∧ reference? last = none ∧ refs.length ≤ hops ∧
    (seen ++ refs).Nodup

/-- A pointer on the chain leads nowhere. -/
def Broken : Prop :=
  ∃ refs last ref error, Chain root value refs last ∧ reference? last = some ref ∧
    resolve root ref = .error error

/-- A pointer comes twice on the chain, or was seen before. -/
def Circular : Prop := ∃ refs last, Chain root value refs last ∧ ¬ (seen ++ refs).Nodup

/-- The chain has more than a number of pointers. -/
def Exceeds : Prop := ∃ refs last, Chain root value refs last ∧ hops < refs.length

/-- Something keeps the chain from being followed to an end. -/
def Obstructed : Prop :=
  Broken root value ∨ Circular root value seen ∨ Exceeds root value hops

variable {root value hops seen} {last : Value} {ref : String} {refs : List String}

/-! ### Chains -/

/-- Every chain goes on to where the chain ends. -/
theorem Chain.exists_rest (h : Chain root value refs last) :
    ∀ {others : List String} {stop : Value}, Chain root value others stop →
      reference? stop = none → ∃ rest, others = refs ++ rest ∧ Chain root last rest stop := by
  induction h with
  | here value => exact fun hother _ => ⟨_, rfl, hother⟩
  | step href hnext _ ih =>
    intro others stop hother hstop
    cases hother with
    | here => cases hstop.symm.trans href
    | step hsame hreached hrest =>
      cases hsame.symm.trans href
      cases hreached.symm.trans hnext
      obtain ⟨rest, rfl, hlast⟩ := ih hrest hstop
      exact ⟨rest, rfl, hlast⟩

theorem Ends.eq {other : Value} (h : Ends root value hops seen last)
    (hother : Ends root value hops seen other) : last = other := by
  obtain ⟨refs, hchain, hnone, -⟩ := h
  obtain ⟨others, hothers, hstop, -⟩ := hother
  obtain ⟨rest, -, hrest⟩ := hchain.exists_rest hothers hstop
  cases hrest with
  | here => rfl
  | step href _ _ => cases hnone.symm.trans href

theorem Ends.not_obstructed (h : Ends root value hops seen last) :
    ¬ Obstructed root value hops seen := by
  obtain ⟨others, hend, hstop, hlength, hnodup⟩ := h
  rintro (⟨refs, reached, ref, error, hchain, href, herror⟩ | ⟨refs, reached, hchain, htwice⟩ |
    ⟨refs, reached, hchain, hmore⟩)
  · obtain ⟨rest, -, hrest⟩ := hchain.exists_rest hend hstop
    cases hrest with
    | here => cases hstop.symm.trans href
    | step hsame hnext _ =>
      cases hsame.symm.trans href
      cases hnext.symm.trans herror
  · obtain ⟨rest, rfl, -⟩ := hchain.exists_rest hend hstop
    exact htwice (hnodup.sublist ((sublist_append_left refs rest).append_left seen))
  · obtain ⟨rest, rfl, -⟩ := hchain.exists_rest hend hstop
    rw [length_append] at hlength
    omega

section Step

variable {next : Value} (href : reference? value = some ref) (hnext : resolve root ref = .ok next)

include href hnext

theorem Ends.step (h : Ends root next hops (seen ++ [ref]) last) :
    Ends root value (hops + 1) seen last := by
  obtain ⟨refs, hchain, hnone, hlength, hnodup⟩ := h
  refine ⟨ref :: refs, .step href hnext hchain, hnone, Nat.succ_le_succ hlength, ?_⟩
  rwa [append_assoc] at hnodup

theorem Obstructed.step (h : Obstructed root next hops (seen ++ [ref])) :
    Obstructed root value (hops + 1) seen := by
  rcases h with ⟨refs, reached, last, error, hchain, hrest⟩ | ⟨refs, reached, hchain, htwice⟩ |
    ⟨refs, reached, hchain, hmore⟩
  · exact .inl ⟨_, _, _, _, .step href hnext hchain, hrest⟩
  · rw [append_assoc] at htwice
    exact .inr (.inl ⟨_, _, .step href hnext hchain, htwice⟩)
  · exact .inr (.inr ⟨_, _, .step href hnext hchain, Nat.succ_lt_succ hmore⟩)

end Step

/-! ### Following -/

theorem ends_here (hseen : seen.Nodup) (h : reference? value = none) :
    Ends root value hops seen value :=
  ⟨[], .here value, h, Nat.zero_le _, by rwa [append_nil]⟩

theorem obstructed_of_reference (href : reference? value = some ref)
    (h : hops = 0 ∨ ref ∈ seen) : Obstructed root value hops seen := by
  cases hnext : resolve root ref with
  | error error => exact .inl ⟨[], value, ref, error, .here value, href, hnext⟩
  | ok next =>
    have hchain : Chain root value [ref] next := .step href hnext (.here next)
    rcases h with rfl | hmem
    · exact .inr (.inr ⟨_, _, hchain, Nat.zero_lt_one⟩)
    · refine .inr (.inl ⟨_, _, hchain, fun hnodup => ?_⟩)
      exact (nodup_append.mp hnodup).2.2 ref hmem ref (by simp) rfl

/-- Either the end of the chain is found, or something is in the way. -/
theorem followFrom_cases : ∀ {seen : List String} {value : Value}, seen.Nodup →
    (∃ last, followFrom root hops seen value = .ok last ∧ Ends root value hops seen last) ∨
      (∃ error, followFrom root hops seen value = .error error) ∧
        Obstructed root value hops seen := by
  induction hops with
  | zero =>
    intro seen value hseen
    cases href : reference? value with
    | none => exact .inl ⟨value, by rw [followFrom, href], ends_here hseen href⟩
    | some ref =>
      exact .inr ⟨⟨_, by rw [followFrom, href]⟩, obstructed_of_reference href (.inl rfl)⟩
  | succ hops ih =>
    intro seen value hseen
    cases href : reference? value with
    | none => exact .inl ⟨value, by rw [followFrom, href], ends_here hseen href⟩
    | some ref =>
      by_cases hmem : ref ∈ seen
      · refine .inr ⟨⟨.circularReferences (seen ++ [ref]), ?_⟩,
          obstructed_of_reference href (.inr hmem)⟩
        rw [followFrom, href]
        exact if_pos (by simpa using hmem)
      have hfollow : followFrom root (hops + 1) seen value =
          resolve root ref >>= followFrom root hops (seen ++ [ref]) := by
        rw [followFrom, href]
        exact if_neg (by simpa using hmem)
      rw [hfollow]
      cases hnext : resolve root ref with
      | error error =>
        exact .inr ⟨⟨error, rfl⟩, .inl ⟨[], value, ref, error, .here value, href, hnext⟩⟩
      | ok next =>
        have hmore : (seen ++ [ref]).Nodup := by
          simpa [nodup_append] using ⟨hseen, fun a ha heq => hmem (heq ▸ ha)⟩
        rcases @ih _ next hmore with ⟨last, hlast, hends⟩ | ⟨herror, hobstructed⟩
        · exact .inl ⟨last, hlast, hends.step href hnext⟩
        · exact .inr ⟨herror, hobstructed.step href hnext⟩

/-- Following a chain of references gives the value at its end exactly if that is at most 32 pointers
away and no pointer comes twice on the way. It fails exactly if a pointer on the chain leads
nowhere, one comes twice, or there are more than 32. What is found stands for itself. -/
theorem component_chains (root value : Value) :
    (∀ last, follow root value = .ok last ↔ ∃ refs, Chain root value refs last ∧
      reference? last = none ∧ refs.length ≤ 32 ∧ refs.Nodup) ∧
    ((∃ error, follow root value = .error error) ↔
      Broken root value ∨ Circular root value [] ∨ Exceeds root value 32) ∧
    (follow root value >>= follow root) = follow root value := by
  rcases @followFrom_cases root mostHops [] value .nil with
    ⟨found, hfound, hends⟩ | ⟨⟨error, herror⟩, hobstructed⟩
  · obtain ⟨-, -, hnone, -⟩ := id hends
    have hagain : follow root found = .ok found := by rw [follow, followFrom, hnone]
    rw [follow, hfound]
    refine ⟨fun last => ⟨?_, fun hlast => ?_⟩, ⟨?_, fun h => absurd h hends.not_obstructed⟩, hagain⟩
    · rintro ⟨⟩
      exact hends
    · rw [hends.eq hlast]
    · rintro ⟨_, ⟨⟩⟩
  · rw [follow, herror]
    refine ⟨fun last => ⟨?_, fun hlast => ?_⟩, ⟨fun _ => hobstructed, fun _ => ⟨error, rfl⟩⟩, rfl⟩
    · rintro ⟨⟩
    · exact absurd hobstructed (Ends.not_obstructed hlast)

end OpenApiClient.Pointer
