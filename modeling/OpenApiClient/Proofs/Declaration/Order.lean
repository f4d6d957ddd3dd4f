import Mathlib.Data.List.Perm.Subperm
import OpenApiClient.Declaration.Order
import OpenApiClient.Proofs.Named

/-!
# Names are ordered after those they refer to

The order of declarations is found by taking, again and again, the first name whose references are
all met. This file proves what one such step keeps (`Ordered.step`): the names taken so far stand
once and after those they refer to, the numbers of unmet references are right, and the places that
are ready are exactly those of the remaining names without an unmet reference. By induction this
holds of the whole run, and at its end no place is ready (`run_ordered`).

If the references descend along some rank, a remaining name of least rank would be ready. So then
nothing remains and all names are ordered (`order_eq_ok`).
-/

namespace OpenApiClient.Declaration.Graph

open List

/-! ### Places -/

variable {name : String} {names : List String}

/-- A name is found at its last place. -/
theorem getElem?_lastPlace (h : name ∈ names) : names[lastPlace names name]? = some name := by
  have hindex : names.reverse.idxOf name < names.reverse.length :=
    idxOf_lt_length_of_mem (mem_reverse.mpr h)
  have hfound : names.reverse[names.reverse.idxOf name] = name := getElem_idxOf hindex
  rw [getElem_reverse] at hfound
  rw [List.getElem?_eq_some_iff]
  exact ⟨_, hfound⟩

theorem lastPlace_injective {first second : String} (hfirst : first ∈ names)
    (hsecond : second ∈ names) (h : lastPlace names first = lastPlace names second) :
    first = second := by
  have hsome := getElem?_lastPlace hfirst
  rw [h, getElem?_lastPlace hsecond] at hsome
  exact (Option.some.inj hsome).symm

variable {place : Nat}

theorem mem_insertPlace {other : Nat} {places : List Nat} :
    other ∈ insertPlace place places ↔ other = place ∨ other ∈ places := by
  induction places with
  | nil => simp [insertPlace]
  | cons first rest ih =>
    unfold insertPlace
    split
    · simp only [mem_cons, ih]
      tauto
    · simp

theorem insertPlace_sorted {places : List Nat} (hsorted : places.Pairwise (· < ·))
    (hnew : place ∉ places) : (insertPlace place places).Pairwise (· < ·) := by
  induction places with
  | nil => simp [insertPlace]
  | cons first rest ih =>
    rw [pairwise_cons] at hsorted
    rw [mem_cons, not_or] at hnew
    unfold insertPlace
    split
    · rename_i hlt
      refine pairwise_cons.mpr ⟨fun other hother => ?_, ih hsorted.2 hnew.2⟩
      rcases mem_insertPlace.mp hother with rfl | hother
      · exact hlt
      · exact hsorted.1 other hother
    · have hlt : place < first := by omega
      refine pairwise_cons.mpr ⟨fun other hother => ?_, pairwise_cons.mpr hsorted⟩
      rcases mem_cons.mp hother with rfl | hother
      · exact hlt
      · exact Nat.lt_trans hlt (hsorted.1 other hother)

/-! ### Meeting references -/

variable {graph : Graph}

variable {other : String}

/-- What is listed under a name after its entry has been replaced. -/
theorem lookup_replace {entries : List (String × Int)} {value : Int} :
    (entries.map fun entry => if entry.1 = name then (name, value) else entry).lookup other =
      if other = name then (entries.lookup name).map fun _ => value else entries.lookup other := by
  induction entries with
  | nil => simp
  | cons entry rest ih =>
    rw [map_cons, Named.lookup_cons_ite, Named.lookup_cons_ite, Named.lookup_cons_ite, ih]
    grind

theorem meet_order (ordering : Ordering) (name : String) :
    (graph.meet ordering name).order = ordering.order := rfl

variable {ordering : Ordering}

theorem meet_unmet :
    (graph.meet ordering name).unmet.lookup other =
      if other = name then (ordering.unmet.lookup name).map (· - 1)
      else ordering.unmet.lookup other := by
  simp only [meet, lookup_replace]
  split
  · cases ordering.unmet.lookup name <;> simp
  · rfl

theorem mem_meet_ready (hname : ∃ count, ordering.unmet.lookup name = some count) :
    place ∈ (graph.meet ordering name).ready ↔
      (ordering.unmet.lookup name = some 1 ∧ place = lastPlace graph.names name) ∨
        place ∈ ordering.ready := by
  obtain ⟨count, hcount⟩ := hname
  simp only [meet, hcount, Option.getD_some, Option.some.injEq]
  by_cases hone : count = 1
  · simp [hone, mem_insertPlace]
  · have hzero : ¬ count - 1 = 0 := by omega
    simp [hone, hzero]

/-- Meeting a reference of one name leaves the numbers of other names. -/
theorem meet_unmet_of_mem {first : String} {rest : List String} (hfirst : first ∉ rest)
    (hother : other ∈ rest) :
    (graph.meet ordering first).unmet.lookup other = ordering.unmet.lookup other := by
  have hne : other ≠ first := fun heq => hfirst (heq ▸ hother)
  rw [meet_unmet, if_neg hne]

/-- Meeting a reference of each of several names: the numbers go down by one, and the names whose
number was one get ready. -/
theorem foldl_meet (names : List String) (ordering : Ordering) (hnodup : names.Nodup)
    (hcounts : ∀ name ∈ names, ∃ count, ordering.unmet.lookup name = some count) :
    (names.foldl graph.meet ordering).order = ordering.order ∧
    (∀ other, (names.foldl graph.meet ordering).unmet.lookup other =
      if other ∈ names then (ordering.unmet.lookup other).map (· - 1)
      else ordering.unmet.lookup other) ∧
    (∀ place, place ∈ (names.foldl graph.meet ordering).ready ↔
      (∃ name ∈ names, ordering.unmet.lookup name = some 1 ∧
        place = lastPlace graph.names name) ∨ place ∈ ordering.ready) := by
  induction names generalizing ordering with
  | nil => simp
  | cons first rest ih =>
    rw [nodup_cons] at hnodup
    have hunmet : ∀ other ∈ rest, (graph.meet ordering first).unmet.lookup other =
        ordering.unmet.lookup other := fun other => meet_unmet_of_mem hnodup.1
    obtain ⟨horder, hlookup, hready⟩ := ih (graph.meet ordering first) hnodup.2
      (fun other hother => by
        rw [hunmet other hother]
        exact hcounts other (mem_cons_of_mem _ hother))
    refine ⟨by rw [foldl_cons, horder, meet_order], fun other => ?_, fun place => ?_⟩
    · rw [foldl_cons, hlookup, meet_unmet]
      by_cases hfirst : other = first
      · subst hfirst
        simp [hnodup.1]
      · simp [hfirst]
    · have hrest : (∃ name ∈ rest, (graph.meet ordering first).unmet.lookup name = some 1 ∧
          place = lastPlace graph.names name) ↔
          ∃ name ∈ rest, ordering.unmet.lookup name = some 1 ∧
            place = lastPlace graph.names name :=
        exists_congr fun name => and_congr_right fun hname => by rw [hunmet name hname]
      rw [foldl_cons, hready, hrest, mem_meet_ready (hcounts first mem_cons_self),
        exists_mem_cons_iff, or_left_comm, or_assoc]

theorem foldl_meet_sorted (names : List String) (ordering : Ordering) (hnodup : names.Nodup)
    (hcounts : ∀ name ∈ names, ∃ count, ordering.unmet.lookup name = some count)
    (hknown : ∀ name ∈ names, name ∈ graph.names)
    (hnew : ∀ name ∈ names, ordering.unmet.lookup name = some 1 →
      lastPlace graph.names name ∉ ordering.ready)
    (hsorted : ordering.ready.Pairwise (· < ·)) :
    (names.foldl graph.meet ordering).ready.Pairwise (· < ·) := by
  induction names generalizing ordering with
  | nil => exact hsorted
  | cons first rest ih =>
    rw [nodup_cons] at hnodup
    have hfirst := hcounts first mem_cons_self
    refine ih (graph.meet ordering first) hnodup.2 ?_ ?_ ?_ ?_
    · intro other hother
      rw [meet_unmet_of_mem hnodup.1 hother]
      exact hcounts other (mem_cons_of_mem _ hother)
    · exact fun other hother => hknown other (mem_cons_of_mem _ hother)
    · intro other hother hone hmem
      rw [meet_unmet_of_mem hnodup.1 hother] at hone
      rcases (mem_meet_ready hfirst).mp hmem with ⟨-, hplace⟩ | hmem
      · have heq := lastPlace_injective (hknown other (mem_cons_of_mem _ hother))
          (hknown first mem_cons_self) hplace
        exact hnodup.1 (heq ▸ hother)
      · exact hnew other (mem_cons_of_mem _ hother) hone hmem
    · obtain ⟨count, hcount⟩ := hfirst
      simp only [meet, hcount, Option.getD_some]
      split
      · rename_i hzero
        have hone : count = 1 := by omega
        subst hone
        exact insertPlace_sorted hsorted (hnew first mem_cons_self hcount)
      · exact hsorted

/-! ### What ordering keeps -/

/-- The number of references of a name that are not among the names ordered so far. -/
def pending (graph : Graph) (order : List String) (name : String) : Nat :=
  ((graph.dependencies name).filter (· ∉ order)).length

/-- Every name is listed once, and refers to listed names only, to each of them once. -/
structure Regular (graph : Graph) : Prop where
  names : graph.names.Nodup
  dependencies : ∀ name, (graph.dependencies name).Nodup
  known : ∀ name, ∀ other ∈ graph.dependencies name, other ∈ graph.names

/-- The names of an order stand after those they refer to. -/
def Follows (graph : Graph) (order : List String) : Prop :=
  ∀ before name after, order = before ++ name :: after →
    ∀ other ∈ graph.dependencies name, other ∈ before

/-- What is true of the state whenever a name has been ordered. -/
structure Ordered (graph : Graph) (ordering : Ordering) : Prop where
  nodup : ordering.order.Nodup
  known : ∀ name ∈ ordering.order, name ∈ graph.names
  follows : Follows graph ordering.order
  unmet : ∀ name ∈ graph.names,
    ordering.unmet.lookup name = some (pending graph ordering.order name : Int)
  ready : ∀ place, place ∈ ordering.ready ↔ ∃ name ∈ graph.names, name ∉ ordering.order ∧
    pending graph ordering.order name = 0 ∧ place = lastPlace graph.names name
  sorted : ordering.ready.Pairwise (· < ·)

variable {order : List String}

theorem pending_eq_zero :
    pending graph order name = 0 ↔ ∀ other ∈ graph.dependencies name, other ∈ order := by
  simp [pending, filter_eq_nil_iff]

/-- Ordering a name meets one reference of the names that refer to it. -/
theorem pending_append (hnodup : (graph.dependencies other).Nodup) (hnew : name ∉ order) :
    pending graph (order ++ [name]) other =
      if name ∈ graph.dependencies other then pending graph order other - 1
      else pending graph order other := by
  have hfilter : (graph.dependencies other).filter (· ∉ order ++ [name]) =
      ((graph.dependencies other).filter (· ∉ order)).erase name := by
    rw [(hnodup.filter _).erase_eq_filter, filter_filter]
    refine filter_congr fun dependency _ => ?_
    simp [and_comm, bne, Bool.beq_eq_decide_eq]
  rw [pending, hfilter, length_erase, pending]
  simp [hnew]

theorem lookup_map_self {α : Type} (value : String → α) (h : name ∈ names) :
    (names.map fun other => (other, value other)).lookup name = some (value name) := by
  induction names with
  | nil => cases h
  | cons first rest ih =>
    rw [map_cons, Named.lookup_cons_ite]
    grind

theorem foldl_insertPlace (names : List String) :
    ∀ (chosen : List String) (places : List Nat), chosen.Nodup →
      (∀ name ∈ chosen, name ∈ names) → places.Pairwise (· < ·) →
      (∀ name ∈ chosen, lastPlace names name ∉ places) →
      (∀ place, place ∈ chosen.foldl (fun ready name => insertPlace (lastPlace names name) ready)
        places ↔ (∃ name ∈ chosen, place = lastPlace names name) ∨ place ∈ places) ∧
      (chosen.foldl (fun ready name => insertPlace (lastPlace names name) ready) places).Pairwise
        (· < ·) := by
  intro chosen
  induction chosen with
  | nil => intro places _ _ hsorted _; simpa using hsorted
  | cons first rest ih =>
    intro places hnodup hknown hsorted hnew
    rw [nodup_cons] at hnodup
    obtain ⟨hmem, hsorted⟩ := ih (insertPlace (lastPlace names first) places) hnodup.2
      (fun name hname => hknown name (mem_cons_of_mem _ hname))
      (insertPlace_sorted hsorted (hnew first mem_cons_self))
      (fun name hname hin => by
        rcases mem_insertPlace.mp hin with hplace | hin
        · have heq := lastPlace_injective (hknown name (mem_cons_of_mem _ hname))
            (hknown first mem_cons_self) hplace
          exact hnodup.1 (heq ▸ hname)
        · exact hnew name (mem_cons_of_mem _ hname) hin)
    refine ⟨fun place => ?_, hsorted⟩
    rw [foldl_cons, hmem, mem_insertPlace, exists_mem_cons_iff, or_left_comm, or_assoc]

theorem start_ordered (hregular : Regular graph) : Ordered graph graph.start := by
  have hpending : ∀ name, pending graph [] name = (graph.dependencies name).length := by
    simp [pending]
  have hchosen : ∀ name, name ∈ (graph.names.filter fun name =>
      (graph.dependencies name).isEmpty) ↔ name ∈ graph.names ∧ pending graph [] name = 0 := by
    simp [hpending]
  obtain ⟨hready, hsorted⟩ := foldl_insertPlace graph.names
    (graph.names.filter fun name => (graph.dependencies name).isEmpty) []
    (hregular.names.filter _) (fun name hname => mem_of_mem_filter hname) List.Pairwise.nil
    (by simp)
  refine ⟨nodup_nil, by simp [start], ?_, fun name hname => ?_, fun place => ?_, hsorted⟩
  · intro before name after hsplit
    simp [start] at hsplit
  · rw [show graph.start.order = [] from rfl, hpending]
    exact lookup_map_self (fun name => ((graph.dependencies name).length : Int))
      (mem_eraseDups.mpr hname)
  · rw [show graph.start.order = [] from rfl, start, hready]
    simp only [not_mem_nil, or_false, not_false_eq_true, true_and, hchosen, and_assoc]

theorem nodup_eraseDups (names : List String) : names.eraseDups.Nodup := by
  -- the recursion is on the names that differ from the first one, a shorter list
  induction hlength : names.length using Nat.strongRecOn generalizing names with
  | ind length ih =>
    cases names with
    | nil => simp
    | cons first rest =>
      rw [eraseDups_cons, nodup_cons, mem_eraseDups]
      refine ⟨by simp, ih _ ?_ _ rfl⟩
      have hle := length_filter_le (fun name => !name == first) rest
      rw [length_cons] at hlength
      omega

theorem mem_dependents :
    other ∈ graph.dependents name ↔ other ∈ graph.names ∧ name ∈ graph.dependencies other := by
  simp [dependents]

theorem dependents_nodup (name : String) :
    (graph.dependents name).Nodup := nodup_eraseDups _

/-- What is true of each name of a list and those before it. -/
theorem forall_split_append {good : List String → String → Prop}
    (h : ∀ before name after, order = before ++ name :: after → good before name)
    (hlast : good order name) :
    ∀ before found after, order ++ [name] = before ++ found :: after → good before found := by
  intro before found after hsplit
  rcases eq_nil_or_concat after with rfl | ⟨after, final, rfl⟩
  · obtain ⟨rfl, hfound⟩ := append_inj' hsplit rfl
    obtain rfl : name = found := by simpa using hfound
    exact hlast
  · have hsplit' : order ++ [name] = (before ++ found :: after) ++ [final] := by
      rw [hsplit]
      simp
    exact h before found after (append_inj' hsplit' rfl).1

theorem Follows.append (hfollows : Follows graph order)
    (hname : ∀ other ∈ graph.dependencies name, other ∈ order) : Follows graph (order ++ [name]) :=
  forall_split_append hfollows hname

theorem Follows.mem (hfollows : Follows graph order) (hname : name ∈ order)
    (hother : other ∈ graph.dependencies name) : other ∈ order := by
  obtain ⟨before, after, hsplit⟩ := append_of_mem hname
  rw [hsplit]
  exact mem_append_left _ (hfollows before name after hsplit other hother)

/-- The state after a name has been ordered and the references to it are met. -/
def advance (graph : Graph) (ordering : Ordering) (ready : List Nat) (name : String) : Ordering :=
  (graph.dependents name).foldl graph.meet
    { ordering with ready, order := ordering.order ++ [name] }

/-- The names that are ready after a name without pending references has been ordered: those that
were ready before, and those for which this was the last reference. -/
theorem Ordered.ready_append (hregular : Regular graph) (hordered : Ordered graph ordering)
    (hnew : name ∉ ordering.order) (hpending : pending graph ordering.order name = 0) :
    (other ∉ ordering.order ++ [name] ∧ pending graph (ordering.order ++ [name]) other = 0) ↔
      (name ∈ graph.dependencies other ∧ pending graph ordering.order other = 1) ∨
        (other ≠ name ∧ other ∉ ordering.order ∧ pending graph ordering.order other = 0) := by
  have hmet := pending_eq_zero.mp hpending
  have hself : name ∉ graph.dependencies name := fun h => hnew (hmet name h)
  rw [pending_append (hregular.dependencies other) hnew, mem_append, mem_singleton]
  by_cases hother : name ∈ graph.dependencies other
  · -- a name that refers to the new one was not ordered before it
    have hne : other ≠ name := fun heq => hself (heq ▸ hother)
    have hlater : other ∉ ordering.order := fun h => hnew (hordered.follows.mem h hother)
    have hpositive : pending graph ordering.order other ≠ 0 :=
      fun hzero => hnew (pending_eq_zero.mp hzero name hother)
    simp only [hother, hne, hlater, if_true, or_self, not_false_eq_true, true_and, hpositive,
      and_false, or_false]
    omega
  · simp only [hother, if_false, false_and, false_or, not_or]
    tauto

/-- The places that are left when the first one is taken. -/
theorem Ordered.mem_rest {ready : List Nat} (hordered : Ordered graph ordering)
    (hplace : ordering.ready = lastPlace graph.names name :: ready) (hname : name ∈ graph.names)
    (hother : other ∈ graph.names) :
    lastPlace graph.names other ∈ ready ↔
      other ≠ name ∧ other ∉ ordering.order ∧ pending graph ordering.order other = 0 := by
  constructor
  · intro hmem
    obtain ⟨found, hfound, hlater, hzero, heq⟩ := (hordered.ready _).mp
      (hplace ▸ mem_cons_of_mem _ hmem)
    obtain rfl := lastPlace_injective hother hfound heq
    refine ⟨?_, hlater, hzero⟩
    rintro rfl
    -- the places are sorted, so the first one does not come up again
    have hsorted := hordered.sorted
    rw [hplace, pairwise_cons] at hsorted
    exact Nat.lt_irrefl _ (hsorted.1 _ hmem)
  · rintro ⟨hne, hlater, hzero⟩
    have hmem := (hordered.ready _).mpr ⟨other, hother, hlater, hzero, rfl⟩
    rw [hplace, mem_cons] at hmem
    exact hmem.resolve_left fun heq => hne (lastPlace_injective hother hname heq)

/-- The numbers of unmet references are right again once those to a new name are met. -/
theorem Ordered.unmet_append (hregular : Regular graph) (hordered : Ordered graph ordering)
    (hnew : name ∉ ordering.order) (hother : other ∈ graph.names) :
    (if other ∈ graph.dependents name then (ordering.unmet.lookup other).map (· - 1)
      else ordering.unmet.lookup other) =
      some (pending graph (ordering.order ++ [name]) other : Int) := by
  rw [pending_append (hregular.dependencies other) hnew]
  by_cases hdependent : name ∈ graph.dependencies other
  · have hpositive : pending graph ordering.order other ≠ 0 :=
      fun hzero => hnew (pending_eq_zero.mp hzero name hdependent)
    rw [if_pos (mem_dependents.mpr ⟨hother, hdependent⟩), if_pos hdependent,
      hordered.unmet other hother, Option.map_some, Option.some.injEq]
    omega
  · rw [if_neg (fun h => hdependent (mem_dependents.mp h).2), if_neg hdependent,
      hordered.unmet other hother]

theorem Ordered.lookup_eq_one (hordered : Ordered graph ordering) (hother : other ∈ graph.names) :
    ordering.unmet.lookup other = some 1 ↔ pending graph ordering.order other = 1 := by
  rw [hordered.unmet other hother, Option.some.injEq]
  omega

/-- The place taken next belongs to a name; once its references are met, all that is known of the
state is true again. -/
theorem Ordered.step (hregular : Regular graph) {ordering : Ordering} {place : Nat}
    {ready : List Nat} (hordered : Ordered graph ordering) (hplace : ordering.ready = place :: ready) :
    ∃ name, graph.names[place]? = some name ∧
      (advance graph ordering ready name).order = ordering.order ++ [name] ∧
      Ordered graph (advance graph ordering ready name) := by
  obtain ⟨name, hname, hnew, hpending, rfl⟩ := (hordered.ready place).mp (by simp [hplace])
  have hcounts : ∀ other ∈ graph.dependents name, ∃ count, ordering.unmet.lookup other =
      some count := fun other hother => ⟨_, hordered.unmet other (mem_dependents.mp hother).1⟩
  obtain ⟨horder, hunmet, hready⟩ := foldl_meet (graph.dependents name)
    { ordering with ready, order := ordering.order ++ [name] } (dependents_nodup name) hcounts
  refine ⟨name, getElem?_lastPlace hname, horder, ?_, ?_, ?_, ?_, ?_, ?_⟩
  · rw [advance, horder]
    exact hordered.nodup.append (nodup_singleton name) (by simpa using hnew)
  · rw [advance, horder]
    intro other hother
    rcases mem_append.mp hother with hother | hother
    · exact hordered.known other hother
    · rwa [mem_singleton.mp hother]
  · rw [advance, horder]
    exact hordered.follows.append (pending_eq_zero.mp hpending)
  · intro other hother
    rw [advance, horder, hunmet]
    exact hordered.unmet_append hregular hnew hother
  · intro place
    rw [advance, horder, hready]
    constructor
    · rintro (⟨other, hother, hlast, rfl⟩ | hmem)
      · obtain ⟨hlisted, hdependent⟩ := mem_dependents.mp hother
        obtain ⟨hlater, hzero⟩ := (hordered.ready_append hregular hnew hpending).mpr
          (.inl ⟨hdependent, (hordered.lookup_eq_one hlisted).mp hlast⟩)
        exact ⟨other, hlisted, hlater, hzero, rfl⟩
      · obtain ⟨other, hlisted, -, -, rfl⟩ := (hordered.ready place).mp
          (hplace ▸ mem_cons_of_mem _ hmem)
        obtain ⟨hlater, hzero⟩ := (hordered.ready_append hregular hnew hpending).mpr
          (.inr ((hordered.mem_rest hplace hname hlisted).mp hmem))
        exact ⟨other, hlisted, hlater, hzero, rfl⟩
    · rintro ⟨other, hlisted, hlater, hzero, rfl⟩
      rcases (hordered.ready_append hregular hnew hpending).mp ⟨hlater, hzero⟩ with
        ⟨hdependent, hlast⟩ | hbefore
      · exact .inl ⟨other, mem_dependents.mpr ⟨hlisted, hdependent⟩,
          (hordered.lookup_eq_one hlisted).mpr hlast, rfl⟩
      · exact .inr ((hordered.mem_rest hplace hname hlisted).mpr hbefore)
  · have hsorted := hordered.sorted
    rw [hplace, pairwise_cons] at hsorted
    refine foldl_meet_sorted _ _ (dependents_nodup name) hcounts
      (fun other hother => (mem_dependents.mp hother).1) (fun other hother hlast hmem => ?_)
      hsorted.2
    -- what was ready before has no pending reference
    have hlisted := (mem_dependents.mp hother).1
    have hzero := ((hordered.mem_rest hplace hname hlisted).mp hmem).2.2
    have hone := (hordered.lookup_eq_one hlisted).mp hlast
    omega

/-! ### The whole run -/

/-- With a step for every remaining name, the run ends when no name is ready. -/
theorem run_ordered (hregular : Regular graph) (fuel : Nat) (ordering : Ordering)
    (hordered : Ordered graph ordering)
    (hfuel : graph.names.length ≤ ordering.order.length + fuel) :
    Ordered graph (graph.run fuel ordering) ∧ (graph.run fuel ordering).ready = [] := by
  induction fuel generalizing ordering with
  | zero =>
    refine ⟨hordered, eq_nil_iff_forall_not_mem.mpr fun place hplace => ?_⟩
    obtain ⟨name, hname, hnew, -⟩ := (hordered.ready place).mp hplace
    have hall := (hordered.nodup.subperm hordered.known).perm_of_length_le (by omega)
    exact hnew (hall.mem_iff.mpr hname)
  | succ fuel ih =>
    unfold run
    split
    · rename_i hready
      exact ⟨hordered, hready⟩
    · rename_i place ready hready
      obtain ⟨name, hname, horder, hnext⟩ := hordered.step hregular hready
      rw [hname]
      refine ih (advance graph ordering ready name) hnext ?_
      rw [horder, length_append, length_singleton]
      omega

/-- If the references descend along a rank, a run that ends has ordered all names: a remaining
name of least rank would be ready. -/
theorem Ordered.mem_of_ready_nil (hregular : Regular graph) (hordered : Ordered graph ordering)
    (hready : ordering.ready = []) (rank : String → Nat)
    (hrank : ∀ name, ∀ other ∈ graph.dependencies name, rank other < rank name) :
    ∀ name ∈ graph.names, name ∈ ordering.order := by
  intro name
  induction hvalue : rank name using Nat.strongRecOn generalizing name with
  | ind value ih =>
    intro hname
    by_contra hnew
    have hzero : pending graph ordering.order name = 0 :=
      pending_eq_zero.mpr fun other hother =>
        ih (rank other) (hvalue ▸ hrank name other hother) other rfl
          (hregular.known name other hother)
    have hmem := (hordered.ready _).mpr ⟨name, hname, hnew, hzero, rfl⟩
    simp [hready] at hmem

/-- Names whose references descend along a rank are ordered, each after those it refers to. -/
theorem order_eq_ok (hregular : Regular graph) (rank : String → Nat)
    (hrank : ∀ name, ∀ other ∈ graph.dependencies name, rank other < rank name) :
    ∃ order, graph.order = .ok order ∧ order.Perm graph.names ∧ Follows graph order := by
  obtain ⟨hordered, hready⟩ := run_ordered hregular (2 * graph.names.length) graph.start
    (start_ordered hregular) (by omega)
  have hall := hordered.mem_of_ready_nil hregular hready rank hrank
  have hperm : (graph.run (2 * graph.names.length) graph.start).order.Perm graph.names :=
    (hordered.nodup.subperm hordered.known).antisymm (hregular.names.subperm hall)
  refine ⟨_, ?_, hperm, hordered.follows⟩
  simp only [order, hperm.length_eq, if_true]

end OpenApiClient.Declaration.Graph
