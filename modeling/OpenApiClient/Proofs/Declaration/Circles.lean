import Mathlib.Data.List.Chain
import OpenApiClient.Proofs.Client.Compile
import OpenApiClient.Proofs.Declaration.Earliest

/-!
# Names are ordered, or stand in a circle

Declarations can be ordered if and only if their direct references do not lead in a circle. The order
is then the one that takes, again and again, the first listed name whose references are all taken
(`Greedy`); otherwise the names of a circle are reported (`Circle`).

The search for a circle starts at the first name that is stuck and goes on with the first stuck name
that it refers to. A stuck name has a reference that is not met, and whatever it refers to is then
stuck itself; so the walk goes on until a name comes up again, which happens after as many steps as
there are stuck names at the latest (`walk_findCycle`).

References are kept as sets, and sets have no order of their own. `Graph.Answers` describes what can
come out if they are gone through in any order: the references to a name that has just been ordered are
met one by one, but meeting them in another order comes to the same state (`foldl_meet_perm`). So there
is one answer only, and it depends on nothing but the direct references (`order_determined`).
-/

namespace OpenApiClient.Declaration

open List

variable {names : List String} {edge : String → String → Prop}

/-- A listed name refers directly to a listed one. -/
def Eager (names : List String) (declarations : List (String × Expr)) (name other : String) : Prop :=
  name ∈ names ∧ other ∈ names ∧ ∃ expr, declarations.lookup name = some expr ∧
    ∃ part, Expr.Part part expr ∧ part.kind = .namedRef ∧ part.ref = some other

/-- The first of the names that something is true of. -/
def First (names : List String) (good : String → Prop) (name : String) : Prop :=
  good name ∧ ∃ earlier later, names = earlier ++ name :: later ∧ ∀ other ∈ earlier, ¬ good other

/-- A name is not taken, and all those that it refers to are. -/
def Ready (edge : String → String → Prop) (taken : List String) (name : String) : Prop :=
  name ∉ taken ∧ ∀ other, edge name other → other ∈ taken

/-- As many names as there are, each of them the first that is ready when those before it are
taken. -/
structure Greedy (names : List String) (edge : String → String → Prop) (order : List String) :
    Prop where
  length : order.length = names.length
  first : ∀ taken name rest, order = taken ++ name :: rest → First names (Ready edge taken) name

/-- Names that refer to each other in a circle: the last one is the first, and there is no other
repetition. -/
def Circle (edge : String → String → Prop) (circle : List String) : Prop :=
  ∃ start rest, circle = start :: rest ++ [start] ∧ (start :: rest).Nodup ∧ circle.IsChain edge

/-- Follows references among stuck names, each time to the first one, until a name comes up again. -/
inductive Walk (names : List String) (edge : String → String → Prop) (stuck : List String) :
    (path : List String) → (name : String) → (circle : List String) → Prop
  | closed {path : List String} {name : String} : name ∈ path →
      Walk names edge stuck path name (path.dropWhile (· ≠ name) ++ [name])
  | step {path circle : List String} {name next : String} : name ∉ path →
      First names (fun other => other ∈ stuck ∧ edge name other) next →
      Walk names edge stuck (path ++ [name]) next circle → Walk names edge stuck path name circle

namespace Graph

/-- Orders the names that are ready one after the other until none is. The references to a name may
be met in any order. -/
inductive Runs (graph : Graph) : Ordering → Ordering → Prop
  | stop {ordering : Ordering} : ordering.ready = [] → Runs graph ordering ordering
  | step {ordering final : Ordering} {place : Nat} {ready : List Nat} {name : String}
      {met : List String} : ordering.ready = place :: ready → graph.names[place]? = some name →
      met.Perm (graph.dependents name) →
      Runs graph (met.foldl graph.meet { ordering with ready, order := ordering.order ++ [name] })
        final →
      Runs graph ordering final

/-- The names with an unmet reference. -/
def stuck (graph : Graph) (ordering : Ordering) : List String :=
  graph.names.filter fun name => 0 < (ordering.unmet.lookup name).getD 0

/-- What can come out of ordering the names of a graph. -/
inductive Answers (graph : Graph) : Except Failure (List String) → Prop
  | ordered {final : Ordering} : Runs graph graph.start final →
      final.order.length = graph.names.length → Answers graph (.ok final.order)
  | circle {final : Ordering} {first : String} {rest circle : List String} :
      Runs graph graph.start final → final.order.length ≠ graph.names.length →
      graph.stuck final = first :: rest →
      Walk graph.names (fun name target => target ∈ graph.dependencies name) (first :: rest) [] first
        circle →
      Answers graph (.error (.compile (.unbrokenCycle circle)))

/-- A graph has the given names and references, which it lists in some order. -/
structure Draws (graph : Graph) (names : List String) (edge : String → String → Prop) : Prop where
  names : graph.names = names
  nodup : ∀ name, (graph.dependencies name).Nodup
  edges : ∀ name other, other ∈ graph.dependencies name ↔ edge name other

end Graph

/-! ### The first name, and the order that takes it -/

variable {name : String}

theorem First.unique {good : String → Prop} {other : String} (hname : First names good name)
    (hother : First names good other) : name = other := by
  obtain ⟨hgood, earlier, later, rfl, hearlier⟩ := hname
  obtain ⟨hgood', earlier', later', hsplit, hearlier'⟩ := hother
  rcases append_eq_append_iff.mp hsplit with ⟨between, rfl, hrest⟩ | ⟨between, rfl, hrest⟩
  · cases between with
    | nil => exact (List.cons.inj hrest).1
    | cons found between =>
      obtain rfl := (List.cons.inj hrest).1
      exact absurd hgood (hearlier' name (by simp))
  · cases between with
    | nil => exact (List.cons.inj hrest).1.symm
    | cons found between =>
      obtain rfl := (List.cons.inj hrest).1
      exact absurd hgood' (hearlier other (by simp))

/-- There is one order only. -/
theorem Greedy.unique {first second : List String} (hfirst : Greedy names edge first)
    (hsecond : Greedy names edge second) : first = second := by
  refine Graph.eq_of_next (hfirst.length.trans hsecond.length.symm) ?_
  intro before name after other rest heq hother
  exact (hfirst.first before name after heq).unique (hsecond.first before other rest hother)

/-! ### A walk ends in a circle -/

theorem Walk.unique {stuck path circle other : List String}
    (hwalk : Walk names edge stuck path name circle)
    (hother : Walk names edge stuck path name other) : circle = other := by
  induction hwalk with
  | closed hmem =>
    cases hother with
    | closed => rfl
    | step hnew => exact absurd hmem hnew
  | step hnew hnext _ ih =>
    cases hother with
    | closed hmem => exact absurd hmem hnew
    | step _ hfirst hrest =>
      obtain rfl := hnext.unique hfirst
      exact ih hrest

theorem Walk.circle {stuck path circle : List String}
    (hwalk : Walk names edge stuck path name circle) (hnodup : path.Nodup)
    (hchain : (path ++ [name]).IsChain edge) : Circle edge circle := by
  induction hwalk with
  | @closed path name hmem =>
    obtain ⟨before, after, rfl, hnew⟩ := eq_append_cons_of_mem hmem
    have hdrop : (before ++ name :: after).dropWhile (· ≠ name) = name :: after := by
      rw [dropWhile_append_of_pos]
      · simp
      · intro other hother
        simpa using fun heq : other = name => hnew (heq ▸ hother)
    rw [hdrop]
    refine ⟨name, after, rfl, hnodup.of_append_right, ?_⟩
    rw [append_assoc] at hchain
    exact hchain.right_of_append
  | @step path _ name next hnew hnext _ ih =>
    refine ih (hnodup.append (nodup_singleton name) (by simpa using hnew)) ?_
    refine isChain_append.mpr ⟨hchain, isChain_singleton next, ?_⟩
    simpa using hnext.1.2

theorem transGen_of_isChain {start last : String} {rest : List String}
    (h : (start :: rest ++ [last]).IsChain edge) : Relation.TransGen edge start last := by
  induction rest generalizing start with
  | nil => exact .single (by simpa using h)
  | cons next rest ih =>
    rw [cons_append, cons_append, isChain_cons_cons] at h
    exact .head h.1 (ih h.2)

theorem Circle.transGen {circle : List String} (h : Circle edge circle) :
    ∃ name, Relation.TransGen edge name name := by
  obtain ⟨start, rest, rfl, -, hchain⟩ := h
  exact ⟨start, transGen_of_isChain hchain⟩

namespace Graph

variable {graph drawn : Graph} {ordering final : Ordering}

/-! ### References may be met in any order -/

theorem insertPlace_comm (first second : Nat) (places : List Nat) :
    insertPlace first (insertPlace second places) = insertPlace second (insertPlace first places) := by
  induction places with
  | nil => grind [insertPlace]
  | cons place rest ih => grind [insertPlace]

theorem meet_eq {count : Int} (h : (ordering.unmet.lookup name).getD 0 = count) :
    graph.meet ordering name =
      { ready := if count - 1 = 0 then insertPlace (lastPlace graph.names name) ordering.ready
          else ordering.ready
        unmet := ordering.unmet.map fun entry => if entry.1 = name then (name, count - 1) else entry
        order := ordering.order } := by
  subst h
  rfl

theorem meet_comm (ordering : Ordering) (first second : String) :
    graph.meet (graph.meet ordering first) second = graph.meet (graph.meet ordering second) first := by
  by_cases heq : first = second
  · rw [heq]
  have hfirst : (graph.meet ordering second).unmet.lookup first = ordering.unmet.lookup first := by
    rw [meet_unmet, if_neg heq]
  have hsecond : (graph.meet ordering first).unmet.lookup second = ordering.unmet.lookup second := by
    rw [meet_unmet, if_neg (Ne.symm heq)]
  rw [meet_eq (congrArg (·.getD 0) hfirst), meet_eq (congrArg (·.getD 0) hsecond)]
  congr 1
  · simp only [meet]
    split <;> split
    · exact insertPlace_comm ..
    all_goals rfl
  · simp only [meet, map_map]
    refine map_congr_left fun entry _ => ?_
    by_cases hentry : entry.1 = first
    · simp [hentry, heq]
    · by_cases hentry' : entry.1 = second
      · simp [hentry', Ne.symm heq]
      · simp [hentry, hentry']

theorem foldl_meet_perm {first second : List String} (h : first.Perm second)
    (ordering : Ordering) : first.foldl graph.meet ordering = second.foldl graph.meet ordering :=
  h.foldl_eq' (fun _ _ _ _ _ => meet_comm ..) ordering

/-- Whatever order references are met in, the run ends in one state. -/
theorem runs_iff (hregular : Regular graph) (fuel : Nat) (hordered : Ordered graph ordering)
    (hfuel : graph.names.length ≤ ordering.order.length + fuel) :
    Runs graph ordering final ↔ final = graph.run fuel ordering := by
  have hstop : ∀ {ordering : Ordering}, ordering.ready = [] →
      (Runs graph ordering final ↔ final = ordering) := by
    intro ordering hready
    constructor
    · intro h
      cases h with
      | stop => rfl
      | step hplace => simp [hready] at hplace
    · rintro rfl
      exact .stop hready
  induction fuel generalizing ordering with
  | zero => exact hstop (run_ordered hregular 0 ordering hordered hfuel).2
  | succ fuel ih =>
    unfold run
    split
    · rename_i hready
      exact hstop hready
    · rename_i place ready hready
      obtain ⟨name, hname, horder, hnext⟩ := hordered.step hregular hready
      have hrest : Runs graph (advance graph ordering ready name) final ↔
          final = graph.run fuel (advance graph ordering ready name) := by
        refine ih hnext ?_
        rw [horder, length_append, length_singleton]
        omega
      rw [hname]
      refine Iff.trans ?_ hrest
      constructor
      · intro h
        cases h with
        | stop hnone => simp [hready] at hnone
        | step hplace hfound hmet hruns =>
          obtain ⟨rfl, rfl⟩ := List.cons.inj (hready.symm.trans hplace)
          obtain rfl := Option.some.inj (hname.symm.trans hfound)
          -- the order in which references are met does not matter
          rwa [foldl_meet_perm hmet] at hruns
      · exact .step hready hname (.refl _)

/-! ### Stuck names -/

section Stuck

variable (hordered : Ordered graph ordering) (hready : ordering.ready = [])

include hordered

theorem Ordered.mem_stuck :
    name ∈ graph.stuck ordering ↔
      name ∈ graph.names ∧ ∃ other ∈ graph.dependencies name, other ∉ ordering.order := by
  rw [stuck, mem_filter]
  refine and_congr_right fun hname => ?_
  have hzero : pending graph ordering.order name ≠ 0 ↔
      ∃ other ∈ graph.dependencies name, other ∉ ordering.order := by
    rw [Ne, pending_eq_zero]
    simp
  rw [hordered.unmet name hname, ← hzero]
  simp only [Option.getD_some, decide_eq_true_eq]
  omega

include hready

/-- When no name is ready, a name that is not ordered is stuck. -/
theorem Ordered.stuck_of_notMem (hname : name ∈ graph.names) (hnew : name ∉ ordering.order) :
    name ∈ graph.stuck ordering := by
  refine hordered.mem_stuck.mpr ⟨hname, ?_⟩
  by_contra hnone
  have hzero : pending graph ordering.order name = 0 :=
    pending_eq_zero.mpr (by simpa using hnone)
  have hmem := (hordered.ready _).mpr ⟨name, hname, hnew, hzero, rfl⟩
  simp [hready] at hmem

/-- A stuck name refers to a stuck one. -/
theorem Ordered.exists_stuck (hregular : Regular graph) : ∀ name ∈ graph.stuck ordering,
    ∃ other ∈ graph.stuck ordering, other ∈ graph.dependencies name := by
  intro name hname
  obtain ⟨-, other, hother, hnew⟩ := hordered.mem_stuck.mp hname
  exact ⟨other, hordered.stuck_of_notMem hready (hregular.known name other hother) hnew,
    hother⟩

/-- If not all names are ordered, some name is stuck. -/
theorem Ordered.stuck_ne_nil (hregular : Regular graph)
    (hlength : ordering.order.length ≠ graph.names.length) :
    graph.stuck ordering ≠ [] := by
  intro hnil
  have hall : ∀ name ∈ graph.names, name ∈ ordering.order := by
    intro name hname
    by_contra hnew
    have hmem := hordered.stuck_of_notMem hready hname hnew
    simp [hnil] at hmem
  exact hlength ((hordered.nodup.subperm hordered.known).antisymm
    (hregular.names.subperm hall)).length_eq

end Stuck

/-- If every stuck name refers to a stuck one, the search walks until a name comes up again. -/
theorem walk_findCycle {stuck : List String} (hknown : ∀ name ∈ stuck, name ∈ graph.names)
    (hnext : ∀ name ∈ stuck, ∃ other ∈ stuck, other ∈ graph.dependencies name) (fuel : Nat)
    {path : List String} (hnodup : path.Nodup) (hpath : ∀ other ∈ path, other ∈ stuck)
    (hname : name ∈ stuck) (hfuel : stuck.length < fuel + path.length) :
    Walk graph.names (fun name target => target ∈ graph.dependencies name) stuck path name
      (findCycle graph stuck fuel path name) := by
  induction fuel generalizing path name with
  | zero =>
    -- a path without repetition is no longer than the stuck names
    have hle := (hnodup.subperm hpath).length_le
    omega
  | succ fuel ih =>
    unfold findCycle
    split
    · rename_i hmem
      exact .closed (contains_iff_mem.mp hmem)
    · rename_i hnew
      rw [contains_iff_mem] at hnew
      obtain ⟨other, hother, hedge⟩ := hnext name hname
      dsimp only
      split
      · rename_i next hfound
        obtain ⟨hcandidate, earlier, later, hsplit, hearlier⟩ :=
          find?_eq_some_iff_append.mp hfound
        have hstuck : next ∈ stuck ∧ next ∈ graph.dependencies name := by
          simpa [and_comm] using hcandidate
        refine .step hnew ⟨hstuck, earlier, later, hsplit, ?_⟩ (ih ?_ ?_ hstuck.1 ?_)
        · intro other hother
          simpa [and_comm, imp_iff_not_or] using hearlier other hother
        · exact hnodup.append (nodup_singleton name) (by simpa using hnew)
        · intro other hother
          rcases mem_append.mp hother with hother | hother
          · exact hpath other hother
          · exact mem_singleton.mp hother ▸ hname
        · rw [length_append, length_singleton]
          omega
      · rename_i hnone
        rw [find?_eq_none] at hnone
        exact absurd (by simpa [hother] using hedge) (hnone other (hknown other hother))

/-! ### There is one answer -/

theorem answers_order (hregular : Regular graph) : graph.Answers graph.order := by
  have hstart := start_ordered hregular
  obtain ⟨hordered, hready⟩ := run_ordered hregular (2 * graph.names.length) graph.start hstart
    (by omega)
  have hruns := (runs_iff hregular (2 * graph.names.length) hstart (by omega)).mpr rfl
  unfold order
  dsimp only
  split
  · rename_i hlength
    exact .ordered hruns hlength
  · rename_i hlength
    split
    · rename_i hnil
      exact absurd hnil (hordered.stuck_ne_nil hready hregular hlength)
    · rename_i first rest hstuck
      refine .circle hruns hlength hstuck ?_
      have hle : (graph.stuck (graph.run (2 * graph.names.length) graph.start)).length ≤
          graph.names.length := length_filter_le ..
      rw [stuck, hstuck] at hle
      have hnext := hordered.exists_stuck hready hregular
      rw [stuck, hstuck] at hnext
      have hknown : ∀ name ∈ first :: rest, name ∈ graph.names := by
        rw [← hstuck]
        exact fun name => mem_of_mem_filter
      rw [hstuck]
      exact walk_findCycle hknown hnext (graph.names.length + 1) nodup_nil (by simp)
        mem_cons_self (by simpa using Nat.lt_succ_of_le hle)

theorem Answers.unique {answer second : Except Failure (List String)} (hregular : Regular graph)
    (hanswer : graph.Answers answer) (hsecond : graph.Answers second) : answer = second := by
  have hfinal : ∀ {final}, Runs graph graph.start final →
      final = graph.run (2 * graph.names.length) graph.start :=
    (runs_iff hregular (2 * graph.names.length) (start_ordered hregular) (by omega)).mp
  cases hanswer with
  | ordered hruns hlength =>
    cases hsecond with
    | ordered hruns' => rw [hfinal hruns, hfinal hruns']
    | circle hruns' hlength' => exact absurd (hfinal hruns ▸ hlength) (hfinal hruns' ▸ hlength')
  | circle hruns hlength hstuck hwalk =>
    cases hsecond with
    | ordered hruns' hlength' => exact absurd (hfinal hruns' ▸ hlength') (hfinal hruns ▸ hlength)
    | circle hruns' _ hstuck' hwalk' =>
      rw [hfinal hruns] at hstuck
      rw [hfinal hruns', hstuck] at hstuck'
      obtain ⟨rfl, rfl⟩ := List.cons.inj hstuck'
      rw [hwalk.unique hwalk']

/-! ### The answer depends on the references only -/

section Draws

variable {names : List String} {edge : String → String → Prop}
  (hdraws : graph.Draws names edge)

include hdraws

theorem Draws.regular (hnodup : names.Nodup) (hknown : ∀ name other, edge name other → other ∈ names) :
    Regular graph where
  names := hdraws.names ▸ hnodup
  dependencies := hdraws.nodup
  known name other hother := hdraws.names ▸ hknown name other ((hdraws.edges name other).mp hother)

theorem Draws.edge_eq : (fun name target => target ∈ graph.dependencies name) = edge :=
  funext fun name => funext fun target => propext (hdraws.edges name target)

variable (hdrawn : drawn.Draws names edge)

include hdrawn

theorem Draws.perm (name : String) :
    (graph.dependencies name).Perm (drawn.dependencies name) :=
  (perm_ext_iff_of_nodup (hdraws.nodup name) (hdrawn.nodup name)).mpr fun other =>
    (hdraws.edges name other).trans (hdrawn.edges name other).symm

theorem Draws.start_eq : graph.start = drawn.start := by
  have hempty : (fun name => (graph.dependencies name).isEmpty) =
      fun name => (drawn.dependencies name).isEmpty :=
    funext fun name => (hdraws.perm hdrawn name).isEmpty_eq
  have hlength : (fun name => (name, ((graph.dependencies name).length : Int))) =
      fun name => (name, ((drawn.dependencies name).length : Int)) :=
    funext fun name => by rw [(hdraws.perm hdrawn name).length_eq]
  rw [start, start, hempty, hlength, hdraws.names, hdrawn.names]

theorem Draws.dependents_eq (name : String) : graph.dependents name = drawn.dependents name := by
  have hcontains : (fun other => (graph.dependencies other).contains name) =
      fun other => (drawn.dependencies other).contains name :=
    funext fun other => (hdraws.perm hdrawn other).contains_eq
  rw [dependents, dependents, hcontains, hdraws.names, hdrawn.names]

theorem Draws.meet_eq : graph.meet = drawn.meet := by
  funext ordering name
  rw [meet, meet, hdraws.names, hdrawn.names]

theorem Draws.runs (h : graph.Runs ordering final) : drawn.Runs ordering final := by
  induction h with
  | stop hready => exact .stop hready
  | step hready hname hmet _ ih =>
    rw [hdraws.meet_eq hdrawn] at ih
    rw [hdraws.names, ← hdrawn.names] at hname
    rw [hdraws.dependents_eq hdrawn] at hmet
    exact .step hready hname hmet ih

theorem Draws.answers {answer : Except Failure (List String)} (h : graph.Answers answer) :
    drawn.Answers answer := by
  have hnames : graph.names = drawn.names := hdraws.names.trans hdrawn.names.symm
  cases h with
  | ordered hruns hlength =>
    rw [hdraws.start_eq hdrawn] at hruns
    exact .ordered (hdraws.runs hdrawn hruns) (hnames ▸ hlength)
  | circle hruns hlength hstuck hwalk =>
    rw [hdraws.start_eq hdrawn] at hruns
    rw [hdraws.edge_eq, ← hdrawn.edge_eq, hnames] at hwalk
    rw [stuck, hnames] at hstuck
    exact .circle (hdraws.runs hdrawn hruns) (hnames ▸ hlength) hstuck hwalk

end Draws

/-! ### An order that is found takes the first ready name each time -/

/-- In a list without repetition the names before another one have lesser places. -/
theorem lastPlace_lt_of_mem {earlier later : List String} {other : String}
    (hnodup : (earlier ++ name :: later).Nodup) (hother : other ∈ earlier) :
    lastPlace (earlier ++ name :: later) other < lastPlace (earlier ++ name :: later) name := by
  have hplace : ∀ {found : String} {place : Nat},
      (earlier ++ name :: later)[place]? = some found →
        lastPlace (earlier ++ name :: later) found = place := by
    intro found place hfound
    have hlast := getElem?_lastPlace (mem_of_getElem? hfound)
    obtain ⟨hlt, -⟩ := List.getElem?_eq_some_iff.mp hlast
    exact (getElem?_inj hlt hnodup).mp (hlast.trans hfound.symm)
  obtain ⟨place, hfound⟩ := mem_iff_getElem?.mp hother
  obtain ⟨hlt, -⟩ := List.getElem?_eq_some_iff.mp hfound
  rw [hplace (by rw [getElem?_append_left hlt, hfound] :
      (earlier ++ name :: later)[place]? = some other),
    hplace (by simp : (earlier ++ name :: later)[earlier.length]? = some name)]
  exact hlt

section Arranged

variable {names order : List String} {edge : String → String → Prop}
  (harranged : graph.Arranged order) (hdraws : graph.Draws names edge)

include harranged hdraws

theorem Arranged.greedy (hnodup : names.Nodup) : Greedy names edge order where
  length := hdraws.names ▸ harranged.perm.length_eq
  first taken name rest hsplit := by
    have horder : order.Nodup := harranged.perm.nodup_iff.mpr (hdraws.names ▸ hnodup)
    rw [hsplit] at horder
    have hnew : name ∉ taken := fun hmem =>
      (nodup_append.mp horder).2.2 name hmem name mem_cons_self rfl
    have hname : name ∈ names := hdraws.names ▸ harranged.perm.mem_iff.mp (by simp [hsplit])
    obtain ⟨earlier, later, hnames⟩ := append_of_mem hname
    refine ⟨⟨hnew, fun other hedge => harranged.follows taken name rest hsplit other
      ((hdraws.edges name other).mpr hedge)⟩, earlier, later, hnames, ?_⟩
    rintro other hother ⟨hlater, hmet⟩
    have hle := harranged.earliest taken name rest hsplit other (by simp [hdraws.names, hnames, hother])
      hlater fun target htarget => hmet target ((hdraws.edges other target).mp htarget)
    rw [hdraws.names, hnames] at hle
    exact Nat.not_lt_of_ge hle (lastPlace_lt_of_mem (hnames ▸ hnodup) hother)

/-- References go to earlier names of the order. -/
theorem Arranged.acyclic (hedge : ∀ name other, edge name other → name ∈ names) (name : String) :
    ¬ Relation.TransGen edge name name := by
  have hdescends : ∀ first second, edge first second → order.idxOf second < order.idxOf first := by
    intro first second h
    have hfirst : first ∈ order := harranged.perm.mem_iff.mpr (hdraws.names ▸ hedge first second h)
    obtain ⟨before, after, hsplit, hnew⟩ := eq_append_cons_of_mem hfirst
    have hbefore := harranged.follows before first after hsplit second
      ((hdraws.edges first second).mpr h)
    rw [hsplit, idxOf_append_of_mem hbefore, idxOf_append_of_notMem hnew]
    have := idxOf_lt_length_of_mem hbefore
    omega
  have hpath : ∀ {last}, Relation.TransGen edge name last → order.idxOf last < order.idxOf name := by
    intro last h
    induction h with
    | single h => exact hdescends _ _ h
    | tail _ h ih => exact Nat.lt_trans (hdescends _ _ h) ih
  exact fun h => Nat.lt_irrefl _ (hpath h)

end Arranged

end Graph

/-! ### The order of declarations -/

section Order

variable {declarations : List (String × Expr)}
  (hall : ∀ name ∈ names, ∃ expr, declarations.lookup name = some expr)

include hall

/-- The graph of declarations draws the direct references. -/
theorem exists_draws : ∃ graph, Graph.ofDeclarations? names declarations = some graph ∧
    graph.Draws names (Eager names declarations) := by
  obtain ⟨graph, hgraph, hnames, hnodup, hnone, hdependencies⟩ := ofDeclarations?_eq_some hall
  refine ⟨graph, hgraph, hnames, hnodup, fun name other => ?_⟩
  by_cases hname : name ∈ names
  · obtain ⟨expr, hexpr⟩ := hall name hname
    rw [hdependencies name hname expr hexpr, mem_targets, Expr.mem_references_iff_part]
    simp [Eager, hname, hexpr, and_comm, ReferenceMode.kind]
  · simp [hnone name hname, Eager, hname]

/-- Declarations are ordered as a graph of their direct references is. -/
theorem exists_graph_order (hnodup : names.Nodup) :
    ∃ graph : Graph, graph.Draws names (Eager names declarations) ∧ graph.Regular ∧
      (order names declarations).result.1 = graph.order := by
  obtain ⟨graph, hgraph, hdraws⟩ := exists_draws hall
  refine ⟨graph, hdraws, hdraws.regular hnodup fun _ _ hedge => hedge.2.1, ?_⟩
  refine (Yields.order names declarations []).trans ?_
  rw [ordered, hgraph]

end Order

/-- Declarations of names without repetition are ordered if and only if their direct references do not
lead in a circle. Then the names stand in the one order that takes the first ready name each time;
otherwise the names of a circle are reported. This is the only answer whatever order references are
listed and gone through in, and references that are not direct do not change it. -/
theorem order_determined (names : List String) (declarations : List (String × Expr))
    (hnodup : names.Nodup)
    (hall : ∀ name ∈ names, ∃ expr, declarations.lookup name = some expr) :
    ((∃ found, (order names declarations).result.1 = .ok found) ↔
      ∀ name, ¬ Relation.TransGen (Eager names declarations) name name) ∧
    (∀ found, (order names declarations).result.1 = .ok found → found.Perm names ∧
      ∀ list, Greedy names (Eager names declarations) list ↔ list = found) ∧
    (∀ failure, (order names declarations).result.1 = .error failure →
      ∃ circle, failure = .compile (.unbrokenCycle circle) ∧
        Circle (Eager names declarations) circle) ∧
    (∀ graph : Graph, graph.Draws names (Eager names declarations) →
      ∀ answer, graph.Answers answer ↔ answer = (order names declarations).result.1) ∧
    ∀ others : List (String × Expr), (∀ name ∈ names, ∃ expr, others.lookup name = some expr) →
      (∀ name other, Eager names others name other ↔ Eager names declarations name other) →
      (order names others).result.1 = (order names declarations).result.1 := by
  obtain ⟨graph, hdraws, hregular, hresult⟩ := exists_graph_order hall hnodup
  have hanswers := Graph.answers_order hregular
  rw [hresult]
  have harranged : ∀ found, graph.order = .ok found → graph.Arranged found :=
    fun found => Graph.order_arranged hregular
  have hcircle : ∀ failure, graph.order = .error failure →
      ∃ circle, failure = .compile (.unbrokenCycle circle) ∧
        Circle (Eager names declarations) circle := by
    intro failure hfailure
    rw [hfailure] at hanswers
    cases hanswers with
    | circle _ _ _ hwalk =>
      refine ⟨_, rfl, ?_⟩
      rw [hdraws.edge_eq] at hwalk
      exact hwalk.circle nodup_nil (isChain_singleton _)
  have hunique : ∀ drawn : Graph, drawn.Draws names (Eager names declarations) →
      ∀ answer, drawn.Answers answer ↔ answer = graph.order := by
    intro drawn hdrawn answer
    constructor
    · exact fun h => (hdrawn.answers hdraws h).unique hregular hanswers
    · rintro rfl
      exact hdraws.answers hdrawn hanswers
  refine ⟨⟨?_, fun hacyclic => ?_⟩, fun found hfound => ?_, hcircle, hunique, fun others hothers hsame
    => ?_⟩
  · rintro ⟨found, hfound⟩
    exact (harranged found hfound).acyclic hdraws fun _ _ hedge => hedge.1
  · cases hanswer : graph.order with
    | ok found => exact ⟨found, rfl⟩
    | error failure =>
      obtain ⟨circle, -, hcircle⟩ := hcircle failure hanswer
      obtain ⟨name, hname⟩ := hcircle.transGen
      exact absurd hname (hacyclic name)
  · have hgreedy := (harranged found hfound).greedy hdraws hnodup
    refine ⟨hdraws.names ▸ (harranged found hfound).perm, fun list => ⟨fun hlist => ?_, ?_⟩⟩
    · exact hlist.unique hgreedy
    · rintro rfl
      exact hgreedy
  · -- the other declarations draw the same relation, which has one answer
    obtain ⟨drawn, hdrawn, hregular', hresult'⟩ := exists_graph_order hothers hnodup
    have hedges : Eager names others = Eager names declarations :=
      funext fun name => funext fun other => propext (hsame name other)
    rw [hedges] at hdrawn
    rw [hresult']
    exact (hunique drawn hdrawn _).mp (Graph.answers_order hregular')

/-- Two declarations that refer to each other directly, and one that refers to them lazily. -/
def crossedDeclarations : List (String × Expr) :=
  [("A", .namedRef "B"), ("B", .namedRef "A"), ("C", .lazyRef "A")]

theorem order_determined_crossed :
    (order ["C", "B", "A"] crossedDeclarations).result.1 =
        .error (.compile (.unbrokenCycle ["B", "A", "B"])) ∧
      Circle (Eager ["C", "B", "A"] crossedDeclarations) ["B", "A", "B"] := by
  have hresult : (order ["C", "B", "A"] crossedDeclarations).result.1 =
      .error (.compile (.unbrokenCycle ["B", "A", "B"])) := by rfl
  have hall : ∀ name ∈ ["C", "B", "A"], (crossedDeclarations.lookup name).isSome := by decide
  obtain ⟨-, -, hcircle, -⟩ := order_determined ["C", "B", "A"] crossedDeclarations (by decide)
    fun name hname => Option.isSome_iff_exists.mp (hall name hname)
  obtain ⟨circle, heq, hcircle⟩ := hcircle _ hresult
  cases heq
  exact ⟨hresult, hcircle⟩

end OpenApiClient.Declaration
