import Mathlib.Data.List.Forall2
import OpenApiClient.Log

/-!
# What a stateful action comes to

Conversions and runs are both actions that may fail and that keep their state when they do. This
file says what such an action comes to from a given state (`outcome`), how the outcome of a
composition follows from the outcomes of its parts, and gives the rules by which an invariant is
carried through one.

A `Contract` fixes what every action of a family has to respect: an invariant of the state, a
relation between the state before and after, and the failures that may occur. `Contract.Keeps` says
that an action respects it from a given state and that the value it returns, if it returns one, is
good. Both ways to end are covered, so what was gathered before a failure is known to be sound.
-/

namespace OpenApiClient

open List

variable {σ α β : Type}

/-- An action on a state that may fail; the state reached before the failure is kept. -/
abbrev Action (σ : Type) := ExceptT Failure (StateM σ)

/-- What an action comes to from a state: its result and the state it leaves. -/
def outcome (action : Action σ α) (state : σ) : Except Failure α × σ :=
  StateT.run (ExceptT.run action) state

/-! ### Outcomes of compositions -/

theorem action_ext {first second : Action σ α}
    (h : ∀ state, outcome first state = outcome second state) : first = second :=
  funext h

@[simp] theorem outcome_pure (value : α) (state : σ) :
    outcome (pure value : Action σ α) state = (.ok value, state) := rfl

@[simp] theorem outcome_throw (failure : Failure) (state : σ) :
    outcome (throw failure : Action σ α) state = (.error failure, state) := rfl

@[simp] theorem outcome_get (state : σ) :
    outcome (get : Action σ σ) state = (.ok state, state) := rfl

@[simp] theorem outcome_modify (change : σ → σ) (state : σ) :
    outcome (modify change : Action σ Unit) state = (.ok (), change state) := rfl

theorem outcome_bind (action : Action σ α) (next : α → Action σ β) (state : σ) :
    outcome (action >>= next) state =
      match outcome action state with
      | (.ok value, reached) => outcome (next value) reached
      | (.error failure, reached) => (.error failure, reached) := by
  unfold outcome
  simp only [ExceptT.run_bind, StateT.run_bind]
  rcases StateT.run (ExceptT.run action) state with ⟨result, reached⟩
  cases result <;> rfl

@[simp] theorem map_throw_action (f : α → β) (failure : Failure) :
    f <$> (throw failure : Action σ α) = throw failure := rfl

/-- A composition returns a value exactly if its first part returns one from which the second
part does. -/
theorem outcome_bind_ok {action : Action σ α} {next : α → Action σ β} {state last : σ}
    {value : β} :
    outcome (action >>= next) state = (.ok value, last) ↔
      ∃ first reached, outcome action state = (.ok first, reached) ∧
        outcome (next first) reached = (.ok value, last) := by
  rw [outcome_bind]
  rcases outcome action state with ⟨_ | first, reached⟩ <;> simp

/-! ### Actions over lists -/

@[simp] theorem outcome_mapM_nil (act : α → Action σ β) (state : σ) :
    outcome ([].mapM act) state = (.ok [], state) := rfl

theorem outcome_mapM_cons_ok {act : α → Action σ β} {item : α} {rest : List α}
    {state last : σ} {values : List β} :
    outcome ((item :: rest).mapM act) state = (.ok values, last) ↔
      ∃ value others reached, values = value :: others ∧
        outcome (act item) state = (.ok value, reached) ∧
        outcome (rest.mapM act) reached = (.ok others, last) := by
  rw [mapM_cons, outcome_bind_ok]
  constructor
  · rintro ⟨value, reached, hitem, hrest⟩
    obtain ⟨others, final, hothers, hpure⟩ := outcome_bind_ok.mp hrest
    rw [outcome_pure] at hpure
    obtain ⟨rfl, rfl⟩ : value :: others = values ∧ final = last := by simpa using hpure
    exact ⟨value, others, reached, rfl, hitem, hothers⟩
  · rintro ⟨value, others, reached, rfl, hitem, hrest⟩
    exact ⟨value, reached, hitem, outcome_bind_ok.mpr ⟨others, last, hrest, rfl⟩⟩

/-- What is returned for a list has one value for each item. -/
theorem length_of_outcome_mapM {act : α → Action σ β} :
    ∀ {items : List α} {state last : σ} {values : List β},
      outcome (items.mapM act) state = (.ok values, last) → values.length = items.length := by
  intro items
  induction items with
  | nil =>
    intro state last values h
    rw [outcome_mapM_nil] at h
    obtain ⟨rfl, -⟩ : [] = values ∧ state = last := by simpa using h
    rfl
  | cons item rest ih =>
    intro state last values h
    obtain ⟨value, others, reached, rfl, -, hrest⟩ := outcome_mapM_cons_ok.mp h
    simp [ih hrest]

/-- Two ways to go on from the values for a list are the same if they agree on lists of its
length. -/
theorem mapM_bind_congr {γ : Type} {act : α → Action σ β} {items : List α}
    {first second : List β → Action σ γ}
    (h : ∀ values, values.length = items.length → first values = second values) :
    items.mapM act >>= first = items.mapM act >>= second := by
  apply action_ext
  intro state
  rw [outcome_bind, outcome_bind]
  cases houtcome : outcome (items.mapM act) state with
  | mk result reached =>
    cases result with
    | error failure => rfl
    | ok values => simp only [h values (length_of_outcome_mapM houtcome)]

/-- An action that labels what it gets for each item gets everything first and labels it
afterwards. -/
theorem mapM_label {γ δ : Type} (act : γ → Action σ β) (input : α → γ) (label : α → β → δ)
    (items : List α) :
    (items.mapM fun item => do return label item (← act (input item))) =
      (do return zipWith label items (← (items.map input).mapM act)) := by
  induction items with
  | nil => rfl
  | cons item rest ih =>
    rw [mapM_cons, ih]
    simp [mapM_cons]

/-! ### Actions that return -/

/-- An action returns a value from a state. -/
def Returns (action : Action σ α) (state : σ) : Prop :=
  ∃ value reached, outcome action state = (.ok value, reached)

theorem returns_pure (value : α) (state : σ) : Returns (pure value : Action σ α) state :=
  ⟨value, state, rfl⟩

theorem returns_modify (change : σ → σ) (state : σ) :
    Returns (modify change : Action σ Unit) state :=
  ⟨(), change state, rfl⟩

theorem returns_bind_iff {action : Action σ α} {next : α → Action σ β} {state : σ} :
    Returns (action >>= next) state ↔
      ∃ value reached, outcome action state = (.ok value, reached) ∧ Returns (next value) reached := by
  constructor
  · rintro ⟨result, last, hresult⟩
    obtain ⟨value, reached, hvalue, hnext⟩ := outcome_bind_ok.mp hresult
    exact ⟨value, reached, hvalue, result, last, hnext⟩
  · rintro ⟨value, reached, hvalue, result, last, hnext⟩
    exact ⟨result, last, outcome_bind_ok.mpr ⟨value, reached, hvalue, hnext⟩⟩

theorem returns_bind {action : Action σ α} {next : α → Action σ β} {state : σ}
    (haction : Returns action state)
    (hnext : ∀ value reached, outcome action state = (.ok value, reached) →
      Returns (next value) reached) : Returns (action >>= next) state := by
  obtain ⟨value, reached, hvalue⟩ := haction
  exact returns_bind_iff.mpr ⟨value, reached, hvalue, hnext value reached hvalue⟩

/-- After an action that returns, the rest decides. -/
theorem returns_bind_of_ok {action : Action σ α} {next : α → Action σ β} {state reached : σ}
    {value : α} (h : outcome action state = (.ok value, reached)) :
    Returns (action >>= next) state ↔ Returns (next value) reached := by
  rw [returns_bind_iff]
  constructor
  · rintro ⟨other, last, hother, hnext⟩
    obtain ⟨rfl, rfl⟩ : value = other ∧ reached = last := by simpa using h.symm.trans hother
    exact hnext
  · exact fun hnext => ⟨value, reached, h, hnext⟩

theorem returns_mapM {act : α → Action σ β} {items : List α}
    (h : ∀ item ∈ items, ∀ state, Returns (act item) state) :
    ∀ state, Returns (items.mapM act) state := by
  induction items with
  | nil => exact fun state => ⟨[], state, rfl⟩
  | cons item rest ih =>
    intro state
    rw [mapM_cons]
    refine returns_bind (h item mem_cons_self state) fun value reached _ => ?_
    refine returns_bind (ih (fun other hother => h other (mem_cons_of_mem _ hother)) reached)
      fun values last _ => ?_
    exact returns_pure _ _

theorem not_returns_throw (failure : Failure) (state : σ) :
    ¬ Returns (throw failure : Action σ α) state := by
  rintro ⟨value, reached, hvalue⟩
  simp at hvalue

/-- What is done to the value at the end does not matter. -/
theorem returns_bind_pure {action : Action σ α} {change : α → β} {state : σ} :
    Returns (action >>= fun value => pure (change value)) state ↔ Returns action state := by
  rw [returns_bind_iff]
  exact ⟨fun ⟨value, reached, hvalue, _⟩ => ⟨value, reached, hvalue⟩,
    fun ⟨value, reached, hvalue⟩ => ⟨value, reached, hvalue, returns_pure _ _⟩⟩

/-- An action that returns whenever another one does, with the same value and state. -/
def Extends (first second : Action σ α) : Prop :=
  ∀ {state value reached}, outcome first state = (.ok value, reached) →
    outcome second state = (.ok value, reached)

theorem extends_refl (action : Action σ α) : Extends action action := fun h => h

theorem extends_throw (failure : Failure) (action : Action σ α) :
    Extends (throw failure) action := fun h => by simp at h

theorem extends_bind {first second : Action σ α} {next later : α → Action σ β}
    (hfirst : Extends first second) (hnext : ∀ value, Extends (next value) (later value)) :
    Extends (first >>= next) (second >>= later) := by
  intro state result last h
  obtain ⟨value, reached, hvalue, hresult⟩ := outcome_bind_ok.mp h
  exact outcome_bind_ok.mpr ⟨value, reached, hfirst hvalue, hnext value hresult⟩

theorem extends_mapM {first second : α → Action σ β} (h : ∀ item, Extends (first item) (second item)) :
    ∀ items : List α, Extends (items.mapM first) (items.mapM second) := by
  intro items
  induction items with
  | nil => exact extends_refl _
  | cons item rest ih =>
    rw [mapM_cons, mapM_cons]
    exact extends_bind (h item) fun _ => extends_bind ih fun _ => extends_refl _

theorem extends_forM {first second : α → Action σ Unit}
    (h : ∀ item, Extends (first item) (second item)) :
    ∀ items : List α, Extends (items.forM first) (items.forM second) := by
  intro items
  induction items with
  | nil => exact extends_refl _
  | cons item rest ih => exact extends_bind (h item) fun _ => ih

/-! ### Results without a state -/

variable {ε : Type}

theorem bind_eq_ok {result : Except ε α} {next : α → Except ε β} {value : β} :
    (result >>= next) = .ok value ↔ ∃ first, result = .ok first ∧ next first = .ok value := by
  cases result with
  | error error => simp [bind, Except.bind]
  | ok first => simp [bind, Except.bind]

theorem bind_eq_error {result : Except ε α} {next : α → Except ε β} {error : ε} :
    (result >>= next) = .error error ↔
      result = .error error ∨ ∃ first, result = .ok first ∧ next first = .error error := by
  cases result with
  | error other => simp [bind, Except.bind]
  | ok first => simp [bind, Except.bind]

theorem exists_eq_ok {result : Except ε α} (h : result.isOk = true) :
    ∃ value, result = .ok value := by
  cases result with
  | error error => cases h
  | ok value => exact ⟨value, rfl⟩

theorem exists_of_map_eq_ok {result : Except ε α} {change : α → β} {value : β}
    (h : result.map change = .ok value) : ∃ found, result = .ok found ∧ change found = value := by
  cases result with
  | error error => cases h
  | ok found => exact ⟨found, rfl, Except.ok.inj h⟩

theorem eq_error_of_map {result : Except ε α} {change : α → β} {error : ε}
    (h : result.map change = .error error) : result = .error error := by
  cases result with
  | error other => cases h; rfl
  | ok found => cases h

theorem exists_bind_eq_ok {result : Except ε α} {next : α → Except ε β}
    (h : ∃ value, result = .ok value) (hnext : ∀ value, ∃ last, next value = .ok last) :
    ∃ last, (result >>= next) = .ok last := by
  obtain ⟨value, rfl⟩ := h
  exact hnext value

theorem exists_mapM_eq_ok {act : α → Except ε β} {items : List α}
    (h : ∀ item ∈ items, ∃ value, act item = .ok value) :
    ∃ values, items.mapM act = .ok values := by
  induction items with
  | nil => exact ⟨[], rfl⟩
  | cons item rest ih =>
    rw [mapM_cons]
    refine exists_bind_eq_ok (h item mem_cons_self) fun value => ?_
    refine exists_bind_eq_ok (ih fun other hother => h other (mem_cons_of_mem _ hother))
      fun values => ?_
    exact ⟨value :: values, rfl⟩

/-- Results for a list are the results for its items. -/
theorem mapM_eq_ok_iff {act : α → Except ε β} {items : List α} {values : List β} :
    items.mapM act = .ok values ↔
      List.Forall₂ (fun item value => act item = .ok value) items values := by
  induction items generalizing values with
  | nil =>
    rw [mapM_nil, forall₂_nil_left_iff]
    exact ⟨fun h => (Except.ok.inj h).symm, fun h => h ▸ rfl⟩
  | cons item rest ih =>
    rw [mapM_cons, bind_eq_ok, forall₂_cons_left_iff]
    simp only [bind_eq_ok, ih]
    constructor
    · rintro ⟨value, hvalue, others, hothers, hlist⟩
      exact ⟨value, others, hvalue, hothers, (Except.ok.inj hlist).symm⟩
    · rintro ⟨value, others, hvalue, hothers, rfl⟩
      exact ⟨value, hvalue, others, hothers, rfl⟩

/-- If every result for an item is one of another function too, so are the results for a list. -/
theorem mapM_eq_ok_mono {act other : α → Except ε β} {items : List α} {values : List β}
    (h : ∀ item value, act item = .ok value → other item = .ok value)
    (hvalues : items.mapM act = .ok values) : items.mapM other = .ok values :=
  mapM_eq_ok_iff.mpr ((mapM_eq_ok_iff.mp hvalues).imp h)

/-- A function that has the result for an item wherever there is one gives the results for a list. -/
theorem eq_map_of_mapM {ε : Type} {act : α → Except ε β} {items : List α} {values : List β}
    {value : α → β} (hvalue : ∀ item found, act item = .ok found → value item = found)
    (h : items.mapM act = .ok values) :
    values = items.map value ∧ ∀ item ∈ items, act item = .ok (value item) := by
  rw [mapM_eq_ok_iff] at h
  have hmap : items.map value = values := by
    rw [← forall₂_eq_eq_eq, forall₂_map_left_iff]
    exact h.imp hvalue
  rw [← hmap, forall₂_map_right_iff, forall₂_same] at h
  exact ⟨hmap.symm, h⟩

theorem eq_ok_of_toOption {result : Except ε α} {value : α} (h : result.toOption = some value) :
    result = .ok value := by
  cases result with
  | error error => cases h
  | ok found => cases h; rfl

theorem exists_ok_of_bind {result : Except ε α} {next : α → Option β} {last : β}
    (h : result.toOption.bind next = some last) :
    ∃ value, result = .ok value ∧ next value = some last := by
  obtain ⟨value, hvalue, hnext⟩ := Option.bind_eq_some_iff.mp h
  exact ⟨value, eq_ok_of_toOption hvalue, hnext⟩

theorem returns_of_isOk {action : Action σ α} {state : σ}
    (h : (outcome action state).1.isOk = true) : Returns action state := by
  obtain ⟨value, hvalue⟩ := exists_eq_ok h
  exact ⟨value, (outcome action state).2, Prod.ext hvalue rfl⟩

/-- Results for a list fail with the failure of one of its items. -/
theorem exists_of_mapM_error {read : α → Except ε β} {items : List α} {error : ε}
    (h : items.mapM read = .error error) : ∃ item ∈ items, read item = .error error := by
  induction items with
  | nil => cases h
  | cons item rest ih =>
    rw [mapM_cons] at h
    cases hitem : read item with
    | error other =>
      rw [hitem] at h
      cases h
      exact ⟨item, mem_cons_self, hitem⟩
    | ok value =>
      rw [hitem] at h
      cases hrest : rest.mapM read with
      | ok values => rw [hrest] at h; cases h
      | error other =>
        rw [hrest] at h
        cases h
        obtain ⟨found, hfound, herror⟩ := ih hrest
        exact ⟨found, mem_cons_of_mem _ hfound, herror⟩

/-! ### Values for the items of a list -/

theorem exists_of_forall₂ {good : α → β → Prop} {items : List α} {values : List β} {value : β}
    (h : List.Forall₂ good items values) (hvalue : value ∈ values) :
    ∃ item ∈ items, good item value := by
  induction h with
  | nil => cases hvalue
  | cons hhead _ ih =>
    rcases mem_cons.mp hvalue with rfl | hvalue
    · exact ⟨_, mem_cons_self, hhead⟩
    · obtain ⟨item, hitem, hgood⟩ := ih hvalue
      exact ⟨item, mem_cons_of_mem _ hitem, hgood⟩

theorem forall_mem_of_forall₂ {good : β → Prop} {items : List α} {values : List β}
    (h : List.Forall₂ (fun _ value => good value) items values) : ∀ value ∈ values, good value := by
  intro value hvalue
  obtain ⟨-, -, hgood⟩ := exists_of_forall₂ h hvalue
  exact hgood

/-! ### Contracts -/

/-- What every action of a family respects: an invariant of the state, a relation between the
state before and after, and the failures that may occur. -/
structure Contract (σ : Type) where
  inv : σ → Prop
  grows : σ → σ → Prop
  fault : Failure → Prop
  refl : ∀ state, grows state state
  trans : ∀ {first second third}, grows first second → grows second third → grows first third

namespace Contract

variable (contract : Contract σ)

/-- An action respects a contract from a state, and returns only good values. -/
def Keeps (action : Action σ α) (good : α → σ → Prop) (state : σ) : Prop :=
  ∀ result reached, outcome action state = (result, reached) →
    contract.inv reached ∧ contract.grows state reached ∧
      match result with
      | .ok value => good value reached
      | .error failure => contract.fault failure

variable {contract}

theorem Keeps.ok {action : Action σ α} {good : α → σ → Prop} {state reached : σ} {value : α}
    (h : contract.Keeps action good state) (houtcome : outcome action state = (.ok value, reached)) :
    contract.inv reached ∧ contract.grows state reached ∧ good value reached :=
  h _ _ houtcome

theorem Keeps.error {action : Action σ α} {good : α → σ → Prop} {state reached : σ}
    {failure : Failure} (h : contract.Keeps action good state)
    (houtcome : outcome action state = (.error failure, reached)) :
    contract.inv reached ∧ contract.grows state reached ∧ contract.fault failure :=
  h _ _ houtcome

theorem Keeps.mono {action : Action σ α} {good better : α → σ → Prop} {state : σ}
    (h : contract.Keeps action good state)
    (hgood : ∀ value reached, contract.inv reached → contract.grows state reached →
      good value reached → better value reached) : contract.Keeps action better state := by
  intro result reached houtcome
  obtain ⟨hinv, hgrows, hresult⟩ := h result reached houtcome
  refine ⟨hinv, hgrows, ?_⟩
  cases result with
  | ok value => exact hgood value reached hinv hgrows hresult
  | error failure => exact hresult

theorem keeps_pure {good : α → σ → Prop} {state : σ} {value : α} (hinv : contract.inv state)
    (hgood : good value state) : contract.Keeps (pure value) good state := by
  intro result reached houtcome
  rw [outcome_pure] at houtcome
  obtain ⟨rfl, rfl⟩ : .ok value = result ∧ state = reached := by simpa using houtcome
  exact ⟨hinv, contract.refl state, hgood⟩

theorem keeps_throw {good : α → σ → Prop} {state : σ} {failure : Failure}
    (hinv : contract.inv state) (hfault : contract.fault failure) :
    contract.Keeps (throw failure) good state := by
  intro result reached houtcome
  rw [outcome_throw] at houtcome
  obtain ⟨rfl, rfl⟩ : .error failure = result ∧ state = reached := by simpa using houtcome
  exact ⟨hinv, contract.refl state, hfault⟩

theorem keeps_get {state : σ} (hinv : contract.inv state) :
    contract.Keeps get (fun value reached => value = state ∧ reached = state) state := by
  intro result reached houtcome
  rw [outcome_get] at houtcome
  obtain ⟨rfl, rfl⟩ : .ok state = result ∧ state = reached := by simpa using houtcome
  exact ⟨hinv, contract.refl state, rfl, rfl⟩

theorem keeps_modify {state : σ} {change : σ → σ} {good : Unit → σ → Prop}
    (hinv : contract.inv (change state)) (hgrows : contract.grows state (change state))
    (hgood : good () (change state)) : contract.Keeps (modify change) good state := by
  intro result reached houtcome
  rw [outcome_modify] at houtcome
  obtain ⟨rfl, rfl⟩ : .ok () = result ∧ change state = reached := by simpa using houtcome
  exact ⟨hinv, hgrows, hgood⟩

theorem keeps_bind {action : Action σ α} {next : α → Action σ β} {mid : α → σ → Prop}
    {good : β → σ → Prop} {state : σ} (haction : contract.Keeps action mid state)
    (hnext : ∀ value reached, contract.inv reached → contract.grows state reached →
      mid value reached → contract.Keeps (next value) good reached) :
    contract.Keeps (action >>= next) good state := by
  intro result last houtcome
  rw [outcome_bind] at houtcome
  cases hfirst : outcome action state with
  | mk first reached =>
    rw [hfirst] at houtcome
    obtain ⟨hinv, hgrows, hmid⟩ := haction first reached hfirst
    cases first with
    | error failure =>
      obtain ⟨rfl, rfl⟩ : .error failure = result ∧ reached = last := by
        simpa using houtcome
      exact ⟨hinv, hgrows, hmid⟩
    | ok value =>
      obtain ⟨hinv', hgrows', hgood⟩ := hnext value reached hinv hgrows hmid result last houtcome
      exact ⟨hinv', contract.trans hgrows hgrows', hgood⟩

/-- A contract that every item keeps is kept by the whole list. What is known about a value has
to survive the items that follow. -/
theorem keeps_mapM {act : α → Action σ β} {good : α → β → σ → Prop}
    (hstable : ∀ item value first second, contract.grows first second →
      good item value first → good item value second) :
    ∀ {items : List α}, (∀ item ∈ items, ∀ state, contract.inv state →
        contract.Keeps (act item) (good item) state) →
      ∀ state, contract.inv state → contract.Keeps (items.mapM act)
        (fun values reached => List.Forall₂ (fun item value => good item value reached) items values)
        state := by
  intro items
  induction items with
  | nil =>
    intro _ state hinv
    exact keeps_pure hinv List.Forall₂.nil
  | cons item rest ih =>
    intro hitems state hinv
    rw [mapM_cons]
    apply keeps_bind (hitems item mem_cons_self state hinv)
    intro value reached hinv' _ hvalue
    apply keeps_bind (ih (fun other hother => hitems other (mem_cons_of_mem _ hother))
      reached hinv')
    intro values last hinv'' hgrows hvalues
    exact keeps_pure hinv'' (.cons (hstable _ _ _ _ hgrows hvalue) hvalues)

end Contract

end OpenApiClient
