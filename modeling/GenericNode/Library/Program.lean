import Mathlib.Data.Fintype.Card
import Mathlib.Tactic.Linarith

/-!
# Stateful programs that may be undefined

A call of imperative code is a state transformer whose value is missing when
the call has undefined behaviour or never returns.  The state reached is kept
in both cases, so that the effects made before the fault stay observable.

`wp` is the total-correctness weakest precondition: the call is defined, it
returns, and its result satisfies the postcondition.  Every loop form comes
with its invariant rule; clients never unfold a loop.
-/

namespace GenericNode.Library

universe u v w x

/-- A call over the state `σ`: the value it returns, unless it is undefined,
and the state it reaches. -/
structure Prog (σ : Type u) (α : Type v) : Type (max u v) where
  run : σ → Option α × σ

namespace Prog

variable {σ : Type u} {τ : Type w}

instance : Monad (Prog.{u, v} σ) where
  pure value := ⟨fun state => (some value, state)⟩
  bind call next := ⟨fun state =>
    match call.run state with
    | (some value, middle) => (next value).run middle
    | (none, middle) => (none, middle)⟩

/-- Undefined behaviour. -/
def undefined {α : Type v} : Prog σ α :=
  ⟨fun state => (none, state)⟩

/-- Read a component of the state. -/
def gets {α : Type v} (view : σ → α) : Prog σ α :=
  ⟨fun state => (some (view state), state)⟩

/-- Change the state. -/
def modify (change : σ → σ) : Prog σ Unit :=
  ⟨fun state => (some (), change state)⟩

/-- The value of a computation without state, undefined where it is `none`. -/
def lift {α : Type v} (value : Option α) : Prog σ α :=
  ⟨fun state => (value, state)⟩

/-- Run a call on one component of a larger state; the rest is unchanged. -/
def zoom {α : Type v} (view : σ → τ) (put : τ → σ → σ) (call : Prog τ α) : Prog σ α :=
  ⟨fun state => ((call.run (view state)).1, put (call.run (view state)).2 state)⟩

/-! ## Weakest preconditions -/

/-- The call is defined, returns, and its result satisfies `post`. -/
def wp {α : Type v} (call : Prog σ α) (post : α → σ → Prop) (state : σ) : Prop :=
  ∃ value final, call.run state = (some value, final) ∧ post value final

variable {α : Type v} {β : Type v}

@[simp]
theorem wp_pure (value : α) (post : α → σ → Prop) (state : σ) :
    wp (pure value) post state ↔ post value state := by
  constructor
  · rintro ⟨_, _, returned, holds⟩
    cases returned
    exact holds
  · intro holds
    exact ⟨value, state, rfl, holds⟩

/-- A sequence runs its second call from the result of the first. -/
theorem run_bind (call : Prog σ α) (next : α → Prog σ β) (state : σ) :
    (call >>= next).run state =
      match call.run state with
      | (some value, middle) => (next value).run middle
      | (none, middle) => (none, middle) :=
  rfl

@[simp]
theorem wp_bind (call : Prog σ α) (next : α → Prog σ β) (post : β → σ → Prop)
    (state : σ) :
    wp (call >>= next) post state ↔
      wp call (fun value middle => wp (next value) post middle) state := by
  constructor
  · rintro ⟨value, final, returned, holds⟩
    rw [run_bind] at returned
    split at returned
    · rename_i firstValue middle first
      exact ⟨firstValue, middle, first, value, final, returned, holds⟩
    · simp at returned
  · rintro ⟨firstValue, middle, first, value, final, returned, holds⟩
    refine ⟨value, final, ?_, holds⟩
    rw [run_bind, first]
    exact returned

@[simp]
theorem wp_undefined (post : α → σ → Prop) (state : σ) :
    wp (undefined : Prog σ α) post state ↔ False := by
  simp [wp, undefined]

@[simp]
theorem wp_gets (view : σ → α) (post : α → σ → Prop) (state : σ) :
    wp (gets view) post state ↔ post (view state) state := by
  constructor
  · rintro ⟨_, _, returned, holds⟩
    cases returned
    exact holds
  · intro holds
    exact ⟨view state, state, rfl, holds⟩

@[simp]
theorem wp_modify (change : σ → σ) (post : Unit → σ → Prop) (state : σ) :
    wp (modify change) post state ↔ post () (change state) := by
  constructor
  · rintro ⟨_, _, returned, holds⟩
    cases returned
    exact holds
  · intro holds
    exact ⟨(), change state, rfl, holds⟩

@[simp]
theorem wp_lift (value : Option α) (post : α → σ → Prop) (state : σ) :
    wp (lift value) post state ↔ ∃ result, value = some result ∧ post result state := by
  constructor
  · rintro ⟨result, final, returned, holds⟩
    obtain ⟨value_eq, state_eq⟩ := Prod.mk.inj returned
    subst final
    exact ⟨result, value_eq, holds⟩
  · rintro ⟨result, rfl, holds⟩
    exact ⟨result, state, rfl, holds⟩

@[simp]
theorem wp_ite (condition : Prop) [Decidable condition] (yes no : Prog σ α)
    (post : α → σ → Prop) (state : σ) :
    wp (if condition then yes else no) post state ↔
      if condition then wp yes post state else wp no post state := by
  split <;> exact Iff.rfl

@[simp]
theorem wp_zoom (view : σ → τ) (put : τ → σ → σ) (call : Prog τ α)
    (post : α → σ → Prop) (state : σ) :
    wp (zoom view put call) post state ↔
      wp call (fun value part => post value (put part state)) (view state) := by
  constructor
  · rintro ⟨value, final, returned, holds⟩
    obtain ⟨value_eq, final_eq⟩ := Prod.mk.inj returned
    subst final
    exact ⟨value, (call.run (view state)).2, Prod.ext value_eq rfl, holds⟩
  · rintro ⟨value, part, returned, holds⟩
    refine ⟨value, put part state, ?_, holds⟩
    simp [zoom, returned]

/-- Postconditions may be weakened. -/
theorem wp_mono {call : Prog σ α} {post weaker : α → σ → Prop} {state : σ}
    (holds : wp call post state)
    (implies : ∀ value final, post value final → weaker value final) :
    wp call weaker state := by
  obtain ⟨value, final, returned, post_holds⟩ := holds
  exact ⟨value, final, returned, implies value final post_holds⟩

/-- Postconditions that agree are interchangeable. -/
theorem wp_congr {call : Prog σ α} {first second : α → σ → Prop} {state : σ}
    (agree : ∀ value final, first value final ↔ second value final) :
    wp call first state ↔ wp call second state :=
  ⟨fun holds => wp_mono holds fun value final => (agree value final).mp,
    fun holds => wp_mono holds fun value final => (agree value final).mpr⟩

/-- Two postconditions of one call hold of the same result. -/
theorem wp_and {call : Prog σ α} {first second : α → σ → Prop} {state : σ}
    (holds : wp call first state) (also : wp call second state) :
    wp call (fun value final => first value final ∧ second value final) state := by
  obtain ⟨value, final, returned, first_holds⟩ := holds
  obtain ⟨value', final', returned', second_holds⟩ := also
  rw [returned] at returned'
  cases returned'
  exact ⟨value, final, returned, first_holds, second_holds⟩

/-- A result that is known satisfies every postcondition that is proved. -/
theorem wp_result {call : Prog σ α} {post : α → σ → Prop} {state final : σ} {value : α}
    (holds : wp call post state) (returned : call.run state = (some value, final)) :
    post value final := by
  obtain ⟨value', final', returned', post_holds⟩ := holds
  rw [returned] at returned'
  cases returned'
  exact post_holds

/-! ## Calls that may not return -/

/-- If the call returns, its result satisfies `post`. -/
def wlp {α : Type v} (call : Prog σ α) (post : α → σ → Prop) (state : σ) : Prop :=
  ∀ value final, call.run state = (some value, final) → post value final

theorem wlp_pure {value : α} {post : α → σ → Prop} {state : σ} (holds : post value state) :
    wlp (pure value) post state := by
  rintro _ _ ⟨⟩
  exact holds

theorem wlp_bind {call : Prog σ α} {next : α → Prog σ β} {post : β → σ → Prop} {state : σ}
    (holds : wlp call (fun value middle => wlp (next value) post middle) state) :
    wlp (call >>= next) post state := by
  intro value final returned
  rw [run_bind] at returned
  split at returned
  · rename_i firstValue middle first
    exact holds firstValue middle first value final returned
  · cases returned

theorem wlp_gets {view : σ → α} {post : α → σ → Prop} {state : σ}
    (holds : post (view state) state) : wlp (gets view) post state := by
  rintro _ _ ⟨⟩
  exact holds

theorem wlp_modify {change : σ → σ} {post : Unit → σ → Prop} {state : σ}
    (holds : post () (change state)) : wlp (modify change) post state := by
  rintro _ _ ⟨⟩
  exact holds

theorem wlp_undefined {post : α → σ → Prop} {state : σ} :
    wlp (undefined : Prog σ α) post state := by
  rintro _ _ ⟨⟩

/-- A call on one component, of which nothing is known but what it returns. -/
theorem wlp_zoom {view : σ → τ} {put : τ → σ → σ} {call : Prog τ α} {post : α → σ → Prop}
    {state : σ} (holds : ∀ value part, post value (put part state)) :
    wlp (zoom view put call) post state := by
  intro value final returned
  obtain ⟨-, rfl⟩ := Prod.mk.inj returned
  exact holds value _

theorem wlp_mono {call : Prog σ α} {post weaker : α → σ → Prop} {state : σ}
    (holds : wlp call post state)
    (implies : ∀ value final, post value final → weaker value final) :
    wlp call weaker state :=
  fun value final returned => implies value final (holds value final returned)

/-- What is done, is done if the call returns. -/
theorem wlp_of_wp {call : Prog σ α} {post : α → σ → Prop} {state : σ}
    (holds : wp call post state) : wlp call post state :=
  fun _ _ returned => wp_result holds returned

/-- What holds if the call returns, holds with what it is known to do. -/
theorem wp_and_wlp {call : Prog σ α} {first second : α → σ → Prop} {state : σ}
    (holds : wp call first state) (also : wlp call second state) :
    wp call (fun value final => first value final ∧ second value final) state := by
  obtain ⟨value, final, returned, first_holds⟩ := holds
  exact ⟨value, final, returned, first_holds, also value final returned⟩

/-! ## Counted loops -/

/-- Run `body start`, `body (start + 1)`, … `count` times, threading a value. -/
def times (body : ℕ → α → Prog σ α) : ℕ → ℕ → α → Prog σ α
  | 0, _, value => pure value
  | count + 1, start, value => do
      let value ← body start value
      times body count (start + 1) value

/-- The loop `for (i = low; i < high; i++)`, threading a value. -/
def forRange (low high : ℕ) (value : α) (body : ℕ → α → Prog σ α) : Prog σ α :=
  times body (high - low) low value

theorem wp_times (body : ℕ → α → Prog σ α) (inv : ℕ → α → σ → Prop)
    (count start : ℕ) (value : α) (state : σ)
    (keeps : ∀ index value state, start ≤ index → index < start + count →
      inv index value state → wp (body index value) (inv (index + 1)) state)
    (holds : inv start value state) :
    wp (times body count start value) (inv (start + count)) state := by
  induction count generalizing start value state with
  | zero => simpa [times] using holds
  | succ count ih =>
      have first := keeps start value state (Nat.le_refl _) (by omega) holds
      rw [times, wp_bind]
      refine wp_mono first fun value' state' holds' => ?_
      have rest := ih (start + 1) value' state'
        (fun index value state low high => keeps index value state (by omega) (by omega))
        holds'
      rw [show start + (count + 1) = start + 1 + count by omega]
      exact rest

/-- Invariant rule of the counted loop. -/
theorem wp_forRange {body : ℕ → α → Prog σ α} (inv : ℕ → α → σ → Prop)
    {low high : ℕ} {value : α} {state : σ} {post : α → σ → Prop}
    (holds : inv low value state)
    (keeps : ∀ index value state, low ≤ index → index < high →
      inv index value state → wp (body index value) (inv (index + 1)) state)
    (done : ∀ value state, inv (max low high) value state → post value state) :
    wp (forRange low high value body) post state := by
  have loop := wp_times body inv (high - low) low value state
    (fun index value state lower upper => keeps index value state lower (by omega)) holds
  refine wp_mono loop fun value state holds => done value state ?_
  rw [show max low high = low + (high - low) by omega]
  exact holds

/-- The loop `for (i = high - 1; i >= low; i--)`, threading a value. -/
def forRangeDown (low high : ℕ) (value : α) (body : ℕ → α → Prog σ α) : Prog σ α :=
  times (fun step => body (high - 1 - step)) (high - low) 0 value

/-- Invariant rule of the downward loop: `inv i` holds before the iteration
that runs at `i - 1`. -/
theorem wp_forRangeDown {body : ℕ → α → Prog σ α} (inv : ℕ → α → σ → Prop)
    {low high : ℕ} {value : α} {state : σ} {post : α → σ → Prop}
    (ordered : low ≤ high) (holds : inv high value state)
    (keeps : ∀ index value state, low ≤ index → index < high →
      inv (index + 1) value state → wp (body index value) (inv index) state)
    (done : ∀ value state, inv low value state → post value state) :
    wp (forRangeDown low high value body) post state := by
  have loop := wp_times (fun step => body (high - 1 - step))
    (fun step => inv (high - step)) (high - low) 0 value state
    (fun step value state _ upper stepHolds => by
      have body_holds := keeps (high - 1 - step) value state (by omega) (by omega)
        (by rwa [show high - 1 - step + 1 = high - step by omega])
      rwa [show high - (step + 1) = high - 1 - step by omega])
    (by simpa using holds)
  refine wp_mono loop fun value state holds => done value state ?_
  rwa [show high - (0 + (high - low)) = low by omega] at holds

/-! ## Conditional loops -/

variable {γ : Type v}

/-- A loop whose body either continues with a new value or leaves with a
result.  The loop is undefined when it does not leave within `fuel`
iterations. -/
def loop (body : α → Prog σ (α ⊕ γ)) : ℕ → α → Prog σ γ
  | 0, _ => undefined
  | fuel + 1, value => do
      match ← body value with
      | .inl value => loop body fuel value
      | .inr result => pure result

/-- One iteration of a conditional loop. -/
theorem wp_loop_succ {body : α → Prog σ (α ⊕ γ)} {post : γ → σ → Prop} {fuel : ℕ} {value : α}
    {state : σ} :
    wp (loop body (fuel + 1) value) post state ↔
      wp (body value) (fun outcome final =>
        match outcome with
        | .inl next => wp (loop body fuel next) post final
        | .inr result => post result final) state := by
  rw [loop, wp_bind]
  constructor
  · intro holds
    refine wp_mono holds fun outcome final next => ?_
    cases outcome with
    | inl value => exact next
    | inr result => exact (wp_pure result post final).mp next
  · intro holds
    refine wp_mono holds fun outcome final next => ?_
    cases outcome with
    | inl value => exact next
    | inr result => exact (wp_pure result post final).mpr next

/-- Invariant rule of the conditional loop: the variant decreases while the
loop continues, so the fuel is enough. -/
theorem wp_loop {body : α → Prog σ (α ⊕ γ)} (inv : α → σ → Prop) (variant : α → σ → ℕ)
    {post : γ → σ → Prop}
    (keeps : ∀ value state, inv value state →
      wp (body value) (fun outcome final =>
        match outcome with
        | .inl next => inv next final ∧ variant next final < variant value state
        | .inr result => post result final) state)
    (fuel : ℕ) (value : α) (state : σ) (enough : variant value state < fuel)
    (holds : inv value state) :
    wp (loop body fuel value) post state := by
  induction fuel generalizing value state with
  | zero => omega
  | succ fuel ih =>
      rw [wp_loop_succ]
      refine wp_mono (keeps value state holds) fun outcome final outcomeHolds => ?_
      cases outcome with
      | inl next =>
          obtain ⟨nextHolds, decreases⟩ := outcomeHolds
          exact ih next final (by omega) nextHolds
      | inr result => exact outcomeHolds

/-- Invariant rule of a loop that may run out of fuel. -/
theorem wlp_loop {body : α → Prog σ (α ⊕ γ)} (inv : α → σ → Prop) {post : γ → σ → Prop}
    (keeps : ∀ value state, inv value state →
      wlp (body value) (fun outcome final =>
        match outcome with
        | .inl next => inv next final
        | .inr result => post result final) state)
    (fuel : ℕ) (value : α) (state : σ) (holds : inv value state) :
    wlp (loop body fuel value) post state := by
  induction fuel generalizing value state with
  | zero => exact wlp_undefined
  | succ fuel ih =>
      rw [loop]
      apply wlp_bind
      refine wlp_mono (keeps value state holds) fun outcome final outcomeHolds => ?_
      cases outcome with
      | inl next => exact ih next final outcomeHolds
      | inr result => exact wlp_pure outcomeHolds

/-! ## What a call leaves unchanged -/

variable {δ : Type*}

/-- If the call returns, it has left what `view` shows. -/
def Keeps (view : σ → δ) (call : Prog σ α) : Prop :=
  ∀ state, wlp call (fun _ final => view final = view state) state

variable {view : σ → δ}

theorem Keeps.pure (value : α) : Keeps view (Pure.pure value : Prog σ α) :=
  fun _ => wlp_pure rfl

theorem Keeps.gets (part : σ → α) : Keeps view (Prog.gets part) :=
  fun _ => wlp_gets rfl

theorem Keeps.modify {change : σ → σ} (same : ∀ state, view (change state) = view state) :
    Keeps view (Prog.modify change) :=
  fun state => wlp_modify (same state)

theorem Keeps.undefined : Keeps view (Prog.undefined : Prog σ α) :=
  fun _ => wlp_undefined

theorem Keeps.bind {call : Prog σ α} {next : α → Prog σ β} (first : Keeps view call)
    (rest : ∀ value, Keeps view (next value)) : Keeps view (call >>= next) := by
  intro state
  apply wlp_bind
  refine wlp_mono (first state) fun value middle same => ?_
  refine wlp_mono (rest value middle) fun result final still => ?_
  exact still.trans same

theorem Keeps.loop {body : α → Prog σ (α ⊕ γ)} (turn : ∀ value, Keeps view (body value))
    (fuel : ℕ) (value : α) : Keeps view (Prog.loop body fuel value) := by
  induction fuel generalizing value with
  | zero => exact .undefined
  | succ fuel ih =>
      apply (turn value).bind
      intro outcome
      cases outcome with
      | inl next => exact ih next
      | inr result => exact .pure result

end Prog

end GenericNode.Library
