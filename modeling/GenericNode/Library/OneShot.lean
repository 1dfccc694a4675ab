import Mathlib.Data.Fintype.Card
import Mathlib.Tactic.Linarith

/-!
# One-shot timers

What was done with some timers is recorded, the latest first.  A one-shot timer
is called back once for each start, when the value set before that start has
elapsed, and is not called back after a stop.
-/

namespace GenericNode.Library.OneShot

/-- What is done with one of several timers. -/
inductive Action (ι : Type) where
  | init (timer : ι)
  | setValue (timer : ι) (value : ℕ)
  | start (timer : ι)
  | stop (timer : ι)
  | callback (timer : ι)
  | isStarted (timer : ι) (answer : Bool)
deriving DecidableEq, Repr

/-- An action, and when it was. -/
structure Entry (ι : Type) where
  time : ℕ
  action : Action ι
deriving DecidableEq, Repr

variable {ι : Type}

/-- The timer that an action changes. -/
def Action.changes : Action ι → Option ι
  | .init timer | .setValue timer _ | .start timer | .stop timer | .callback timer => some timer
  | .isStarted _ _ => none

/-- When a timer was stopped last. -/
def lastStop : List (Entry ι) → ℕ
  | [] => 0
  | ⟨time, .stop _⟩ :: _ => time
  | _ :: older => lastStop older

/-- When a timer may be called back: from the value set and its start, and for
the latest time also from the last stop of any timer. -/
structure Timing where
  earliest : (value start : ℕ) → ℕ
  latest : (value start stopped : ℕ) → ℕ

section Record

variable [DecidableEq ι]

/-- The value of a timer after an action. -/
def Action.valueAfter (timer : ι) (before : Option ℕ) : Action ι → Option ℕ
  | .init other => if other = timer then none else before
  | .setValue other value => if other = timer then some value else before
  | .start _ | .stop _ | .callback _ | .isStarted _ _ => before

/-- The value that was set last. -/
def lastValue (timer : ι) : List (Entry ι) → Option ℕ
  | [] => none
  | entry :: older => entry.action.valueAfter timer (lastValue timer older)

/-- A timer was started with a value, and was not changed since. -/
def Started (log : List (Entry ι)) (timer : ι) (start value : ℕ) : Prop :=
  ∃ quiet earlier, log = quiet ++ ⟨start, .start timer⟩ :: earlier ∧
    (∀ entry ∈ quiet, entry.action.changes ≠ some timer) ∧ lastValue timer earlier = some value

/-- Every callback is the first one after a start, and in time; a timer is
reported as started from its start to its callback. -/
structure Lawful (timing : Timing) (log : List (Entry ι)) : Prop where
  callback : ∀ later time timer older, log = later ++ ⟨time, .callback timer⟩ :: older →
    ∃ start value, Started older timer start value ∧
      timing.earliest value start ≤ time ∧ time ≤ timing.latest value start (lastStop older)
  isStarted : ∀ later time timer answer older,
    log = later ++ ⟨time, .isStarted timer answer⟩ :: older →
      (answer = true ↔ ∃ start value, Started older timer start value)

/-- The callback of a timer that is started is not overdue. -/
def Awaited (timing : Timing) (log : List (Entry ι)) (now : ℕ) (timer : ι) : Prop :=
  ∀ start value, Started log timer start value →
    now ≤ timing.latest value start (lastStop log)

/-! ## Computing which timer is started -/

/-- When a timer was started, and its value, after an action. -/
def Entry.startAfter (timer : ι) (value : Option ℕ) (before : Option (ℕ × ℕ))
    (entry : Entry ι) : Option (ℕ × ℕ) :=
  match entry.action with
  | .start other => if other = timer then value.map fun value => (entry.time, value) else before
  | .init other | .setValue other _ | .stop other | .callback other =>
      if other = timer then none else before
  | .isStarted _ _ => before

/-- When a timer was started, and its value, if it still waits. -/
def pending (timer : ι) : List (Entry ι) → Option (ℕ × ℕ)
  | [] => none
  | entry :: older => entry.startAfter timer (lastValue timer older) (pending timer older)

variable {timing : Timing} {timer other : ι} {time start value now : ℕ} {entry : Entry ι}
  {log older : List (Entry ι)}

/-- An action on another timer. -/
theorem lastValue_cons_other (elsewhere : entry.action.changes ≠ some timer) :
    lastValue timer (entry :: older) = lastValue timer older := by
  rcases entry with ⟨time, action⟩
  rw [lastValue]
  cases action with
  | init other | setValue other value =>
      have different : other ≠ timer := fun same => elsewhere (congrArg some same)
      simp only [Action.valueAfter, if_neg different]
  | start other | stop other | callback other | isStarted other answer => rfl

theorem pending_cons_other (elsewhere : entry.action.changes ≠ some timer) :
    pending timer (entry :: older) = pending timer older := by
  rcases entry with ⟨time, action⟩
  rw [pending]
  cases action with
  | init other | setValue other value | start other | stop other | callback other =>
      have different : other ≠ timer := fun same => elsewhere (congrArg some same)
      simp only [Entry.startAfter, if_neg different]
  | isStarted other answer => rfl

omit [DecidableEq ι] in
/-- Only a stop is one. -/
theorem lastStop_cons (not_stop : ∀ other, entry.action ≠ .stop other) :
    lastStop (entry :: older) = lastStop older := by
  rcases entry with ⟨time, action⟩
  cases action with
  | stop other => exact absurd rfl (not_stop other)
  | init other | setValue other value | start other | callback other => rfl
  | isStarted other answer => rfl

@[simp]
theorem lastValue_init : lastValue timer (⟨time, .init timer⟩ :: older) = none := by
  simp only [lastValue, Action.valueAfter, ↓reduceIte]

@[simp]
theorem lastValue_setValue (value : ℕ) :
    lastValue timer (⟨time, .setValue timer value⟩ :: older) = some value := by
  simp only [lastValue, Action.valueAfter, ↓reduceIte]

@[simp]
theorem lastValue_start : lastValue timer (⟨time, .start other⟩ :: older) =
    lastValue timer older :=
  rfl

@[simp]
theorem lastValue_stop : lastValue timer (⟨time, .stop other⟩ :: older) =
    lastValue timer older :=
  rfl

@[simp]
theorem lastValue_callback : lastValue timer (⟨time, .callback other⟩ :: older) =
    lastValue timer older :=
  rfl

@[simp]
theorem pending_start : pending timer (⟨time, .start timer⟩ :: older) =
    (lastValue timer older).map fun value => (time, value) := by
  simp only [pending, Entry.startAfter, ↓reduceIte]

/-- Any other action on a timer ends its wait. -/
theorem pending_cons_self (self : entry.action.changes = some timer)
    (not_start : entry.action ≠ .start timer) :
    pending timer (entry :: older) = none := by
  rcases entry with ⟨time, action⟩
  rw [pending]
  cases action with
  | start other =>
      cases self
      exact absurd rfl not_start
  | init other | setValue other value | stop other | callback other =>
      cases self
      simp only [Entry.startAfter, ↓reduceIte]
  | isStarted other answer => cases self

theorem started_nil : ¬ Started ([] : List (Entry ι)) timer start value := by
  rintro ⟨quiet, earlier, log_eq, -⟩
  cases quiet <;> cases log_eq

/-- An action that does not change the timer. -/
theorem started_cons_other (elsewhere : entry.action.changes ≠ some timer) :
    Started (entry :: older) timer start value ↔ Started older timer start value := by
  constructor
  · rintro ⟨quiet, earlier, log_eq, still, set⟩
    cases quiet with
    | nil =>
        cases log_eq
        exact absurd rfl elsewhere
    | cons first quiet =>
        cases log_eq
        exact ⟨quiet, earlier, rfl, fun entry mem => still entry (List.mem_cons_of_mem _ mem), set⟩
  · rintro ⟨quiet, earlier, rfl, still, set⟩
    refine ⟨entry :: quiet, earlier, rfl, ?_, set⟩
    intro entry mem
    rcases List.mem_cons.mp mem with rfl | mem
    · exact elsewhere
    · exact still entry mem

/-- An action on the timer starts it or not. -/
theorem started_cons_self (self : entry.action.changes = some timer) :
    Started (entry :: older) timer start value ↔
      entry = ⟨start, .start timer⟩ ∧ lastValue timer older = some value := by
  constructor
  · rintro ⟨quiet, earlier, log_eq, still, set⟩
    cases quiet with
    | nil =>
        cases log_eq
        exact ⟨rfl, set⟩
    | cons first quiet =>
        cases log_eq
        exact absurd self (still entry List.mem_cons_self)
  · rintro ⟨rfl, set⟩
    exact ⟨[], older, rfl, fun entry mem => absurd mem List.not_mem_nil, set⟩

/-- A timer is started when it is computed to be. -/
theorem started_iff : Started log timer start value ↔ pending timer log = some (start, value) := by
  induction log with
  | nil => simp [started_nil, pending]
  | cons entry older ih =>
      by_cases self : entry.action.changes = some timer
      · rw [started_cons_self self]
        by_cases is_start : entry.action = .start timer
        · rcases entry with ⟨time, action⟩
          cases is_start
          rw [pending_start, Option.map_eq_some_iff]
          constructor
          · rintro ⟨⟨⟩, set⟩
            exact ⟨value, set, rfl⟩
          · rintro ⟨value, set, ⟨⟩⟩
            exact ⟨rfl, set⟩
        · rw [pending_cons_self self is_start]
          constructor
          · rintro ⟨rfl, -⟩
            exact absurd rfl is_start
          · rintro ⟨⟩
      · rw [started_cons_other self, pending_cons_other self, ih]

/-- Whether a timer is started. -/
theorem exists_started_iff :
    (∃ start value, Started log timer start value) ↔ (pending timer log).isSome = true := by
  rw [Option.isSome_iff_exists]
  constructor
  · rintro ⟨start, value, started⟩
    exact ⟨(start, value), started_iff.mp started⟩
  · rintro ⟨⟨start, value⟩, waits⟩
    exact ⟨start, value, started_iff.mpr waits⟩

/-! ## Lawful records -/

/-- What may be recorded next. -/
def Entry.Allowed (timing : Timing) (older : List (Entry ι)) (entry : Entry ι) : Prop :=
  match entry.action with
  | .callback timer => ∃ start value, pending timer older = some (start, value) ∧
      timing.earliest value start ≤ entry.time ∧
      entry.time ≤ timing.latest value start (lastStop older)
  | .isStarted timer answer => answer = (pending timer older).isSome
  | .init _ | .setValue _ _ | .start _ | .stop _ => True

theorem lawful_nil : Lawful timing ([] : List (Entry ι)) := by
  constructor
  · intro later time timer older log_eq
    cases later <;> cases log_eq
  · intro later time timer answer older log_eq
    cases later <;> cases log_eq

/-- A record stays lawful with what is allowed. -/
theorem Lawful.cons (lawful : Lawful timing older) (allowed : entry.Allowed timing older) :
    Lawful timing (entry :: older) := by
  constructor
  · intro later time timer earlier log_eq
    cases later with
    | nil =>
        cases log_eq
        rcases allowed with ⟨start, value, waits, in_time⟩
        exact ⟨start, value, started_iff.mpr waits, in_time⟩
    | cons first later =>
        cases log_eq
        exact lawful.callback later time timer earlier rfl
  · intro later time timer answer earlier log_eq
    cases later with
    | nil =>
        cases log_eq
        have answered : answer = (pending timer older).isSome := allowed
        rw [answered, exists_started_iff]
    | cons first later =>
        cases log_eq
        exact lawful.isStarted later time timer answer earlier rfl

/-- With more time, a record stays lawful. -/
theorem Lawful.mono {more : Timing} (lawful : Lawful timing log)
    (earliest : ∀ value start, more.earliest value start ≤ timing.earliest value start)
    (latest : ∀ value start stopped,
      timing.latest value start stopped ≤ more.latest value start stopped) :
    Lawful more log := by
  constructor
  · intro later time timer older log_eq
    rcases lawful.callback later time timer older log_eq with ⟨start, value, started, after, before⟩
    exact ⟨start, value, started, (earliest _ _).trans after, before.trans (latest _ _ _)⟩
  · exact lawful.isStarted

/-! ## The calls on a timer -/

/-- The timer that an action is a call on. -/
def Action.calls : Action ι → Option ι
  | .init timer | .setValue timer _ | .start timer | .stop timer => some timer
  | .callback _ | .isStarted _ _ => none

/-- The calls on a timer, the latest first. -/
def callsOf (timer : ι) (log : List (Entry ι)) : List (Action ι) :=
  (log.map Entry.action).filter fun action => action.calls = some timer

/-- The value of a timer after some calls. -/
def valueOf (timer : ι) : List (Action ι) → Option ℕ
  | [] => none
  | action :: older => action.valueAfter timer (valueOf timer older)

/-- The value with which a timer is started, if the latest of its calls is a
start. -/
def startedWith (timer : ι) : List (Action ι) → Option ℕ
  | .start _ :: older => valueOf timer older
  | _ => none

/-- The callback for the latest of some calls, which is a start; when the start
was, and the last stop of any timer before. -/
def CalledBack (log : List (Entry ι)) (timer : ι) (calls : List (Action ι))
    (value start stopped time : ℕ) : Prop :=
  ∃ later older, log = later ++ ⟨time, .callback timer⟩ :: older ∧
    callsOf timer older = calls ∧ Started older timer start value ∧ stopped = lastStop older

/-- If the latest call on a timer is a start, its callback was, or is not
overdue. -/
def Served (timing : Timing) (log : List (Entry ι)) (now : ℕ) (timer : ι) : Prop :=
  ∀ value, startedWith timer (callsOf timer log) = some value →
    (∃ start stopped time, CalledBack log timer (callsOf timer log) value start stopped time) ∨
      ∃ start, Started log timer start value ∧ now ≤ timing.latest value start (lastStop log)

theorem callsOf_cons_self (self : entry.action.calls = some timer) :
    callsOf timer (entry :: older) = entry.action :: callsOf timer older := by
  rw [callsOf, List.map_cons, List.filter_cons_of_pos (by simpa using self)]
  rfl

theorem callsOf_cons_other (elsewhere : entry.action.calls ≠ some timer) :
    callsOf timer (entry :: older) = callsOf timer older := by
  rw [callsOf, List.map_cons, List.filter_cons_of_neg (by simpa using elsewhere)]
  rfl

omit [DecidableEq ι] in
/-- A call changes its timer. -/
theorem changes_of_calls {action : Action ι} (self : action.calls = some timer) :
    action.changes = some timer := by
  cases action with
  | init other | setValue other value | start other | stop other => exact self
  | callback other | isStarted other answer => cases self

/-- The value of a timer is told by the calls on it. -/
theorem lastValue_eq (timer : ι) (log : List (Entry ι)) :
    lastValue timer log = valueOf timer (callsOf timer log) := by
  induction log with
  | nil => rfl
  | cons entry older ih =>
      by_cases self : entry.action.calls = some timer
      · rw [callsOf_cons_self self, lastValue, valueOf, ih]
      · rw [callsOf_cons_other self, ← ih]
        by_cases changed : entry.action.changes = some timer
        · rcases entry with ⟨time, action⟩
          cases action with
          | callback other => rfl
          | init other | setValue other value | start other | stop other =>
              exact absurd changed self
          | isStarted other answer => cases changed
        · exact lastValue_cons_other changed

/-- A timer that waits is started with its value. -/
theorem startedWith_of_pending (waits : pending timer log = some (start, value)) :
    startedWith timer (callsOf timer log) = some value := by
  induction log with
  | nil => cases waits
  | cons entry older ih =>
      by_cases changed : entry.action.changes = some timer
      · by_cases is_start : entry.action = .start timer
        · rcases entry with ⟨time, action⟩
          cases is_start
          rw [pending_start, Option.map_eq_some_iff] at waits
          rcases waits with ⟨value, last, ⟨⟩⟩
          rw [callsOf_cons_self rfl, startedWith, ← lastValue_eq]
          exact last
        · rw [pending_cons_self changed is_start] at waits
          cases waits
      · rw [pending_cons_other changed] at waits
        have elsewhere : entry.action.calls ≠ some timer := fun self =>
          changed (changes_of_calls self)
        rw [callsOf_cons_other elsewhere]
        exact ih waits

/-- The callbacks for one start have one value. -/
theorem CalledBack.startedWith_eq {calls : List (Action ι)} {stopped : ℕ}
    (called : CalledBack log timer calls value start stopped time) :
    startedWith timer calls = some value := by
  rcases called with ⟨later, older, -, rfl, started, -⟩
  exact startedWith_of_pending (started_iff.mp started)

/-- A start was called back, or the timer waits. -/
theorem calledBack_or_pending (last : startedWith timer (callsOf timer log) = some value) :
    (∃ start stopped time, CalledBack log timer (callsOf timer log) value start stopped time) ∨
      ∃ start, pending timer log = some (start, value) := by
  induction log with
  | nil => cases last
  | cons entry older ih =>
      by_cases self : entry.action.calls = some timer
      · right
        rw [callsOf_cons_self self] at last
        rcases entry with ⟨time, action⟩
        cases action with
        | start other =>
            cases self
            rw [startedWith, ← lastValue_eq] at last
            rw [pending_start, last]
            exact ⟨time, rfl⟩
        | init other | setValue other value | stop other => cases last
        | callback other | isStarted other answer => cases self
      · rw [callsOf_cons_other self] at last ⊢
        rcases ih last with ⟨start, stopped, time, later, before, rfl, called⟩ | ⟨start, waits⟩
        · exact .inl ⟨start, stopped, time, entry :: later, before, rfl, called⟩
        · by_cases changed : entry.action.changes = some timer
          · left
            rcases entry with ⟨time, action⟩
            cases action with
            | callback other =>
                cases changed
                exact ⟨start, lastStop older, time, [], older, rfl, rfl, started_iff.mpr waits,
                  rfl⟩
            | init other | setValue other value | start other | stop other =>
                exact absurd changed self
            | isStarted other answer => cases changed
          · rw [pending_cons_other changed]
            exact .inr ⟨start, waits⟩

/-- A timer whose callback is not overdue is served. -/
theorem Awaited.served (awaited : Awaited timing log now timer) : Served timing log now timer := by
  intro value last
  refine (calledBack_or_pending last).imp id ?_
  rintro ⟨start, waits⟩
  exact ⟨start, started_iff.mpr waits, awaited start value (started_iff.mpr waits)⟩

/-- Every callback of a lawful record is in time. -/
theorem Lawful.in_time (lawful : Lawful timing log) {calls : List (Action ι)} {stopped : ℕ}
    (called : CalledBack log timer calls value start stopped time) :
    timing.earliest value start ≤ time ∧ time ≤ timing.latest value start stopped := by
  rcases called with ⟨later, older, log_eq, -, started, rfl⟩
  rcases lawful.callback later time timer older log_eq with ⟨start', value', started', in_time⟩
  have same := started_iff.mp started
  rw [started_iff.mp started'] at same
  cases same
  exact in_time

end Record

/-! ## Lateness -/

/-- How late some work is done: when there was none last, and the longest time
that there was some. -/
structure Lateness where
  idle : ℕ
  late : ℕ
deriving DecidableEq, Repr

/-- At a time there is work to do, or there is none. -/
def Lateness.observe (lateness : Lateness) (busy : Bool) (now : ℕ) : Lateness :=
  if busy then { lateness with late := max lateness.late (now - lateness.idle) }
  else { lateness with idle := now }

namespace Lateness

variable {lateness : Lateness} {busy : Bool} {now : ℕ}

/-- There was no work at most that long ago. -/
theorem now_le_observe :
    now ≤ (lateness.observe busy now).idle + (lateness.observe busy now).late := by
  rw [observe]
  cases busy with
  | true =>
      have longest := Nat.le_max_right lateness.late (now - lateness.idle)
      simp only [↓reduceIte]
      omega
  | false => exact Nat.le_add_right _ _

theorem late_le_observe : lateness.late ≤ (lateness.observe busy now).late := by
  rw [observe]
  cases busy with
  | true => exact Nat.le_max_left _ _
  | false => exact Nat.le_refl _

theorem observe_busy_idle : (lateness.observe true now).idle = lateness.idle :=
  rfl

theorem observe_idle : lateness.observe false now = { lateness with idle := now } :=
  rfl

end Lateness

/-! ## Milliseconds -/

/-- The ticks of a number of milliseconds, less the one that has begun. -/
def leastTicks (rate value : ℕ) : ℕ :=
  (value * rate + 999) / 1000 - 1

/-- Rounded down, a number of milliseconds takes enough ticks. -/
theorem leastTicks_le (rate value : ℕ) : leastTicks rate value ≤ value * rate / 1000 := by
  rw [leastTicks]
  omega

/-- A number of milliseconds that takes no more ticks than that. -/
theorem le_of_leastTicks_le {rate value delay : ℕ} (least : leastTicks rate value ≤ delay) :
    value * rate ≤ (delay + 1) * 1000 := by
  rw [leastTicks] at least
  omega

/-- At another rate, it takes the same time. -/
theorem ticks_at_rate {rate value delay : ℕ} (other : ℕ)
    (least : leastTicks rate value ≤ delay) :
    value * other / 1000 * rate ≤ (delay + 1) * other := by
  have whole : value * other / 1000 * 1000 ≤ value * other := Nat.div_mul_le_self _ _
  apply Nat.le_of_mul_le_mul_right (c := 1000) _ (by decide)
  calc value * other / 1000 * rate * 1000
      = value * other / 1000 * 1000 * rate := Nat.mul_right_comm _ _ _
    _ ≤ value * other * rate := Nat.mul_le_mul_right rate whole
    _ = value * rate * other := Nat.mul_right_comm _ _ _
    _ ≤ (delay + 1) * 1000 * other := Nat.mul_le_mul_right other (le_of_leastTicks_le least)
    _ = (delay + 1) * other * 1000 := Nat.mul_right_comm _ _ _

end GenericNode.Library.OneShot
