import GenericNode.Timer.Interrupt

/-!
# The sections of a call

Between the sections of a call to the server an interrupt may come: the tests
whether a timer is linked stand outside the critical sections.
-/

namespace GenericNode.Timer

open GenericNode.Library
open GenericNode.Library.Prog
open GenericNode.Rtc

section Sections

variable {ι : Type} [Fintype ι] [DecidableEq ι] {world : TimerWorld ι}

/-- The test of `UTIL_TIMER_Start`. -/
def utilTimerStartCheck (timerObject : ι) : Prog (TimerWorld ι) Bool := do
  let linked ← timerExists timerObject
  let object ← getObject timerObject
  return decide (linked = false ∧ object.isRunning = false)

/-- Without an interrupt, `UTIL_TIMER_Start` is its test and its critical section. -/
theorem wp_utilTimerStart_iff (timer : ι) (post : UtilTimerStatus → TimerWorld ι → Prop) :
    wp (utilTimerStart timer) post world ↔
      wp (do
        let fits ← utilTimerStartCheck timer
        if fits then
          utilTimerStartSection timer
          return .ok
        else
          return .invalidParam) post world := by
  simp only [utilTimerStart, utilTimerStartCheck, utilTimerStartSection, wp_bind, wp_getObject,
    wp_pure, wp_ite, decide_eq_true_eq]
  refine wp_congr fun linked middle => ?_
  by_cases fits : linked = false ∧ (middle.objects timer).isRunning = false
  · rw [if_pos fits, if_pos fits]
    refine wp_congr fun _ prepared => wp_congr fun head _ => ?_
    cases head with
    | none => simp only [wp_bind, wp_pure]
    | some head => simp only [wp_bind, wp_ite, wp_pure]
  · rw [if_neg fits, if_neg fits]

/-- A call to the server. -/
inductive TimerCall (ι : Type) where
  | start (timer : ι)
  | stop (timer : ι)
  | setPeriod (timer : ι) (newPeriodValue : ℕ)
  | startWithPeriod (timer : ι) (periodValue : ℕ)
deriving DecidableEq, Repr

/-- Where a call is: before the search of the list, `UTIL_TIMER_Stop`, the test
of `UTIL_TIMER_Start`, or the critical section of that function. -/
inductive CallPoint (ι : Type) where
  | lookup (timer : ι) (starts : Bool)
  | stop (timer : ι) (restarts : Bool)
  | check (timer : ι)
  | enter (timer : ι)
deriving DecidableEq, Repr

/-- What a call stores before its first section, which comes next. -/
def TimerCall.begin : TimerCall ι → Prog (TimerWorld ι) (CallPoint ι)
  | .start timer => return .check timer
  | .stop timer => return .stop timer false
  | .setPeriod timer newPeriodValue => do
      setObject timer fun object =>
        { object with reloadValue := gnseRtcConvertMs2Tick newPeriodValue }
      return .lookup timer false
  | .startWithPeriod timer periodValue => do
      setObject timer fun object =>
        { object with reloadValue := gnseRtcConvertMs2Tick periodValue }
      return .lookup timer true

/-- A section of a call, and where the call is then. -/
def CallPoint.run : CallPoint ι → Prog (TimerWorld ι) (Option (CallPoint ι))
  | .lookup timer starts => do
      let linked ← timerExists timer
      return if linked then some (.stop timer true) else if starts then some (.check timer) else none
  | .stop timer restarts => do
      let _ ← utilTimerStop timer
      return if restarts then some (.check timer) else none
  | .check timer => do
      let fits ← utilTimerStartCheck timer
      return if fits then some (.enter timer) else none
  | .enter timer => do
      utilTimerStartSection timer
      return none

/-- The sections of a call that no interrupt comes between. -/
def CallPoint.runAll : ℕ → CallPoint ι → Prog (TimerWorld ι) Unit
  | 0, _ => undefined
  | sections + 1, point => do
      let next ← point.run
      match next with
      | some next => next.runAll sections
      | none => return ()

/-- A call, by the function of the server. -/
def TimerCall.server : TimerCall ι → Prog (TimerWorld ι) Unit
  | .start timer => do
      let _ ← utilTimerStart timer
  | .stop timer => do
      let _ ← utilTimerStop timer
  | .setPeriod timer newPeriodValue => do
      let _ ← utilTimerSetPeriod timer newPeriodValue
  | .startWithPeriod timer periodValue => do
      let _ ← utilTimerStartWithPeriod timer periodValue

/-- The first section of a call comes before the others. -/
theorem wp_runAll_succ (point : CallPoint ι) (sections : ℕ)
    (post : Unit → TimerWorld ι → Prop) :
    wp (point.runAll (sections + 1)) post world ↔
      wp point.run (fun next middle =>
        next.elim (post () middle) fun next => wp (next.runAll sections) post middle) world := by
  rw [CallPoint.runAll, wp_bind]
  refine wp_congr fun next middle => ?_
  cases next with
  | none => exact wp_pure ..
  | some next => exact Iff.rfl

theorem wp_runAll_check (timer : ι) (sections : ℕ) (post : Unit → TimerWorld ι → Prop) :
    wp ((CallPoint.check timer).runAll (sections + 2)) post world ↔
      wp (utilTimerStart timer) (fun _ final => post () final) world := by
  rw [wp_utilTimerStart_iff, wp_runAll_succ]
  simp only [CallPoint.run, wp_bind, wp_pure]
  refine wp_congr fun fits middle => ?_
  cases fits with
  | true =>
      rw [if_pos rfl, Option.elim_some, wp_runAll_succ]
      simp only [CallPoint.run, ↓reduceIte, wp_bind, wp_pure, Option.elim_none]
  | false => simp only [Bool.false_eq_true, ↓reduceIte, wp_pure, Option.elim_none]

/-- A timer that is linked is stopped and started again. -/
theorem wp_runAll_stop (timer : ι) (sections : ℕ) (post : Unit → TimerWorld ι → Prop) :
    wp ((CallPoint.stop timer true).runAll (sections + 3)) post world ↔
      wp (do let _ ← utilTimerStop timer; utilTimerStart timer) (fun _ final => post () final)
        world := by
  rw [wp_runAll_succ]
  simp only [CallPoint.run, ↓reduceIte, wp_bind, wp_pure, Option.elim_some]
  exact wp_congr fun _ middle => wp_runAll_check timer sections post

/-- Without an interrupt, the sections of a call are the function of the server. -/
theorem wp_server_iff (call : TimerCall ι) (post : Unit → TimerWorld ι → Prop) :
    wp (do
      let point ← call.begin
      point.runAll 4) post world ↔ wp call.server post world := by
  cases call with
  | start timer =>
      simp only [TimerCall.begin, TimerCall.server, wp_bind, wp_pure]
      exact wp_runAll_check timer 2 post
  | stop timer =>
      simp only [TimerCall.begin, TimerCall.server, wp_bind, wp_pure, wp_runAll_succ,
        CallPoint.run, Bool.false_eq_true, ↓reduceIte, Option.elim_none]
  | setPeriod timer period =>
      simp only [TimerCall.begin, TimerCall.server, utilTimerSetPeriod, wp_bind, wp_pure,
        wp_runAll_succ _ 3, CallPoint.run]
      refine wp_congr fun _ stored => wp_congr fun linked middle => ?_
      cases linked with
      | true =>
          simp only [↓reduceIte, Option.elim_some]
          exact wp_runAll_stop timer 0 post
      | false => simp only [Bool.false_eq_true, ↓reduceIte, Option.elim_none, wp_pure]
  | startWithPeriod timer period =>
      simp only [TimerCall.begin, TimerCall.server, utilTimerStartWithPeriod, wp_bind, wp_pure,
        wp_runAll_succ _ 3, CallPoint.run]
      refine wp_congr fun _ stored => wp_congr fun linked middle => ?_
      cases linked with
      | true =>
          simp only [↓reduceIte, Option.elim_some]
          exact wp_runAll_stop timer 0 post
      | false =>
          simp only [Bool.false_eq_true, ↓reduceIte, Option.elim_some]
          exact wp_runAll_check timer 1 post

/-! ## The alarm is kept -/

section Kept

variable {due : ι → ℕ} {serving : Bool} {timers : List ι} {timer : ι}

omit [Fintype ι] [DecidableEq ι] in
/-- Time passes. -/
theorem Kept.pass (kept : Kept serving due world) (count : ℕ) :
    Kept serving due (world.withRtc (world.rtc.pass count)) := by
  obtain ⟨timers, timed, watched⟩ := kept
  refine ⟨timers, ⟨timed.linked.congr rfl (fun _ => rfl) fun _ => rfl, timed.exact.pass count,
    timed.due, timed.fits, timed.waiting⟩, fun head first => ?_⟩
  refine Watched.congr (watched head first) rfl rfl fun armed => ?_
  exact armed.pass (timed.near (List.mem_of_head? first)) count

omit [Fintype ι] [DecidableEq ι] in
/-- The time is read. -/
theorem Kept.called (kept : Kept serving due world) :
    Kept serving due (world.withRtc world.rtc.called) := by
  rcases kept with ⟨timers, timed, watched⟩
  refine ⟨timers, timed.called, fun head first => ?_⟩
  refine Watched.congr (watched head first) rfl rfl fun armed => ?_
  exact armed.called (timed.near (List.mem_of_head? first))

omit [Fintype ι] in
/-- The period is stored outside the critical sections. -/
theorem Kept.withReload (kept : Kept serving due world) (timer : ι) (period : ℕ) :
    Kept serving due (world.withReload timer period) := by
  obtain ⟨timers, timed, watched⟩ := kept
  have pending : ∀ other, ((world.withReload timer period).objects other).isPending =
      (world.objects other).isPending := by
    intro other
    rw [TimerWorld.withReload, update_isPending]
    exact fun _ => rfl
  have timestamp := withReload_timestamp world timer period
  have linked := timed.linked.withReload timer period
  refine ⟨timers, timed.of_timing linked (fun _ => id) (fun _ => id) rfl
    (fun other _ => timestamp other) fun other _ => pending other, fun head first => ?_⟩
  apply (watched head first).congr (timestamp head) (pending head)
  intro armed
  rw [TimerWorld.deadline, timestamp]
  exact armed

/-- The sums of the start of a timer do not wrap. -/
def TimerWorld.StartsYoung (world : TimerWorld ι) (timer : ι) : Prop :=
  world.rtc.Young (startReference world) 3 (max minAlarmDelay (world.objects timer).reloadValue)

/-- A section of a call for which no sum wraps; a start finds its timer as its
test has found it. -/
def CallPoint.Fits (world : TimerWorld ι) : CallPoint ι → Prop
  | .enter timer => (world.objects timer).isRunning = false ∧ world.StartsYoung timer
  | .stop timer _ => world.timerListHead = some timer ∧ (world.objects timer).next ≠ none →
      world.rtc.Young world.rtc.contextTicks 2 minAlarmDelay
  | .lookup _ _ | .check _ => True

instance (world : TimerWorld ι) (timer : ι) : Decidable (world.StartsYoung timer) :=
  inferInstanceAs (Decidable (TimerRtc.Young ..))

instance (world : TimerWorld ι) : ∀ point : CallPoint ι, Decidable (point.Fits world)
  | .enter _ => inferInstanceAs (Decidable (_ ∧ _))
  | .stop _ _ => inferInstanceAs (Decidable (_ → _))
  | .lookup _ _ | .check _ => .isTrue trivial

omit [DecidableEq ι] [Fintype ι] in
theorem Linked.not_mem (linked : Linked world timers)
    (stopped : (world.objects timer).isRunning = false) : timer ∉ timers := by
  intro mem
  rw [(linked.running timer).mpr mem] at stopped
  cases stopped

omit [DecidableEq ι] [Fintype ι] in
/-- A stop of the first timer before another one is young. -/
theorem Timed.young_of_stop (timed : Timed due world timers) {restarts : Bool}
    (fits : (CallPoint.stop timer restarts).Fits world) (next : ι) (rest : List ι)
    (split : timers = timer :: next :: rest) :
    world.rtc.Young world.rtc.contextTicks 2 minAlarmDelay := by
  rw [split] at timed
  apply fits
  have tail := (Chain.cons_iff.mp timed.linked.chains).2.head_eq
  refine ⟨timed.linked.chains.head_eq, ?_⟩
  change world.next timer ≠ none
  rw [tail, List.head?_cons]
  exact Option.some_ne_none next

/-- A periodic timer that was not stopped is started again after its callback. -/
def TimerWorld.Reloads (world : TimerWorld ι) (cur : ι) : Prop :=
  (world.objects cur).mode = .periodic ∧ (world.objects cur).isReloadStopped = false ∧
    (world.objects cur).isRunning = false

instance (world : TimerWorld ι) (cur : ι) : Decidable (world.Reloads cur) :=
  inferInstanceAs (Decidable (_ ∧ _))

/-- When the timers that a section starts are due. -/
def CallPoint.noted (due : ι → ℕ) (world : TimerWorld ι) : CallPoint ι → ι → ℕ
  | .enter timer => startedDue due world timer
  | .lookup _ _ | .stop _ _ | .check _ => due

omit [Fintype ι] in
theorem wp_begin_kept (kept : Kept serving due world) (call : TimerCall ι) :
    wp call.begin (fun _ final => Kept serving due final) world := by
  cases call with
  | start timer =>
      rw [TimerCall.begin, wp_pure]
      exact kept
  | stop timer =>
      rw [TimerCall.begin, wp_pure]
      exact kept
  | setPeriod timer period =>
      rw [TimerCall.begin, wp_bind, wp_setObject, wp_pure]
      exact kept.withReload timer period
  | startWithPeriod timer period =>
      rw [TimerCall.begin, wp_bind, wp_setObject, wp_pure]
      exact kept.withReload timer period

/-- A section of a call keeps the alarm. -/
theorem wp_point_kept (kept : Kept serving due world) {point : CallPoint ι}
    (fits : point.Fits world) :
    wp point.run (fun _ final => Kept serving (point.noted due world) final) world := by
  obtain ⟨timers, timed, watched⟩ := kept
  cases point with
  | lookup timer starts =>
      rw [CallPoint.run, wp_bind]
      apply wp_timerExists timed.linked.chains
      rw [wp_pure]
      exact ⟨timers, timed, watched⟩
  | stop timer restarts =>
      rw [CallPoint.run, wp_bind]
      refine wp_mono (wp_utilTimerStop_kept timed watched (timed.young_of_stop fits)) ?_
      intro _ final left
      rw [wp_pure]
      exact left.kept
  | check timer =>
      rw [CallPoint.run, wp_bind, utilTimerStartCheck, wp_bind]
      apply wp_timerExists timed.linked.chains
      rw [wp_bind, wp_getObject, wp_pure, wp_pure]
      exact ⟨timers, timed, watched⟩
  | enter timer =>
      rw [CallPoint.run, wp_bind]
      have fresh := timed.linked.not_mem fits.1
      refine wp_mono (wp_utilTimerStartSection timed watched fresh fits.2) ?_
      intro _ final started
      rw [wp_pure]
      exact started.kept

/-- The start of a periodic timer after its callback. -/
theorem wp_utilTimerIrqReload_kept (kept : Kept serving due world) {cur : ι}
    (young : world.Reloads cur → world.StartsYoung cur) :
    wp (utilTimerIrqReload cur) (fun _ final => Kept serving
      (if world.Reloads cur then startedDue due world cur else due) final) world := by
  rw [utilTimerIrqReload, wp_bind, wp_getObject]
  by_cases periodic : (world.objects cur).mode = .periodic ∧
      (world.objects cur).isReloadStopped = false
  · obtain ⟨timers, timed, watched⟩ := kept
    rw [if_pos periodic, wp_bind, wp_utilTimerStart_iff, wp_bind, utilTimerStartCheck, wp_bind]
    apply wp_timerExists timed.linked.chains
    rw [wp_bind, wp_getObject, wp_pure]
    cases running : (world.objects cur).isRunning with
    | true =>
        have still : ¬ world.Reloads cur := by
          rintro ⟨-, -, stopped⟩
          rw [running] at stopped
          cases stopped
        rw [if_neg (by simp), wp_pure, wp_pure, if_neg still]
        exact ⟨timers, timed, watched⟩
    | false =>
        have fresh := timed.linked.not_mem running
        have reloads : world.Reloads cur := ⟨periodic.1, periodic.2, running⟩
        rw [if_pos (by simpa using fresh), wp_bind, if_pos reloads]
        refine wp_mono (wp_utilTimerStartSection timed watched fresh (young reloads)) ?_
        intro _ final started
        rw [wp_pure, wp_pure]
        exact started.kept
  · have still : ¬ world.Reloads cur := fun reloads => periodic ⟨reloads.1, reloads.2.1⟩
    rw [if_neg periodic, if_neg still]
    exact ⟨(), world, rfl, kept⟩

end Kept

end Sections

end GenericNode.Timer
