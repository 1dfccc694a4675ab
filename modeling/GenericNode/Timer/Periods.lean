import GenericNode.Timer.Lists

/-!
# Periods and expirations

Changing the period of a timer stops and starts it again; the alarm interrupt
moves the list to a new reference and unlinks the timers that have expired.
-/

namespace GenericNode.Timer

open GenericNode.Library
open GenericNode.Library.Prog
open GenericNode.Rtc

/-! ## Restarting a timer -/

namespace TimerRtc

variable {rtc middle final : TimerRtc} {count first second ticks : ℕ}

/-- After some calls of the driver, the calls to come are later ones. -/
theorem Passed.counted (passed : Passed count rtc middle)
    (context : middle.rtcTimerContext = rtc.rtcTimerContext) :
    ∃ calls ≤ count, middle.calls = rtc.calls + calls ∧
      ∀ later, middle.elapsedAfter later = rtc.elapsedAfter (calls + later) := by
  obtain ⟨calls, few, calls_eq, ticks_eq, delays_eq⟩ := passed
  refine ⟨calls, few, calls_eq, fun later => ?_⟩
  rw [TimerRtc.elapsedAfter, ticksAfter_add calls_eq ticks_eq delays_eq, context]
  rfl

theorem Passed.elapsedAfter (passed : Passed count rtc middle)
    (context : middle.rtcTimerContext = rtc.rtcTimerContext) :
    ∃ calls ≤ count, ∀ later, middle.elapsedAfter later = rtc.elapsedAfter (calls + later) := by
  obtain ⟨calls, few, -, elapsed⟩ := passed.counted context
  exact ⟨calls, few, elapsed⟩

/-- At each of the next calls of the driver, a timer of so many ticks is due
before the elapsed time wraps, and the driver is called again in time to set
its alarm. -/
def Roomy (rtc : TimerRtc) (count ticks : ℕ) : Prop :=
  ∀ calls ≤ count, rtc.elapsedAfter calls + ticks < 2 ^ 32 ∧
    rtc.elapsedAfter (calls + 1) + minAlarmDelay ≤ rtc.elapsedAfter calls + ticks

instance (rtc : TimerRtc) (count ticks : ℕ) : Decidable (rtc.Roomy count ticks) :=
  inferInstanceAs (Decidable (∀ _ ≤ _, _))

theorem Roomy.mono {fewer : ℕ} (roomy : rtc.Roomy count ticks) (fewer_le : fewer ≤ count) :
    rtc.Roomy fewer ticks :=
  fun calls few => roomy calls (few.trans fewer_le)

/-- Room for the calls to come. -/
theorem Roomy.later (roomy : rtc.Roomy (first + second) ticks) (passed : Passed first rtc middle)
    (context : middle.rtcTimerContext = rtc.rtcTimerContext) : middle.Roomy second ticks := by
  obtain ⟨before, few, elapsed⟩ := passed.elapsedAfter context
  intro calls enough
  rw [elapsed, elapsed]
  exact roomy (before + calls) (Nat.add_le_add few enough)

end TimerRtc

section Restart

variable {ι : Type} [DecidableEq ι] {world final : TimerWorld ι} {timers : List ι} {timer : ι}

/-- A timer is due its number of ticks after one of the next calls of the
driver. -/
def DueAfter (world : TimerWorld ι) (count ticks : ℕ) (timestamp : ℕ) : Prop :=
  ∃ calls ≤ count, timestamp = world.rtc.elapsedAfter calls + ticks

/-- A timer of the list was stopped and started again. -/
structure Restarted (world : TimerWorld ι) (timers : List ι) (timer : ι)
    (final : TimerWorld ι) : Prop where
  linked : ∃ before after, before ++ after = timers.erase timer ∧
    Linked final (before ++ timer :: after)
  others : ∀ other, other ≠ timer → ¬ Promoted world timers timer other →
    (final.objects other).timing = (world.objects other).timing
  context : timers.erase timer ≠ [] → final.rtc.rtcTimerContext = world.rtc.rtcTimerContext
  passed : world.rtc.Passed 8 final.rtc
  reloadValue : (final.objects timer).reloadValue = (world.objects timer).reloadValue
  deadline : timers.erase timer ≠ [] → ∀ ticks,
    ticks = max minAlarmDelay (world.objects timer).reloadValue → world.rtc.Roomy 4 ticks →
    DueAfter world 4 ticks (final.objects timer).timestamp

/-- A stop followed by a start. -/
theorem Stopped.restarted {middle : TimerWorld ι} (stopped : Stopped world timers timer middle)
    (started : Started middle (timers.erase timer) timer final) :
    Restarted world timers timer final := by
  obtain ⟨before, after, split, linked⟩ := started.linked
  refine ⟨⟨before, after, split.symm, linked⟩, fun other different timely => ?_, fun others => ?_,
    stopped.passed.trans started.passed, started.reloadValue.trans stopped.reloadValue, ?_⟩
  · rw [started.others other different, stopped.others other different timely]
  · rw [started.context others, stopped.context]
  · intro others ticks ticks_eq roomy
    obtain ⟨calls, few, elapsed⟩ := stopped.passed.elapsedAfter stopped.context
    obtain ⟨young, quick⟩ := roomy (calls + 1) (Nat.succ_le_succ few)
    refine ⟨calls + 1, Nat.succ_le_succ few, ?_⟩
    rw [← elapsed]
    apply started.deadline others
    · rw [ticks_eq, stopped.reloadValue]
    · rw [elapsed]
      exact young
    · rw [elapsed, elapsed]
      exact quick

theorem wp_restart [Fintype ι] (linked : LinkedBut world timers timer) (mem : timer ∈ timers) :
    wp (do let _ ← utilTimerStop timer; utilTimerStart timer)
      (fun _ final => Restarted world timers timer final) world := by
  have idle : timers = [] → (world.objects timer).isRunning = false := by
    rintro rfl
    exact absurd mem List.not_mem_nil
  have distinct : timers.Nodup := linked.chains.nodup
  rw [wp_bind]
  refine wp_mono (wp_utilTimerStop linked idle) fun _ middle stopped => ?_
  have fresh : timer ∉ timers.erase timer := distinct.not_mem_erase
  exact wp_mono (wp_utilTimerStart stopped.linked fresh) fun _ final started =>
    stopped.restarted started

/-- A world where a timer has another period. -/
def TimerWorld.withReload (world : TimerWorld ι) (timer : ι) (period : ℕ) : TimerWorld ι :=
  world.update timer fun object =>
    { object with reloadValue := gnseRtcConvertMs2Tick period }

section Reload

variable (world) (timer) (period : ℕ)

@[simp]
theorem withReload_rtc : (world.withReload timer period).rtc = world.rtc :=
  rfl

@[simp]
theorem withReload_timerListHead :
    (world.withReload timer period).timerListHead = world.timerListHead :=
  rfl

@[simp]
theorem withReload_next : (world.withReload timer period).next = world.next :=
  update_next _ fun _ => rfl

@[simp]
theorem withReload_reloadValue :
    ((world.withReload timer period).objects timer).reloadValue =
      gnseRtcConvertMs2Tick period := by
  rw [TimerWorld.withReload, update_same]

theorem withReload_other {other : ι} (different : other ≠ timer) :
    (world.withReload timer period).objects other = world.objects other :=
  update_other _ different

theorem withReload_timestamp (other : ι) :
    ((world.withReload timer period).objects other).timestamp =
      (world.objects other).timestamp := by
  by_cases here : other = timer
  · subst here
    rw [TimerWorld.withReload, update_same]
  · rw [withReload_other _ _ _ here]

theorem withReload_isRunning (other : ι) :
    ((world.withReload timer period).objects other).isRunning =
      (world.objects other).isRunning := by
  by_cases here : other = timer
  · subst here
    rw [TimerWorld.withReload, update_same]
  · rw [withReload_other _ _ _ here]

end Reload

theorem TimerWorld.Chains.withReload (chains : world.Chains timers) (period : ℕ) :
    (world.withReload timer period).Chains timers :=
  chains.congr rfl fun other _ => congrFun (withReload_next world timer period) other

theorem LinkedBut.withReload (linked : LinkedBut world timers timer) (period : ℕ) :
    LinkedBut (world.withReload timer period) timers timer := by
  refine ⟨linked.chains.withReload period, fun other different => ?_⟩
  rw [withReload_isRunning]
  exact linked.running other different

theorem Linked.withReload (linked : Linked world timers) (timer : ι) (period : ℕ) :
    Linked (world.withReload timer period) timers := by
  refine ⟨linked.chains.withReload period, fun other => ?_⟩
  rw [withReload_isRunning]
  exact linked.running other

/-- `UTIL_TIMER_SetPeriod` of a timer in the list restarts it. -/
theorem wp_utilTimerSetPeriod_linked [Fintype ι] (linked : LinkedBut world timers timer)
    (mem : timer ∈ timers) (period : ℕ) :
    wp (utilTimerSetPeriod timer period)
      (fun _ final => Restarted (world.withReload timer period) timers timer final) world := by
  rw [utilTimerSetPeriod, wp_bind, wp_setObject, wp_bind]
  apply wp_timerExists (linked.withReload period).chains
  rw [wp_ite, if_pos (by simpa using mem)]
  exact wp_restart (linked.withReload period) mem

/-- `UTIL_TIMER_SetPeriod` of another timer stores the period. -/
theorem wp_utilTimerSetPeriod_unlinked [Fintype ι] (linked : Linked world timers)
    (fresh : timer ∉ timers) (period : ℕ) :
    wp (utilTimerSetPeriod timer period)
      (fun _ final => final = world.withReload timer period) world := by
  rw [utilTimerSetPeriod, wp_bind, wp_setObject, wp_bind]
  apply wp_timerExists (linked.withReload timer period).chains
  rw [wp_ite, if_neg (by simpa using fresh), wp_pure]

end Restart

/-! ## The list is kept -/

section Kept

variable {ι : Type} {world final : TimerWorld ι} {timers : List ι} {timer : ι}

/-- The list ends, and the timers in it are those that run. -/
def TimerWorld.WellFormed (world : TimerWorld ι) : Prop :=
  ∃ timers, Linked world timers

theorem Started.wellFormed (started : Started world timers timer final) : final.WellFormed := by
  obtain ⟨before, after, _, linked⟩ := started.linked
  exact ⟨_, linked⟩

/-- The list depends on its head, the links and the running flags. -/
theorem Linked.congr (linked : Linked world timers)
    (head : final.timerListHead = world.timerListHead)
    (links : ∀ other, final.next other = world.next other)
    (running : ∀ other, (final.objects other).isRunning = (world.objects other).isRunning) :
    Linked final timers := by
  refine ⟨linked.chains.congr head fun other _ => links other, fun other => ?_⟩
  rw [running]
  exact linked.running other

theorem Linked.of_rtcOnly {count : ℕ} (linked : Linked world timers)
    (only : RtcOnly count world final) : Linked final timers := by
  apply linked.congr only.timerListHead
  · intro other
    rw [TimerWorld.next, only.objects]
    rfl
  · intro other
    rw [only.objects]

/-- Setting the alarm for a timer keeps the list. -/
theorem Linked.of_timeoutSet {count : ℕ} (linked : Linked world timers)
    (set : TimeoutSet count world timer final) : Linked final timers := by
  apply linked.congr set.timerListHead set.links
  intro other
  by_cases here : other = timer
  · subst here
    have running := isRunning_eq set.self
    exact running
  · exact isRunning_eq (set.others other here)

variable [DecidableEq ι]

theorem Restarted.wellFormed (restarted : Restarted world timers timer final) :
    final.WellFormed := by
  obtain ⟨before, after, _, linked⟩ := restarted.linked
  exact ⟨_, linked⟩

/-- A timer that does not run may be created again. -/
theorem wp_utilTimerCreate_idle (linked : Linked world timers) (fresh : timer ∉ timers)
    (period : ℕ) (mode : UtilTimerMode) :
    wp (utilTimerCreate timer period mode) (fun _ final => Linked final timers) world := by
  rw [utilTimerCreate, wp_setObject]
  have others : ∀ other, other ∈ timers → other ≠ timer := by
    rintro other mem rfl
    exact fresh mem
  refine ⟨linked.chains.congr rfl fun other mem => ?_, fun other => ?_⟩
  · rw [TimerWorld.next, update_other _ (others other mem)]
    rfl
  · by_cases here : other = timer
    · subst here
      rw [update_same]
      simp [fresh]
    · rw [update_other _ here]
      exact linked.running other

variable [Fintype ι]

theorem wp_utilTimerStart_wellFormed (formed : world.WellFormed) (timer : ι) :
    wp (utilTimerStart timer) (fun _ final => final.WellFormed) world := by
  obtain ⟨timers, linked⟩ := formed
  by_cases mem : timer ∈ timers
  · refine wp_mono (wp_utilTimerStart_running linked mem) ?_
    rintro status final ⟨-, rfl⟩
    exact ⟨timers, linked⟩
  · exact wp_mono (wp_utilTimerStart linked mem) fun _ _ started => started.wellFormed

theorem wp_utilTimerStop_wellFormed (formed : world.WellFormed) (timer : ι) :
    wp (utilTimerStop timer) (fun _ final => final.WellFormed) world := by
  obtain ⟨timers, linked⟩ := formed
  have idle : timers = [] → (world.objects timer).isRunning = false := by
    rintro rfl
    exact linked.stopped List.not_mem_nil
  exact wp_mono (wp_utilTimerStop (linked.but timer) idle) fun _ _ stopped => ⟨_, stopped.linked⟩

theorem wp_utilTimerSetPeriod_wellFormed (formed : world.WellFormed) (timer : ι) (period : ℕ) :
    wp (utilTimerSetPeriod timer period) (fun _ final => final.WellFormed) world := by
  obtain ⟨timers, linked⟩ := formed
  by_cases mem : timer ∈ timers
  · exact wp_mono (wp_utilTimerSetPeriod_linked (linked.but timer) mem period)
      fun _ _ restarted => restarted.wellFormed
  · refine wp_mono (wp_utilTimerSetPeriod_unlinked linked mem period) ?_
    rintro status final rfl
    exact ⟨timers, linked.withReload timer period⟩

theorem wp_utilTimerStartWithPeriod_wellFormed (formed : world.WellFormed) (timer : ι)
    (period : ℕ) :
    wp (utilTimerStartWithPeriod timer period) (fun _ final => final.WellFormed) world := by
  obtain ⟨timers, linked⟩ := formed
  have reloaded := linked.withReload timer period
  have formed : (world.withReload timer period).WellFormed := ⟨timers, reloaded⟩
  rw [utilTimerStartWithPeriod, wp_bind, wp_setObject, wp_bind]
  apply wp_timerExists reloaded.chains
  by_cases mem : timer ∈ timers
  · simp only [mem, decide_true, ↓reduceIte, wp_bind]
    exact wp_mono (wp_utilTimerStop_wellFormed formed timer) fun _ middle stopped =>
      wp_utilTimerStart_wellFormed stopped timer
  · simp only [mem, decide_false, Bool.false_eq_true, ↓reduceIte]
    exact wp_utilTimerStart_wellFormed formed timer

end Kept

/-! ## The alarm interrupt -/

section Interrupt

variable {ι : Type} {world : TimerWorld ι} {timers : List ι} {timer : ι}

/-- Testing whether a timer has expired leaves the timers alone. -/
theorem wp_utilTimerExpired (head : ι) :
    wp (utilTimerExpired head) (fun _ final => RtcOnly 1 world final) world := by
  simp only [utilTimerExpired, wp_bind, wp_getObject, wp_ite, wp_pure,
    wp_gnseRtcGetTimerElapsedTime]
  split_ifs
  · exact ⟨rfl, rfl, .refl⟩
  · exact ⟨rfl, rfl, .called⟩

variable [DecidableEq ι]

/-- A change of the timestamps keeps the list. -/
theorem Linked.update (linked : Linked world timers)
    (change : UtilTimerObject ι → UtilTimerObject ι)
    (next : ∀ object, (change object).next = object.next)
    (isRunning : ∀ object, (change object).isRunning = object.isRunning) :
    Linked (world.update timer change) timers := by
  apply linked.congr (update_timerListHead timer change)
  · intro other
    rw [update_next change next]
  · intro other
    by_cases here : other = timer
    · subst here
      rw [update_same, isRunning]
    · rw [update_other _ here]

/-- Moving the timers from a pointer on to the new reference. -/
theorem wp_utilTimerShift_loop (delta : ℕ) {pointer : Option ι} {rest : List ι}
    (chain : Chain world.next pointer rest) (linked : Linked world timers) (fuel : ℕ)
    (enough : rest.length < fuel) :
    wp (loop (utilTimerShiftBody delta) fuel pointer)
      (fun _ final => Linked final timers) world := by
  induction rest generalizing world pointer fuel with
  | nil =>
      have last : pointer = none := chain.head_eq
      cases fuel with
      | zero => exact absurd enough (Nat.not_lt_zero _)
      | succ fuel =>
          rw [wp_loop_succ, last]
          simp only [utilTimerShiftBody, wp_pure]
          exact linked
  | cons cur rest ih =>
      obtain ⟨rfl, tail⟩ := Chain.cons_iff.mp chain
      cases fuel with
      | zero => exact absurd enough (Nat.not_lt_zero _)
      | succ fuel =>
          rw [wp_loop_succ]
          simp only [utilTimerShiftBody, wp_bind, wp_setObject, wp_getObject, wp_pure]
          apply ih _ _ fuel (Nat.lt_of_succ_lt_succ enough)
          · rw [update_same]
            apply tail.congr
            intro other _
            rw [update_next]
            exact fun _ => rfl
          · apply linked.update <;> exact fun _ => rfl

/-- Unlinking the first timer, which has expired. -/
theorem Linked.tail {rest : List ι} (linked : Linked world (timer :: rest)) :
    Linked ((world.withHead (world.next timer)).update timer fun object =>
      { object with isPending := false, isRunning := false }) rest := by
  have distinct := List.nodup_cons.mp linked.chains.nodup
  have tail := (Chain.cons_iff.mp linked.chains).2
  refine ⟨?_, fun other => ?_⟩
  · apply tail.congr
    intro other _
    rw [update_next]
    · rfl
    · exact fun _ => rfl
  · by_cases here : other = timer
    · subst here
      rw [update_same]
      simp [distinct.1]
    · rw [update_other _ here, withHead_objects, linked.running]
      simp [here]

theorem wp_utilTimerUnlink {rest : List ι} (linked : Linked world (timer :: rest)) :
    wp (utilTimerUnlink timer)
      (fun expired final => expired = some timer ∧ Linked final rest) world := by
  have popped := linked.tail
  rw [utilTimerUnlink, wp_bind, wp_getObject, wp_bind, wp_setTimerListHead, wp_bind,
    wp_setObject, wp_pure]
  exact ⟨rfl, popped⟩

theorem wp_utilTimerRearm (linked : Linked world timers) (cur : ι) :
    wp (utilTimerRearm cur) (fun expired final => expired = none ∧ Linked final timers) world := by
  rw [utilTimerRearm, wp_bind, wp_getObject]
  cases pending : (world.objects cur).isPending with
  | false =>
      rw [if_pos rfl, wp_bind]
      refine wp_mono wp_timerSetTimeout fun _ final set => ?_
      rw [wp_pure]
      exact ⟨rfl, linked.of_timeoutSet set⟩
  | true =>
      rw [if_neg (by decide)]
      exact ⟨none, world, rfl, rfl, linked⟩

theorem wp_utilTimerIrqNext_wellFormed (formed : world.WellFormed) :
    wp utilTimerIrqNext (fun _ final => final.WellFormed) world := by
  obtain ⟨timers, linked⟩ := formed
  rw [utilTimerIrqNext, wp_bind, wp_getTimerListHead]
  cases timers with
  | nil =>
      have head : world.timerListHead = none := linked.chains.head_eq
      rw [head, wp_pure]
      exact ⟨[], linked⟩
  | cons cur rest =>
      have head : world.timerListHead = some cur := linked.chains.head_eq
      rw [head, wp_bind]
      refine wp_mono (wp_utilTimerExpired cur) fun expired middle only => ?_
      have still := linked.of_rtcOnly only
      cases expired with
      | true => exact wp_mono (wp_utilTimerUnlink still) fun _ _ popped => ⟨rest, popped.2⟩
      | false => exact wp_mono (wp_utilTimerRearm still cur) fun _ _ kept => ⟨_, kept.2⟩

variable [Fintype ι]

theorem wp_utilTimerIrqReload_wellFormed (formed : world.WellFormed) (cur : ι) :
    wp (utilTimerIrqReload cur) (fun _ final => final.WellFormed) world := by
  simp only [utilTimerIrqReload, wp_bind, wp_getObject, wp_ite, wp_pure]
  split_ifs
  · exact wp_utilTimerStart_wellFormed formed cur
  · exact formed

theorem wp_utilTimerIrqEnter (linked : Linked world timers) :
    wp utilTimerIrqEnter (fun _ final => Linked final timers) world := by
  simp only [utilTimerIrqEnter, gnseRtcGetTimerContext, wp_bind, wp_gets]
  refine wp_mono wp_gnseRtcSetTimerContext fun now middle only => ?_
  have moved := linked.of_rtcOnly only
  rw [wp_getTimerListHead]
  exact wp_utilTimerShift_loop _ moved.chains moved _ moved.chains.length_lt

end Interrupt

end GenericNode.Timer
