import GenericNode.Timer.Periods

/-!
# The alarm of the first timer

A deadline is the reference plus a timestamp, in ticks that do not wrap.  The
server keeps the alarm armed for the deadline of the first timer, as long as
its sums of 32 bits do not wrap either.
-/

namespace GenericNode.Timer

open GenericNode.Library
open GenericNode.Library.Prog
open GenericNode.Rtc

/-! ## The RTC -/

namespace TimerRtc

variable {rtc final : TimerRtc} {calls count deadline reference ticks : ℕ}

/-- The reference is the ticks counted when it was set. -/
structure Exact (rtc : TimerRtc) : Prop where
  context : rtc.rtcTimerContext.toNat = rtc.contextTicks % 2 ^ 32
  past : rtc.contextTicks ≤ rtc.ticks

/-- At each of the next calls of the driver, so many ticks later the reference
is less than 2^32 ticks old. -/
def Young (rtc : TimerRtc) (reference count ticks : ℕ) : Prop :=
  ∀ calls ≤ count, rtc.ticksAfter calls + ticks < reference + 2 ^ 32

instance : Decidable (rtc.Young reference count ticks) :=
  Nat.decidableBallLE _ _

/-- The alarm is armed for a deadline: the interrupt is pending or the deadline
is ahead, unless an alarm was armed too slowly. -/
structure Armed (rtc : TimerRtc) (deadline : ℕ) : Prop where
  alarm : rtc.alarm = some (deadline % 2 ^ 32)
  ahead : rtc.alarmFlag = true ∨ rtc.ticks < deadline ∨ minAlarmDelay ≤ rtc.slowest

theorem elapsedAfter_eq (exact : rtc.Exact) (calls : ℕ) :
    rtc.elapsedAfter calls = (rtc.ticksAfter calls - rtc.contextTicks) % 2 ^ 32 := by
  have later := rtc.ticks_le_ticksAfter calls
  have past := exact.past
  rw [elapsedAfter, exact.context]
  omega

/-- While the reference is young, the elapsed time counts from it. -/
theorem contextTicks_add_elapsedAfter (exact : rtc.Exact)
    (young : rtc.ticksAfter calls < rtc.contextTicks + 2 ^ 32) :
    rtc.contextTicks + rtc.elapsedAfter calls = rtc.ticksAfter calls := by
  have later := rtc.ticks_le_ticksAfter calls
  have past := exact.past
  rw [elapsedAfter_eq exact]
  omega

theorem Exact.pass (exact : rtc.Exact) (count : ℕ) : (rtc.pass count).Exact :=
  ⟨exact.context, exact.past.trans (Nat.le_add_right _ _)⟩

theorem Exact.called (exact : rtc.Exact) : rtc.called.Exact :=
  ⟨exact.context, exact.past.trans (Nat.le_add_right _ _)⟩

/-- The flag rises when the deadline is reached. -/
theorem Armed.pass (armed : rtc.Armed deadline) (near : deadline ≤ rtc.ticks + 2 ^ 32)
    (count : ℕ) : (rtc.pass count).Armed deadline := by
  refine ⟨armed.alarm, ?_⟩
  rcases armed.ahead with flag | ahead | slow
  · left
    rw [TimerRtc.pass, flag, Bool.true_or]
  · by_cases reached : deadline ≤ rtc.ticks + count
    · left
      have meets : rtc.meetsAlarm count = true := by
        rw [meetsAlarm, armed.alarm]
        simp only [decide_eq_true_eq]
        omega
      rw [TimerRtc.pass, meets, Bool.or_true]
    · exact .inr (.inl (Nat.lt_of_not_le reached))
  · exact .inr (.inr slow)

theorem Armed.called (armed : rtc.Armed deadline) (near : deadline ≤ rtc.ticks + 2 ^ 32) :
    rtc.called.Armed deadline := by
  have passed := armed.pass near (rtc.delays rtc.calls)
  exact ⟨passed.alarm, passed.ahead⟩

/-- `GNSE_RTC_StartTimer` for a deadline that is `MIN_ALARM_DELAY` ahead. -/
theorem armed_start (alarm : final.alarm = some (deadline % 2 ^ 32))
    (ticks : final.ticks = rtc.ticks + rtc.delays rtc.calls)
    (slowest : final.slowest = max rtc.slowest (rtc.delays rtc.calls))
    (ahead : rtc.ticks + minAlarmDelay ≤ deadline) : final.Armed deadline := by
  refine ⟨alarm, .inr ?_⟩
  by_cases slow : minAlarmDelay ≤ rtc.delays rtc.calls
  · right
    rw [slowest]
    exact slow.trans (Nat.le_max_right _ _)
  · left
    omega

/-- After some calls of the driver the reference is still young. -/
theorem Young.later {first second : ℕ} {middle : TimerRtc}
    (young : rtc.Young reference (first + second) ticks) (passed : Passed first rtc middle) :
    middle.Young reference second ticks := by
  obtain ⟨before, few, calls_eq, ticks_eq, delays_eq⟩ := passed
  intro calls enough
  rw [ticksAfter_add calls_eq ticks_eq delays_eq]
  exact young (before + calls) (Nat.add_le_add few enough)

theorem Young.mono {fewer less : ℕ} (young : rtc.Young reference count ticks)
    (few : fewer ≤ count) (little : less ≤ ticks) : rtc.Young reference fewer less := by
  intro calls enough
  have bound := young calls (enough.trans few)
  omega

theorem Young.of_le {later : ℕ} (young : rtc.Young reference count ticks)
    (ordered : reference ≤ later) : rtc.Young later count ticks :=
  fun calls enough => (young calls enough).trans_le (Nat.add_le_add_right ordered _)

end TimerRtc

/-! ## Setting the alarm -/

section Alarm

variable {ι : Type} {world middle final : TimerWorld ι} {timers rest : List ι} {timer : ι}
  {due : ι → ℕ} {serving : Bool}

/-- When a timer is due, in ticks that do not wrap. -/
def TimerWorld.deadline (world : TimerWorld ι) (timer : ι) : ℕ :=
  world.rtc.contextTicks + (world.objects timer).timestamp

/-- The timers of the list are due no earlier than they may be, and none but
the first is pending. -/
structure Timed (due : ι → ℕ) (world : TimerWorld ι) (timers : List ι) : Prop where
  linked : Linked world timers
  exact : world.rtc.Exact
  due : ∀ timer ∈ timers, due timer ≤ world.deadline timer
  fits : ∀ timer ∈ timers, (world.objects timer).timestamp < 2 ^ 32
  waiting : ∀ timer ∈ timers.tail, (world.objects timer).isPending = false

/-- The alarm is armed for the first timer, unless the interrupt handler has
still to look at it. -/
def Watched (serving : Bool) (world : TimerWorld ι) (head : ι) : Prop :=
  ((world.objects head).isPending = true ∧ world.rtc.Armed (world.deadline head)) ∨
    serving = true ∧ ((world.objects head).isPending = false ∨ (world.objects head).timestamp = 0)

/-- The timers are timed, and the first one is watched. -/
def Kept (serving : Bool) (due : ι → ℕ) (world : TimerWorld ι) : Prop :=
  ∃ timers, Timed due world timers ∧ ∀ head ∈ timers.head?, Watched serving world head

theorem Watched.weaken (watched : Watched false world timer) (serving : Bool) :
    Watched serving world timer := by
  rcases watched with armed | ⟨handling, -⟩
  · exact .inl armed
  · cases handling

theorem Timed.near (timed : Timed due world timers) (mem : timer ∈ timers) :
    world.deadline timer ≤ world.rtc.ticks + 2 ^ 32 := by
  have fits := timed.fits timer mem
  have past := timed.exact.past
  rw [TimerWorld.deadline]
  omega

/-- Setting the alarm for a timer moves no deadline but the timer's, and that one
at most to the shortest alarm from now. -/
structure Rearmed (world : TimerWorld ι) (timer : ι) (final : TimerWorld ι) : Prop where
  pending : (final.objects timer).isPending = true
  moved : final.deadline timer = world.deadline timer ∨
    final.deadline timer ≤ final.rtc.ticks + minAlarmDelay
  others : ∀ other, other ≠ timer → final.deadline other = world.deadline other
  contextTicks : final.rtc.contextTicks = world.rtc.contextTicks
  cleared : final.rtc.alarmFlag = false
  ticks : world.rtc.ticks ≤ final.rtc.ticks
  slowest : world.rtc.slowest ≤ final.rtc.slowest

/-- Setting the alarm for a timer arms it for the timer's deadline, which may
have been moved. -/
structure AlarmSet [DecidableEq ι] (world : TimerWorld ι) (timer : ι) (final : TimerWorld ι) :
    Prop where
  pending : ∀ other, (final.objects other).isPending =
    if other = timer then true else (world.objects other).isPending
  later : (world.objects timer).timestamp ≤ (final.objects timer).timestamp
  fits : (world.objects timer).timestamp < 2 ^ 32 → (final.objects timer).timestamp < 2 ^ 32
  moved : (final.objects timer).timestamp = (world.objects timer).timestamp ∨
    final.deadline timer ≤ final.rtc.ticks + minAlarmDelay
  contextTicks : final.rtc.contextTicks = world.rtc.contextTicks
  exact : final.rtc.Exact
  armed : final.rtc.Armed (final.deadline timer)
  cleared : final.rtc.alarmFlag = false
  ticks : world.rtc.ticks ≤ final.rtc.ticks
  slowest : world.rtc.slowest ≤ final.rtc.slowest

/-- `GNSE_RTC_StartTimer` arms the alarm. -/
structure AlarmStarted (timeout : ℕ) (world final : TimerWorld ι) : Prop where
  objects : final.objects = world.objects
  alarm : final.rtc.alarm = some ((timeout + world.rtc.rtcTimerContext.toNat) % 2 ^ 32)
  cleared : final.rtc.alarmFlag = false
  ticks : final.rtc.ticks = world.rtc.ticks + world.rtc.delays world.rtc.calls
  slowest : final.rtc.slowest = max world.rtc.slowest (world.rtc.delays world.rtc.calls)
  context : final.rtc.rtcTimerContext = world.rtc.rtcTimerContext
  contextTicks : final.rtc.contextTicks = world.rtc.contextTicks

theorem wp_gnseRtcStartTimer_alarm (timeout : ℕ) :
    wp (gnseRtcStartTimer timeout) (fun _ final => AlarmStarted timeout world final) world := by
  rw [gnseRtcStartTimer, gnseRtcStopTimer, elapse, wp_bind, wp_modifyRtc, wp_bind, wp_modifyRtc,
    wp_bind, wp_modifyRtc, wp_modifyRtc]
  exact ⟨rfl, rfl, rfl, rfl, rfl, rfl, rfl⟩

variable [DecidableEq ι]

/-- The alarm of a timer that is due late enough. -/
theorem AlarmStarted.set (middle_exact : middle.rtc.Exact)
    (contextTicks : middle.rtc.contextTicks = world.rtc.contextTicks)
    (pending : ∀ other, (middle.objects other).isPending =
      if other = timer then true else (world.objects other).isPending)
    (later : (world.objects timer).timestamp ≤ (middle.objects timer).timestamp)
    (fits : (world.objects timer).timestamp < 2 ^ 32 → (middle.objects timer).timestamp < 2 ^ 32)
    (moved : (middle.objects timer).timestamp = (world.objects timer).timestamp ∨
      middle.deadline timer ≤ middle.rtc.ticks + minAlarmDelay)
    (ahead : middle.rtc.ticks + minAlarmDelay ≤ middle.deadline timer)
    (ticks : world.rtc.ticks ≤ middle.rtc.ticks) (slowest : middle.rtc.slowest = world.rtc.slowest)
    (started : AlarmStarted (middle.objects timer).timestamp middle final) :
    AlarmSet world timer final := by
  have deadline : final.deadline timer = middle.deadline timer := by
    rw [TimerWorld.deadline, started.objects, started.contextTicks, TimerWorld.deadline]
  have later_ticks : middle.rtc.ticks ≤ final.rtc.ticks := by
    rw [started.ticks]
    exact Nat.le_add_right _ _
  constructor
  · rw [started.objects]
    exact pending
  · rw [started.objects]
    exact later
  · rw [started.objects]
    exact fits
  · rw [started.objects, deadline]
    exact moved.imp id fun soon => soon.trans (Nat.add_le_add_right later_ticks _)
  · rw [started.contextTicks, contextTicks]
  · constructor
    · rw [started.context, started.contextTicks, middle_exact.context]
    · have past := middle_exact.past
      rw [started.contextTicks, started.ticks]
      omega
  · rw [deadline]
    apply TimerRtc.armed_start _ started.ticks started.slowest ahead
    rw [started.alarm, middle_exact.context, TimerWorld.deadline, Nat.add_mod_mod, Nat.add_comm]
  · exact started.cleared
  · exact ticks.trans later_ticks
  · rw [started.slowest, slowest]
    exact Nat.le_max_left _ _

theorem wp_timerSetTimeout_alarm (exact : world.rtc.Exact)
    (young : world.rtc.Young world.rtc.contextTicks 2 minAlarmDelay) :
    wp (timerSetTimeout timer) (fun _ final => AlarmSet world timer final) world := by
  have first := young 1 (by decide)
  have second := young 2 (Nat.le_refl _)
  have elapsed := TimerRtc.contextTicks_add_elapsedAfter exact (Nat.lt_of_add_right_lt first)
  have elapsed' := TimerRtc.contextTicks_add_elapsedAfter exact (Nat.lt_of_add_right_lt second)
  have ordered : world.rtc.ticksAfter 1 ≤ world.rtc.ticksAfter 2 := Nat.le_add_right _ _
  generalize shown_eq :
    world.update timer (fun object => { object with isPending := true }) = shown
  have pending : ∀ other, (shown.objects other).isPending =
      if other = timer then true else (world.objects other).isPending := by
    intro other
    rw [← shown_eq]
    by_cases here : other = timer
    · subst here
      rw [update_same, if_pos rfl]
    · rw [update_other _ here, if_neg here]
  have timestamp : (shown.objects timer).timestamp = (world.objects timer).timestamp := by
    rw [← shown_eq, update_same]
  have rtc : shown.rtc = world.rtc := by
    rw [← shown_eq]
    rfl
  rw [timerSetTimeout, wp_bind, wp_setObject, shown_eq, wp_bind, wp_gnseRtcGetTimerElapsedTime,
    wp_bind, wp_getObject, withRtc_objects, rtc, timestamp]
  by_cases soon : (world.objects timer).timestamp <
      (world.rtc.elapsedAfter 1 + minAlarmDelay) % 2 ^ 32
  · rw [if_pos soon, wp_bind, wp_gnseRtcGetTimerElapsedTime, wp_bind, wp_setObject, wp_bind,
      wp_getObject, withRtc_rtc, TimerRtc.elapsedAfter_called]
    have sum : (world.rtc.elapsedAfter 2 + minAlarmDelay) % 2 ^ 32 =
        world.rtc.elapsedAfter 2 + minAlarmDelay := Nat.mod_eq_of_lt (by omega)
    rw [Nat.mod_eq_of_lt (by omega)] at soon
    refine wp_mono (wp_gnseRtcStartTimer_alarm _) fun _ final started => ?_
    apply started.set exact.called.called
    · rfl
    · intro other
      rw [update_isPending, withRtc_objects, withRtc_objects, pending]
      exact fun _ => rfl
    · rw [update_same, sum]
      change (world.objects timer).timestamp ≤ world.rtc.elapsedAfter 2 + minAlarmDelay
      omega
    · intro _
      rw [update_same]
      exact Nat.mod_lt _ (by decide)
    · right
      rw [TimerWorld.deadline, update_same, sum]
      change world.rtc.contextTicks + (world.rtc.elapsedAfter 2 + minAlarmDelay) ≤
        world.rtc.called.called.ticks + minAlarmDelay
      rw [← Nat.add_assoc, elapsed']
      exact Nat.le_refl _
    · rw [TimerWorld.deadline, update_same, sum]
      change world.rtc.called.called.ticks + minAlarmDelay ≤
        world.rtc.contextTicks + (world.rtc.elapsedAfter 2 + minAlarmDelay)
      rw [← Nat.add_assoc, elapsed']
      exact Nat.le_refl _
    · exact (Nat.le_add_right _ _).trans ordered
    · rfl
  · rw [if_neg soon, wp_bind, wp_getObject]
    rw [Nat.mod_eq_of_lt (by omega)] at soon
    refine wp_mono (wp_gnseRtcStartTimer_alarm _) fun _ final started => ?_
    apply started.set exact.called
    · rfl
    · exact pending
    · exact timestamp.ge
    · exact fun fits => timestamp.le.trans_lt fits
    · exact .inl timestamp
    · rw [TimerWorld.deadline, withRtc_objects, timestamp]
      change world.rtc.ticksAfter 1 + minAlarmDelay ≤ world.rtc.contextTicks + _
      omega
    · exact Nat.le_add_right _ _
    · rfl

/-- Setting the alarm of the first timer. -/
theorem Timed.setTimeout (timed : Timed due world (timer :: rest))
    (young : world.rtc.Young world.rtc.contextTicks 2 minAlarmDelay) :
    wp (timerSetTimeout timer)
      (fun _ final => Timed due final (timer :: rest) ∧ Watched false final timer ∧
        Rearmed world timer final) world := by
  refine wp_mono (wp_and wp_timerSetTimeout (wp_timerSetTimeout_alarm timed.exact young)) ?_
  rintro _ final ⟨set, alarm⟩
  have distinct := List.nodup_cons.mp timed.linked.chains.nodup
  have others : ∀ other, other ≠ timer →
      (final.objects other).timestamp = (world.objects other).timestamp :=
    fun other different => timestamp_eq (set.others other different)
  refine ⟨⟨timed.linked.of_timeoutSet set, alarm.exact, fun other mem => ?_, fun other mem => ?_,
    fun other mem => ?_⟩, .inl ⟨?_, alarm.armed⟩, ?_⟩
  · have before := timed.due other mem
    rw [TimerWorld.deadline] at before ⊢
    rw [alarm.contextTicks]
    by_cases here : other = timer
    · subst here
      exact before.trans (Nat.add_le_add_left alarm.later _)
    · rwa [others other here]
  · by_cases here : other = timer
    · subst here
      exact alarm.fits (timed.fits other mem)
    · rw [others other here]
      exact timed.fits other mem
  · have different : other ≠ timer := by
      rintro rfl
      exact distinct.1 mem
    rw [alarm.pending, if_neg different]
    exact timed.waiting other mem
  · rw [alarm.pending, if_pos rfl]
  · refine ⟨?_, alarm.moved.imp (fun same => ?_) id, fun other different => ?_, alarm.contextTicks,
      alarm.cleared, alarm.ticks, alarm.slowest⟩
    · rw [alarm.pending, if_pos rfl]
    · rw [TimerWorld.deadline, same, alarm.contextTicks, TimerWorld.deadline]
    · rw [TimerWorld.deadline, others other different, alarm.contextTicks, TimerWorld.deadline]

/-! ## Starting a timer -/

/-- A timer that runs has still to be linked. -/
structure Ready (due : ι → ℕ) (world : TimerWorld ι) (timers : List ι) (timer : ι) : Prop where
  chains : world.Chains timers
  fresh : timer ∉ timers
  running : ∀ other, (world.objects other).isRunning = true ↔ other = timer ∨ other ∈ timers
  exact : world.rtc.Exact
  due : ∀ other, other = timer ∨ other ∈ timers → due other ≤ world.deadline other
  fits : ∀ other, other = timer ∨ other ∈ timers → (world.objects other).timestamp < 2 ^ 32
  waiting : ∀ other ∈ timers.tail, (world.objects other).isPending = false
  idle : (world.objects timer).isPending = false

omit [DecidableEq ι] in
/-- Once linked before the list, it is timed. -/
theorem Ready.linkedBefore (ready : Ready due world timers timer)
    (linked : LinkedBefore world timer middle)
    (waiting : ∀ other ∈ timers, (middle.objects other).isPending = false) :
    Timed due middle (timer :: timers) := by
  refine ⟨⟨linked.chains ready.chains ready.fresh, fun other => ?_⟩, ?_, fun other mem => ?_,
    fun other mem => ?_, waiting⟩
  · rw [isRunning_eq (linked.timing other), ready.running, List.mem_cons]
  · rw [linked.rtc]
    exact ready.exact
  · rw [TimerWorld.deadline, linked.rtc, timestamp_eq (linked.timing other)]
    exact ready.due other (List.mem_cons.mp mem)
  · rw [timestamp_eq (linked.timing other)]
    exact ready.fits other (List.mem_cons.mp mem)

/-- Linked before the list, a timer gets its alarm. -/
theorem Ready.setTimeout (ready : Ready due world timers timer)
    (linked : LinkedBefore world timer middle)
    (waiting : ∀ other ∈ timers, (middle.objects other).isPending = false)
    (young : world.rtc.Young world.rtc.contextTicks 2 minAlarmDelay) :
    wp (timerSetTimeout timer)
      (fun _ final => Timed due final (timer :: timers) ∧ Watched false final timer ∧
        Rearmed world timer final) middle := by
  rw [← linked.rtc] at young
  refine wp_mono ((ready.linkedBefore linked waiting).setTimeout young) ?_
  rintro _ final ⟨timed, watched, rearmed⟩
  have deadline : ∀ other, middle.deadline other = world.deadline other := by
    intro other
    rw [TimerWorld.deadline, linked.rtc, timestamp_eq (linked.timing other), TimerWorld.deadline]
  refine ⟨timed, watched, rearmed.pending, ?_, fun other different => ?_, ?_, rearmed.cleared, ?_,
    ?_⟩
  · rw [← deadline]
    exact rearmed.moved
  · rw [← deadline]
    exact rearmed.others other different
  · rw [← linked.rtc]
    exact rearmed.contextTicks
  · rw [← linked.rtc]
    exact rearmed.ticks
  · rw [← linked.rtc]
    exact rearmed.slowest

theorem Ready.insertNewHead (ready : Ready due world timers timer)
    (young : world.rtc.Young world.rtc.contextTicks 2 minAlarmDelay) :
    wp (timerInsertNewHeadTimer timer)
      (fun _ final => Timed due final (timer :: timers) ∧ Watched false final timer ∧
        Rearmed world timer final) world := by
  rw [timerInsertNewHeadTimer, wp_bind, wp_getTimerListHead]
  have head : world.timerListHead = timers.head? := ready.chains.head_eq
  cases timers with
  | nil =>
      rw [head, List.head?_nil, wp_bind, wp_setObject, wp_bind,
        wp_setTimerListHead]
      refine ready.setTimeout ⟨rfl, ?_, fun other different => ?_, fun other => ?_, rfl⟩
        (fun other mem => ?_) young
      · rw [TimerWorld.next, withHead_objects, update_same, head]
        rfl
      · rw [TimerWorld.next, withHead_objects, update_other _ different]
        rfl
      · rw [withHead_objects, update_timing]
        exact fun _ => rfl
      · cases mem
  | cons first rest =>
      have not_timer : timer ≠ first := by
        rintro rfl
        exact ready.fresh List.mem_cons_self
      have distinct := List.nodup_cons.mp ready.chains.nodup
      rw [head, List.head?_cons, wp_bind, wp_setObject, wp_bind, wp_setObject, wp_bind,
        wp_setTimerListHead]
      refine ready.setTimeout ⟨rfl, ?_, fun other different => ?_, fun other => ?_, rfl⟩
        (fun other mem => ?_) young
      · rw [TimerWorld.next, withHead_objects, update_same, head]
        rfl
      · rw [TimerWorld.next, withHead_objects, update_other _ different]
        change TimerWorld.next (world.update first _) other = _
        rw [update_next]
        exact fun _ => rfl
      · rw [withHead_objects, update_timing, update_timing] <;> exact fun _ => rfl
      · have different : other ≠ timer := by
          rintro rfl
          exact ready.fresh mem
        rw [withHead_objects, update_other _ different]
        by_cases here : other = first
        · subst here
          rw [update_same]
        · rw [update_other _ here]
          exact ready.waiting other (List.mem_of_ne_of_mem here mem)

omit [DecidableEq ι] in
/-- Calls of the driver and other timers leave the first timer watched. -/
theorem Watched.congr (watched : Watched serving world timer)
    (timestamp : (final.objects timer).timestamp = (world.objects timer).timestamp)
    (isPending : (final.objects timer).isPending = (world.objects timer).isPending)
    (armed : world.rtc.Armed (world.deadline timer) → final.rtc.Armed (final.deadline timer)) :
    Watched serving final timer := by
  rw [Watched, timestamp, isPending]
  rcases watched with ⟨pending, alarm⟩ | handling
  · exact .inl ⟨pending, armed alarm⟩
  · exact .inr handling

/-- What a start has made of a list: the timer is the first one and has got the
alarm, or it has got its place behind the first one. -/
inductive Joined (world : TimerWorld ι) (timers : List ι) (timer : ι) (final : TimerWorld ι) :
    List ι → Prop
  | first (earliest : ∀ head ∈ timers.head?,
        (world.objects timer).timestamp < (world.objects head).timestamp)
      (rearmed : Rearmed world timer final) : Joined world timers timer final (timer :: timers)
  | behind (head : ι) (before after : List ι) (split : timers = head :: before ++ after)
      (later : (world.objects head).timestamp ≤ (world.objects timer).timestamp)
      (placed : Placed world (head :: before) timer after) (rtc : final.rtc = world.rtc)
      (timestamp : ∀ other, (final.objects other).timestamp = (world.objects other).timestamp)
      (pending : ∀ other, (final.objects other).isPending = (world.objects other).isPending) :
      Joined world timers timer final (head :: before ++ timer :: after)

section Joined

variable {timers' : List ι}

omit [DecidableEq ι] in
theorem Joined.ticks (joined : Joined world timers timer final timers') :
    world.rtc.ticks ≤ final.rtc.ticks := by
  cases joined with
  | first earliest rearmed => exact rearmed.ticks
  | behind head before after split later placed rtc => rw [rtc]

omit [DecidableEq ι] in
theorem Joined.slowest (joined : Joined world timers timer final timers') :
    world.rtc.slowest ≤ final.rtc.slowest := by
  cases joined with
  | first earliest rearmed => exact rearmed.slowest
  | behind head before after split later placed rtc => rw [rtc]

omit [DecidableEq ι] in
/-- The list has one timer more. -/
theorem Joined.members (joined : Joined world timers timer final timers') (other : ι)
    (mem : other ∈ timers') : other = timer ∨ other ∈ timers := by
  cases joined with
  | first earliest rearmed => exact List.mem_cons.mp mem
  | behind head before after split =>
      rw [split]
      simp only [List.mem_append, List.mem_cons] at mem ⊢
      exact or_left_comm.mp mem

end Joined

/-- The timers after a start, which are timed and watched. -/
def KeptJoined (serving : Bool) (due : ι → ℕ) (world : TimerWorld ι) (timers : List ι) (timer : ι)
    (final : TimerWorld ι) : Prop :=
  ∃ timers', Joined world timers timer final timers' ∧ Timed due final timers' ∧
    ∀ head ∈ timers'.head?, Watched serving final head

omit [DecidableEq ι] in
theorem KeptJoined.kept (joined : KeptJoined serving due world timers timer final) :
    Kept serving due final := by
  rcases joined with ⟨timers', -, kept⟩
  exact ⟨timers', kept⟩

/-- Linked behind the first timer, it leaves that one watched. -/
theorem Ready.insertTimer [Fintype ι] {head : ι} (ready : Ready due world (head :: rest) timer)
    (watched : Watched serving world head)
    (later : (world.objects head).timestamp ≤ (world.objects timer).timestamp) :
    wp (timerInsertTimer timer)
      (fun _ final => KeptJoined serving due world (head :: rest) timer final) world := by
  refine wp_mono (wp_timerInsertTimer ready.chains ready.fresh) fun _ final inserted => ?_
  obtain ⟨before, after, split, placed, chains⟩ := inserted.chains
  have first : world.timerListHead = some head := ready.chains.head_eq
  have deadline : ∀ other, final.deadline other = world.deadline other := by
    intro other
    rw [TimerWorld.deadline, inserted.rtc, timestamp_eq (inserted.timing other)]
    rfl
  have members : ∀ other, other ∈ before ++ timer :: after ↔
      other = timer ∨ other ∈ head :: rest := by
    intro other
    rw [split]
    simp only [List.mem_append, List.mem_cons]
    exact or_left_comm
  have final_head : (before ++ timer :: after).head? = some head := by
    rw [← chains.head_eq, inserted.timerListHead, first]
  have joined : Joined world (head :: rest) timer final (before ++ timer :: after) := by
    cases before with
    | nil =>
        cases final_head
        exact absurd List.mem_cons_self ready.fresh
    | cons other before =>
        cases final_head
        exact .behind head before after split later placed inserted.rtc
          (fun other => timestamp_eq (inserted.timing other)) inserted.pending
  refine ⟨before ++ timer :: after, joined, ⟨⟨chains, fun other => ?_⟩, ?_, fun other mem => ?_,
    fun other mem => ?_, fun other mem => ?_⟩, ?_⟩
  · rw [isRunning_eq (inserted.timing other), ready.running, members]
  · rw [inserted.rtc]
    exact ready.exact
  · rw [deadline]
    exact ready.due other ((members other).mp mem)
  · rw [timestamp_eq (inserted.timing other)]
    exact ready.fits other ((members other).mp mem)
  · rw [inserted.pending]
    have distinct := chains.nodup
    rcases (members other).mp (List.mem_of_mem_tail mem) with here | old
    · rw [here]
      exact ready.idle
    · apply ready.waiting
      obtain ⟨tail, list⟩ := List.head?_eq_some_iff.mp final_head
      rw [list] at distinct mem
      have not_head : other ≠ head := by
        rintro rfl
        exact (List.nodup_cons.mp distinct).1 mem
      exact List.mem_of_ne_of_mem not_head old
  · intro other is_first
    rw [final_head] at is_first
    cases is_first
    apply watched.congr (timestamp_eq (inserted.timing head)) (inserted.pending head)
    intro armed
    rw [deadline, inserted.rtc]
    exact armed

/-- `GNSE_RTC_SetTimerContext` moves the reference to the present. -/
structure ContextSet (world final : TimerWorld ι) : Prop where
  objects : final.objects = world.objects
  timerListHead : final.timerListHead = world.timerListHead
  exact : final.rtc.Exact
  contextTicks : final.rtc.contextTicks = world.rtc.ticksAfter 1
  ticks : final.rtc.ticks = world.rtc.ticksAfter 1
  slowest : final.rtc.slowest = world.rtc.slowest
  passed : world.rtc.Passed 1 final.rtc
  armed : ∀ deadline, world.rtc.called.Armed deadline → final.rtc.Armed deadline

omit [DecidableEq ι] in
theorem wp_gnseRtcSetTimerContext_exact :
    wp gnseRtcSetTimerContext (fun now final =>
      now = world.rtc.ticksAfter 1 % 2 ^ 32 ∧ ContextSet world final) world := by
  rw [gnseRtcSetTimerContext, wp_bind, wp_getTimerTicks, wp_bind, wp_modifyRtc, wp_pure]
  refine ⟨rfl, rfl, rfl, ⟨?_, Nat.le_refl _⟩, rfl, rfl, rfl, ⟨1, Nat.le_refl _, rfl, rfl, rfl⟩,
    fun deadline armed => ⟨armed.alarm, armed.ahead⟩⟩
  change (UInt32.ofNat (world.rtc.ticksAfter 1 % 2 ^ 32)).toNat = world.rtc.ticksAfter 1 % 2 ^ 32
  exact UInt32.toNat_ofNat_of_lt' (Nat.mod_lt _ (by decide))

/-- The critical section of `UTIL_TIMER_Start`. -/
def utilTimerStartSection [Fintype ι] (timerObject : ι) : Prog (TimerWorld ι) Unit := do
  let object ← getObject timerObject
  let ticks := if object.reloadValue < minAlarmDelay then minAlarmDelay else object.reloadValue
  setObject timerObject fun object =>
    { object with
      timestamp := ticks
      isPending := false
      isRunning := true
      isReloadStopped := false }
  let head ← getTimerListHead
  match head with
  | none =>
      let _ ← gnseRtcSetTimerContext
      timerInsertNewHeadTimer timerObject
  | some head =>
      let elapsedTime ← gnseRtcGetTimerElapsedTime
      setObject timerObject fun object =>
        { object with timestamp := (object.timestamp + elapsedTime) % 2 ^ 32 }
      let object ← getObject timerObject
      let first ← getObject head
      if object.timestamp < first.timestamp then
        timerInsertNewHeadTimer timerObject
      else
        timerInsertTimer timerObject

/-- When a timer may expire that is started now. -/
def startedDue (due : ι → ℕ) (world : TimerWorld ι) (timer : ι) : ι → ℕ :=
  Function.update due timer (world.rtc.ticks + (world.objects timer).reloadValue)

omit [DecidableEq ι] in
/-- The reference from which a timer counts that is started now; in an empty
list the start moves it to the present. -/
def startReference (world : TimerWorld ι) : ℕ :=
  match world.timerListHead with
  | none => world.rtc.ticks
  | some _ => world.rtc.contextTicks

/-- A timer that is prepared with a timestamp has to be linked. -/
theorem Timed.ready (timed : Timed due world timers) (fresh : timer ∉ timers) {timestamp : ℕ}
    (objects : middle.objects = (world.update timer fun object =>
      object.started timestamp).objects)
    (head : middle.timerListHead = world.timerListHead) (exact : middle.rtc.Exact)
    (reference : timers ≠ [] → middle.rtc.contextTicks = world.rtc.contextTicks)
    (late : world.rtc.ticks + (world.objects timer).reloadValue ≤
      middle.rtc.contextTicks + timestamp)
    (fits : timestamp < 2 ^ 32) : Ready (startedDue due world timer) middle timers timer := by
  have self : middle.objects timer = (world.objects timer).started timestamp := by
    rw [objects, update_same]
  have others : ∀ other, other ≠ timer → middle.objects other = world.objects other := by
    intro other different
    rw [objects, update_other _ different]
  have distinct : ∀ other, other ∈ timers → other ≠ timer := by
    rintro other mem rfl
    exact fresh mem
  refine ⟨?_, fresh, fun other => ?_, exact, fun other mem => ?_, fun other mem => ?_,
    fun other mem => ?_, ?_⟩
  · refine timed.linked.chains.congr head fun other mem => ?_
    rw [TimerWorld.next, others other (distinct other mem)]
    rfl
  · by_cases here : other = timer
    · subst here
      rw [self]
      simp [UtilTimerObject.started]
    · rw [others other here, timed.linked.running]
      simp [here]
  · rw [TimerWorld.deadline, startedDue]
    by_cases here : other = timer
    · subst here
      rw [Function.update_self, self, started_timestamp]
      exact late
    · have old : other ∈ timers := mem.resolve_left here
      rw [Function.update_of_ne here, others other here, reference (List.ne_nil_of_mem old)]
      exact timed.due other old
  · by_cases here : other = timer
    · subst here
      rw [self, started_timestamp]
      exact fits
    · rw [others other here]
      exact timed.fits other (mem.resolve_left here)
  · rw [others other (distinct other (List.mem_of_mem_tail mem))]
    exact timed.waiting other mem
  · rw [self]
    rfl

/-- A timer that is started has its deadline, and the time is read. -/
structure Begun (world : TimerWorld ι) (timers : List ι) (timer : ι) (middle : TimerWorld ι) :
    Prop where
  deadline : middle.deadline timer =
    middle.rtc.ticks + max minAlarmDelay (world.objects timer).reloadValue
  objects : ∀ other ∈ timers, middle.objects other = world.objects other
  rtc : timers ≠ [] → middle.rtc = world.rtc.called
  exact : middle.rtc.Exact
  ticks : world.rtc.ticks ≤ middle.rtc.ticks
  slowest : middle.rtc.slowest = world.rtc.slowest

/-- The timers after a start, by what it has made of the list. -/
def KeptStarted (serving : Bool) (due : ι → ℕ) (world : TimerWorld ι) (timers : List ι)
    (timer : ι) (final : TimerWorld ι) : Prop :=
  ∃ middle, Begun world timers timer middle ∧ KeptJoined serving due middle timers timer final

omit [DecidableEq ι] in
theorem KeptStarted.kept (started : KeptStarted serving due world timers timer final) :
    Kept serving due final := by
  rcases started with ⟨middle, -, joined⟩
  exact joined.kept

/-- A timer of which the timestamp is set gets its place in the list. -/
theorem wp_startPlace [Fintype ι] {head : ι} (timed : Timed due world (head :: rest))
    (watched : Watched serving world head) (fresh : timer ∉ head :: rest) {ticks : ℕ}
    (young : world.rtc.Young world.rtc.contextTicks 3 (max minAlarmDelay ticks))
    (rtc : middle.rtc = world.rtc.called)
    (listHead : middle.timerListHead = world.timerListHead)
    (reloads : (world.objects timer).reloadValue = ticks)
    (objects : middle.objects = (world.update timer fun object => object.started
      ((max minAlarmDelay ticks + world.rtc.elapsedAfter 1) % 2 ^ 32)).objects) :
    wp (if (middle.objects timer).timestamp < (middle.objects head).timestamp then
        timerInsertNewHeadTimer timer else timerInsertTimer timer)
      (fun _ final => KeptStarted serving (startedDue due world timer) world (head :: rest) timer
        final) middle := by
  have bound := young 1 (by decide)
  have elapsed := TimerRtc.contextTicks_add_elapsedAfter timed.exact
    (Nat.lt_of_add_right_lt bound)
  have later := world.rtc.ticks_le_ticksAfter 1
  have different : head ≠ timer := by
    rintro rfl
    exact fresh List.mem_cons_self
  have sum : (max minAlarmDelay ticks + world.rtc.elapsedAfter 1) % 2 ^ 32 =
      max minAlarmDelay ticks + world.rtc.elapsedAfter 1 := Nat.mod_eq_of_lt (by omega)
  rw [sum] at objects
  have contextTicks : middle.rtc.contextTicks = world.rtc.contextTicks := by
    rw [rtc]
    rfl
  have ready : Ready (startedDue due world timer) middle (head :: rest) timer := by
    apply timed.ready fresh objects listHead _ (fun _ => contextTicks)
    · omega
    · omega
    · rw [rtc]
      exact timed.exact.called
  have self : (middle.objects timer).timestamp =
      max minAlarmDelay ticks + world.rtc.elapsedAfter 1 := by
    rw [objects, update_same]
    rfl
  have begun : Begun world (head :: rest) timer middle := by
    refine ⟨?_, fun other mem => ?_, fun _ => rtc, ready.exact, ?_, ?_⟩
    · rw [TimerWorld.deadline, contextTicks, self, reloads, rtc]
      change _ = world.rtc.ticksAfter 1 + _
      omega
    · have different : other ≠ timer := by
        rintro rfl
        exact fresh mem
      rw [objects, update_other _ different]
    · rw [rtc]
      exact later
    · rw [rtc]
      rfl
  split_ifs with earlier
  · have young' : middle.rtc.Young middle.rtc.contextTicks 2 minAlarmDelay := by
      have brief : world.rtc.Young world.rtc.contextTicks (1 + 2) minAlarmDelay :=
        young.mono (Nat.le_refl _) (Nat.le_max_left _ _)
      rw [contextTicks, rtc]
      exact brief.later .called
    refine wp_mono (ready.insertNewHead young') ?_
    rintro _ final ⟨placed, armed, rearmed⟩
    refine ⟨middle, begun, timer :: head :: rest, .first ?_ rearmed, placed, ?_⟩
    · rintro _ ⟨⟩
      exact earlier
    · rintro _ ⟨⟩
      exact armed.weaken serving
  · have same : middle.objects head = world.objects head := by
      rw [objects, update_other _ different]
    have still : Watched serving middle head := by
      apply watched.congr (congrArg _ same) (congrArg _ same)
      intro armed
      rw [TimerWorld.deadline, contextTicks, same, rtc]
      exact armed.called (timed.near List.mem_cons_self)
    exact wp_mono (ready.insertTimer still (Nat.le_of_not_lt earlier)) fun _ final joined =>
      ⟨middle, begun, joined⟩

/-- The critical section of a start keeps the alarm. -/
theorem wp_utilTimerStartSection [Fintype ι] (timed : Timed due world timers)
    (watched : ∀ head ∈ timers.head?, Watched serving world head) (fresh : timer ∉ timers)
    (young : world.rtc.Young (startReference world) 3
      (max minAlarmDelay (world.objects timer).reloadValue)) :
    wp (utilTimerStartSection timer)
      (fun _ final => KeptStarted serving (startedDue due world timer) world timers timer final)
      world := by
  have ticks := alarmTicks_eq (world.objects timer).reloadValue
  have first : world.timerListHead = timers.head? := timed.linked.chains.head_eq
  have reload := Nat.le_max_right minAlarmDelay (world.objects timer).reloadValue
  have soon := Nat.le_max_left minAlarmDelay (world.objects timer).reloadValue
  rw [startReference, first] at young
  rw [utilTimerStartSection, wp_bind, wp_getObject, ticks, wp_bind, wp_setObject, wp_bind,
    wp_getTimerListHead, update_timerListHead, first]
  cases timers with
  | nil =>
      rw [List.head?_nil, wp_bind]
      refine wp_mono wp_gnseRtcSetTimerContext_exact fun now middle set => ?_
      obtain ⟨-, set⟩ := set
      have contextTicks : middle.rtc.contextTicks = world.rtc.ticksAfter 1 := set.contextTicks
      have later := world.rtc.ticks_le_ticksAfter 1
      have bound : world.rtc.ticks + max minAlarmDelay (world.objects timer).reloadValue <
          world.rtc.ticks + 2 ^ 32 := young 0 (Nat.zero_le _)
      have ready : Ready (startedDue due world timer) middle [] timer := by
        apply timed.ready fresh set.objects set.timerListHead set.exact (absurd rfl)
        · omega
        · omega
      have young' : middle.rtc.Young middle.rtc.contextTicks 2 minAlarmDelay := by
        rw [contextTicks]
        have brief : world.rtc.Young world.rtc.ticks (1 + 2) minAlarmDelay :=
          young.mono (Nat.le_refl _) soon
        exact (brief.later set.passed).of_le later
      have begun : Begun world [] timer middle := by
        refine ⟨?_, fun other mem => absurd mem List.not_mem_nil, absurd rfl, set.exact, ?_,
          set.slowest⟩
        · rw [TimerWorld.deadline, contextTicks, set.ticks, set.objects, update_same]
          rfl
        · rw [set.ticks]
          exact later
      refine wp_mono (ready.insertNewHead young') ?_
      rintro _ final ⟨placed, armed, rearmed⟩
      refine ⟨middle, begun, [timer], .first ?_ rearmed, placed, ?_⟩
      · rintro _ ⟨⟩
      · rintro _ ⟨⟩
        exact armed.weaken serving
  | cons head rest =>
      rw [List.head?_cons, wp_bind, wp_gnseRtcGetTimerElapsedTime, wp_bind, wp_setObject, wp_bind,
        wp_getObject, wp_bind, wp_getObject]
      refine wp_startPlace timed (watched head rfl) fresh young rfl rfl rfl ?_
      funext other
      by_cases here : other = timer
      · subst here
        rw [update_same, withRtc_objects, update_same, update_same]
        rfl
      · rw [update_other _ here, withRtc_objects, update_other _ here, update_other _ here]

/-! ## Stopping a timer -/

omit [DecidableEq ι] in
/-- A part of the list is as timed as the list. -/
theorem Timed.of_timing {others : List ι} (timed : Timed due world timers)
    (linked : Linked final others) (members : ∀ other ∈ others, other ∈ timers)
    (tail : ∀ other ∈ others.tail, other ∈ timers.tail) (rtc : final.rtc = world.rtc)
    (timestamp : ∀ other ∈ others, (final.objects other).timestamp =
      (world.objects other).timestamp)
    (pending : ∀ other ∈ others, (final.objects other).isPending =
      (world.objects other).isPending) : Timed due final others := by
  refine ⟨linked, ?_, fun other mem => ?_, fun other mem => ?_, fun other mem => ?_⟩
  · rw [rtc]
    exact timed.exact
  · rw [TimerWorld.deadline, rtc, timestamp other mem]
    exact timed.due other (members other mem)
  · rw [timestamp other mem]
    exact timed.fits other (members other mem)
  · rw [pending other (List.mem_of_mem_tail mem)]
    exact timed.waiting other (tail other mem)

omit [DecidableEq ι] in
/-- Without timers there is nothing to time. -/
theorem timed_nil (linked : Linked final []) (exact : final.rtc.Exact) : Timed due final [] := by
  refine ⟨linked, exact, fun other mem => ?_, fun other mem => ?_, fun other mem => ?_⟩
  · cases mem
  · cases mem
  · cases mem

/-- What a stop has made of a list: no timer is left, the next one is the first
one and has got the alarm, or the first one is the same. -/
inductive Left (world : TimerWorld ι) (timers : List ι) (timer : ι) (final : TimerWorld ι) :
    List ι → Prop
  | empty (ticks : final.rtc.ticks = world.rtc.ticks)
      (slowest : final.rtc.slowest = world.rtc.slowest) : Left world timers timer final []
  | next (middle : TimerWorld ι) (next : ι) (rest : List ι) (split : timers = timer :: next :: rest)
      (objects : ∀ other ∈ next :: rest, middle.objects other = world.objects other)
      (rtc : middle.rtc = world.rtc) (rearmed : Rearmed middle next final) :
      Left world timers timer final (next :: rest)
  | behind (head : ι) (rest : List ι) (split : timers = head :: rest) (rtc : final.rtc = world.rtc)
      (timestamp : ∀ other ∈ head :: rest.erase timer,
        (final.objects other).timestamp = (world.objects other).timestamp)
      (pending : ∀ other ∈ head :: rest.erase timer,
        (final.objects other).isPending = (world.objects other).isPending) :
      Left world timers timer final (head :: rest.erase timer)

section Left

variable {timers' : List ι}

theorem Left.ticks (left : Left world timers timer final timers') :
    world.rtc.ticks ≤ final.rtc.ticks := by
  cases left with
  | empty ticks slowest => rw [ticks]
  | next middle next rest split objects rtc rearmed =>
      rw [← rtc]
      exact rearmed.ticks
  | behind head rest split rtc => rw [rtc]

theorem Left.slowest (left : Left world timers timer final timers') :
    world.rtc.slowest ≤ final.rtc.slowest := by
  cases left with
  | empty ticks slowest => rw [slowest]
  | next middle next rest split objects rtc rearmed =>
      rw [← rtc]
      exact rearmed.slowest
  | behind head rest split rtc => rw [rtc]

/-- No timer was added to the list. -/
theorem Left.members (left : Left world timers timer final timers') (other : ι)
    (mem : other ∈ timers') : other ∈ timers := by
  cases left with
  | empty ticks slowest => cases mem
  | next middle next rest split =>
      rw [split]
      exact List.mem_cons_of_mem _ mem
  | behind head rest split =>
      rw [split]
      rcases List.mem_cons.mp mem with rfl | mem
      · exact List.mem_cons_self
      · exact List.mem_cons_of_mem _ (List.mem_of_mem_erase mem)

end Left

/-- The timers after a stop, which are timed and watched. -/
def KeptLeft (serving : Bool) (due : ι → ℕ) (world : TimerWorld ι) (timers : List ι) (timer : ι)
    (final : TimerWorld ι) : Prop :=
  ∃ timers', Left world timers timer final timers' ∧ Timed due final timers' ∧
    ∀ head ∈ timers'.head?, Watched serving final head

theorem KeptLeft.kept (left : KeptLeft serving due world timers timer final) :
    Kept serving due final := by
  rcases left with ⟨timers', -, kept⟩
  exact ⟨timers', kept⟩

/-- The timers behind the first one, once that one has stopped. -/
theorem Timed.promote {next : ι} (timed : Timed due world (timer :: next :: rest))
    (halted : Halted world timer middle) :
    Timed due (middle.withHead (some next)) (next :: rest) := by
  have distinct := List.nodup_cons.mp timed.linked.chains.nodup
  have same : ∀ other ∈ next :: rest, middle.objects other = world.objects other := by
    intro other mem
    apply halted.others
    rintro rfl
    exact distinct.1 mem
  apply timed.of_timing
  · have chains : (middle.withHead (some next)).Chains ((timer :: next :: rest).erase timer) := by
      rw [List.erase_cons_head, TimerWorld.Chains, withHead_timerListHead]
      have tail := Chain.cons_iff.mp (Chain.cons_iff.mp timed.linked.chains).2
      apply Chain.node
      have links : (middle.withHead (some next)).next = world.next := halted.next
      rw [links]
      exact tail.2
    have linked := (timed.linked.but timer).erase chains
      (fun other different => by rw [withHead_objects, halted.others other different])
      halted.isRunning
    rwa [List.erase_cons_head] at linked
  · exact fun other mem => List.mem_cons_of_mem _ mem
  · exact fun other mem => List.mem_cons_of_mem _ mem
  · rw [withHead_rtc, halted.rtc]
  · intro other mem
    rw [withHead_objects, same other mem]
  · intro other mem
    rw [withHead_objects, same other mem]

/-- Stopping the first timer hands the alarm to the next one. -/
theorem Timed.stopHead (timed : Timed due world (timer :: rest)) (serving : Bool)
    (halted : Halted world timer middle)
    (young : rest ≠ [] → world.rtc.Young world.rtc.contextTicks 2 minAlarmDelay) :
    wp (utilTimerStopHead timer)
      (fun _ final => KeptLeft serving due world (timer :: rest) timer final) middle := by
  apply wp_utilTimerStopHead_next timed.linked.chains halted
  intro shown still
  cases rest with
  | nil =>
      rw [List.head?_nil, wp_bind, gnseRtcStopTimer, wp_modifyRtc, wp_setTimerListHead]
      have exact := timed.exact
      rw [← still.rtc] at exact
      have linked : Linked world [timer] := timed.linked
      have ticks : shown.rtc.ticks = world.rtc.ticks := congrArg _ still.rtc
      have slowest : shown.rtc.slowest = world.rtc.slowest := congrArg _ still.rtc
      refine ⟨[], .empty ticks slowest, timed_nil ⟨Chain.null, fun other => ?_⟩
        ⟨exact.context, exact.past⟩, by rintro _ ⟨⟩⟩
      rw [withHead_objects, withRtc_objects]
      by_cases here : other = timer
      · subst here
        simp [still.isRunning]
      · rw [still.others other here, linked.running]
        simp [here]
  | cons first rest =>
      rw [List.head?_cons, wp_bind, wp_setTimerListHead]
      have young' := young (List.cons_ne_nil _ _)
      rw [← still.rtc] at young'
      refine wp_mono ((timed.promote still).setTimeout young') ?_
      rintro _ final ⟨placed, armed, rearmed⟩
      have distinct := List.nodup_cons.mp timed.linked.chains.nodup
      have objects : ∀ other ∈ first :: rest,
          (shown.withHead (some first)).objects other = world.objects other := by
        intro other mem
        apply still.others
        rintro rfl
        exact distinct.1 mem
      refine ⟨first :: rest, .next _ first rest rfl objects still.rtc rearmed, placed, ?_⟩
      rintro _ ⟨⟩
      exact armed.weaken serving

/-- Unlinking a timer behind the first one leaves that one watched. -/
theorem Timed.unlink {head : ι} (timed : Timed due world (head :: rest))
    (watched : Watched serving world head) (different : head ≠ timer)
    (halted : Halted world timer middle) (unlinked : Unlinked middle (head :: rest) timer final) :
    KeptLeft serving due world (head :: rest) timer final := by
  have distinct : (head :: rest).Nodup := timed.linked.chains.nodup
  have erased : (head :: rest).erase timer = head :: rest.erase timer :=
    List.erase_cons_tail (by simpa using different)
  have rtc : final.rtc = world.rtc := unlinked.rtc.trans halted.rtc
  have others : ∀ other, other ≠ timer → middle.objects other = world.objects other :=
    halted.others
  have not_timer : ∀ other ∈ (head :: rest).erase timer, other ≠ timer :=
    fun other mem => (distinct.mem_erase_iff.mp mem).1
  have timestamp : ∀ other, other ≠ timer →
      (final.objects other).timestamp = (world.objects other).timestamp := by
    intro other other_timer
    rw [timestamp_eq (unlinked.timing other), others other other_timer]
  have pending : ∀ other, other ≠ timer →
      (final.objects other).isPending = (world.objects other).isPending := by
    intro other other_timer
    rw [unlinked.pending, others other other_timer]
  have linked : Linked final ((head :: rest).erase timer) := by
    apply (timed.linked.but timer).erase unlinked.chains
    · intro other other_timer
      rw [isRunning_eq (unlinked.timing other), others other other_timer]
    · rw [isRunning_eq (unlinked.timing timer)]
      exact halted.isRunning
  rw [erased] at linked not_timer
  refine ⟨head :: rest.erase timer, .behind head rest rfl rtc
    (fun other mem => timestamp other (not_timer other mem))
    (fun other mem => pending other (not_timer other mem)), timed.of_timing linked ?_ ?_ rtc
    (fun other mem => timestamp other (not_timer other mem))
    (fun other mem => pending other (not_timer other mem)), ?_⟩
  · rw [← erased]
    exact fun other mem => List.mem_of_mem_erase mem
  · exact fun other mem => List.mem_of_mem_erase mem
  · intro first is_first
    cases is_first
    apply watched.congr (timestamp head different) (pending head different)
    intro armed
    rw [TimerWorld.deadline, rtc, timestamp head different]
    exact armed

/-- A stop keeps the alarm. -/
theorem wp_utilTimerStop_kept [Fintype ι] (timed : Timed due world timers)
    (watched : ∀ head ∈ timers.head?, Watched serving world head)
    (young : ∀ next rest, timers = timer :: next :: rest →
      world.rtc.Young world.rtc.contextTicks 2 minAlarmDelay) :
    wp (utilTimerStop timer) (fun _ final => KeptLeft serving due world timers timer final)
      world := by
  have first : world.timerListHead = timers.head? := timed.linked.chains.head_eq
  rw [utilTimerStop, wp_bind, wp_setObject, wp_bind, wp_getTimerListHead, update_timerListHead,
    first]
  cases timers with
  | nil =>
      rw [List.head?_nil, wp_pure]
      refine ⟨[], .empty rfl rfl, timed_nil (timed.linked.update _ ?_ ?_) timed.exact,
        by rintro _ ⟨⟩⟩ <;> exact fun _ => rfl
  | cons head rest =>
      rw [List.head?_cons, wp_bind]
      by_cases here : head = timer
      · subst here
        rw [utilTimerStopLinked, wp_bind, wp_setObject, if_pos rfl]
        refine wp_mono (timed.stopHead serving .of_stop fun others => ?_) fun _ final kept => ?_
        · obtain ⟨next, rest, rfl⟩ := List.exists_cons_of_ne_nil others
          exact young next rest rfl
        · rwa [wp_pure]
      · refine wp_mono (wp_utilTimerStopLinked_behind timed.linked.chains here) ?_
        rintro _ final ⟨middle, halted, unlinked⟩
        rw [wp_pure]
        exact timed.unlink (watched head rfl) here halted unlinked

end Alarm

end GenericNode.Timer
