import GenericNode.Library.OneShot
import GenericNode.Rtc.Elapsed
import GenericNode.Timer.Downlink
import GenericNode.Timer.Punctual
import GenericNode.Timer.Settings

/-!
# The bare-metal timer macros

`timer.h` maps the timers of the LoRaWAN stack to one-shot timers of the
server.  In the runs where no sum of 32 bits wraps and only stopped timers are
set and started, they are one-shot timers.
-/

namespace GenericNode.Timer

open GenericNode.Library
open GenericNode.Library.Prog
open GenericNode.Library.OneShot
open GenericNode.Rtc

/-! ## The macros -/

section Macros

variable {ι : Type} [DecidableEq ι]

/-- `TIMERTIME_T_MAX`. -/
def timertimeTMax : ℕ :=
  0xFFFFFFFF

/-- `TimerInit`: a one-shot timer. -/
def timerInit (handle : ι) : Prog (TimerWorld ι) Unit :=
  utilTimerCreate handle timertimeTMax .oneshot

variable [Fintype ι]

/-- `TimerSetValue`. -/
def timerSetValue (handle : ι) (timeout : UInt32) : Prog (TimerWorld ι) Unit := do
  let _ ← utilTimerSetPeriod handle timeout.toNat

/-- `TimerStart`. -/
def timerStart (handle : ι) : Prog (TimerWorld ι) Unit := do
  let _ ← utilTimerStart handle

/-- `TimerStop`. -/
def timerStop (handle : ι) : Prog (TimerWorld ι) Unit := do
  let _ ← utilTimerStop handle

end Macros

/-! ## Runs -/

/-- The timers and what runs; for the record, what was done, and how long the
timers were at work. -/
structure MacroRun (ι : Type) where
  world : TimerWorld ι
  phase : TimerPhase ι
  log : List (Entry ι)
  lateness : Lateness

/-- Time passes, a call, the alarm interrupt, the next test of its handler, and
the end of a callback. -/
inductive MacroEvent (ι : Type) where
  | pass (count : ℕ)
  | init (timer : ι)
  | setValue (timer : ι) (timeout : UInt32)
  | start (timer : ι)
  | stop (timer : ι)
  | alarm
  | expire
  | callbackEnds

section Runs

variable {ι : Type}

/-- When an event can happen. -/
def macroEnabled (run : MacroRun ι) : MacroEvent ι → Prop
  | .pass _ => True
  | .init _ | .setValue _ _ | .start _ | .stop _ => run.phase ≠ .expiring
  | .alarm => run.phase = .thread ∧ run.world.rtc.alarmFlag = true
  | .expire => run.phase = .expiring
  | .callbackEnds => run.phase.cur ≠ none

instance [DecidableEq ι] (run : MacroRun ι) : ∀ event, Decidable (macroEnabled run event)
  | .pass _ => .isTrue trivial
  | .init _ | .setValue _ _ | .start _ | .stop _ => inferInstanceAs (Decidable (_ ≠ _))
  | .alarm => inferInstanceAs (Decidable (_ ∧ _))
  | .expire => inferInstanceAs (Decidable (_ = _))
  | .callbackEnds => inferInstanceAs (Decidable (_ ≠ _))

/-- Record an action. -/
def MacroRun.noted (run : MacroRun ι) (action : Action ι) : MacroRun ι :=
  { run with log := ⟨run.world.rtc.ticks, action⟩ :: run.log }

/-- Run a call on the timers. -/
def onServer {α : Type} (call : Prog (TimerWorld ι) α) : Prog (MacroRun ι) α :=
  zoom MacroRun.world (fun world run => { run with world }) call

/-- The handler has unlinked a timer and calls it back, or it ends. -/
def MacroRun.expired (run : MacroRun ι) : Option ι → MacroRun ι
  | some cur => { run with phase := .callback cur }.noted (.callback cur)
  | none => { run with phase := .thread }

variable [DecidableEq ι] [Fintype ι]

/-- The end of the callback of a timer. -/
def macroCallbackEnds (run : MacroRun ι) : Prog (MacroRun ι) Unit :=
  match run.phase with
  | .callback cur => do
      onServer (utilTimerIrqReload cur)
      modify fun run => { run with phase := .expiring }
  | .thread | .expiring => undefined

/-- What happens at an event, and is recorded. -/
def macroEvent : MacroEvent ι → Prog (MacroRun ι) Unit
  | .pass count => onServer (modifyRtc fun rtc => rtc.pass count)
  | .init timer => do
      onServer (timerInit timer)
      modify fun run => run.noted (.init timer)
  | .setValue timer timeout => do
      onServer (timerSetValue timer timeout)
      modify fun run => run.noted (.setValue timer timeout.toNat)
  | .start timer => do
      modify fun run => run.noted (.start timer)
      onServer (timerStart timer)
  | .stop timer => do
      onServer (timerStop timer)
      modify fun run => run.noted (.stop timer)
  | .alarm => do
      onServer halRtcAlarmIrqHandler
      modify fun run => { run with phase := .expiring }
  | .expire => do
      let cur ← onServer utilTimerIrqNext
      modify fun run => run.expired cur
  | .callbackEnds => do
      let run ← gets id
      macroCallbackEnds run

/-- Something is at work besides the passing time: a call, or the alarm interrupt,
pending or in its handler.  Time that passes in one step counts as a whole. -/
def MacroRun.busy (run : MacroRun ι) : MacroEvent ι → Bool
  | .pass _ => run.world.rtc.alarmFlag || run.phase.serving
  | .init _ | .setValue _ _ | .start _ | .stop _ | .alarm | .expire | .callbackEnds => true

/-- The run with how long the timers were at work. -/
def MacroRun.observed (run : MacroRun ι) (event : MacroEvent ι) : MacroRun ι :=
  { run with lateness := run.lateness.observe (run.busy event) run.world.rtc.ticks }

/-- A step, and how long the timers were at work then. -/
def macroStep (event : MacroEvent ι) : Prog (MacroRun ι) Unit := do
  macroEvent event
  modify fun run => run.observed event

/-- The timers of the macros. -/
def macroMachine : Machine (MacroRun ι) (MacroEvent ι) where
  enabled := macroEnabled
  step := macroStep

instance (run : MacroRun ι) (event : MacroEvent ι) : Decidable (macroMachine.enabled run event) :=
  inferInstanceAs (Decidable (macroEnabled run event))

omit [DecidableEq ι] [Fintype ι] in
/-- After `UTIL_TIMER_Init`, with objects that are zero. -/
def macroBoot (ticks : ℕ) (delays : ℕ → ℕ) : MacroRun ι where
  world := (timerBoot (fun _ => 0) (fun _ => .oneshot) ticks delays).world
  phase := .thread
  log := []
  lateness := ⟨ticks, 0⟩

/-- The condition on a step: no sum of 32 bits wraps, a timer is created, set
and started only when it is stopped, and a value is set before a start. -/
def macroFits (run : MacroRun ι) : MacroEvent ι → Prop
  | .pass _ | .callbackEnds => True
  | .init timer => (run.world.objects timer).isRunning = false
  | .setValue timer timeout => (run.world.objects timer).isRunning = false ∧
      TicksFit timeout.toNat
  | .start timer => (run.world.objects timer).isRunning = false ∧
      (lastValue timer run.log).isSome = true ∧ run.world.StartsYoung timer
  | .stop timer => (CallPoint.stop timer false).Fits run.world
  | .alarm => run.world.timerListHead ≠ none →
      run.world.rtc.ticksAfter 1 < run.world.rtc.contextTicks + 2 ^ 32
  | .expire => run.world.timerListHead ≠ none →
      run.world.rtc.Young run.world.rtc.contextTicks 3 minAlarmDelay

instance (run : MacroRun ι) : ∀ event, Decidable (macroFits run event)
  | .pass _ | .callbackEnds => .isTrue trivial
  | .init _ => inferInstanceAs (Decidable (_ = _))
  | .setValue _ _ | .start _ => inferInstanceAs (Decidable (_ ∧ _))
  | .stop timer => inferInstanceAs (Decidable ((CallPoint.stop timer false).Fits run.world))
  | .alarm => inferInstanceAs (Decidable (_ → _))
  | .expire => inferInstanceAs (Decidable (_ → _))

/-! ## The invariant -/

/-- The ticks of the RTC for a value. -/
def macroTicks (value : ℕ) : ℕ :=
  value * 1024 / 1000

/-- Until when a timer waits that was started, if nothing is late: at least for
the shortest alarm, and a stop may have postponed it. -/
def waitsUntil (value start stopped : ℕ) : ℕ :=
  max (start + max minAlarmDelay (macroTicks value)) stopped

/-- When the macros call back: the value has elapsed, to one tick; an alarm may
be moved by the shortest one, and the timers take their time three times. -/
def macroTiming (lateness : Lateness) : Timing where
  earliest value start := start + leastTicks 1024 value
  latest value start stopped := waitsUntil value start stopped + minAlarmDelay + 3 * lateness.late

/-- The macros call back when the value has elapsed, to one tick, and at any time
from then on. -/
def macroAnyTime (now : ℕ) : Timing where
  earliest value start := start + leastTicks 1024 value
  latest _ _ _ := now

/-- The times at which these macros call back. -/
def MacroRun.timing (run : MacroRun ι) : Timing :=
  macroTiming run.lateness

/-- Until when a timer waits, as the record has it. -/
def waitLimit (log : List (Entry ι)) (timer : ι) : ℕ :=
  (pending timer log).elim 0 fun waits => waitsUntil waits.2 waits.1 (lastStop log)

/-- A timer, as the record has it; it runs while it is started. -/
structure Tracked (world : TimerWorld ι) (due : ι → ℕ) (log : List (Entry ι)) (timer : ι) :
    Prop where
  mode : (world.settings timer).mode = .oneshot
  value : ∀ value ∈ lastValue timer log, (world.settings timer).reloadValue = macroTicks value
  running : (world.settings timer).isRunning = true → ∃ start value,
    pending timer log = some (start, value) ∧ start + leastTicks 1024 value ≤ due timer
  stopped : (world.settings timer).isRunning = false → pending timer log = none

/-- No callback was late, and no timer is. -/
structure InTime (lateness : Lateness) (run : MacroRun ι) (timers : List ι) : Prop where
  lawful : Lawful (macroTiming lateness) run.log
  punctual : Punctual run.phase.serving (waitLimit run.log) lateness.late run.world timers
  waiting : ∀ timer ∈ timers,
    lateness.idle ≤ waitLimit run.log timer + minAlarmDelay + 2 * lateness.late

/-- The timers of the list are those of the record; they are in time if the
alarms were armed promptly. -/
structure Recorded (lateness : Lateness) (run : MacroRun ι) (due : ι → ℕ) (timers : List ι) :
    Prop where
  timed : Timed due run.world timers
  watched : ∀ head ∈ timers.head?, Watched run.phase.serving run.world head
  tracked : ∀ timer, Tracked run.world due run.log timer
  stopped : lastStop run.log ≤ run.world.rtc.ticks
  lawful : Lawful (macroAnyTime run.world.rtc.ticks) run.log
  inTime : run.world.rtc.slowest < minAlarmDelay → InTime lateness run timers

/-- The invariant of the macros. -/
structure MacroKept (run : MacroRun ι) : Prop where
  past : run.lateness.idle ≤ run.world.rtc.ticks
  timely : run.world.rtc.ticks ≤ run.lateness.idle + run.lateness.late
  recorded : ∃ due timers, Recorded run.lateness run due timers

variable {run : MacroRun ι} {world final : TimerWorld ι} {due due' : ι → ℕ} {timers : List ι}
  {timer : ι} {entry : Entry ι} {log : List (Entry ι)} {lateness : Lateness} {late : ℕ}

/-! ## The record -/

omit [Fintype ι] in
theorem waitLimit_started {value start : ℕ} (waits : pending timer log = some (start, value)) :
    waitLimit log timer = waitsUntil value start (lastStop log) := by
  rw [waitLimit, waits, Option.elim_some]

omit [Fintype ι] in
/-- An action on another timer postpones none, but a stop may. -/
theorem waitLimit_cons (elsewhere : entry.action.changes ≠ some timer)
    (not_stop : ∀ other, entry.action ≠ .stop other) :
    waitLimit (entry :: log) timer = waitLimit log timer := by
  rw [waitLimit, pending_cons_other elsewhere, lastStop_cons not_stop, waitLimit]

omit [Fintype ι] in
theorem Tracked.congr (tracked : Tracked world due log timer)
    (settings : final.settings timer = world.settings timer) (same : due' timer = due timer) :
    Tracked final due' log timer := by
  constructor
  · rw [settings]
    exact tracked.mode
  · rw [settings]
    exact tracked.value
  · rw [settings, same]
    exact tracked.running
  · rw [settings]
    exact tracked.stopped

omit [Fintype ι] in
/-- Nothing changes for another timer. -/
theorem Tracked.other (tracked : Tracked world due log timer)
    (settings : final.settings timer = world.settings timer) (same : due' timer = due timer)
    (elsewhere : entry.action.changes ≠ some timer) :
    Tracked final due' (entry :: log) timer := by
  have still : Tracked final due' log timer := tracked.congr settings same
  constructor
  · exact still.mode
  · rw [lastValue_cons_other elsewhere]
    exact still.value
  · rw [pending_cons_other elsewhere]
    exact still.running
  · rw [pending_cons_other elsewhere]
    exact still.stopped

omit [Fintype ι] in
/-- An action that ends a timer, and leaves the others. -/
theorem tracked_ended (tracked : ∀ other, Tracked world due log other)
    {object : UtilTimerObject ι}
    (settings : final.settings = Function.update world.settings timer object)
    (self : entry.action.changes = some timer) (not_start : entry.action ≠ .start timer)
    (mode : object.mode = .oneshot) (ended : object.isRunning = false)
    (value : ∀ value ∈ lastValue timer (entry :: log), object.reloadValue = macroTicks value)
    (other : ι) : Tracked final due (entry :: log) other := by
  by_cases here : other = timer
  · subst here
    have shown : final.settings other = object := by
      rw [settings, Function.update_self]
    constructor
    · rw [shown]
      exact mode
    · rw [shown]
      exact value
    · rw [shown, ended]
      rintro ⟨⟩
    · exact fun _ => pending_cons_self self not_start
  · apply (tracked other).other _ rfl
    · rw [self]
      exact fun same => here (Option.some.inj same).symm
    · rw [settings, Function.update_of_ne here]

omit [Fintype ι] in
/-- A start, when a value is set. -/
theorem tracked_start (tracked : ∀ other, Tracked world due log other)
    (settings : final.settings = world.switched timer true)
    (set : (lastValue timer log).isSome = true) (other : ι) :
    Tracked final (startedDue due world timer) (⟨world.rtc.ticks, .start timer⟩ :: log)
      other := by
  by_cases here : other = timer
  · subst here
    rcases Option.isSome_iff_exists.mp set with ⟨value, last⟩
    have ticks : (world.objects other).reloadValue = macroTicks value :=
      (tracked other).value value last
    have shown : final.settings other = { world.settings other with isRunning := true } := by
      rw [settings, TimerWorld.switched, Function.update_self]
    constructor
    · rw [shown]
      exact (tracked other).mode
    · rw [shown]
      exact (tracked other).value
    · intro _
      refine ⟨world.rtc.ticks, value, ?_, ?_⟩
      · rw [pending_start, last]
        rfl
      · rw [startedDue, Function.update_self, ticks]
        exact Nat.add_le_add_left (leastTicks_le 1024 value) _
    · rw [shown]
      rintro ⟨⟩
  · apply (tracked other).other
    · rw [settings, TimerWorld.switched, Function.update_of_ne here]
    · rw [startedDue, Function.update_of_ne here]
    · exact fun same => here (Option.some.inj same).symm

omit [Fintype ι] in
/-- A timer runs while it is started. -/
theorem Tracked.isRunning_eq (tracked : Tracked world due log timer) :
    (world.objects timer).isRunning = (pending timer log).isSome := by
  cases running : (world.objects timer).isRunning with
  | true =>
      rcases tracked.running running with ⟨start, value, waits, -⟩
      rw [waits]
      rfl
  | false =>
      rw [tracked.stopped running]
      rfl

omit [Fintype ι] in
/-- A timer of the list is started. -/
theorem Recorded.started (recorded : Recorded lateness run due timers) (mem : timer ∈ timers) :
    ∃ start value, pending timer run.log = some (start, value) ∧
      start + leastTicks 1024 value ≤ due timer :=
  (recorded.tracked timer).running ((recorded.timed.linked.running timer).mpr mem)

omit [Fintype ι] in
/-- What was recorded is lawful at any later time. -/
theorem Recorded.lawful_at (recorded : Recorded lateness run due timers) {now : ℕ}
    (later : run.world.rtc.ticks ≤ now) : Lawful (macroAnyTime now) run.log :=
  recorded.lawful.mono (fun _ _ => Nat.le_refl _) fun _ _ _ => later

omit [Fintype ι] in
/-- What is in time is in time if more is late. -/
theorem InTime.mono (inTime : InTime lateness run timers) (more : lateness.late ≤ late) :
    InTime ⟨lateness.idle, late⟩ run timers := by
  constructor
  · refine inTime.lawful.mono (fun _ _ => Nat.le_refl _) fun value start stopped => ?_
    exact Nat.add_le_add_left (Nat.mul_le_mul_left 3 more) _
  · exact inTime.punctual.mono (fun _ _ => Nat.le_refl _) more
  · intro timer mem
    exact (inTime.waiting timer mem).trans
      (Nat.add_le_add_left (Nat.mul_le_mul_left 2 more) _)

omit [Fintype ι] in
theorem Recorded.mono (recorded : Recorded lateness run due timers) (more : lateness.late ≤ late) :
    Recorded ⟨lateness.idle, late⟩ run due timers :=
  { recorded with inTime := fun prompt => (recorded.inTime prompt).mono more }

omit [Fintype ι] in
/-- Nothing that is recorded changes when a run is observed. -/
theorem Recorded.observed (recorded : Recorded lateness run due timers) (event : MacroEvent ι) :
    Recorded lateness (run.observed event) due timers := by
  refine ⟨recorded.timed, recorded.watched, recorded.tracked, recorded.stopped, recorded.lawful,
    fun prompt => ?_⟩
  have inTime := recorded.inTime prompt
  exact ⟨inTime.lawful, inTime.punctual, inTime.waiting⟩

/-- What a call keeps until it is observed. -/
structure Unobserved (run final : MacroRun ι) : Prop where
  lateness : final.lateness = run.lateness
  later : run.world.rtc.ticks ≤ final.world.rtc.ticks
  recorded : ∀ late, run.lateness.late ≤ late →
    final.world.rtc.ticks ≤ run.lateness.idle + late →
      ∃ due timers, Recorded ⟨run.lateness.idle, late⟩ final due timers

omit [Fintype ι] in
theorem Unobserved.observed {final : MacroRun ι} (unobserved : Unobserved run final)
    (kept : MacroKept run) {event : MacroEvent ι} (busy : final.busy event = true) :
    MacroKept (final.observed event) := by
  have shown : (final.observed event).lateness = ⟨run.lateness.idle,
      max run.lateness.late (final.world.rtc.ticks - run.lateness.idle)⟩ := by
    rw [MacroRun.observed, busy, unobserved.lateness]
    rfl
  have past := kept.past.trans unobserved.later
  have longest := Nat.le_max_right run.lateness.late
    (final.world.rtc.ticks - run.lateness.idle)
  have timely : final.world.rtc.ticks ≤ run.lateness.idle +
      max run.lateness.late (final.world.rtc.ticks - run.lateness.idle) := by
    omega
  constructor
  · rw [shown]
    exact past
  · rw [shown]
    exact timely
  · rw [shown]
    rcases unobserved.recorded _ (Nat.le_max_left _ _) timely with ⟨due, timers, recorded⟩
    exact ⟨due, timers, recorded.observed event⟩

/-! ## Calls on a timer that does not run -/

omit [Fintype ι] in
/-- A change of a timer that is not in the list. -/
theorem Recorded.aside (recorded : Recorded lateness run due timers) (fresh : timer ∉ timers)
    {action : Action ι} (linked : Linked world timers) (rtc : world.rtc = run.world.rtc)
    (objects : ∀ other ∈ timers, world.objects other = run.world.objects other)
    (self : action.changes = some timer) (not_stop : ∀ other, action ≠ .stop other)
    (allowed : ∀ timing, Entry.Allowed timing run.log ⟨world.rtc.ticks, action⟩)
    (tracked : ∀ other, Tracked world due (⟨world.rtc.ticks, action⟩ :: run.log) other) :
    Recorded lateness ({ run with world }.noted action) due timers := by
  have elsewhere : ∀ other ∈ timers, action.changes ≠ some other := by
    rintro other mem same
    rw [self] at same
    cases same
    exact fresh mem
  constructor
  · refine recorded.timed.of_timing linked (fun _ => id) (fun _ => id) rtc ?_ ?_
    · exact fun other mem => congrArg UtilTimerObject.timestamp (objects other mem)
    · exact fun other mem => congrArg UtilTimerObject.isPending (objects other mem)
  · intro head first
    have same := objects head (List.mem_of_head? first)
    refine (recorded.watched head first).congr (congrArg _ same) (congrArg _ same) fun armed => ?_
    change world.rtc.Armed (world.deadline head)
    rw [TimerWorld.deadline, rtc, same]
    exact armed
  · exact tracked
  · change lastStop (⟨world.rtc.ticks, action⟩ :: run.log) ≤ world.rtc.ticks
    rw [lastStop_cons not_stop, rtc]
    exact recorded.stopped
  · refine Lawful.cons (recorded.lawful_at ?_) (allowed _)
    change run.world.rtc.ticks ≤ world.rtc.ticks
    rw [rtc]
  · intro prompt
    change world.rtc.slowest < minAlarmDelay at prompt
    rw [rtc] at prompt
    have inTime := recorded.inTime prompt
    have limit : ∀ other ∈ timers,
        waitLimit run.log other = waitLimit (⟨world.rtc.ticks, action⟩ :: run.log) other :=
      fun other mem => (waitLimit_cons (elsewhere other mem) not_stop).symm
    refine ⟨inTime.lawful.cons (allowed _), ?_, fun other mem => ?_⟩
    · exact (inTime.punctual.congr objects rtc).mono (fun other mem => (limit other mem).le)
        (Nat.le_refl _)
    · refine (inTime.waiting other mem).trans ?_
      rw [limit other mem]
      exact Nat.le_refl _

omit [Fintype ι] in
/-- A timer that does not run is created without the server. -/
theorem wp_timerInit (linked : Linked world timers) (fresh : timer ∉ timers) :
    wp (timerInit timer) (fun _ final => Linked final timers ∧ final.rtc = world.rtc ∧
      (∀ other ∈ timers, final.objects other = world.objects other) ∧
      final.settings = Function.update world.settings timer
        ⟨0, gnseRtcConvertMs2Tick timertimeTMax, false, false, false, .oneshot, none⟩) world := by
  have settings : wlp (timerInit timer) (fun _ final =>
      final.settings = Function.update world.settings timer
        ⟨0, gnseRtcConvertMs2Tick timertimeTMax, false, false, false, .oneshot, none⟩) world := by
    apply wlp_modify
    rw [update_settings]
    rfl
  refine wp_mono (wp_and_wlp (wp_and (wp_utilTimerCreate_idle linked fresh timertimeTMax .oneshot)
    (wp_utilTimerCreate timer timertimeTMax .oneshot)) settings) ?_
  rintro _ final ⟨⟨linked, created⟩, settings⟩
  refine ⟨linked, created.rtc, fun other mem => ?_, settings⟩
  apply created.others
  rintro rfl
  exact fresh mem

theorem MacroKept.init (kept : MacroKept run) (fits : macroFits run (.init timer)) :
    wp (macroEvent (.init timer)) (fun _ final => Unobserved run final) run := by
  rcases kept.recorded with ⟨due, timers, recorded⟩
  have fresh := recorded.timed.linked.not_mem fits
  rw [macroEvent, wp_bind, onServer, wp_zoom]
  refine wp_mono (wp_timerInit recorded.timed.linked fresh) ?_
  rintro _ world ⟨linked, rtc, objects, settings⟩
  rw [wp_modify]
  refine ⟨rfl, ?_, fun late more _ => ⟨due, timers, ?_⟩⟩
  · change run.world.rtc.ticks ≤ world.rtc.ticks
    rw [rtc]
  · refine (recorded.mono more).aside fresh linked rtc objects rfl ?_ (fun _ => trivial) ?_
    · rintro other ⟨⟩
    · apply tracked_ended recorded.tracked settings
      · rfl
      · rintro ⟨⟩
      · rfl
      · rfl
      · rw [lastValue_init]
        rintro value ⟨⟩

theorem MacroKept.setValue (kept : MacroKept run) {timeout : UInt32}
    (fits : macroFits run (.setValue timer timeout)) :
    wp (macroEvent (.setValue timer timeout)) (fun _ final => Unobserved run final) run := by
  rcases fits with ⟨idle, ticksFit⟩
  rcases kept.recorded with ⟨due, timers, recorded⟩
  have linked := recorded.timed.linked
  have fresh := linked.not_mem idle
  rw [macroEvent, wp_bind, onServer, wp_zoom, timerSetValue, wp_bind]
  refine wp_mono (wp_utilTimerSetPeriod_unlinked linked fresh timeout.toNat) ?_
  rintro status world rfl
  rw [wp_pure, wp_modify]
  have settings : (run.world.withReload timer timeout.toNat).settings =
      Function.update run.world.settings timer { run.world.settings timer with
        reloadValue := gnseRtcConvertMs2Tick timeout.toNat } := by
    rw [TimerWorld.withReload, update_settings]
    rfl
  refine ⟨rfl, Nat.le_refl _, fun late more _ => ⟨due, timers, ?_⟩⟩
  refine (recorded.mono more).aside fresh (linked.withReload timer timeout.toNat) rfl ?_ rfl ?_
    (fun _ => trivial) ?_
  · intro other mem
    apply withReload_other
    rintro rfl
    exact fresh mem
  · rintro other ⟨⟩
  · apply tracked_ended recorded.tracked settings
    · rfl
    · rintro ⟨⟩
    · exact (recorded.tracked timer).mode
    · exact idle
    · rw [lastValue_setValue]
      rintro value ⟨⟩
      exact gnseRtcConvertMs2Tick_eq ticksFit

/-! ## Starts and stops -/

/-- The start of a timer that does not run. -/
theorem wp_timerStart {serving : Bool} (timed : Timed due world timers)
    (watched : ∀ head ∈ timers.head?, Watched serving world head)
    (idle : (world.objects timer).isRunning = false) (young : world.StartsYoung timer) :
    wp (timerStart timer) (fun _ final =>
      KeptStarted serving (startedDue due world timer) world timers timer final ∧
      final.settings = world.switched timer true) world := by
  have fresh := timed.linked.not_mem idle
  rw [timerStart, wp_bind, wp_utilTimerStart_iff, wp_bind, utilTimerStartCheck, wp_bind]
  apply wp_timerExists timed.linked.chains
  rw [wp_bind, wp_getObject, wp_pure, if_pos (by simpa [idle] using fresh), wp_bind]
  refine wp_mono (wp_and_wlp (wp_utilTimerStartSection timed watched fresh young)
    (wlp_utilTimerStartSection timer)) fun _ final started => ?_
  rw [wp_pure, wp_pure]
  exact started

theorem MacroKept.start (kept : MacroKept run) (fits : macroFits run (.start timer)) :
    wp (macroEvent (.start timer)) (fun _ final => Unobserved run final) run := by
  rcases fits with ⟨idle, set, young⟩
  rcases kept.recorded with ⟨due, timers, recorded⟩
  have fresh := recorded.timed.linked.not_mem idle
  rcases Option.isSome_iff_exists.mp set with ⟨value, last⟩
  have reload : (run.world.objects timer).reloadValue = macroTicks value :=
    (recorded.tracked timer).value value last
  rw [macroEvent, wp_bind, wp_modify, onServer, wp_zoom]
  refine wp_mono (wp_timerStart recorded.timed recorded.watched idle young) ?_
  rintro _ world ⟨⟨middle, begun, timers', joined, timed, watched⟩, settings⟩
  have later := begun.ticks.trans joined.ticks
  refine ⟨rfl, later, fun late more brief =>
    ⟨startedDue due run.world timer, timers', timed, watched,
      tracked_start recorded.tracked settings set, recorded.stopped.trans later,
      (recorded.lawful_at later).cons trivial, fun prompt => ?_⟩⟩
  have past := kept.past
  have before : run.world.rtc.slowest < minAlarmDelay :=
    begun.slowest.ge.trans_lt (joined.slowest.trans_lt prompt)
  have inTime := (recorded.inTime before).mono more
  have waits : pending timer (⟨run.world.rtc.ticks, .start timer⟩ :: run.log) =
      some (run.world.rtc.ticks, value) := by
    rw [pending_start, last]
    rfl
  have limit := waitLimit_started waits
  have unchanged : ∀ other ∈ timers, waitLimit run.log other =
      waitLimit (⟨run.world.rtc.ticks, .start timer⟩ :: run.log) other := by
    intro other mem
    refine (waitLimit_cons ?_ (by rintro _ ⟨⟩)).symm
    rintro ⟨⟩
    exact fresh mem
  have started : run.world.rtc.ticks + max minAlarmDelay (run.world.objects timer).reloadValue ≤
      waitLimit (⟨run.world.rtc.ticks, .start timer⟩ :: run.log) timer := by
    rw [limit, reload]
    exact Nat.le_max_left _ _
  constructor
  · exact inTime.lawful.cons trivial
  · refine (inTime.punctual.mono (fun other mem => (unchanged other mem).le)
      (Nat.le_refl _)).started recorded.timed recorded.watched before fresh begun joined ?_
      started
    change world.rtc.ticks ≤ run.world.rtc.ticks + late
    change world.rtc.ticks ≤ run.lateness.idle + late at brief
    linarith
  · intro other mem
    change _ ≤ waitLimit (⟨run.world.rtc.ticks, .start timer⟩ :: run.log) other + _ + _
    rcases joined.members other mem with rfl | mem
    · change run.lateness.idle ≤ _
      linarith [Nat.le_max_left minAlarmDelay (run.world.objects other).reloadValue]
    · rw [← unchanged other mem]
      exact inTime.waiting other mem

/-- The stop of a timer, which has ended then. -/
theorem wp_timerStop {serving : Bool} (timed : Timed due world timers)
    (watched : ∀ head ∈ timers.head?, Watched serving world head)
    (fits : (CallPoint.stop timer false).Fits world) :
    wp (timerStop timer) (fun _ final => KeptLeft serving due world timers timer final ∧
      final.settings = world.switched timer false) world := by
  have head := timed.linked.chains.head_eq
  rw [timerStop, wp_bind]
  refine wp_mono (wp_and_wlp (wp_utilTimerStop_kept timed watched (timed.young_of_stop fits))
    (wlp_utilTimerStop timer)) ?_
  rintro _ final ⟨left, settings⟩
  rw [wp_pure]
  refine ⟨left, ?_⟩
  rw [settings]
  split_ifs with empty
  · -- Nothing runs in an empty list.
    have idle : (world.settings timer).isRunning = false := by
      rw [head] at empty
      obtain rfl := List.head?_eq_none_iff.mp empty
      exact Bool.eq_false_iff.mpr fun running =>
        absurd ((timed.linked.running timer).mp running) List.not_mem_nil
    rw [TimerWorld.switched, ← idle]
    exact (Function.update_eq_self timer world.settings).symm
  · rfl

theorem MacroKept.stop (kept : MacroKept run) (fits : macroFits run (.stop timer)) :
    wp (macroEvent (.stop timer)) (fun _ final => Unobserved run final) run := by
  rcases kept.recorded with ⟨due, timers, recorded⟩
  rw [macroEvent, wp_bind, onServer, wp_zoom]
  refine wp_mono (wp_timerStop recorded.timed recorded.watched fits) ?_
  rintro _ world ⟨⟨timers', left, timed, watched⟩, settings⟩
  rw [wp_modify]
  refine ⟨rfl, left.ticks, fun late more brief => ⟨due, timers', timed, watched, ?_,
    Nat.le_refl _, (recorded.lawful_at left.ticks).cons trivial, fun prompt => ?_⟩⟩
  · apply tracked_ended recorded.tracked settings
    · rfl
    · rintro ⟨⟩
    · exact (recorded.tracked timer).mode
    · rfl
    · exact (recorded.tracked timer).value
  · have inTime := (recorded.inTime (left.slowest.trans_lt prompt)).mono more
    have ended : (world.objects timer).isRunning = false := by
      change (world.settings timer).isRunning = false
      rw [settings, TimerWorld.switched, Function.update_self]
    have raised : ∀ other ∈ timers', waitLimit run.log other ≤
          waitLimit (⟨world.rtc.ticks, .stop timer⟩ :: run.log) other ∧
        world.rtc.ticks ≤ waitLimit (⟨world.rtc.ticks, .stop timer⟩ :: run.log) other := by
      intro other mem
      have different : Action.changes (.stop timer) ≠ some other := by
        rintro ⟨⟩
        exact timed.linked.not_mem ended mem
      rcases recorded.started (left.members other mem) with ⟨start, value, waits, -⟩
      have waits' : pending other (⟨world.rtc.ticks, .stop timer⟩ :: run.log) =
          some (start, value) := (pending_cons_other different).trans waits
      rw [waitLimit_started waits, waitLimit_started waits']
      constructor
      · exact max_le_max (Nat.le_refl _) (recorded.stopped.trans left.ticks)
      · exact Nat.le_max_right _ _
    constructor
    · exact inTime.lawful.cons trivial
    · exact inTime.punctual.stopped recorded.timed left raised
    · intro other mem
      have waiting := inTime.waiting other (left.members other mem)
      have more := (raised other mem).1
      change _ ≤ waitLimit (⟨world.rtc.ticks, .stop timer⟩ :: run.log) other + _ + _
      linarith

/-! ## The alarm interrupt -/

theorem MacroKept.alarm (kept : MacroKept run) (enabled : macroEnabled run .alarm)
    (fits : macroFits run .alarm) :
    wp (macroEvent .alarm) (fun _ final => Unobserved run final) run := by
  rcases enabled with ⟨thread, flag⟩
  rcases kept.recorded with ⟨due, timers, recorded⟩
  have watched := recorded.watched
  rw [thread] at watched
  have keeps : Keeps TimerWorld.settings (halRtcAlarmIrqHandler : Prog (TimerWorld ι) Unit) :=
    (keeps_modifyRtc _).bind fun _ => keeps_irqEnter
  rw [macroEvent, wp_bind, onServer, wp_zoom]
  refine wp_mono (wp_and_wlp (wp_halRtcAlarmIrqHandler_kept recorded.timed watched fits)
    (keeps _)) ?_
  rintro _ world ⟨⟨entered, timed, watched'⟩, settings⟩
  have later : run.world.rtc.ticks ≤ world.rtc.ticks := by
    rw [entered.ticks]
    exact run.world.rtc.ticks_le_ticksAfter 1
  rw [wp_modify]
  refine ⟨rfl, later, fun late more brief => ⟨due, timers, timed, watched',
    fun timer => (recorded.tracked timer).congr (congrFun settings timer) rfl,
    recorded.stopped.trans later, recorded.lawful_at later, fun prompt => ?_⟩⟩
  have inTime := (recorded.inTime (entered.slowest.ge.trans_lt prompt)).mono more
  have punctual := inTime.punctual
  rw [thread] at punctual
  exact ⟨inTime.lawful, punctual.entered entered flag watched, inTime.waiting⟩

/-- The timer that is called back was started, and is due, but not for long. -/
theorem MacroKept.expire (kept : MacroKept run) (expiring : run.phase = .expiring)
    (fits : macroFits run .expire) :
    wp (macroEvent .expire) (fun _ final => Unobserved run final) run := by
  rcases kept.recorded with ⟨due, timers, recorded⟩
  have watched := recorded.watched
  rw [expiring] at watched
  rw [macroEvent, wp_bind, onServer, wp_zoom]
  refine wp_mono (wp_and_wlp (wp_expire_kept recorded.timed watched fits) wlp_utilTimerIrqNext) ?_
  rintro expired world ⟨⟨⟨timers', tested, timed, watched'⟩, due_before⟩, settings, -⟩
  rw [wp_modify]
  have later := tested.ticks
  have punctual_of : ∀ late, run.lateness.late ≤ late →
      world.rtc.ticks ≤ run.lateness.idle + late → world.rtc.slowest < minAlarmDelay →
        InTime ⟨run.lateness.idle, late⟩ run timers ∧
          Punctual expired.isSome (waitLimit run.log) late world timers' := by
    intro late more brief prompt
    have before := tested.slowest.trans_lt prompt
    have inTime := (recorded.inTime before).mono more
    have punctual := inTime.punctual
    rw [expiring] at punctual
    refine ⟨inTime, punctual.tested recorded.timed watched before tested ?_⟩
    have past := kept.past
    change world.rtc.ticks ≤ run.world.rtc.ticks + late
    linarith
  cases expired with
  | none =>
      refine ⟨rfl, later, fun late more brief => ⟨due, timers', timed, watched',
        fun timer => (recorded.tracked timer).congr (congrFun settings timer) rfl,
        recorded.stopped.trans later, recorded.lawful_at later, fun prompt => ?_⟩⟩
      rcases punctual_of late more brief prompt with ⟨inTime, punctual⟩
      exact ⟨inTime.lawful, punctual,
        fun other mem => inTime.waiting other (tested.members other mem)⟩
  | some cur =>
      have mem : cur ∈ timers := by
        cases tested with
        | unlinked _ rest split =>
            rw [split]
            exact List.mem_cons_self
      rcases recorded.started mem with ⟨start, value, waits, after⟩
      have ended : (world.objects cur).isRunning = false := by
        change (world.settings cur).isRunning = false
        rw [settings]
        change (run.world.switched cur false cur).isRunning = false
        rw [TimerWorld.switched, Function.update_self]
      have in_time := after.trans (due_before cur rfl)
      refine ⟨rfl, later, fun late more brief => ⟨due, timers', timed, watched', ?_,
        recorded.stopped.trans later, (recorded.lawful_at later).cons
          ⟨start, value, waits, in_time, Nat.le_refl _⟩, fun prompt => ?_⟩⟩
      · apply tracked_ended recorded.tracked settings
        · rfl
        · rintro ⟨⟩
        · exact (recorded.tracked cur).mode
        · rfl
        · exact (recorded.tracked cur).value
      · rcases punctual_of late more brief prompt with ⟨inTime, punctual⟩
        have unchanged : ∀ other ∈ timers', waitLimit run.log other =
            waitLimit (⟨world.rtc.ticks, .callback cur⟩ :: run.log) other := by
          intro other mem
          refine (waitLimit_cons ?_ (by rintro _ ⟨⟩)).symm
          rintro ⟨⟩
          exact timed.linked.not_mem ended mem
        constructor
        · refine inTime.lawful.cons ⟨start, value, waits, in_time, ?_⟩
          have waiting := inTime.waiting cur mem
          rw [waitLimit_started waits] at waiting
          change world.rtc.ticks ≤
            waitsUntil value start (lastStop run.log) + minAlarmDelay + 3 * late
          change world.rtc.ticks ≤ run.lateness.idle + late at brief
          change run.lateness.idle ≤ _ + _ + 2 * late at waiting
          linarith
        · exact punctual.mono (fun other mem => (unchanged other mem).le) (Nat.le_refl _)
        · intro other mem
          change _ ≤ waitLimit (⟨world.rtc.ticks, .callback cur⟩ :: run.log) other + _ + _
          rw [← unchanged other mem]
          exact inTime.waiting other (tested.members other mem)

/-- A one-shot timer is not started again. -/
theorem MacroKept.callbackEnds (kept : MacroKept run) {cur : ι}
    (callback : run.phase = .callback cur) :
    wp (macroEvent .callbackEnds) (fun _ final => Unobserved run final) run := by
  rcases kept.recorded with ⟨due, timers, recorded⟩
  have oneshot : ¬ ((run.world.objects cur).mode = .periodic ∧
      (run.world.objects cur).isReloadStopped = false) := by
    rintro ⟨periodic, -⟩
    have mode : (run.world.objects cur).mode = .oneshot := (recorded.tracked cur).mode
    rw [mode] at periodic
    cases periodic
  have serving : run.phase.serving = TimerPhase.serving (.expiring : TimerPhase ι) := by
    rw [callback]
    rfl
  rw [macroEvent, wp_bind, wp_gets, id, macroCallbackEnds, callback]
  change wp (onServer _ >>= _) _ run
  rw [wp_bind, onServer, wp_zoom, utilTimerIrqReload, wp_bind, wp_getObject, if_neg oneshot]
  rw [wp_pure, wp_modify]
  refine ⟨rfl, Nat.le_refl _, fun late more _ => ⟨due, timers, recorded.timed, ?_,
    recorded.tracked, recorded.stopped, recorded.lawful, fun prompt => ?_⟩⟩
  · have watched := recorded.watched
    rw [serving] at watched
    exact watched
  · have inTime := (recorded.inTime prompt).mono more
    have punctual := inTime.punctual
    rw [serving] at punctual
    exact ⟨inTime.lawful, punctual, inTime.waiting⟩

/-! ## Runs -/

omit [Fintype ι] in
/-- The alarm of the first timer waits while time passes. -/
theorem Recorded.passed (recorded : Recorded lateness run due timers) (count : ℕ) :
    Recorded lateness { run with world := run.world.withRtc (run.world.rtc.pass count) } due
      timers := by
  have later : run.world.rtc.ticks ≤ (run.world.rtc.pass count).ticks := Nat.le_add_right _ _
  have linked : Linked (run.world.withRtc (run.world.rtc.pass count)) timers :=
    recorded.timed.linked.congr rfl (fun _ => rfl) fun _ => rfl
  constructor
  · exact ⟨linked, recorded.timed.exact.pass count, recorded.timed.due, recorded.timed.fits,
      recorded.timed.waiting⟩
  · intro head first
    refine (recorded.watched head first).congr rfl rfl fun armed => ?_
    exact armed.pass (recorded.timed.near (List.mem_of_head? first)) count
  · exact fun timer => (recorded.tracked timer).congr rfl rfl
  · exact recorded.stopped.trans later
  · exact recorded.lawful_at later
  · intro prompt
    have inTime := recorded.inTime prompt
    exact ⟨inTime.lawful, inTime.punctual.passed recorded.timed recorded.watched prompt
      (fun _ _ => rfl) rfl rfl rfl, inTime.waiting⟩

omit [Fintype ι] in
/-- When nothing is at work, every timer is waiting for its time. -/
theorem Recorded.rested (recorded : Recorded lateness run due timers)
    (thread : run.phase.serving = false) (quiet : run.world.rtc.alarmFlag = false) :
    Recorded ⟨run.world.rtc.ticks, lateness.late⟩ run due timers := by
  refine { recorded with inTime := fun prompt => ?_ }
  have inTime := recorded.inTime prompt
  have punctual := inTime.punctual
  have watched := recorded.watched
  rw [thread] at punctual watched
  refine ⟨inTime.lawful, inTime.punctual, fun timer mem => ?_⟩
  exact (punctual.ahead watched quiet prompt mem).le

/-- Time passes; what waits is served later, or nothing does. -/
theorem MacroKept.pass (kept : MacroKept run) (count : ℕ) :
    wp (macroStep (.pass count)) (fun _ final => MacroKept final) run := by
  rcases kept.recorded with ⟨due, timers, recorded⟩
  rw [macroStep, wp_bind, macroEvent, onServer, wp_zoom, wp_modifyRtc, wp_modify]
  have passed := recorded.passed count
  have later : run.world.rtc.ticks ≤ (run.world.rtc.pass count).ticks := Nat.le_add_right _ _
  generalize final_eq : ({ run with
    world := run.world.withRtc (run.world.rtc.pass count) } : MacroRun ι) = final at passed ⊢
  have same : final.lateness = run.lateness := by rw [← final_eq]
  cases busy : final.busy (.pass count) with
  | true =>
      have unobserved : Unobserved run final := by
        refine ⟨same, ?_, fun late more _ => ⟨due, timers, passed.mono more⟩⟩
        rw [← final_eq]
        exact later
      exact unobserved.observed kept busy
  | false =>
      rcases Bool.or_eq_false_iff.mp busy with ⟨quiet, thread⟩
      have shown : (final.observed (.pass count)).lateness =
          ⟨final.world.rtc.ticks, run.lateness.late⟩ := by
        rw [MacroRun.observed, busy, Lateness.observe_idle, same]
      constructor
      · rw [shown]
        exact Nat.le_refl _
      · rw [shown]
        exact Nat.le_add_right _ _
      · rw [shown]
        exact ⟨due, timers, (passed.rested thread quiet).observed _⟩

/-- A step that fits keeps the invariant. -/
theorem MacroKept.step (kept : MacroKept run) {event : MacroEvent ι}
    (enabled : macroMachine.enabled run event) (fits : macroFits run event) :
    wp (macroMachine.step event) (fun _ final => MacroKept final) run := by
  have observed : (∀ final : MacroRun ι, final.busy event = true) →
      wp (macroEvent event) (fun _ final => Unobserved run final) run →
        wp (macroStep event) (fun _ final => MacroKept final) run := by
    intro busy done
    rw [macroStep, wp_bind]
    refine wp_mono done fun _ final unobserved => ?_
    rw [wp_modify]
    exact unobserved.observed kept (busy final)
  cases event with
  | pass count => exact kept.pass count
  | init timer => exact observed (fun _ => rfl) (kept.init fits)
  | setValue timer timeout => exact observed (fun _ => rfl) (kept.setValue fits)
  | start timer => exact observed (fun _ => rfl) (kept.start fits)
  | stop timer => exact observed (fun _ => rfl) (kept.stop fits)
  | alarm => exact observed (fun _ => rfl) (kept.alarm enabled fits)
  | expire => exact observed (fun _ => rfl) (kept.expire enabled fits)
  | callbackEnds =>
      cases phase : run.phase with
      | thread | expiring =>
          change run.phase.cur ≠ none at enabled
          rw [phase] at enabled
          exact absurd rfl enabled
      | callback cur => exact observed (fun _ => rfl) (kept.callbackEnds phase)

omit [Fintype ι] in
theorem macroKept_boot (ticks : ℕ) (delays : ℕ → ℕ) :
    MacroKept (macroBoot ticks delays : MacroRun ι) := by
  refine ⟨Nat.le_refl _, Nat.le_refl _, fun _ => 0, [], ?_⟩
  refine ⟨timed_boot (fun _ => 0) (fun _ => .oneshot) ticks delays, ?_,
    fun timer => ⟨rfl, ?_, ?_, fun _ => rfl⟩, Nat.zero_le _, lawful_nil, fun _ => ?_⟩
  · rintro head ⟨⟩
  · rintro value ⟨⟩
  · rintro ⟨⟩
  · refine ⟨lawful_nil, ⟨.inl ⟨List.Pairwise.nil, ?_⟩, ?_⟩, ?_⟩
    · rintro timer ⟨⟩
    · rintro head ⟨⟩
    · rintro timer ⟨⟩

/-- In the runs whose steps fit, the macros keep their invariant. -/
theorem macroKept_of_reaches {ticks : ℕ} {delays : ℕ → ℕ}
    (reaches : macroMachine.Reaches macroFits (macroBoot ticks delays) run) : MacroKept run := by
  refine reaches.invariant (macroKept_boot ticks delays) ?_
  intro before event kept enabled fits
  exact kept.step enabled fits

omit [Fintype ι] in
/-- Whether a timer runs is in the record, whether or not it is in time. -/
theorem MacroKept.isRunning_eq (kept : MacroKept run) (timer : ι) :
    (run.world.objects timer).isRunning = (pending timer run.log).isSome := by
  rcases kept.recorded with ⟨due, timers, recorded⟩
  exact (recorded.tracked timer).isRunning_eq

omit [Fintype ι] in
/-- Every callback is the first one after a start, at some time from its value
on. -/
theorem MacroKept.lawful_ever (kept : MacroKept run) :
    Lawful (macroAnyTime run.world.rtc.ticks) run.log := by
  rcases kept.recorded with ⟨due, timers, recorded⟩
  exact recorded.lawful

omit [Fintype ι] in
/-- No callback was late if the alarms were armed promptly. -/
theorem MacroKept.lawful (kept : MacroKept run) (prompt : run.world.rtc.slowest < minAlarmDelay) :
    Lawful run.timing run.log := by
  rcases kept.recorded with ⟨due, timers, recorded⟩
  exact (recorded.inTime prompt).lawful

omit [Fintype ι] in
/-- No callback is overdue then. -/
theorem MacroKept.awaited (kept : MacroKept run) (prompt : run.world.rtc.slowest < minAlarmDelay)
    (timer : ι) : Awaited run.timing run.log run.world.rtc.ticks timer := by
  intro start value started
  have waits := started_iff.mp started
  rcases kept.recorded with ⟨due, timers, recorded⟩
  have mem : timer ∈ timers := by
    apply (recorded.timed.linked.running timer).mp
    rw [kept.isRunning_eq, waits]
    rfl
  have waiting := (recorded.inTime prompt).waiting timer mem
  have timely := kept.timely
  rw [waitLimit_started waits] at waiting
  change run.world.rtc.ticks ≤
    waitsUntil value start (lastStop run.log) + minAlarmDelay + 3 * run.lateness.late
  linarith

end Runs

end GenericNode.Timer
