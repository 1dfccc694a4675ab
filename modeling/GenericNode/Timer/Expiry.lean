import GenericNode.Library.Machine
import GenericNode.Timer.Sections

/-!
# Expirations of timers

The thread and the callbacks call the server, the alarm interrupt comes between
the sections of the thread's calls, and time passes.  No callback is early, and
the alarm is armed while a timer runs, in the runs where no sum of 32 bits
wraps and no callback starts the timer that the thread is about to start.
-/

namespace GenericNode.Timer

open GenericNode.Library
open GenericNode.Library.Prog
open GenericNode.Rtc

/-! ## Runs -/

/-- What runs: the thread, the loop of the interrupt handler over the expired
timers, or a callback. -/
inductive TimerPhase (ι : Type) where
  | thread
  | expiring
  | callback (cur : ι)
deriving DecidableEq, Repr

/-- A callback that ran: its timer, when it ran, and when it might. -/
structure Expiry (ι : Type) where
  timer : ι
  ticks : ℕ
  due : ℕ
deriving DecidableEq, Repr

/-- A call of `GNSE_RTC_GetTimerElapsedTime`: what it returned, and the ticks
counted then and when the reference was set. -/
structure ElapsedRead where
  elapsed : ℕ
  ticks : ℕ
  reference : ℕ
deriving DecidableEq, Repr

/-- The timers, what runs, and the calls that the thread and the callback are
in; for the record, when the timers that were started are due, the callbacks
that ran, and the elapsed times that were read. -/
structure TimerRun (ι : Type) where
  world : TimerWorld ι
  phase : TimerPhase ι
  thread : Option (CallPoint ι)
  handler : Option (CallPoint ι)
  due : ι → ℕ
  callbacks : List (Expiry ι)
  reads : List ElapsedRead

/-- Time passes, anyone reads the elapsed time, a call begins or goes on, the
alarm interrupt, the next test of its handler, and the end of a callback. -/
inductive TimerEvent (ι : Type) where
  | pass (count : ℕ)
  | read
  | call (call : TimerCall ι)
  | next
  | alarm
  | expire
  | callbackEnds
deriving DecidableEq, Repr

section Runs

variable {ι : Type}

/-- The call of the context that runs. -/
def TimerRun.point (run : TimerRun ι) : Option (CallPoint ι) :=
  match run.phase with
  | .thread => run.thread
  | .expiring => none
  | .callback _ => run.handler

/-- The run with another call in the context that runs. -/
def TimerRun.withPoint (run : TimerRun ι) (point : Option (CallPoint ι)) : TimerRun ι :=
  match run.phase with
  | .thread => { run with thread := point }
  | .expiring => run
  | .callback _ => { run with handler := point }

/-- The timer that is called back. -/
def TimerPhase.cur : TimerPhase ι → Option ι
  | .callback cur => some cur
  | .thread | .expiring => none

/-- When an event can happen. -/
def timerEnabled (run : TimerRun ι) : TimerEvent ι → Prop
  | .pass _ | .read => True
  | .call _ => run.phase ≠ .expiring ∧ run.point = none
  | .next => run.point ≠ none
  | .alarm => run.phase = .thread ∧ run.world.rtc.alarmFlag = true
  | .expire => run.phase = .expiring
  | .callbackEnds => run.handler = none ∧ run.phase.cur ≠ none

instance [DecidableEq ι] (run : TimerRun ι) : ∀ event, Decidable (timerEnabled run event)
  | .pass _ | .read => .isTrue trivial
  | .call _ => inferInstanceAs (Decidable (_ ∧ _))
  | .next => inferInstanceAs (Decidable (_ ≠ _))
  | .alarm => inferInstanceAs (Decidable (_ ∧ _))
  | .expire => inferInstanceAs (Decidable (_ = _))
  | .callbackEnds => inferInstanceAs (Decidable (_ ∧ _))

/-- Run a call on the timers. -/
def onWorld {α : Type} (call : Prog (TimerWorld ι) α) : Prog (TimerRun ι) α :=
  zoom TimerRun.world (fun world run => { run with world := world }) call

/-- `HAL_RTC_AlarmIRQHandler`, up to the loop of `UTIL_TIMER_IRQ_Handler`. -/
def halRtcAlarmIrqHandler [Fintype ι] [DecidableEq ι] : Prog (TimerWorld ι) Unit := do
  modifyRtc fun rtc => { rtc with alarmFlag := false }
  utilTimerIrqEnter

/-- The handler has unlinked a timer and calls it back, or it ends. -/
def TimerRun.expired (run : TimerRun ι) : Option ι → TimerRun ι
  | some cur =>
      { run with
        phase := .callback cur
        callbacks := run.callbacks ++ [⟨cur, run.world.rtc.ticks, run.due cur⟩] }
  | none => { run with phase := .thread }

variable [DecidableEq ι] [Fintype ι]

/-- The section of a call that comes next. -/
def timerNext (run : TimerRun ι) : Prog (TimerRun ι) Unit :=
  match run.point with
  | some point => do
      modify fun run => { run with due := point.noted run.due run.world }
      let next ← onWorld point.run
      modify fun run => run.withPoint next
  | none => undefined

/-- The end of the callback of a timer. -/
def timerCallbackEnds (run : TimerRun ι) : Prog (TimerRun ι) Unit :=
  match run.phase with
  | .callback cur => do
      modify fun run =>
        { run with
          due := if run.world.Reloads cur then startedDue run.due run.world cur else run.due }
      onWorld (utilTimerIrqReload cur)
      modify fun run => { run with phase := .expiring }
  | .thread | .expiring => undefined

/-- The elapsed time is read. -/
def timerRead : Prog (TimerRun ι) Unit := do
  let elapsed ← onWorld gnseRtcGetTimerElapsedTime
  modify fun run =>
    { run with
      reads := run.reads ++ [⟨elapsed, run.world.rtc.ticks, run.world.rtc.contextTicks⟩] }

/-- What happens at an event. -/
def timerStep : TimerEvent ι → Prog (TimerRun ι) Unit
  | .pass count => onWorld (modifyRtc fun rtc => rtc.pass count)
  | .read => timerRead
  | .call call => do
      let point ← onWorld call.begin
      modify fun run => run.withPoint (some point)
  | .next => do
      let run ← gets id
      timerNext run
  | .alarm => do
      onWorld halRtcAlarmIrqHandler
      modify fun run => { run with phase := .expiring }
  | .expire => do
      let cur ← onWorld utilTimerIrqNext
      modify fun run => run.expired cur
  | .callbackEnds => do
      let run ← gets id
      timerCallbackEnds run

/-- The timer server. -/
def timerMachine : Machine (TimerRun ι) (TimerEvent ι) where
  enabled := timerEnabled
  step := timerStep

/-- After `UTIL_TIMER_Init`, with the timers created. -/
def timerBoot (periodValue : ι → ℕ) (mode : ι → UtilTimerMode) (ticks : ℕ)
    (delays : ℕ → ℕ) : TimerRun ι where
  world :=
    { objects := fun timer =>
        { timestamp := 0
          reloadValue := gnseRtcConvertMs2Tick (periodValue timer)
          isPending := false
          isRunning := false
          isReloadStopped := false
          mode := mode timer
          next := none }
      timerListHead := none
      rtc :=
        { ticks := ticks
          rtcTimerContext := UInt32.ofNat (ticks % 2 ^ 32)
          alarm := none
          alarmFlag := false
          calls := 0
          delays := delays
          contextTicks := ticks
          slowest := 0 } }
  phase := .thread
  thread := none
  handler := none
  due := fun _ => 0
  callbacks := []
  reads := []

/-- A step where the reference that is read is younger than 2^32 ticks, no sum of
32 bits wraps, and no timer is started that a callback has started since the
test. -/
def timerFits (run : TimerRun ι) : TimerEvent ι → Prop
  | .pass _ | .call _ => True
  | .read => run.world.rtc.ticksAfter 1 < run.world.rtc.contextTicks + 2 ^ 32
  | .next => ∀ point ∈ run.point, point.Fits run.world
  | .alarm => run.world.timerListHead ≠ none →
      run.world.rtc.ticksAfter 1 < run.world.rtc.contextTicks + 2 ^ 32
  | .expire => run.world.timerListHead ≠ none →
      run.world.rtc.Young run.world.rtc.contextTicks 3 minAlarmDelay
  | .callbackEnds => ∀ cur ∈ run.phase.cur, run.world.Reloads cur → run.world.StartsYoung cur

instance (run : TimerRun ι) : ∀ event, Decidable (timerFits run event)
  | .pass _ | .call _ => .isTrue trivial
  | .read => inferInstanceAs (Decidable (_ < _))
  | .next => inferInstanceAs (Decidable (∀ _ ∈ _, _))
  | .alarm => inferInstanceAs (Decidable (_ → _))
  | .expire => inferInstanceAs (Decidable (_ → _))
  | .callbackEnds => inferInstanceAs (Decidable (∀ _ ∈ _, _))

instance (run : TimerRun ι) (event : TimerEvent ι) : Decidable (timerMachine.enabled run event) :=
  inferInstanceAs (Decidable (timerEnabled run event))

/-- The alarm is armed for a timer: for its timestamp from the reference, which
is ahead unless the interrupt is pending. -/
structure TimerRun.AlarmArmed (run : TimerRun ι) (timer : ι) : Prop where
  alarm : run.world.rtc.alarm = some (((run.world.objects timer).timestamp +
    run.world.rtc.rtcTimerContext.toNat) % 2 ^ 32)
  fits : (run.world.objects timer).timestamp < 2 ^ 32
  ahead : run.world.rtc.alarmFlag = true ∨
    run.world.rtc.ticks < run.world.rtc.contextTicks + (run.world.objects timer).timestamp

/-- What the timer server promises: the elapsed times that were read are the
ticks since the reference; while a timer runs, the alarm is armed for the first
one, or, inside the handler, the loop has still to test that one, which it finds
due or without an alarm; and no callback was early. -/
structure TimersPromised (run : TimerRun ι) : Prop where
  elapsed : ∀ read ∈ run.reads, read.reference + read.elapsed = read.ticks
  armed : run.phase = .thread → (∃ timer, (run.world.objects timer).isRunning = true) →
    ∃ head, run.world.timerListHead = some head ∧ run.AlarmArmed head
  serving : run.phase ≠ .thread → (∃ timer, (run.world.objects timer).isRunning = true) →
    ∃ head, run.world.timerListHead = some head ∧ (run.AlarmArmed head ∨
      (run.world.objects head).isPending = false ∨ (run.world.objects head).timestamp = 0)
  callbacks : ∀ expiry ∈ run.callbacks, expiry.due ≤ expiry.ticks

/-- The handler is at work. -/
def TimerPhase.serving : TimerPhase ι → Bool
  | .thread => false
  | .expiring | .callback _ => true

/-- The invariant of the timer server. -/
structure Held (run : TimerRun ι) : Prop where
  kept : Kept run.phase.serving run.due run.world
  callbacks : ∀ expiry ∈ run.callbacks, expiry.due ≤ expiry.ticks
  reads : ∀ read ∈ run.reads, read.reference + read.elapsed = read.ticks

omit [DecidableEq ι] [Fintype ι] in
theorem timed_boot {due : ι → ℕ} (periodValue : ι → ℕ) (mode : ι → UtilTimerMode) (ticks : ℕ)
    (delays : ℕ → ℕ) : Timed due (timerBoot periodValue mode ticks delays).world [] := by
  apply timed_nil
  · exact ⟨Chain.null, fun timer => by simp [timerBoot]⟩
  · constructor
    · exact UInt32.toNat_ofNat_of_lt' (Nat.mod_lt _ (by decide))
    · exact Nat.le_refl ticks

omit [DecidableEq ι] [Fintype ι] in
theorem held_boot (periodValue : ι → ℕ) (mode : ι → UtilTimerMode) (ticks : ℕ)
    (delays : ℕ → ℕ) : Held (timerBoot periodValue mode ticks delays) := by
  constructor
  · refine ⟨[], timed_boot periodValue mode ticks delays, ?_⟩
    rintro head ⟨⟩
  · intro expiry mem
    cases mem
  · intro read mem
    cases mem

section Steps

variable {run : TimerRun ι}

theorem Held.pass (held : Held run) (count : ℕ) :
    wp (timerStep (.pass count)) (fun _ final => Held final) run := by
  rw [timerStep, onWorld, wp_zoom, wp_modifyRtc]
  exact ⟨held.kept.pass count, held.callbacks, held.reads⟩

omit [DecidableEq ι] [Fintype ι] in
/-- The elapsed time of a young reference is exact. -/
theorem Held.read (held : Held run) (fits : timerFits run .read) :
    wp timerRead (fun _ final => Held final) run := by
  rcases held.kept with ⟨timers, timed, -⟩
  rw [timerRead, wp_bind, onWorld, wp_zoom, wp_gnseRtcGetTimerElapsedTime, wp_modify]
  refine ⟨held.kept.called, held.callbacks, fun read mem => ?_⟩
  rcases List.mem_append.mp mem with before | now
  · exact held.reads read before
  · obtain rfl := List.mem_singleton.mp now
    exact TimerRtc.contextTicks_add_elapsedAfter timed.exact fits

omit [DecidableEq ι] [Fintype ι] in
theorem Held.withPoint (held : Held run) (point : Option (CallPoint ι)) :
    Held (run.withPoint point) := by
  rw [TimerRun.withPoint]
  split <;> exact ⟨held.kept, held.callbacks, held.reads⟩

theorem Held.call (held : Held run) (call : TimerCall ι) :
    wp (timerStep (.call call)) (fun _ final => Held final) run := by
  rw [timerStep, wp_bind, onWorld, wp_zoom]
  refine wp_mono (wp_begin_kept held.kept call) fun point world kept => ?_
  rw [wp_modify]
  have moved : Held { run with world := world } := ⟨kept, held.callbacks, held.reads⟩
  exact moved.withPoint (some point)

theorem Held.next (held : Held run) (called : run.point ≠ none)
    (fits : timerFits run .next) : wp (timerStep .next) (fun _ final => Held final) run := by
  obtain ⟨point, here⟩ := Option.ne_none_iff_exists'.mp called
  rw [timerStep, wp_bind, wp_gets, id, timerNext, here]
  change wp (modify _ >>= _) _ run
  rw [wp_bind, wp_modify, wp_bind, onWorld, wp_zoom]
  refine wp_mono (wp_point_kept held.kept (fits point here)) fun next world kept => ?_
  rw [wp_modify]
  have moved : Held { run with world := world, due := point.noted run.due run.world } :=
    ⟨kept, held.callbacks, held.reads⟩
  exact moved.withPoint next

/-- The interrupt finds the alarm of the first timer. -/
theorem wp_halRtcAlarmIrqHandler_kept {due : ι → ℕ} {world : TimerWorld ι} {timers : List ι}
    (timed : Timed due world timers) (watched : ∀ head ∈ timers.head?, Watched false world head)
    (young : world.timerListHead ≠ none →
      world.rtc.ticksAfter 1 < world.rtc.contextTicks + 2 ^ 32) :
    wp halRtcAlarmIrqHandler (fun _ final => Entered world timers final ∧ Timed due final timers ∧
      ∀ head ∈ timers.head?, Watched true final head) world := by
  have head := timed.linked.chains.head_eq
  rw [halRtcAlarmIrqHandler, wp_bind, wp_modifyRtc]
  have cleared : Timed due (world.withRtc { world.rtc with alarmFlag := false }) timers :=
    ⟨timed.linked.congr rfl (fun _ => rfl) fun _ => rfl, ⟨timed.exact.context, timed.exact.past⟩,
      timed.due, timed.fits, timed.waiting⟩
  refine wp_mono (wp_utilTimerIrqEnter_kept cleared ?_ ?_) ?_
  · intro first is_first
    rcases watched first is_first with ⟨pending, armed⟩ | ⟨handling, -⟩
    · exact ⟨pending, armed.alarm⟩
    · cases handling
  · intro others
    apply young
    rw [head]
    cases timers with
    | nil => exact absurd rfl others
    | cons first rest => exact Option.some_ne_none first
  · rintro _ final ⟨entered, kept⟩
    exact ⟨⟨entered.deadline, entered.pending, entered.contextTicks, entered.ticks,
      entered.slowest⟩, kept⟩

theorem Held.alarm (held : Held run) (thread : run.phase = .thread)
    (fits : timerFits run .alarm) : wp (timerStep .alarm) (fun _ final => Held final) run := by
  have kept := held.kept
  rw [thread] at kept
  rcases kept with ⟨timers, timed, watched⟩
  rw [timerStep, wp_bind, onWorld, wp_zoom]
  refine wp_mono (wp_halRtcAlarmIrqHandler_kept timed watched fits) ?_
  rintro _ world ⟨-, kept⟩
  rw [wp_modify]
  exact ⟨⟨timers, kept⟩, held.callbacks, held.reads⟩

omit [Fintype ι] in
/-- The handler tests the first timer. -/
theorem wp_expire_kept {due : ι → ℕ} {world : TimerWorld ι} {timers : List ι}
    (timed : Timed due world timers) (watched : ∀ head ∈ timers.head?, Watched true world head)
    (young : world.timerListHead ≠ none →
      world.rtc.Young world.rtc.contextTicks 3 minAlarmDelay) :
    wp utilTimerIrqNext (fun expired final => KeptTested due world timers expired final ∧
      ∀ timer ∈ expired, due timer ≤ final.rtc.ticks) world := by
  have head := timed.linked.chains.head_eq
  apply wp_utilTimerIrqNext_kept timed watched
  intro others
  apply young
  rw [head]
  cases timers with
  | nil => exact absurd rfl others
  | cons first rest => exact Option.some_ne_none first

/-- No timer is called back before it is due. -/
theorem Held.expire (held : Held run) (expiring : run.phase = .expiring)
    (fits : timerFits run .expire) : wp (timerStep .expire) (fun _ final => Held final) run := by
  have kept := held.kept
  rw [expiring] at kept
  rcases kept with ⟨timers, timed, watched⟩
  rw [timerStep, wp_bind, onWorld, wp_zoom]
  refine wp_mono (wp_expire_kept timed watched fits) ?_
  rintro expired world ⟨tested, late⟩
  have kept := tested.kept
  rw [wp_modify]
  cases expired with
  | none => exact ⟨kept, held.callbacks, held.reads⟩
  | some cur =>
      refine ⟨kept, fun expiry mem => ?_, held.reads⟩
      rcases List.mem_append.mp mem with before | now
      · exact held.callbacks expiry before
      · obtain rfl := List.mem_singleton.mp now
        exact late cur rfl

theorem Held.callbackEnds (held : Held run) {cur : ι} (callback : run.phase = .callback cur)
    (fits : timerFits run .callbackEnds) :
    wp (timerStep .callbackEnds) (fun _ final => Held final) run := by
  have kept := held.kept
  rw [callback] at kept
  rw [timerStep, wp_bind, wp_gets, id, timerCallbackEnds, callback]
  change wp (modify _ >>= _) _ run
  rw [wp_bind, wp_modify, wp_bind, onWorld, wp_zoom]
  have called : cur ∈ run.phase.cur := by
    rw [callback]
    rfl
  refine wp_mono (wp_utilTimerIrqReload_kept kept (fits cur called)) fun _ world kept => ?_
  rw [wp_modify]
  exact ⟨kept, held.callbacks, held.reads⟩

/-- An event that fits keeps the invariant. -/
theorem Held.step (held : Held run) {event : TimerEvent ι}
    (enabled : timerMachine.enabled run event) (fits : timerFits run event) :
    wp (timerMachine.step event) (fun _ final => Held final) run := by
  cases event with
  | pass count => exact held.pass count
  | read => exact held.read fits
  | call call => exact held.call call
  | next => exact held.next enabled fits
  | alarm => exact held.alarm enabled.1 fits
  | expire => exact held.expire enabled fits
  | callbackEnds =>
      obtain ⟨-, called⟩ := enabled
      cases phase : run.phase with
      | thread =>
          rw [phase] at called
          exact absurd rfl called
      | expiring =>
          rw [phase] at called
          exact absurd rfl called
      | callback cur => exact held.callbackEnds phase fits

omit [DecidableEq ι] [Fintype ι] in
/-- An alarm that is armed promptly is armed for the timer. -/
theorem alarmArmed {timer : ι} {timers : List ι} (timed : Timed run.due run.world timers)
    (mem : timer ∈ timers) (armed : run.world.rtc.Armed (run.world.deadline timer))
    (prompt : run.world.rtc.slowest < minAlarmDelay) : run.AlarmArmed timer := by
  constructor
  · rw [armed.alarm, timed.exact.context, TimerWorld.deadline, Nat.add_mod_mod, Nat.add_comm]
  · exact timed.fits timer mem
  · rcases armed.ahead with flag | ahead | slow
    · exact .inl flag
    · exact .inr ahead
    · exact absurd prompt (Nat.not_lt_of_le slow)

omit [DecidableEq ι] [Fintype ι] in
/-- The first timer is watched while a timer runs. -/
theorem Held.exists_watched (held : Held run)
    (running : ∃ timer, (run.world.objects timer).isRunning = true) :
    ∃ timers, Timed run.due run.world timers ∧ ∃ head ∈ timers,
      run.world.timerListHead = some head ∧ Watched run.phase.serving run.world head := by
  rcases held.kept with ⟨timers, timed, watched⟩
  rcases running with ⟨timer, running⟩
  have head := timed.linked.chains.head_eq
  cases timers with
  | nil => exact absurd ((timed.linked.running timer).mp running) List.not_mem_nil
  | cons first rest =>
      exact ⟨first :: rest, timed, first, List.mem_cons_self, head, watched first rfl⟩

omit [DecidableEq ι] [Fintype ι] in
theorem Held.promised (held : Held run) (prompt : run.world.rtc.slowest < minAlarmDelay) :
    TimersPromised run := by
  refine ⟨held.reads, fun thread running => ?_, fun handler running => ?_, held.callbacks⟩
  · rcases held.exists_watched running with ⟨timers, timed, first, mem, head, watched⟩
    rw [thread] at watched
    rcases watched with ⟨-, armed⟩ | ⟨handling, -⟩
    · exact ⟨first, head, alarmArmed timed mem armed prompt⟩
    · cases handling
  · rcases held.exists_watched running with ⟨timers, timed, first, mem, head, watched⟩
    rcases watched with ⟨-, armed⟩ | ⟨-, untested⟩
    · exact ⟨first, head, .inl (alarmArmed timed mem armed prompt)⟩
    · exact ⟨first, head, .inr untested⟩

end Steps

/-- In every run whose steps fit and whose alarms are armed promptly, no
callback is early and the alarm of the first timer is armed. -/
theorem timers_promised {periodValue : ι → ℕ} {mode : ι → UtilTimerMode} {ticks : ℕ}
    {delays : ℕ → ℕ} {run : TimerRun ι}
    (reaches : timerMachine.Reaches timerFits (timerBoot periodValue mode ticks delays) run)
    (prompt : run.world.rtc.slowest < minAlarmDelay) : TimersPromised run := by
  have held : Held run := by
    refine reaches.invariant (held_boot periodValue mode ticks delays) ?_
    intro before event held enabled fits
    exact held.step enabled fits
  exact held.promised prompt

end Runs

/-- A timer that expires twice and is stopped by its second callback, before
another one that is due later. -/
def twoTimers : List (TimerEvent (Fin 2)) :=
  [.call (.start 0), .next, .next, .call (.start 1), .next, .next, .pass 60, .read, .alarm,
    .expire, .callbackEnds, .expire, .pass 60, .alarm, .expire, .call (.stop 1), .next,
    .callbackEnds, .expire, .read]

/-- The other timer is left with its alarm, and the reference is read before and
after it was moved. -/
theorem twoTimers_promised :
    ∃ run : TimerRun (Fin 2), run.callbacks.map (·.timer) = [1, 1] ∧
      run.reads.map (·.elapsed) = [66, 4] ∧
      run.world.timerListHead = some 0 ∧ TimersPromised run := by
  have replayed : (timerMachine.replay timerFits twoTimers
        (timerBoot (fun timer => if timer = 0 then 1000 else 50) (fun _ => .periodic) 0
          fun _ => 1)).map (fun run : TimerRun (Fin 2) =>
      (run.callbacks.map (·.timer), run.reads.map (·.elapsed), run.world.timerListHead,
        run.world.rtc.slowest)) = some ([1, 1], [66, 4], some 0, 1) := by decide +kernel
  rcases Option.map_eq_some_iff.mp replayed with ⟨run, replayed, shown⟩
  simp only [Prod.mk.injEq] at shown
  rcases shown with ⟨callbacks, reads, head, slowest⟩
  have prompt : run.world.rtc.slowest < minAlarmDelay := by
    rw [slowest]
    decide
  exact ⟨run, callbacks, reads, head, timers_promised (Machine.reaches_of_replay _ replayed) prompt⟩

/-- Periods below 2^31 ticks, and no time but less than 2^31 ticks from an alarm
to its interrupt. -/
def timerServed {ι : Type} (run : TimerRun ι) : TimerEvent ι → Prop
  | .pass count => run.world.rtc.alarmFlag = false ∧ count < 2 ^ 31
  | .call (.setPeriod _ period) | .call (.startWithPeriod _ period) =>
      gnseRtcConvertMs2Tick period < 2 ^ 31
  | .read | .call (.start _) | .call (.stop _) | .next | .alarm | .expire | .callbackEnds => True

instance {ι : Type} (run : TimerRun ι) : ∀ event, Decidable (timerServed run event)
  | .pass _ => inferInstanceAs (Decidable (_ ∧ _))
  | .call (.setPeriod _ _) | .call (.startWithPeriod _ _) => inferInstanceAs (Decidable (_ < _))
  | .read | .call (.start _) | .call (.stop _) | .next | .alarm | .expire | .callbackEnds =>
      .isTrue trivial

/-- A timer that is started when the reference is nearly 2^32 ticks old: the
timers before it were stopped before their alarms. -/
def oldReference : List (TimerEvent (Fin 3)) :=
  [.call (.start 0), .next, .next, .pass (2 ^ 31 - 20), .call (.start 1), .next, .next,
    .call (.stop 0), .next, .pass (2 ^ 31 - 30), .call (.start 2), .next, .next, .pass 3, .alarm,
    .expire]

/-- It is called back after three ticks, not after 2^31 - 2. -/
theorem oldReference_early :
    ∃ run : TimerRun (Fin 3),
      timerMachine.Reaches timerServed
        (timerBoot (fun _ => 2097151999) (fun _ => .oneshot) 0 fun _ => 0) run ∧
      gnseRtcConvertMs2Tick 2097151999 < 2 ^ 31 ∧ run.world.rtc.slowest < minAlarmDelay ∧
      ¬ TimersPromised run := by
  have replayed : ∃ run : TimerRun (Fin 3), timerMachine.replay timerServed oldReference
        (timerBoot (fun _ => 2097151999) (fun _ => .oneshot) 0 fun _ => 0) = some run ∧
      run.world.rtc.slowest < minAlarmDelay ∧
      run.callbacks = [⟨2, 2 ^ 32 - 47, 2 ^ 32 - 50 + (2 ^ 31 - 2)⟩] :=
    ⟨_, rfl, by decide, rfl⟩
  obtain ⟨run, replayed, prompt, callbacks⟩ := replayed
  refine ⟨run, Machine.reaches_of_replay _ replayed, by decide, prompt, fun promised => ?_⟩
  have late := promised.callbacks ⟨2, 2 ^ 32 - 47, 2 ^ 32 - 50 + (2 ^ 31 - 2)⟩
    (by rw [callbacks]; exact List.mem_singleton.mpr rfl)
  exact absurd late (by decide)

end GenericNode.Timer
