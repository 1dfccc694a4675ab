import GenericNode.Timer.Downlink

/-!
# Runs with downlinks

The timer server of an application: calls of the thread and of callbacks,
expirations, and downlinks, in any order.
-/

namespace GenericNode.Timer

open GenericNode.Library
open GenericNode.Library.Prog
open GenericNode.Rtc

/-- A downlink, and the timers before and after it was handled. -/
structure Downlink (ι : Type) where
  appData : LmHandlerAppData
  before : TimerWorld ι
  after : TimerWorld ι

/-- The timers, what runs, and for the record the downlinks handled. -/
structure DownlinkRun (ι : Type) where
  world : TimerWorld ι
  phase : TimerPhase ι
  downlinks : List (Downlink ι)

/-- Time passes, a timer is created, a call to the server, the alarm interrupt,
the next test of its handler, the end of a callback, and a downlink. -/
inductive DownlinkEvent (ι : Type) where
  | pass (count : ℕ)
  | create (timer : ι) (periodValue : ℕ) (mode : UtilTimerMode)
  | call (call : TimerCall ι)
  | alarm
  | expire
  | callbackEnds
  | downlink (appData : LmHandlerAppData)
deriving DecidableEq, Repr

section Runs

variable {ι : Type}

/-- When an event can happen.  Only a downlink creates a timer that may run. -/
def downlinkEnabled (run : DownlinkRun ι) : DownlinkEvent ι → Prop
  | .pass _ => True
  | .create timer _ _ =>
      run.phase ≠ .expiring ∧ (run.world.objects timer).isRunning = false
  | .call _ => run.phase ≠ .expiring
  | .alarm => run.phase = .thread ∧ run.world.rtc.alarmFlag = true
  | .expire => run.phase = .expiring
  | .callbackEnds => run.phase.cur ≠ none
  | .downlink _ => run.phase = .thread

instance [DecidableEq ι] (run : DownlinkRun ι) : ∀ event, Decidable (downlinkEnabled run event)
  | .pass _ => .isTrue trivial
  | .create _ _ _ => inferInstanceAs (Decidable (_ ∧ _))
  | .call _ => inferInstanceAs (Decidable (_ ≠ _))
  | .alarm => inferInstanceAs (Decidable (_ ∧ _))
  | .expire => inferInstanceAs (Decidable (_ = _))
  | .callbackEnds => inferInstanceAs (Decidable (_ ≠ _))
  | .downlink _ => inferInstanceAs (Decidable (_ = _))

/-- Run a call on the timers. -/
def onTimers {α : Type} (call : Prog (TimerWorld ι) α) : Prog (DownlinkRun ι) α :=
  zoom DownlinkRun.world (fun world run => { run with world := world }) call

/-- The handler of the interrupt calls a timer back, or it ends. -/
def TimerPhase.ofExpired : Option ι → TimerPhase ι
  | some cur => .callback cur
  | none => .thread

variable [DecidableEq ι] [Fintype ι]

/-- What happens at an event. -/
def downlinkStep (timers : AppTimers ι) (app : DownlinkApp) :
    DownlinkEvent ι → Prog (DownlinkRun ι) Unit
  | .pass count => onTimers (modifyRtc fun rtc => rtc.pass count)
  | .create timer periodValue mode => onTimers (utilTimerCreate timer periodValue mode)
  | .call call => onTimers call.server
  | .alarm => do
      onTimers halRtcAlarmIrqHandler
      modify fun run => { run with phase := .expiring }
  | .expire => do
      let cur ← onTimers utilTimerIrqNext
      modify fun run => { run with phase := .ofExpired cur }
  | .callbackEnds => do
      let phase ← gets DownlinkRun.phase
      match phase.cur with
      | some cur => onTimers (utilTimerIrqReload cur)
      | none => undefined
      modify fun run => { run with phase := .expiring }
  | .downlink appData => do
      let before ← gets DownlinkRun.world
      onTimers (app.handler timers appData)
      modify fun run =>
        { run with downlinks := run.downlinks ++ [⟨appData, before, run.world⟩] }

/-- The timers of an application that gets downlinks. -/
def downlinkMachine (timers : AppTimers ι) (app : DownlinkApp) :
    Machine (DownlinkRun ι) (DownlinkEvent ι) where
  enabled := downlinkEnabled
  step := downlinkStep timers app

/-- After `UTIL_TIMER_Init`. -/
def downlinkBoot (periodValue : ι → ℕ) (mode : ι → UtilTimerMode) (ticks : ℕ)
    (delays : ℕ → ℕ) : DownlinkRun ι where
  world := (timerBoot periodValue mode ticks delays).world
  phase := .thread
  downlinks := []

/-- A step where every downlink fits. -/
def downlinkFits (timers : AppTimers ι) (app : DownlinkApp) (run : DownlinkRun ι) :
    DownlinkEvent ι → Prop
  | .downlink appData => DownlinkFits timers app appData run.world
  | .pass _ | .create _ _ _ | .call _ | .alarm | .expire | .callbackEnds => True

instance (timers : AppTimers ι) (app : DownlinkApp) (run : DownlinkRun ι) :
    ∀ event, Decidable (downlinkFits timers app run event)
  | .downlink appData => inferInstanceAs (Decidable (DownlinkFits timers app appData run.world))
  | .pass _ | .create _ _ _ | .call _ | .alarm | .expire | .callbackEnds => .isTrue trivial

instance (timers : AppTimers ι) (app : DownlinkApp) (run : DownlinkRun ι)
    (event : DownlinkEvent ι) : Decidable ((downlinkMachine timers app).enabled run event) :=
  inferInstanceAs (Decidable (downlinkEnabled run event))

/-- What the downlink handlers promise. -/
structure DownlinksPromised (timers : AppTimers ι) (app : DownlinkApp) (run : DownlinkRun ι) :
    Prop where
  formed : run.world.WellFormed
  handled : ∀ downlink ∈ run.downlinks,
    Handled timers app downlink.appData downlink.before downlink.after

/-! ## One step -/

variable {timers : AppTimers ι} {app : DownlinkApp} {run : DownlinkRun ι}

/-- A call to the server keeps the list. -/
theorem wp_server_wellFormed {world : TimerWorld ι} (formed : world.WellFormed)
    (call : TimerCall ι) : wp call.server (fun _ final => final.WellFormed) world := by
  cases call with
  | start timer =>
      rw [TimerCall.server, wp_bind]
      refine wp_mono (wp_utilTimerStart_wellFormed formed timer) fun _ final kept => ?_
      rwa [wp_pure]
  | stop timer =>
      rw [TimerCall.server, wp_bind]
      refine wp_mono (wp_utilTimerStop_wellFormed formed timer) fun _ final kept => ?_
      rwa [wp_pure]
  | setPeriod timer period =>
      rw [TimerCall.server, wp_bind]
      refine wp_mono (wp_utilTimerSetPeriod_wellFormed formed timer period) fun _ final kept => ?_
      rwa [wp_pure]
  | startWithPeriod timer period =>
      rw [TimerCall.server, wp_bind]
      refine wp_mono (wp_utilTimerStartWithPeriod_wellFormed formed timer period) ?_
      intro _ final kept
      rwa [wp_pure]

theorem wp_halRtcAlarmIrqHandler_wellFormed {world : TimerWorld ι} (formed : world.WellFormed) :
    wp halRtcAlarmIrqHandler (fun _ final => final.WellFormed) world := by
  obtain ⟨linked_timers, linked⟩ := formed
  rw [halRtcAlarmIrqHandler, wp_bind, wp_modifyRtc]
  have cleared : Linked (world.withRtc { world.rtc with alarmFlag := false }) linked_timers :=
    linked.congr rfl (fun _ => rfl) fun _ => rfl
  exact wp_mono (wp_utilTimerIrqEnter cleared) fun _ _ kept => ⟨_, kept⟩

omit [DecidableEq ι] [Fintype ι] in
/-- A call that keeps the list. -/
theorem DownlinksPromised.call {α : Type} (promised : DownlinksPromised timers app run)
    {call : Prog (TimerWorld ι) α} (kept : wp call (fun _ final => final.WellFormed) run.world) :
    wp (onTimers call) (fun _ final => DownlinksPromised timers app final ∧
      final.phase = run.phase) run := by
  rw [onTimers, wp_zoom]
  exact wp_mono kept fun _ world formed => ⟨⟨formed, promised.handled⟩, rfl⟩

omit [Fintype ι] in
theorem DownlinksPromised.create (promised : DownlinksPromised timers app run) {timer : ι}
    (idle : (run.world.objects timer).isRunning = false) (period : ℕ) (mode : UtilTimerMode) :
    wp (utilTimerCreate timer period mode) (fun _ final => final.WellFormed) run.world := by
  obtain ⟨linked_timers, linked⟩ := promised.formed
  have fresh : timer ∉ linked_timers := by
    rw [← linked.running, idle]
    exact Bool.false_ne_true
  exact wp_mono (wp_utilTimerCreate_idle linked fresh period mode) fun _ _ kept => ⟨_, kept⟩

theorem DownlinksPromised.downlink (promised : DownlinksPromised timers app run)
    {appData : LmHandlerAppData} (fits : DownlinkFits timers app appData run.world) :
    wp (downlinkStep timers app (.downlink appData))
      (fun _ final => DownlinksPromised timers app final) run := by
  obtain ⟨linked_timers, linked⟩ := promised.formed
  rw [downlinkStep, wp_bind, wp_gets, wp_bind, onTimers, wp_zoom]
  refine wp_mono (wp_handler linked fits) fun _ world handled => ?_
  rw [wp_modify]
  refine ⟨handled.formed, fun downlink mem => ?_⟩
  rcases List.mem_append.mp mem with before | now
  · exact promised.handled downlink before
  · obtain rfl := List.mem_singleton.mp now
    exact handled

/-- An event keeps the promise, if it fits when it is a downlink. -/
theorem DownlinksPromised.step (promised : DownlinksPromised timers app run)
    {event : DownlinkEvent ι} (enabled : (downlinkMachine timers app).enabled run event)
    (fits : downlinkFits timers app run event) :
    wp ((downlinkMachine timers app).step event)
      (fun _ final => DownlinksPromised timers app final) run := by
  have formed := promised.formed
  change wp (downlinkStep timers app event) _ run
  cases event with
  | pass count =>
      rw [downlinkStep, onTimers, wp_zoom, wp_modifyRtc]
      obtain ⟨linked_timers, linked⟩ := formed
      exact ⟨⟨linked_timers, linked.congr rfl (fun _ => rfl) fun _ => rfl⟩, promised.handled⟩
  | create timer period mode =>
      exact wp_mono (promised.call (promised.create enabled.2 period mode)) fun _ _ kept => kept.1
  | call call =>
      exact wp_mono (promised.call (wp_server_wellFormed formed call)) fun _ _ kept => kept.1
  | alarm =>
      rw [downlinkStep, wp_bind]
      refine wp_mono (promised.call (wp_halRtcAlarmIrqHandler_wellFormed formed)) ?_
      intro _ final kept
      rw [wp_modify]
      exact ⟨kept.1.formed, kept.1.handled⟩
  | expire =>
      rw [downlinkStep, wp_bind]
      refine wp_mono (promised.call (wp_utilTimerIrqNext_wellFormed formed)) ?_
      intro cur final kept
      rw [wp_modify]
      exact ⟨kept.1.formed, kept.1.handled⟩
  | callbackEnds =>
      obtain ⟨cur, here⟩ := Option.ne_none_iff_exists'.mp enabled
      rw [downlinkStep, wp_bind, wp_gets, here, wp_bind]
      refine wp_mono (promised.call (wp_utilTimerIrqReload_wellFormed formed cur)) ?_
      intro _ final kept
      rw [wp_modify]
      exact ⟨kept.1.formed, kept.1.handled⟩
  | downlink appData => exact promised.downlink fits

/-! ## Every run -/

omit [DecidableEq ι] [Fintype ι] in
theorem downlinksPromised_boot (periodValue : ι → ℕ) (mode : ι → UtilTimerMode) (ticks : ℕ)
    (delays : ℕ → ℕ) :
    DownlinksPromised timers app (downlinkBoot periodValue mode ticks delays) := by
  constructor
  · exact ⟨[], Chain.null, fun timer => by simp [downlinkBoot, timerBoot]⟩
  · intro downlink mem
    exact absurd mem List.not_mem_nil

/-- No timer is lost when a downlink arrives, in a run where every downlink
fits; and no call faults. -/
theorem downlinks_promised {periodValue : ι → ℕ} {mode : ι → UtilTimerMode} {ticks : ℕ}
    {delays : ℕ → ℕ}
    (reaches : (downlinkMachine timers app).Reaches (downlinkFits timers app)
      (downlinkBoot periodValue mode ticks delays) run) :
    DownlinksPromised timers app run ∧ ∀ event,
      (downlinkMachine timers app).enabled run event → downlinkFits timers app run event →
      wp ((downlinkMachine timers app).step event)
        (fun _ final => DownlinksPromised timers app final) run := by
  have promised : DownlinksPromised timers app run := by
    refine reaches.invariant (downlinksPromised_boot periodValue mode ticks delays) ?_
    intro before event promised enabled fits
    exact promised.step enabled fits
  exact ⟨promised, fun event enabled fits => promised.step enabled fits⟩

end Runs

/-- The blinking LED, `TxTimer`, the watchdog refresh and a timer of the MAC. -/
def ledTimers : AppTimers (Fin 4) where
  own := 0
  txTimer := 1
  distinct := by decide

/-- An interval of ten units. -/
def intervalDownlink : LmHandlerAppData where
  port := 1
  buffer := [10]

/-- Two downlinks; the second one comes when the LED has stopped. -/
def blinkedOnce : List (DownlinkEvent (Fin 4)) :=
  [.call (.start 1), .call (.start 2), .downlink intervalDownlink, .pass 300, .alarm, .expire,
    .call (.stop 0), .callbackEnds, .expire, .downlink intervalDownlink]

/-- Every minute an uplink, every twenty seconds a refresh. -/
def ledBoot : DownlinkRun (Fin 4) :=
  downlinkBoot (fun timer => if timer = 1 then 60000 else 20000) (fun _ => .oneshot) 0 fun _ => 1

/-- The uplink and the refresh keep their places behind the LED. -/
theorem blinkedOnce_promised :
    ∃ run : DownlinkRun (Fin 4), run.world.linkedTimers = [0, 1, 2] ∧ run.downlinks.length = 2 ∧
      DownlinksPromised ledTimers .sensorsLorawan run := by
  have replayed : ∃ run : DownlinkRun (Fin 4),
      (downlinkMachine ledTimers .sensorsLorawan).replay
        (downlinkFits ledTimers .sensorsLorawan) blinkedOnce ledBoot = some run ∧
      run.world.linkedTimers = [0, 1, 2] ∧ run.downlinks.length = 2 :=
    ⟨_, rfl, rfl, rfl⟩
  obtain ⟨run, replayed, linked, twice⟩ := replayed
  exact ⟨run, linked, twice, (downlinks_promised (Machine.reaches_of_replay _ replayed)).1⟩

/-- Two downlinks; the LED still blinks at the second one. -/
def stillBlinking : List (DownlinkEvent (Fin 4)) :=
  [.call (.start 1), .call (.start 2), .downlink intervalDownlink, .downlink intervalDownlink]

/-- The uplink and the refresh are lost: they run, but are not in the list. -/
theorem stillBlinking_lost :
    ∃ run : DownlinkRun (Fin 4),
      (downlinkMachine ledTimers .sensorsLorawan).Reaches (fun _ _ => True) ledBoot run ∧
      ¬ DownlinksPromised ledTimers .sensorsLorawan run := by
  have replayed : ∃ run : DownlinkRun (Fin 4),
      (downlinkMachine ledTimers .sensorsLorawan).replay (fun _ _ => True) stillBlinking
        ledBoot = some run ∧
      run.world.linkedTimers = [0] ∧ (run.world.objects 1).isRunning = true :=
    ⟨_, rfl, rfl, rfl⟩
  obtain ⟨run, replayed, alone, running⟩ := replayed
  refine ⟨run, Machine.reaches_of_replay _ replayed, fun promised => ?_⟩
  obtain ⟨timers, linked⟩ := promised.formed
  rw [linked.running, ← linked.linkedTimers, alone] at running
  exact absurd running (by decide)

end GenericNode.Timer
