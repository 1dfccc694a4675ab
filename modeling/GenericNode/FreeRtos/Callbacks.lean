import GenericNode.FreeRtos.Tracks

/-!
# The callbacks of the FreeRTOS port

In the runs whose steps fit, the timers of the port are one-shot timers: each
event keeps the invariant, and so does a run.
-/

namespace GenericNode.FreeRtos

open GenericNode.Library
open GenericNode.Library.Prog
open GenericNode.Library.OneShot

section Callbacks

variable {ι : Type} [DecidableEq ι] {kernel : TimerKernel} {port final : TimerPort ι kernel}
  {timer : ι} {pEvent xTimer : ℕ} {soft : SoftTimer} {state : kernel.State}

/-! ## The events -/

/-- A start, after which the new period is the latest command. -/
theorem PortInv.start (inv : PortInv port) (documented : kernel.Documented)
    (enabled : portEnabled port (.start timer)) (fits : portFits port (.start timer)) :
    wp (portEvent (.start timer)) (fun _ final => PortInv final) port := by
  rcases Option.isSome_iff_exists.mp enabled.1 with ⟨pEvent, here⟩
  rcases inv.tracks timer pEvent here with ⟨soft, tracks⟩
  have some_ticks := fits.2 pEvent here
  rcases tracks.value some_ticks with ⟨value, last, within⟩
  rw [portEvent, wp_bind]
  refine wp_mono (wp_timerStart documented here tracks.created fits.1) ?_
  rintro _ final ⟨state, rfl, view⟩
  rw [wp_note]
  have beside : port.view.Beside (port.handle pEvent) (kernel.view state) := by
    rw [view]
    exact (SoftTimers.Beside.refl.withTimer { soft with autoReload := true }).sent rfl
  refine inv.change here ((Beside.refl.withState beside).noted (changes_ne rfl))
    (inv.lawful.cons trivial) ⟨{ soft with autoReload := true }, ?_⟩ ?_
  · constructor
    · exact tracks.inside
    · exact tracks.callback
    · change (kernel.view state).timers (port.handle pEvent) = _
      rw [view, SoftTimers.withCommands_timers, SoftTimers.withTimer_self]
    · exact tracks.timerID
    · exact fun _ => rfl
    · exact tracks.idle
    · exact tracks.value
    · have latest : (kernel.view state).lastCommand (port.handle pEvent) =
          some (.changePeriod (port.handle pEvent) port.tick.tickCount
            (port.events pEvent).timerTicks) := by
        rw [view]
        exact SoftTimers.lastCommand_sent rfl
      change TimerPort.Agrees _ _ _ _ ((kernel.view state).lastCommand (port.handle pEvent))
      rw [latest]
      refine ⟨value, ?_, within⟩
      rw [TimerPort.noted, pending_start]
      change (lastValue timer port.log).map _ = _
      rw [Option.mem_def.mp last]
      rfl
    · refine TimerPort.due_of_waits ?_
      change (kernel.view state).waits (port.handle pEvent) = true
      rw [view]
      exact SoftTimers.waits_sent rfl
  · intro command mem own
    change command ∈ (kernel.view state).commands at mem
    rw [view, SoftTimers.withCommands_commands] at mem
    rcases List.mem_append.mp mem with before | latest
    · exact inv.sent command before
    · rw [List.mem_singleton.mp latest]
      rintro xTimer sent period ⟨⟩
      exact ⟨inv.idle, Nat.le_refl _, some_ticks⟩

/-- What is known of an object when the latest of its commands is a stop. -/
theorem TimerPort.Tracks.stopped (tracks : port.Tracks timer pEvent soft)
    (inside : pEvent < final.allocated)
    (callback : (final.events pEvent).callback = (port.events pEvent).callback)
    (handle : final.handle pEvent = port.handle pEvent)
    (lateness : final.lateness = port.lateness)
    (view : final.view = port.view.withCommands
      (port.view.commands ++ [.stop (port.handle pEvent)]))
    (value : (final.events pEvent).timerTicks ≠ 0 → ∃ value ∈ lastValue timer final.log,
      Within final.tick.configTickRateHz value (final.events pEvent).timerTicks)
    (ended : OneShot.pending timer final.log = none) : final.Tracks timer pEvent soft := by
  constructor
  · exact inside
  · rw [callback]
    exact tracks.callback
  · rw [handle, view]
    exact tracks.created
  · exact tracks.timerID
  · rw [handle, view]
    rintro (active | ⟨sent, period, mem⟩)
    · exact tracks.reloads (.inl active)
    · rcases List.mem_append.mp mem with before | latest
      · exact tracks.reloads (.inr ⟨sent, period, before⟩)
      · cases List.mem_singleton.mp latest
  · rw [lateness]
    exact tracks.idle
  · exact value
  · have latest : final.view.lastCommand (port.handle pEvent) =
        some (.stop (port.handle pEvent)) := by
      rw [view]
      exact SoftTimers.lastCommand_sent rfl
    rw [handle, latest]
    exact ended
  · refine TimerPort.due_of_waits ?_
    rw [handle, view]
    exact SoftTimers.waits_sent rfl

/-- A stop is the only command that is sent. -/
theorem PortInv.sent_stop (inv : PortInv port) (final : TimerPort ι kernel)
    (lateness : final.lateness = port.lateness)
    (tick : final.tick = port.tick)
    (view : final.view = port.view.withCommands (port.view.commands ++ [.stop xTimer]))
    (command : TimerCommand) (mem : command ∈ final.view.commands) : final.Sent command := by
  rw [view, SoftTimers.withCommands_commands] at mem
  rcases List.mem_append.mp mem with before | latest
  · intro xTimer sent period is_change
    rw [lateness, tick]
    exact inv.sent command before xTimer sent period is_change
  · rw [List.mem_singleton.mp latest]
    rintro xTimer sent period ⟨⟩

/-- A stop, which is lost at most for a timer that is dormant. -/
theorem PortInv.stop (inv : PortInv port) (documented : kernel.Documented)
    (enabled : portEnabled port (.stop timer)) (fits : portFits port (.stop timer)) :
    wp (portEvent (.stop timer)) (fun _ final => PortInv final) port := by
  rcases Option.isSome_iff_exists.mp enabled.1 with ⟨pEvent, here⟩
  rcases inv.tracks timer pEvent here with ⟨soft, tracks⟩
  rw [portEvent, wp_bind]
  refine wp_mono (wp_timerStop documented here) ?_
  rintro _ final ⟨state, rfl, view⟩
  have ended : pending timer ((port.withState state).noted (.stop timer)).log = none :=
    pending_cons_self rfl (by rintro ⟨⟩)
  rw [wp_note]
  by_cases room : kernel.Room port.state
  · rw [if_pos room] at view
    have beside : port.view.Beside (port.handle pEvent) (kernel.view state) := by
      rw [view]
      exact SoftTimers.Beside.refl.sent rfl
    refine inv.change here ((Beside.refl.withState beside).noted (changes_ne rfl))
      (inv.lawful.cons trivial)
      ⟨soft, tracks.stopped tracks.inside rfl rfl rfl view tracks.value ended⟩ ?_
    intro command mem _
    exact inv.sent_stop (port.withState state) rfl rfl view command mem
  · rw [if_neg room] at view
    have dormant := fits.resolve_left room pEvent here
    have beside : port.view.Beside (port.handle pEvent) (kernel.view state) := by
      rw [view]
      exact SoftTimers.Beside.refl
    have still : (port.withState state).view = port.view := view
    have none_waits := SoftTimers.lastCommand_eq_none.mpr dormant.2.1
    have inactive : soft.expiry = none := by
      have active := dormant.1
      rwa [SoftTimers.active, SoftTimers.expiry_eq tracks.created, Option.isSome_eq_false_iff,
        Option.isNone_iff_eq_none] at active
    refine inv.change here ((Beside.refl.withState beside).noted (changes_ne rfl))
      (inv.lawful.cons trivial) ⟨soft, ?_⟩ ?_
    · constructor
      · exact tracks.inside
      · exact tracks.callback
      · exact (congrArg (SoftTimers.timers · _) still).trans tracks.created
      · exact tracks.timerID
      · change (_ ∨ ∃ sent period, _ ∈ (port.withState state).view.commands) → _
        rw [still]
        exact tracks.reloads
      · exact tracks.idle
      · exact tracks.value
      · change TimerPort.Agrees _ _ _ _
          ((port.withState state).view.lastCommand (port.handle pEvent))
        rw [still, none_waits]
        constructor
        · rw [inactive]
          rintro expiry ⟨⟩
        · rw [ended]
          rintro ⟨⟩
      · exact fun calling => absurd calling dormant.2.2
    · change ∀ command ∈ (port.withState state).view.commands, _
      rw [still]
      exact fun command mem _ => inv.sent command mem

/-- A value is set: the timer is stopped, and has ticks for the value. -/
theorem PortInv.setValue (inv : PortInv port) (documented : kernel.Documented) {value : UInt32}
    (enabled : portEnabled port (.setValue timer value))
    (fits : portFits port (.setValue timer value)) :
    wp (portEvent (.setValue timer value)) (fun _ final => PortInv final) port := by
  rcases Option.isSome_iff_exists.mp enabled.1 with ⟨pEvent, here⟩
  rcases inv.tracks timer pEvent here with ⟨soft, tracks⟩
  rw [portEvent, wp_bind]
  refine wp_mono (wp_timerSetValue documented here enabled.2 fits.1 value) ?_
  rintro _ final ⟨state, rfl, view⟩
  rw [wp_note]
  have beside : port.view.Beside (port.handle pEvent) (kernel.view state) := by
    rw [view]
    exact SoftTimers.Beside.refl.sent rfl
  generalize event_eq : ({ port.events pEvent with timerTicks := port.ticksFor value } :
    TimerEventS ι) = event
  have handle : event.handle = port.handle pEvent := by
    rw [← event_eq]
    rfl
  have stored : ((port.withState state).withEvent pEvent event).events pEvent = event :=
    Function.update_self ..
  refine inv.change here (((Beside.refl.withState beside).withEvent handle).noted (changes_ne rfl))
    (inv.lawful.cons trivial) ⟨soft, tracks.stopped tracks.inside ?_ ?_ rfl view ?_ ?_⟩ ?_
  · change (((port.withState state).withEvent pEvent event).events pEvent).callback = _
    rw [stored, ← event_eq]
  · exact (congrArg TimerEventS.handle stored).trans handle
  · intro _
    refine ⟨value.toNat, lastValue_setValue _, ?_⟩
    change Within _ _ (((port.withState state).withEvent pEvent event).events pEvent).timerTicks
    rw [stored, ← event_eq]
    exact ticksFor_within fits.2
  · exact pending_cons_self rfl (by rintro ⟨⟩)
  · intro command mem _
    exact inv.sent_stop (port.withState state) rfl rfl view command mem

/-- A timer without commands, if it is not stale, is active while it is
started. -/
theorem TimerPort.Tracks.active_eq (tracks : port.Tracks timer pEvent soft)
    (documented : kernel.Documented) (none_waits : port.view.waits (port.handle pEvent) = false)
    (fresh : ¬ port.Stale (port.handle pEvent)) :
    port.view.active (port.handle pEvent) = (pending timer port.log).isSome := by
  have agrees := tracks.agrees
  rw [SoftTimers.lastCommand_eq_none.mpr none_waits] at agrees
  rcases agrees with ⟨expires, active⟩
  have shown : port.view.active (port.handle pEvent) = soft.expiry.isSome :=
    congrArg Option.isSome (SoftTimers.expiry_eq tracks.created)
  rw [shown, Bool.eq_iff_iff]
  constructor
  · intro runs
    rcases Option.isSome_iff_exists.mp runs with ⟨expiry, expiry_eq⟩
    rcases expires expiry expiry_eq with ⟨-, called, callback⟩ | ⟨start, value, waits, -⟩
    · refine absurd ⟨shown.trans runs, called, ?_⟩ fresh
      rw [documented.timerID tracks.created, tracks.timerID]
      exact callback
    · rw [waits]
      rfl
  · exact active

/-- The answer is that the timer is started. -/
theorem PortInv.isStarted (inv : PortInv port) (documented : kernel.Documented)
    (enabled : portEnabled port (.isStarted timer)) (fits : portFits port (.isStarted timer)) :
    wp (portEvent (.isStarted timer)) (fun _ final => PortInv final) port := by
  rcases Option.isSome_iff_exists.mp enabled with ⟨pEvent, here⟩
  rcases inv.tracks timer pEvent here with ⟨soft, tracks⟩
  rcases fits pEvent here with ⟨none_waits, fresh⟩
  have answered : kernel.xTimerIsTimerActive (port.handle pEvent) port.state =
      (pending timer port.log).isSome := by
    rw [documented.isActive tracks.created, ← tracks.active_eq documented none_waits fresh]
    exact (congrArg Option.isSome (SoftTimers.expiry_eq tracks.created)).symm
  rw [portEvent, wp_bind, timerIsStarted, wp_bind, wp_timerEvent here, wp_bind, wp_gets,
    xTimerIsTimerActive, wp_gets, wp_note]
  change PortInv (port.noted (.isStarted timer
    (kernel.xTimerIsTimerActive (port.handle pEvent) port.state)))
  rw [answered]
  refine inv.change here (Beside.refl.noted fun other _ => by rintro ⟨⟩)
    (inv.lawful.cons rfl) ⟨soft, ?_⟩ fun command mem _ => inv.sent command mem
  exact tracks.unchanged ⟨rfl, Nat.le_refl _, rfl, Nat.le_refl _, rfl, rfl, fun _ mem _ => mem, rfl,
    Iff.rfl, rfl, rfl, rfl⟩

/-- What a command, the oldest one, makes of the software timer that it is for. -/
structure TimerPort.Executes (port : TimerPort ι kernel) (timer : ι) (pEvent : ℕ)
    (soft : SoftTimer) (command : TimerCommand) (rest : List TimerCommand) (soft' : SoftTimer)
    (state : kernel.State) : Prop where
  timerID : soft'.pvTimerID = soft.pvTimerID
  view : kernel.view state =
    (port.view.withTimer (port.handle pEvent) soft').withCommands rest
  reloads : (soft'.expiry.isSome = true ∨ ∃ sent period,
    .changePeriod (port.handle pEvent) sent period ∈ rest) → soft'.autoReload = true
  idle : ∀ expiry ∈ soft'.expiry, port.lateness.idle ≤ expiry
  agrees : port.Agrees timer pEvent soft (some command) →
    (port.executed state (port.handle pEvent)).Agrees timer pEvent soft' none

section Executes

variable {command : TimerCommand} {rest : List TimerCommand} {soft' : SoftTimer}

/-- What is known of an object once one of its commands is executed. -/
theorem TimerPort.Executes.taken
    (executes : port.Executes timer pEvent soft command rest soft' state)
    (agrees : port.Agrees timer pEvent soft (port.view.lastCommand (port.handle pEvent)))
    (first : port.view.commands = command :: rest) (own : command.xTimer = port.handle pEvent) :
    (port.executed state (port.handle pEvent)).Agrees timer pEvent soft'
      ((port.view.withCommands rest).lastCommand (port.handle pEvent)) := by
  rw [SoftTimers.lastCommand_taken first, if_pos own] at agrees
  cases later : (port.view.withCommands rest).lastCommand (port.handle pEvent) with
  | none =>
      rw [later, Option.none_or] at agrees
      exact executes.agrees agrees
  | some command =>
      rw [later, Option.some_or] at agrees
      cases command with
      | changePeriod _ sent period => exact agrees
      | stop _ => exact agrees

/-- The invariant after the command. -/
theorem PortInv.executed (inv : PortInv port) (here : port.objects timer = some pEvent)
    (tracks : port.Tracks timer pEvent soft) (none_called : port.calling = none)
    (first : port.view.commands = command :: rest) (own : command.xTimer = port.handle pEvent)
    (executes : port.Executes timer pEvent soft command rest soft' state) :
    PortInv (port.executed state (port.handle pEvent)) := by
  have view := executes.view
  have beside : port.view.Beside (port.handle pEvent) (kernel.view state) := by
    rw [view]
    exact (SoftTimers.Beside.refl.withTimer soft').taken first own
  refine inv.change here (Beside.refl.executed beside) inv.lawful ⟨soft', ?_⟩ ?_
  · constructor
    · exact tracks.inside
    · exact tracks.callback
    · change (kernel.view state).timers (port.handle pEvent) = _
      rw [view, SoftTimers.withCommands_timers, SoftTimers.withTimer_self]
    · exact executes.timerID.trans tracks.timerID
    · change (_ ∨ ∃ sent period, _ ∈ (kernel.view state).commands) → _
      rw [view]
      exact executes.reloads
    · exact executes.idle
    · exact tracks.value
    · change TimerPort.Agrees _ _ _ _ ((kernel.view state).lastCommand (port.handle pEvent))
      rw [view]
      exact executes.taken tracks.agrees first own
    · intro calling
      have nothing : port.calling = some _ := calling
      rw [none_called] at nothing
      cases nothing
  · intro command' mem _
    change command' ∈ (kernel.view state).commands at mem
    rw [view] at mem
    apply inv.sent command'
    rw [first]
    exact List.mem_cons_of_mem _ mem

/-- A new period starts the timer, in time. -/
theorem PortKept.changes_period (kept : PortKept port) (documented : kernel.Documented)
    (tracks : port.Tracks timer pEvent soft) {sent period : ℕ}
    (first : port.view.commands = .changePeriod (port.handle pEvent) sent period :: rest) :
    ∃ soft', port.Executes timer pEvent soft (.changePeriod (port.handle pEvent) sent period) rest
      soft' (kernel.processCommand port.tick.tickCount port.state) := by
  have mem : TimerCommand.changePeriod (port.handle pEvent) sent period ∈ port.view.commands := by
    rw [first]
    exact List.mem_cons_self
  rcases kept.sent _ mem _ _ _ rfl with ⟨idle, past, some_ticks⟩
  rcases documented.changePeriod first tracks.created past some_ticks with
    ⟨expiry, after, before, view⟩
  refine ⟨{ soft with period, expiry := some expiry }, rfl, view,
    fun _ => tracks.reloads (.inr ⟨sent, period, mem⟩), ?_, ?_⟩
  · rintro _ ⟨⟩
    exact idle.trans ((Nat.le_add_right _ _).trans after)
  · rintro ⟨value, waits, within⟩
    constructor
    · rintro _ ⟨⟩
      right
      refine ⟨sent, value, waits, (Nat.add_le_add_left within.least sent).trans after,
        fun _ _ => ?_⟩
      have timely := kept.timely
      have most := within.most
      change expiry ≤ sent + value * port.tick.configTickRateHz / 1000 + 1 + port.lateness.late
      linarith
    · exact fun _ => rfl

/-- A stop ends the timer. -/
theorem TimerPort.Tracks.stops (tracks : port.Tracks timer pEvent soft)
    (documented : kernel.Documented)
    (first : port.view.commands = .stop (port.handle pEvent) :: rest) :
    port.Executes timer pEvent soft (.stop (port.handle pEvent)) rest { soft with expiry := none }
      (kernel.processCommand port.tick.tickCount port.state) := by
  refine ⟨rfl, documented.stop first tracks.created, ?_, ?_, ?_⟩
  · rintro (⟨⟨⟩⟩ | ⟨sent, period, mem⟩)
    apply tracks.reloads
    rw [first]
    exact .inr ⟨sent, period, List.mem_cons_of_mem _ mem⟩
  · rintro _ ⟨⟩
  · intro ended
    constructor
    · rintro _ ⟨⟩
    · change (pending timer port.log).isSome = true → _
      have ended : pending timer port.log = none := ended
      rw [ended]
      rintro ⟨⟩

end Executes

/-- The timer task executes the command that is the oldest one. -/
theorem PortKept.command (kept : PortKept port) (documented : kernel.Documented)
    (enabled : portEnabled port .command) :
    wp (portEvent .command) (fun _ final => PortInv final) port := by
  rcases enabled with ⟨-, none_called, some_wait⟩
  rcases List.exists_cons_of_ne_nil some_wait with ⟨command, rest, first⟩
  have waits : port.view.waits command.xTimer = true := by
    refine SoftTimers.waits_iff.mpr ⟨command, ?_, rfl⟩
    rw [first]
    exact List.mem_cons_self
  rcases kept.current _ (.inr (.inl waits)) with ⟨timer, pEvent, here, own⟩
  rcases kept.tracks timer pEvent here with ⟨soft, tracks⟩
  have executes : ∃ soft', port.Executes timer pEvent soft command rest soft'
      (kernel.processCommand port.tick.tickCount port.state) := by
    cases command with
    | changePeriod xTimer sent period =>
        obtain rfl : port.handle pEvent = xTimer := own
        exact kept.changes_period documented tracks first
    | stop xTimer =>
        obtain rfl : port.handle pEvent = xTimer := own
        exact ⟨_, tracks.stops documented first⟩
  rcases executes with ⟨soft', executes⟩
  rw [portEvent, prvProcessReceivedCommand, wp_bind, wp_gets, id, first]
  change wp (modify _) _ port
  rw [wp_modify, ← own]
  exact kept.toPortInv.executed here tracks none_called first own.symm executes

omit [DecidableEq ι] in
/-- The callback of an event. -/
theorem wp_prvCallbackExecutor (timerID : kernel.pvTimerGetTimerID xTimer port.state = pEvent)
    (callback : ∀ called ∈ (port.events pEvent).callback, called = timer)
    (post : Unit → TimerPort ι kernel → Prop) :
    wp (prvCallbackExecutor xTimer) post port ↔ post ()
      (if (port.events pEvent).callback.isSome then port.noted (.callback timer) else port) := by
  rw [prvCallbackExecutor, pvTimerGetTimerID, wp_bind, wp_gets, timerID, wp_bind, wp_gets]
  cases called : (port.events pEvent).callback with
  | none => exact wp_pure ..
  | some other =>
      obtain rfl := callback other called
      exact wp_note ..

/-- A timer that expires has no command, and is not stale: it is due for the start
that the record has. -/
theorem PortKept.expire (kept : PortKept port) (documented : kernel.Documented)
    (enabled : portEnabled port (.expire xTimer)) (fits : portFits port (.expire xTimer)) :
    wp (portEvent (.expire xTimer)) (fun _ final => PortInv final) port := by
  rcases enabled with ⟨-, none_called, expired⟩
  rcases fits with ⟨none_waits, fresh⟩
  rcases SoftTimers.expired_iff.mp expired with ⟨expiry, expires, passed⟩
  have active : port.view.active xTimer = true := by
    rw [SoftTimers.active, expires]
    rfl
  rcases kept.current xTimer (.inl active) with ⟨timer, pEvent, here, rfl⟩
  rcases kept.tracks timer pEvent here with ⟨soft, tracks⟩
  rw [SoftTimers.expiry_eq tracks.created] at expires
  have reloads : soft.autoReload = true := by
    apply tracks.reloads
    rw [expires]
    exact .inl rfl
  have view : kernel.view (kernel.processExpired port.tick.tickCount (port.handle pEvent)
      port.state) = port.view.withTimer (port.handle pEvent)
        { soft with expiry := some (expiry + soft.period) } := by
    have handled := documented.expire tracks.created expires passed
    rwa [if_pos reloads] at handled
  have none_last := SoftTimers.lastCommand_eq_none.mpr none_waits
  have not_calling : port.calling ≠ some (port.handle pEvent) := by
    rw [none_called]
    rintro ⟨⟩
  have agrees := tracks.agrees
  rw [none_last] at agrees
  rcases agrees.1 expiry expires with ⟨-, called, callback⟩ | ⟨start, value, waits, after, before⟩
  · refine absurd ⟨active, called, ?_⟩ fresh
    rw [documented.timerID tracks.created, tracks.timerID]
    exact callback
  rw [portEvent, prvProcessExpiredTimer, wp_modify]
  generalize kernel.processExpired port.tick.tickCount (port.handle pEvent) port.state = state
    at view ⊢
  have beside : port.view.Beside (port.handle pEvent) (kernel.view state) := by
    rw [view]
    exact SoftTimers.Beside.refl.withTimer _
  refine kept.change here (Beside.refl.taken none_called beside) kept.lawful
    ⟨{ soft with expiry := some (expiry + soft.period) }, ?_⟩ ?_
  · constructor
    · exact tracks.inside
    · exact tracks.callback
    · change (kernel.view state).timers (port.handle pEvent) = _
      rw [view, SoftTimers.withTimer_self]
    · exact tracks.timerID
    · exact fun _ => reloads
    · rintro _ ⟨⟩
      exact (tracks.idle expiry expires).trans (Nat.le_add_right _ _)
    · exact tracks.value
    · change TimerPort.Agrees _ _ _ _ ((kernel.view state).lastCommand (port.handle pEvent))
      rw [view, SoftTimers.lastCommand_withTimer, none_last]
      constructor
      · rintro _ ⟨⟩
        right
        exact ⟨start, value, waits, after.trans (Nat.le_add_right _ _),
          fun _ elsewhere => absurd rfl elsewhere⟩
      · exact fun _ => rfl
    · intro _ _ callback
      exact ⟨start, value, waits, after.trans passed,
        (tracks.idle expiry expires).trans (before callback not_calling)⟩
  · intro command mem _
    change command ∈ (kernel.view state).commands at mem
    rw [view] at mem
    exact kept.sent command mem

/-- The callback of a timer for which no command waits is the one that is due. -/
theorem PortKept.callback (kept : PortKept port) (documented : kernel.Documented)
    (enabled : portEnabled port .callback) (fits : portFits port .callback) :
    wp (portEvent .callback) (fun _ final => PortInv final) port := by
  rcases Option.isSome_iff_exists.mp enabled.2 with ⟨xTimer, calling⟩
  have none_waits := fits xTimer calling
  rcases kept.current xTimer (.inr (.inr calling)) with ⟨timer, pEvent, here, rfl⟩
  rcases kept.tracks timer pEvent here with ⟨soft, tracks⟩
  have none_last := SoftTimers.lastCommand_eq_none.mpr none_waits
  have agrees := tracks.agrees
  rw [none_last] at agrees
  have identified : kernel.pvTimerGetTimerID (port.handle pEvent) port.state = pEvent :=
    (documented.timerID tracks.created).trans tracks.timerID
  rw [portEvent, prvExecuteCallback, wp_bind, wp_gets, calling, wp_bind, wp_lift]
  refine ⟨_, rfl, ?_⟩
  rw [wp_bind, wp_prvCallbackExecutor identified tracks.callback, wp_modify]
  by_cases callback : (port.events pEvent).callback.isSome = true
  · rw [if_pos callback]
    rcases tracks.due calling none_waits callback with ⟨start, value, waits, after, before⟩
    have allowed : (⟨port.tick.tickCount, .callback timer⟩ : Entry ι).Allowed port.timing
        port.log := by
      refine ⟨start, value, waits, after, ?_⟩
      have timely := kept.timely
      change port.tick.tickCount ≤
        start + value * port.tick.configTickRateHz / 1000 + 1 + 2 * port.lateness.late
      linarith
    have ended : pending timer (port.noted (.callback timer)).log = none :=
      pending_cons_self rfl (by rintro ⟨⟩)
    refine kept.change here ((Beside.refl.noted (changes_ne rfl)).returned calling)
      (kept.lawful.cons allowed) ⟨soft, ?_⟩ fun command mem _ => kept.sent command mem
    refine { tracks with agrees := ?_, due := ?_ }
    · change TimerPort.Agrees _ _ _ _ (port.view.lastCommand (port.handle pEvent))
      rw [none_last]
      constructor
      · exact fun _ _ => .inl ⟨ended, Function.update_self .., callback⟩
      · change (pending timer (port.noted (.callback timer)).log).isSome = true → _
        rw [ended]
        rintro ⟨⟩
    · rintro ⟨⟩
  · rw [if_neg callback]
    refine kept.change here (Beside.refl.returned calling) kept.lawful ⟨soft, ?_⟩
      fun command mem _ => kept.sent command mem
    refine { tracks with agrees := ?_, due := ?_ }
    · change TimerPort.Agrees _ _ _ _ (port.view.lastCommand (port.handle pEvent))
      rw [none_last]
      refine ⟨fun expiry expires => ?_, agrees.2⟩
      rcases agrees.1 expiry expires with ⟨-, -, called⟩ | ⟨start, value, waits, after, -⟩
      · exact absurd called callback
      · exact .inr ⟨start, value, waits, after, fun called => absurd called callback⟩
    · rintro ⟨⟩

/-- A timer is created dormant. -/
theorem wp_timerInit (documented : kernel.Documented) (callback : Option ι) :
    wp (timerInit timer callback) (fun _ final => ∃ handle state,
      port.view.timers handle = none ∧
      kernel.view state = port.view.withTimer handle ⟨port.allocated, 1, false, none⟩ ∧
      final = { port with
        allocated := port.allocated + 1
        state
        events := Function.update port.events port.allocated ⟨handle, callback, 0⟩
        objects := Function.update port.objects timer (some port.allocated) }) port := by
  rcases documented.create 1 false port.allocated port.state with ⟨fresh, created⟩
  rw [timerInit, wp_bind, pvPortMalloc, wp_bind, wp_gets, wp_bind, wp_modify, wp_pure, wp_bind,
    setEvent, wp_modify, wp_bind, xTimerCreate, wp_bind, wp_gets, wp_bind, wp_modify, wp_pure,
    wp_bind, setEvent, wp_modify, wp_modify]
  refine ⟨_, _, fresh, created, ?_⟩
  simp only [TimerPort.withEvent, TimerPort.withState, Function.update_self, Function.update_idem,
    id]

/-- An object has a new event and a new software timer. -/
structure Created (port : TimerPort ι kernel) (timer : ι) (handle : ℕ) (callback : Option ι)
    (final : TimerPort ι kernel) : Prop where
  fresh : port.view.timers handle = none
  tick : final.tick = port.tick
  lateness : final.lateness = port.lateness
  calling : final.calling = port.calling
  called : final.called = port.called
  allocated : final.allocated = port.allocated + 1
  events : final.events = Function.update port.events port.allocated ⟨handle, callback, 0⟩
  objects : final.objects = Function.update port.objects timer (some port.allocated)
  view : final.view = port.view.withTimer handle ⟨port.allocated, 1, false, none⟩
  log : final.log = ⟨port.tick.tickCount, .init timer⟩ :: port.log

variable {handle : ℕ} {callback : Option ι}

/-- Nothing waits for a software timer that is not created. -/
theorem PortInv.untouched (inv : PortInv port) (fresh : port.view.timers handle = none) :
    port.view.waits handle = false ∧ port.calling ≠ some handle := by
  have none_current : ¬ (port.view.active handle = true ∨ port.view.waits handle = true ∨
      port.calling = some handle) := by
    intro busy
    rcases inv.current handle busy with ⟨other, event, there, rfl⟩
    rcases inv.tracks other event there with ⟨soft, tracks⟩
    rw [tracks.created] at fresh
    cases fresh
  constructor
  · by_contra waits
    exact none_current (.inr (.inl (by simpa using waits)))
  · exact fun calling => none_current (.inr (.inr calling))

theorem Created.stored (created : Created port timer handle callback final) :
    final.events port.allocated = ⟨handle, callback, 0⟩ := by
  rw [created.events, Function.update_self]

/-- The new software timer is dormant. -/
theorem Created.own (created : Created port timer handle callback final) (inv : PortInv port)
    (given : ∀ called ∈ callback, called = timer) :
    final.Tracks timer port.allocated ⟨port.allocated, 1, false, none⟩ := by
  rcases inv.untouched created.fresh with ⟨none_waits, not_calling⟩
  have own : final.handle port.allocated = handle := congrArg TimerEventS.handle created.stored
  constructor
  · rw [created.allocated]
    exact Nat.lt_succ_self _
  · rw [created.stored]
    exact given
  · rw [own, created.view, SoftTimers.withTimer_self]
  · rfl
  · rw [own, created.view]
    rintro (⟨⟨⟩⟩ | ⟨sent, period, mem⟩)
    have waits : port.view.waits handle = true := SoftTimers.waits_iff.mpr ⟨_, mem, rfl⟩
    rw [none_waits] at waits
    cases waits
  · rintro _ ⟨⟩
  · rw [created.stored]
    exact fun some_ticks => absurd rfl some_ticks
  · rw [own, created.view, SoftTimers.lastCommand_withTimer,
      SoftTimers.lastCommand_eq_none.mpr none_waits]
    constructor
    · rintro _ ⟨⟩
    · have ended : pending timer final.log = none := by
        rw [created.log]
        exact pending_cons_self rfl (by rintro ⟨⟩)
      rw [ended]
      rintro ⟨⟩
  · intro calling
    rw [own, created.calling] at calling
    exact absurd calling not_calling

/-- The other objects keep their events and software timers. -/
theorem Created.other (created : Created port timer handle callback final) {other : ι}
    {event : ℕ} (different : other ≠ timer) (tracks : port.Tracks other event soft) :
    final.events event = port.events event ∧ final.Tracks other event soft := by
  have handles : port.handle event ≠ handle := by
    rintro rfl
    have fresh := created.fresh
    rw [tracks.created] at fresh
    cases fresh
  have events : final.events event = port.events event := by
    rw [created.events, Function.update_of_ne tracks.inside.ne]
  refine ⟨events, tracks.unchanged ⟨?_, ?_, created.lateness, ?_, events, ?_, ?_, ?_, ?_, ?_, ?_,
    ?_⟩⟩
  · rw [created.tick]
  · rw [created.tick]
  · rw [created.allocated]
    exact Nat.le_succ _
  · rw [created.view, SoftTimers.withTimer_other handles]
  · rw [created.view]
    exact fun _ mem _ => mem
  · rw [created.view, SoftTimers.lastCommand_withTimer]
  · rw [created.calling]
  · rw [created.called]
  · rw [created.log]
    exact pending_cons_other (changes_ne rfl other different)
  · rw [created.log]
    exact lastValue_cons_other (changes_ne rfl other different)

/-- Two objects still have two events. -/
theorem Created.distinct (created : Created port timer handle callback final)
    (inv : PortInv port) {first other : ι} {event : ℕ} (here : final.objects first = some event)
    (there : final.objects other = some event) : first = other := by
  have aside : ∀ {another : ι}, another ≠ timer → final.objects another = some event →
      port.objects another = some event ∧ event ≠ port.allocated := by
    intro another different is_event
    rw [created.objects, Function.update_of_ne different] at is_event
    rcases inv.tracks another event is_event with ⟨soft, tracks⟩
    exact ⟨is_event, tracks.inside.ne⟩
  have own : final.objects timer = some port.allocated := by
    rw [created.objects, Function.update_self]
  by_cases same : first = timer
  · by_cases same' : other = timer
    · exact same.trans same'.symm
    · rw [same, own] at here
      cases here
      exact absurd rfl (aside same' there).2
  · by_cases same' : other = timer
    · rw [same', own] at there
      cases there
      exact absurd rfl (aside same here).2
    · exact inv.distinct first other event (aside same here).1 (aside same' there).1

/-- The timer that an object had is dormant. -/
theorem Created.current (created : Created port timer handle callback final) (inv : PortInv port)
    (dormant : ∀ pEvent ∈ port.objects timer, port.Dormant (port.handle pEvent))
    (busy : final.view.active xTimer = true ∨ final.view.waits xTimer = true ∨
      final.calling = some xTimer) :
    ∃ other event, final.objects other = some event ∧ final.handle event = xTimer := by
  have before : port.view.active xTimer = true ∨ port.view.waits xTimer = true ∨
      port.calling = some xTimer := by
    rw [created.view, created.calling] at busy
    rcases busy with active | waits
    · by_cases same : xTimer = handle
      · rw [same, SoftTimers.active, SoftTimers.expiry_eq SoftTimers.withTimer_self] at active
        cases active
      · left
        rwa [SoftTimers.active, SoftTimers.expiry, SoftTimers.withTimer_other same] at active
    · exact .inr waits
  rcases inv.current xTimer before with ⟨other, event, there, rfl⟩
  have different : other ≠ timer := by
    rintro rfl
    rcases dormant event there with ⟨inactive, nothing, not_calling⟩
    rw [inactive, nothing] at before
    rcases before with ⟨⟨⟩⟩ | ⟨⟨⟩⟩ | calling
    exact not_calling calling
  rcases inv.tracks other event there with ⟨soft, tracks⟩
  refine ⟨other, event, ?_, congrArg TimerEventS.handle (created.other different tracks).1⟩
  rw [created.objects, Function.update_of_ne different]
  exact there

/-- An object gets a new software timer, and its old one is dormant. -/
theorem PortInv.init (inv : PortInv port) (documented : kernel.Documented) {hasCallback : Bool}
    (fits : portFits port (.init timer hasCallback)) :
    wp (portEvent (.init timer hasCallback)) (fun _ final => PortInv final) port := by
  rw [portEvent, wp_bind]
  refine wp_mono (wp_timerInit documented _) ?_
  rintro _ middle ⟨handle, state, fresh, view, middle_eq⟩
  have created : Created port timer handle (if hasCallback then some timer else none)
      (middle.noted (.init timer)) := by
    rw [middle_eq]
    exact ⟨fresh, rfl, rfl, rfl, rfl, rfl, rfl, rfl, view, rfl⟩
  rw [wp_note]
  generalize middle.noted (.init timer) = final at created ⊢
  constructor
  · rw [created.lateness, created.tick]
    exact inv.idle
  · rw [created.log]
    change Lawful (portTiming final.tick.configTickRateHz final.lateness) _
    rw [created.tick, created.lateness]
    exact inv.lawful.cons trivial
  · intro other event there
    rw [created.objects] at there
    by_cases same : other = timer
    · subst same
      rw [Function.update_self] at there
      cases there
      refine ⟨_, created.own inv ?_⟩
      intro called given
      cases hasCallback <;> cases given
      rfl
    · rw [Function.update_of_ne same] at there
      rcases inv.tracks other event there with ⟨soft, tracks⟩
      exact ⟨soft, (created.other same tracks).2⟩
  · exact fun first other event => created.distinct inv
  · exact fun xTimer => created.current inv fits
  · intro command mem
    rw [created.view] at mem
    intro xTimer sent period is_change
    rw [created.lateness, created.tick]
    exact inv.sent command mem xTimer sent period is_change

/-! ## Runs -/

/-- The clock and the context change nothing else. -/
theorem PortInv.withTick (inv : PortInv port) {tick : KernelTick}
    (rate : tick.configTickRateHz = port.tick.configTickRateHz)
    (later : port.tick.tickCount ≤ tick.tickCount) : PortInv { port with tick } := by
  constructor
  · exact inv.idle.trans later
  · change Lawful (portTiming tick.configTickRateHz port.lateness) port.log
    rw [rate]
    exact inv.lawful
  · intro timer pEvent here
    rcases inv.tracks timer pEvent here with ⟨soft, tracks⟩
    exact ⟨soft, tracks.unchanged ⟨rate, later, rfl, Nat.le_refl _, rfl, rfl, fun _ mem _ => mem,
      rfl, Iff.rfl, rfl, rfl, rfl⟩⟩
  · exact inv.distinct
  · exact inv.current
  · intro command mem xTimer sent period is_change
    rcases inv.sent command mem xTimer sent period is_change with ⟨idle, past, some_ticks⟩
    exact ⟨idle, past.trans later, some_ticks⟩

/-- The timer task is later than before, or it is idle later. -/
theorem TimerPort.Tracks.withLateness (tracks : port.Tracks timer pEvent soft)
    {lateness : Lateness} (late : port.lateness.late ≤ lateness.late)
    (idle : ∀ expiry ∈ soft.expiry, lateness.idle ≤ expiry)
    (called : port.calling = none ∨ lateness.idle = port.lateness.idle) :
    ({ port with lateness } : TimerPort ι kernel).Tracks timer pEvent soft := by
  have due : TimerPort.Due { port with lateness } timer pEvent := by
    intro calling none_waits callback
    have calling : port.calling = some _ := calling
    rcases tracks.due calling none_waits callback with ⟨start, value, waits, after, before⟩
    refine ⟨start, value, waits, after, ?_⟩
    rcases called with nothing | same
    · rw [nothing] at calling
      cases calling
    · change lateness.idle ≤ _
      rw [same]
      exact before.trans (Nat.add_le_add_left late _)
  refine { tracks with idle, agrees := ?_, due }
  have agrees := tracks.agrees
  change TimerPort.Agrees _ _ _ _ (port.view.lastCommand (port.handle pEvent))
  cases last : port.view.lastCommand (port.handle pEvent) with
  | none =>
      rw [last] at agrees
      refine ⟨fun expiry expires => ?_, agrees.2⟩
      refine (agrees.1 expiry expires).imp id ?_
      rintro ⟨start, value, waits, after, before⟩
      exact ⟨start, value, waits, after,
        fun callback elsewhere =>
          (before callback elsewhere).trans (Nat.add_le_add_left late _)⟩
  | some command =>
      rw [last] at agrees
      cases command with
      | changePeriod _ sent period => exact agrees
      | stop _ => exact agrees

/-- How late the timer task is grows as long as it has something to do; when it
has nothing to do, no command waits and no timer has expired. -/
theorem PortInv.observed [Fintype ι] (inv : PortInv port) : PortKept port.observed := by
  have late : port.lateness.late ≤ port.observed.lateness.late := Lateness.late_le_observe
  have lawful : Lawful port.observed.timing port.log := by
    refine inv.lawful.mono (fun _ _ => Nat.le_refl _) fun value start previous => ?_
    exact Nat.add_le_add_left (Nat.mul_le_mul_left 2 late) _
  have timely : port.tick.tickCount ≤ port.observed.lateness.idle + port.observed.lateness.late :=
    Lateness.now_le_observe
  cases busy : port.busy with
  | true =>
      have idle : port.observed.lateness.idle = port.lateness.idle := by
        rw [TimerPort.observed, busy, Lateness.observe_busy_idle]
      refine { idle := ?_, lawful, tracks := ?_, distinct := inv.distinct, current := inv.current,
               sent := ?_, timely }
      · rw [idle]
        exact inv.idle
      · intro timer pEvent here
        rcases inv.tracks timer pEvent here with ⟨soft, tracks⟩
        refine ⟨soft, tracks.withLateness late ?_ (.inr idle)⟩
        change ∀ expiry ∈ soft.expiry, port.observed.lateness.idle ≤ expiry
        rw [idle]
        exact tracks.idle
      · intro command mem xTimer sent period is_change
        rw [idle]
        exact inv.sent command mem xTimer sent period is_change
  | false =>
      have idle : port.observed.lateness.idle = port.tick.tickCount := by
        rw [TimerPort.observed, busy, Lateness.observe_idle]
      rcases Bool.or_eq_false_iff.mp busy with ⟨nothing, waiting⟩
      rcases Bool.or_eq_false_iff.mp nothing with ⟨empty, not_calling⟩
      have none_called : port.calling = none := by simpa using not_calling
      have none_waits : port.view.commands = [] := by simpa using empty
      refine { idle := ?_, lawful, tracks := ?_, distinct := inv.distinct, current := inv.current,
               sent := ?_, timely }
      · rw [idle]
        exact Nat.le_refl _
      · intro timer pEvent here
        rcases inv.tracks timer pEvent here with ⟨soft, tracks⟩
        refine ⟨soft, tracks.withLateness late (fun expiry expires => ?_) (.inl none_called)⟩
        change port.observed.lateness.idle ≤ expiry
        rw [idle]
        by_contra passed
        refine of_decide_eq_false waiting ⟨timer, ?_⟩
        have here : port.objects timer = some pEvent := here
        rw [here, Option.any_some]
        refine SoftTimers.expired_iff.mpr ⟨expiry, ?_, Nat.le_of_not_ge passed⟩
        exact (SoftTimers.expiry_eq tracks.created).trans expires
      · intro command mem
        change command ∈ port.view.commands at mem
        rw [none_waits] at mem
        exact absurd mem List.not_mem_nil

/-- An event that fits keeps the invariant, but for the lateness. -/
theorem PortKept.event (kept : PortKept port) (documented : kernel.Documented)
    {event : PortEvent ι} (enabled : portEnabled port event) (fits : portFits port event) :
    wp (portEvent event) (fun _ final => PortInv final) port := by
  cases event with
  | tick =>
      rw [portEvent, wp_modify]
      exact kept.withTick rfl (Nat.le_succ _)
  | context insideInterrupt =>
      rw [portEvent, wp_modify]
      exact kept.withTick rfl (Nat.le_refl _)
  | init timer hasCallback => exact kept.init documented fits
  | setValue timer value => exact kept.setValue documented enabled fits
  | start timer => exact kept.start documented enabled fits
  | stop timer => exact kept.stop documented enabled fits
  | isStarted timer => exact kept.isStarted documented enabled fits
  | command => exact kept.command documented enabled
  | expire xTimer => exact kept.expire documented enabled fits
  | callback => exact kept.callback documented enabled fits

variable [Fintype ι]

/-- A step that fits keeps the invariant. -/
theorem PortKept.step (kept : PortKept port) (documented : kernel.Documented)
    {event : PortEvent ι} (enabled : portEnabled port event) (fits : portFits port event) :
    wp (portStep event) (fun _ final => PortKept final) port := by
  rw [portStep, wp_bind]
  refine wp_mono (kept.event documented enabled fits) ?_
  intro _ middle inv
  rw [wp_modify]
  exact inv.observed

omit [Fintype ι] in
theorem portKept_boot {tick : KernelTick} {state : kernel.State}
    (dormant : kernel.view state = ⟨fun _ => none, []⟩) :
    PortKept (portBoot tick state : TimerPort ι kernel) := by
  have shown : (portBoot tick state : TimerPort ι kernel).view = ⟨fun _ => none, []⟩ := dormant
  refine { idle := Nat.le_refl _, lawful := lawful_nil, tracks := ?_, distinct := ?_,
           current := ?_, sent := ?_, timely := Nat.le_refl _ }
  · rintro timer pEvent ⟨⟩
  · rintro timer other pEvent ⟨⟩
  · intro xTimer busy
    rw [shown] at busy
    rcases busy with ⟨⟨⟩⟩ | ⟨⟨⟩⟩ | ⟨⟨⟩⟩
  · intro command mem
    rw [shown] at mem
    exact absurd mem List.not_mem_nil

/-- In the runs whose steps fit, the port keeps its invariant. -/
theorem portKept_of_reaches (documented : kernel.Documented) {tick : KernelTick}
    {state : kernel.State} (dormant : kernel.view state = ⟨fun _ => none, []⟩)
    (reaches : (portMachine ι kernel).Reaches portFits (portBoot tick state) port) :
    PortKept port := by
  refine reaches.invariant (portKept_boot dormant) ?_
  intro before event kept enabled fits
  exact kept.step documented enabled fits

omit [Fintype ι] in
/-- No callback of a timer that has one is overdue. -/
theorem PortKept.awaited (kept : PortKept port) (here : port.objects timer = some pEvent)
    (callback : (port.events pEvent).callback.isSome = true) :
    Awaited port.timing port.log port.tick.tickCount timer := by
  intro start value started
  have waits := started_iff.mp started
  rcases kept.tracks timer pEvent here with ⟨soft, tracks⟩
  have timely := kept.timely
  have agrees := tracks.agrees
  change port.tick.tickCount ≤
    start + value * port.tick.configTickRateHz / 1000 + 1 + 2 * port.lateness.late
  cases last : port.view.lastCommand (port.handle pEvent) with
  | none =>
      rw [last] at agrees
      rcases Option.isSome_iff_exists.mp (agrees.2 (by rw [waits]; rfl)) with ⟨expiry, expires⟩
      have idle := tracks.idle expiry expires
      rcases agrees.1 expiry expires with ⟨ended, -⟩ | ⟨start', value', waits', -, before⟩
      · rw [waits] at ended
        cases ended
      · rw [waits] at waits'
        cases waits'
        by_cases calling : port.calling = some (port.handle pEvent)
        · have none_waits := SoftTimers.lastCommand_eq_none.mp last
          rcases tracks.due calling none_waits callback with ⟨start', value', waits', -, before'⟩
          rw [waits] at waits'
          cases waits'
          linarith
        · have in_time := before callback calling
          linarith
  | some command =>
      rw [last] at agrees
      rcases SoftTimers.mem_of_lastCommand last with ⟨mem, -⟩
      cases command with
      | changePeriod _ sent period =>
          rcases agrees with ⟨value', waits', -⟩
          rw [waits] at waits'
          cases waits'
          rcases kept.sent _ mem _ _ _ rfl with ⟨idle, -⟩
          have slack : start ≤ start + value * port.tick.configTickRateHz / 1000 :=
            Nat.le_add_right _ _
          linarith
      | stop _ =>
          have ended : pending timer port.log = none := agrees
          rw [waits] at ended
          cases ended

end Callbacks

end GenericNode.FreeRtos
