import GenericNode.FreeRtos.Timers

/-!
# What is known of the timers of the FreeRTOS port

What a timer will be once its commands are executed agrees with the record.  A
step touches one timer, and the invariant is kept if it is kept for that one.
-/

namespace GenericNode.FreeRtos

open GenericNode.Library
open GenericNode.Library.Prog
open GenericNode.Library.OneShot

section Tracks

variable {ι : Type} {kernel : TimerKernel} {port final : TimerPort ι kernel} {timer : ι}
  {pEvent xTimer : ℕ} {soft : SoftTimer}

/-! ## The calls -/

theorem wp_timerEvent (here : port.objects timer = some pEvent)
    (post : ℕ → TimerPort ι kernel → Prop) :
    wp (timerEvent timer) post port ↔ post pEvent port := by
  rw [timerEvent, wp_bind, wp_gets, here, wp_lift]
  simp only [Option.some.injEq, exists_eq_left']

theorem wp_note (action : Action ι) (post : Unit → TimerPort ι kernel → Prop) :
    wp (note action) post port ↔ post () (port.noted action) :=
  wp_modify ..

/-- A command that is sent to a queue with room. -/
theorem wp_xTimerGenericCommand (documented : kernel.Documented) (room : kernel.Room port.state)
    (command : TimerCommand) :
    wp (xTimerGenericCommand command) (fun _ final => ∃ state, final = port.withState state ∧
      kernel.view state = port.view.withCommands (port.view.commands ++ [command])) port := by
  rw [xTimerGenericCommand, wp_modify]
  exact ⟨_, rfl, (documented.sent command room).2⟩

/-- A start that finds room in the queue. -/
theorem wp_timerStart (documented : kernel.Documented) (here : port.objects timer = some pEvent)
    (created : port.view.timers (port.handle pEvent) = some soft)
    (room : kernel.Room port.state) :
    wp (timerStart timer) (fun _ final => ∃ state, final = port.withState state ∧
      kernel.view state = (port.view.withTimer (port.handle pEvent)
        { soft with autoReload := true }).withCommands (port.view.commands ++
          [.changePeriod (port.handle pEvent) port.tick.tickCount
            (port.events pEvent).timerTicks])) port := by
  have reloading := documented.setReloadMode true created
  generalize state_eq : kernel.vTimerSetReloadMode (port.handle pEvent) true port.state = state
    at reloading
  have still : kernel.Room (port.withState state).state := by
    change (kernel.view state).commands.length < _
    rw [reloading]
    exact room
  have changed : wp (changePeriod (port.handle pEvent) (port.events pEvent).timerTicks)
      (fun _ final => ∃ state, final = port.withState state ∧
        kernel.view state = (port.view.withTimer (port.handle pEvent)
          { soft with autoReload := true }).withCommands (port.view.commands ++
            [.changePeriod (port.handle pEvent) port.tick.tickCount
              (port.events pEvent).timerTicks])) (port.withState state) := by
    rw [changePeriod, wp_bind, wp_gets]
    refine wp_mono (wp_xTimerGenericCommand documented still _) ?_
    rintro _ final ⟨state', rfl, view⟩
    refine ⟨state', rfl, ?_⟩
    rw [view, TimerPort.view, TimerPort.withState, reloading]
    rfl
  rw [timerStart, wp_bind, wp_timerEvent here, wp_bind, wp_gets, wp_bind, vTimerSetReloadMode,
    wp_modify]
  change wp _ _ (port.withState (kernel.vTimerSetReloadMode (port.handle pEvent) true port.state))
  rw [state_eq, wp_bind, xPortIsInsideInterrupt, wp_gets, wp_ite]
  split_ifs with inside
  · exact changed
  · rw [xTimerChangePeriod, fromTask, wp_bind, xPortIsInsideInterrupt, wp_gets, wp_ite,
      if_neg inside]
    exact changed

/-- A stop, which is lost if the queue is full. -/
theorem wp_timerStop (documented : kernel.Documented) (here : port.objects timer = some pEvent) :
    wp (timerStop timer) (fun _ final => ∃ state, final = port.withState state ∧
      kernel.view state = if kernel.Room port.state then
        port.view.withCommands (port.view.commands ++ [.stop (port.handle pEvent)])
        else port.view) port := by
  have stopped : wp (xTimerGenericCommand (.stop (port.handle pEvent)))
      (fun _ final => ∃ state, final = port.withState state ∧
        kernel.view state = if kernel.Room port.state then
          port.view.withCommands (port.view.commands ++ [.stop (port.handle pEvent)])
          else port.view) port := by
    by_cases room : kernel.Room port.state
    · rw [if_pos room]
      exact wp_xTimerGenericCommand documented room _
    · rw [if_neg room, xTimerGenericCommand, wp_modify]
      exact ⟨_, rfl, (documented.full _ room).2⟩
  rw [timerStop, wp_bind, wp_timerEvent here, wp_bind, wp_gets, wp_bind, xPortIsInsideInterrupt,
    wp_gets]
  by_cases inside : port.tick.insideInterrupt = true
  · rw [if_pos inside]
    exact stopped
  · rw [if_neg inside, xTimerStop, fromTask, wp_bind, xPortIsInsideInterrupt, wp_gets, wp_ite,
      if_neg inside]
    exact stopped

/-- The ticks that are set for a value. -/
def TimerPort.ticksFor (port : TimerPort ι kernel) (value : UInt32) : ℕ :=
  if port.tick.pdMsToTicks value.toNat = 0 then 1 else port.tick.pdMsToTicks value.toNat

/-- A value is set in a task that finds room in the queue. -/
theorem wp_timerSetValue (documented : kernel.Documented)
    (here : port.objects timer = some pEvent) (room : kernel.Room port.state)
    (task : port.tick.insideInterrupt = false) (value : UInt32) :
    wp (timerSetValue timer value) (fun _ final => ∃ state,
      final = (port.withState state).withEvent pEvent
        { port.events pEvent with timerTicks := port.ticksFor value } ∧
      kernel.view state = port.view.withCommands
        (port.view.commands ++ [.stop (port.handle pEvent)])) port := by
  have ticks : (if port.tick.pdMsToTicks value.toNat = 0 then
      port.tick.pdMsToTicks value.toNat + 1 else port.tick.pdMsToTicks value.toNat) =
        port.ticksFor value := by
    rw [TimerPort.ticksFor]
    split_ifs with zero
    · rw [zero]
    · rfl
  rw [timerSetValue, wp_bind, wp_gets, wp_bind, wp_timerEvent here, wp_bind, wp_gets, wp_bind,
    xTimerStop, fromTask, wp_bind, xPortIsInsideInterrupt, wp_gets, wp_ite,
    if_neg (by simp [task])]
  refine wp_mono (wp_xTimerGenericCommand documented room _) ?_
  rintro _ final ⟨state, rfl, view⟩
  rw [setEvent, wp_modify, ticks]
  exact ⟨state, rfl, view⟩

/-- So many ticks are set for a value. -/
structure Within (rate value ticks : ℕ) : Prop where
  some : ticks ≠ 0
  least : leastTicks rate value ≤ ticks
  most : ticks ≤ value * rate / 1000 + 1

/-- A value that does not wrap is set to its ticks. -/
theorem ticksFor_within {value : UInt32}
    (fits : value.toNat * port.tick.configTickRateHz < 2 ^ 32) :
    Within port.tick.configTickRateHz value.toNat (port.ticksFor value) := by
  have whole : port.tick.pdMsToTicks value.toNat =
      value.toNat * port.tick.configTickRateHz / 1000 := by
    rw [KernelTick.pdMsToTicks, Nat.mod_eq_of_lt fits]
  have least := leastTicks_le port.tick.configTickRateHz value.toNat
  rw [TimerPort.ticksFor, whole]
  split_ifs with zero
  · rw [zero] at least
    exact ⟨one_ne_zero, least.trans (Nat.zero_le _), Nat.le_add_left _ _⟩
  · exact ⟨zero, least, Nat.le_succ _⟩

/-! ## The invariant -/

variable [DecidableEq ι]

/-- A software timer agrees with the record, once the latest of its commands is
executed.  Without one, an active timer has called back, or it expires in time,
unless it has expired. -/
def TimerPort.Agrees (port : TimerPort ι kernel) (timer : ι) (pEvent : ℕ) (soft : SoftTimer) :
    Option TimerCommand → Prop
  | none => (∀ expiry ∈ soft.expiry, (pending timer port.log = none ∧
        port.called (port.handle pEvent) = true ∧
        (port.events pEvent).callback.isSome = true) ∨
      ∃ start value, pending timer port.log = some (start, value) ∧
        start + leastTicks port.tick.configTickRateHz value ≤ expiry ∧
        ((port.events pEvent).callback.isSome = true →
          port.calling ≠ some (port.handle pEvent) →
          expiry ≤ start + value * port.tick.configTickRateHz / 1000 + 1 + port.lateness.late)) ∧
      ((pending timer port.log).isSome = true → soft.expiry.isSome = true)
  | some (.changePeriod _ sent period) => ∃ value, pending timer port.log = some (sent, value) ∧
      Within port.tick.configTickRateHz value period
  | some (.stop _) => pending timer port.log = none

/-- A timer that is about to be called back is due for the start that the record
has, unless a command waits for it. -/
def TimerPort.Due (port : TimerPort ι kernel) (timer : ι) (pEvent : ℕ) : Prop :=
  port.calling = some (port.handle pEvent) → port.view.waits (port.handle pEvent) = false →
    (port.events pEvent).callback.isSome = true →
      ∃ start value, pending timer port.log = some (start, value) ∧
        start + leastTicks port.tick.configTickRateHz value ≤ port.tick.tickCount ∧
        port.lateness.idle ≤
          start + value * port.tick.configTickRateHz / 1000 + 1 + port.lateness.late

/-- An object with its event and software timer, as the record has it. -/
structure TimerPort.Tracks (port : TimerPort ι kernel) (timer : ι) (pEvent : ℕ)
    (soft : SoftTimer) : Prop where
  inside : pEvent < port.allocated
  callback : ∀ called ∈ (port.events pEvent).callback, called = timer
  created : port.view.timers (port.handle pEvent) = some soft
  timerID : soft.pvTimerID = pEvent
  reloads : (soft.expiry.isSome = true ∨ ∃ sent period,
    .changePeriod (port.handle pEvent) sent period ∈ port.view.commands) → soft.autoReload = true
  idle : ∀ expiry ∈ soft.expiry, port.lateness.idle ≤ expiry
  value : (port.events pEvent).timerTicks ≠ 0 → ∃ value ∈ lastValue timer port.log,
    Within port.tick.configTickRateHz value (port.events pEvent).timerTicks
  agrees : port.Agrees timer pEvent soft (port.view.lastCommand (port.handle pEvent))
  due : port.Due timer pEvent

/-- A command to change a period was sent since the timer task was idle. -/
def TimerPort.Sent (port : TimerPort ι kernel) (command : TimerCommand) : Prop :=
  ∀ xTimer sent period, command = .changePeriod xTimer sent period →
    port.lateness.idle ≤ sent ∧ sent ≤ port.tick.tickCount ∧ period ≠ 0

/-- The invariant of the port, whether or not the timer task is late. -/
structure PortInv (port : TimerPort ι kernel) : Prop where
  idle : port.lateness.idle ≤ port.tick.tickCount
  lawful : Lawful port.timing port.log
  tracks : ∀ timer pEvent, port.objects timer = some pEvent →
    ∃ soft, port.Tracks timer pEvent soft
  distinct : ∀ timer other pEvent, port.objects timer = some pEvent →
    port.objects other = some pEvent → timer = other
  current : ∀ xTimer, port.view.active xTimer = true ∨ port.view.waits xTimer = true ∨
    port.calling = some xTimer → ∃ timer pEvent, port.objects timer = some pEvent ∧
      port.handle pEvent = xTimer
  sent : ∀ command ∈ port.view.commands, port.Sent command

/-- The invariant of the port. -/
structure PortKept (port : TimerPort ι kernel) : Prop extends PortInv port where
  timely : port.tick.tickCount ≤ port.lateness.idle + port.lateness.late

/-- Nothing changes for an object. -/
structure Unchanged (port final : TimerPort ι kernel) (timer : ι) (pEvent : ℕ) : Prop where
  rate : final.tick.configTickRateHz = port.tick.configTickRateHz
  later : port.tick.tickCount ≤ final.tick.tickCount
  lateness : final.lateness = port.lateness
  allocated : port.allocated ≤ final.allocated
  events : final.events pEvent = port.events pEvent
  timers : final.view.timers (port.handle pEvent) = port.view.timers (port.handle pEvent)
  commands : ∀ command ∈ final.view.commands, command.xTimer = port.handle pEvent →
    command ∈ port.view.commands
  lastCommand : final.view.lastCommand (port.handle pEvent) =
    port.view.lastCommand (port.handle pEvent)
  calling : final.calling = some (port.handle pEvent) ↔ port.calling = some (port.handle pEvent)
  called : final.called (port.handle pEvent) = port.called (port.handle pEvent)
  pending : pending timer final.log = OneShot.pending timer port.log
  lastValue : lastValue timer final.log = OneShot.lastValue timer port.log

theorem TimerPort.Tracks.unchanged (tracks : port.Tracks timer pEvent soft)
    (same : Unchanged port final timer pEvent) : final.Tracks timer pEvent soft := by
  have handle : final.handle pEvent = port.handle pEvent :=
    congrArg TimerEventS.handle same.events
  constructor
  · exact tracks.inside.trans_le same.allocated
  · rw [same.events]
    exact tracks.callback
  · rw [handle, same.timers]
    exact tracks.created
  · exact tracks.timerID
  · rw [handle]
    rintro (active | ⟨sent, period, waits⟩)
    · exact tracks.reloads (.inl active)
    · exact tracks.reloads (.inr ⟨sent, period, same.commands _ waits rfl⟩)
  · rw [same.lateness]
    exact tracks.idle
  · rw [same.events, same.rate, same.lastValue]
    exact tracks.value
  · have agrees := tracks.agrees
    rw [handle, same.lastCommand]
    unfold TimerPort.Agrees at agrees ⊢
    rw [handle, same.events, same.rate, same.lateness, same.called, same.pending]
    cases last : port.view.lastCommand (port.handle pEvent) with
    | none =>
        rw [last] at agrees
        simpa only [ne_eq, same.calling] using agrees
    | some command =>
        rw [last] at agrees
        cases command with
        | changePeriod _ sent period => exact agrees
        | stop _ => exact agrees
  · intro calling none_waits callback
    rw [handle, same.calling] at calling
    rw [handle, ← SoftTimers.lastCommand_eq_none, same.lastCommand,
      SoftTimers.lastCommand_eq_none] at none_waits
    rw [same.events] at callback
    rcases tracks.due calling none_waits callback with ⟨start, value, waits, after, before⟩
    rw [same.rate, same.lateness, same.pending]
    exact ⟨start, value, waits, after.trans same.later, before⟩

/-- A step that touches one object. -/
structure Beside (port : TimerPort ι kernel) (timer : ι) (pEvent : ℕ)
    (final : TimerPort ι kernel) : Prop where
  tick : final.tick = port.tick
  lateness : final.lateness = port.lateness
  allocated : final.allocated = port.allocated
  objects : final.objects = port.objects
  handle : final.handle pEvent = port.handle pEvent
  events : ∀ other, other ≠ pEvent → final.events other = port.events other
  view : port.view.Beside (port.handle pEvent) final.view
  calling : ∀ other, other ≠ port.handle pEvent →
    (final.calling = some other ↔ port.calling = some other)
  called : ∀ other, other ≠ port.handle pEvent → final.called other = port.called other
  pending : ∀ other, other ≠ timer →
    OneShot.pending other final.log = OneShot.pending other port.log
  lastValue : ∀ other, other ≠ timer →
    OneShot.lastValue other final.log = OneShot.lastValue other port.log

/-- Two objects have two events and two software timers. -/
theorem PortInv.handle_ne (inv : PortInv port) {other : ι} {event : ℕ}
    (here : port.objects timer = some pEvent) (there : port.objects other = some event)
    (different : other ≠ timer) : event ≠ pEvent ∧ port.handle event ≠ port.handle pEvent := by
  have events : event ≠ pEvent := by
    rintro rfl
    exact different (inv.distinct other timer event there here)
  refine ⟨events, fun same => ?_⟩
  rcases inv.tracks timer pEvent here with ⟨soft, own⟩
  rcases inv.tracks other event there with ⟨soft', others⟩
  have created := others.created
  rw [same, own.created] at created
  cases created
  exact events (others.timerID.symm.trans own.timerID)

/-- The invariant is kept if it is kept for the object that is touched. -/
theorem PortInv.change (inv : PortInv port) (here : port.objects timer = some pEvent)
    (beside : Beside port timer pEvent final) (lawful : Lawful final.timing final.log)
    (tracks : ∃ soft, final.Tracks timer pEvent soft)
    (sent : ∀ command ∈ final.view.commands, command.xTimer = port.handle pEvent →
      final.Sent command) : PortInv final := by
  constructor
  · rw [beside.lateness, beside.tick]
    exact inv.idle
  · exact lawful
  · intro other event there
    rw [beside.objects] at there
    by_cases same : other = timer
    · subst same
      rw [here] at there
      cases there
      exact tracks
    · rcases inv.handle_ne here there same with ⟨events, handles⟩
      rcases inv.tracks other event there with ⟨soft, others⟩
      refine ⟨soft, others.unchanged ⟨?_, ?_, beside.lateness, beside.allocated.ge,
        beside.events event events, beside.view.timers _ handles, ?_,
        beside.view.lastCommand _ handles, beside.calling _ handles, beside.called _ handles,
        beside.pending other same, beside.lastValue other same⟩⟩
      · rw [beside.tick]
      · rw [beside.tick]
      · intro command mem own
        apply beside.view.commands command mem
        rw [own]
        exact handles
  · rw [beside.objects]
    exact inv.distinct
  · rw [beside.objects]
    intro xTimer busy
    by_cases same : xTimer = port.handle pEvent
    · exact ⟨timer, pEvent, here, beside.handle.trans same.symm⟩
    · have before : port.view.active xTimer = true ∨ port.view.waits xTimer = true ∨
          port.calling = some xTimer := by
        rcases busy with active | waits | calling
        · left
          rwa [SoftTimers.active, SoftTimers.expiry, beside.view.timers xTimer same] at active
        · right
          left
          rcases SoftTimers.waits_iff.mp waits with ⟨command, mem, own⟩
          refine SoftTimers.waits_iff.mpr ⟨command, beside.view.commands command mem ?_, own⟩
          rw [own]
          exact same
        · exact .inr (.inr ((beside.calling xTimer same).mp calling))
      rcases inv.current xTimer before with ⟨other, event, there, rfl⟩
      refine ⟨other, event, there, ?_⟩
      have events : event ≠ pEvent := by
        rintro rfl
        exact same rfl
      exact congrArg TimerEventS.handle (beside.events event events)
  · intro command mem
    by_cases same : command.xTimer = port.handle pEvent
    · exact sent command mem same
    · intro xTimer sent period is_change
      rw [beside.lateness, beside.tick]
      exact inv.sent command (beside.view.commands command mem same) xTimer sent period is_change

/-! ## What a step touches -/

theorem Beside.refl : Beside port timer pEvent port :=
  ⟨rfl, rfl, rfl, rfl, rfl, fun _ _ => rfl, SoftTimers.Beside.refl, fun _ _ => Iff.rfl,
    fun _ _ => rfl, fun _ _ => rfl, fun _ _ => rfl⟩

variable {middle : TimerPort ι kernel} {state : kernel.State} {action : Action ι}

theorem Beside.withState (beside : Beside port timer pEvent middle)
    (view : port.view.Beside (port.handle pEvent) (kernel.view state)) :
    Beside port timer pEvent (middle.withState state) :=
  { beside with view }

theorem Beside.executed (beside : Beside port timer pEvent middle)
    (view : port.view.Beside (port.handle pEvent) (kernel.view state)) :
    Beside port timer pEvent (middle.executed state (port.handle pEvent)) := by
  refine { beside with view, called := ?_ }
  intro other different
  exact (Function.update_of_ne different ..).trans (beside.called other different)

theorem Beside.taken (beside : Beside port timer pEvent middle) (none_called : port.calling = none)
    (view : port.view.Beside (port.handle pEvent) (kernel.view state)) :
    Beside port timer pEvent (middle.taken state (port.handle pEvent)) := by
  refine { beside with view, calling := ?_ }
  intro other different
  rw [none_called]
  constructor
  · rintro ⟨⟩
    exact absurd rfl different
  · rintro ⟨⟩

theorem Beside.returned (beside : Beside port timer pEvent middle)
    (calling : port.calling = some (port.handle pEvent)) :
    Beside port timer pEvent (middle.returned (port.handle pEvent)) := by
  refine { beside with calling := ?_, called := ?_ }
  · intro other different
    rw [calling]
    constructor
    · rintro ⟨⟩
    · rintro ⟨⟩
      exact absurd rfl different
  · intro other different
    exact (Function.update_of_ne different ..).trans (beside.called other different)

theorem Beside.withEvent (beside : Beside port timer pEvent middle) {event : TimerEventS ι}
    (handle : event.handle = port.handle pEvent) :
    Beside port timer pEvent (middle.withEvent pEvent event) := by
  have stored : (middle.withEvent pEvent event).events pEvent = event :=
    Function.update_self ..
  refine { beside with handle := ?_, events := ?_ }
  · exact (congrArg TimerEventS.handle stored).trans handle
  · intro other different
    exact (Function.update_of_ne different ..).trans (beside.events other different)

/-- An action on the object is recorded, or a question. -/
theorem Beside.noted (beside : Beside port timer pEvent middle)
    (own : ∀ other, other ≠ timer → action.changes ≠ some other) :
    Beside port timer pEvent (middle.noted action) := by
  refine { beside with pending := ?_, lastValue := ?_ }
  · intro other different
    exact (pending_cons_other (own other different)).trans (beside.pending other different)
  · intro other different
    exact (lastValue_cons_other (own other different)).trans (beside.lastValue other different)

omit [DecidableEq ι] in
/-- A change of the object does not change others. -/
theorem changes_ne (own : action.changes = some timer) (other : ι) (different : other ≠ timer) :
    action.changes ≠ some other := by
  rw [own]
  exact fun same => different (Option.some.inj same).symm

/-- A timer for which a command waits need not be due. -/
theorem TimerPort.due_of_waits (waits : port.view.waits (port.handle pEvent) = true) :
    port.Due timer pEvent := by
  intro _ none_waits
  rw [waits] at none_waits
  cases none_waits

end Tracks

end GenericNode.FreeRtos
