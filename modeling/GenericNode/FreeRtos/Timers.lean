import GenericNode.FreeRtos.SoftTimers
import GenericNode.FreeRtos.Ticks
import GenericNode.Library.Machine
import GenericNode.Library.OneShot

/-!
# The timers of the FreeRTOS port

`timer.c` of the LoRaWAN port over the software timers of the kernel.  A timer
that is started is set to reload itself, and what is asked of the kernel waits
for its timer task.
-/

namespace GenericNode.FreeRtos

open GenericNode.Library
open GenericNode.Library.Prog
open GenericNode.Library.OneShot

/-- `TimerEvent_s`; the callback, if not null, is known by the object that it
was given for. -/
structure TimerEventS (ι : Type) where
  handle : ℕ
  callback : Option ι
  timerTicks : ℕ

/-- The tick and the software timers of the kernel, the memory of events, by
address, the objects, and the software timer that the timer task is about to
call back; for the record, what was done, which software timers have called back
since their periods were changed, and how late the timer task is. -/
structure TimerPort (ι : Type) (kernel : TimerKernel) where
  tick : KernelTick
  state : kernel.State
  allocated : ℕ
  events : ℕ → TimerEventS ι
  objects : ι → Option ℕ
  calling : Option ℕ
  log : List (Entry ι)
  called : ℕ → Bool
  lateness : Lateness

section Port

variable {ι : Type} {kernel : TimerKernel}

/-- What the kernel shows. -/
def TimerPort.view (port : TimerPort ι kernel) : SoftTimers :=
  kernel.view port.state

/-- Record an action. -/
def TimerPort.noted (port : TimerPort ι kernel) (action : Action ι) : TimerPort ι kernel :=
  { port with log := ⟨port.tick.tickCount, action⟩ :: port.log }

/-- Record what happens. -/
def note (action : Action ι) : Prog (TimerPort ι kernel) Unit :=
  modify fun port => port.noted action

/-- `pvPortMalloc`: a fresh address; memory that is exhausted ends in an
assertion. -/
def pvPortMalloc : Prog (TimerPort ι kernel) ℕ := do
  let address ← gets TimerPort.allocated
  modify fun port => { port with allocated := port.allocated + 1 }
  return address

/-- The port with another event at an address. -/
def TimerPort.withEvent (port : TimerPort ι kernel) (pEvent : ℕ) (event : TimerEventS ι) :
    TimerPort ι kernel :=
  { port with events := Function.update port.events pEvent event }

/-- The port with another state of the kernel. -/
def TimerPort.withState (port : TimerPort ι kernel) (state : kernel.State) :
    TimerPort ι kernel :=
  { port with state }

/-- The port after the timer task has executed a command for a software timer. -/
def TimerPort.executed (port : TimerPort ι kernel) (state : kernel.State) (xTimer : ℕ) :
    TimerPort ι kernel :=
  { port with state, called := Function.update port.called xTimer false }

/-- The port after the timer task has taken a software timer that has expired. -/
def TimerPort.taken (port : TimerPort ι kernel) (state : kernel.State) (xTimer : ℕ) :
    TimerPort ι kernel :=
  { port with state, calling := some xTimer }

/-- The port after the callback of a software timer. -/
def TimerPort.returned (port : TimerPort ι kernel) (xTimer : ℕ) : TimerPort ι kernel :=
  { port with calling := none, called := Function.update port.called xTimer true }

/-- Store to an event. -/
def setEvent (pEvent : ℕ) (change : TimerEventS ι → TimerEventS ι) :
    Prog (TimerPort ι kernel) Unit :=
  modify fun port => port.withEvent pEvent (change (port.events pEvent))

/-! ## The calls of the kernel -/

/-- `xTimerCreate`. -/
def xTimerCreate (xTimerPeriodInTicks : ℕ) (xAutoReload : Bool) (pvTimerID : ℕ) :
    Prog (TimerPort ι kernel) ℕ := do
  let port ← gets id
  let (xTimer, state) :=
    kernel.xTimerCreate xTimerPeriodInTicks xAutoReload pvTimerID port.state
  modify fun port => port.withState state
  return xTimer

/-- `vTimerSetReloadMode`. -/
def vTimerSetReloadMode (xTimer : ℕ) (xAutoReload : Bool) : Prog (TimerPort ι kernel) Unit :=
  modify fun port => port.withState (kernel.vTimerSetReloadMode xTimer xAutoReload port.state)

/-- `xTimerGenericCommand`; the port looks at no result. -/
def xTimerGenericCommand (command : TimerCommand) : Prog (TimerPort ι kernel) Unit :=
  modify fun port => port.withState (kernel.xTimerGenericCommand command port.state).2

/-- `xPortIsInsideInterrupt`. -/
def xPortIsInsideInterrupt : Prog (TimerPort ι kernel) Bool :=
  gets fun port => port.tick.insideInterrupt

/-- A call that must not come from an interrupt. -/
def fromTask (call : Prog (TimerPort ι kernel) Unit) : Prog (TimerPort ι kernel) Unit := do
  let inside ← xPortIsInsideInterrupt
  if inside then undefined else call

/-- The command to change the period, sent now. -/
def changePeriod (xTimer xNewPeriod : ℕ) : Prog (TimerPort ι kernel) Unit := do
  let port ← gets id
  xTimerGenericCommand (.changePeriod xTimer port.tick.tickCount xNewPeriod)

/-- `xTimerChangePeriod`, which waits for room in the queue. -/
def xTimerChangePeriod (xTimer xNewPeriod : ℕ) : Prog (TimerPort ι kernel) Unit :=
  fromTask (changePeriod xTimer xNewPeriod)

/-- `xTimerChangePeriodFromISR`, which is lost when the queue is full. -/
def xTimerChangePeriodFromISR (xTimer xNewPeriod : ℕ) : Prog (TimerPort ι kernel) Unit :=
  changePeriod xTimer xNewPeriod

/-- `xTimerStop`, which waits for room in the queue. -/
def xTimerStop (xTimer : ℕ) : Prog (TimerPort ι kernel) Unit :=
  fromTask (xTimerGenericCommand (.stop xTimer))

/-- `xTimerStopFromISR`, which is lost when the queue is full. -/
def xTimerStopFromISR (xTimer : ℕ) : Prog (TimerPort ι kernel) Unit :=
  xTimerGenericCommand (.stop xTimer)

/-- `xTimerIsTimerActive`. -/
def xTimerIsTimerActive (xTimer : ℕ) : Prog (TimerPort ι kernel) Bool :=
  gets fun port => kernel.xTimerIsTimerActive xTimer port.state

/-- `pvTimerGetTimerID`. -/
def pvTimerGetTimerID (xTimer : ℕ) : Prog (TimerPort ι kernel) ℕ :=
  gets fun port => kernel.pvTimerGetTimerID xTimer port.state

/-! ## The port -/

/-- `( struct TimerEvent_s * ) ( *obj )`, which must not be null. -/
def timerEvent (obj : ι) : Prog (TimerPort ι kernel) ℕ := do
  let object ← gets fun port => port.objects obj
  lift object

/-- `prvCallbackExecutor`. -/
def prvCallbackExecutor (xTimer : ℕ) : Prog (TimerPort ι kernel) Unit := do
  let pEvent ← pvTimerGetTimerID xTimer
  let event ← gets fun port => port.events pEvent
  match event.callback with
  | some callback => note (.callback callback)
  | none => pure ()

section Objects

variable [DecidableEq ι]

/-- `TimerInit`: a one-shot timer of one tick. -/
def timerInit (obj : ι) (callback : Option ι) : Prog (TimerPort ι kernel) Unit := do
  let pEvent ← pvPortMalloc
  setEvent pEvent fun _ => { handle := 0, callback := callback, timerTicks := 0 }
  let timerHandle ← xTimerCreate 1 false pEvent
  setEvent pEvent fun event => { event with handle := timerHandle }
  modify fun port => { port with objects := Function.update port.objects obj (some pEvent) }

end Objects

/-- `TimerStart`: the timer is set to reload itself. -/
def timerStart (obj : ι) : Prog (TimerPort ι kernel) Unit := do
  let pEvent ← timerEvent obj
  let event ← gets fun port => port.events pEvent
  vTimerSetReloadMode event.handle true
  let inside ← xPortIsInsideInterrupt
  if inside then
    xTimerChangePeriodFromISR event.handle event.timerTicks
  else
    xTimerChangePeriod event.handle event.timerTicks

/-- `TimerIsStarted`. -/
def timerIsStarted (obj : ι) : Prog (TimerPort ι kernel) Bool := do
  let pEvent ← timerEvent obj
  let event ← gets fun port => port.events pEvent
  xTimerIsTimerActive event.handle

/-- `TimerStop`. -/
def timerStop (obj : ι) : Prog (TimerPort ι kernel) Unit := do
  let pEvent ← timerEvent obj
  let event ← gets fun port => port.events pEvent
  let inside ← xPortIsInsideInterrupt
  if inside then
    xTimerStopFromISR event.handle
  else
    xTimerStop event.handle

/-- `TimerSetValue`: the timer is stopped, and gets one tick at least. -/
def timerSetValue (obj : ι) (value : UInt32) : Prog (TimerPort ι kernel) Unit := do
  let tick ← gets TimerPort.tick
  let ticks := tick.pdMsToTicks value.toNat
  let pEvent ← timerEvent obj
  let ticks := if ticks = 0 then ticks + 1 else ticks
  let event ← gets fun port => port.events pEvent
  xTimerStop event.handle
  setEvent pEvent fun event => { event with timerTicks := ticks }

/-! ## The timer task -/

/-- The timer task executes the command that it takes next. -/
def prvProcessReceivedCommand : Prog (TimerPort ι kernel) Unit := do
  let port ← gets id
  match port.view.commands with
  | [] => undefined
  | command :: _ =>
      modify fun port =>
        port.executed (kernel.processCommand port.tick.tickCount port.state) command.xTimer

/-- The timer task takes an expired timer, which reloads itself or ends; its
callback is next. -/
def prvProcessExpiredTimer (xTimer : ℕ) : Prog (TimerPort ι kernel) Unit :=
  modify fun port =>
    port.taken (kernel.processExpired port.tick.tickCount xTimer port.state) xTimer

/-- The timer task executes the callback of the timer that it took. -/
def prvExecuteCallback : Prog (TimerPort ι kernel) Unit := do
  let xTimer ← gets TimerPort.calling
  let xTimer ← lift xTimer
  prvCallbackExecutor xTimer
  modify fun port => port.returned xTimer

/-! ## Runs -/

/-- The kernel counts a tick, a call begins in a task or an interrupt, a call of
the port, or the timer task takes a command or a timer that has expired, or
executes the callback of that timer. -/
inductive PortEvent (ι : Type) where
  | tick
  | context (insideInterrupt : Bool)
  | init (timer : ι) (hasCallback : Bool)
  | setValue (timer : ι) (value : UInt32)
  | start (timer : ι)
  | stop (timer : ι)
  | isStarted (timer : ι)
  | command
  | expire (xTimer : ℕ)
  | callback

/-- The software timer of an object. -/
def TimerPort.handle (port : TimerPort ι kernel) (pEvent : ℕ) : ℕ :=
  (port.events pEvent).handle

/-- A software timer has expired. -/
def TimerPort.expired (port : TimerPort ι kernel) (xTimer : ℕ) : Bool :=
  port.view.expired port.tick.tickCount xTimer

/-- When an event can happen: a call from a task waits until the queue has room,
and the timer task does one thing at a time, outside of interrupts. -/
def portEnabled (port : TimerPort ι kernel) : PortEvent ι → Prop
  | .tick | .context _ | .init _ _ => True
  | .setValue timer _ => (port.objects timer).isSome = true ∧ kernel.Room port.state
  | .start timer | .stop timer => (port.objects timer).isSome = true ∧
      (port.tick.insideInterrupt = false → kernel.Room port.state)
  | .isStarted timer => (port.objects timer).isSome = true
  | .command => port.tick.insideInterrupt = false ∧ port.calling = none ∧
      port.view.commands ≠ []
  | .expire xTimer => port.tick.insideInterrupt = false ∧ port.calling = none ∧
      port.expired xTimer = true
  | .callback => port.tick.insideInterrupt = false ∧ port.calling.isSome = true

instance (port : TimerPort ι kernel) : ∀ event, Decidable (portEnabled port event)
  | .tick | .context _ | .init _ _ => .isTrue trivial
  | .setValue _ _ => inferInstanceAs (Decidable (_ ∧ _))
  | .start _ | .stop _ => inferInstanceAs (Decidable (_ ∧ _))
  | .isStarted _ => inferInstanceAs (Decidable (_ = _))
  | .command | .expire _ | .callback => inferInstanceAs (Decidable (_ ∧ _))

section Steps

variable [DecidableEq ι]

/-- What happens at an event, and is recorded. -/
def portEvent : PortEvent ι → Prog (TimerPort ι kernel) Unit
  | .tick => modify fun port =>
      { port with tick := port.tick.counting (port.tick.tickCount + 1) }
  | .context insideInterrupt => modify fun port =>
      { port with tick := { port.tick with insideInterrupt } }
  | .init timer hasCallback => do
      timerInit timer (if hasCallback then some timer else none)
      note (.init timer)
  | .setValue timer value => do
      timerSetValue timer value
      note (.setValue timer value.toNat)
  | .start timer => do
      timerStart timer
      note (.start timer)
  | .stop timer => do
      timerStop timer
      note (.stop timer)
  | .isStarted timer => do
      let answer ← timerIsStarted timer
      note (.isStarted timer answer)
  | .command => prvProcessReceivedCommand
  | .expire xTimer => prvProcessExpiredTimer xTimer
  | .callback => prvExecuteCallback

variable [Fintype ι]

/-- The timer task has something to do. -/
def TimerPort.busy (port : TimerPort ι kernel) : Bool :=
  (!port.view.commands.isEmpty || port.calling.isSome) ||
    decide (∃ timer,
      (port.objects timer).any (fun pEvent => port.expired (port.handle pEvent)) = true)

/-- The port with the lateness of its timer task. -/
def TimerPort.observed (port : TimerPort ι kernel) : TimerPort ι kernel :=
  { port with lateness := port.lateness.observe port.busy port.tick.tickCount }

/-- A step, and how late the timer task is then. -/
def portStep (event : PortEvent ι) : Prog (TimerPort ι kernel) Unit := do
  portEvent event
  modify TimerPort.observed

/-- The timers of the port. -/
def portMachine (ι : Type) [DecidableEq ι] [Fintype ι] (kernel : TimerKernel) :
    Machine (TimerPort ι kernel) (PortEvent ι) where
  enabled := portEnabled
  step := portStep

instance (port : TimerPort ι kernel) (event : PortEvent ι) :
    Decidable ((portMachine ι kernel).enabled port event) :=
  inferInstanceAs (Decidable (portEnabled port event))

end Steps

/-- The port without timers. -/
def portBoot (tick : KernelTick) (state : kernel.State) : TimerPort ι kernel where
  tick := tick
  state := state
  allocated := 0
  events := fun _ => ⟨0, none, 0⟩
  objects := fun _ => none
  calling := none
  log := []
  called := fun _ => false
  lateness := ⟨tick.tickCount, 0⟩

/-- A timer that has called back is active, and calls back once more. -/
def TimerPort.Stale (port : TimerPort ι kernel) (xTimer : ℕ) : Prop :=
  port.view.active xTimer = true ∧ port.called xTimer = true ∧
    (port.events (kernel.pvTimerGetTimerID xTimer port.state)).callback.isSome = true

instance (port : TimerPort ι kernel) (xTimer : ℕ) : Decidable (port.Stale xTimer) :=
  inferInstanceAs (Decidable (_ ∧ _))

/-- A software timer is dormant: no command waits for it, and it is not about to
be called back. -/
def TimerPort.Dormant (port : TimerPort ι kernel) (xTimer : ℕ) : Prop :=
  port.view.active xTimer = false ∧ port.view.waits xTimer = false ∧ port.calling ≠ some xTimer

instance (port : TimerPort ι kernel) (xTimer : ℕ) : Decidable (port.Dormant xTimer) :=
  inferInstanceAs (Decidable (_ ∧ _))

/-- The condition on a step: a timer neither expires nor is asked for while a
command waits for it or it has called back already, and is not called back when
a command waits; it is initialized while it is dormant; values do not wrap in
ticks, and one is set before a start; what an interrupt asks is not lost, and is
not what only a task may ask. -/
def portFits (port : TimerPort ι kernel) : PortEvent ι → Prop
  | .tick | .context _ | .command => True
  | .init timer _ => ∀ pEvent ∈ port.objects timer, port.Dormant (port.handle pEvent)
  | .setValue _ value => port.tick.insideInterrupt = false ∧
      value.toNat * port.tick.configTickRateHz < 2 ^ 32
  | .start timer => kernel.Room port.state ∧
      ∀ pEvent ∈ port.objects timer, (port.events pEvent).timerTicks ≠ 0
  | .stop timer => kernel.Room port.state ∨
      ∀ pEvent ∈ port.objects timer, port.Dormant (port.handle pEvent)
  | .isStarted timer => ∀ pEvent ∈ port.objects timer,
      port.view.waits (port.handle pEvent) = false ∧ ¬ port.Stale (port.handle pEvent)
  | .expire xTimer => port.view.waits xTimer = false ∧ ¬ port.Stale xTimer
  | .callback => ∀ xTimer ∈ port.calling, port.view.waits xTimer = false

instance (port : TimerPort ι kernel) : ∀ event, Decidable (portFits port event)
  | .tick | .context _ | .command => .isTrue trivial
  | .init _ _ | .isStarted _ | .callback => inferInstanceAs (Decidable (∀ _ ∈ _, _))
  | .setValue _ _ | .start _ | .expire _ => inferInstanceAs (Decidable (_ ∧ _))
  | .stop _ => inferInstanceAs (Decidable (_ ∨ _))

/-- When the port calls back: the value has elapsed, to one tick, and the timer
task takes its time twice. -/
def portTiming (configTickRateHz : ℕ) (lateness : Lateness) : Timing where
  earliest value start := start + leastTicks configTickRateHz value
  latest value start _ := start + value * configTickRateHz / 1000 + 1 + 2 * lateness.late

/-- The times at which this port calls back. -/
def TimerPort.timing (port : TimerPort ι kernel) : Timing :=
  portTiming port.tick.configTickRateHz port.lateness

end Port

end GenericNode.FreeRtos
