import GenericNode.Buzzer.Driver
import GenericNode.Lpm.StopMode
import GenericNode.Freefall.TimerView

/-!
# The notification of a free fall

The handler of a downlink in the thread, the button handler that preempts it,
and the alarm callback that preempts both, as lists of the calls that they
make.  A call is one step.
-/

namespace GenericNode.Freefall

open GenericNode.Library
open GenericNode.Library.Prog
open GenericNode.Buzzer
open GenericNode.Lpm

/-! ## The calls -/

/-- The calls of the three contexts, and the switch of the toggle. -/
inductive Call where
  | utilTimerCreate
  | utilTimerSetPeriod
  | utilTimerStart
  | utilTimerStop
  | buzzerSetState (state : BuzzerState)
  | buzzerDeInit
  | gnseLpmSetStopMode (state : GnseLpmState)
  | toggle
deriving DecidableEq, Repr

/-- `ACC_FF_DOWNLINK_PORT`. -/
def accFfDownlinkPort : ℕ :=
  1

/-- `ACC_FreeFall_Downlink_Handler`. -/
def accFreeFallDownlinkHandler (port : ℕ) : List Call :=
  if port = accFfDownlinkPort then
    [.utilTimerCreate, .utilTimerSetPeriod, .utilTimerStart, .buzzerSetState .off]
  else []

/-- `ACC_Downlink_Callback`. -/
def accDownlinkCallback (buzzerState : Bool) : List Call :=
  if buzzerState then
    [.gnseLpmSetStopMode .disable, .buzzerSetState .danger, .toggle, .utilTimerStart]
  else
    [.buzzerSetState .off, .buzzerDeInit, .gnseLpmSetStopMode .enable, .toggle, .utilTimerStart]

/-- `ACC_Disable_FreeFall_Notification`. -/
def accDisableFreeFallNotification : List Call :=
  [.buzzerSetState .off, .buzzerDeInit, .utilTimerStop, .gnseLpmSetStopMode .enable]

/-- What the contexts share: the buzzer, the toggle of the callback, the timer
and the mask of the low-power manager. -/
structure Device where
  buzzer : Driver
  toggle : Bool
  timer : DownlinkTimer
  stopModeDisable : GnseLpmBm
deriving DecidableEq, Repr

/-- `BUZZER_SetState` without an interrupt of the buzzer. -/
def callBuzzerSetState (succeeds : InitStatement → Bool) (state : BuzzerState)
    (buzzer : Driver) : Driver :=
  if state ≠ buzzer.buzzerState then runBody succeeds state.body buzzer else buzzer

/-- `BUZZER_DeInit` of a timer that was initialised before. -/
def callBuzzerDeInit (buzzer : Driver) : Driver :=
  Buzzer.buzzerDeInit.foldl (fun buzzer statement => statement.apply buzzer) buzzer

/-- What the environment decides at a call: the results of the HAL, and whether
no other timer runs. -/
structure Outcome where
  succeeds : InitStatement → Bool
  isEmpty : Bool

/-- A call. -/
def Call.apply (outcome : Outcome) (device : Device) : Call → Device
  | .utilTimerCreate => { device with timer := device.timer.create }
  | .utilTimerSetPeriod => { device with timer := device.timer.setPeriod }
  | .utilTimerStart => { device with timer := device.timer.start }
  | .utilTimerStop => { device with timer := device.timer.stop outcome.isEmpty }
  | .buzzerSetState state =>
      { device with buzzer := callBuzzerSetState outcome.succeeds state device.buzzer }
  | .buzzerDeInit => { device with buzzer := callBuzzerDeInit device.buzzer }
  | .gnseLpmSetStopMode state =>
      { device with
        stopModeDisable :=
          Lpm.gnseLpmSetStopMode gnseLpmTimBuzzer.bit state device.stopModeDisable }
  | .toggle => { device with toggle := !device.toggle }

/-- A call returns; ending a timer that was never initialised does not. -/
def Call.Returns (device : Device) : Call → Prop
  | .buzzerDeInit => device.buzzer.timer.hasInstance = true
  | _ => True

instance (device : Device) : ∀ call : Call, Decidable (call.Returns device)
  | .buzzerDeInit => inferInstanceAs (Decidable (_ = _))
  | .utilTimerCreate | .utilTimerSetPeriod | .utilTimerStart | .utilTimerStop
  | .buzzerSetState _ | .gnseLpmSetStopMode _ | .toggle => .isTrue trivial

/-! ## The contexts -/

/-- The device and the calls ahead of the three contexts; for the record,
whether the button handler has returned since the last downlink, and whether the
timer, when it expired last since that handler turned the buzzer off, called back
to turn it on. -/
structure Notification where
  device : Device
  thread : List Call
  button : List Call
  alarm : List Call
  disabled : Bool
  raised : Bool
deriving DecidableEq, Repr

/-- A downlink, a press of the button, the expiry of the timer, the next call
of a context, and a vote of another requester. -/
inductive NotificationEvent where
  | downlink (port : ℕ)
  | press
  | expire
  | thread (outcome : Outcome)
  | button (outcome : Outcome)
  | alarm (outcome : Outcome)
  | vote (requester : GnseLpmId) (state : GnseLpmState)

/-- The alarm preempts the button handler, which preempts the thread. -/
def notificationEnabled (state : Notification) : NotificationEvent → Prop
  | .downlink _ => state.alarm = [] ∧ state.button = [] ∧ state.thread = []
  | .press => state.alarm = [] ∧ state.button = []
  | .expire => state.alarm = [] ∧ state.device.timer.isLinked = true
  | .thread _ => state.alarm = [] ∧ state.button = [] ∧ state.thread ≠ []
  | .button _ => state.alarm = [] ∧ state.button ≠ []
  | .alarm _ => state.alarm ≠ []
  | .vote requester _ => requester ≠ gnseLpmTimBuzzer

instance (state : Notification) :
    ∀ event : NotificationEvent, Decidable (notificationEnabled state event)
  | .downlink _ => inferInstanceAs (Decidable (_ ∧ _))
  | .press => inferInstanceAs (Decidable (_ ∧ _))
  | .expire => inferInstanceAs (Decidable (_ ∧ _))
  | .thread _ => inferInstanceAs (Decidable (_ ∧ _))
  | .button _ => inferInstanceAs (Decidable (_ ∧ _))
  | .alarm _ => inferInstanceAs (Decidable (_ ≠ _))
  | .vote _ _ => inferInstanceAs (Decidable (_ ≠ _))

/-- The next of the calls ahead: the device after it, and the calls that are
still ahead. -/
def nextCall (outcome : Outcome) (device : Device) : List Call → Device × List Call
  | [] => (device, [])
  | call :: ahead =>
      if call.Returns device then (call.apply outcome device, ahead)
      else (device, call :: ahead)

/-- What happens at an event. -/
def notificationStep : NotificationEvent → Notification → Notification
  | .downlink port, state =>
      { state with
        thread := accFreeFallDownlinkHandler port
        disabled := if port = accFfDownlinkPort then false else state.disabled }
  | .press, state => { state with button := accDisableFreeFallNotification }
  | .expire, state =>
      { state with
        device := { state.device with timer := state.device.timer.expire }
        alarm := accDownlinkCallback state.device.toggle
        raised := state.device.toggle }
  | .thread outcome, state =>
      let (device, ahead) := nextCall outcome state.device state.thread
      { state with device := device, thread := ahead }
  | .button outcome, state =>
      let (device, ahead) := nextCall outcome state.device state.button
      { state with
        device := device
        button := ahead
        disabled := if ahead = [] then true else state.disabled
        raised := if state.button.head? = some (.buzzerSetState .off) then false
          else state.raised }
  | .alarm outcome, state =>
      let (device, ahead) := nextCall outcome state.device state.alarm
      { state with device := device, alarm := ahead }
  | .vote requester vote, state =>
      { state with
        device := { state.device with
          stopModeDisable :=
            Lpm.gnseLpmSetStopMode requester.bit vote state.device.stopModeDisable } }

/-- The three contexts. -/
def notificationMachine : Machine Notification NotificationEvent where
  enabled := notificationEnabled
  step event := modify (notificationStep event)

instance (state : Notification) (event : NotificationEvent) :
    Decidable (notificationMachine.enabled state event) :=
  inferInstanceAs (Decidable (notificationEnabled state event))

/-- After a reset. -/
def notificationBoot : Notification where
  device :=
    { buzzer := buzzerBoot.driver
      toggle := true
      timer := ⟨false, false⟩
      stopModeDisable := gnseLpmInit .sleepStop }
  thread := []
  button := []
  alarm := []
  disabled := false
  raised := false

end GenericNode.Freefall
