import GenericNode.Library.Machine
import GenericNode.Sensors.Sampling

/-!
# The button of `sensors_lorawan_se`

`SendTxData` statement by statement, with the interrupt of the button between
any two of its statements.
-/

namespace GenericNode.SensorsLorawan

open GenericNode.Library
open GenericNode.Library.Prog

/-- The statement of `SendTxData` that comes next. -/
inductive Statement where
  | outside | ledOn | sample | fallback | keep | build | readButton | send | ledOff | clear
deriving DecidableEq, Repr

/-- `LED_RED` and `LED_BLUE`. -/
structure Leds where
  red : Bool
  blue : Bool
deriving DecidableEq, Repr

/-- The task with its locals and `AppData`, the flag, and the presses counted:
all of them, those before the read that filled byte 5, and those before that
read for the last accepted uplink. -/
structure ButtonState where
  next : Statement
  buttonPress : ℕ
  leds : Leds
  fallback : Fallback
  rc : SensorsOpResult
  sensorData : Sensors
  appData : LmHandlerAppData
  presses : ℕ
  carried : ℕ
  accepted : ℕ

/-- `BUTTON_SW1_PIN`. -/
def buttonSw1Pin : ℕ :=
  2 ^ 3

/-- `HAL_GPIO_EXTI_Callback`. -/
def halGpioExtiCallback (gpioPin : ℕ) (state : ButtonState) : ButtonState :=
  if gpioPin = buttonSw1Pin then
    { state with buttonPress := 1, presses := state.presses + 1 }
  else state

/-- The LED of the uplink: red when the button is pressed. -/
def Leds.set (leds : Leds) (buttonPress : ℕ) (lit : Bool) : Leds :=
  if buttonPress = 1 then { leds with red := lit } else { leds with blue := lit }

/-- What the environment decides at a statement: the sampling, memory before
it, and the answer of `LmHandlerSend`. -/
structure Environment where
  hardware : Hardware
  garbage : Uninitialised
  accepts : Bool

/-- One statement of `SendTxData`. -/
def sendTxDataStatement (environment : Environment) (state : ButtonState) : ButtonState :=
  match state.next with
  | .outside => state
  | .ledOn =>
      { state with next := .sample, leds := state.leds.set state.buttonPress true }
  | .sample =>
      let (rc, sensorData) := sensorsSample environment.hardware environment.garbage
      { state with next := .fallback, rc := rc, sensorData := sensorData }
  | .fallback =>
      { state with
        next := .keep
        sensorData := withFallback state.rc state.fallback state.sensorData }
  | .keep => { state with next := .build, fallback := state.sensorData.fallback }
  | .build =>
      -- Byte 5 keeps the value of the previous uplink until it is written.
      { state with
        next := .readButton
        appData := sensorsLorawanSeAppData state.sensorData (state.appData.buffer.getD 5 0) }
  | .readButton =>
      { state with
        next := .send
        appData := { state.appData with buffer := state.appData.buffer.set 5 state.buttonPress }
        carried := state.presses }
  | .send =>
      { state with
        next := .ledOff
        accepted := if environment.accepts then state.carried else state.accepted }
  | .ledOff => { state with next := .clear, leds := state.leds.set state.buttonPress false }
  | .clear => { state with next := .outside, buttonPress := 0 }

/-- The sequencer runs the task, the task goes on, or a pin interrupts. -/
inductive ButtonEvent where
  | run
  | statement (environment : Environment)
  | exti (gpioPin : ℕ)

/-- The task with the interrupts of the pins. -/
def buttonMachine : Machine ButtonState ButtonEvent where
  enabled state event :=
    match event with
    | .run => state.next = .outside
    | .statement _ => state.next ≠ .outside
    | .exti _ => True
  step
    | .run => modify fun state => { state with next := .ledOn }
    | .statement environment => modify (sendTxDataStatement environment)
    | .exti gpioPin => modify (halGpioExtiCallback gpioPin)

/-- The state after the start of the application. -/
def buttonBoot : ButtonState where
  next := .outside
  buttonPress := 0
  leds := ⟨false, false⟩
  fallback := initialFallback
  rc := .success
  sensorData := ⟨0, 0, 0⟩
  appData := ⟨0, []⟩
  presses := 0
  carried := 0
  accepted := 0

/-- The flag tells of a press since the read for the last accepted uplink. -/
def PressKept (state : ButtonState) : Prop :=
  state.accepted < state.presses → state.buttonPress = 1

/-- Byte 5 is filled and the flag is not cleared yet. -/
def Statement.IsWindow (next : Statement) : Prop :=
  next = .send ∨ next = .ledOff ∨ next = .clear

instance (next : Statement) : Decidable next.IsWindow :=
  inferInstanceAs (Decidable (_ ∨ _))

/-- No press in the window, and no refused uplink while the flag is set. -/
def Unhurried (state : ButtonState) : ButtonEvent → Prop
  | .run => True
  | .statement environment =>
      state.next = .send → environment.accepts = false → state.buttonPress ≠ 1
  | .exti gpioPin => gpioPin = buttonSw1Pin → ¬ state.next.IsWindow

instance (state : ButtonState) (event : ButtonEvent) : Decidable (Unhurried state event) := by
  cases event with
  | run => exact .isTrue trivial
  | statement environment =>
      exact inferInstanceAs (Decidable (_ → _ → _))
  | exti gpioPin => exact inferInstanceAs (Decidable (_ → _))

instance (state : ButtonState) (event : ButtonEvent) :
    Decidable (buttonMachine.enabled state event) := by
  cases event with
  | run => exact inferInstanceAs (Decidable (_ = _))
  | statement environment => exact inferInstanceAs (Decidable (_ ≠ _))
  | exti gpioPin => exact .isTrue trivial

/-- The bookkeeping of the presses at each statement: once the uplink of the
window is decided, no press is left to tell of. -/
structure Pressed (state : ButtonState) : Prop where
  kept : state.next ≠ .ledOff → state.next ≠ .clear → PressKept state
  carried : state.next = .send → state.carried = state.presses
  told : state.next = .ledOff ∨ state.next = .clear → state.presses ≤ state.accepted

theorem pressed_boot : Pressed buttonBoot := by
  refine ⟨fun _ _ pending => ?_, fun sending => ?_, fun window => ?_⟩
  · exact absurd pending (Nat.lt_irrefl 0)
  · cases sending
  · rcases window with window | window <;> cases window

/-- A press outside the window. -/
theorem Pressed.exti {state : ButtonState} (pressed : Pressed state) {gpioPin : ℕ}
    (unhurried : gpioPin = buttonSw1Pin → ¬ state.next.IsWindow) :
    Pressed (halGpioExtiCallback gpioPin state) := by
  rw [halGpioExtiCallback]
  by_cases button : gpioPin = buttonSw1Pin
  · have early := unhurried button
    rw [if_pos button]
    refine ⟨fun _ _ _ => rfl, fun sending => ?_, fun window => ?_⟩
    · exact absurd (.inl sending) early
    · exact absurd (.inr window) early
  · rw [if_neg button]
    exact pressed

/-- A step outside the window that leaves the flag and the counts alone. -/
theorem Pressed.early {state after : ButtonState} (pressed : Pressed state)
    (before : ¬ state.next.IsWindow) (early : ¬ after.next.IsWindow)
    (buttonPress : after.buttonPress = state.buttonPress)
    (presses : after.presses = state.presses) (accepted : after.accepted = state.accepted) :
    Pressed after := by
  rw [Statement.IsWindow, not_or, not_or] at before
  refine ⟨fun _ _ => ?_, fun sending => ?_, fun window => ?_⟩
  · rw [PressKept, buttonPress, presses, accepted]
    exact pressed.kept before.2.1 before.2.2
  · exact absurd (.inl sending) early
  · exact absurd (.inr window) early

/-- The read that fills byte 5. -/
theorem Pressed.readButton {state after : ButtonState} (pressed : Pressed state)
    (before : state.next = .readButton) (next : after.next = .send)
    (buttonPress : after.buttonPress = state.buttonPress)
    (presses : after.presses = state.presses) (accepted : after.accepted = state.accepted)
    (carried : after.carried = state.presses) : Pressed after := by
  refine ⟨fun _ _ => ?_, fun _ => carried.trans presses.symm, fun window => ?_⟩
  · rw [PressKept, buttonPress, presses, accepted]
    apply pressed.kept <;> rw [before] <;> decide
  · rw [next] at window
    rcases window with window | window <;> cases window

/-- After an accepted uplink, or a refused one with the flag clear, no press
is left to tell of. -/
theorem Pressed.sent {state : ButtonState} (pressed : Pressed state)
    (sending : state.next = .send) {accepts : Bool}
    (unhurried : accepts = false → state.buttonPress ≠ 1) :
    state.presses ≤ if accepts then state.carried else state.accepted := by
  cases accepts with
  | true =>
      rw [if_pos rfl, pressed.carried sending]
  | false =>
      rw [if_neg (by decide)]
      by_contra pending
      apply unhurried rfl
      apply pressed.kept _ _ (Nat.lt_of_not_le pending) <;> rw [sending] <;> decide

/-- A statement. -/
theorem Pressed.statement {state : ButtonState} (pressed : Pressed state)
    {environment : Environment}
    (unhurried : state.next = .send → environment.accepts = false → state.buttonPress ≠ 1) :
    Pressed (sendTxDataStatement environment state) := by
  cases next : state.next with
  | outside =>
      simp only [sendTxDataStatement, next]
      exact pressed
  | ledOn | sample | fallback | keep | build =>
      simp only [sendTxDataStatement, next]
      apply pressed.early <;> first | rfl | (simp only [next]; decide)
  | readButton =>
      simp only [sendTxDataStatement, next]
      apply pressed.readButton next <;> rfl
  | send =>
      have told := pressed.sent next (unhurried next)
      simp only [sendTxDataStatement, next]
      refine ⟨fun late => absurd rfl late, fun sending => ?_, fun _ => told⟩
      cases sending
  | ledOff =>
      have told := pressed.told (.inl next)
      simp only [sendTxDataStatement, next]
      refine ⟨fun _ late => absurd rfl late, fun sending => ?_, fun _ => told⟩
      cases sending
  | clear =>
      have told := pressed.told (.inr next)
      simp only [sendTxDataStatement, next]
      refine ⟨fun _ _ pending => ?_, fun sending => ?_, fun window => ?_⟩
      · exact absurd told (Nat.not_le_of_lt pending)
      · cases sending
      · rcases window with window | window <;> cases window

/-- The sequencer starts the task. -/
theorem Pressed.run {state : ButtonState} (pressed : Pressed state)
    (outside : state.next = .outside) : Pressed { state with next := .ledOn } := by
  have before : ¬ state.next.IsWindow := by
    rw [outside]
    decide
  have early : ¬ Statement.ledOn.IsWindow := by decide
  exact pressed.early before early rfl rfl rfl

/-- In a run without hurry, the flag tells of every press. -/
theorem buttonPress_kept {state : ButtonState}
    (reached : buttonMachine.Reaches Unhurried buttonBoot state)
    (outside : state.next = .outside) : PressKept state := by
  have pressed : Pressed state := by
    refine reached.invariant pressed_boot fun before event holds enabled meets => ?_
    cases event with
    | run => exact (wp_modify ..).mpr (holds.run enabled)
    | statement environment => exact (wp_modify ..).mpr (holds.statement meets)
    | exti gpioPin => exact (wp_modify ..).mpr (holds.exti meets)
  apply pressed.kept <;> rw [outside] <;> decide

/-! ## Two runs -/

/-- A sampling that succeeds. -/
def sampled (accepts : Bool) : ButtonEvent :=
  .statement ⟨⟨3600, 0, 0, (24576, 32768)⟩, zeroed, accepts⟩

/-- A press, and an uplink that is accepted or refused. -/
def pressAndSend (accepts : Bool) : List ButtonEvent :=
  .exti buttonSw1Pin :: .run :: List.replicate 9 (sampled accepts)

/-- A press that an accepted uplink carries. -/
theorem buttonPress_carried :
    ∃ state, buttonMachine.Reaches Unhurried buttonBoot state ∧ state.next = .outside ∧
      state.appData.buffer[5]? = some 1 ∧ PressKept state := by
  have run : ∃ state, buttonMachine.replay Unhurried (pressAndSend true) buttonBoot = some state ∧
      state.next = .outside ∧ state.appData.buffer[5]? = some 1 :=
    ⟨_, rfl, rfl, rfl⟩
  obtain ⟨state, replayed, outside, byte⟩ := run
  have reached := Machine.reaches_of_replay _ replayed
  exact ⟨state, reached, outside, byte, buttonPress_kept reached outside⟩

/-- A refused uplink loses the press. -/
theorem buttonPress_lost :
    ∃ state, buttonMachine.Reaches (fun _ _ => True) buttonBoot state ∧ state.next = .outside ∧
      ¬ PressKept state := by
  have run : ∃ state, buttonMachine.replay (fun _ _ => True) (pressAndSend false) buttonBoot =
      some state ∧ state.next = .outside ∧ state.accepted < state.presses ∧
      state.buttonPress = 0 :=
    ⟨_, rfl, rfl, by decide, rfl⟩
  obtain ⟨state, replayed, outside, pending, clear⟩ := run
  refine ⟨state, Machine.reaches_of_replay _ replayed, outside, fun kept => ?_⟩
  rw [kept pending] at clear
  exact absurd clear (by decide)

end GenericNode.SensorsLorawan
