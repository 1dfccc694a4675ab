import GenericNode.Library.Machine

/-!
# The buzzer driver

The functions of the driver as lists of their statements, so that the update
interrupt of the timer can come between any two of them.  The results of the
calls of the HAL are up to the environment.
-/

namespace GenericNode.Buzzer

open GenericNode.Library
open GenericNode.Library.Prog

/-- `BUZZER_state_t`. -/
inductive BuzzerState where
  | off | ring | tick | dodo | dododo | warning | danger
deriving DecidableEq, Repr

/-- `BUZZER_op_result_t`. -/
inductive BuzzerOpResult where
  | success | fail
deriving DecidableEq, Repr

/-- The handle of the timer (its instance, its state, its callback), the clock
and the interrupt line that go with it, the channel, and the registers. -/
structure BuzzerTimer where
  hasInstance : Bool
  isReset : Bool
  callback : Bool
  clock : Bool
  started : Bool
  autoreload : ℕ
  compare : ℕ
  updateInterrupt : Bool
  updateFlag : Bool
deriving DecidableEq, Repr

/-- The static variables of the driver, and the timer. -/
structure Driver where
  buzzerCount : ℕ
  buzzerState : BuzzerState
  initFlag : Bool
  timer : BuzzerTimer
deriving DecidableEq, Repr

/-- `BUZZER_PERIOD`. -/
def buzzerPeriod : ℕ :=
  365

/-! ## The timer of the board -/

/-- The statements of `GNSE_BSP_BUZZER_TIM_Init`, and those of `BUZZER_Init`
after it. -/
inductive InitStatement where
  | halTimPwmInit | halTimexMasterConfigSynchronization | halTimPwmConfigChannel
  | halTimexConfigBreakDeadTime | halTimRegisterCallback | halTimPwmStartIt
  | setInitFlag | setStateOff
deriving DecidableEq, Repr

/-- `BUZZER_Init` of a timer that is not initialised. -/
def buzzerInit : List InitStatement :=
  [.halTimPwmInit, .halTimexMasterConfigSynchronization, .halTimPwmConfigChannel,
    .halTimexConfigBreakDeadTime, .halTimRegisterCallback, .halTimPwmStartIt,
    .setInitFlag, .setStateOff]

/-- `HAL_TIM_PWM_Init`: out of the reset state it enables the clock and the
interrupt line and takes the callbacks back; the update it generates sets the
flag. -/
def BuzzerTimer.halTimPwmInit (timer : BuzzerTimer) : BuzzerTimer :=
  { timer with
    hasInstance := true
    isReset := false
    callback := if timer.isReset then false else timer.callback
    clock := if timer.isReset then true else timer.clock
    autoreload := buzzerPeriod
    updateFlag := true }

/-- A statement that succeeds. -/
def InitStatement.apply (driver : Driver) : InitStatement → Driver
  | .halTimPwmInit => { driver with timer := driver.timer.halTimPwmInit }
  | .halTimexMasterConfigSynchronization | .halTimexConfigBreakDeadTime => driver
  | .halTimPwmConfigChannel => { driver with timer.compare := 0 }
  | .halTimRegisterCallback => { driver with timer.callback := true }
  | .halTimPwmStartIt => { driver with timer.started := true }
  | .setInitFlag => { driver with initFlag := true }
  | .setStateOff => { driver with buzzerState := .off }

/-- The calls whose failure ends the initialisation. -/
def InitStatement.CanFail : InitStatement → Prop
  | .halTimPwmInit | .halTimexMasterConfigSynchronization | .halTimPwmConfigChannel
  | .halTimexConfigBreakDeadTime | .halTimPwmStartIt => True
  | .halTimRegisterCallback | .setInitFlag | .setStateOff => False

instance (statement : InitStatement) : Decidable statement.CanFail := by
  cases statement <;> first | exact .isTrue trivial | exact .isFalse id

/-- The statements of `GNSE_BSP_BUZZER_TIM_DeInit`, and the one of
`BUZZER_DeInit` after it. -/
inductive DeInitStatement where
  | halTimPwmDeInit | halTimPwmStopIt | clearInitFlag
deriving DecidableEq, Repr

/-- `BUZZER_DeInit`. -/
def buzzerDeInit : List DeInitStatement :=
  [.halTimPwmDeInit, .halTimPwmStopIt, .clearInitFlag]

/-- A statement of `BUZZER_DeInit`. -/
def DeInitStatement.apply (driver : Driver) : DeInitStatement → Driver
  | .halTimPwmDeInit => { driver with timer.clock := false, timer.isReset := true }
  | .halTimPwmStopIt => { driver with timer.started := false }
  | .clearInitFlag => { driver with initFlag := false }

/-! ## The states -/

/-- The statements of the functions that set a state. -/
inductive Statement where
  | buzzerInit
  | setAutoreload (value : ℕ)
  | setCompare (value : ℕ)
  | clearFlag
  | enableIt
  | setCount (value : ℕ)
  | setState (value : BuzzerState)
deriving DecidableEq, Repr

/-- `BUZZER_Off`; the pin that it resets belongs to the timer. -/
def buzzerOff : List Statement :=
  [.buzzerInit, .setCompare 0, .setState .off]

/-- `BUZZER_Ring`. -/
def buzzerRing : List Statement :=
  [.buzzerInit, .setAutoreload buzzerPeriod, .setCompare ((buzzerPeriod + 1) / 2),
    .setState .ring]

/-- `BUZZER_Tick`. -/
def buzzerTick : List Statement :=
  [.buzzerInit, .setAutoreload ((buzzerPeriod + 1) / 2 - 1),
    .setCompare ((buzzerPeriod + 1) / 4), .clearFlag, .enableIt, .setCount 0, .setState .tick]

/-- `BUZZER_DODO`. -/
def buzzerDodo : List Statement :=
  [.buzzerInit, .setAutoreload ((buzzerPeriod + 1) / 4 - 1),
    .setCompare ((buzzerPeriod + 1) / 8), .clearFlag, .enableIt, .setCount 1, .setState .dodo]

/-- `BUZZER_DODODO`. -/
def buzzerDododo : List Statement :=
  [.buzzerInit, .setAutoreload ((buzzerPeriod + 1) / 8 - 1),
    .setCompare ((buzzerPeriod + 1) / 16), .clearFlag, .enableIt, .setCount 3,
    .setState .dododo]

/-- `BUZZER_Warning`. -/
def buzzerWarning : List Statement :=
  [.buzzerInit, .setAutoreload ((buzzerPeriod + 1) / 2 - 1),
    .setCompare ((buzzerPeriod + 1) / 4), .setState .warning]

/-- `BUZZER_Danger`. -/
def buzzerDanger : List Statement :=
  [.buzzerInit, .setAutoreload ((buzzerPeriod + 1) / 4 - 1),
    .setCompare ((buzzerPeriod + 1) / 8), .setState .danger]

/-- The switch of `BUZZER_SetState`. -/
def BuzzerState.body : BuzzerState → List Statement
  | .off => buzzerOff
  | .ring => buzzerRing
  | .tick => buzzerTick
  | .dodo => buzzerDodo
  | .dododo => buzzerDododo
  | .warning => buzzerWarning
  | .danger => buzzerDanger

/-- A statement other than the call of `BUZZER_Init`. -/
def Statement.apply (driver : Driver) : Statement → Driver
  | .buzzerInit => driver
  | .setAutoreload value => { driver with timer.autoreload := value }
  | .setCompare value => { driver with timer.compare := value }
  | .clearFlag => { driver with timer.updateFlag := false }
  | .enableIt => { driver with timer.updateInterrupt := true }
  | .setCount value => { driver with buzzerCount := value }
  | .setState value => { driver with buzzerState := value }

/-! ## The interrupt -/

/-- The rest of `BUZZER_Init` without an interrupt; `succeeds` tells which
calls do. -/
def runInit (succeeds : InitStatement → Bool) : List InitStatement → Driver → Driver
  | [], driver => driver
  | statement :: ahead, driver =>
      if statement.CanFail ∧ succeeds statement = false then driver
      else runInit succeeds ahead (statement.apply driver)

/-- The rest of a function without an interrupt. -/
def runBody (succeeds : InitStatement → Bool) : List Statement → Driver → Driver
  | [], driver => driver
  | .buzzerInit :: ahead, driver =>
      runBody succeeds ahead
        (if driver.initFlag then driver else runInit succeeds buzzerInit driver)
  | statement :: ahead, driver => runBody succeeds ahead (statement.apply driver)

/-- The states that end by themselves. -/
def BuzzerState.IsBeep : BuzzerState → Prop
  | .tick | .dodo | .dododo => True
  | .off | .ring | .warning | .danger => False

instance (state : BuzzerState) : Decidable state.IsBeep := by
  cases state <;> first | exact .isTrue trivial | exact .isFalse id

/-- `__HAL_TIM_DISABLE_IT` of the update interrupt. -/
def disableIt (driver : Driver) : Driver :=
  { driver with timer.updateInterrupt := false }

/-- `BUZZER_TIM_IRQHandler`. -/
def buzzerTimIrqHandler (succeeds : InitStatement → Bool) (driver : Driver) : Driver :=
  if driver.timer.updateInterrupt then
    let driver := Statement.clearFlag.apply driver
    if driver.buzzerState.IsBeep then
      if 0 < driver.buzzerCount then { driver with buzzerCount := driver.buzzerCount - 1 }
      else runBody succeeds buzzerOff (disableIt driver)
    else disableIt driver
  else driver

/-- `HAL_TIM_IRQHandler` at an update: without the callback nothing follows. -/
def halTimIrqHandler (succeeds : InitStatement → Bool) (driver : Driver) : Driver :=
  let driver := Statement.clearFlag.apply driver
  if driver.timer.callback then buzzerTimIrqHandler succeeds driver else driver

/-! ## Runs -/

/-- A call of `BUZZER_SetState`: the timer when it began, and whether the
initialisation failed in it. -/
structure SetStateCall where
  target : BuzzerState
  before : BuzzerTimer
  initFailed : Bool
deriving DecidableEq, Repr

/-- A call that returned: its result, and the timer then. -/
structure SetStateReturn extends SetStateCall where
  result : BuzzerOpResult
  after : BuzzerTimer
deriving DecidableEq, Repr

/-- Where the calls are: the statements ahead, and in `BUZZER_SetState` those
done. -/
inductive Thread where
  | outside
  | init (ahead : List InitStatement)
  | deInit (ahead : List DeInitStatement)
  | setState (call : SetStateCall) (done ahead : List Statement)
  | setStateInit (call : SetStateCall) (initAhead : List InitStatement) (ahead : List Statement)
deriving DecidableEq, Repr

/-- A beep that the interrupt ended, and how many interrupts it took. -/
structure EndedBeep where
  state : BuzzerState
  interrupts : ℕ
deriving DecidableEq, Repr

/-- The driver and its calls; for the record, the update interrupts since the
state was set, the beeps that ended, and the calls that returned. -/
structure BuzzerRun where
  driver : Driver
  thread : Thread
  interrupts : ℕ
  ended : List EndedBeep
  returns : List SetStateReturn
deriving DecidableEq, Repr

/-- `BUZZER_SetState` returns. -/
def returnSetState (call : SetStateCall) (result : BuzzerOpResult) (run : BuzzerRun) :
    BuzzerRun :=
  { run with
    thread := .outside
    returns := run.returns ++ [⟨call, result, run.driver.timer⟩] }

/-- `BUZZER_SetState` begins; `none` is a value that is no state. -/
def callSetState (target : Option BuzzerState) (run : BuzzerRun) : BuzzerRun :=
  match target with
  | none => run
  | some target =>
      if target ≠ run.driver.buzzerState then
        { run with thread := .setState ⟨target, run.driver.timer, false⟩ [] target.body }
      else returnSetState ⟨target, run.driver.timer, false⟩ .fail run

/-- A new state is counted from its first interrupt. -/
def Statement.interrupts (interrupts : ℕ) : Statement → ℕ
  | .setState _ => 0
  | _ => interrupts

/-- A statement of `BUZZER_SetState`, the call of `BUZZER_Init` apart. -/
def runStatement (call : SetStateCall) (done : List Statement) (statement : Statement)
    (ahead : List Statement) (run : BuzzerRun) : BuzzerRun :=
  let run := { run with
    driver := statement.apply run.driver
    interrupts := statement.interrupts run.interrupts }
  match ahead with
  | [] => returnSetState call .success run
  | _ :: _ => { run with thread := .setState call (done ++ [statement]) ahead }

/-- The next statement; `succeeds` is the result of the HAL. -/
def runThread (succeeds : Bool) (run : BuzzerRun) : BuzzerRun :=
  match run.thread with
  | .outside | .init [] | .deInit [] | .setState _ _ [] => run
  | .init (statement :: ahead) =>
      if statement.CanFail ∧ succeeds = false then { run with thread := .outside }
      else
        { run with
          driver := statement.apply run.driver
          thread := match ahead with | [] => .outside | _ :: _ => .init ahead }
  | .deInit (statement :: ahead) =>
      -- The HAL has no end of a timer that was never initialised.
      if run.driver.timer.hasInstance then
        { run with
          driver := statement.apply run.driver
          thread := match ahead with | [] => .outside | _ :: _ => .deInit ahead }
      else run
  | .setState call done (.buzzerInit :: ahead) =>
      if run.driver.initFlag then runStatement call done .buzzerInit ahead run
      else { run with thread := .setStateInit call buzzerInit ahead }
  | .setState call done (statement :: ahead) => runStatement call done statement ahead run
  | .setStateInit call [] ahead => { run with thread := .setState call [.buzzerInit] ahead }
  | .setStateInit call (statement :: initAhead) ahead =>
      -- The result of `BUZZER_Init` is ignored.
      if statement.CanFail ∧ succeeds = false then
        { run with thread := .setState { call with initFailed := true } [.buzzerInit] ahead }
      else
        { run with
          driver := statement.apply run.driver
          thread := .setStateInit call initAhead ahead }

/-- The update interrupt. -/
def runInterrupt (succeeds : InitStatement → Bool) (run : BuzzerRun) : BuzzerRun :=
  let driver := halTimIrqHandler succeeds run.driver
  { run with
    driver := driver
    interrupts := run.interrupts + 1
    ended := if run.driver.buzzerState.IsBeep ∧ driver.buzzerState = .off then
        run.ended ++ [⟨run.driver.buzzerState, run.interrupts + 1⟩]
      else run.ended }

/-- The calls, their statements, the counter of the timer, and its interrupt. -/
inductive BuzzerEvent where
  | callInit
  | callDeInit
  | callSetState (target : Option BuzzerState)
  | statement (succeeds : Bool)
  | overflow
  | interrupt (succeeds : InitStatement → Bool)

/-- When an event can happen. -/
def buzzerEnabled (run : BuzzerRun) : BuzzerEvent → Prop
  | .callInit | .callDeInit | .callSetState _ => run.thread = .outside
  | .statement _ => run.thread ≠ .outside
  | .overflow => run.driver.timer.clock = true
  | .interrupt _ => run.driver.timer.clock = true ∧ run.driver.timer.updateInterrupt = true ∧
      run.driver.timer.updateFlag = true

instance (run : BuzzerRun) (event : BuzzerEvent) : Decidable (buzzerEnabled run event) := by
  cases event with
  | callInit => exact inferInstanceAs (Decidable (_ = _))
  | callDeInit => exact inferInstanceAs (Decidable (_ = _))
  | callSetState target => exact inferInstanceAs (Decidable (_ = _))
  | statement succeeds => exact inferInstanceAs (Decidable (_ ≠ _))
  | overflow => exact inferInstanceAs (Decidable (_ = _))
  | interrupt succeeds => exact inferInstanceAs (Decidable (_ ∧ _))

/-- What happens at an event. -/
def buzzerStep : BuzzerEvent → BuzzerRun → BuzzerRun
  | .callInit, run =>
      if run.driver.initFlag then run else { run with thread := .init buzzerInit }
  | .callDeInit, run => { run with thread := .deInit buzzerDeInit }
  | .callSetState target, run => callSetState target run
  | .statement succeeds, run => runThread succeeds run
  | .overflow, run => { run with driver.timer.updateFlag := true }
  | .interrupt succeeds, run => runInterrupt succeeds run

/-- The driver, its caller and the timer. -/
def buzzerMachine : Machine BuzzerRun BuzzerEvent where
  enabled := buzzerEnabled
  step event := modify (buzzerStep event)

instance (run : BuzzerRun) (event : BuzzerEvent) : Decidable (buzzerMachine.enabled run event) :=
  inferInstanceAs (Decidable (buzzerEnabled run event))

/-- The variables and the timer at a reset. -/
def buzzerBoot : BuzzerRun where
  driver :=
    { buzzerCount := 0
      buzzerState := .off
      initFlag := false
      timer :=
        { hasInstance := false
          isReset := true
          callback := false
          clock := false
          started := false
          autoreload := 0
          compare := 0
          updateInterrupt := false
          updateFlag := false } }
  thread := .outside
  interrupts := 0
  ended := []
  returns := []

end GenericNode.Buzzer
