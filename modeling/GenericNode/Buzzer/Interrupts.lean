import GenericNode.Buzzer.Driver

/-!
# Interrupts of the buzzer driver

The state that the driver reports is the one it sounds, and a beep ends by
itself, as long as no interrupt undoes a statement of `BUZZER_SetState`.
-/

namespace GenericNode.Buzzer

open GenericNode.Library
open GenericNode.Library.Prog

/-! ## What the driver promises -/

/-- The update interrupts that a beep takes. -/
def BuzzerState.beeps : BuzzerState → ℕ
  | .tick => 1
  | .dodo => 2
  | .dododo => 4
  | .off | .ring | .warning | .danger => 0

/-- The period register of a state. -/
def BuzzerState.period : BuzzerState → ℕ
  | .off | .ring => 365
  | .tick | .warning => 182
  | .dodo | .danger => 90
  | .dododo => 44

/-- The compare register of a state. -/
def BuzzerState.compare : BuzzerState → ℕ
  | .off => 0
  | .ring => 183
  | .tick | .warning => 91
  | .dodo | .danger => 45
  | .dododo => 22

/-- `GNSE_BSP_BUZZER_TIM_Init` has succeeded, and the timer still runs. -/
structure Initialised (timer : BuzzerTimer) : Prop where
  clock : timer.clock = true
  callback : timer.callback = true
  started : timer.started = true

/-- The registers of a state. -/
structure Tuned (timer : BuzzerTimer) (state : BuzzerState) : Prop where
  autoreload : timer.autoreload = state.period
  compare : timer.compare = state.compare

/-- The timer sounds a state. -/
structure Sounds (timer : BuzzerTimer) (state : BuzzerState) : Prop where
  silent : state = .off → Initialised timer → timer.compare = 0
  tone : state ≠ .off → Initialised timer ∧ Tuned timer state
  beep : state.IsBeep → timer.updateInterrupt = true

/-- `BUZZER_SetState` fails for no state that the timer does not sound, and
succeeds only with an initialised timer. -/
structure Returned (result : SetStateReturn) : Prop where
  fail : ¬ Sounds result.before result.target → result.result = .fail →
    result.initFailed = true
  success : result.result = .success → Initialised result.after

/-- The registers that a call of `BUZZER_SetState` has written are those of its
state, the others still those of the reported one. -/
structure Retuned (timer : BuzzerTimer) (state target : BuzzerState) (done : List Statement) :
    Prop where
  autoreload : timer.autoreload =
    if .setAutoreload target.period ∈ done then target.period else state.period
  compare : timer.compare =
    if .setCompare target.compare ∈ done then target.compare else state.compare

/-- `BUZZER_SetState` runs. -/
def Thread.InSetState : Thread → Prop
  | .setState _ _ _ | .setStateInit _ _ _ => True
  | .outside | .init _ | .deInit _ => False

/-- What the driver promises. -/
structure Promised (run : BuzzerRun) : Prop where
  enabled : ¬ run.thread.InSetState → run.driver.buzzerState.IsBeep →
    run.driver.timer.updateInterrupt = true ∧
      run.interrupts < run.driver.buzzerState.beeps
  ended : ∀ beep ∈ run.ended, beep.interrupts = beep.state.beeps
  initialised : run.driver.buzzerState ≠ .off → Initialised run.driver.timer
  tuned : ¬ run.thread.InSetState → run.driver.buzzerState ≠ .off →
    Tuned run.driver.timer run.driver.buzzerState
  retuned : ∀ call done ahead, run.thread = .setState call done ahead →
    run.driver.buzzerState ≠ .off →
      Retuned run.driver.timer run.driver.buzzerState call.target done
  returned : ∀ result ∈ run.returns, Returned result

/-! ## The runs -/

/-- An update interrupt undoes a statement. -/
def Statement.UndoneAt (driver : Driver) : Statement → Prop
  | .setCompare value => driver.buzzerState.IsBeep ∧ driver.buzzerCount = 0 ∧ value ≠ 0
  | .enableIt => driver.buzzerState.IsBeep → driver.buzzerCount = 0
  | .setCount _ => driver.buzzerState.IsBeep
  | .buzzerInit | .setAutoreload _ | .clearFlag | .setState _ => False

instance (driver : Driver) (statement : Statement) : Decidable (statement.UndoneAt driver) := by
  cases statement with
  | setCompare value => exact inferInstanceAs (Decidable (_ ∧ _))
  | enableIt => exact inferInstanceAs (Decidable (_ → _))
  | setCount value => exact inferInstanceAs (Decidable (BuzzerState.IsBeep _))
  | buzzerInit | setAutoreload _ | clearFlag | setState _ => exact .isFalse id

/-- The timer is not given up while it sounds, and `BUZZER_SetState` gets it
initialised. -/
def Thread.Works (driver : Driver) (succeeds : Bool) : Thread → Prop
  | .deInit (.halTimPwmDeInit :: _) => driver.buzzerState = .off
  | .setStateInit _ (statement :: _) _ => statement.CanFail → succeeds = true
  | _ => True

instance (driver : Driver) (succeeds : Bool) :
    ∀ thread : Thread, Decidable (thread.Works driver succeeds)
  | .deInit (.halTimPwmDeInit :: _) => inferInstanceAs (Decidable (_ = _))
  | .setStateInit _ (_ :: _) _ => inferInstanceAs (Decidable (_ → _))
  | .outside | .init _ | .deInit [] | .deInit (.halTimPwmStopIt :: _)
  | .deInit (.clearInitFlag :: _) | .setState _ _ _ | .setStateInit _ [] _ => .isTrue trivial

/-- No statement of `BUZZER_SetState` is undone. -/
def Thread.Stays (driver : Driver) : Thread → Prop
  | .setState _ done _ => ∀ statement ∈ done, ¬ statement.UndoneAt driver
  | .outside | .init _ | .deInit _ | .setStateInit _ _ _ => True

instance (driver : Driver) : ∀ thread : Thread, Decidable (thread.Stays driver)
  | .setState _ done _ => inferInstanceAs (Decidable (∀ statement ∈ done, _))
  | .outside | .init _ | .deInit _ | .setStateInit _ _ _ => .isTrue trivial

/-- No interrupt undoes a statement of the call of `BUZZER_SetState` that it
interrupts, and the statements do what they should. -/
def Undisturbed (run : BuzzerRun) : BuzzerEvent → Prop
  | .statement succeeds => run.thread.Works run.driver succeeds
  | .interrupt _ => run.thread.Stays run.driver
  | .callInit | .callDeInit | .callSetState _ | .overflow => True

instance (run : BuzzerRun) : ∀ event : BuzzerEvent, Decidable (Undisturbed run event)
  | .statement succeeds => inferInstanceAs (Decidable (run.thread.Works run.driver succeeds))
  | .interrupt _ => inferInstanceAs (Decidable (run.thread.Stays run.driver))
  | .callInit | .callDeInit | .callSetState _ | .overflow => .isTrue trivial

/-! ## Statements in effect -/

/-- A statement is in effect. -/
def Statement.Holds (driver : Driver) : Statement → Prop
  | .buzzerInit => driver.initFlag = true
  | .setAutoreload value => driver.timer.autoreload = value
  | .setCompare value => driver.timer.compare = value
  | .clearFlag => True
  | .enableIt => driver.timer.updateInterrupt = true
  | .setCount value => driver.buzzerCount = value
  | .setState value => driver.buzzerState = value

/-- The later statement leaves the earlier one in effect, which is not the last. -/
def Statement.Before (earlier later : Statement) : Prop :=
  (∀ value, earlier ≠ .setState value) ∧
    later ≠ .buzzerInit ∧
    ∀ driver, earlier.Holds driver → earlier.Holds (later.apply driver)

theorem body_pairwise (target : BuzzerState) : target.body.Pairwise Statement.Before := by
  cases target <;>
    simp [BuzzerState.body, buzzerOff, buzzerRing, buzzerTick, buzzerDodo, buzzerDododo,
      buzzerWarning, buzzerDanger, Statement.Before, Statement.Holds, Statement.apply]

theorem body_ne_nil (target : BuzzerState) : target.body ≠ [] := by
  cases target <;> exact List.cons_ne_nil _ _

/-- `BUZZER_Init` is not all. -/
theorem body_continues {target : BuzzerState} {ahead : List Statement}
    (body : target.body = .buzzerInit :: ahead) : ahead ≠ [] := by
  cases target <;> cases body <;> exact List.cons_ne_nil _ _

/-- The state is set last. -/
theorem body_last {target : BuzzerState} {done : List Statement} {statement : Statement}
    (body : target.body = done ++ [statement]) : statement = .setState target := by
  have last := congrArg List.getLast? body
  rw [List.getLast?_append] at last
  cases target <;> cases last <;> rfl

/-- The statements of a state write its own registers. -/
theorem body_registers {target : BuzzerState} {statement : Statement}
    (mem : statement ∈ target.body) :
    (∀ value, statement = .setAutoreload value → value = target.period) ∧
      ∀ value, statement = .setCompare value → value = target.compare := by
  revert statement
  cases target <;>
    simp [BuzzerState.body, buzzerOff, buzzerRing, buzzerTick, buzzerDodo, buzzerDododo,
      buzzerWarning, buzzerDanger, BuzzerState.period, BuzzerState.compare, buzzerPeriod]

/-- What the statements of a state amount to. -/
structure Reached (driver : Driver) (target : BuzzerState) : Prop where
  state : driver.buzzerState = target
  initFlag : driver.initFlag = true
  silent : target = .off → driver.timer.compare = 0
  tuned : target ≠ .off → Tuned driver.timer target
  beep : target.IsBeep → driver.timer.updateInterrupt = true ∧
    driver.buzzerCount + 1 = target.beeps

theorem reached_of_holds {driver : Driver} {target : BuzzerState}
    (holds : ∀ statement ∈ target.body, statement.Holds driver) : Reached driver target := by
  cases target <;>
    simp only [BuzzerState.body, buzzerOff, buzzerRing, buzzerTick, buzzerDodo, buzzerDododo,
      buzzerWarning, buzzerDanger, List.forall_mem_cons, Statement.Holds] at holds <;>
    refine ⟨?_, ?_, ?_, ?_, ?_⟩ <;>
    simp [holds, BuzzerState.IsBeep, BuzzerState.beeps] <;>
    exact ⟨holds.2.1, holds.2.2.1⟩

/-- A statement of the initialisation is in effect. -/
def InitStatement.Holds (driver : Driver) : InitStatement → Prop
  | .halTimPwmInit => driver.timer.clock = true
  | .halTimRegisterCallback => driver.timer.callback = true
  | .halTimPwmStartIt => driver.timer.started = true
  | .setInitFlag => driver.initFlag = true
  | .setStateOff => driver.buzzerState = .off
  | .halTimexMasterConfigSynchronization | .halTimPwmConfigChannel
  | .halTimexConfigBreakDeadTime => True

/-- The later statement leaves the earlier one in effect, and cannot fail after
the flag is set. -/
def InitStatement.Before (earlier later : InitStatement) : Prop :=
  earlier ≠ later ∧ (earlier = .setInitFlag → ¬ later.CanFail) ∧
    ∀ driver, earlier.Holds driver → earlier.Holds (later.apply driver)

theorem buzzerInit_pairwise : buzzerInit.Pairwise InitStatement.Before := by
  simp [buzzerInit, InitStatement.Before, InitStatement.Holds, InitStatement.apply,
    InitStatement.CanFail]

/-- The initialisation is under way, or complete. -/
structure Initialising (driver : Driver) (ahead : List InitStatement) : Prop where
  state : driver.buzzerState = .off
  flag : .setInitFlag ∈ ahead → driver.initFlag = false
  hal : driver.timer.isReset = false → driver.timer.clock = true
  split : ∃ done, buzzerInit = done ++ ahead ∧ ∀ statement ∈ done, statement.Holds driver

theorem Initialising.start {driver : Driver} (state : driver.buzzerState = .off)
    (flag : driver.initFlag = false)
    (hal : driver.timer.isReset = false → driver.timer.clock = true) :
    Initialising driver buzzerInit :=
  ⟨state, fun _ => flag, hal, [], rfl, fun _ mem => absurd mem List.not_mem_nil⟩

/-- The initialisation is complete. -/
theorem Initialising.complete {driver : Driver} (initialising : Initialising driver []) :
    Initialised driver.timer ∧ driver.initFlag = true := by
  obtain ⟨done, split, holds⟩ := initialising.split
  rw [List.append_nil] at split
  rw [← split] at holds
  constructor
  · constructor
    · exact holds .halTimPwmInit (by decide)
    · exact holds .halTimRegisterCallback (by decide)
    · exact holds .halTimPwmStartIt (by decide)
  · exact holds .setInitFlag (by decide)

/-- A statement that can fail comes before the flag is set. -/
theorem Initialising.failed {driver : Driver} {statement : InitStatement}
    {ahead : List InitStatement} (initialising : Initialising driver (statement :: ahead))
    (canFail : statement.CanFail) : driver.initFlag = false := by
  apply initialising.flag
  obtain ⟨done, split, -⟩ := initialising.split
  have mem : InitStatement.setInitFlag ∈ done ++ statement :: ahead := by
    rw [← split]
    decide
  rcases List.mem_append.mp mem with before | after
  · have pairwise := buzzerInit_pairwise
    rw [split] at pairwise
    have order := (List.pairwise_append.mp pairwise).2.2 _ before statement List.mem_cons_self
    exact absurd canFail (order.2.1 rfl)
  · exact after

theorem Initialising.step {driver : Driver} {statement : InitStatement}
    {ahead : List InitStatement} (initialising : Initialising driver (statement :: ahead)) :
    Initialising (statement.apply driver) ahead := by
  obtain ⟨done, split, holds⟩ := initialising.split
  have pairwise := buzzerInit_pairwise
  rw [split] at pairwise
  obtain ⟨-, fromHere, across⟩ := List.pairwise_append.mp pairwise
  have later := (List.pairwise_cons.mp fromHere).1
  have hal := initialising.hal
  constructor
  · cases statement <;> first | exact initialising.state | rfl
  · intro mem
    have flag := initialising.flag (List.mem_cons_of_mem _ mem)
    have other := (later _ mem).1
    cases statement <;> first | exact flag | exact absurd rfl other
  · cases statement <;> simp_all [InitStatement.apply, BuzzerTimer.halTimPwmInit]
  · refine ⟨done ++ [statement], by rw [split, List.append_assoc]; rfl, fun earlier mem => ?_⟩
    rcases List.mem_append.mp mem with before | now
    · exact (across earlier before statement List.mem_cons_self).2.2 driver
        (holds earlier before)
    · rw [List.mem_singleton] at now
      subst now
      cases earlier <;>
        simp_all [InitStatement.apply, InitStatement.Holds, BuzzerTimer.halTimPwmInit]

/-! ## The invariant -/

/-- Between calls: the registers are those of the state, and the interrupts to
come are counted. -/
structure Settled (driver : Driver) (interrupts : ℕ) : Prop where
  flagged : driver.initFlag = true → Initialised driver.timer
  silent : driver.buzzerState = .off → driver.timer.compare = 0
  tuned : driver.buzzerState ≠ .off → Tuned driver.timer driver.buzzerState
  count : driver.buzzerState.IsBeep →
    interrupts + driver.buzzerCount + 1 = driver.buzzerState.beeps

/-- In `BUZZER_SetState`: the statements done are in effect, and the registers
not written yet are those of the reported state. -/
structure InBody (driver : Driver) (interrupts : ℕ) (call : SetStateCall)
    (done ahead : List Statement) : Prop where
  initFailed : call.initFailed = false
  body : call.target.body = done ++ ahead
  unfinished : ahead ≠ []
  flagged : driver.initFlag = true → Initialised driver.timer
  holds : ∀ statement ∈ done, statement.Holds driver
  retuned : driver.buzzerState ≠ .off →
    Retuned driver.timer driver.buzzerState call.target done
  count : driver.buzzerState.IsBeep → (∀ value, .setCount value ∉ done) →
    interrupts + driver.buzzerCount + 1 = driver.buzzerState.beeps

/-- What holds of the driver at each point. -/
def Placed (driver : Driver) (interrupts : ℕ) : Thread → Prop
  | .outside => Settled driver interrupts
  | .init ahead => Initialising driver ahead ∧ driver.timer.compare = 0
  | .deInit ahead => ahead = buzzerDeInit ∧ Settled driver interrupts ∨
      (ahead = [.halTimPwmStopIt, .clearInitFlag] ∨ ahead = [.clearInitFlag]) ∧
        driver.buzzerState = .off ∧ driver.timer.compare = 0
  | .setState call done ahead => InBody driver interrupts call done ahead
  | .setStateInit call initAhead ahead => Initialising driver initAhead ∧
      call.initFailed = false ∧ call.target.body = .buzzerInit :: ahead

/-- What holds at every point. -/
structure Kept (run : BuzzerRun) : Prop where
  ready : run.driver.buzzerState ≠ .off → run.driver.initFlag = true
  enabled : run.driver.buzzerState.IsBeep → run.driver.timer.updateInterrupt = true
  hal : run.driver.timer.isReset = false → run.driver.timer.clock = true
  ended : ∀ beep ∈ run.ended, beep.interrupts = beep.state.beeps
  returned : ∀ result ∈ run.returns, Returned result

/-- The invariant of the driver. -/
structure Sound (run : BuzzerRun) : Prop extends Kept run where
  placed : Placed run.driver run.interrupts run.thread

theorem sound_boot : Sound buzzerBoot where
  ready sounding := absurd rfl sounding
  enabled beep := beep.elim
  hal isReset := by cases isReset
  ended _ mem := absurd mem List.not_mem_nil
  returned _ mem := absurd mem List.not_mem_nil
  placed := by
    constructor
    · intro flag
      cases flag
    · intro _
      rfl
    · intro sounding
      exact absurd rfl sounding
    · exact False.elim

/-! ## The statements -/

section Steps

variable {run : BuzzerRun} {driver after : Driver} {interrupts : ℕ}

/-- Where the driver stands is all that a change of the thread changes. -/
theorem Kept.goto (kept : Kept run) {thread : Thread}
    (placed : Placed run.driver run.interrupts thread) : Sound { run with thread := thread } :=
  ⟨⟨kept.ready, kept.enabled, kept.hal, kept.ended, kept.returned⟩, placed⟩

/-- `BUZZER_SetState` returns. -/
theorem Kept.returnSetState (kept : Kept run) (settled : Settled run.driver run.interrupts)
    {call : SetStateCall} {result : BuzzerOpResult}
    (returned : Returned ⟨call, result, run.driver.timer⟩) :
    Sound (returnSetState call result run) where
  ready := kept.ready
  enabled := kept.enabled
  hal := kept.hal
  ended := kept.ended
  returned entry mem := by
    rcases List.mem_append.mp mem with earlier | last
    · exact kept.returned entry earlier
    · rw [List.mem_singleton] at last
      subst last
      exact returned
  placed := settled

/-- The reported state is the one that the timer sounds. -/
theorem Settled.sounds (settled : Settled driver interrupts)
    (ready : driver.buzzerState ≠ .off → driver.initFlag = true)
    (enabled : driver.buzzerState.IsBeep → driver.timer.updateInterrupt = true) :
    Sounds driver.timer driver.buzzerState where
  silent off _ := settled.silent off
  tone sounding := ⟨settled.flagged (ready sounding), settled.tuned sounding⟩
  beep := enabled

theorem Sound.callSetState (sound : Sound run) (settled : Settled run.driver run.interrupts)
    (target : Option BuzzerState) : Sound (callSetState target run) := by
  cases target with
  | none => exact sound
  | some target =>
      by_cases other : target ≠ run.driver.buzzerState
      · simp only [Buzzer.callSetState, if_pos other]
        apply sound.toKept.goto
        exact ⟨rfl, rfl, body_ne_nil target, settled.flagged,
          fun _ mem => absurd mem List.not_mem_nil,
          fun sounding => ⟨(settled.tuned sounding).autoreload, (settled.tuned sounding).compare⟩,
          fun beep _ => settled.count beep⟩
      · simp only [Buzzer.callSetState, if_neg other]
        apply sound.toKept.returnSetState settled
        rw [not_not] at other
        constructor
        · intro silent _
          subst other
          exact absurd (settled.sounds sound.ready sound.enabled) silent
        · intro success
          cases success

/-- A statement that is done stays done at the next one. -/
theorem InBody.holds_step {call : SetStateCall} {done ahead : List Statement}
    {statement : Statement}
    (inBody : InBody driver interrupts call done (statement :: ahead))
    (now : statement.Holds (statement.apply driver)) :
    ∀ earlier ∈ done ++ [statement], earlier.Holds (statement.apply driver) := by
  intro earlier mem
  have pairwise := body_pairwise call.target
  rw [inBody.body] at pairwise
  obtain ⟨-, -, across⟩ := List.pairwise_append.mp pairwise
  rcases List.mem_append.mp mem with before | last
  · exact (across earlier before statement List.mem_cons_self).2.2 driver
      (inBody.holds earlier before)
  · rw [List.mem_singleton] at last
    subst last
    exact now

/-- The last statement of `BUZZER_SetState`. -/
theorem InBody.last {call : SetStateCall} {done : List Statement} {statement : Statement}
    (inBody : InBody driver interrupts call done [statement])
    (now : statement.Holds (statement.apply driver)) :
    Reached (statement.apply driver) call.target := by
  apply reached_of_holds
  rw [inBody.body]
  exact inBody.holds_step now

/-- A statement leaves the timer initialised. -/
theorem Statement.initialised_apply {statement : Statement}
    (initialised : Initialised driver.timer) : Initialised (statement.apply driver).timer := by
  obtain ⟨clock, callback, started⟩ := initialised
  cases statement <;> exact ⟨clock, callback, started⟩

theorem Statement.initFlag_apply (statement : Statement) :
    (statement.apply driver).initFlag = driver.initFlag := by
  cases statement <;> rfl

/-- A register of the new state is written. -/
theorem Retuned.step {state target : BuzzerState} {done : List Statement} {statement : Statement}
    (retuned : Retuned driver.timer state target done) (mem : statement ∈ target.body) :
    Retuned (statement.apply driver).timer state target (done ++ [statement]) := by
  obtain ⟨autoreload, compare⟩ := retuned
  obtain ⟨period, duty⟩ := body_registers mem
  cases statement with
  | setAutoreload value =>
      obtain rfl := period value rfl
      constructor
      · rw [if_pos (List.mem_append_right _ List.mem_cons_self)]
        rfl
      · simpa [Statement.apply] using compare
  | setCompare value =>
      obtain rfl := duty value rfl
      constructor
      · simpa [Statement.apply] using autoreload
      · rw [if_pos (List.mem_append_right _ List.mem_cons_self)]
        rfl
  | buzzerInit | clearFlag | enableIt | setCount _ | setState _ =>
      constructor
      · simpa [Statement.apply] using autoreload
      · simpa [Statement.apply] using compare

/-- A statement before the last of `BUZZER_SetState`. -/
theorem InBody.step {call : SetStateCall} {done ahead : List Statement}
    {statement next : Statement}
    (inBody : InBody driver interrupts call done (statement :: next :: ahead))
    (now : statement.Holds (statement.apply driver)) :
    InBody (statement.apply driver) interrupts call (done ++ [statement]) (next :: ahead) ∧
      (statement.apply driver).buzzerState = driver.buzzerState := by
  have pairwise := body_pairwise call.target
  rw [inBody.body] at pairwise
  obtain ⟨-, fromHere, -⟩ := List.pairwise_append.mp pairwise
  have notLast := ((List.pairwise_cons.mp fromHere).1 next List.mem_cons_self).1
  have same : (statement.apply driver).buzzerState = driver.buzzerState := by
    cases statement with
    | setState value => exact absurd rfl (notLast value)
    | buzzerInit | setAutoreload _ | setCompare _ | clearFlag | enableIt | setCount _ => rfl
  refine ⟨⟨inBody.initFailed, ?_, List.cons_ne_nil _ _, ?_, inBody.holds_step now, ?_, ?_⟩, same⟩
  · rw [inBody.body, List.append_assoc]
    rfl
  · rw [statement.initFlag_apply]
    exact fun flag => Statement.initialised_apply (inBody.flagged flag)
  · rw [same]
    intro sounding
    apply (inBody.retuned sounding).step
    rw [inBody.body]
    exact List.mem_append_right _ List.mem_cons_self
  · rw [same]
    intro beep uncounted
    have count := inBody.count beep fun value mem =>
      uncounted value (List.mem_append_left _ mem)
    cases statement with
    | setCount value =>
        exact absurd (List.mem_append_right _ List.mem_cons_self) (uncounted value)
    | buzzerInit | setAutoreload _ | setCompare _ | clearFlag | enableIt | setState _ =>
        exact count

/-- The driver after the statements of a state. -/
theorem Reached.settled {target : BuzzerState} (reached : Reached driver target)
    (flagged : driver.initFlag = true → Initialised driver.timer) : Settled driver 0 := by
  obtain ⟨state, -, silent, tuned, beep⟩ := reached
  subst state
  constructor
  · exact flagged
  · exact silent
  · exact tuned
  · intro isBeep
    rw [zero_add]
    exact (beep isBeep).2

/-- A statement of `BUZZER_SetState`. -/
theorem Sound.runStatement (sound : Sound run) {call : SetStateCall} {done ahead : List Statement}
    {statement : Statement}
    (inBody : InBody run.driver run.interrupts call done (statement :: ahead))
    (now : statement.Holds (statement.apply run.driver)) :
    Sound (runStatement call done statement ahead run) := by
  cases ahead with
  | nil =>
      have reached := inBody.last now
      have flagged : (statement.apply run.driver).initFlag = true →
          Initialised (statement.apply run.driver).timer := by
        rw [statement.initFlag_apply]
        exact fun flag => Statement.initialised_apply (inBody.flagged flag)
      have last := body_last inBody.body
      subst last
      refine Kept.returnSetState ?_ (reached.settled flagged) ?_
      · refine ⟨fun _ => reached.initFlag, fun beep => ?_, sound.hal, sound.ended, sound.returned⟩
        rw [reached.state] at beep
        exact (reached.beep beep).1
      · constructor
        · intro _ fail
          cases fail
        · intro _
          exact flagged reached.initFlag
  | cons next ahead =>
      obtain ⟨placed, same⟩ := inBody.step now
      have pairwise := body_pairwise call.target
      rw [inBody.body] at pairwise
      obtain ⟨-, fromHere, -⟩ := List.pairwise_append.mp pairwise
      have notLast := ((List.pairwise_cons.mp fromHere).1 next List.mem_cons_self).1
      have counted : statement.interrupts run.interrupts = run.interrupts := by
        cases statement with
        | setState value => exact absurd rfl (notLast value)
        | buzzerInit | setAutoreload _ | setCompare _ | clearFlag | enableIt | setCount _ => rfl
      refine ⟨⟨fun sounding => ?_, fun beep => ?_, ?_, sound.ended, sound.returned⟩, ?_⟩
      · change (statement.apply run.driver).buzzerState ≠ .off at sounding
        rw [same] at sounding
        exact (statement.initFlag_apply).trans (sound.ready sounding)
      · change (statement.apply run.driver).buzzerState.IsBeep at beep
        rw [same] at beep
        have enabled := sound.enabled beep
        cases statement <;> first | exact enabled | rfl
      · have hal := sound.hal
        cases statement <;> exact hal
      · change InBody (statement.apply run.driver) (statement.interrupts run.interrupts) call
          (done ++ [statement]) (next :: ahead)
        rw [counted]
        exact placed

/-- While the state is off, the initialisation has no one to disturb. -/
theorem Kept.of_off (kept : Kept run) (off : after.buzzerState = .off)
    (hal : after.timer.isReset = false → after.timer.clock = true) :
    Kept { run with driver := after } where
  ready sounding := absurd off sounding
  enabled beep := by
    change after.buzzerState.IsBeep at beep
    rw [off] at beep
    exact beep.elim
  hal := hal
  ended := kept.ended
  returned := kept.returned

theorem Settled.of_off (off : driver.buzzerState = .off)
    (flagged : driver.initFlag = true → Initialised driver.timer)
    (silent : driver.timer.compare = 0) : Settled driver interrupts where
  flagged := flagged
  silent _ := silent
  tuned sounding := absurd off sounding
  count beep := by
    rw [off] at beep
    exact beep.elim

/-- A statement of `BUZZER_Init`. -/
theorem Sound.runInit (sound : Sound run) {statement : InitStatement} {ahead : List InitStatement}
    (thread : run.thread = .init (statement :: ahead)) (succeeds : Bool) :
    Sound (runThread succeeds run) := by
  have placed := sound.placed
  rw [thread] at placed
  obtain ⟨initialising, silent⟩ := placed
  simp only [runThread, thread]
  split_ifs with failed
  · apply sound.toKept.goto
    refine Settled.of_off initialising.state (fun flag => ?_) silent
    rw [initialising.failed failed.1] at flag
    cases flag
  · have next := initialising.step
    have silent' : (statement.apply run.driver).timer.compare = 0 := by
      cases statement <;> first | exact silent | rfl
    have kept := sound.toKept.of_off next.state next.hal
    apply kept.goto
    cases ahead with
    | nil => exact Settled.of_off next.state (fun _ => next.complete.1) silent'
    | cons later ahead => exact ⟨next, silent'⟩

/-- Once the timer is given up, the rest of `BUZZER_DeInit` follows. -/
theorem Sound.endStep (sound : Sound run) (off : run.driver.buzzerState = .off)
    (silent : run.driver.timer.compare = 0) {statement : DeInitStatement}
    {ahead : List DeInitStatement} (thread : run.thread = .deInit (statement :: ahead))
    (rest : ahead = [.halTimPwmStopIt, .clearInitFlag] ∨ ahead = [.clearInitFlag] ∨
      statement = .clearInitFlag ∧ ahead = []) (succeeds : Bool) :
    Sound (runThread succeeds run) := by
  have hal := sound.hal
  simp only [runThread, thread]
  split_ifs
  · have off' : (statement.apply run.driver).buzzerState = .off := by
      cases statement <;> exact off
    have silent' : (statement.apply run.driver).timer.compare = 0 := by
      cases statement <;> exact silent
    have hal' : (statement.apply run.driver).timer.isReset = false →
        (statement.apply run.driver).timer.clock = true := by
      cases statement with
      | halTimPwmDeInit =>
          intro isReset
          cases isReset
      | halTimPwmStopIt => exact hal
      | clearInitFlag => exact hal
    have kept := sound.toKept.of_off off' hal'
    apply kept.goto
    rcases rest with rest | rest | ⟨last, rest⟩
    · subst rest
      exact .inr ⟨.inl rfl, off', silent'⟩
    · subst rest
      exact .inr ⟨.inr rfl, off', silent'⟩
    · subst last rest
      refine Settled.of_off off' (fun flag => ?_) silent'
      cases flag
  · exact sound

/-- A statement of `BUZZER_DeInit`. -/
theorem Sound.runDeInit (sound : Sound run) {ahead : List DeInitStatement}
    (thread : run.thread = .deInit ahead) (succeeds : Bool)
    (undisturbed : Undisturbed run (.statement succeeds)) : Sound (runThread succeeds run) := by
  have placed := sound.placed
  rw [thread] at placed
  rw [Undisturbed, thread] at undisturbed
  rcases placed with ⟨start, settled⟩ | ⟨rest, off, silent⟩
  · subst start
    exact sound.endStep undisturbed (settled.silent undisturbed) thread (.inl rfl) succeeds
  · rcases rest with rest | rest
    · subst rest
      exact sound.endStep off silent thread (.inr (.inl rfl)) succeeds
    · subst rest
      exact sound.endStep off silent thread (.inr (.inr ⟨rfl, rfl⟩)) succeeds

/-- A statement of the initialisation in `BUZZER_SetState`. -/
theorem Sound.runSetStateInit (sound : Sound run) {call : SetStateCall}
    {initAhead : List InitStatement} {ahead : List Statement}
    (thread : run.thread = .setStateInit call initAhead ahead) (succeeds : Bool)
    (undisturbed : Undisturbed run (.statement succeeds)) : Sound (runThread succeeds run) := by
  have placed := sound.placed
  rw [thread] at placed
  obtain ⟨initialising, initFailed, body⟩ := placed
  cases initAhead with
  | nil =>
      simp only [runThread, thread]
      apply sound.toKept.goto
      obtain ⟨initialised, flag⟩ := initialising.complete
      refine ⟨initFailed, body, body_continues body, fun _ => initialised,
        fun statement mem => ?_, fun sounding => absurd initialising.state sounding,
        fun beep => ?_⟩
      · rw [List.mem_singleton] at mem
        subst mem
        exact flag
      · rw [initialising.state] at beep
        exact beep.elim
  | cons statement initAhead =>
      rw [Undisturbed, thread] at undisturbed
      have works : ¬ (statement.CanFail ∧ succeeds = false) := by
        rintro ⟨canFail, fails⟩
        rw [undisturbed canFail] at fails
        cases fails
      simp only [runThread, thread, if_neg works]
      have next := initialising.step
      have kept := sound.toKept.of_off next.state next.hal
      exact kept.goto ⟨next, initFailed, body⟩

theorem Kept.off_of_flag (kept : Kept run) (flag : run.driver.initFlag = false) :
    run.driver.buzzerState = .off := by
  by_contra sounding
  rw [kept.ready sounding] at flag
  cases flag

/-- `BUZZER_Init` is called first. -/
theorem InBody.at_init {call : SetStateCall} {done ahead : List Statement}
    (inBody : InBody driver interrupts call done (.buzzerInit :: ahead)) :
    call.target.body = .buzzerInit :: ahead := by
  cases done with
  | nil => exact inBody.body
  | cons earlier done =>
      have pairwise := body_pairwise call.target
      rw [inBody.body] at pairwise
      have order := (List.pairwise_append.mp pairwise).2.2 earlier List.mem_cons_self _
        List.mem_cons_self
      exact absurd rfl order.2.1

/-- The next statement. -/
theorem Sound.runThread (sound : Sound run) (succeeds : Bool)
    (undisturbed : Undisturbed run (.statement succeeds)) :
    Sound (runThread succeeds run) := by
  have placed := sound.placed
  cases thread : run.thread with
  | outside => simpa only [Buzzer.runThread, thread] using sound
  | init ahead =>
      cases ahead with
      | nil => simpa only [Buzzer.runThread, thread] using sound
      | cons statement ahead => exact sound.runInit thread succeeds
  | deInit ahead => exact sound.runDeInit thread succeeds undisturbed
  | setStateInit call initAhead ahead => exact sound.runSetStateInit thread succeeds undisturbed
  | setState call done ahead =>
      rw [thread] at placed
      cases ahead with
      | nil => simpa only [Buzzer.runThread, thread] using sound
      | cons statement ahead =>
          cases statement with
          | buzzerInit =>
              simp only [Buzzer.runThread, thread]
              split_ifs with flag
              · exact sound.runStatement placed flag
              · apply sound.toKept.goto
                rw [Bool.not_eq_true] at flag
                exact ⟨.start (sound.off_of_flag flag) flag sound.hal, placed.initFailed,
                  placed.at_init⟩
          | clearFlag =>
              simp only [Buzzer.runThread, thread]
              exact sound.runStatement placed trivial
          | setAutoreload _ | setCompare _ | enableIt | setCount _ | setState _ =>
              simp only [Buzzer.runThread, thread]
              exact sound.runStatement placed rfl

/-! ## The interrupt -/

/-- What the update interrupt does: nothing before the callback is registered,
else it turns itself off, counts, or ends the beep. -/
inductive Interrupted (driver : Driver) : Driver → Prop
  | masked (callback : driver.timer.callback = false) :
      Interrupted driver (Statement.clearFlag.apply driver)
  | idle (callback : driver.timer.callback = true) (idle : ¬ driver.buzzerState.IsBeep) :
      Interrupted driver (disableIt (Statement.clearFlag.apply driver))
  | count (callback : driver.timer.callback = true) (beep : driver.buzzerState.IsBeep)
      (more : 0 < driver.buzzerCount) :
      Interrupted driver
        { Statement.clearFlag.apply driver with buzzerCount := driver.buzzerCount - 1 }
  | last (callback : driver.timer.callback = true) (beep : driver.buzzerState.IsBeep)
      (none : driver.buzzerCount = 0) :
      Interrupted driver
        (Statement.apply (Statement.apply (disableIt (Statement.clearFlag.apply driver))
          (.setCompare 0)) (.setState .off))

theorem halTimIrqHandler_interrupted (succeeds : InitStatement → Bool)
    (enabled : driver.timer.updateInterrupt = true)
    (ready : driver.buzzerState ≠ .off → driver.initFlag = true) :
    Interrupted driver (halTimIrqHandler succeeds driver) := by
  cases callback : driver.timer.callback with
  | false =>
      have masked := Interrupted.masked callback
      simpa only [halTimIrqHandler, Statement.apply, callback, Bool.false_eq_true, if_false]
        using masked
  | true =>
      by_cases beep : driver.buzzerState.IsBeep
      · by_cases more : 0 < driver.buzzerCount
        · have count := Interrupted.count callback beep more
          simpa only [halTimIrqHandler, buzzerTimIrqHandler, Statement.apply, callback, enabled,
            beep, more, if_true] using count
        · have last := Interrupted.last callback beep (Nat.eq_zero_of_not_pos more)
          have flag : driver.initFlag = true := by
            apply ready
            intro off
            rw [off] at beep
            exact beep
          simpa only [halTimIrqHandler, buzzerTimIrqHandler, Statement.apply, callback, enabled,
            beep, more, if_true, if_false, buzzerOff, runBody, disableIt, flag] using last
      · have idle := Interrupted.idle callback beep
        simpa only [halTimIrqHandler, buzzerTimIrqHandler, Statement.apply, callback, enabled,
          beep, if_true, if_false] using idle

theorem Interrupted.initFlag (interrupted : Interrupted driver after) :
    after.initFlag = driver.initFlag := by
  cases interrupted <;> rfl

theorem Interrupted.initialised (interrupted : Interrupted driver after)
    (initialised : Initialised driver.timer) : Initialised after.timer := by
  obtain ⟨clock, callback, started⟩ := initialised
  cases interrupted <;> exact ⟨clock, callback, started⟩

/-- The interrupt leaves the state, or turns a beep off. -/
theorem Interrupted.state (interrupted : Interrupted driver after) :
    after.buzzerState = driver.buzzerState ∨ after.buzzerState = .off := by
  cases interrupted with
  | masked | idle | count => exact .inl rfl
  | last => exact .inr rfl

/-- A beep goes on with its interrupt enabled, and one less to count. -/
theorem Interrupted.beep (interrupted : Interrupted driver after)
    (callback : driver.timer.callback = true) (beep : after.buzzerState.IsBeep) :
    after.timer.updateInterrupt = driver.timer.updateInterrupt ∧
      after.buzzerCount + 1 = driver.buzzerCount := by
  cases interrupted with
  | masked masked =>
      rw [callback] at masked
      cases masked
  | idle _ idle => exact absurd beep idle
  | count _ _ more => exact ⟨rfl, Nat.succ_pred_eq_of_pos more⟩
  | last => exact beep.elim

/-- A beep ends when nothing is left to count. -/
theorem Interrupted.ends (interrupted : Interrupted driver after)
    (beep : driver.buzzerState.IsBeep) (off : after.buzzerState = .off) :
    driver.buzzerCount = 0 := by
  cases interrupted with
  | masked =>
      change driver.buzzerState = .off at off
      rw [off] at beep
      exact beep.elim
  | idle _ idle => exact absurd beep idle
  | count =>
      change driver.buzzerState = .off at off
      rw [off] at beep
      exact beep.elim
  | last _ _ none => exact none

/-- A driver that sounds is settled, or between two statements of a state. -/
theorem Sound.sounding (sound : Sound run) (sounding : run.driver.buzzerState ≠ .off) :
    Settled run.driver run.interrupts ∨ ∃ call done ahead,
      run.thread = .setState call done ahead ∧
        InBody run.driver run.interrupts call done ahead := by
  have placed := sound.placed
  cases thread : run.thread with
  | outside =>
      rw [thread] at placed
      exact .inl placed
  | init ahead =>
      rw [thread] at placed
      exact absurd placed.1.state sounding
  | deInit ahead =>
      rw [thread] at placed
      rcases placed with ⟨-, settled⟩ | ⟨-, off, -⟩
      · exact .inl settled
      · exact absurd off sounding
  | setState call done ahead =>
      rw [thread] at placed
      exact .inr ⟨call, done, ahead, rfl, placed⟩
  | setStateInit call initAhead ahead =>
      rw [thread] at placed
      exact absurd placed.1.state sounding

/-- At an interrupt of a beep the timer is initialised, and the count is that
of the beep. -/
theorem Sound.counted (sound : Sound run) {succeeds : InitStatement → Bool}
    (undisturbed : Undisturbed run (.interrupt succeeds))
    (beep : run.driver.buzzerState.IsBeep) :
    Initialised run.driver.timer ∧
      run.interrupts + run.driver.buzzerCount + 1 = run.driver.buzzerState.beeps := by
  have sounding : run.driver.buzzerState ≠ .off := by
    intro off
    rw [off] at beep
    exact beep
  have flag := sound.ready sounding
  rcases sound.sounding sounding with settled | ⟨call, done, ahead, thread, inBody⟩
  · exact ⟨settled.flagged flag, settled.count beep⟩
  · rw [Undisturbed, thread] at undisturbed
    exact ⟨inBody.flagged flag, inBody.count beep fun value mem => undisturbed _ mem beep⟩

/-- The interrupt leaves a settled driver settled. -/
theorem Settled.interrupt (settled : Settled driver interrupts)
    (ready : driver.buzzerState ≠ .off → driver.initFlag = true)
    (interrupted : Interrupted driver after) : Settled after (interrupts + 1) := by
  have flagged : after.initFlag = true → Initialised after.timer := by
    rw [interrupted.initFlag]
    exact fun flag => interrupted.initialised (settled.flagged flag)
  cases interrupted with
  | masked callback =>
      have off : driver.buzzerState = .off := by
        by_contra sounding
        rw [(settled.flagged (ready sounding)).callback] at callback
        cases callback
      exact .of_off off flagged (settled.silent off)
  | idle _ idle =>
      exact ⟨flagged, settled.silent,
        fun sounding => ⟨(settled.tuned sounding).autoreload, (settled.tuned sounding).compare⟩,
        fun beep => absurd beep idle⟩
  | count _ beep more =>
      have count := settled.count beep
      refine ⟨flagged, settled.silent,
        fun sounding => ⟨(settled.tuned sounding).autoreload, (settled.tuned sounding).compare⟩,
        fun _ => ?_⟩
      change interrupts + 1 + (driver.buzzerCount - 1) + 1 = driver.buzzerState.beeps
      omega
  | last => exact .of_off rfl flagged rfl

/-- The interrupt does not touch the initialisation. -/
theorem Initialising.interrupt {ahead : List InitStatement}
    (initialising : Initialising driver ahead) (interrupted : Interrupted driver after) :
    Initialising after ahead ∧ after.timer.compare = driver.timer.compare := by
  obtain ⟨state, flag, hal, done, split, holds⟩ := initialising
  have silent : ¬ driver.buzzerState.IsBeep := by
    rw [state]
    exact id
  cases interrupted with
  | masked =>
      refine ⟨⟨state, flag, hal, done, split, fun statement mem => ?_⟩, rfl⟩
      have held := holds statement mem
      cases statement <;> exact held
  | idle =>
      refine ⟨⟨state, flag, hal, done, split, fun statement mem => ?_⟩, rfl⟩
      have held := holds statement mem
      cases statement <;> exact held
  | count _ beep => exact absurd beep silent
  | last _ beep => exact absurd beep silent

/-- The interrupt leaves in effect what it does not undo. -/
theorem Statement.Holds.interrupt {statement : Statement} (holds : statement.Holds driver)
    (notLast : ∀ value, statement ≠ .setState value) (kept : ¬ statement.UndoneAt driver)
    (interrupted : Interrupted driver after) : statement.Holds after := by
  cases statement with
  | setState value => exact absurd rfl (notLast value)
  | buzzerInit => exact interrupted.initFlag.trans holds
  | clearFlag => trivial
  | setAutoreload value => cases interrupted <;> exact holds
  | setCompare value =>
      cases interrupted with
      | masked | idle | count => exact holds
      | last _ beep none =>
          by_contra sounding
          exact kept ⟨beep, none, fun zero => sounding zero.symm⟩
  | enableIt =>
      cases interrupted with
      | masked | count => exact holds
      | idle _ idle => exact absurd (fun beep => absurd beep idle) kept
      | last _ _ none => exact absurd (fun _ => none) kept
  | setCount value =>
      cases interrupted with
      | masked | idle => exact holds
      | count _ beep => exact absurd beep kept
      | last _ beep => exact absurd beep kept

/-- The interrupt in `BUZZER_SetState`. -/
theorem InBody.interrupt {call : SetStateCall} {done ahead : List Statement}
    (inBody : InBody driver interrupts call done ahead)
    (kept : ∀ statement ∈ done, ¬ statement.UndoneAt driver)
    (ready : driver.buzzerState ≠ .off → driver.initFlag = true)
    (interrupted : Interrupted driver after) :
    InBody after (interrupts + 1) call done ahead := by
  refine ⟨inBody.initFailed, inBody.body, inBody.unfinished, fun flag => ?_,
    fun statement mem => ?_, fun sounding => ?_, fun beep uncounted => ?_⟩
  · rw [interrupted.initFlag] at flag
    exact interrupted.initialised (inBody.flagged flag)
  · have pairwise := body_pairwise call.target
    rw [inBody.body] at pairwise
    obtain ⟨next, ahead, rfl⟩ := List.exists_cons_of_ne_nil inBody.unfinished
    have order := (List.pairwise_append.mp pairwise).2.2 statement mem next List.mem_cons_self
    exact (inBody.holds statement mem).interrupt order.1 (kept statement mem) interrupted
  · cases interrupted with
    | masked | idle | count =>
        obtain ⟨autoreload, compare⟩ := inBody.retuned sounding
        exact ⟨autoreload, compare⟩
    | last => exact absurd rfl sounding
  · have same : after.buzzerState = driver.buzzerState := by
      rcases interrupted.state with same | off
      · exact same
      · rw [off] at beep
        exact beep.elim
    rw [same] at beep ⊢
    have sounding : driver.buzzerState ≠ .off := by
      intro off
      rw [off] at beep
      exact beep
    have callback := (inBody.flagged (ready sounding)).callback
    have count := inBody.count beep uncounted
    rw [← same] at beep
    have less := (interrupted.beep callback beep).2
    omega

/-- The update interrupt. -/
theorem Sound.runInterrupt (sound : Sound run) (succeeds : InitStatement → Bool)
    (enabled : buzzerEnabled run (.interrupt succeeds))
    (undisturbed : Undisturbed run (.interrupt succeeds)) :
    Sound (runInterrupt succeeds run) := by
  have interrupted := halTimIrqHandler_interrupted succeeds enabled.2.1 sound.ready
  have hal := sound.hal
  refine ⟨⟨fun sounding => ?_, fun beep => ?_, ?_, ?_, sound.returned⟩, ?_⟩
  · refine interrupted.initFlag.trans (sound.ready ?_)
    rcases interrupted.state with same | off
    · rw [← same]
      exact sounding
    · exact absurd off sounding
  · have beep' : run.driver.buzzerState.IsBeep := by
      rcases interrupted.state with same | off
      · rw [← same]
        exact beep
      · change (halTimIrqHandler succeeds run.driver).buzzerState.IsBeep at beep
        rw [off] at beep
        exact beep.elim
    have callback := (sound.counted undisturbed beep').1.callback
    exact (interrupted.beep callback beep).1.trans enabled.2.1
  · change (halTimIrqHandler succeeds run.driver).timer.isReset = false →
      (halTimIrqHandler succeeds run.driver).timer.clock = true
    generalize halTimIrqHandler succeeds run.driver = after at interrupted
    cases interrupted <;> exact hal
  · rw [Buzzer.runInterrupt]
    simp only
    split_ifs with ends
    · intro entry mem
      rcases List.mem_append.mp mem with earlier | last
      · exact sound.ended entry earlier
      · rw [List.mem_singleton] at last
        subst last
        have count := (sound.counted undisturbed ends.1).2
        rw [interrupted.ends ends.1 ends.2] at count
        exact count
    · exact sound.ended
  · have placed := sound.placed
    change Placed (halTimIrqHandler succeeds run.driver) (run.interrupts + 1) run.thread
    cases thread : run.thread with
    | outside =>
        rw [thread] at placed
        exact placed.interrupt sound.ready interrupted
    | init ahead =>
        rw [thread] at placed
        obtain ⟨initialising, silent⟩ := placed
        obtain ⟨next, same⟩ := initialising.interrupt interrupted
        exact ⟨next, same.trans silent⟩
    | deInit ahead =>
        rw [thread] at placed
        rcases placed with ⟨start, settled⟩ | ⟨rest, off, silent⟩
        · exact .inl ⟨start, settled.interrupt sound.ready interrupted⟩
        · have idle : ¬ run.driver.buzzerState.IsBeep := by
            rw [off]
            exact id
          refine .inr ⟨rest, ?_, ?_⟩
          · rcases interrupted.state with same | off'
            · exact same.trans off
            · exact off'
          · generalize halTimIrqHandler succeeds run.driver = after at interrupted
            cases interrupted with
            | masked => exact silent
            | idle => exact silent
            | count _ beep => exact absurd beep idle
            | last => rfl
    | setState call done ahead =>
        rw [thread] at placed
        rw [Undisturbed, thread] at undisturbed
        exact placed.interrupt undisturbed sound.ready interrupted
    | setStateInit call initAhead ahead =>
        rw [thread] at placed
        obtain ⟨initialising, initFailed, body⟩ := placed
        exact ⟨(initialising.interrupt interrupted).1, initFailed, body⟩

/-- An overflow of the counter leaves all but the flag. -/
theorem Sound.overflow (sound : Sound run) :
    Sound { run with driver.timer.updateFlag := true } := by
  refine ⟨⟨sound.ready, sound.enabled, sound.hal, sound.ended, sound.returned⟩, ?_⟩
  have settled : ∀ {interrupts : ℕ}, Settled run.driver interrupts →
      Settled { run.driver with timer.updateFlag := true } interrupts := by
    intro interrupts settled
    refine ⟨fun flag => ?_, settled.silent, fun sounding => ?_, settled.count⟩
    · obtain ⟨clock, callback, started⟩ := settled.flagged flag
      exact ⟨clock, callback, started⟩
    · obtain ⟨autoreload, compare⟩ := settled.tuned sounding
      exact ⟨autoreload, compare⟩
  have initialising : ∀ {ahead : List InitStatement}, Initialising run.driver ahead →
      Initialising { run.driver with timer.updateFlag := true } ahead := by
    rintro ahead ⟨state, flag, hal, done, split, holds⟩
    refine ⟨state, flag, hal, done, split, fun statement mem => ?_⟩
    have held := holds statement mem
    cases statement <;> exact held
  have placed := sound.placed
  change Placed { run.driver with timer.updateFlag := true } run.interrupts run.thread
  cases thread : run.thread with
  | outside =>
      rw [thread] at placed
      exact settled placed
  | init ahead =>
      rw [thread] at placed
      exact ⟨initialising placed.1, placed.2⟩
  | deInit ahead =>
      rw [thread] at placed
      rcases placed with ⟨start, placed⟩ | ended
      · exact .inl ⟨start, settled placed⟩
      · exact .inr ended
  | setState call done ahead =>
      rw [thread] at placed
      refine ⟨placed.initFailed, placed.body, placed.unfinished, fun flag => ?_,
        fun statement mem => ?_, fun sounding => ?_, placed.count⟩
      · obtain ⟨clock, callback, started⟩ := placed.flagged flag
        exact ⟨clock, callback, started⟩
      · have held := placed.holds statement mem
        cases statement <;> exact held
      · obtain ⟨autoreload, compare⟩ := placed.retuned sounding
        exact ⟨autoreload, compare⟩
  | setStateInit call initAhead ahead =>
      rw [thread] at placed
      exact ⟨initialising placed.1, placed.2⟩

/-- Every event keeps the invariant. -/
theorem Sound.step (sound : Sound run) {event : BuzzerEvent} (enabled : buzzerEnabled run event)
    (undisturbed : Undisturbed run event) : Sound (buzzerStep event run) := by
  have placed := sound.placed
  cases event with
  | callInit =>
      have outside : run.thread = .outside := enabled
      rw [outside] at placed
      rw [buzzerStep]
      split_ifs with flag
      · exact sound
      · rw [Bool.not_eq_true] at flag
        have off := sound.off_of_flag flag
        exact sound.toKept.goto ⟨.start off flag sound.hal, placed.silent off⟩
  | callDeInit =>
      have outside : run.thread = .outside := enabled
      rw [outside] at placed
      exact sound.toKept.goto (.inl ⟨rfl, placed⟩)
  | callSetState target =>
      have outside : run.thread = .outside := enabled
      rw [outside] at placed
      exact sound.callSetState placed target
  | statement succeeds => exact sound.runThread succeeds undisturbed
  | overflow => exact sound.overflow
  | interrupt succeeds => exact sound.runInterrupt succeeds enabled undisturbed

/-- The invariant is what the driver promises. -/
theorem Sound.promised (sound : Sound run) : Promised run := by
  have initialised : run.driver.buzzerState ≠ .off → Initialised run.driver.timer := by
    intro sounding
    have flag := sound.ready sounding
    rcases sound.sounding sounding with settled | ⟨call, done, ahead, -, inBody⟩
    · exact settled.flagged flag
    · exact inBody.flagged flag
  have settled : ¬ run.thread.InSetState → run.driver.buzzerState ≠ .off →
      Settled run.driver run.interrupts := by
    intro outside sounding
    rcases sound.sounding sounding with settled | ⟨call, done, ahead, thread, -⟩
    · exact settled
    · rw [thread] at outside
      exact absurd trivial outside
  refine ⟨fun outside beep => ⟨sound.enabled beep, ?_⟩, sound.ended, initialised,
    fun outside sounding => (settled outside sounding).tuned sounding,
    fun call done ahead thread sounding => ?_, sound.returned⟩
  · have sounding : run.driver.buzzerState ≠ .off := by
      intro off
      rw [off] at beep
      exact beep
    have count := (settled outside sounding).count beep
    omega
  · have placed := sound.placed
    rw [thread] at placed
    exact placed.retuned sounding

end Steps

/-- The buzzer is initialised and set to a tick. -/
def initialiseAndTick : List BuzzerEvent :=
  .callInit :: List.replicate 8 (.statement true) ++
    .callSetState (some .tick) :: List.replicate 5 (.statement true)

/-- The ring, and the first statements of the danger after it. -/
def ringIntoDanger : List BuzzerEvent :=
  .callSetState (some .ring) :: List.replicate 4 (.statement true) ++
    [.callSetState (some .danger), .statement true, .statement true]

end GenericNode.Buzzer
