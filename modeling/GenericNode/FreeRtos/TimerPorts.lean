import GenericNode.FreeRtos.Callbacks
import GenericNode.Timer.Macros

/-!
# Two ports of one timer interface

The timers of the FreeRTOS port and the bare-metal macros, side by side.  Their
callbacks for the same calls take the same time, up to the ticks of each clock
and to how late each port is.
-/

namespace GenericNode.FreeRtos

open GenericNode.Library
open GenericNode.Library.OneShot
open GenericNode.Timer

section Ports

variable {ι : Type} {kernel : TimerKernel}

/-- A callback of the FreeRTOS port and one of the macros, a delay after their
starts, in ticks of the kernel and of the RTC: neither is later than the other
but for the tick that has begun, its lateness, and for the macros the shortest
alarm and the last stop. -/
structure SameDelay (port : TimerPort ι kernel) (run : MacroRun ι)
    (delay delay' quiet : ℕ) : Prop where
  freeRtos : delay * 1024 ≤
    (delay' + 1) * port.tick.configTickRateHz + (1 + 2 * port.lateness.late) * 1024
  bareMetal : delay' * port.tick.configTickRateHz ≤
    max ((delay + 1) * 1024) (max minAlarmDelay quiet * port.tick.configTickRateHz) +
      (minAlarmDelay + 3 * run.lateness.late) * port.tick.configTickRateHz

/-- Callbacks that are in time in both ports, with one value. -/
theorem sameDelay_of_in_time {port : TimerPort ι kernel} {run : MacroRun ι}
    {value start time stopped start' time' stopped' : ℕ}
    (inTime : port.timing.earliest value start ≤ time ∧
      time ≤ port.timing.latest value start stopped)
    (inTime' : run.timing.earliest value start' ≤ time' ∧
      time' ≤ run.timing.latest value start' stopped') :
    ∃ delay delay', time = start + delay ∧ time' = start' + delay' ∧
      SameDelay port run delay delay' (stopped' - start') := by
  rcases inTime with ⟨after, before⟩
  rcases inTime' with ⟨after', before'⟩
  change start + leastTicks port.tick.configTickRateHz value ≤ time at after
  change time ≤ start + value * port.tick.configTickRateHz / 1000 + 1 + 2 * port.lateness.late
    at before
  change start' + leastTicks 1024 value ≤ time' at after'
  change time' ≤ waitsUntil value start' stopped' + minAlarmDelay + 3 * run.lateness.late
    at before'
  rcases Nat.exists_eq_add_of_le ((Nat.le_add_right _ _).trans after) with ⟨delay, rfl⟩
  rcases Nat.exists_eq_add_of_le ((Nat.le_add_right _ _).trans after') with ⟨delay', rfl⟩
  have least := Nat.le_of_add_le_add_left after
  have least' := Nat.le_of_add_le_add_left after'
  refine ⟨delay, delay', rfl, rfl, ?_, ?_⟩
  · have most : delay ≤ value * port.tick.configTickRateHz / 1000 +
        (1 + 2 * port.lateness.late) := by
      linarith
    calc delay * 1024
        ≤ (value * port.tick.configTickRateHz / 1000 + (1 + 2 * port.lateness.late)) * 1024 :=
          Nat.mul_le_mul_right _ most
      _ = value * port.tick.configTickRateHz / 1000 * 1024 +
            (1 + 2 * port.lateness.late) * 1024 := Nat.add_mul _ _ _
      _ ≤ _ := Nat.add_le_add_right (ticks_at_rate _ least') _
  · have most : delay' ≤ max (macroTicks value) (max minAlarmDelay (stopped' - start')) +
        (minAlarmDelay + 3 * run.lateness.late) := by
      rw [waitsUntil] at before'
      omega
    have enough := ticks_at_rate 1024 least
    calc delay' * port.tick.configTickRateHz
        ≤ (max (macroTicks value) (max minAlarmDelay (stopped' - start')) +
            (minAlarmDelay + 3 * run.lateness.late)) * port.tick.configTickRateHz :=
          Nat.mul_le_mul_right _ most
      _ = max (macroTicks value * port.tick.configTickRateHz)
            (max minAlarmDelay (stopped' - start') * port.tick.configTickRateHz) +
            (minAlarmDelay + 3 * run.lateness.late) * port.tick.configTickRateHz := by
          rw [Nat.add_mul, Nat.mul_max_mul_right]
      _ ≤ _ := Nat.add_le_add_right (max_le_max enough (Nat.le_refl _)) _

variable [DecidableEq ι]

/-- The timers of the FreeRTOS port are one-shot timers: the last start is
called back, if there is a callback, and an active timer is a started one once
no command waits for it. -/
structure PortPromised (port : TimerPort ι kernel) : Prop where
  lawful : Lawful port.timing port.log
  served : ∀ timer, ∀ pEvent ∈ port.objects timer,
    (port.events pEvent).callback.isSome = true →
      Served port.timing port.log port.tick.tickCount timer
  active : ∀ timer, ∀ pEvent ∈ port.objects timer,
    port.view.waits (port.handle pEvent) = false → ¬ port.Stale (port.handle pEvent) →
      (port.view.active (port.handle pEvent) = true ↔
        ∃ start value, Started port.log timer start value)

/-- The timers of the macros are one-shot timers, in time if the alarms were
armed promptly. -/
structure MacrosPromised (run : MacroRun ι) : Prop where
  lawful : Lawful (macroAnyTime run.world.rtc.ticks) run.log
  isRunning : ∀ timer, (run.world.objects timer).isRunning = true ↔
    ∃ start value, Started run.log timer start value
  inTime : run.world.rtc.slowest < minAlarmDelay → Lawful run.timing run.log
  served : run.world.rtc.slowest < minAlarmDelay → ∀ timer,
    Served run.timing run.log run.world.rtc.ticks timer

/-- What is promised of the timers of both ports: each is a one-shot timer, and
the callbacks for the same calls have the same value and delay. -/
structure PortsPromised (port : TimerPort ι kernel) (run : MacroRun ι) : Prop where
  freeRtos : PortPromised port
  bareMetal : MacrosPromised run
  sameDelay : run.world.rtc.slowest < minAlarmDelay →
    ∀ {timer : ι} {calls : List (Action ι)}
      {value start stopped time value' start' stopped' time' : ℕ},
      CalledBack port.log timer calls value start stopped time →
      CalledBack run.log timer calls value' start' stopped' time' →
        value = value' ∧ ∃ delay delay', time = start + delay ∧ time' = start' + delay' ∧
          SameDelay port run delay delay' (stopped' - start')

theorem PortKept.promised {port : TimerPort ι kernel} (kept : PortKept port)
    (documented : kernel.Documented) : PortPromised port := by
  refine ⟨kept.lawful, ?_, ?_⟩
  · intro timer pEvent here callback
    exact (kept.awaited here callback).served
  · intro timer pEvent here none_waits fresh
    rcases kept.tracks timer pEvent here with ⟨soft, tracks⟩
    rw [exists_started_iff, tracks.active_eq documented none_waits fresh]

theorem macrosPromised_of_kept {run : MacroRun ι} (kept : MacroKept run) :
    MacrosPromised run := by
  refine ⟨kept.lawful_ever, ?_, kept.lawful, fun prompt timer => (kept.awaited prompt timer).served⟩
  intro timer
  rw [exists_started_iff, kept.isRunning_eq]

/-- In the runs whose steps fit, both ports have one-shot timers, and their
callbacks agree. -/
theorem timers_oneShot [Fintype ι] (documented : kernel.Documented) {tick : KernelTick}
    {state : kernel.State} (dormant : kernel.view state = ⟨fun _ => none, []⟩)
    {ticks : ℕ} {delays : ℕ → ℕ} {port : TimerPort ι kernel} {run : MacroRun ι}
    (portReaches : (portMachine ι kernel).Reaches portFits (portBoot tick state) port)
    (macroReaches : macroMachine.Reaches macroFits (macroBoot ticks delays) run) :
    PortsPromised port run := by
  have portKept := portKept_of_reaches documented dormant portReaches
  have macroKept := macroKept_of_reaches macroReaches
  refine ⟨portKept.promised documented, macrosPromised_of_kept macroKept, ?_⟩
  intro prompt timer calls value start stopped time value' start' stopped' time' called called'
  have same : value = value' := by
    have with_value := called.startedWith_eq
    rw [called'.startedWith_eq] at with_value
    exact (Option.some.inj with_value).symm
  subst same
  exact ⟨rfl, sameDelay_of_in_time (portKept.lawful.in_time called)
    ((macroKept.lawful prompt).in_time called')⟩

/-- Two timers with values of 20 and 50 milliseconds in the FreeRTOS port: the
first one calls back and stops itself and the other one, before its answer is
asked for. -/
def portTwoTimers : List (PortEvent Bool) :=
  [.init false true, .init true true, .setValue false 20, .setValue true 50, .command, .command,
    .start false, .start true, .command, .command, .tick, .tick, .expire 0, .callback, .stop false,
    .stop true, .command, .command, .isStarted false]

/-- The same timers in the bare-metal macros. -/
def macroTwoTimers : List (MacroEvent Bool) :=
  [.init false, .init true, .setValue false 20, .setValue true 50, .start false, .start true,
    .pass 14, .pass 1, .pass 1, .pass 1, .pass 1, .alarm, .expire, .stop false, .stop true,
    .callbackEnds, .expire]

/-- Both ports call the first timer back after the same calls. -/
theorem timers_oneShot_once :
    ∃ (port : TimerPort Bool (listTimers 10)) (run : MacroRun Bool),
      port.log.map Entry.action = [.isStarted false false, .stop true, .stop false,
        .callback false, .start true, .start false, .setValue true 50, .setValue false 20,
        .init true, .init false] ∧
      run.log.map Entry.action = [.stop true, .stop false,
        .callback false, .start true, .start false, .setValue true 50, .setValue false 20,
        .init true, .init false] ∧
      run.world.rtc.slowest < minAlarmDelay ∧ PortsPromised port run := by
  have ported : ((portMachine Bool (listTimers 10)).replay portFits portTwoTimers
        (portBoot ⟨100, 0, false⟩ (⟨[], []⟩ : ListTimers))).map
          (fun port : TimerPort Bool (listTimers 10) => port.log.map Entry.action) =
      some [.isStarted false false, .stop true, .stop false, .callback false, .start true,
        .start false, .setValue true 50, .setValue false 20, .init true, .init false] := by
    decide +kernel
  have served : (macroMachine.replay macroFits macroTwoTimers (macroBoot 0 fun _ => 1)).map
        (fun run : MacroRun Bool => (run.log.map Entry.action, run.world.rtc.slowest)) =
      some ([.stop true, .stop false, .callback false, .start true, .start false,
        .setValue true 50, .setValue false 20, .init true, .init false], 1) := by
    decide +kernel
  rcases Option.map_eq_some_iff.mp ported with ⟨port, portReplayed, portActions⟩
  rcases Option.map_eq_some_iff.mp served with ⟨run, macroReplayed, shown⟩
  simp only [Prod.mk.injEq] at shown
  rcases shown with ⟨macroActions, slowest⟩
  have prompt : run.world.rtc.slowest < minAlarmDelay := by
    rw [slowest]
    decide
  exact ⟨port, run, portActions, macroActions, prompt,
    timers_oneShot (listTimers_documented 10) rfl (Machine.reaches_of_replay _ portReplayed)
      (Machine.reaches_of_replay _ macroReplayed)⟩

/-- A callback whose timer is not started is not lawful, whenever it is. -/
theorem not_lawful_of_callback {timing : Timing} {log : List (Entry ι)} {timer : ι} {time : ℕ}
    (ended : pending timer log = none) : ¬ Lawful timing (⟨time, .callback timer⟩ :: log) := by
  intro lawful
  rcases lawful.callback [] time timer log rfl with ⟨start, value, started, -⟩
  rw [started_iff, ended] at started
  cases started

/-- A callback that does not stop its timer is called again; and a timer that has
expired is called back after it was stopped. -/
theorem timerStart_reloads :
    (∃ port : TimerPort Unit (listTimers 10),
      (portMachine Unit (listTimers 10)).Reaches (fun _ _ => True)
        (portBoot ⟨1000, 0, false⟩ (⟨[], []⟩ : ListTimers)) port ∧
      port.log = [⟨2, .callback ()⟩, ⟨1, .callback ()⟩, ⟨0, .start ()⟩, ⟨0, .setValue () 1⟩,
        ⟨0, .init ()⟩] ∧
      ∀ timing, ¬ Lawful timing port.log) ∧
    ∃ port : TimerPort Unit (listTimers 10),
      (portMachine Unit (listTimers 10)).Reaches (fun _ _ => True)
        (portBoot ⟨1000, 0, false⟩ (⟨[], []⟩ : ListTimers)) port ∧
      port.log = [⟨1, .callback ()⟩, ⟨1, .stop ()⟩, ⟨0, .start ()⟩, ⟨0, .setValue () 1⟩,
        ⟨0, .init ()⟩] ∧
      ∀ timing, ¬ Lawful timing port.log := by
  have reached : ∀ {events : List (PortEvent Unit)} {log : List (Entry Unit)},
      ((portMachine Unit (listTimers 10)).replay (fun _ _ => True) events
        (portBoot ⟨1000, 0, false⟩ (⟨[], []⟩ : ListTimers))).map
          (fun port : TimerPort Unit (listTimers 10) => port.log) = some log →
      (∀ timing, ¬ Lawful timing log) →
        ∃ port : TimerPort Unit (listTimers 10),
          (portMachine Unit (listTimers 10)).Reaches (fun _ _ => True)
            (portBoot ⟨1000, 0, false⟩ (⟨[], []⟩ : ListTimers)) port ∧
          port.log = log ∧ ∀ timing, ¬ Lawful timing port.log := by
    intro events log ported unlawful
    rcases Option.map_eq_some_iff.mp ported with ⟨port, replayed, rfl⟩
    exact ⟨port, Machine.reaches_of_replay _ replayed, rfl, unlawful⟩
  have reloads : ((portMachine Unit (listTimers 10)).replay (fun _ _ => True)
        [.init () true, .setValue () 1, .command, .start (), .command, .tick, .expire 0, .callback,
          .tick, .expire 0, .callback] (portBoot ⟨1000, 0, false⟩ (⟨[], []⟩ : ListTimers))).map
          (fun port : TimerPort Unit (listTimers 10) => port.log) =
      some [⟨2, .callback ()⟩, ⟨1, .callback ()⟩, ⟨0, .start ()⟩, ⟨0, .setValue () 1⟩,
        ⟨0, .init ()⟩] := by
    decide +kernel
  have waits : ((portMachine Unit (listTimers 10)).replay (fun _ _ => True)
        [.init () true, .setValue () 1, .command, .start (), .command, .tick, .expire 0,
          .stop (), .callback] (portBoot ⟨1000, 0, false⟩ (⟨[], []⟩ : ListTimers))).map
          (fun port : TimerPort Unit (listTimers 10) => port.log) =
      some [⟨1, .callback ()⟩, ⟨1, .stop ()⟩, ⟨0, .start ()⟩, ⟨0, .setValue () 1⟩,
        ⟨0, .init ()⟩] := by
    decide +kernel
  exact ⟨reached reloads fun timing => not_lawful_of_callback rfl,
    reached waits fun timing => not_lawful_of_callback rfl⟩

end Ports

end GenericNode.FreeRtos
