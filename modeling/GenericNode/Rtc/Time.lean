import GenericNode.Library.Machine
import GenericNode.Library.SplitCounter
import GenericNode.Rtc.Ticks

/-!
# The 64-bit RTC time

`GNSE_RTC_GetTime` puts a time together from two reads, of the hardware
counter and of the word that the underflow interrupt increments.  The machine
below runs the two reads against the clock and the interrupt; every
interleaving is one of its runs.
-/

namespace GenericNode.Rtc

open GenericNode.Library
open GenericNode.Library.Prog

/-- The seconds that `GNSE_RTC_GetTime` returns and the milliseconds that it
stores. -/
structure RtcTime where
  seconds : ℕ
  mSeconds : ℕ
deriving DecidableEq, Repr

/-- Order of times. -/
def RtcTime.NotAfter (earlier later : RtcTime) : Prop :=
  earlier.seconds < later.seconds ∨
    earlier.seconds = later.seconds ∧ earlier.mSeconds ≤ later.mSeconds

instance (earlier later : RtcTime) : Decidable (earlier.NotAfter later) :=
  inferInstanceAs (Decidable (_ ∨ _))

/-- The time at a tick count, at 1024 ticks a second. -/
def timeOfTicks (ticks : ℕ) : RtcTime where
  seconds := ticks / 1024
  mSeconds := ticks % 1024 * 1000 / 1024

theorem timeOfTicks_notAfter {earlier later : ℕ} (ordered : earlier ≤ later) :
    (timeOfTicks earlier).NotAfter (timeOfTicks later) := by
  simp only [RtcTime.NotAfter, timeOfTicks]
  omega

/-- What `GNSE_RTC_GetTime` computes from the two words it has read. -/
def gnseRtcGetTime (timerValueLsb timerValueMSB : ℕ) : RtcTime :=
  let ticks := (timerValueMSB <<< 32 + timerValueLsb) % 2 ^ 64
  { seconds := (ticks >>> rtcNPredivS) % 2 ^ 32
    mSeconds := gnseRtcConvertTick2ms ((ticks % 2 ^ 32) &&& rtcPredivS) % 2 ^ 16 }

/-- The computation is exact while the seconds fit in 32 bits. -/
theorem gnseRtcGetTime_eq {timerValueLsb timerValueMSB : ℕ}
    (fits : timerValueMSB * 2 ^ 32 + timerValueLsb < 2 ^ 42) :
    gnseRtcGetTime timerValueLsb timerValueMSB =
      timeOfTicks (timerValueMSB * 2 ^ 32 + timerValueLsb) := by
  have masked : ∀ ticks : ℕ, ticks &&& rtcPredivS = ticks % 1024 :=
    fun ticks => Nat.and_two_pow_sub_one_eq_mod ticks 10
  generalize ticks_eq : timerValueMSB * 2 ^ 32 + timerValueLsb = ticks at fits ⊢
  have whole : ticks % 2 ^ 64 = ticks := Nat.mod_eq_of_lt (by omega)
  have lowBits : ticks % 2 ^ 32 % 1024 = ticks % 1024 := by omega
  simp only [gnseRtcGetTime, timeOfTicks, masked, Nat.shiftLeft_eq,
    Nat.shiftRight_eq_div_pow, rtcNPredivS, ticks_eq, whole, lowBits]
  rw [gnseRtcConvertTick2ms_eq (by omega)]
  congr 1 <;> omega

/-! ## The machine -/

/-- Where a call of `GNSE_RTC_GetTime` stands.  After the first read the count
at that read, the flag at that read and the interrupts served since are
remembered beside the word that was read. -/
inductive GetTimeCall where
  | outside
  | entered
  | lsbRead (timerValueLsb readAt : ℕ) (pending : Bool) (served : ℕ)
  | msbRead (timerValueLsb timerValueMSB readAt : ℕ)
deriving DecidableEq, Repr

/-- The first read is done and the second is not. -/
def GetTimeCall.isLsbRead : GetTimeCall → Bool
  | .lsbRead .. => true
  | _ => false

/-- Both reads are done. -/
def GetTimeCall.isMsbRead : GetTimeCall → Bool
  | .msbRead .. => true
  | _ => false

/-- The interrupts served since the first read are those pending at it. -/
def GetTimeCall.servedPending : GetTimeCall → Bool
  | .lsbRead _ _ pending served => served == pending.toNat
  | _ => true

/-- A completed call: the tick counts at entry and return, and its result. -/
structure TimeAnswer where
  entry : ℕ
  exit : ℕ
  time : RtcTime
deriving DecidableEq, Repr

/-- The RTC, the call in progress with its entry count, and the completed
calls, latest first. -/
structure TimeState where
  rtc : RtcRegisters
  call : GetTimeCall
  entry : ℕ
  answers : List TimeAnswer
deriving DecidableEq, Repr

/-- The counter counts, its interrupt is served, and a call takes a step. -/
inductive TimeEvent where
  | tick
  | underflowInterrupt
  | callGetTime
  | readLsb
  | readMsb
  | returnTime
deriving DecidableEq, Repr

/-- After `GNSE_RTC_Init`. -/
def timeBoot : TimeState where
  rtc := ⟨0, false, 0⟩
  call := .outside
  entry := 0
  answers := []

/-- The interrupt is taken at any time while its flag is raised; the steps of
the call follow one another. -/
def TimeEnabled (state : TimeState) : TimeEvent → Prop
  | .tick => True
  | .underflowInterrupt => state.rtc.underflow = true
  | .callGetTime => state.call = .outside
  | .readLsb => state.call = .entered
  | .readMsb => state.call.isLsbRead = true
  | .returnTime => state.call.isMsbRead = true

instance (state : TimeState) (event : TimeEvent) : Decidable (TimeEnabled state event) :=
  match event with
  | .tick => inferInstanceAs (Decidable True)
  | .underflowInterrupt => inferInstanceAs (Decidable (_ = true))
  | .callGetTime => inferInstanceAs (Decidable (_ = GetTimeCall.outside))
  | .readLsb => inferInstanceAs (Decidable (_ = GetTimeCall.entered))
  | .readMsb => inferInstanceAs (Decidable (_ = true))
  | .returnTime => inferInstanceAs (Decidable (_ = true))

/-- The call after an interrupt. -/
def GetTimeCall.afterInterrupt : GetTimeCall → GetTimeCall
  | .lsbRead timerValueLsb readAt pending served =>
      .lsbRead timerValueLsb readAt pending (served + 1)
  | call => call

/-- The reaction to an event. -/
def timeNext (state : TimeState) : TimeEvent → TimeState
  | .tick => { state with rtc := state.rtc.tick }
  | .underflowInterrupt =>
      { state with
        rtc := state.rtc.halRtcexSsruEventCallback
        call := state.call.afterInterrupt }
  | .callGetTime => { state with call := .entered, entry := state.rtc.elapsed }
  | .readLsb =>
      { state with
        call := .lsbRead state.rtc.getTimerTicks state.rtc.elapsed state.rtc.underflow 0 }
  | .readMsb =>
      match state.call with
      | .lsbRead timerValueLsb readAt _ _ =>
          { state with call := .msbRead timerValueLsb state.rtc.msbTicks readAt }
      | _ => state
  | .returnTime =>
      match state.call with
      | .msbRead timerValueLsb timerValueMSB _ =>
          { state with
            call := .outside
            answers :=
              ⟨state.entry, state.rtc.elapsed, gnseRtcGetTime timerValueLsb timerValueMSB⟩ ::
                state.answers }
      | _ => state

/-- The clock with one call at a time. -/
def timeMachine : Machine TimeState TimeEvent where
  enabled := TimeEnabled
  step event := modify fun state => timeNext state event

instance (state : TimeState) (event : TimeEvent) :
    Decidable (timeMachine.enabled state event) :=
  inferInstanceAs (Decidable (TimeEnabled state event))

/-- Every completed call returned the time of a count that the clock had
between its entry and its return, and no call returned a smaller time than an
earlier one. -/
def TimeLaw (state : TimeState) : Prop :=
  (∀ answer ∈ state.answers, ∃ ticks, answer.entry ≤ ticks ∧ ticks ≤ answer.exit ∧
      answer.time = timeOfTicks ticks) ∧
    state.answers.Pairwise fun later earlier => earlier.time.NotAfter later.time

/-- The condition on a step: the seconds fit in 32 bits, a wrap finds the
previous underflow served, and the interrupts served between the two reads are
those that were pending at the first. -/
def TimeCondition (state : TimeState) : TimeEvent → Prop
  | .tick =>
      state.rtc.elapsed + 1 < 2 ^ 42 ∧
        ((state.rtc.elapsed + 1) % 2 ^ 32 = 0 → state.rtc.underflow = false)
  | .readMsb => state.call.servedPending = true
  | _ => True

instance (state : TimeState) (event : TimeEvent) :
    Decidable (TimeCondition state event) :=
  match event with
  | .tick => inferInstanceAs (Decidable (_ ∧ (_ → _)))
  | .readMsb => inferInstanceAs (Decidable (_ = true))
  | .underflowInterrupt | .callGetTime | .readLsb | .returnTime =>
      inferInstanceAs (Decidable True)

/-! ## The invariant -/

/-- The registers as a split counter. -/
def RtcRegisters.counter (rtc : RtcRegisters) : SplitCounter where
  total := rtc.elapsed
  carry := rtc.msbTicks
  pending := rtc.underflow

theorem RtcRegisters.counter_tick (rtc : RtcRegisters) :
    rtc.tick.counter = rtc.counter.tick (2 ^ 32) := by
  simp [RtcRegisters.counter, RtcRegisters.tick, SplitCounter.tick, SplitCounter.Wraps,
    Nat.dvd_iff_mod_eq_zero]

theorem RtcRegisters.counter_halRtcexSsruEventCallback {rtc : RtcRegisters}
    (fits : rtc.msbTicks + 1 < 2 ^ 32) :
    rtc.halRtcexSsruEventCallback.counter = rtc.counter.serve := by
  simp only [RtcRegisters.counter, RtcRegisters.halRtcexSsruEventCallback,
    SplitCounter.serve, Nat.mod_eq_of_lt fits]

/-- The latest count at which the completed calls may have returned. -/
def TimeState.horizon (state : TimeState) : ℕ :=
  match state.call with
  | .outside => state.rtc.elapsed
  | _ => state.entry

/-- What the call in progress knows. -/
def CallKnows (state : TimeState) : Prop :=
  match state.call with
  | .outside => True
  | .entered => True
  | .lsbRead timerValueLsb readAt pending served =>
      state.entry ≤ readAt ∧ readAt ≤ state.rtc.elapsed ∧
        timerValueLsb = readAt % 2 ^ 32 ∧
        readAt / 2 ^ 32 + served = state.rtc.msbTicks + pending.toNat
  | .msbRead timerValueLsb timerValueMSB readAt =>
      state.entry ≤ readAt ∧ readAt ≤ state.rtc.elapsed ∧
        timerValueMSB * 2 ^ 32 + timerValueLsb = readAt

/-- The invariant of the clock and its calls. -/
structure TimeInv (state : TimeState) : Prop where
  coherent : state.rtc.counter.Coherent (2 ^ 32)
  fits : state.rtc.elapsed < 2 ^ 42
  horizon : state.horizon ≤ state.rtc.elapsed
  knows : CallKnows state
  exits : ∀ answer ∈ state.answers, answer.exit ≤ state.horizon
  honest : ∀ answer ∈ state.answers, ∃ ticks, answer.entry ≤ ticks ∧
    ticks ≤ answer.exit ∧ answer.time = timeOfTicks ticks
  ordered : state.answers.Pairwise fun later earlier => earlier.time.NotAfter later.time

theorem timeInv_boot : TimeInv timeBoot where
  coherent := rfl
  fits := by decide
  horizon := Nat.le_refl _
  knows := trivial
  exits := by simp [timeBoot]
  honest := by simp [timeBoot]
  ordered := List.Pairwise.nil

/-- Ticks move the horizon up only. -/
theorem horizon_tick (state : TimeState) :
    state.horizon ≤ (timeNext state .tick).horizon := by
  cases call_eq : state.call <;> simp [TimeState.horizon, timeNext, call_eq]

theorem callKnows_tick {state : TimeState} (knows : CallKnows state) :
    CallKnows (timeNext state .tick) := by
  cases call_eq : state.call with
  | outside => simp [CallKnows, timeNext, call_eq]
  | entered => simp [CallKnows, timeNext, call_eq]
  | lsbRead timerValueLsb readAt pending served =>
      simp only [CallKnows, timeNext, call_eq, RtcRegisters.elapsed_tick,
        RtcRegisters.msbTicks_tick] at knows ⊢
      omega
  | msbRead timerValueLsb timerValueMSB readAt =>
      simp only [CallKnows, timeNext, call_eq, RtcRegisters.elapsed_tick] at knows ⊢
      omega

theorem timeInv_tick {state : TimeState} (inv : TimeInv state)
    (condition : TimeCondition state .tick) : TimeInv (timeNext state .tick) where
  coherent := by
    simp only [timeNext, RtcRegisters.counter_tick]
    exact inv.coherent.tick fun wraps => condition.2 (Nat.mod_eq_zero_of_dvd wraps)
  fits := condition.1
  horizon := by
    have bound := inv.horizon
    cases call_eq : state.call <;>
      simp only [TimeState.horizon, timeNext, call_eq, RtcRegisters.elapsed_tick] at bound ⊢ <;>
      omega
  knows := callKnows_tick inv.knows
  exits := fun answer member =>
    (inv.exits answer member).trans (horizon_tick state)
  honest := inv.honest
  ordered := inv.ordered

/-- The backup word counts the served wraps. -/
theorem TimeInv.msbTicks_eq {state : TimeState} (inv : TimeInv state) :
    state.rtc.elapsed / 2 ^ 32 = state.rtc.msbTicks + state.rtc.underflow.toNat :=
  inv.coherent

theorem timeInv_underflowInterrupt {state : TimeState} (inv : TimeInv state)
    (raised : state.rtc.underflow = true) :
    TimeInv (timeNext state .underflowInterrupt) where
  coherent := by
    have word := inv.msbTicks_eq
    have fits := inv.fits
    have small : state.rtc.msbTicks + 1 < 2 ^ 32 := by omega
    simp only [timeNext, RtcRegisters.counter_halRtcexSsruEventCallback small]
    exact inv.coherent.serve raised
  fits := inv.fits
  horizon := by
    have bound := inv.horizon
    cases call_eq : state.call <;>
      simp_all [TimeState.horizon, timeNext, GetTimeCall.afterInterrupt]
  knows := by
    have word := inv.msbTicks_eq
    have fits := inv.fits
    have knows := inv.knows
    cases call_eq : state.call with
    | outside => simp [CallKnows, timeNext, call_eq, GetTimeCall.afterInterrupt]
    | entered => simp [CallKnows, timeNext, call_eq, GetTimeCall.afterInterrupt]
    | lsbRead timerValueLsb readAt pending served =>
        simp only [CallKnows, call_eq] at knows
        simp only [CallKnows, timeNext, call_eq, GetTimeCall.afterInterrupt,
          RtcRegisters.halRtcexSsruEventCallback]
        omega
    | msbRead timerValueLsb timerValueMSB readAt =>
        simp only [CallKnows, call_eq] at knows
        simp only [CallKnows, timeNext, call_eq, GetTimeCall.afterInterrupt,
          RtcRegisters.halRtcexSsruEventCallback]
        omega
  exits := by
    intro answer member
    have bound := inv.exits answer member
    cases call_eq : state.call <;>
      simpa [TimeState.horizon, timeNext, call_eq, GetTimeCall.afterInterrupt] using bound
  honest := inv.honest
  ordered := inv.ordered

theorem timeInv_callGetTime {state : TimeState} (inv : TimeInv state)
    (idle : state.call = .outside) : TimeInv (timeNext state .callGetTime) where
  coherent := inv.coherent
  fits := inv.fits
  horizon := Nat.le_refl _
  knows := trivial
  exits := by
    intro answer member
    have bound := inv.exits answer member
    simpa [TimeState.horizon, timeNext, idle] using bound
  honest := inv.honest
  ordered := inv.ordered

theorem timeInv_readLsb {state : TimeState} (inv : TimeInv state)
    (entered : state.call = .entered) : TimeInv (timeNext state .readLsb) where
  coherent := inv.coherent
  fits := inv.fits
  horizon := by simpa [TimeState.horizon, timeNext, entered] using inv.horizon
  knows := by
    have horizon := inv.horizon
    simp only [TimeState.horizon, entered] at horizon
    exact ⟨horizon, Nat.le_refl _, state.rtc.getTimerTicks_eq, inv.msbTicks_eq⟩
  exits := by
    intro answer member
    simpa [TimeState.horizon, timeNext, entered] using inv.exits answer member
  honest := inv.honest
  ordered := inv.ordered

/-- The two words fit together when the interrupts between the reads are those
that were pending at the first. -/
theorem timeInv_readMsb {state : TimeState} (inv : TimeInv state)
    (read : state.call.isLsbRead = true) (condition : TimeCondition state .readMsb) :
    TimeInv (timeNext state .readMsb) := by
  cases call_eq : state.call with
  | lsbRead timerValueLsb readAt pending served =>
      have knows := inv.knows
      simp only [CallKnows, call_eq] at knows
      simp only [TimeCondition, call_eq, GetTimeCall.servedPending, beq_iff_eq] at condition
      constructor
      · simpa [timeNext, call_eq] using inv.coherent
      · simpa [timeNext, call_eq] using inv.fits
      · simpa [TimeState.horizon, timeNext, call_eq] using inv.horizon
      · simp only [CallKnows, timeNext, call_eq]
        omega
      · intro answer member
        have bound := inv.exits answer (by simpa [timeNext, call_eq] using member)
        simpa [TimeState.horizon, timeNext, call_eq] using bound
      · simpa [timeNext, call_eq] using inv.honest
      · simpa [timeNext, call_eq] using inv.ordered
  | _ => simp [GetTimeCall.isLsbRead, call_eq] at read

/-- The call returns the time of the count at its first read. -/
theorem timeInv_returnTime {state : TimeState} (inv : TimeInv state)
    (read : state.call.isMsbRead = true) : TimeInv (timeNext state .returnTime) := by
  cases call_eq : state.call with
  | msbRead timerValueLsb timerValueMSB readAt =>
      obtain ⟨after_entry, before_now, assembled⟩ :
          state.entry ≤ readAt ∧ readAt ≤ state.rtc.elapsed ∧
            timerValueMSB * 2 ^ 32 + timerValueLsb = readAt := by
        simpa [CallKnows, call_eq] using inv.knows
      have fits := inv.fits
      have time_eq : gnseRtcGetTime timerValueLsb timerValueMSB = timeOfTicks readAt := by
        rw [gnseRtcGetTime_eq (by omega), assembled]
      constructor
      · simpa [timeNext, call_eq] using inv.coherent
      · simpa [timeNext, call_eq] using inv.fits
      · simp [TimeState.horizon, timeNext, call_eq]
      · simp [CallKnows, timeNext, call_eq]
      · intro answer member
        simp only [timeNext, call_eq, List.mem_cons] at member
        simp only [TimeState.horizon, timeNext, call_eq]
        rcases member with rfl | member
        · exact Nat.le_refl _
        · have bound := inv.exits answer member
          have horizon := inv.horizon
          omega
      · intro answer member
        simp only [timeNext, call_eq, List.mem_cons] at member
        rcases member with rfl | member
        · exact ⟨readAt, after_entry, before_now, time_eq⟩
        · exact inv.honest answer member
      · simp only [timeNext, call_eq, List.pairwise_cons]
        refine ⟨fun earlier member => ?_, inv.ordered⟩
        obtain ⟨ticks, _, before_exit, earlier_eq⟩ := inv.honest earlier member
        have bound := inv.exits earlier member
        simp only [TimeState.horizon, call_eq] at bound
        rw [earlier_eq, time_eq]
        exact timeOfTicks_notAfter (by omega)
  | _ => simp [GetTimeCall.isMsbRead, call_eq] at read

theorem timeInv_step {state : TimeState} {event : TimeEvent} (inv : TimeInv state)
    (enabled : TimeEnabled state event) (condition : TimeCondition state event) :
    TimeInv (timeNext state event) := by
  cases event with
  | tick => exact timeInv_tick inv condition
  | underflowInterrupt => exact timeInv_underflowInterrupt inv enabled
  | callGetTime => exact timeInv_callGetTime inv enabled
  | readLsb => exact timeInv_readLsb inv enabled
  | readMsb => exact timeInv_readMsb inv enabled condition
  | returnTime => exact timeInv_returnTime inv enabled

/-! ## The law of the time -/

/-- In every run whose steps meet the condition, every call returns a time
that the clock had during the call, and the times never decrease. -/
theorem gnseRtcGetTime_lawful {state : TimeState}
    (reached : timeMachine.Reaches TimeCondition timeBoot state) : TimeLaw state := by
  have inv : TimeInv state :=
    reached.invariant timeInv_boot fun before event inv enabled condition => by
      simpa [timeMachine] using timeInv_step inv enabled condition
  exact ⟨inv.honest, inv.ordered⟩

/-- The clock alone reaches every count before the first wrap. -/
theorem reaches_elapsed {ticks : ℕ} (fits : ticks < 2 ^ 32) :
    timeMachine.Reaches TimeCondition timeBoot { timeBoot with rtc := ⟨ticks, false, 0⟩ } := by
  induction ticks with
  | zero => exact .start
  | succ ticks ih =>
      refine .step .tick (ih (by omega)) trivial ⟨?_, fun _ => rfl⟩ ?_
      · exact fits.trans (by decide)
      · have stays : decide ((ticks + 1) % 2 ^ 32 = 0) = false :=
          decide_eq_false (by omega)
        simp only [timeMachine, Prog.modify, timeNext, RtcRegisters.tick, stays, Bool.or_false]

/-- The counter wraps; the interrupt is pending at the first read of a call,
and served before the second one; and another call. -/
theorem gnseRtcGetTime_lawful_example :
    ∃ state, timeMachine.Reaches TimeCondition timeBoot state ∧
      state.answers = [⟨2 ^ 32, 2 ^ 32 + 1, ⟨4194304, 0⟩⟩, ⟨2 ^ 32, 2 ^ 32, ⟨4194304, 0⟩⟩] ∧
      TimeLaw state := by
  have before_wrap : 2 ^ 32 - 1 < 2 ^ 32 := by decide
  have reached := (reaches_elapsed before_wrap).replay
    [.tick, .callGetTime, .readLsb, .underflowInterrupt, .readMsb, .returnTime,
      .callGetTime, .readLsb, .tick, .readMsb, .returnTime] rfl
  exact ⟨_, reached, rfl, gnseRtcGetTime_lawful reached⟩

/-- The counter wraps and its interrupt is served between the two reads: the
time returned is 48 days ahead of the clock. -/
theorem gnseRtcGetTime_not_lawful :
    ¬ ∀ state, timeMachine.Reaches (fun _ _ => True) timeBoot state → TimeLaw state := by
  intro law
  have before_wrap : 2 ^ 32 - 1 < 2 ^ 32 := by norm_num
  have reached := ((reaches_elapsed before_wrap).mono fun _ _ _ => trivial).replay
    [.callGetTime, .readLsb, .tick, .underflowInterrupt, .readMsb, .returnTime] rfl
  obtain ⟨honest, -⟩ := law _ reached
  obtain ⟨ticks, after_entry, before_exit, time_eq⟩ :=
    honest ⟨2 ^ 32 - 1, 2 ^ 32, ⟨8388607, 999⟩⟩ (by decide)
  have seconds_eq := congrArg RtcTime.seconds time_eq
  simp only [timeOfTicks] at seconds_eq after_entry before_exit
  omega

end GenericNode.Rtc
