import GenericNode.Library.Program
import GenericNode.Rtc.Ticks

/-!
# Elapsed time and delays

The timer server reads the time in milliseconds and converts it back to ticks,
and `GNSE_RTC_DelayMs` polls the counter.  Both subtract readings of a counter
that wraps.
-/

namespace GenericNode.Rtc

open GenericNode.Library
open GenericNode.Library.Prog

/-- The RTC with the flag that `GNSE_RTC_Init` sets. -/
structure RtcDriver where
  rtc : RtcRegisters
  rtcInitialized : Bool
deriving DecidableEq, Repr

namespace RtcDriver

/-- `GNSE_RTC_GetTimerValue`. -/
def gnseRtcGetTimerValue (driver : RtcDriver) : ℕ :=
  if driver.rtcInitialized = true then driver.rtc.getTimerTicks else 0

/-- `UTIL_TIMER_GetCurrentTime`. -/
def utilTimerGetCurrentTime (driver : RtcDriver) : ℕ :=
  gnseRtcConvertTick2ms driver.gnseRtcGetTimerValue

/-- `UTIL_TIMER_GetElapsedTime`. -/
def utilTimerGetElapsedTime (driver : RtcDriver) (past : ℕ) : ℕ :=
  let nowInTicks := driver.gnseRtcGetTimerValue
  let pastInTicks := gnseRtcConvertMs2Tick past
  gnseRtcConvertTick2ms ((nowInTicks + 2 ^ 32 - pastInTicks) % 2 ^ 32)

/-- The driver some ticks later. -/
def after (driver : RtcDriver) (ticks : ℕ) : RtcDriver :=
  { driver with rtc := RtcRegisters.tick^[ticks] driver.rtc }

/-- The elapsed time, some ticks after the time was read. -/
def elapsedAfter (driver : RtcDriver) (ticks : ℕ) : ℕ :=
  (driver.after ticks).utilTimerGetElapsedTime driver.utilTimerGetCurrentTime

end RtcDriver

/-! ## Conversions -/

/-- The tick count of a time in milliseconds fits in 32 bits. -/
def TicksFit (timeMilliSec : ℕ) : Prop :=
  timeMilliSec * 1024 / 1000 < 2 ^ 32

instance (timeMilliSec : ℕ) : Decidable (TicksFit timeMilliSec) :=
  inferInstanceAs (Decidable (_ < _))

/-- Tick counts that fit convert without wrapping. -/
theorem gnseRtcConvertMs2Tick_eq {timeMilliSec : ℕ} (fits : TicksFit timeMilliSec) :
    gnseRtcConvertMs2Tick timeMilliSec = timeMilliSec * 1024 / 1000 := by
  rw [gnseRtcConvertMs2Tick, rtcNPredivS, Nat.shiftLeft_eq]
  exact Nat.mod_eq_of_lt fits

theorem gnseRtcConvertMs2Tick_mono {shorter longer : ℕ} (le : shorter ≤ longer)
    (fits : TicksFit longer) :
    gnseRtcConvertMs2Tick shorter ≤ gnseRtcConvertMs2Tick longer := by
  have ticks_le : shorter * 1024 / 1000 ≤ longer * 1024 / 1000 :=
    Nat.div_le_div_right (Nat.mul_le_mul_right 1024 le)
  have shorterFits : TicksFit shorter := ticks_le.trans_lt fits
  rw [gnseRtcConvertMs2Tick_eq fits, gnseRtcConvertMs2Tick_eq shorterFits]
  exact ticks_le

/-- There and back, at most one millisecond is lost. -/
theorem tick2ms_ms2Tick {timeMilliSec : ℕ} (fits : TicksFit timeMilliSec) :
    gnseRtcConvertTick2ms (gnseRtcConvertMs2Tick timeMilliSec) = timeMilliSec ∨
      gnseRtcConvertTick2ms (gnseRtcConvertMs2Tick timeMilliSec) + 1 = timeMilliSec := by
  rw [gnseRtcConvertMs2Tick_eq fits, gnseRtcConvertTick2ms_eq fits]
  omega

/-- Back and there, at most two ticks are lost. -/
theorem ms2Tick_tick2ms {tick : ℕ} (tick_lt : tick < 2 ^ 32) :
    ∃ lost ≤ 2, gnseRtcConvertMs2Tick (gnseRtcConvertTick2ms tick) + lost = tick := by
  have fits : TicksFit (tick * 1000 / 1024) := by
    unfold TicksFit
    omega
  rw [gnseRtcConvertTick2ms_eq tick_lt, gnseRtcConvertMs2Tick_eq fits]
  refine ⟨tick - tick * 1000 / 1024 * 1024 / 1000, ?_, ?_⟩ <;> omega

/-! ## Elapsed time -/

theorem elapsed_iterate_tick (rtc : RtcRegisters) (ticks : ℕ) :
    (RtcRegisters.tick^[ticks] rtc).elapsed = rtc.elapsed + ticks := by
  induction ticks with
  | zero => rfl
  | succ ticks ih => rw [Function.iterate_succ_apply', RtcRegisters.elapsed_tick, ih, add_assoc]

/-- The elapsed time is that of the ticks passed and of those lost when the
reference was converted. -/
theorem elapsedAfter_eq_of_lost {driver : RtcDriver} (initialized : driver.rtcInitialized = true) :
    ∃ lost ≤ 2, ∀ ticks < 2 ^ 32 - 2,
      driver.elapsedAfter ticks = (ticks + lost) * 1000 / 1024 := by
  have now_lt : driver.rtc.elapsed % 2 ^ 32 < 2 ^ 32 := Nat.mod_lt _ (by decide)
  obtain ⟨lost, lost_le, past⟩ := ms2Tick_tick2ms now_lt
  refine ⟨lost, lost_le, fun ticks ticks_lt => ?_⟩
  have current : driver.gnseRtcGetTimerValue = driver.rtc.elapsed % 2 ^ 32 := by
    rw [RtcDriver.gnseRtcGetTimerValue, if_pos initialized, RtcRegisters.getTimerTicks_eq]
  have later : (driver.after ticks).gnseRtcGetTimerValue =
      (driver.rtc.elapsed + ticks) % 2 ^ 32 := by
    rw [RtcDriver.gnseRtcGetTimerValue, RtcDriver.after, if_pos initialized,
      RtcRegisters.getTimerTicks_eq, elapsed_iterate_tick]
  rw [RtcDriver.elapsedAfter, RtcDriver.utilTimerGetElapsedTime,
    RtcDriver.utilTimerGetCurrentTime, later, current]
  have passed : ((driver.rtc.elapsed + ticks) % 2 ^ 32 + 2 ^ 32 -
      gnseRtcConvertMs2Tick (gnseRtcConvertTick2ms (driver.rtc.elapsed % 2 ^ 32))) % 2 ^ 32 =
      ticks + lost := by
    omega
  simp only [passed]
  exact gnseRtcConvertTick2ms_eq (by omega)

/-! ## Delays -/

/-- What the reads of the counter find, and the reads so far. -/
structure Readings where
  registers : ℕ → RtcRegisters
  reads : ℕ

/-- The counter advances between reads: without end, and by at most `gap`
ticks from one read to the next. -/
structure Advances (registers : ℕ → RtcRegisters) (gap : ℕ) : Prop where
  forward : ∀ read, (registers read).elapsed ≤ (registers (read + 1)).elapsed
  close : ∀ read, (registers (read + 1)).elapsed ≤ (registers read).elapsed + gap
  unbounded : ∀ bound, ∃ read, bound ≤ (registers read).elapsed

/-- `GetTimerTicks`, at its place among the reads. -/
def readTimerTicks : Prog Readings ℕ := do
  let readings ← gets id
  modify fun readings => { readings with reads := readings.reads + 1 }
  pure (readings.registers readings.reads).getTimerTicks

/-- `GNSE_RTC_DelayMs`. -/
def gnseRtcDelayMs (delay fuel : ℕ) : Prog Readings Unit := do
  let delayTicks := gnseRtcConvertMs2Tick delay
  let timeout ← readTimerTicks
  loop (fun _ => do
    let now ← readTimerTicks
    if (now + 2 ^ 32 - timeout) % 2 ^ 32 < delayTicks then
      pure (.inl ())
    else
      pure (.inr ())) fuel ()

/-- The ticks between two reads. -/
def Readings.between (readings : Readings) (first last : ℕ) : ℕ :=
  (readings.registers last).elapsed - (readings.registers first).elapsed

namespace Advances

variable {registers : ℕ → RtcRegisters} {gap : ℕ}

theorem mono (advances : Advances registers gap) {first last : ℕ} (le : first ≤ last) :
    (registers first).elapsed ≤ (registers last).elapsed :=
  monotone_nat_of_le_succ advances.forward le

/-- A counter that is read at every tick advances, wherever it wraps. -/
theorem iterate_tick (rtc : RtcRegisters) (positive : 0 < gap) :
    Advances (fun read => RtcRegisters.tick^[read] rtc) gap where
  forward read := by
    rw [elapsed_iterate_tick, elapsed_iterate_tick]
    exact Nat.le_succ _
  close read := by
    rw [elapsed_iterate_tick, elapsed_iterate_tick]
    omega
  unbounded bound := by
    refine ⟨bound, ?_⟩
    rw [elapsed_iterate_tick]
    exact Nat.le_add_left _ _

/-- Some read finds the counter past a distance, and not a whole round past
the start. -/
theorem exists_in_window (advances : Advances registers gap) (distance start : ℕ)
    (narrow : distance + gap ≤ 2 ^ 32) :
    ∃ read, start ≤ read ∧ (registers start).elapsed + distance ≤ (registers read).elapsed ∧
      (registers read).elapsed < (registers start).elapsed + 2 ^ 32 := by
  obtain ⟨late, late_le⟩ := advances.unbounded ((registers start).elapsed + distance)
  have walk : ∀ steps, (∃ read, start ≤ read ∧
      (registers start).elapsed + distance ≤ (registers read).elapsed ∧
      (registers read).elapsed < (registers start).elapsed + 2 ^ 32) ∨
      (registers (start + steps)).elapsed < (registers start).elapsed + distance := by
    intro steps
    induction steps with
    | zero =>
        rcases Nat.eq_zero_or_pos distance with rfl | positive
        · exact .inl ⟨start, le_rfl, le_rfl, by omega⟩
        · exact .inr (by simpa using positive)
    | succ steps ih =>
        rcases ih with found | before
        · exact .inl found
        · have step := advances.close (start + steps)
          by_cases reached : (registers start).elapsed + distance ≤
              (registers (start + steps + 1)).elapsed
          · exact .inl ⟨start + steps + 1, by omega, reached, by omega⟩
          · exact .inr (by simpa [← add_assoc] using Nat.lt_of_not_le reached)
  rcases walk late with found | before
  · exact found
  · have later := advances.mono (Nat.le_add_left late start)
    omega

end Advances

/-- Readings of a counter that has moved forward: their difference is at most
the distance. -/
theorem wrapped_le {earlier later : ℕ} (le : earlier ≤ later) :
    (later % 2 ^ 32 + 2 ^ 32 - earlier % 2 ^ 32) % 2 ^ 32 ≤ later - earlier := by
  omega

/-- Within one round of the counter, the difference is the distance. -/
theorem wrapped_eq {earlier later : ℕ} (le : earlier ≤ later) (inRound : later < earlier + 2 ^ 32) :
    (later % 2 ^ 32 + 2 ^ 32 - earlier % 2 ^ 32) % 2 ^ 32 = later - earlier := by
  omega

/-- What holds when the delay is over: the counter was read again, and it had
counted the ticks of the delay. -/
def Delayed (delay : ℕ) (readings final : Readings) : Prop :=
  final.registers = readings.registers ∧ readings.reads < final.reads - 1 ∧
    delay * 1024 < 1000 * (readings.between readings.reads (final.reads - 1) + 1)

/-- The loop does not leave before the delay is over, as long as the counter
does not go back. -/
theorem wlp_gnseRtcDelayMs {delay : ℕ} (fits : TicksFit delay) (readings : Readings)
    (forward : ∀ read,
      (readings.registers read).elapsed ≤ (readings.registers (read + 1)).elapsed) (fuel : ℕ) :
    wlp (gnseRtcDelayMs delay fuel) (fun _ final => Delayed delay readings final) readings := by
  have ticks_eq := gnseRtcConvertMs2Tick_eq fits
  have first : wlp readTimerTicks (fun timeout state =>
      timeout = (readings.registers readings.reads).elapsed % 2 ^ 32 ∧
        state = { readings with reads := readings.reads + 1 }) readings := by
    rintro _ _ ⟨⟩
    exact ⟨RtcRegisters.getTimerTicks_eq _, rfl⟩
  rw [gnseRtcDelayMs]
  apply wlp_bind
  refine wlp_mono first ?_
  rintro _ _ ⟨rfl, rfl⟩
  refine wlp_loop
    (fun _ state => state.registers = readings.registers ∧ readings.reads < state.reads)
    ?_ fuel () _ ⟨rfl, Nat.lt_succ_self _⟩
  rintro _ ⟨registers, reads⟩ ⟨rfl, after⟩
  change readings.reads < reads at after
  have moved : (readings.registers readings.reads).elapsed ≤
      (readings.registers reads).elapsed :=
    monotone_nat_of_le_succ (f := fun read => (readings.registers read).elapsed) forward after.le
  apply wlp_of_wp
  simp only [readTimerTicks, wp_bind, wp_gets, wp_modify, wp_pure, wp_ite, id_eq,
    RtcRegisters.getTimerTicks_eq]
  generalize gnseRtcConvertMs2Tick delay = delayTicks at *
  split
  · exact ⟨trivial, Nat.lt_succ_of_lt after⟩
  · rename_i passed
    have distance := wrapped_le moved
    refine ⟨rfl, after, ?_⟩
    simp only [Readings.between, Nat.add_sub_cancel]
    omega

/-- With enough turns the loop leaves. -/
theorem wp_gnseRtcDelayMs_leaves {delay : ℕ} (readings : Readings)
    (advances : Advances readings.registers (2 ^ 32 - gnseRtcConvertMs2Tick delay)) :
    ∃ enough, ∀ fuel ≥ enough, wp (gnseRtcDelayMs delay fuel) (fun _ _ => True) readings := by
  have ticks_lt : gnseRtcConvertMs2Tick delay < 2 ^ 32 := Nat.mod_lt _ (by decide)
  obtain ⟨last, last_ge, late, inRound⟩ :=
    advances.exists_in_window (gnseRtcConvertMs2Tick delay) readings.reads (by omega)
  refine ⟨last + 2, fun fuel fuel_ge => ?_⟩
  simp only [gnseRtcDelayMs, readTimerTicks, wp_bind, wp_gets, wp_modify, wp_pure, id_eq,
    RtcRegisters.getTimerTicks_eq]
  generalize gnseRtcConvertMs2Tick delay = delayTicks at *
  refine wp_loop
    (fun _ state => state.registers = readings.registers ∧ readings.reads < state.reads ∧
      (state.reads ≤ last ∨ delayTicks = 0))
    (fun _ state => last + 1 - state.reads) ?_ fuel () _ (by simp only; omega)
    ⟨rfl, Nat.lt_succ_self _, ?_⟩
  · rintro _ ⟨registers, reads⟩ ⟨rfl, after, pending⟩
    change readings.reads < reads at after
    change reads ≤ last ∨ delayTicks = 0 at pending
    have forward : (readings.registers readings.reads).elapsed ≤
        (readings.registers reads).elapsed := advances.mono after.le
    simp only [wp_bind, wp_gets, wp_modify, wp_pure, wp_ite, id_eq]
    split
    · rename_i waiting
      have before : reads < last := by
        rcases pending with le | zero
        · rcases Nat.lt_or_eq_of_le le with lt | rfl
          · exact lt
          · rw [wrapped_eq forward inRound] at waiting
            omega
        · omega
      exact ⟨⟨trivial, by omega, .inl (by omega)⟩, by omega⟩
    · trivial
  · rcases Nat.lt_or_eq_of_le last_ge with lt | rfl
    · exact .inl lt
    · exact .inr (by omega)

/-- With enough turns the loop leaves, and only after the delay. -/
theorem wp_gnseRtcDelayMs {delay : ℕ} (fits : TicksFit delay) (readings : Readings)
    (advances : Advances readings.registers (2 ^ 32 - gnseRtcConvertMs2Tick delay)) :
    ∃ enough, ∀ fuel ≥ enough, wp (gnseRtcDelayMs delay fuel) (fun _ final =>
      Delayed delay readings final) readings := by
  obtain ⟨enough, leaves⟩ := wp_gnseRtcDelayMs_leaves readings advances
  refine ⟨enough, fun fuel fuel_ge => ?_⟩
  refine wp_mono (wp_and_wlp (leaves fuel fuel_ge)
    (wlp_gnseRtcDelayMs fits readings advances.forward fuel)) ?_
  exact fun _ _ both => both.2

/-! ## The law -/

/-- What the conversions, the elapsed time and the delay promise. -/
structure RtcTimeLaw : Prop where
  close : ∀ driver : RtcDriver, driver.rtcInitialized = true → ∀ ticks < 2 ^ 32 - 2,
    |1024 * (driver.elapsedAfter ticks : ℤ) - 1000 * ticks| < 2 * 1024
  monotone : ∀ driver : RtcDriver, driver.rtcInitialized = true →
    ∀ longer < 2 ^ 32 - 2, ∀ shorter ≤ longer,
      driver.elapsedAfter shorter ≤ driver.elapsedAfter longer
  convert : ∀ longer, TicksFit longer → ∀ shorter ≤ longer,
    gnseRtcConvertMs2Tick shorter ≤ gnseRtcConvertMs2Tick longer
  roundTrip : ∀ timeMilliSec, TicksFit timeMilliSec →
    gnseRtcConvertTick2ms (gnseRtcConvertMs2Tick timeMilliSec) = timeMilliSec ∨
      gnseRtcConvertTick2ms (gnseRtcConvertMs2Tick timeMilliSec) + 1 = timeMilliSec
  notBefore : ∀ delay, TicksFit delay → ∀ readings : Readings,
    (∀ read, (readings.registers read).elapsed ≤ (readings.registers (read + 1)).elapsed) →
    ∀ fuel, wlp (gnseRtcDelayMs delay fuel) (fun _ final =>
      Delayed delay readings final) readings
  delay : ∀ delay, TicksFit delay → ∀ readings : Readings,
    Advances readings.registers (2 ^ 32 - gnseRtcConvertMs2Tick delay) →
    ∃ enough, ∀ fuel ≥ enough, wp (gnseRtcDelayMs delay fuel) (fun _ final =>
      Delayed delay readings final) readings

/-- The law holds, wherever the counter wraps. -/
theorem rtcTime_lawful : RtcTimeLaw where
  close := by
    intro driver initialized ticks ticks_lt
    obtain ⟨lost, lost_le, elapsed⟩ := elapsedAfter_eq_of_lost initialized
    rw [elapsed ticks ticks_lt, abs_lt]
    constructor <;> omega
  monotone := by
    intro driver initialized longer longer_lt shorter le
    obtain ⟨lost, lost_le, elapsed⟩ := elapsedAfter_eq_of_lost initialized
    rw [elapsed shorter (by omega), elapsed longer longer_lt]
    omega
  convert := fun _ fits _ le => gnseRtcConvertMs2Tick_mono le fits
  roundTrip := fun _ fits => tick2ms_ms2Tick fits
  notBefore := fun _ fits readings forward fuel => wlp_gnseRtcDelayMs fits readings forward fuel
  delay := fun _ fits readings advances => wp_gnseRtcDelayMs fits readings advances

/-- A delay of a second, from any count, read at every tick. -/
example (rtc : RtcRegisters) :
    Advances (fun read => RtcRegisters.tick^[read] rtc) (2 ^ 32 - gnseRtcConvertMs2Tick 1000) :=
  .iterate_tick rtc (by decide)

end GenericNode.Rtc
