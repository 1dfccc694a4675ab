import Mathlib.Data.Fintype.Card
import Mathlib.Tactic.Linarith

/-!
# RTC ticks

The binary RTC counts 1024 ticks a second in a 32-bit down-counter.  This
module holds the registers that the RTC driver reads and the conversions
between ticks and milliseconds.
-/

namespace GenericNode.Rtc

/-- `UINT32_MAX`. -/
def uint32Max : ℕ :=
  2 ^ 32 - 1

/-- `RTC_N_PREDIV_S`. -/
def rtcNPredivS : ℕ :=
  10

/-- `RTC_PREDIV_S`. -/
def rtcPredivS : ℕ :=
  1 <<< rtcNPredivS - 1

/-- `GNSE_RTC_Convert_ms2Tick`. -/
def gnseRtcConvertMs2Tick (timeMilliSec : ℕ) : ℕ :=
  (timeMilliSec <<< rtcNPredivS / 1000) % 2 ^ 32

/-- `GNSE_RTC_Convert_Tick2ms`. -/
def gnseRtcConvertTick2ms (tick : ℕ) : ℕ :=
  ((tick * 1000) >>> rtcNPredivS) % 2 ^ 32

/-- Ticks below `2 ^ 32` convert without wrapping. -/
theorem gnseRtcConvertTick2ms_eq {tick : ℕ} (fits : tick < 2 ^ 32) :
    gnseRtcConvertTick2ms tick = tick * 1000 / 1024 := by
  simp only [gnseRtcConvertTick2ms, rtcNPredivS, Nat.shiftRight_eq_div_pow]
  omega

/-- The RTC as its driver sees it: the number of ticks since the counter was
started, which the hardware shows modulo `2 ^ 32`, the underflow flag, and the
`RTC_BKP_MSBTICKS` backup register. -/
structure RtcRegisters where
  elapsed : ℕ
  underflow : Bool
  msbTicks : ℕ
deriving DecidableEq, Repr

namespace RtcRegisters

/-- `LL_RTC_TIME_GetSubSecond`: the down-counter. -/
def getSubSecond (rtc : RtcRegisters) : ℕ :=
  uint32Max - rtc.elapsed % 2 ^ 32

/-- `GetTimerTicks`. -/
def getTimerTicks (rtc : RtcRegisters) : ℕ :=
  uint32Max - rtc.getSubSecond

/-- One tick of the clock.  The flag rises when the counter underflows. -/
def tick (rtc : RtcRegisters) : RtcRegisters where
  elapsed := rtc.elapsed + 1
  underflow := rtc.underflow || decide ((rtc.elapsed + 1) % 2 ^ 32 = 0)
  msbTicks := rtc.msbTicks

/-- The underflow interrupt: its handler clears the flag and calls
`HAL_RTCEx_SSRUEventCallback`. -/
def halRtcexSsruEventCallback (rtc : RtcRegisters) : RtcRegisters where
  elapsed := rtc.elapsed
  underflow := false
  msbTicks := (rtc.msbTicks + 1) % 2 ^ 32

@[simp]
theorem getTimerTicks_eq (rtc : RtcRegisters) :
    rtc.getTimerTicks = rtc.elapsed % 2 ^ 32 := by
  simp only [getTimerTicks, getSubSecond, uint32Max]
  omega

@[simp]
theorem elapsed_tick (rtc : RtcRegisters) : rtc.tick.elapsed = rtc.elapsed + 1 :=
  rfl

@[simp]
theorem msbTicks_tick (rtc : RtcRegisters) : rtc.tick.msbTicks = rtc.msbTicks :=
  rfl

@[simp]
theorem elapsed_halRtcexSsruEventCallback (rtc : RtcRegisters) :
    rtc.halRtcexSsruEventCallback.elapsed = rtc.elapsed :=
  rfl

end RtcRegisters

end GenericNode.Rtc
