import Mathlib.Data.Fintype.Card
import Mathlib.Tactic.Linarith

/-!
# Time from the kernel tick

The FreeRTOS port reads the time in whole seconds and converts it back to
ticks with 32-bit products.  The time it reports as elapsed is compared with
the ticks that passed.
-/

namespace GenericNode.FreeRtos

/-- The tick of the kernel: its rate, its count, and the context of the call. -/
structure KernelTick where
  configTickRateHz : ℕ
  tickCount : ℕ
  insideInterrupt : Bool
deriving DecidableEq, Repr

namespace KernelTick

/-- `pdMS_TO_TICKS`. -/
def pdMsToTicks (kernel : KernelTick) (timeInMs : ℕ) : ℕ :=
  timeInMs * kernel.configTickRateHz % 2 ^ 32 / 1000

/-- `xTaskGetTickCount`. -/
def xTaskGetTickCount (kernel : KernelTick) : ℕ :=
  kernel.tickCount

/-- `xTaskGetTickCountFromISR`. -/
def xTaskGetTickCountFromISR (kernel : KernelTick) : ℕ :=
  kernel.tickCount

/-- `TimerGetCurrentTime`. -/
def timerGetCurrentTime (kernel : KernelTick) : ℕ :=
  let ticks :=
    if kernel.insideInterrupt = true then kernel.xTaskGetTickCountFromISR
    else kernel.xTaskGetTickCount
  ticks / kernel.configTickRateHz * 1000 % 2 ^ 32

/-- `TimerGetElapsedTime`. -/
def timerGetElapsedTime (kernel : KernelTick) (past : ℕ) : ℕ :=
  let nowTicks := kernel.xTaskGetTickCount
  if 0 < past then
    let pastTicks := kernel.pdMsToTicks past
    kernel.pdMsToTicks ((nowTicks + 2 ^ 32 - pastTicks) % 2 ^ 32)
  else
    0

/-- The kernel when its count is another one. -/
def counting (kernel : KernelTick) (tickCount : ℕ) : KernelTick :=
  { kernel with tickCount }

/-- What is reported as elapsed at a later count, since the time was read. -/
def elapsedAt (kernel : KernelTick) (later : ℕ) : ℕ :=
  (kernel.counting later).timerGetElapsedTime kernel.timerGetCurrentTime

/-- The elapsed time is right up to one tick and one millisecond: it is
compared in parts of a tick. -/
def Lawful (kernel : KernelTick) (later : ℕ) : Prop :=
  |(kernel.elapsedAt later * kernel.configTickRateHz : ℤ) -
      1000 * (later - kernel.tickCount)| ≤ 1000 + kernel.configTickRateHz

/-! ## When the law holds -/

/-- The ticks since the last whole second. -/
def phase (kernel : KernelTick) : ℕ :=
  kernel.tickCount % kernel.configTickRateHz

/-- How often the 32-bit product wraps that converts the reference to ticks. -/
def wraps (kernel : KernelTick) : ℕ :=
  (kernel.tickCount - kernel.phase) * 1000 / 2 ^ 32

/-- The ticks that these wraps take from the reference. -/
def lostTicks (kernel : KernelTick) : ℕ :=
  (kernel.wraps * 2 ^ 32 + 999) / 1000

/-- The ticks by which the reference is too early. -/
def start (kernel : KernelTick) : ℕ :=
  kernel.phase + kernel.lostTicks

/-- How often the 32-bit product wraps that converts the ticks counted at a
later count. -/
def turns (kernel : KernelTick) (later : ℕ) : ℕ :=
  (later - kernel.tickCount + kernel.start) * kernel.configTickRateHz / 2 ^ 32

/-- Below one tick a millisecond the time reported grows slower than the time
that passes, from a start that is too early: the two meet at one number of
ticks, `(start * hz ^ 2 - turns * 2 ^ 32 * hz) / (10 ^ 6 - hz ^ 2)`.  The ticks
that passed lie within about `1000 / (1000 - hz)` of it. -/
def Meets (kernel : KernelTick) (rounding later : ℕ) : Prop :=
  let passed := later - kernel.tickCount
  let hz := kernel.configTickRateHz
  |((passed * (10 ^ 6 - hz ^ 2) + kernel.turns later * 2 ^ 32 * hz : ℤ) -
    kernel.start * hz ^ 2)| ≤ 10 ^ 6 + rounding * hz

/-- The condition on the reference and a later count.  A reference whose
32-bit milliseconds are zero counts no time.  At one tick a millisecond the
reference is within two ticks of a whole second and the count fits in 32 bits.
At a lower rate the ticks that passed are those at which the two times meet. -/
def InPhase (kernel : KernelTick) (rounding later : ℕ) : Prop :=
  let passed := later - kernel.tickCount
  if kernel.tickCount / kernel.configTickRateHz % 2 ^ 29 = 0 then
    1000 * passed ≤ 1000 + kernel.configTickRateHz
  else if kernel.configTickRateHz = 1000 then
    kernel.phase ≤ 2 ∧ (passed + kernel.phase) * 1000 + kernel.wraps * 704 % 1000 < 2 ^ 32
  else
    kernel.Meets rounding later

instance (kernel : KernelTick) (rounding later : ℕ) :
    Decidable (kernel.InPhase rounding later) := by
  unfold InPhase Meets
  infer_instance

/-! ## The elapsed time in closed form -/

theorem timerGetCurrentTime_eq (kernel : KernelTick) :
    kernel.timerGetCurrentTime =
      kernel.tickCount / kernel.configTickRateHz * 1000 % 2 ^ 32 := by
  simp only [timerGetCurrentTime, xTaskGetTickCount, xTaskGetTickCountFromISR, ite_self]

/-- A reference of zero counts no time. -/
theorem elapsedAt_eq_zero {kernel : KernelTick} (later : ℕ)
    (zero : kernel.tickCount / kernel.configTickRateHz % 2 ^ 29 = 0) :
    kernel.elapsedAt later = 0 := by
  have past : kernel.timerGetCurrentTime = 0 := by
    rw [timerGetCurrentTime_eq]
    omega
  rw [elapsedAt, timerGetElapsedTime, past, if_neg (Nat.lt_irrefl 0)]

/-- The reference in ticks is the last whole second, less the lost ticks. -/
theorem pdMsToTicks_timerGetCurrentTime (kernel : KernelTick) :
    kernel.pdMsToTicks kernel.timerGetCurrentTime + kernel.phase + kernel.lostTicks =
      kernel.tickCount := by
  have seconds : kernel.tickCount / kernel.configTickRateHz * 1000 * kernel.configTickRateHz =
      (kernel.tickCount - kernel.phase) * 1000 := by
    have whole := Nat.div_add_mod kernel.tickCount kernel.configTickRateHz
    have ticks : kernel.tickCount - kernel.phase =
        kernel.configTickRateHz * (kernel.tickCount / kernel.configTickRateHz) := by
      rw [phase]
      omega
    rw [ticks, Nat.mul_right_comm, Nat.mul_comm kernel.configTickRateHz]
  have phase_le : kernel.phase ≤ kernel.tickCount := Nat.mod_le _ _
  rw [timerGetCurrentTime_eq, pdMsToTicks, Nat.mod_mul_mod, seconds, lostTicks, wraps]
  omega

/-- What is reported, from the ticks that the subtraction counts. -/
theorem elapsedAt_eq {kernel : KernelTick} {later : ℕ}
    (nonzero : kernel.tickCount / kernel.configTickRateHz % 2 ^ 29 ≠ 0)
    (le : kernel.tickCount ≤ later) (later_lt : later < 2 ^ 32) :
    kernel.elapsedAt later =
      (later - kernel.tickCount + kernel.phase + kernel.lostTicks) * kernel.configTickRateHz %
        2 ^ 32 / 1000 := by
  have past : 0 < kernel.timerGetCurrentTime := by
    rw [timerGetCurrentTime_eq]
    omega
  have reference := kernel.pdMsToTicks_timerGetCurrentTime
  have counted : (later + 2 ^ 32 - kernel.pdMsToTicks kernel.timerGetCurrentTime) % 2 ^ 32 =
      later - kernel.tickCount + kernel.phase + kernel.lostTicks := by
    omega
  rw [elapsedAt, timerGetElapsedTime, if_pos past]
  simp only [counting, xTaskGetTickCount, pdMsToTicks] at counted ⊢
  rw [counted]

/-! ## The law -/

/-- Rounded down, a count near the ticks that passed is within two of them
exactly when it starts within two ticks and does not wrap. -/
theorem rounded_iff {passed phase rest : ℕ} (phase_lt : phase < 1000) (rest_lt : rest < 1000) :
    (passed ≤ ((passed + phase) * 1000 + rest) % 2 ^ 32 / 1000 + 2 ∧
      ((passed + phase) * 1000 + rest) % 2 ^ 32 / 1000 ≤ passed + 2) ↔
      phase ≤ 2 ∧ (passed + phase) * 1000 + rest < 2 ^ 32 := by
  by_cases fits : (passed + phase) * 1000 + rest < 2 ^ 32
  · rw [Nat.mod_eq_of_lt fits]
    omega
  · have wrapped : ((passed + phase) * 1000 + rest) % 2 ^ 32 + 2 ^ 32 ≤
        (passed + phase) * 1000 + rest := by
      omega
    generalize ((passed + phase) * 1000 + rest) % 2 ^ 32 = counted at wrapped ⊢
    constructor
    · rintro ⟨le, _⟩
      omega
    · rintro ⟨_, lt⟩
      exact absurd lt fits

/-- At one tick a millisecond, what is reported is within two of the ticks
that passed exactly when the reference is near a whole second and nothing
wraps. -/
theorem near_iff {passed phase wraps : ℕ} (phase_lt : phase < 1000) :
    (passed ≤ (passed + phase + (wraps * 2 ^ 32 + 999) / 1000) * 1000 % 2 ^ 32 / 1000 + 2 ∧
      (passed + phase + (wraps * 2 ^ 32 + 999) / 1000) * 1000 % 2 ^ 32 / 1000 ≤ passed + 2) ↔
      phase ≤ 2 ∧ (passed + phase) * 1000 + wraps * 704 % 1000 < 2 ^ 32 := by
  have residue : (wraps * 2 ^ 32 + 999) / 1000 * 1000 = wraps * 2 ^ 32 + wraps * 704 % 1000 := by
    omega
  have reduced : (passed + phase + (wraps * 2 ^ 32 + 999) / 1000) * 1000 % 2 ^ 32 =
      ((passed + phase) * 1000 + wraps * 704 % 1000) % 2 ^ 32 := by
    rw [Nat.add_mul, residue]
    omega
  rw [reduced]
  exact rounded_iff phase_lt (Nat.mod_lt _ (by decide))

/-- Two numbers that differ by a remainder times the rate are near zero
together, up to that remainder. -/
theorem meets_of_remainder {passed start turns elapsed rest hz : ℤ}
    (counted : (passed + start) * hz = 2 ^ 32 * turns + 1000 * elapsed + rest) :
    passed * (10 ^ 6 - hz ^ 2) + turns * 2 ^ 32 * hz - start * hz ^ 2 =
      -(1000 * (elapsed * hz - 1000 * passed) + rest * hz) := by
  have scaled : (passed + start) * hz * hz =
      (2 ^ 32 * turns + 1000 * elapsed + rest) * hz := congrArg (· * hz) counted
  linarith

/-- The law at a lower rate, where the times meet. -/
theorem lawful_near_meets {kernel : KernelTick} {later : ℕ}
    (le : kernel.tickCount ≤ later)
    (elapsed : kernel.elapsedAt later =
      (later - kernel.tickCount + kernel.start) * kernel.configTickRateHz % 2 ^ 32 / 1000) :
    (kernel.Meets 1 later → kernel.Lawful later) ∧
      (kernel.Lawful later → kernel.Meets 1999 later) := by
  have passed : ((later : ℤ) - kernel.tickCount) = (later - kernel.tickCount : ℕ) :=
    (Int.ofNat_sub le).symm
  have rest_lt := Nat.mod_lt
    ((later - kernel.tickCount + kernel.start) * kernel.configTickRateHz % 2 ^ 32)
    (by decide : 0 < 1000)
  have counted := Nat.div_add_mod
    ((later - kernel.tickCount + kernel.start) * kernel.configTickRateHz) (2 ^ 32)
  have thousands := Nat.div_add_mod
    ((later - kernel.tickCount + kernel.start) * kernel.configTickRateHz % 2 ^ 32) 1000
  rw [← elapsed] at thousands
  rw [← turns, ← thousands] at counted
  generalize (later - kernel.tickCount + kernel.start) * kernel.configTickRateHz % 2 ^ 32 %
    1000 = rest at rest_lt counted
  have counted_int : (((later - kernel.tickCount : ℕ) : ℤ) + kernel.start) *
      kernel.configTickRateHz =
      2 ^ 32 * kernel.turns later + 1000 * kernel.elapsedAt later + rest := by
    rw [add_assoc]
    exact_mod_cast counted.symm
  have equal := meets_of_remainder counted_int
  have rest_nonneg : (0 : ℤ) ≤ rest * kernel.configTickRateHz := by positivity
  have rest_le : (rest : ℤ) * kernel.configTickRateHz ≤ 999 * kernel.configTickRateHz := by
    have bound : (rest : ℤ) ≤ 999 := by exact_mod_cast Nat.le_of_lt_succ rest_lt
    exact mul_le_mul_of_nonneg_right bound (Int.natCast_nonneg _)
  simp only [Meets, Lawful, passed, equal, abs_le]
  constructor
  · rintro ⟨lower, upper⟩
    push_cast at lower upper
    constructor <;> linarith
  · rintro ⟨lower, upper⟩
    push_cast
    constructor <;> linarith

/-- The law holds in phase; where it holds, the ticks are in phase up to the
remainders of the divisions. -/
theorem lawful_near_inPhase {kernel : KernelTick} {later : ℕ}
    (le : kernel.tickCount ≤ later) (later_lt : later < 2 ^ 32) :
    (kernel.InPhase 1 later → kernel.Lawful later) ∧
      (kernel.Lawful later → kernel.InPhase 1999 later) := by
  unfold InPhase
  by_cases zero : kernel.tickCount / kernel.configTickRateHz % 2 ^ 29 = 0
  · have passed : ((later : ℤ) - kernel.tickCount) = (later - kernel.tickCount : ℕ) :=
      (Int.ofNat_sub le).symm
    rw [if_pos zero, if_pos zero, Lawful, abs_le, passed, elapsedAt_eq_zero later zero]
    omega
  · rw [if_neg zero, if_neg zero]
    have elapsed := elapsedAt_eq zero le later_lt
    by_cases rate : kernel.configTickRateHz = 1000
    · have passed : ((later : ℤ) - kernel.tickCount) = (later - kernel.tickCount : ℕ) :=
        (Int.ofNat_sub le).symm
      have phase_lt : kernel.phase < 1000 := by
        rw [phase, rate]
        exact Nat.mod_lt _ (by decide)
      rw [if_pos rate, if_pos rate, ← near_iff phase_lt, Lawful, abs_le, passed, elapsed, rate,
        lostTicks]
      omega
    · rw [if_neg rate, if_neg rate]
      rw [Nat.add_assoc, ← start] at elapsed
      exact lawful_near_meets le elapsed

/-- What the law says, in natural numbers. -/
theorem Lawful.bounds {kernel : KernelTick} {later : ℕ} (lawful : kernel.Lawful later)
    (le : kernel.tickCount ≤ later) :
    1000 * (later - kernel.tickCount) ≤
        kernel.elapsedAt later * kernel.configTickRateHz + 1000 + kernel.configTickRateHz ∧
      kernel.elapsedAt later * kernel.configTickRateHz ≤
        1000 * (later - kernel.tickCount) + 1000 + kernel.configTickRateHz := by
  have passed : ((later : ℤ) - kernel.tickCount) = (later - kernel.tickCount : ℕ) :=
    (Int.ofNat_sub le).symm
  rw [Lawful, abs_le, passed] at lawful
  zify
  constructor <;> linarith [lawful.1, lawful.2]

/-- A count that wraps between two readings falls by more than the law
allows. -/
theorem wrapped_far {counted step : ℕ} (step_le : step ≤ 3000)
    (falls : (counted + step) % 2 ^ 32 / 1000 < counted % 2 ^ 32 / 1000) :
    (counted + step) % 2 ^ 32 / 1000 + 4000 ≤ counted % 2 ^ 32 / 1000 := by
  omega

/-- In phase, what is reported does not fall. -/
theorem elapsedAt_mono {kernel : KernelTick} {earlier later : ℕ}
    (rate_pos : 0 < kernel.configTickRateHz) (rate_le : kernel.configTickRateHz ≤ 1000)
    (start_le : kernel.tickCount ≤ earlier) (le : earlier ≤ later) (later_lt : later < 2 ^ 32)
    (first : kernel.Lawful earlier) (second : kernel.Lawful later) :
    kernel.elapsedAt earlier ≤ kernel.elapsedAt later := by
  by_cases zero : kernel.tickCount / kernel.configTickRateHz % 2 ^ 29 = 0
  · rw [elapsedAt_eq_zero earlier zero, elapsedAt_eq_zero later zero]
  · by_contra falls
    have falls := Nat.lt_of_not_le falls
    obtain ⟨-, firstUpper⟩ := first.bounds start_le
    obtain ⟨secondLower, -⟩ := second.bounds (start_le.trans le)
    have one : (kernel.elapsedAt later + 1) * kernel.configTickRateHz ≤
        kernel.elapsedAt earlier * kernel.configTickRateHz := Nat.mul_le_mul_right _ falls
    rw [Nat.add_mul] at one
    -- Readings that fall are at most three ticks apart.
    have step_le : later - earlier ≤ 3 := by omega
    have scaled_le : (later - earlier) * kernel.configTickRateHz ≤ 3000 :=
      Nat.mul_le_mul step_le rate_le
    have counted : (later - kernel.tickCount + kernel.phase + kernel.lostTicks) *
        kernel.configTickRateHz =
        (earlier - kernel.tickCount + kernel.phase + kernel.lostTicks) *
          kernel.configTickRateHz + (later - earlier) * kernel.configTickRateHz := by
      rw [← Nat.add_mul]
      congr 1
      omega
    have far : kernel.elapsedAt later + 4000 ≤ kernel.elapsedAt earlier := by
      rw [elapsedAt_eq zero (start_le.trans le) later_lt, counted,
        elapsedAt_eq zero start_le (by omega)] at falls ⊢
      exact wrapped_far scaled_le falls
    have product : (kernel.elapsedAt later + 4000) * kernel.configTickRateHz ≤
        kernel.elapsedAt earlier * kernel.configTickRateHz := Nat.mul_le_mul_right _ far
    rw [Nat.add_mul] at product
    omega

/-- In phase the elapsed time is right, and there it is monotone; out of phase
it is wrong, up to the remainders of the divisions at a lower rate. -/
theorem timerGetElapsedTime_lawful (kernel : KernelTick)
    (rate_pos : 0 < kernel.configTickRateHz) (rate_le : kernel.configTickRateHz ≤ 1000)
    {later : ℕ} (le : kernel.tickCount ≤ later) (later_lt : later < 2 ^ 32) :
    (kernel.InPhase 1 later → kernel.Lawful later) ∧
      (kernel.Lawful later → kernel.InPhase 1999 later) ∧
      ∀ earlier, kernel.tickCount ≤ earlier → earlier ≤ later →
        kernel.InPhase 1 earlier → kernel.InPhase 1 later →
          kernel.elapsedAt earlier ≤ kernel.elapsedAt later := by
  obtain ⟨lawful, inPhase⟩ := lawful_near_inPhase le later_lt
  refine ⟨lawful, inPhase, fun earlier start_le earlier_le first second => ?_⟩
  exact elapsedAt_mono rate_pos rate_le start_le earlier_le later_lt
    ((lawful_near_inPhase start_le (earlier_le.trans_lt later_lt)).1 first) (lawful second)

/-- Two ticks after a whole second, and after 71 minutes; at 500 Hz, 133 ticks
after a reference that is 400 ticks too early. -/
theorem timerGetElapsedTime_lawful_example :
    ((⟨1000, 5000002, false⟩ : KernelTick).InPhase 1 5000500 ∧
      (⟨1000, 5000002, false⟩ : KernelTick).Lawful 5000500) ∧
      (⟨500, 1400, false⟩ : KernelTick).InPhase 1 1533 ∧
        (⟨500, 1400, false⟩ : KernelTick).Lawful 1533 := by
  have inPhase : (⟨1000, 5000002, false⟩ : KernelTick).InPhase 1 5000500 := by decide +kernel
  have slower : (⟨500, 1400, false⟩ : KernelTick).InPhase 1 1533 := by decide +kernel
  exact ⟨⟨inPhase, (timerGetElapsedTime_lawful ⟨1000, 5000002, false⟩ (by decide) (by decide)
      (by decide) (by decide)).1 inPhase⟩,
    slower, (timerGetElapsedTime_lawful ⟨500, 1400, false⟩ (by decide) (by decide) (by decide)
      (by decide)).1 slower⟩

/-- Half a second after a whole second, ten milliseconds are reported as 510. -/
theorem timerGetElapsedTime_not_lawful :
    (⟨1000, 1500, false⟩ : KernelTick).elapsedAt 1510 = 510 ∧
      ¬(⟨1000, 1500, false⟩ : KernelTick).Lawful 1510 := by
  have elapsed : (⟨1000, 1500, false⟩ : KernelTick).elapsedAt 1510 = 510 := by decide +kernel
  refine ⟨elapsed, ?_⟩
  rw [Lawful, elapsed]
  decide

end KernelTick

end GenericNode.FreeRtos
