import Mathlib.Data.Fintype.Card
import Mathlib.Tactic.Linarith

/-!
# The stop mode of the low-power manager

Each requester owns one bit of the mask, which forbids STOP2 while it is set.
The mask is what the most recent votes of the requesters amount to.
-/

namespace GenericNode.Lpm

/-- `GNSE_LPM_bm_t`. -/
abbrev GnseLpmBm : Type :=
  BitVec 32

/-- `GNSE_LPM_NO_BIT_SET`. -/
def gnseLpmNoBitSet : GnseLpmBm :=
  0#32

/-- A requester, by the number of its bit. -/
abbrev GnseLpmId : Type :=
  Fin 32

/-- `GNSE_LPM_UART_TRACER`. -/
def gnseLpmUartTracer : GnseLpmId := 0

/-- `GNSE_LPM_TIM_BUZZER`. -/
def gnseLpmTimBuzzer : GnseLpmId := 2

/-- `GNSE_LPM_LIB`. -/
def gnseLpmLib : GnseLpmId := 4

/-- The bit of a requester. -/
def GnseLpmId.bit (requester : GnseLpmId) : GnseLpmBm :=
  1#32 <<< requester.val

/-- `GNSE_LPM_State_t`. -/
inductive GnseLpmState where
  | disable | enable
deriving DecidableEq, Repr

/-- `GNSE_LPM_Mode_t`. -/
inductive GnseLpmMode where
  | sleepOnly | sleepDebug | sleepStop | sleepStopDebug
deriving DecidableEq, Repr

/-- `GNSE_LPM_SetStopMode`, in its critical section. -/
def gnseLpmSetStopMode (lpmIdBm : GnseLpmBm) (state : GnseLpmState)
    (stopModeDisable : GnseLpmBm) : GnseLpmBm :=
  match state with
  | .disable => stopModeDisable ||| lpmIdBm
  | .enable => stopModeDisable &&& ~~~lpmIdBm

/-- The mask that `GNSE_LPM_Init` leaves. -/
def gnseLpmInit : GnseLpmMode → GnseLpmBm
  | .sleepOnly | .sleepDebug => gnseLpmSetStopMode gnseLpmLib.bit .disable gnseLpmNoBitSet
  | .sleepStop | .sleepStopDebug => gnseLpmNoBitSet

/-- The mode that is entered. -/
inductive LowPowerMode where
  | sleep | stop2
deriving DecidableEq, Repr

/-- `GNSE_LPM_EnterLowPower`, by the mask that it reads. -/
def gnseLpmEnterLowPower (stopModeDisable : GnseLpmBm) : LowPowerMode :=
  if stopModeDisable ≠ gnseLpmNoBitSet then .sleep else .stop2

section Bits

variable {requester other : GnseLpmId} {state : GnseLpmState} {stopModeDisable : GnseLpmBm}

/-- The requester forbids STOP2. -/
def Forbids (stopModeDisable : GnseLpmBm) (requester : GnseLpmId) : Prop :=
  stopModeDisable.getLsbD requester = true

instance : Decidable (Forbids stopModeDisable requester) :=
  inferInstanceAs (Decidable (_ = _))

theorem getLsbD_bit (requester other : GnseLpmId) :
    (requester.bit).getLsbD other = decide (other = requester) := by
  rw [GnseLpmId.bit, BitVec.getLsbD_shiftLeft, BitVec.getLsbD_one]
  have bound := other.isLt
  by_cases same : other = requester
  · subst same
    simp
  · have different : other.val ≠ requester.val := fun equal => same (Fin.ext equal)
    simp only [same, decide_false]
    by_cases below : other.val < requester.val
    · simp [below]
    · have positive : other.val - requester.val ≠ 0 := by omega
      simp [positive]

/-- The vote of a requester sets its own bit. -/
theorem forbids_setStopMode :
    Forbids (gnseLpmSetStopMode requester.bit state stopModeDisable) requester ↔
      state = .disable := by
  cases state with
  | disable => simp only [Forbids, gnseLpmSetStopMode, BitVec.getLsbD_or, getLsbD_bit,
      decide_true, Bool.or_true]
  | enable => simp only [Forbids, gnseLpmSetStopMode, BitVec.getLsbD_and, BitVec.getLsbD_not,
      getLsbD_bit, decide_true, Bool.not_true, Bool.and_false, Bool.false_eq_true, reduceCtorEq]

/-- The vote of a requester leaves the bits of the others. -/
theorem forbids_setStopMode_other (different : other ≠ requester) :
    Forbids (gnseLpmSetStopMode requester.bit state stopModeDisable) other ↔
      Forbids stopModeDisable other := by
  cases state with
  | disable => simp only [Forbids, gnseLpmSetStopMode, BitVec.getLsbD_or, getLsbD_bit,
      decide_eq_false different, Bool.or_false]
  | enable => simp only [Forbids, gnseLpmSetStopMode, BitVec.getLsbD_and, BitVec.getLsbD_not,
      getLsbD_bit, decide_eq_false different, other.isLt, decide_true, Bool.not_false,
      Bool.and_true]

/-- STOP2 is entered when no requester forbids it. -/
theorem enterLowPower_eq_stop2_iff :
    gnseLpmEnterLowPower stopModeDisable = .stop2 ↔
      ∀ requester, ¬ Forbids stopModeDisable requester := by
  have empty : stopModeDisable = gnseLpmNoBitSet ↔
      ∀ requester : GnseLpmId, ¬ Forbids stopModeDisable requester := by
    constructor
    · intro none requester
      subst none
      simp [Forbids, gnseLpmNoBitSet]
    · intro none
      apply BitVec.eq_of_getLsbD_eq
      intro index bound
      have clear := none ⟨index, bound⟩
      simpa [Forbids, gnseLpmNoBitSet] using clear
  rw [← empty, gnseLpmEnterLowPower]
  split_ifs with some
  · simpa using some
  · simpa using some

theorem Forbids.not_stop2 (forbids : Forbids stopModeDisable requester) :
    gnseLpmEnterLowPower stopModeDisable = .sleep := by
  cases mode : gnseLpmEnterLowPower stopModeDisable with
  | sleep => rfl
  | stop2 => exact absurd forbids (enterLowPower_eq_stop2_iff.mp mode requester)

end Bits

/-! ## Votes -/

/-- A vote of a requester. -/
structure Vote where
  requester : GnseLpmId
  state : GnseLpmState
deriving DecidableEq, Repr

/-- The most recent vote of a requester, the votes with the newest first; no
vote counts as `GNSE_LPM_ENABLE`. -/
def mostRecentVote (requester : GnseLpmId) : List Vote → GnseLpmState
  | [] => .enable
  | vote :: votes =>
      if vote.requester = requester then vote.state else mostRecentVote requester votes

/-- The votes that `GNSE_LPM_Init` casts. -/
def gnseLpmInitVotes : GnseLpmMode → List Vote
  | .sleepOnly | .sleepDebug => [⟨gnseLpmLib, .disable⟩]
  | .sleepStop | .sleepStopDebug => []

/-- The mask is what the votes amount to. -/
def Reflects (stopModeDisable : GnseLpmBm) (votes : List Vote) : Prop :=
  ∀ requester, Forbids stopModeDisable requester ↔ mostRecentVote requester votes = .disable

section Votes

variable {stopModeDisable : GnseLpmBm} {votes : List Vote}

/-- A vote is reflected. -/
theorem Reflects.vote (reflects : Reflects stopModeDisable votes) (requester : GnseLpmId)
    (state : GnseLpmState) :
    Reflects (gnseLpmSetStopMode requester.bit state stopModeDisable)
      (⟨requester, state⟩ :: votes) := by
  intro other
  rw [mostRecentVote]
  by_cases same : requester = other
  · subst same
    rw [if_pos rfl, forbids_setStopMode]
  · rw [if_neg same, forbids_setStopMode_other (Ne.symm same)]
    exact reflects other

theorem reflects_init (mode : GnseLpmMode) :
    Reflects (gnseLpmInit mode) (gnseLpmInitVotes mode) := by
  have cleared : Reflects gnseLpmNoBitSet [] := by
    intro requester
    simp [Forbids, gnseLpmNoBitSet, mostRecentVote]
  cases mode with
  | sleepStop => exact cleared
  | sleepStopDebug => exact cleared
  | sleepOnly => exact cleared.vote gnseLpmLib .disable
  | sleepDebug => exact cleared.vote gnseLpmLib .disable

/-- STOP2 is entered when every requester has enabled it. -/
theorem Reflects.stop2_iff (reflects : Reflects stopModeDisable votes) :
    gnseLpmEnterLowPower stopModeDisable = .stop2 ↔
      ∀ requester, mostRecentVote requester votes = .enable := by
  rw [enterLowPower_eq_stop2_iff]
  apply forall_congr'
  intro requester
  rw [reflects requester]
  cases mostRecentVote requester votes <;> simp

end Votes

end GenericNode.Lpm
