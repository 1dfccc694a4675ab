import GenericNode.LoRaMac.Security

/-!
# Counters of 32 bits from 16

A frame carries the low 16 bits of its counter.  The receiver takes the next
counter with these bits after the last one it accepted.
-/

namespace GenericNode.LoRaMac

open GenericNode.Library
open GenericNode.Library.Prog
open GenericNode.SecureElement

/-- The low 16 bits of a counter, `( uint16_t )fCntUp`. -/
def low16 (fCnt : UInt32) : UInt16 :=
  UInt16.ofNat fCnt.toNat

theorem toNat_low16 (fCnt : UInt32) : (low16 fCnt).toNat = fCnt.toNat % 2 ^ 16 := by
  rw [low16, UInt16.toNat_ofNat']

/-- The next counter has the bits that the frame carries. -/
theorem low16_reconstructFCntDown (lastDown : UInt32) (frameFcnt : UInt16) :
    low16 (reconstructFCntDown lastDown frameFcnt) = frameFcnt := by
  have frame_lt := frameFcnt.toNat_lt
  have last_lt := lastDown.toNat_lt
  apply UInt16.toNat.inj
  rw [toNat_low16, reconstructFCntDown]
  simp only
  split
  · rw [UInt32.toNat_ofNat']
    omega
  · split
    · rw [UInt32.toNat_ofNat']
      omega
    · split
      · omega
      · rw [UInt32.toNat_ofNat']
        omega

/-- A counter that is in reach of the last one. -/
def InReach (lastDown fCnt : UInt32) : Prop :=
  if lastDown = fcntDownInitalValue then fCnt.toNat < 2 ^ 16
  else lastDown < fCnt ∧ fCnt.toNat < lastDown.toNat + 2 ^ 16

/-- Of the counters in reach, the bits of the frame name one. -/
theorem reconstructFCntDown_low16 {lastDown fCnt : UInt32} (reach : InReach lastDown fCnt) :
    reconstructFCntDown lastDown (low16 fCnt) = fCnt := by
  have last_lt := lastDown.toNat_lt
  have fCnt_lt := fCnt.toNat_lt
  apply UInt32.toNat.inj
  rw [InReach] at reach
  rw [reconstructFCntDown, toNat_low16]
  simp only
  split at reach
  · rename_i initial
    rw [if_pos initial, UInt32.toNat_ofNat']
    omega
  · rename_i not_initial
    rcases reach with ⟨later, near⟩
    have later_nat : lastDown.toNat < fCnt.toNat := UInt32.lt_iff_toNat_lt.mp later
    rw [if_neg not_initial]
    split
    · rw [UInt32.toNat_ofNat']
      omega
    · split
      · omega
      · rw [UInt32.toNat_ofNat']
        omega

variable {σ κ : Type} {keys : σ → KeyIdentifier → κ}

/-- What `LoRaMacCryptoGetFCntDown` answers after the counter `lastDown`. -/
structure FCntDownAnswer (minor : ℕ) (lastDown : UInt32) (maxFCntGap : ℕ) (frameFcnt : UInt16)
    (result : LoRaMacCryptoStatus × Option UInt32) : Prop where
  counter : result.2 = some (reconstructFCntDown lastDown frameFcnt)
  success_iff : result.1 = .success ↔
    ¬ (lastDown ≠ fcntDownInitalValue ∧ frameFcnt.toNat = lastDown.toNat % 2 ^ 16) ∧
    ¬ (minor = 0 ∧ (maxFCntGap : ℤ) ≤
      ((reconstructFCntDown lastDown frameFcnt).toNat : ℤ) - lastDown.toNat)

variable (keys) in
theorem wp_loRaMacCryptoGetFCntDown {fCntID : FCntIdentifier} {lastDown : UInt32}
    (maxFCntGap : ℕ) (frameFcnt : UInt16) (ctx : LoRaMacCryptoCtx σ)
    (last : ctx.fCntList.down fCntID = some lastDown) :
    wp (loRaMacCryptoGetFCntDown fCntID maxFCntGap frameFcnt) (fun result final =>
      FCntDownAnswer ctx.minor lastDown maxFCntGap frameFcnt result ∧
        SameCounters keys ctx final) ctx := by
  rw [loRaMacCryptoGetFCntDown, wp_bind]
  refine wp_mono (wp_getLastFcntDown keys fCntID ctx) ?_
  rintro _ middle ⟨rfl, same⟩
  rw [last]
  simp only
  split
  · rename_i duplicated
    rw [wp_pure]
    constructor
    · constructor
      · rfl
      · simp [duplicated]
    · exact same
  · rename_i not_duplicated
    simp only [wp_bind, wp_gets, same.minor]
    split
    · rename_i far
      rw [wp_pure]
      constructor
      · constructor
        · rfl
        · simp [far]
      · exact same
    · rename_i near
      rw [wp_pure]
      constructor
      · constructor
        · rfl
        · simp only [true_iff]
          exact ⟨not_duplicated, near⟩
      · exact same

end GenericNode.LoRaMac
