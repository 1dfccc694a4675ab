import GenericNode.Flash.Chip

/-!
# The internal flash and its HAL

The flash interface with its lock bit, the array behind it, and the calls of
the HAL on it.  How the interface answers is left open: whether a key sequence
is accepted, how an operation ends, and what it leaves in the cells.
-/

namespace GenericNode.McuFlash

open GenericNode.Library
open GenericNode.Library.Prog
open GenericNode.Flash (HalStatus)

/-- `FLASH_BASE`. -/
def flashBase : ℕ :=
  0x08000000

/-- `FLASH_PAGE_SIZE`. -/
def flashPageSize : ℕ :=
  0x800

/-- The page of the flash that holds a place. -/
def InPage (page place : ℕ) : Prop :=
  flashBase ≤ place ∧ (place - flashBase) / flashPageSize = page

instance (page place : ℕ) : Decidable (InPage page place) :=
  inferInstanceAs (Decidable (_ ∧ _))

/-- A call of `HAL_FLASHEx_Erase` with its result. -/
structure EraseCall where
  page : ℕ
  nbPages : ℕ
  status : HalStatus
deriving DecidableEq, Repr

/-- The flash, with the calls and the page erases it has seen. -/
structure InternalFlash where
  locked : Bool
  keysAccepted : ℕ → Bool
  keySequences : ℕ
  operationEnds : ℕ → HalStatus
  waits : ℕ
  cells : Cells
  /-- What a program leaves in the cells of its double word. -/
  programmed : ℕ → (ℕ → UInt8) → ℕ → UInt8
  programs : ℕ
  /-- What an erase leaves in the cells of its page. -/
  erased : ℕ → Cells
  pageErases : List ℕ
  eraseCalls : List EraseCall
  /-- The register at `FLASHSIZE_BASE`, in kilobytes. -/
  flashSizeRegister : ℕ

namespace InternalFlash

/-- `FLASH_SIZE`. -/
def flashSize (flash : InternalFlash) : ℕ :=
  (flash.flashSizeRegister &&& 0xFFFF) <<< 10

/-- `FLASH_BANK_SIZE`. -/
def flashBankSize (flash : InternalFlash) : ℕ :=
  flash.flashSize

/-- The key sequence is sent if the flash is locked. -/
def unlock (flash : InternalFlash) : InternalFlash :=
  if flash.locked = true then
    { flash with
      locked := !flash.keysAccepted flash.keySequences
      keySequences := flash.keySequences + 1 }
  else
    flash

/-- `HAL_FLASH_Lock`. -/
def lock (flash : InternalFlash) : InternalFlash :=
  { flash with locked := true }

/-- An unlock will succeed. -/
def Unlocks (flash : InternalFlash) : Prop :=
  flash.locked = false ∨ flash.keysAccepted flash.keySequences = true

instance (flash : InternalFlash) : Decidable flash.Unlocks :=
  inferInstanceAs (Decidable (_ ∨ _))

/-- The initialisation and the unlock after it will succeed. -/
def Opens (flash : InternalFlash) : Prop :=
  flash.Unlocks ∧ flash.unlock.lock.Unlocks

instance (flash : InternalFlash) : Decidable flash.Opens :=
  inferInstanceAs (Decidable (_ ∧ _))

/-- The flash that a call works on once it is open. -/
def opened (flash : InternalFlash) : InternalFlash :=
  flash.unlock.lock.unlock

end InternalFlash

/-! ## The HAL -/

/-- `HAL_FLASH_Unlock`. -/
def halFlashUnlock : Prog InternalFlash HalStatus := do
  if (← gets InternalFlash.locked) = true then do
    modify InternalFlash.unlock
    if (← gets InternalFlash.locked) = true then
      pure .error
    else
      pure .ok
  else
    pure .ok

/-- `HAL_FLASH_Lock`. -/
def halFlashLock : Prog InternalFlash HalStatus := do
  modify InternalFlash.lock
  if (← gets InternalFlash.locked) = false then
    pure .error
  else
    pure .ok

/-- `FLASH_WaitForLastOperation`. -/
def flashWaitForLastOperation : Prog InternalFlash HalStatus := do
  let flash ← gets id
  modify fun flash => { flash with waits := flash.waits + 1 }
  pure (flash.operationEnds flash.waits)

/-- `FLASH_PageErase`: a locked flash ignores it. -/
def flashPageErase (page : ℕ) : Prog InternalFlash Unit :=
  modify fun flash =>
    if flash.locked = true then
      flash
    else
      { flash with
        pageErases := flash.pageErases ++ [page]
        cells := fun place =>
          if InPage page place then flash.erased flash.pageErases.length place
          else flash.cells place }

/-- The loop of `HAL_FLASHEx_Erase` over the pages. -/
def erasePages (last : ℕ) : ℕ × HalStatus → Prog InternalFlash ((ℕ × HalStatus) ⊕ HalStatus)
  | (index, status) =>
      if index < last then do
        flashPageErase index
        let status ← flashWaitForLastOperation
        if status ≠ .ok then
          pure (.inr status)
        else
          pure (.inl (index + 1, status))
      else
        pure (.inr status)

/-- `HAL_FLASHEx_Erase` of pages; the call is recorded. -/
def halFlashExErase (page nbPages : ℕ) : Prog InternalFlash HalStatus := do
  let status ← flashWaitForLastOperation
  let status ←
    if status = .ok then
      loop (erasePages ((page + nbPages) % 2 ^ 32)) (nbPages + 1) (page, status)
    else
      pure status
  modify fun flash => { flash with eraseCalls := flash.eraseCalls ++ [⟨page, nbPages, status⟩] }
  pure status

/-- `FLASH_Program_DoubleWord`: a locked flash ignores it. -/
def flashProgramDoubleWord (address : ℕ) (data : ℕ → UInt8) : Prog InternalFlash Unit :=
  modify fun flash =>
    if flash.locked = true then
      flash
    else
      { flash with
        programs := flash.programs + 1
        cells := fun place =>
          if address ≤ place ∧ place < address + 8 then
            flash.programmed flash.programs data (place - address)
          else flash.cells place }

/-- `HAL_FLASH_Program` of a double word. -/
def halFlashProgram (address : ℕ) (data : ℕ → UInt8) : Prog InternalFlash HalStatus := do
  let status ← flashWaitForLastOperation
  if status = .ok then do
    flashProgramDoubleWord address data
    flashWaitForLastOperation
  else
    pure status

/-- `MCU_FLASH_Init`. -/
def mcuFlashInit : Prog InternalFlash HalStatus := do
  if (← halFlashUnlock) = .ok then
    if (← halFlashLock) = .ok then
      pure .ok
    else
      pure .error
  else
    pure .error

/-! ## Opening and locking -/

theorem flashSize_lt (flash : InternalFlash) : flash.flashSize < 2 ^ 26 := by
  have kilobytes : flash.flashSizeRegister &&& 0xFFFF < 2 ^ 16 :=
    Nat.and_lt_two_pow _ (by decide)
  rw [InternalFlash.flashSize, Nat.shiftLeft_eq]
  omega

namespace InternalFlash

variable {flash : InternalFlash}

theorem locked_unlock : flash.unlock.locked = true ↔ ¬flash.Unlocks := by
  unfold unlock Unlocks
  split
  · rename_i locked
    simp [locked]
  · rename_i unlocked
    simp [unlocked]

/-- Unlocking and locking change the lock bit and count the key sequences. -/
structure SameArray (flash final : InternalFlash) : Prop where
  cells : final.cells = flash.cells
  pageErases : final.pageErases = flash.pageErases
  eraseCalls : final.eraseCalls = flash.eraseCalls
  flashSizeRegister : final.flashSizeRegister = flash.flashSizeRegister

theorem SameArray.trans {middle final : InternalFlash} (first : SameArray flash middle)
    (second : SameArray middle final) : SameArray flash final where
  cells := second.cells.trans first.cells
  pageErases := second.pageErases.trans first.pageErases
  eraseCalls := second.eraseCalls.trans first.eraseCalls
  flashSizeRegister := second.flashSizeRegister.trans first.flashSizeRegister

theorem sameArray_lock (flash : InternalFlash) : SameArray flash flash.lock :=
  ⟨rfl, rfl, rfl, rfl⟩

theorem sameArray_unlock (flash : InternalFlash) : SameArray flash flash.unlock := by
  unfold unlock
  split <;> exact ⟨rfl, rfl, rfl, rfl⟩

theorem sameArray_opened (flash : InternalFlash) : SameArray flash flash.opened :=
  ((sameArray_unlock flash).trans (sameArray_lock _)).trans (sameArray_unlock _)

end InternalFlash

section Opening

variable {flash : InternalFlash} {post : HalStatus → InternalFlash → Prop}

theorem wp_halFlashUnlock :
    wp halFlashUnlock post flash ↔
      if flash.Unlocks then post .ok flash.unlock else post .error flash.unlock := by
  simp only [halFlashUnlock, wp_bind, wp_gets, wp_ite, wp_modify, wp_pure]
  by_cases locked : flash.locked = true
  · simp only [locked, if_true, InternalFlash.locked_unlock]
    by_cases unlocks : flash.Unlocks <;> simp [unlocks]
  · have unlocks : flash.Unlocks := .inl (by simpa using locked)
    simp only [locked, unlocks, if_true, InternalFlash.unlock]
    rfl

theorem wp_halFlashLock : wp halFlashLock post flash ↔ post .ok flash.lock := by
  simp only [halFlashLock, wp_bind, wp_gets, wp_ite, wp_modify, wp_pure, InternalFlash.lock]
  rfl

theorem wp_mcuFlashInit :
    wp mcuFlashInit post flash ↔
      if flash.Unlocks then post .ok flash.unlock.lock else post .error flash.unlock := by
  simp only [mcuFlashInit, wp_bind, wp_halFlashUnlock]
  by_cases unlocks : flash.Unlocks
  · simp only [unlocks, if_true, wp_bind, wp_halFlashLock, wp_pure]
  · simp [unlocks]

theorem wp_flashWaitForLastOperation :
    wp flashWaitForLastOperation post flash ↔
      post (flash.operationEnds flash.waits) { flash with waits := flash.waits + 1 } := by
  simp only [flashWaitForLastOperation, wp_bind, wp_gets, wp_modify, wp_pure, id_eq]

end Opening

end GenericNode.McuFlash
