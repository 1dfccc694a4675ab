import GenericNode.McuFlash.Hal

/-!
# Writing and reading the internal flash

`MCU_FLASH_Write` programs double words and checks each of them, and
`MCU_FLASH_Read` copies them back.
-/

namespace GenericNode.McuFlash

open GenericNode.Library
open GenericNode.Library.Prog
open GenericNode.Flash (HalStatus)

/-- The flash, the statics of the driver, and the record of the source bytes
that were read. -/
structure FlashCopy where
  flash : InternalFlash
  doubleEccErrorCounter : ℕ
  doubleEccCheck : UInt8
  sourceReads : List ℕ

/-- A call on the flash. -/
def onFlash {α : Type} (call : Prog InternalFlash α) : Prog FlashCopy α :=
  zoom FlashCopy.flash (fun flash copy => { copy with flash }) call

/-- `UTIL_MEM_cpy_8` of 8 source bytes to `data`. -/
def utilMemCpy8 (pSource : ℕ → UInt8) (i : ℕ) : Prog FlashCopy (ℕ → UInt8) := do
  modify fun copy =>
    { copy with sourceReads := (List.range 8).map (i + ·) ++ copy.sourceReads }
  pure fun place => pSource (i + place)

/-- One turn of the loop of `MCU_FLASH_Write`. -/
def writeDoubleWord (pSource : ℕ → UInt8) (uLength : ℕ) :
    ℕ × ℕ × HalStatus → Prog FlashCopy ((ℕ × ℕ × HalStatus) ⊕ HalStatus)
  | (i, pDestination, status) =>
      if i < uLength then do
        let data ← utilMemCpy8 pSource i
        if (← onFlash (halFlashProgram pDestination data)) = .ok then do
          let cells ← gets fun copy => copy.flash.cells
          if ¬∀ place < 8, cells (pDestination + place) = data place then
            pure (.inr .error)
          else
            pure (.inl ((i + 8) % 2 ^ 32, (pDestination + 8) % 2 ^ 32, status))
        else
          pure (.inr .error)
      else
        pure (.inr status)

/-- `MCU_FLASH_Write`. -/
def mcuFlashWrite (pDestination : ℕ) (pSource : ℕ → UInt8) (uLength : ℕ) :
    Prog FlashCopy HalStatus := do
  let status ← onFlash mcuFlashInit
  if status = .ok then
    if (← onFlash halFlashUnlock) ≠ .ok then
      pure .error
    else do
      let status ← loop (writeDoubleWord pSource uLength) (uLength + 1) (0, pDestination, status)
      let _ ← onFlash halFlashLock
      pure status
  else
    pure status

/-- `MCU_FLASH_Read` to a destination that holds some bytes.  A byte with an
ECC error is read as the fault has it; nothing counts these errors. -/
def mcuFlashRead (fault : ℕ → Option UInt8) (pDestination : ℕ → UInt8) (pSource length : ℕ) :
    Prog FlashCopy (HalStatus × (ℕ → UInt8)) := do
  modify fun copy => { copy with doubleEccErrorCounter := 0, doubleEccCheck := 1 }
  let cells ← gets fun copy => copy.flash.cells
  let bytes := fun place =>
    if place < length then (fault (pSource + place)).getD (cells (pSource + place))
    else pDestination place
  modify fun copy => { copy with doubleEccCheck := 0 }
  let status := if (← gets FlashCopy.doubleEccErrorCounter) = 0 then .ok else .error
  modify fun copy => { copy with doubleEccErrorCounter := 0 }
  pure (status, bytes)

/-! ## What a write promises -/

/-- The effect of a write on the flash, by its result. -/
structure WritePromised (pDestination : ℕ) (pSource : ℕ → UInt8) (uLength : ℕ) (copy : FlashCopy)
    (status : HalStatus) (final : FlashCopy) : Prop where
  locked : final.flash.locked = true
  outside : ∀ place, ¬(pDestination ≤ place ∧ place < pDestination + uLength) →
    final.flash.cells place = copy.flash.cells place
  reads : ∀ index ∈ final.sourceReads, index ∈ copy.sourceReads ∨ index < uLength
  written : status = .ok → ∀ offset < uLength,
    final.flash.cells (pDestination + offset) = pSource offset
  readBack : status = .ok → ∀ (fault : ℕ → Option UInt8) (buffer : ℕ → UInt8),
    (∀ offset < uLength, fault (pDestination + offset) = none) →
    wp (mcuFlashRead fault buffer pDestination uLength)
      (fun result _ => result.1 = .ok ∧ ∀ offset < uLength, result.2 offset = pSource offset) final
  failed : status ≠ .ok → ∃ words,
    (∀ offset < 8 * words, final.flash.cells (pDestination + offset) = pSource offset) ∧
      ∀ place, ¬(pDestination ≤ place ∧ place < pDestination + 8 * words + 8) →
        final.flash.cells place = copy.flash.cells place

/-! ## One double word -/

/-- The flash worked on one double word only. -/
structure WorkedAt (address : ℕ) (flash final : InternalFlash) : Prop where
  locked : final.locked = flash.locked
  cells : ∀ place, ¬(address ≤ place ∧ place < address + 8) →
    final.cells place = flash.cells place

theorem wp_halFlashProgram (flash : InternalFlash) (address : ℕ) (data : ℕ → UInt8) :
    wp (halFlashProgram address data) (fun _ final => WorkedAt address flash final) flash := by
  simp only [halFlashProgram, flashProgramDoubleWord, wp_bind, wp_flashWaitForLastOperation,
    wp_ite, wp_modify, wp_pure]
  split
  · by_cases locked : flash.locked = true
    · rw [if_pos locked]
      exact ⟨rfl, fun _ _ => rfl⟩
    · rw [if_neg locked]
      exact ⟨rfl, fun place outside => if_neg outside⟩
  · exact ⟨rfl, fun _ _ => rfl⟩

/-- The first `done` bytes are written, and nothing beyond `reach` was touched. -/
structure Written (pDestination : ℕ) (pSource : ℕ → UInt8) (done reach : ℕ)
    (copy final : FlashCopy) : Prop where
  written : ∀ offset < done, final.flash.cells (pDestination + offset) = pSource offset
  outside : ∀ place, ¬(pDestination ≤ place ∧ place < pDestination + reach) →
    final.flash.cells place = copy.flash.cells place
  reads : ∀ index ∈ final.sourceReads, index ∈ copy.sourceReads ∨ index < reach

namespace Written

variable {pDestination done reach : ℕ} {pSource : ℕ → UInt8} {copy middle final : FlashCopy}

theorem start (cells : middle.flash.cells = copy.flash.cells)
    (reads : middle.sourceReads = copy.sourceReads) :
    Written pDestination pSource 0 0 copy middle where
  written := fun _ impossible => absurd impossible (Nat.not_lt_zero _)
  outside := fun place _ => congrFun cells place
  reads := by
    rw [reads]
    exact fun _ member => .inl member

/-- A double word is worked on, at the end of what is written. -/
theorem attempt (before : Written pDestination pSource done done copy middle)
    (worked : WorkedAt (pDestination + done) middle.flash final.flash)
    (reads : final.sourceReads = (List.range 8).map (done + ·) ++ middle.sourceReads) :
    Written pDestination pSource done (done + 8) copy final where
  written := by
    intro offset offset_lt
    rw [worked.cells _ (by omega)]
    exact before.written offset offset_lt
  outside := by
    intro place outside
    rw [worked.cells place (by omega)]
    exact before.outside place (by omega)
  reads := by
    intro index member
    rw [reads, List.mem_append, List.mem_map] at member
    rcases member with ⟨place, place_lt, rfl⟩ | earlier
    · have := List.mem_range.mp place_lt
      exact .inr (by omega)
    · exact (before.reads index earlier).imp_right fun lt => by omega

/-- The double word holds what it should. -/
theorem check (attempted : Written pDestination pSource done (done + 8) copy final)
    (holds : ∀ place < 8, final.flash.cells (pDestination + done + place) =
      pSource (done + place)) :
    Written pDestination pSource (done + 8) (done + 8) copy final where
  written := by
    intro offset offset_lt
    rcases Nat.lt_or_ge offset done with earlier | later
    · exact attempted.written offset earlier
    · have last := holds (offset - done) (by omega)
      rwa [Nat.add_assoc, Nat.add_sub_of_le later] at last
  outside := attempted.outside
  reads := attempted.reads

end Written

/-- How the loop leaves: everything is written, or one double word failed. -/
def WriteEnds (pDestination : ℕ) (pSource : ℕ → UInt8) (uLength : ℕ) (copy : FlashCopy)
    (status : HalStatus) (final : FlashCopy) : Prop :=
  (status = .ok ∧ Written pDestination pSource uLength uLength copy final) ∨
    (status = .error ∧ ∃ words, 8 * words + 8 ≤ uLength ∧
      Written pDestination pSource (8 * words) (8 * words + 8) copy final)

theorem wp_writeDoubleWord_loop {pDestination uLength : ℕ} (pSource : ℕ → UInt8)
    (words : 8 ∣ uLength) (fits : pDestination + uLength < 2 ^ 32) (copy middle : FlashCopy)
    (cells : middle.flash.cells = copy.flash.cells)
    (reads : middle.sourceReads = copy.sourceReads) :
    wp (loop (writeDoubleWord pSource uLength) (uLength + 1) (0, pDestination, .ok))
      (WriteEnds pDestination pSource uLength copy) middle := by
  refine wp_loop
    (fun value state => ∃ count, value = (8 * count, pDestination + 8 * count, .ok) ∧
      8 * count ≤ uLength ∧ Written pDestination pSource (8 * count) (8 * count) copy state)
    (fun value _ => uLength - value.1) ?_ _ _ _ (Nat.lt_succ_of_le (Nat.sub_le _ _))
    ⟨0, rfl, Nat.zero_le _, .start cells reads⟩
  rintro _ state ⟨count, rfl, count_le, before⟩
  rw [writeDoubleWord]
  split
  · rename_i more
    have room : 8 * count + 8 ≤ uLength := by omega
    simp only [utilMemCpy8, onFlash, wp_bind, wp_modify, wp_pure, wp_gets, wp_zoom, wp_ite]
    refine wp_mono (wp_halFlashProgram _ _ _) fun status flash worked => ?_
    have attempted : Written pDestination pSource (8 * count) (8 * count + 8) copy
        { state with
          flash
          sourceReads := (List.range 8).map (8 * count + ·) ++ state.sourceReads } :=
      before.attempt worked rfl
    split
    · split
      · exact .inr ⟨rfl, count, room, attempted⟩
      · rename_i holds
        have checked := attempted.check (not_not.mp holds)
        rw [Nat.mod_eq_of_lt (by omega), Nat.mod_eq_of_lt (by omega)]
        exact ⟨⟨count + 1, rfl, by omega, checked⟩, by omega⟩
    · exact .inr ⟨rfl, count, room, attempted⟩
  · rename_i done
    have all : 8 * count = uLength := by omega
    rw [wp_pure]
    rw [all] at before
    exact .inl ⟨rfl, before⟩

/-! ## The write -/

/-- A read without ECC errors returns what the flash holds. -/
theorem wp_mcuFlashRead {fault : ℕ → Option UInt8} {pSource length : ℕ} (buffer : ℕ → UInt8)
    (faultless : ∀ offset < length, fault (pSource + offset) = none) (copy : FlashCopy) :
    wp (mcuFlashRead fault buffer pSource length)
      (fun result _ => result.1 = .ok ∧
        ∀ offset < length, result.2 offset = copy.flash.cells (pSource + offset)) copy := by
  simp only [mcuFlashRead, wp_bind, wp_modify, wp_gets, wp_pure]
  refine ⟨rfl, fun offset offset_lt => ?_⟩
  rw [if_pos offset_lt, faultless offset offset_lt]
  rfl

/-- A write that cannot open the flash changes nothing. -/
theorem WritePromised.closed {pDestination uLength : ℕ} {pSource : ℕ → UInt8}
    {copy : FlashCopy} {flash : InternalFlash} (locked : flash.locked = true)
    (cells : flash.cells = copy.flash.cells) :
    WritePromised pDestination pSource uLength copy .error { copy with flash } where
  locked := locked
  outside := fun place _ => congrFun cells place
  reads := fun _ member => .inl member
  written := fun impossible => by cases impossible
  readBack := fun impossible => by cases impossible
  failed := fun _ =>
    ⟨0, fun _ impossible => absurd impossible (Nat.not_lt_zero _), fun place _ =>
      congrFun cells place⟩

/-- What the loop wrote is what was promised, once the flash is locked. -/
theorem WriteEnds.promised {pDestination uLength : ℕ} {pSource : ℕ → UInt8}
    {copy final : FlashCopy} {status : HalStatus}
    (ends : WriteEnds pDestination pSource uLength copy status final) :
    WritePromised pDestination pSource uLength copy status
      { final with flash := final.flash.lock } := by
  rcases ends with ⟨rfl, whole⟩ | ⟨rfl, words, words_le, part⟩
  · constructor
    · rfl
    · exact whole.outside
    · exact whole.reads
    · exact fun _ => whole.written
    · intro _ fault buffer faultless
      refine wp_mono (wp_mcuFlashRead buffer faultless _) fun result _ read => ⟨read.1, ?_⟩
      intro offset offset_lt
      rw [read.2 offset offset_lt]
      exact whole.written offset offset_lt
    · exact fun impossible => absurd rfl impossible
  · constructor
    · rfl
    · exact fun place outside => part.outside place fun inside => outside ⟨inside.1, by omega⟩
    · exact fun index member => (part.reads index member).imp_right fun lt => by omega
    · exact fun impossible => by cases impossible
    · exact fun impossible => by cases impossible
    · exact fun _ => ⟨words, part.written, fun place outside => part.outside place outside⟩

/-- A write of whole double words keeps its promise, whatever fails. -/
theorem mcuFlashWrite_promised {pDestination uLength : ℕ} (pSource : ℕ → UInt8)
    (copy : FlashCopy) (words : 8 ∣ uLength)
    (inFlash : pDestination + uLength ≤ flashBase + copy.flash.flashSize) :
    wp (mcuFlashWrite pDestination pSource uLength)
      (WritePromised pDestination pSource uLength copy) copy := by
  have size := flashSize_lt copy.flash
  have fits : pDestination + uLength < 2 ^ 32 := by
    unfold flashBase at inFlash
    omega
  have opened := InternalFlash.sameArray_opened copy.flash
  simp only [mcuFlashWrite, onFlash, wp_bind, wp_zoom, wp_mcuFlashInit]
  by_cases first : copy.flash.Unlocks
  · simp only [first, if_true, wp_bind, wp_zoom, wp_halFlashUnlock]
    by_cases second : copy.flash.unlock.lock.Unlocks
    · simp only [second, if_true, ne_eq, not_true_eq_false, if_false, wp_bind, wp_zoom,
        wp_halFlashLock, wp_pure]
      refine wp_mono (wp_writeDoubleWord_loop pSource words fits copy _ opened.cells rfl)
        fun status final ends => ends.promised
    · simp only [second, if_false, ne_eq, reduceCtorEq, not_false_eq_true, if_true, wp_pure]
      exact .closed (InternalFlash.locked_unlock.mpr second) opened.cells
  · simp only [first, if_false, reduceCtorEq, wp_pure]
    exact .closed (InternalFlash.locked_unlock.mpr first)
      (InternalFlash.sameArray_unlock copy.flash).cells

/-- A flash whose second program fails and leaves other bits. -/
def failingFlash : InternalFlash where
  locked := true
  keysAccepted _ := true
  keySequences := 0
  operationEnds wait := if wait < 3 then .ok else .error
  waits := 0
  cells _ := erasedByte
  programmed program data := if program = 0 then data else fun _ => 0
  programs := 0
  erased _ _ := erasedByte
  pageErases := []
  eraseCalls := []
  flashSizeRegister := 256

/-- A flash that works. -/
def faultlessFlash : InternalFlash :=
  { failingFlash with
    operationEnds := fun _ => .ok
    programmed := fun _ data => data }

/-- Two double words, of which the second fails, and two that are written and
read back. -/
theorem mcuFlashWrite_promised_example :
    wp (mcuFlashWrite flashBase (fun _ => 7) 16)
        (WritePromised flashBase (fun _ => 7) 16 ⟨failingFlash, 0, 0, []⟩)
        ⟨failingFlash, 0, 0, []⟩ ∧
      wp (do
          let status ← mcuFlashWrite flashBase UInt8.ofNat 16
          let read ← mcuFlashRead (fun _ => none) (fun _ => 0) flashBase 16
          return (status, read))
        (fun result _ => result.1 = .ok ∧ result.2.1 = .ok ∧
          ∀ offset < 16, result.2.2 offset = UInt8.ofNat offset)
        ⟨faultlessFlash, 0, 0, []⟩ := by
  constructor
  · exact mcuFlashWrite_promised _ _ (by decide) (by decide)
  · have succeeds : wp (mcuFlashWrite flashBase UInt8.ofNat 16) (fun status _ => status = .ok)
        ⟨faultlessFlash, 0, 0, []⟩ := ⟨_, _, rfl, rfl⟩
    have promised := @mcuFlashWrite_promised flashBase 16 UInt8.ofNat
      ⟨faultlessFlash, 0, 0, []⟩ (by decide) (by decide)
    rw [wp_bind]
    refine wp_mono (wp_and succeeds promised) ?_
    rintro _ final ⟨rfl, promised⟩
    rw [wp_bind]
    refine wp_mono (promised.readBack rfl (fun _ => none) (fun _ => 0) fun _ _ => rfl) ?_
    intro read _ readBack
    rw [wp_pure]
    exact ⟨rfl, readBack⟩

end GenericNode.McuFlash
