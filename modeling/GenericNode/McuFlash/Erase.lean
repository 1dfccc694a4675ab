import GenericNode.McuFlash.Hal

/-!
# Erasing the internal flash

`MCU_FLASH_Erase` erases a range in chunks of two pages.  The pages it passes
to the HAL are compared with those that the range meets.
-/

namespace GenericNode.McuFlash

open GenericNode.Library
open GenericNode.Library.Prog
open GenericNode.Flash (HalStatus)

/-- `NB_PAGE_SECTOR_PER_ERASE`. -/
def nbPageSectorPerErase : ℕ :=
  2

/-- `GetPage`. -/
def getPage (flash : InternalFlash) (uAddr : ℕ) : ℕ :=
  if uAddr < flashBase + flash.flashBankSize then
    (uAddr + 2 ^ 32 - flashBase) % 2 ^ 32 / flashPageSize
  else
    (uAddr - (flashBase + flash.flashBankSize)) / flashPageSize

/-- `firstPage` of `MCU_FLASH_Erase`. -/
def firstPage (flash : InternalFlash) (pStart : ℕ) : ℕ :=
  getPage flash pStart

/-- `nbPages` of `MCU_FLASH_Erase`. -/
def nbPages (flash : InternalFlash) (pStart uLength : ℕ) : ℕ :=
  (getPage flash ((pStart + uLength + 2 ^ 32 - 1) % 2 ^ 32) + 2 ^ 32 - firstPage flash pStart + 1) %
    2 ^ 32

/-- One turn of the inner loop of `MCU_FLASH_Erase`: the first page, the
number of pages left, and the result so far. -/
def eraseChunk : ℕ × ℕ × HalStatus → Prog InternalFlash ((ℕ × ℕ × HalStatus) ⊕ HalStatus)
  | (firstPage, nbPages, status) => do
      let chunkNbPages := if nbPageSectorPerErase ≤ nbPages then nbPageSectorPerErase else nbPages
      let erased ← halFlashExErase firstPage chunkNbPages
      let status := if erased ≠ .ok then .error else status
      if 0 < nbPages - chunkNbPages then
        pure (.inl ((firstPage + chunkNbPages) % 2 ^ 32, nbPages - chunkNbPages, status))
      else
        pure (.inr status)

/-- `MCU_FLASH_Erase`.  The outer loop of the source runs once, for it sets
its own end. -/
def mcuFlashErase (pStart uLength : ℕ) : Prog InternalFlash HalStatus := do
  let status ← mcuFlashInit
  if status = .ok then
    if (← halFlashUnlock) = .ok then do
      let flash ← gets id
      let status ← loop eraseChunk (nbPages flash pStart uLength + 1)
        (firstPage flash pStart, nbPages flash pStart uLength, status)
      let _ ← halFlashLock
      pure status
    else
      pure .error
  else
    pure status

/-! ## What an erase promises -/

/-- The pages passed to the HAL, in order. -/
def passedPages (calls : List EraseCall) : List ℕ :=
  calls.flatMap fun call => List.range' call.page call.nbPages

/-- The pages that meet a range, in order and once each. -/
def PagesOf (pStart uLength : ℕ) (pages : List ℕ) : Prop :=
  pages.Pairwise (· < ·) ∧
    ∀ page, page ∈ pages ↔
      ∃ place, pStart ≤ place ∧ place < pStart + uLength ∧ InPage page place

/-- The calls of one erase: recorded, in chunks, with their results joined,
inside the pages that were passed, and with the flash locked at the end. -/
structure EraseRun (flash : InternalFlash) (status : HalStatus) (final : InternalFlash)
    (calls : List EraseCall) : Prop where
  recorded : final.eraseCalls = flash.eraseCalls ++ calls
  chunks : ∀ call ∈ calls, call.nbPages ≤ nbPageSectorPerErase
  bounded : calls.length ≤ max 1 (passedPages calls).length
  result : status = .ok ↔ flash.Opens ∧ ∀ call ∈ calls, call.status = .ok
  frame : ∀ place, (∀ page ∈ passedPages calls, ¬InPage page place) →
    final.cells place = flash.cells place
  locked : final.locked = true

/-- The erase passes the pages that the range meets, if it can open the flash. -/
structure ErasePromised (flash : InternalFlash) (pStart uLength : ℕ) (status : HalStatus)
    (final : InternalFlash) (calls : List EraseCall) : Prop
    extends EraseRun flash status final calls where
  pages : flash.Opens → PagesOf pStart uLength (passedPages calls)
  closed : ¬flash.Opens → calls = []

/-- The range is not empty, or it lies on a page boundary inside the flash. -/
def EraseFits (flash : InternalFlash) (pStart uLength : ℕ) : Prop :=
  0 < uLength ∨ (pStart % flashPageSize = 0 ∧ pStart ≠ flashBase ∧
    pStart ≠ flashBase + flash.flashSize)

instance (flash : InternalFlash) (pStart uLength : ℕ) :
    Decidable (EraseFits flash pStart uLength) :=
  inferInstanceAs (Decidable (_ ∨ _ ∧ _))

/-! ## The HAL's erase -/

/-- The flash worked on a list of pages only. -/
structure WorkedOn (pages : List ℕ) (flash final : InternalFlash) : Prop where
  locked : final.locked = flash.locked
  cells : ∀ place, (∀ page ∈ pages, ¬InPage page place) → final.cells place = flash.cells place

theorem WorkedOn.refl {flash : InternalFlash} : WorkedOn [] flash flash :=
  ⟨rfl, fun _ _ => rfl⟩

theorem WorkedOn.append {pages more : List ℕ} {flash middle final : InternalFlash}
    (first : WorkedOn pages flash middle) (second : WorkedOn more middle final) :
    WorkedOn (pages ++ more) flash final where
  locked := second.locked.trans first.locked
  cells := by
    intro place outside
    rw [second.cells place fun page member => outside page (List.mem_append_right _ member),
      first.cells place fun page member => outside page (List.mem_append_left _ member)]

theorem workedOn_pageErase (flash : InternalFlash) (page : ℕ) :
    wp (flashPageErase page)
      (fun _ final => WorkedOn [page] flash final ∧ final.eraseCalls = flash.eraseCalls)
      flash := by
  rw [flashPageErase, wp_modify]
  split
  · exact ⟨⟨rfl, fun _ _ => rfl⟩, rfl⟩
  · refine ⟨⟨rfl, fun place outside => ?_⟩, rfl⟩
    exact if_neg (outside page List.mem_cons_self)

theorem wp_erasePages_loop {page nbPages last fuel : ℕ} (flash : InternalFlash)
    (status : HalStatus) (fuel_gt : nbPages < fuel) (last_eq : last = page + nbPages) :
    wp (loop (erasePages last) fuel (page, status))
      (fun _ final => WorkedOn (List.range' page nbPages) flash final ∧
        final.eraseCalls = flash.eraseCalls) flash := by
  induction nbPages generalizing page fuel flash status with
  | zero =>
      cases fuel with
      | zero => omega
      | succ fuel =>
          rw [wp_loop_succ, erasePages, if_neg (by omega), wp_pure]
          exact ⟨.refl, rfl⟩
  | succ nbPages ih =>
      cases fuel with
      | zero => omega
      | succ fuel =>
          rw [wp_loop_succ, erasePages, if_pos (by omega)]
          simp only [wp_bind, wp_flashWaitForLastOperation, wp_ite, wp_pure]
          refine wp_mono (workedOn_pageErase flash page) fun _ middle worked => ?_
          have waited : WorkedOn [page] flash { middle with waits := middle.waits + 1 } :=
            ⟨worked.1.locked, worked.1.cells⟩
          split
          · refine ⟨⟨waited.locked, fun place outside => waited.cells place ?_⟩, worked.2⟩
            intro other member
            obtain rfl := List.mem_singleton.mp member
            exact outside _ (by simp)
          · refine wp_mono (ih _ _ (by omega) (by omega)) fun _ final rest => ?_
            rw [List.range'_succ]
            exact ⟨waited.append rest.1, rest.2.trans worked.2⟩

/-- A call of the HAL's erase, whatever its result. -/
theorem wp_halFlashExErase (flash : InternalFlash) {page nbPages : ℕ}
    (fits : page + nbPages < 2 ^ 32) :
    wp (halFlashExErase page nbPages)
      (fun status final => WorkedOn (List.range' page nbPages) flash final ∧
        final.eraseCalls = flash.eraseCalls ++ [⟨page, nbPages, status⟩]) flash := by
  simp only [halFlashExErase, wp_bind, wp_flashWaitForLastOperation, wp_modify, wp_pure, wp_ite]
  split
  · rw [Nat.mod_eq_of_lt fits]
    refine wp_mono (wp_erasePages_loop _ _ (Nat.lt_succ_self _) rfl) fun status final worked => ?_
    refine ⟨⟨worked.1.locked, worked.1.cells⟩, ?_⟩
    rw [worked.2]
  · exact ⟨⟨rfl, fun _ _ => rfl⟩, trivial⟩

/-! ## The chunks -/

/-- What the chunks do to the flash: their calls cover the pages. -/
structure Chunked (pages : List ℕ) (status : HalStatus) (flash : InternalFlash)
    (result : HalStatus) (final : InternalFlash) (calls : List EraseCall) : Prop where
  recorded : final.eraseCalls = flash.eraseCalls ++ calls
  chunks : ∀ call ∈ calls, call.nbPages ≤ nbPageSectorPerErase
  bounded : calls.length ≤ max 1 pages.length
  passed : passedPages calls = pages
  joined : result = .ok ↔ status = .ok ∧ ∀ call ∈ calls, call.status = .ok
  worked : WorkedOn pages flash final

/-- A last chunk. -/
theorem Chunked.single {flash final : InternalFlash} {page nbPages : ℕ}
    {status erased : HalStatus} (small : nbPages ≤ nbPageSectorPerErase)
    (worked : WorkedOn (List.range' page nbPages) flash final)
    (recorded : final.eraseCalls = flash.eraseCalls ++ [⟨page, nbPages, erased⟩]) :
    Chunked (List.range' page nbPages) status flash (if erased ≠ .ok then .error else status)
      final [⟨page, nbPages, erased⟩] where
  recorded := recorded
  chunks := by
    intro call member
    obtain rfl := List.mem_singleton.mp member
    exact small
  bounded := Nat.le_max_left 1 _
  passed := by simp [passedPages]
  joined := by
    by_cases ok : erased = .ok <;> simp [ok]
  worked := worked

/-- A chunk before others. -/
theorem Chunked.cons {flash middle final : InternalFlash} {page nbPages more : ℕ}
    {status erased result : HalStatus} {calls : List EraseCall}
    (small : nbPages ≤ nbPageSectorPerErase) (positive : 0 < nbPages) (left : 0 < more)
    (worked : WorkedOn (List.range' page nbPages) flash middle)
    (recorded : middle.eraseCalls = flash.eraseCalls ++ [⟨page, nbPages, erased⟩])
    (rest : Chunked (List.range' (page + nbPages) more) (if erased ≠ .ok then .error else status)
      middle result final calls) :
    Chunked (List.range' page (nbPages + more)) status flash result final
      (⟨page, nbPages, erased⟩ :: calls) where
  recorded := by
    rw [rest.recorded, recorded, List.append_assoc]
    rfl
  chunks := by
    intro call member
    rcases List.mem_cons.mp member with rfl | later
    · exact small
    · exact rest.chunks call later
  bounded := by
    have bound := rest.bounded
    simp only [List.length_range', List.length_cons] at bound ⊢
    omega
  passed := by
    have later := rest.passed
    simp only [passedPages, List.flatMap_cons] at later ⊢
    rw [later, List.range'_append_1]
  joined := by
    rw [rest.joined]
    by_cases ok : erased = .ok <;> simp [ok]
  worked := by
    have both := worked.append rest.worked
    rwa [List.range'_append_1] at both

/-- The loop passes the pages to the HAL and leaves. -/
theorem wp_eraseChunk_loop (flash : InternalFlash) {page nbPages fuel : ℕ} (status : HalStatus)
    (fuel_gt : nbPages < fuel) (fits : page + nbPages < 2 ^ 32) :
    wp (loop eraseChunk fuel (page, nbPages, status))
      (fun result final => ∃ calls,
        Chunked (List.range' page nbPages) status flash result final calls) flash := by
  induction fuel generalizing page nbPages flash status with
  | zero => omega
  | succ fuel ih =>
      rw [wp_loop_succ, eraseChunk]
      simp only [wp_bind, wp_ite, wp_pure]
      by_cases large : nbPageSectorPerErase < nbPages
      · have two : nbPageSectorPerErase = 2 := rfl
        rw [if_pos large.le]
        refine wp_mono (wp_halFlashExErase flash (by omega)) fun erased middle call => ?_
        rw [if_pos (Nat.sub_pos_of_lt large), Nat.mod_eq_of_lt (by omega)]
        refine wp_mono (ih middle _ (by omega) (by omega)) fun result final chunked => ?_
        obtain ⟨calls, chunked⟩ := chunked
        have whole := Chunked.cons (le_refl nbPageSectorPerErase) (by decide)
          (Nat.sub_pos_of_lt large) call.1 call.2 chunked
        rw [Nat.add_sub_of_le large.le] at whole
        exact ⟨_, whole⟩
      · have small : nbPages ≤ nbPageSectorPerErase := Nat.le_of_not_lt large
        have chunk : (if nbPageSectorPerErase ≤ nbPages then nbPageSectorPerErase else nbPages) =
            nbPages := by
          split
          · exact Nat.le_antisymm ‹_› small
          · rfl
        rw [chunk]
        refine wp_mono (wp_halFlashExErase flash fits) fun erased final call => ?_
        rw [if_neg (by omega)]
        exact ⟨_, Chunked.single small call.1 call.2⟩

/-! ## The pages -/

section Pages

variable {flash : InternalFlash} {pStart uLength : ℕ}

/-- The page of an address of the flash. -/
theorem getPage_eq {uAddr : ℕ} (low : flashBase ≤ uAddr)
    (high : uAddr < flashBase + flash.flashSize) :
    getPage flash uAddr = (uAddr - flashBase) / flashPageSize := by
  have size := flashSize_lt flash
  rw [getPage, InternalFlash.flashBankSize, if_pos high]
  unfold flashBase flashPageSize at *
  omega

/-- The number of pages of a range that is not empty. -/
theorem nbPages_of_pos (low : flashBase ≤ pStart)
    (high : pStart + uLength ≤ flashBase + flash.flashSize) (positive : 0 < uLength) :
    nbPages flash pStart uLength =
      (pStart + uLength - 1 - flashBase) / flashPageSize - (pStart - flashBase) / flashPageSize
        + 1 := by
  have size := flashSize_lt flash
  have last : (pStart + uLength + 2 ^ 32 - 1) % 2 ^ 32 = pStart + uLength - 1 := by
    unfold flashBase at *
    omega
  rw [nbPages, firstPage, last, getPage_eq low (by omega), getPage_eq (by omega) (by omega)]
  unfold flashBase flashPageSize at *
  omega

/-- An empty range passes no page only on a page boundary inside the flash. -/
theorem nbPages_empty_iff (low : flashBase ≤ pStart)
    (high : pStart ≤ flashBase + flash.flashSize) :
    nbPages flash pStart 0 = 0 ↔
      pStart % flashPageSize = 0 ∧ pStart ≠ flashBase ∧ pStart ≠ flashBase + flash.flashSize := by
  have size := flashSize_lt flash
  unfold nbPages firstPage getPage InternalFlash.flashBankSize flashBase flashPageSize at *
  split_ifs <;> omega

/-- The pages that are passed are numbered in 32 bits. -/
theorem firstPage_add_nbPages_lt (low : flashBase ≤ pStart)
    (high : pStart + uLength ≤ flashBase + flash.flashSize) :
    firstPage flash pStart + nbPages flash pStart uLength < 2 ^ 32 := by
  have size := flashSize_lt flash
  unfold nbPages firstPage getPage InternalFlash.flashBankSize flashBase flashPageSize at *
  split_ifs <;> omega

/-- A range that is not empty. -/
theorem pagesOf_range (low : flashBase ≤ pStart)
    (high : pStart + uLength ≤ flashBase + flash.flashSize) (positive : 0 < uLength) :
    PagesOf pStart uLength
      (List.range' (firstPage flash pStart) (nbPages flash pStart uLength)) := by
  refine ⟨List.pairwise_lt_range', fun page => ?_⟩
  rw [List.mem_range'_1, firstPage, getPage_eq low (by omega),
    nbPages_of_pos low high positive]
  constructor
  · rintro ⟨page_ge, page_lt⟩
    refine ⟨max pStart (flashBase + page * flashPageSize), Nat.le_max_left _ _, ?_, ?_, ?_⟩
    all_goals unfold flashBase flashPageSize at *
    all_goals omega
  · rintro ⟨place, place_ge, place_lt, -, rfl⟩
    unfold flashBase flashPageSize at *
    omega

theorem pagesOf_nil (pStart : ℕ) : PagesOf pStart 0 [] := by
  refine ⟨List.Pairwise.nil, fun page => ?_⟩
  constructor
  · exact fun member => absurd member List.not_mem_nil
  · rintro ⟨place, place_ge, place_lt, _⟩
    omega

/-- The pages that are passed are those that the range meets exactly when it
fits. -/
theorem pagesOf_iff (low : flashBase ≤ pStart)
    (high : pStart + uLength ≤ flashBase + flash.flashSize) :
    PagesOf pStart uLength
        (List.range' (firstPage flash pStart) (nbPages flash pStart uLength)) ↔
      EraseFits flash pStart uLength := by
  rcases Nat.eq_zero_or_pos uLength with rfl | positive
  · have empty := nbPages_empty_iff low high
    constructor
    · rintro ⟨-, meets⟩
      refine .inr (empty.mp (Nat.eq_zero_of_not_pos fun some => ?_))
      have first := (meets (firstPage flash pStart)).mp
        (List.mem_range'_1.mpr ⟨le_refl _, Nat.lt_add_of_pos_right some⟩)
      obtain ⟨place, place_ge, place_lt, _⟩ := first
      omega
    · rintro (impossible | boundary)
      · exact absurd impossible (Nat.lt_irrefl 0)
      · rw [empty.mpr boundary, List.range'_zero]
        exact pagesOf_nil pStart
  · exact iff_of_true (pagesOf_range low high positive) (.inl positive)

end Pages

/-! ## The erase -/

theorem getPage_congr {flash final : InternalFlash}
    (same : final.flashSizeRegister = flash.flashSizeRegister) : getPage final = getPage flash := by
  funext uAddr
  have size : final.flashBankSize = flash.flashBankSize := by
    rw [InternalFlash.flashBankSize, InternalFlash.flashSize, same]
    rfl
  rw [getPage, size]
  rfl

/-- Without the flash open, nothing is passed and the result is an error. -/
theorem EraseRun.closed {flash final : InternalFlash} {status : HalStatus}
    (closed : ¬flash.Opens) (failed : status ≠ .ok) (same : InternalFlash.SameArray flash final)
    (locked : final.locked = true) : EraseRun flash status final [] where
  recorded := by rw [same.eraseCalls, List.append_nil]
  chunks := fun _ impossible => absurd impossible List.not_mem_nil
  bounded := Nat.zero_le _
  result := iff_of_false failed fun opens => closed opens.1
  frame := fun place _ => congrFun same.cells place
  locked := locked

/-- What an erase does, in terms of the pages it computes. -/
theorem wp_mcuFlashErase {flash : InternalFlash} {pStart uLength : ℕ}
    (fits : firstPage flash pStart + nbPages flash pStart uLength < 2 ^ 32) :
    wp (mcuFlashErase pStart uLength) (fun status final => ∃ calls,
      EraseRun flash status final calls ∧ (¬flash.Opens → calls = []) ∧
        (flash.Opens → passedPages calls =
          List.range' (firstPage flash pStart) (nbPages flash pStart uLength))) flash := by
  simp only [mcuFlashErase, wp_bind, wp_mcuFlashInit]
  by_cases first : flash.Unlocks
  · simp only [first, if_true, wp_bind, wp_halFlashUnlock]
    by_cases second : flash.unlock.lock.Unlocks
    · have opens : flash.Opens := ⟨first, second⟩
      have same := InternalFlash.sameArray_opened flash
      simp only [second, if_true, wp_gets, wp_halFlashLock, wp_pure, id_eq]
      change wp _ _ flash.opened
      have pages : getPage flash.unlock.lock.unlock = getPage flash :=
        getPage_congr same.flashSizeRegister
      rw [nbPages, firstPage, pages]
      refine wp_mono (wp_eraseChunk_loop flash.opened .ok (Nat.lt_succ_self _) fits)
        fun status final chunked => ?_
      obtain ⟨calls, chunked⟩ := chunked
      refine ⟨calls, ?_, fun closed => absurd opens closed, fun _ => chunked.passed⟩
      constructor
      · rw [← same.eraseCalls]
        exact chunked.recorded
      · exact chunked.chunks
      · rw [chunked.passed]
        exact chunked.bounded
      · rw [chunked.joined]
        exact ⟨fun joined => ⟨opens, joined.2⟩, fun joined => ⟨rfl, joined.2⟩⟩
      · intro place outside
        rw [chunked.passed] at outside
        rw [← same.cells]
        exact chunked.worked.cells place outside
      · rfl
    · have closed : ¬flash.Opens := fun opens => second opens.2
      simp only [second, if_false, wp_pure, reduceCtorEq]
      have same := InternalFlash.sameArray_opened flash
      refine ⟨[], .closed closed (by decide) same ?_, fun _ => rfl,
        fun opens => absurd opens closed⟩
      exact InternalFlash.locked_unlock.mpr second
  · have closed : ¬flash.Opens := fun opens => first opens.1
    simp only [first, if_false, wp_pure, reduceCtorEq]
    refine ⟨[], .closed closed (by decide) (InternalFlash.sameArray_unlock flash) ?_,
      fun _ => rfl, fun opens => absurd opens closed⟩
    exact InternalFlash.locked_unlock.mpr first

/-- An erase keeps its promise exactly when the flash cannot be opened or the
range fits. -/
theorem mcuFlashErase_promised_iff {flash : InternalFlash} {pStart uLength : ℕ}
    (low : flashBase ≤ pStart) (high : pStart + uLength ≤ flashBase + flash.flashSize) :
    wp (mcuFlashErase pStart uLength)
        (fun status final => ∃ calls, ErasePromised flash pStart uLength status final calls)
        flash ↔
      (flash.Opens → EraseFits flash pStart uLength) := by
  have spec := wp_mcuFlashErase (firstPage_add_nbPages_lt low high)
  constructor
  · intro holds opens
    obtain ⟨_, _, _, ⟨calls, run, -, passed⟩, ⟨calls', promised⟩⟩ := wp_and spec holds
    have same : calls' = calls :=
      List.append_cancel_left (promised.recorded.symm.trans run.recorded)
    have pages := promised.pages opens
    rw [same, passed opens] at pages
    exact (pagesOf_iff low high).mp pages
  · intro condition
    refine wp_mono spec fun status final run => ?_
    obtain ⟨calls, run, closed, passed⟩ := run
    refine ⟨calls, run, fun opens => ?_, closed⟩
    rw [passed opens]
    exact (pagesOf_iff low high).mpr (condition opens)

/-- A flash of 256 KB that accepts the keys and erases what it is told to. -/
def workingFlash : InternalFlash where
  locked := true
  keysAccepted _ := true
  keySequences := 0
  operationEnds _ := .ok
  waits := 0
  cells _ := 0
  programmed _ data := data
  programs := 0
  erased _ _ := erasedByte
  pageErases := []
  eraseCalls := []
  flashSizeRegister := 256

/-- Three pages, from the middle of one to the middle of another. -/
theorem mcuFlashErase_promised_example :
    wp (mcuFlashErase (flashBase + 0x1400) 0x1000)
      (fun status final => ∃ calls,
        ErasePromised workingFlash (flashBase + 0x1400) 0x1000 status final calls)
      workingFlash :=
  (mcuFlashErase_promised_iff (by decide) (by decide)).mpr fun _ => .inl (by decide)

/-- An empty range inside a page erases the page. -/
theorem mcuFlashErase_empty_erases :
    ∃ status final, (mcuFlashErase (flashBase + 4) 0).run workingFlash = (some status, final) ∧
      passedPages final.eraseCalls = [0] ∧
      ¬∃ calls, ErasePromised workingFlash (flashBase + 4) 0 status final calls := by
  have opens : workingFlash.Opens := by decide
  obtain ⟨status, final, returned, calls, run, -, passed⟩ :=
    wp_mcuFlashErase (show firstPage workingFlash (flashBase + 4) +
      nbPages workingFlash (flashBase + 4) 0 < 2 ^ 32 by decide +kernel)
  have recorded : final.eraseCalls = calls := run.recorded
  have pages : passedPages calls = [0] := (passed opens).trans (by decide +kernel)
  refine ⟨status, final, returned, ?_, ?_⟩
  · rw [recorded, pages]
  · rintro ⟨calls', promised⟩
    have same : final.eraseCalls = calls' := promised.recorded
    have meets := (promised.pages opens).2 0
    rw [← same, recorded, pages] at meets
    obtain ⟨place, place_ge, place_lt, _⟩ := meets.mp (by decide)
    omega

end GenericNode.McuFlash
