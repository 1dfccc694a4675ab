import GenericNode.Flash.RoundTrip

/-!
# The flash as the back end of SPIFFS

SPIFFS counts bytes and takes a negative value for an error.  The driver counts
blocks of 64 KB, and the board's calls report an error by a positive value.
-/

namespace GenericNode.Flash

open GenericNode.Library
open GenericNode.Library.Prog

/-- `SPIFFS_OK`. -/
def spiffsOk : ℤ := 0

/-- `spiffs_read_wrapper`. -/
def spiffsReadWrapper (addr size : ℕ) (dst : ℕ → UInt8) :
    Prog FlashWorld (ℤ × (ℕ → UInt8)) := do
  let (result, dst) ← gnseFlashRead addr size dst
  return (result.value, dst)

/-- `spiffs_write_wrapper`. -/
def spiffsWriteWrapper (addr size : ℕ) (src : ℕ → UInt8) : Prog FlashWorld ℤ := do
  let result ← gnseFlashWrite addr size src
  return result.value

/-- `spiffs_erase_wrapper`: the size goes where blocks are counted. -/
def spiffsEraseWrapper (addr size : ℕ) : Prog FlashWorld ℤ := do
  let result ← gnseFlashBlockErase addr size
  return result.value

/-- `spiffs_config`. -/
structure SpiffsConfig where
  halReadF : ℕ → ℕ → (ℕ → UInt8) → Prog FlashWorld (ℤ × (ℕ → UInt8))
  halWriteF : ℕ → ℕ → (ℕ → UInt8) → Prog FlashWorld ℤ
  halEraseF : ℕ → ℕ → Prog FlashWorld ℤ
  physSize : ℕ
  physAddr : ℕ
  physEraseBlock : ℕ
  logBlockSize : ℕ
  logPageSize : ℕ

/-- The configuration that `GNSE_Flash_mount` installs. -/
def gnseFlashMountConfig : SpiffsConfig where
  physSize := chipSz
  physAddr := 0
  physEraseBlock := blockSz
  logBlockSize := blockSz
  logPageSize := pageSz
  halReadF := spiffsReadWrapper
  halWriteF := spiffsWriteWrapper
  halEraseF := spiffsEraseWrapper

/-- The erase loop of `spiffs_erase_block`, which ignores the results. -/
def spiffsEraseBlockBody (cfg : SpiffsConfig) (addrSize : ℕ × ℤ) :
    Prog FlashWorld ((ℕ × ℤ) ⊕ Unit) := do
  let (addr, size) := addrSize
  if size > 0 then
    let _ ← cfg.halEraseF addr cfg.physEraseBlock
    return .inl (addr + cfg.physEraseBlock, size - cfg.physEraseBlock)
  else
    return .inr ()

/-- `spiffs_erase_block`: one call for each physical block. -/
def spiffsEraseBlock (cfg : SpiffsConfig) (bix : ℕ) : Prog FlashWorld Unit :=
  loop (spiffsEraseBlockBody cfg) (cfg.logBlockSize + 1)
    (cfg.physAddr + bix * cfg.logBlockSize, cfg.logBlockSize)

/-! ## The erase loop of the driver -/

/-- A place in one of the blocks `first, …, n - 1`; the part has 32 of them. -/
def InBlocks (first n place : ℕ) : Prop :=
  ∃ block, first ≤ block ∧ block < n ∧ place / blockSz = block % 32

/-- More than 31 blocks are the whole chip. -/
theorem inBlocks_all {first n place : ℕ} (all : first + 32 ≤ n) (inside : place < chipSz) :
    InBlocks first n place := by
  simp only [chipSz, blockSz] at inside
  refine ⟨first + (place / blockSz + 32 - first % 32) % 32, ?_, ?_, ?_⟩ <;>
    simp only [blockSz] <;> omega

/-- The blocks up to the end of the chip are not wrapped. -/
theorem inBlocks_inside {first n place : ℕ} (inside : n ≤ 32) :
    InBlocks first n place ↔ first * blockSz ≤ place ∧ place < n * blockSz := by
  simp only [InBlocks, blockSz]
  constructor
  · rintro ⟨block, lower, upper, equal⟩
    omega
  · rintro ⟨lower, upper⟩
    exact ⟨place / 65536, by omega, by omega, by omega⟩

/-- A call erases a region of the chip and nothing else. -/
def ErasesExactly {α : Type} (world : FlashWorld) (addr size : ℕ) (call : Prog FlashWorld α) :
    Prop :=
  wp call (fun _ final => ∀ place < chipSz, final.cells place =
    if addr ≤ place ∧ place < addr + size then erasedByte else world.cells place) world

section Erase

variable {start world final : FlashWorld} {first n count : ℕ}

/-- The blocks `first, …, n - 1` are erased. -/
structure BlocksErased (start : FlashWorld) (first n : ℕ) (world : FlashWorld) : Prop where
  bus : world.bus = start.bus
  ready : world.busy = false
  erased : ∀ place < chipSz, InBlocks first n place → world.cells place = erasedByte
  kept : ∀ place < chipSz, ¬ InBlocks first n place → world.cells place = start.cells place

/-- The address that is sent for a block. -/
theorem blockAddress (block place : ℕ) :
    place / blockSz = block * blockSz % 2 ^ 32 % chipSz / blockSz ↔
      place / blockSz = block % 32 := by
  simp only [chipSz, blockSz]
  omega

/-- One turn of the erase loop on a bus without faults. -/
theorem BlocksErased.next (blocks : BlocksErased start first n world) (works : start.bus.Works)
    (reached : first ≤ n)
    (described : Operated world
      (eraseBlock blockSz world.cells (n * blockSz % 2 ^ 32 % chipSz)) final) :
    BlocksErased start first (n + 1) final := by
  have accepts : world.Accepts := by
    refine ⟨?_, blocks.ready⟩
    apply FlashWorld.received_of_success
    apply FlashWorld.status_of_works
    rwa [blocks.bus]
  obtain ⟨cells, operations, polls, transfers, stops⟩ := described.accepted accepts
  have cells_eq : ∀ place, final.cells place =
      if place / blockSz = n % 32 then erasedByte else world.cells place := by
    intro place
    rw [cells, eraseBlock]
    simp only [blockAddress]
  refine ⟨described.bus.trans blocks.bus, ?_, fun place inside hit => ?_, fun place inside miss => ?_⟩
  · simp only [FlashWorld.busy, described.bus, operations, transfers, decide_eq_false_iff_not]
    intro later
    apply stops.ends
    rw [blocks.bus] at later ⊢
    exact ⟨works.transferred _ _, by omega⟩
  · rw [cells_eq]
    split_ifs with here
    · rfl
    · apply blocks.erased place inside
      obtain ⟨block, lower, upper, equal⟩ := hit
      rcases Nat.lt_succ_iff_lt_or_eq.mp upper with earlier | rfl
      · exact ⟨block, lower, earlier, equal⟩
      · exact absurd equal here
  · rw [cells_eq, if_neg]
    · apply blocks.kept place inside
      rintro ⟨block, lower, upper, equal⟩
      exact miss ⟨block, lower, Nat.lt_succ_of_lt upper, equal⟩
    · intro here
      exact miss ⟨n, reached, Nat.lt_succ_self n, here⟩

/-- The erase loop on a bus without faults. -/
theorem wp_mxBE (addr count : ℕ) (works : start.bus.Works) (ready : start.busy = false)
    (small : addr / blockSz + count < 2 ^ 31) :
    wp (mxBE addr count) (fun status final => status = .success ∧
      BlocksErased start (addr / blockSz) (addr / blockSz + count) final) start := by
  have no_wrap : (addr / blockSz + count) % 2 ^ 32 = addr / blockSz + count := by
    apply Nat.mod_eq_of_lt
    omega
  rw [mxBE, mxEraseTemplate, no_wrap]
  generalize first_eq : addr / blockSz = first
  rw [first_eq] at small
  apply wp_loop
    (fun n world => first ≤ n ∧ n ≤ first + count ∧
      (world.writeEnabled = false ∨ world.Accepts) ∧ BlocksErased start first n world)
    (fun n _ => first + count - n)
  · rintro n world ⟨reached, bounded, enabled, blocks⟩
    have works' : world.bus.Works := by rwa [blocks.bus]
    by_cases before : n < first + count
    · have sent : world.enable.status = .success :=
        FlashWorld.status_of_works (by simpa using works')
      have fits : 1 + MxCommand.be.lenAddr + 0 ≤ extraSz + rdwrBufSz := by decide
      have limit : ¬ 2 ^ 31 ≤ n + 1 := by omega
      simp only [mxEraseTemplateBody, before, ↓reduceIte, wp_bind, wp_mxWREN,
        FlashWorld.status_of_works works', sent, ne_eq, not_true_eq_false,
        wp_mxSpiFlashWrite _ _ _ _ _ fits]
      refine wp_mono (wp_waitForOperation (.inr rfl) enabled sent) fun status final described => ?_
      have success := described.2 works'
      simp only [success, not_true_eq_false, ↓reduceIte, limit, wp_pure]
      have operated := described.1 success
      exact ⟨⟨by omega, by omega, .inl operated.disabled, blocks.next works reached operated⟩,
        by omega⟩
    · have complete : n = first + count := by omega
      subst complete
      simp only [mxEraseTemplateBody, before, ↓reduceIte, wp_pure, true_and]
      exact blocks
  · omega
  · refine ⟨Nat.le_refl _, Nat.le_add_right .., .inr ⟨?_, ready⟩, rfl, ready, ?_, fun _ _ _ => rfl⟩
    · exact FlashWorld.received_of_success (FlashWorld.status_of_works works)
    · rintro place - ⟨block, lower, upper, -⟩
      omega

/-- `GNSE_Flash_BlockErase` counts blocks. -/
theorem wp_gnseFlashBlockErase (addr count : ℕ) (works : start.bus.Works)
    (ready : start.busy = false) (small : addr / blockSz + count < 2 ^ 31) :
    wp (gnseFlashBlockErase addr count) (fun result final => result = .success ∧
      BlocksErased start (addr / blockSz) (addr / blockSz + count) final) start := by
  simp only [gnseFlashBlockErase, wp_bind, wp_mxIsFlashBusy, poll_of_works works ready, ↓reduceIte]
  refine wp_mono (wp_mxBE addr count works (tick_ready ready) small)
    fun status final described => ?_
  obtain ⟨success, blocks⟩ := described
  simp only [success, ne_eq, not_true_eq_false, ↓reduceIte, wp_pure, true_and]
  exact ⟨blocks.bus, blocks.ready, blocks.erased, blocks.kept⟩

end Erase

/-- A block count within the chip erases exactly these blocks. -/
theorem gnseFlashBlockErase_exact {world : FlashWorld} {block count : ℕ}
    (works : world.bus.Works) (ready : world.busy = false) (inside : block + count ≤ 32) :
    ErasesExactly world (block * blockSz) (count * blockSz)
      (gnseFlashBlockErase (block * blockSz) count) := by
  have first : block * blockSz / blockSz = block := Nat.mul_div_cancel block (by decide)
  have small : block * blockSz / blockSz + count < 2 ^ 31 := by omega
  refine wp_mono (wp_gnseFlashBlockErase _ count works ready small)
    fun result final described place within => ?_
  obtain ⟨-, blocks⟩ := described
  rw [first] at blocks
  have same : InBlocks block (block + count) place ↔ _ := inBlocks_inside inside
  rw [Nat.add_mul] at same
  split_ifs with hit
  · exact blocks.erased place within (same.mpr hit)
  · exact blocks.kept place within fun missed => hit (same.mp missed)

/-! ## The contract of the back end -/

/-- The bytes of the chip outside a region are erased. -/
def ErasedOutside (cells : Cells) (addr size : ℕ) : Prop :=
  ∀ place < chipSz, ¬ (addr ≤ place ∧ place < addr + size) → cells place = erasedByte

/-- The erase wrapper hands a number of bytes to a call that counts blocks, so
that every size but zero erases the whole chip. -/
theorem spiffsEraseWrapper_exact_iff {world : FlashWorld} {addr size : ℕ}
    (aligned : blockSz ∣ size) (inside : addr + size ≤ chipSz)
    (works : world.bus.Works) (ready : world.busy = false) :
    ErasesExactly world addr size (spiffsEraseWrapper addr size) ↔
      size = 0 ∨ ErasedOutside world.cells addr size := by
  have small : addr / blockSz + size < 2 ^ 31 := by
    simp only [chipSz, blockSz] at *
    omega
  have call := wp_gnseFlashBlockErase addr size works ready small
  simp only [ErasesExactly, spiffsEraseWrapper, wp_bind, wp_pure]
  by_cases none : size = 0
  · refine iff_of_true (wp_mono call fun result final described place within => ?_) (.inl none)
    have outside : ¬ (addr ≤ place ∧ place < addr + size) := by omega
    rw [if_neg outside]
    apply described.2.kept place within
    rintro ⟨block, lower, upper, -⟩
    omega
  · have blocks : 32 ≤ size := by
      have least := Nat.le_of_dvd (Nat.pos_of_ne_zero none) aligned
      simp only [blockSz] at least
      omega
    have all : ∀ {result final}, result = FlashOpResult.success ∧
        BlocksErased world (addr / blockSz) (addr / blockSz + size) final →
        ∀ place < chipSz, final.cells place = erasedByte := by
      intro result final described place within
      exact described.2.erased place within (inBlocks_all (Nat.add_le_add_left blocks _) within)
    constructor
    · intro exact
      obtain ⟨result, final, -, described, cells⟩ := wp_and call exact
      refine .inr fun place within outside => ?_
      have kept := cells place within
      rw [if_neg outside, all described place within] at kept
      exact kept.symm
    · rintro (zero | outside)
      · exact absurd zero none
      · refine wp_mono call fun result final described place within => ?_
        rw [all described place within]
        split_ifs with hit
        · rfl
        · exact (outside place within hit).symm

/-- A call reports success, if it returns. -/
def Succeeds {α : Type} (world : FlashWorld) (call : Prog FlashWorld α)
    (result : α → FlashOpResult) : Prop :=
  ∀ returned, (call.run world).1 = some returned → result returned = .success

/-- A wrapper is negative whenever the call under it fails, and `SPIFFS_OK` otherwise. -/
def HonorsStatus {α β : Type} (world : FlashWorld) (call : Prog FlashWorld α)
    (result : α → FlashOpResult) (wrapper : Prog FlashWorld β) (value : β → ℤ) : Prop :=
  ∀ returned, (call.run world).1 = some returned →
    ∃ wrapped, (wrapper.run world).1 = some wrapped ∧
      (result returned ≠ .success → value wrapped < 0) ∧
      (result returned = .success → value wrapped = spiffsOk)

/-- The cast of a failed result is positive. -/
theorem honorsStatus_iff {α β : Type} (wrap : α → β) {world : FlashWorld}
    {call : Prog FlashWorld α} {result : α → FlashOpResult} {value : β → ℤ}
    (cast : ∀ returned, value (wrap returned) = (result returned).value) :
    HonorsStatus world call result (call >>= fun returned => pure (wrap returned)) value ↔
      Succeeds world call result := by
  have wrapped_run : ∀ returned, (call.run world).1 = some returned →
      ((call >>= fun returned => pure (wrap returned)).run world).1 = some (wrap returned) := by
    intro returned run
    rw [run_bind]
    split
    · rename_i value' middle both
      rw [both] at run
      cases run
      rfl
    · rename_i middle both
      rw [both] at run
      cases run
  constructor
  · intro honors returned run
    obtain ⟨wrapped, wrapped_eq, failed, -⟩ := honors returned run
    rw [wrapped_run returned run] at wrapped_eq
    cases wrapped_eq
    by_contra fails
    have negative := failed fails
    rw [cast] at negative
    cases outcome : result returned with
    | success => exact fails outcome
    | fail =>
        rw [outcome] at negative
        exact absurd negative (by decide)
  · intro succeeds returned run
    have success := succeeds returned run
    refine ⟨wrap returned, wrapped_run returned run, fun fails => absurd success fails, fun _ => ?_⟩
    rw [cast, success]
    rfl

/-- The erase wrapper erases exactly its region only if that is nothing or all
the rest is erased, and no wrapper reports a failure as an error. -/
theorem spiffsBackEnd_iff (world : FlashWorld) (addr size : ℕ) (buf : ℕ → UInt8) :
    (blockSz ∣ addr → blockSz ∣ size → addr + size ≤ chipSz → world.bus.Works →
      world.busy = false →
      (ErasesExactly world addr size (gnseFlashMountConfig.halEraseF addr size) ↔
        size = 0 ∨ ErasedOutside world.cells addr size)) ∧
    (HonorsStatus world (gnseFlashRead addr size buf) Prod.fst
        (gnseFlashMountConfig.halReadF addr size buf) Prod.fst ↔
      Succeeds world (gnseFlashRead addr size buf) Prod.fst) ∧
    (HonorsStatus world (gnseFlashWrite addr size buf) id
        (gnseFlashMountConfig.halWriteF addr size buf) id ↔
      Succeeds world (gnseFlashWrite addr size buf) id) ∧
    (HonorsStatus world (gnseFlashBlockErase addr size) id
        (gnseFlashMountConfig.halEraseF addr size) id ↔
      Succeeds world (gnseFlashBlockErase addr size) id) := by
  refine ⟨fun _ aligned inside works ready => ?_, ?_, ?_, ?_⟩
  · exact spiffsEraseWrapper_exact_iff aligned inside works ready
  · exact honorsStatus_iff
      (fun returned : FlashOpResult × (ℕ → UInt8) => (returned.1.value, returned.2)) fun _ => rfl
  · exact honorsStatus_iff FlashOpResult.value fun _ => rfl
  · exact honorsStatus_iff FlashOpResult.value fun _ => rfl

/-- A chip full of zeros. -/
def zeroChip : FlashWorld :=
  { erasedChip with cells := fun _ => 0 }

/-- A chip behind a bus on which every transfer fails. -/
def deadChip : FlashWorld :=
  { erasedChip with
    bus :=
      { transferred := fun _ _ => .error
        received := fun _ _ => false
        received_of_ok := by simp
        busyFor := fun _ => 0
        expired := fun _ _ => false } }

theorem deadChip_fails :
    wp (gnseFlashBlockErase 0 blockSz) (fun result _ => result = .fail) deadChip := by
  have failed : deadChip.poll = .failure := by decide
  simp [gnseFlashBlockErase, failed]

/-- Erasing the first block erases the second one too, and a call that fails
does not return a negative value. -/
theorem spiffsBackEnd_broken :
    ¬ ErasesExactly zeroChip 0 blockSz (gnseFlashMountConfig.halEraseF 0 blockSz) ∧
      ¬ HonorsStatus deadChip (gnseFlashBlockErase 0 blockSz) id
        (gnseFlashMountConfig.halEraseF 0 blockSz) id := by
  constructor
  · intro exact
    have inside : 0 + blockSz ≤ chipSz := by decide
    have works : zeroChip.bus.Works := erasedChip_works
    rcases (spiffsEraseWrapper_exact_iff (Nat.dvd_refl _) inside works rfl).mp exact with
      none | outside
    · exact absurd none (by decide)
    · exact absurd (outside blockSz (by decide) (by decide)) (by decide)
  · intro honors
    have succeeds := (honorsStatus_iff FlashOpResult.value fun _ => rfl).mp honors
    obtain ⟨result, final, returned, failed⟩ := deadChip_fails
    have success := succeeds result (by rw [returned])
    rw [failed] at success
    exact absurd success (by decide)

/-- The erase loop of SPIFFS erases the chip. -/
theorem wp_spiffsEraseBlockBody {world : FlashWorld} {bix : ℕ} (inside : bix < 32)
    (works : world.bus.Works) (ready : world.busy = false) :
    wp (spiffsEraseBlockBody gnseFlashMountConfig (bix * blockSz, blockSz)) (fun outcome final =>
      (∃ addr, outcome = .inl (addr, 0)) ∧ ∀ place < chipSz, final.cells place = erasedByte)
      world := by
  have more : (blockSz : ℤ) > 0 := by decide
  have small : bix * blockSz / blockSz + blockSz < 2 ^ 31 := by
    rw [Nat.mul_div_cancel bix (by decide)]
    simp only [blockSz]
    omega
  have many : bix * blockSz / blockSz + 32 ≤ bix * blockSz / blockSz + blockSz :=
    Nat.add_le_add_left (by decide) _
  have eraseF : gnseFlashMountConfig.halEraseF = spiffsEraseWrapper := rfl
  have physical : gnseFlashMountConfig.physEraseBlock = blockSz := rfl
  simp only [spiffsEraseBlockBody, more, ↓reduceIte, wp_bind, wp_pure, eraseF, physical,
    spiffsEraseWrapper, sub_self]
  refine wp_mono (wp_gnseFlashBlockErase _ blockSz works ready small)
    fun result final described => ⟨⟨_, rfl⟩, fun place within => ?_⟩
  exact described.2.erased place within (inBlocks_all many within)

/-- Each block erase of SPIFFS erases the whole chip. -/
theorem spiffsEraseBlock_erases_chip {world : FlashWorld} {bix : ℕ} (inside : bix < 32)
    (works : world.bus.Works) (ready : world.busy = false) :
    wp (spiffsEraseBlock gnseFlashMountConfig bix) (fun _ final =>
      ∀ place < chipSz, final.cells place = erasedByte) world := by
  have address : gnseFlashMountConfig.physAddr = 0 := rfl
  have logical : gnseFlashMountConfig.logBlockSize = blockSz := rfl
  rw [spiffsEraseBlock, address, logical, Nat.zero_add]
  -- The loop has one turn, since the logical block is the erase block.
  apply wp_loop
    (fun addrSize state => (addrSize = (bix * blockSz, (blockSz : ℤ)) ∧ state = world) ∨
      (addrSize.2 = 0 ∧ ∀ place < chipSz, state.cells place = erasedByte))
    (fun addrSize _ => addrSize.2.toNat)
  · rintro ⟨addr, size⟩ state (⟨same, rfl⟩ | ⟨done, erased⟩)
    · rw [same]
      refine wp_mono (wp_spiffsEraseBlockBody inside works ready) ?_
      rintro outcome final ⟨⟨next, rfl⟩, erased⟩
      exact ⟨.inr ⟨rfl, erased⟩, by simp [blockSz]⟩
    · have none : ¬ size > 0 := by
        simp only at done
        omega
      simp only [spiffsEraseBlockBody, none, ↓reduceIte, wp_pure]
      exact erased
  · simp
  · exact .inl ⟨rfl, rfl⟩

end GenericNode.Flash
