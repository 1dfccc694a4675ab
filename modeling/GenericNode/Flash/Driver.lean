import GenericNode.Flash.Chip

/-!
# The driver of the external flash

`nor_cmd.c` over `spi.c`, in SPI mode with 3-byte addresses: the dummy length
of every instruction the driver sends is zero, and setting up an instruction
cannot fail.
-/

namespace GenericNode.Flash

open GenericNode.Library
open GenericNode.Library.Prog

/-- The values of `DeviceStatus` that the driver uses. -/
inductive DeviceStatus where
  | success | failure | timeout | deviceBusy | deviceReady
deriving DecidableEq, Repr

/-- `EXTRA_SZ`. -/
def extraSz : ℕ := 30

/-- `RDWR_BUF_SZ`. -/
def rdwrBufSz : ℕ := 512

/-- One transfer: the status of the HAL and the bytes received. -/
def halSpiTransfer (wrBuf : ℕ → UInt8) (byteCount : ℕ) :
    Prog FlashWorld (HalStatus × (ℕ → UInt8)) :=
  ⟨fun world => (some (world.transferred, world.answer wrBuf), world.receive wrBuf byteCount)⟩

/-- `MxPolledTransfer`: the status of the HAL as one of the driver, and the bytes. -/
def mxPolledTransfer (wrBuf : ℕ → UInt8) (byteCount : ℕ) :
    Prog FlashWorld (DeviceStatus × (ℕ → UInt8)) := do
  let (status, rdBuf) ← halSpiTransfer wrBuf byteCount
  if status ≠ .ok then
    if status = .timeout then
      return (.timeout, rdBuf)
    else
      return (.failure, rdBuf)
  return (.success, rdBuf)

/-- `MxSpiFlashWrite`: instruction, address and data in one transfer. -/
def mxSpiFlashWrite (addr byteCount : ℕ) (wrBuf : ℕ → UInt8) (wrCmd : MxCommand) :
    Prog FlashWorld DeviceStatus := do
  let lenInst := 1 + wrCmd.lenAddr
  if extraSz + rdwrBufSz < lenInst + byteCount then
    undefined
  else
    let (status, _) ← mxPolledTransfer (writeBuffer wrCmd addr wrBuf) (byteCount + lenInst)
    return status

/-- The status, and `RdBuf` after the call. -/
def mxSpiFlashRead (addr byteCount : ℕ) (rdBuf : ℕ → UInt8) (rdCmd : MxCommand) :
    Prog FlashWorld (DeviceStatus × (ℕ → UInt8)) := do
  let lenInst := 1 + rdCmd.lenAddr
  let rdSz := if byteCount > rdwrBufSz then rdwrBufSz else byteCount
  let (status, readBuffer) ←
    mxPolledTransfer (writeBuffer rdCmd addr fun _ => erasedByte) (rdSz + lenInst)
  if status ≠ .success then
    return (status, rdBuf)
  return (.success, fun place => if place < rdSz then readBuffer (lenInst + place) else rdBuf place)

/-- `MxRDSR`: the status register. -/
def mxRDSR : Prog FlashWorld (DeviceStatus × UInt8) := do
  let (status, sr) ← mxSpiFlashRead 0 1 (fun _ => 0) .rdsr
  return (status, sr 0)

/-- `MxWREN`. -/
def mxWREN : Prog FlashWorld DeviceStatus :=
  mxSpiFlashWrite 0 0 (fun _ => 0) .wren

/-- `MxIsFlashBusy`: whether a write is in progress. -/
def mxIsFlashBusy : Prog FlashWorld DeviceStatus := do
  let (status, sr) ← mxRDSR
  if status ≠ .success then
    return status
  if sr &&& 1 ≠ 0 then
    return .deviceBusy
  else
    return .deviceReady

/-- The body of the polling loop. -/
def mxWaitForFlashReadyBody : Unit → Prog FlashWorld (Unit ⊕ DeviceStatus) := fun _ => do
  let status ← mxIsFlashBusy
  if status = .deviceBusy then
    let expired ← gets fun world => world.bus.expired world.operations world.transfers
    if expired then
      return .inr .timeout
    return .inl ()
  else
    return .inr .success

/-- The chip does not stay busy forever, so neither does the loop. -/
def mxWaitForFlashReady : Prog FlashWorld DeviceStatus := do
  let patience ← gets FlashWorld.remaining
  loop mxWaitForFlashReadyBody (patience + 1) ()

/-- Program a page and wait, as each of the three places of `MxWriteTemplate` does. -/
def mxProgramAndWait (addr byteCount : ℕ) (buf : ℕ → UInt8) : Prog FlashWorld DeviceStatus := do
  let status ← mxSpiFlashWrite addr byteCount buf .pp
  if status ≠ .success then
    return status
  mxWaitForFlashReady

/-- The loop over the pages after the first.  The status of `MxWREN` is
overwritten; `n` is an `int`. -/
def mxWriteTemplateBody (addr byteCount : ℕ) (buf : ℕ → UInt8) (n : ℕ) :
    Prog FlashWorld (ℕ ⊕ DeviceStatus) := do
  if n < byteCount then
    let wrSz := if byteCount - n > pageSz then pageSz else byteCount - n
    let _ ← mxWREN
    let status ← mxProgramAndWait ((addr + n) % 2 ^ 32) wrSz fun place => buf (n + place)
    if status ≠ .success then
      return .inr status
    if 2 ^ 31 ≤ n + wrSz then
      undefined
    else
      return .inl (n + wrSz)
  else
    return .inr .success

/-- `MxWriteTemplate` for `MX_CMD_PP`. -/
def mxWriteTemplate (addr byteCount : ℕ) (buf : ℕ → UInt8) : Prog FlashWorld DeviceStatus := do
  let pageOfs := addr &&& (pageSz - 1)
  if byteCount = 0 then
    return .success
  let status ← mxWREN
  if status ≠ .success then
    return status
  if (pageOfs + byteCount) % 2 ^ 32 ≤ pageSz then
    mxProgramAndWait addr byteCount buf
  else
    let wrSz := pageSz - pageOfs
    let status ← mxProgramAndWait addr wrSz buf
    if status ≠ .success then
      return status
    loop (mxWriteTemplateBody addr byteCount buf) (byteCount + 1) wrSz

/-- The loop over the blocks; `n` is an `int`. -/
def mxEraseTemplateBody (stop n : ℕ) : Prog FlashWorld (ℕ ⊕ DeviceStatus) := do
  if n < stop then
    let status ← mxWREN
    if status ≠ .success then
      return .inr status
    let status ← mxSpiFlashWrite (n * blockSz % 2 ^ 32) 0 (fun _ => 0) .be
    if status ≠ .success then
      return .inr status
    let status ← mxWaitForFlashReady
    if status ≠ .success then
      return .inr status
    if 2 ^ 31 ≤ n + 1 then
      undefined
    else
      return .inl (n + 1)
  else
    return .inr .success

/-- `MxEraseTemplate` for `MX_CMD_BE`. -/
def mxEraseTemplate (addr eraseSizeCount : ℕ) : Prog FlashWorld DeviceStatus := do
  let addrStart := addr / blockSz
  let stop := (addrStart + eraseSizeCount) % 2 ^ 32
  loop (mxEraseTemplateBody stop) (stop + 1) addrStart

/-- `MxREAD`. -/
def mxREAD (addr byteCount : ℕ) (buf : ℕ → UInt8) :
    Prog FlashWorld (DeviceStatus × (ℕ → UInt8)) :=
  mxSpiFlashRead addr byteCount buf .read

/-- `MxPP`, page by page. -/
def mxPP (addr byteCount : ℕ) (buf : ℕ → UInt8) : Prog FlashWorld DeviceStatus :=
  mxWriteTemplate addr byteCount buf

/-- `MxBE`, block by block. -/
def mxBE (addr eraseSizeCount : ℕ) : Prog FlashWorld DeviceStatus :=
  mxEraseTemplate addr eraseSizeCount

/-! ## The board's flash calls -/

/-- `FLASH_op_result_t`. -/
inductive FlashOpResult where
  | success | fail
deriving DecidableEq, Repr

/-- The value of the C enumeration. -/
def FlashOpResult.value : FlashOpResult → ℤ
  | .success => 0
  | .fail => 1

/-- The result, and the target buffer after the call. -/
def gnseFlashRead (addr byteCount : ℕ) (targetBuffer : ℕ → UInt8) :
    Prog FlashWorld (FlashOpResult × (ℕ → UInt8)) := do
  let status ← mxIsFlashBusy
  if status = .deviceReady then
    let (status, targetBuffer) ← mxREAD addr byteCount targetBuffer
    if status ≠ .success then
      return (.fail, targetBuffer)
    return (.success, targetBuffer)
  else
    return (.fail, targetBuffer)

/-- `GNSE_Flash_Write`, when the chip is ready. -/
def gnseFlashWrite (addr byteCount : ℕ) (sourceBuffer : ℕ → UInt8) :
    Prog FlashWorld FlashOpResult := do
  let status ← mxIsFlashBusy
  if status = .deviceReady then
    let status ← mxPP addr byteCount sourceBuffer
    if status ≠ .success then
      return .fail
    return .success
  else
    return .fail

/-- `GNSE_Flash_BlockErase`, when the chip is ready. -/
def gnseFlashBlockErase (addr blockCount : ℕ) : Prog FlashWorld FlashOpResult := do
  let status ← mxIsFlashBusy
  if status = .deviceReady then
    let status ← mxBE addr blockCount
    if status ≠ .success then
      return .fail
    return .success
  else
    return .fail

/-! ## One transfer -/

namespace FlashWorld

/-- The status of a transfer as the driver reports it. -/
def status (world : FlashWorld) : DeviceStatus :=
  if world.transferred ≠ .ok then
    if world.transferred = .timeout then .timeout else .failure
  else .success

/-- The chip after an instruction was sent. -/
def after (world : FlashWorld) (command : MxCommand) (address count : ℕ) (data : ℕ → UInt8) :
    FlashWorld :=
  if world.received then world.perform command address count data else world.tick

/-- The chip after `MxWREN`. -/
def enable (world : FlashWorld) : FlashWorld :=
  world.after .wren 0 0 fun _ => 0

/-- The result of a poll. -/
def poll (world : FlashWorld) : DeviceStatus :=
  if world.status ≠ .success then world.status
  else if world.busy then .deviceBusy else .deviceReady

variable {world : FlashWorld}

@[simp]
theorem status_eq_success : world.status = .success ↔ world.transferred = .ok := by
  rw [status]
  split_ifs <;> simp_all

/-- On a bus without faults every transfer succeeds. -/
theorem status_of_works (works : world.bus.Works) : world.status = .success :=
  status_eq_success.mpr (works.transferred _ _)

/-- A checked transfer reached the chip. -/
theorem received_of_success (success : world.status = .success) : world.received = true :=
  world.bus.received_of_ok _ _ (status_eq_success.mp success)

@[simp]
theorem poll_eq_busy : world.poll = .deviceBusy ↔ world.transferred = .ok ∧ world.busy := by
  rw [poll, status]
  split_ifs <;> simp_all

@[simp]
theorem poll_eq_ready : world.poll = .deviceReady ↔ world.transferred = .ok ∧ ¬ world.busy := by
  rw [poll, status]
  split_ifs <;> simp_all

/-- The chip decodes the instruction that the driver builds. -/
theorem receive_writeBuffer (command : MxCommand) (addr count : ℕ) (data : ℕ → UInt8) :
    world.receive (writeBuffer command addr data) (count + (1 + command.lenAddr)) =
      world.after command (addr % chipSz) count data := by
  have addressed : command.lenAddr = 3 →
      world.receive (writeBuffer command addr data) (count + (1 + command.lenAddr)) =
        world.after command (addr % chipSz) count data := by
    intro addressed
    simp only [receive, writeBuffer_zero, MxCommand.ofCode_code, after,
      addressOf_writeBuffer addr data addressed, writeBuffer_data addr data addressed]
    rw [addressed, Nat.add_sub_cancel]
  cases command with
  | pp => exact addressed rfl
  | be => exact addressed rfl
  | read => exact addressed rfl
  | wren => simp [receive, after, perform]
  | rdsr => simp [receive, after, perform]

@[simp]
theorem after_rdsr (address count : ℕ) (data : ℕ → UInt8) :
    world.after .rdsr address count data = world.tick := by
  simp [after, perform]

@[simp]
theorem after_read (address count : ℕ) (data : ℕ → UInt8) :
    world.after .read address count data = world.tick := by
  simp [after, perform]

end FlashWorld

variable {world : FlashWorld}

@[simp]
theorem wp_halSpiTransfer (wrBuf : ℕ → UInt8) (byteCount : ℕ)
    (post : HalStatus × (ℕ → UInt8) → FlashWorld → Prop) :
    wp (halSpiTransfer wrBuf byteCount) post world ↔
      post (world.transferred, world.answer wrBuf) (world.receive wrBuf byteCount) := by
  constructor
  · rintro ⟨_, _, returned, holds⟩
    cases returned
    exact holds
  · intro holds
    exact ⟨_, _, rfl, holds⟩

@[simp]
theorem wp_mxPolledTransfer (wrBuf : ℕ → UInt8) (byteCount : ℕ)
    (post : DeviceStatus × (ℕ → UInt8) → FlashWorld → Prop) :
    wp (mxPolledTransfer wrBuf byteCount) post world ↔
      post (world.status, world.answer wrBuf) (world.receive wrBuf byteCount) := by
  simp only [mxPolledTransfer, wp_bind, wp_halSpiTransfer, FlashWorld.status]
  by_cases ok : world.transferred = .ok
  · simp [ok]
  · by_cases timeout : world.transferred = .timeout
    · simp [timeout]
    · simp [ok, timeout]

/-- An instruction that fits in the write buffer is sent as it is. -/
theorem wp_mxSpiFlashWrite (addr byteCount : ℕ) (buf : ℕ → UInt8) (command : MxCommand)
    (post : DeviceStatus → FlashWorld → Prop)
    (fits : 1 + command.lenAddr + byteCount ≤ extraSz + rdwrBufSz) :
    wp (mxSpiFlashWrite addr byteCount buf command) post world ↔
      post world.status (world.after command (addr % chipSz) byteCount buf) := by
  simp [mxSpiFlashWrite, Nat.not_lt.mpr fits, FlashWorld.receive_writeBuffer]

@[simp]
theorem wp_mxWREN (post : DeviceStatus → FlashWorld → Prop) :
    wp mxWREN post world ↔ post world.status world.enable := by
  rw [mxWREN, wp_mxSpiFlashWrite _ _ _ _ _ (by decide)]
  simp [FlashWorld.enable, FlashWorld.after, FlashWorld.perform]

/-- A read stores at most the size of the read buffer. -/
theorem wp_mxSpiFlashRead (addr byteCount : ℕ) (buf : ℕ → UInt8) (command : MxCommand)
    (reads : command = .read ∨ command = .rdsr)
    (post : DeviceStatus × (ℕ → UInt8) → FlashWorld → Prop) :
    wp (mxSpiFlashRead addr byteCount buf command) post world ↔
      post (if world.status = .success then
          (.success, fun place =>
            if place < min byteCount rdwrBufSz then
              world.answer (writeBuffer command addr fun _ => erasedByte)
                (1 + command.lenAddr + place)
            else buf place)
        else (world.status, buf)) world.tick := by
  have sent : ∀ count, world.receive (writeBuffer command addr fun _ => erasedByte)
      (count + (1 + command.lenAddr)) = world.tick := by
    intro count
    rw [FlashWorld.receive_writeBuffer]
    rcases reads with rfl | rfl
    · exact FlashWorld.after_read ..
    · exact FlashWorld.after_rdsr ..
  have size : (if byteCount > rdwrBufSz then rdwrBufSz else byteCount) =
      min byteCount rdwrBufSz := by
    split_ifs with large
    · rw [Nat.min_eq_right (Nat.le_of_lt large)]
    · rw [Nat.min_eq_left (Nat.le_of_not_lt large)]
  simp only [mxSpiFlashRead, wp_bind, wp_mxPolledTransfer, size, sent]
  by_cases success : world.status = .success
  · simp only [success, ne_eq, not_true_eq_false, ↓reduceIte, wp_pure]
  · simp only [success, ne_eq, not_false_eq_true, ↓reduceIte, wp_pure]

@[simp]
theorem wp_mxIsFlashBusy (post : DeviceStatus → FlashWorld → Prop) :
    wp mxIsFlashBusy post world ↔ post world.poll world.tick := by
  simp only [mxIsFlashBusy, mxRDSR, wp_bind, wp_pure, wp_mxSpiFlashRead _ _ _ _ (.inr rfl)]
  by_cases success : world.status = .success
  · have register : ∀ place, world.answer (writeBuffer .rdsr 0 fun _ => erasedByte) place =
        world.statusRegister := by
      simp [FlashWorld.answer]
    simp only [success, ↓reduceIte, ne_eq, not_true_eq_false, FlashWorld.poll, register]
    by_cases busy : world.busy = true
    · simp [busy, rdwrBufSz]
    · simp [busy, rdwrBufSz]
  · simp [success, FlashWorld.poll]

/-- A read that the chip answers fills at most the read buffer. -/
theorem wp_mxREAD (addr byteCount : ℕ) (buf : ℕ → UInt8) :
    wp (mxREAD addr byteCount buf) (fun result final =>
      final = world.tick ∧ (result.1 = .success → world.busy = false → ∀ place,
        result.2 place =
          if place < min byteCount rdwrBufSz then world.cells ((addr % chipSz + place) % chipSz)
          else buf place) ∧ (world.bus.Works → result.1 = .success)) world := by
  rw [mxREAD, wp_mxSpiFlashRead _ _ _ _ (.inl rfl)]
  refine ⟨rfl, ?_, fun works => by rw [if_pos (FlashWorld.status_of_works works)]⟩
  by_cases success : world.status = .success
  · intro _ ready place
    have decoded : FlashWorld.addressOf (writeBuffer .read addr fun _ => erasedByte) =
        addr % chipSz :=
      addressOf_writeBuffer addr _ rfl
    have bytes : ∀ offset, world.answer (writeBuffer .read addr fun _ => erasedByte)
        (1 + MxCommand.read.lenAddr + offset) =
          world.cells ((addr % chipSz + offset) % chipSz) := by
      intro offset
      simp only [FlashWorld.answer, writeBuffer_zero, MxCommand.ofCode_code, ready,
        Bool.false_eq_true, ↓reduceIte, decoded]
      rw [show 1 + MxCommand.read.lenAddr + offset - 4 = offset from Nat.add_sub_cancel_left ..]
    simp only [success, ↓reduceIte, bytes]
  · intro failed
    rw [if_neg success] at failed
    exact absurd failed success

/-! ## Polling -/

/-- A status read that finds the chip busy. -/
def FlashBus.SeesBusy (bus : FlashBus) (operation transfer : ℕ) : Prop :=
  bus.transferred operation transfer = .ok ∧ transfer < bus.busyFor operation

/-- Polling from a transfer on ends after `polls` reads that find the chip busy. -/
structure FlashBus.Stops (bus : FlashBus) (operation transfer polls : ℕ) : Prop where
  waits : ∀ index < polls, bus.SeesBusy operation (transfer + index)
  ends : ¬ bus.SeesBusy operation (transfer + polls)

/-- Polling ends in one way only. -/
theorem FlashBus.Stops.unique {bus : FlashBus} {operation transfer polls polls' : ℕ}
    (stops : bus.Stops operation transfer polls) (stops' : bus.Stops operation transfer polls') :
    polls = polls' := by
  rcases Nat.lt_trichotomy polls polls' with less | equal | greater
  · exact absurd (stops'.waits polls less) stops.ends
  · exact equal
  · exact absurd (stops.waits polls' greater) stops'.ends

/-- Some transfers went by. -/
def FlashWorld.ticks (world : FlashWorld) (count : ℕ) : FlashWorld :=
  { world with transfers := world.transfers + count }

/-- What waiting for the chip does. -/
structure Waited (world : FlashWorld) (status : DeviceStatus) (final : FlashWorld) : Prop where
  outcome : status = .success ∨
    status = .timeout ∧ ∃ transfer, world.bus.expired world.operations transfer = true
  polled : ∃ polls, final = world.ticks (polls + 1) ∧
    (status = .success → world.bus.Stops world.operations world.transfers polls)

theorem wp_mxWaitForFlashReady : wp mxWaitForFlashReady (Waited world) world := by
  simp only [mxWaitForFlashReady, wp_bind, wp_gets]
  apply wp_loop
    (fun _ state => ∃ polls, state = world.ticks polls ∧
      ∀ index < polls, world.bus.SeesBusy world.operations (world.transfers + index))
    (fun _ state => state.remaining)
  · rintro _ _ ⟨polls, rfl, waits⟩
    have busy_iff : (world.ticks polls).poll = .deviceBusy ↔
        world.bus.SeesBusy world.operations (world.transfers + polls) := by
      simp [FlashBus.SeesBusy, FlashWorld.busy, FlashWorld.transferred, FlashWorld.ticks]
    simp only [mxWaitForFlashReadyBody, wp_bind, wp_mxIsFlashBusy]
    by_cases busy : (world.ticks polls).poll = .deviceBusy
    · have seen := busy_iff.mp busy
      simp only [busy, ↓reduceIte, wp_bind, wp_gets]
      by_cases expired :
          (world.ticks polls).tick.bus.expired world.operations (world.transfers + polls + 1) = true
      · have up : (world.ticks polls).tick.bus.expired (world.ticks polls).tick.operations
            (world.ticks polls).tick.transfers = true := expired
        simp only [up, ↓reduceIte, wp_pure]
        exact ⟨.inr ⟨rfl, _, expired⟩, polls, rfl, by simp⟩
      · have left : (world.ticks polls).tick.bus.expired (world.ticks polls).tick.operations
            (world.ticks polls).tick.transfers = false := Bool.eq_false_of_not_eq_true expired
        simp only [left, Bool.false_eq_true, ↓reduceIte, wp_pure]
        refine ⟨⟨polls + 1, rfl, fun index before => ?_⟩, ?_⟩
        · rcases Nat.lt_succ_iff_lt_or_eq.mp before with earlier | rfl
          · exact waits index earlier
          · exact seen
        · have running := seen.2
          simp only [FlashWorld.remaining, FlashWorld.ticks, FlashWorld.tick]
          omega
    · simp only [busy, ↓reduceIte, wp_pure]
      exact ⟨.inl rfl, polls, rfl, fun _ => ⟨waits, fun seen => busy (busy_iff.mpr seen)⟩⟩
  · exact Nat.lt_succ_self _
  · exact ⟨0, rfl, by simp⟩

/-! ## One operation -/

namespace FlashWorld

/-- The chip takes the next instruction. -/
def Accepts (world : FlashWorld) : Prop :=
  world.received = true ∧ world.busy = false

/-- The array after an operation that the chip takes. -/
def operated (world : FlashWorld) (command : MxCommand) (address count : ℕ)
    (data : ℕ → UInt8) : Cells :=
  match command with
  | .pp => programPage pageSz world.cells address count data
  | .be => eraseBlock blockSz world.cells address
  | _ => world.cells

variable {command : MxCommand} {address count : ℕ} {data : ℕ → UInt8}

@[simp]
theorem perform_bus : (world.perform command address count data).bus = world.bus := by
  cases command <;> simp only [perform] <;> split_ifs <;> rfl

@[simp]
theorem after_bus : (world.after command address count data).bus = world.bus := by
  rw [after]
  split_ifs
  · exact perform_bus
  · rfl

@[simp]
theorem enable_bus : world.enable.bus = world.bus :=
  after_bus

theorem enable_accepts (accepts : world.Accepts) :
    world.enable = { world.tick with writeEnabled := true } := by
  obtain ⟨received, ready⟩ := accepts
  simp [enable, after, perform, received, ready]

theorem enable_refuses (refuses : ¬ world.Accepts) : world.enable = world.tick := by
  rw [enable, after]
  by_cases received : world.received = true
  · have busy : world.busy = true := by
      by_contra ready
      exact refuses ⟨received, by simpa using ready⟩
    simp [received, perform, busy]
  · rw [if_neg received]

/-- An operation that the chip takes starts at once. -/
theorem after_enable_accepts (operation : command = .pp ∨ command = .be)
    (accepts : world.Accepts) (success : world.enable.status = .success) :
    world.enable.after command address count data =
      world.enable.operate (world.operated command address count data) := by
  have received := received_of_success success
  have ready : world.enable.busy = false := by
    have before := accepts.2
    rw [enable_accepts accepts]
    simp only [busy, decide_eq_false_iff_not] at before ⊢
    exact fun later => before (Nat.lt_of_succ_lt later)
  have enabled : world.enable.writeEnabled = true := by
    rw [enable_accepts accepts]
  have cells : world.enable.cells = world.cells := by
    rw [enable_accepts accepts]
    rfl
  rcases operation with rfl | rfl
  · simp [after, perform, received, ready, enabled, operated, cells]
  · simp [after, perform, received, ready, enabled, operated, cells]

/-- Without a write enable an operation has no effect. -/
theorem after_enable_refuses (operation : command = .pp ∨ command = .be)
    (refuses : ¬ world.Accepts) (disabled : world.writeEnabled = false) :
    world.enable.after command address count data = world.tick.tick := by
  rw [enable_refuses refuses]
  rcases operation with rfl | rfl
  · simp [after, perform, disabled]
  · simp [after, perform, disabled]

end FlashWorld

/-- What a write enable and an operation do if both report success: the chip
takes both of them or none. -/
structure Operated (world : FlashWorld) (cells : Cells) (final : FlashWorld) : Prop where
  bus : final.bus = world.bus
  disabled : final.writeEnabled = false
  accepted : world.Accepts → final.cells = cells ∧ final.operations = world.operations + 1 ∧
    ∃ polls, final.transfers = polls + 1 ∧ world.bus.Stops (world.operations + 1) 0 polls
  refused : ¬ world.Accepts → final.cells = world.cells

section Operation

variable {command : MxCommand} {address count : ℕ} {data : ℕ → UInt8}

/-- Wait for an operation of which the transfer succeeded. -/
theorem wp_waitForOperation (operation : command = .pp ∨ command = .be)
    (ready : world.writeEnabled = false ∨ world.Accepts)
    (sent : world.enable.status = .success) :
    wp mxWaitForFlashReady (fun status final =>
      (status = .success → Operated world (world.operated command address count data) final) ∧
        (world.bus.Works → status = .success))
      (world.enable.after command address count data) := by
  refine wp_mono wp_mxWaitForFlashReady fun status final waited => ⟨fun success => ?_, ?_⟩
  · obtain ⟨polls, final_eq, stops⟩ := waited.polled
    by_cases accepts : world.Accepts
    · rw [FlashWorld.after_enable_accepts operation accepts sent,
        FlashWorld.enable_accepts accepts] at final_eq stops
      subst final
      exact ⟨rfl, rfl, fun _ => ⟨rfl, rfl, polls, Nat.zero_add _, stops success⟩,
        fun refuses => absurd accepts refuses⟩
    · have disabled := ready.resolve_right accepts
      rw [FlashWorld.after_enable_refuses operation accepts disabled] at final_eq
      subst final
      exact ⟨rfl, disabled, fun accepts' => absurd accepts' accepts, fun _ => rfl⟩
  · intro works
    rcases waited.outcome with success | ⟨-, transfer, expired⟩
    · exact success
    · rw [FlashWorld.after_bus, FlashWorld.enable_bus, works.patient] at expired
      cases expired

/-- Program a page after a write enable. -/
theorem wp_mxProgramAndWait (addr : ℕ) (data : ℕ → UInt8)
    (ready : world.writeEnabled = false ∨ world.Accepts) (fits : count ≤ pageSz) :
    wp (mxProgramAndWait addr count data) (fun status final =>
      (status = .success →
        Operated world (programPage pageSz world.cells (addr % chipSz) count data) final) ∧
          (world.bus.Works → status = .success)) world.enable := by
  have buffered : 1 + MxCommand.pp.lenAddr + count ≤ extraSz + rdwrBufSz := by
    simp only [MxCommand.lenAddr, extraSz, rdwrBufSz, pageSz] at fits ⊢
    omega
  rw [mxProgramAndWait, wp_bind, wp_mxSpiFlashWrite _ _ _ _ _ buffered]
  by_cases sent : world.enable.status = .success
  · simp only [sent, ne_eq, not_true_eq_false, ↓reduceIte]
    exact wp_waitForOperation (.inl rfl) ready sent
  · simp only [sent, ne_eq, not_false_eq_true, ↓reduceIte, wp_pure, false_implies, true_and]
    exact fun works => sent (FlashWorld.status_of_works (by simpa using works))

end Operation

end GenericNode.Flash
