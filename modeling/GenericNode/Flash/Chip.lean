import GenericNode.Library.Program
import GenericNode.Library.NorFlash

/-!
# The external flash

The MX25R1635F answers one instruction a transfer.  Instructions that reach it
while it programs or erases are ignored, and so are programs and erases that do
not follow a write enable.  The bus decides, for each transfer, the status that
the driver sees and whether the chip received the instruction.
-/

namespace GenericNode.Flash

open GenericNode.Library

/-- `PageSz` of the part, in bytes. -/
def pageSz : ℕ := 256

/-- `BlockSz` of the part, in bytes. -/
def blockSz : ℕ := 65536

/-- `ChipSz` of the part: 32 blocks. -/
def chipSz : ℕ := blockSz * 32

/-- The instructions that the driver sends. -/
inductive MxCommand where
  | wren | pp | be | read | rdsr
deriving DecidableEq, Repr

/-- The instruction byte. -/
def MxCommand.code : MxCommand → UInt8
  | .wren => 0x06
  | .pp => 0x02
  | .be => 0xD8
  | .read => 0x03
  | .rdsr => 0x05

/-- `LenAddr` as `MxSetAddrLen` chooses it in SPI mode with 3-byte addresses. -/
def MxCommand.lenAddr : MxCommand → ℕ
  | .wren => 0
  | .pp => 3
  | .be => 3
  | .read => 3
  | .rdsr => 0

/-- The instruction with a given byte. -/
def MxCommand.ofCode (code : UInt8) : Option MxCommand :=
  [.wren, .pp, .be, .read, .rdsr].find? fun command => command.code = code

@[simp]
theorem MxCommand.ofCode_code (command : MxCommand) :
    MxCommand.ofCode command.code = some command := by
  cases command <;> decide

/-- `HAL_StatusTypeDef`. -/
inductive HalStatus where
  | ok | error | busy | timeout
deriving DecidableEq, Repr

/-- The surroundings of the chip.  A transfer is named by the operations that
the chip started before it and by its number since the last of them. -/
structure FlashBus where
  transferred : ℕ → ℕ → HalStatus
  received : ℕ → ℕ → Bool
  received_of_ok : ∀ operation transfer,
    transferred operation transfer = .ok → received operation transfer = true
  /-- The number of transfers for which the chip stays busy after an operation. -/
  busyFor : ℕ → ℕ
  /-- Whether the driver's time is up after a status read. -/
  expired : ℕ → ℕ → Bool

/-- A bus without faults. -/
structure FlashBus.Works (bus : FlashBus) : Prop where
  transferred : ∀ operation transfer, bus.transferred operation transfer = .ok
  patient : ∀ operation transfer, bus.expired operation transfer = false

/-- The chip, with its write enable latch, and its surroundings. -/
structure FlashWorld where
  cells : Cells
  writeEnabled : Bool
  operations : ℕ
  transfers : ℕ
  bus : FlashBus

namespace FlashWorld

/-- The transfers for which the chip is still busy. -/
def remaining (world : FlashWorld) : ℕ :=
  world.bus.busyFor world.operations - world.transfers

/-- The chip is programming or erasing. -/
def busy (world : FlashWorld) : Bool :=
  world.transfers < world.bus.busyFor world.operations

/-- The status the driver sees of the next transfer. -/
def transferred (world : FlashWorld) : HalStatus :=
  world.bus.transferred world.operations world.transfers

/-- Whether the next transfer reaches the chip. -/
def received (world : FlashWorld) : Bool :=
  world.bus.received world.operations world.transfers

/-- A transfer without an effect on the array. -/
def tick (world : FlashWorld) : FlashWorld :=
  { world with transfers := world.transfers + 1 }

/-- Start an operation that leaves the given contents. -/
def operate (world : FlashWorld) (cells : Cells) : FlashWorld :=
  { world with
    cells := cells
    writeEnabled := false
    operations := world.operations + 1
    transfers := 0 }

/-- The effect of an instruction that the chip received. -/
def perform (world : FlashWorld) (command : MxCommand) (address count : ℕ)
    (data : ℕ → UInt8) : FlashWorld :=
  if world.busy then world.tick
  else
    match command with
    | .wren => { world.tick with writeEnabled := true }
    | .pp =>
        if world.writeEnabled then
          world.operate (programPage pageSz world.cells address count data)
        else world.tick
    | .be =>
        if world.writeEnabled then world.operate (eraseBlock blockSz world.cells address)
        else world.tick
    | .read => world.tick
    | .rdsr => world.tick

/-- The address bytes of an instruction; the part decodes 21 bits of them. -/
def addressOf (bytes : ℕ → UInt8) : ℕ :=
  ((bytes 1).toNat * 65536 + (bytes 2).toNat * 256 + (bytes 3).toNat) % chipSz

/-- The chip after a transfer of `count` bytes. -/
def receive (world : FlashWorld) (bytes : ℕ → UInt8) (count : ℕ) : FlashWorld :=
  match MxCommand.ofCode (bytes 0) with
  | some command =>
      if world.received then
        world.perform command (addressOf bytes) (count - 4) fun place => bytes (place + 4)
      else world.tick
  | none => world.tick

/-- Bits `WIP` and `WEL` of the status register. -/
def statusRegister (world : FlashWorld) : UInt8 :=
  (if world.busy then 1 else 0) ||| (if world.writeEnabled then 2 else 0)

/-- The bytes the chip drives during a transfer. -/
def answer (world : FlashWorld) (bytes : ℕ → UInt8) : ℕ → UInt8 := fun place =>
  match MxCommand.ofCode (bytes 0) with
  | some .rdsr => world.statusRegister
  | some .read =>
      if world.busy then erasedByte else world.cells ((addressOf bytes + (place - 4)) % chipSz)
  | _ => erasedByte

variable (world : FlashWorld)

@[simp] theorem tick_cells : world.tick.cells = world.cells := rfl
@[simp] theorem tick_bus : world.tick.bus = world.bus := rfl
@[simp] theorem tick_writeEnabled : world.tick.writeEnabled = world.writeEnabled := rfl
@[simp] theorem tick_operations : world.tick.operations = world.operations := rfl
@[simp] theorem tick_transfers : world.tick.transfers = world.transfers + 1 := rfl

variable (cells : Cells)

@[simp] theorem operate_cells : (world.operate cells).cells = cells := rfl
@[simp] theorem operate_bus : (world.operate cells).bus = world.bus := rfl
@[simp] theorem operate_writeEnabled : (world.operate cells).writeEnabled = false := rfl
@[simp] theorem operate_operations :
    (world.operate cells).operations = world.operations + 1 := rfl
@[simp] theorem operate_transfers : (world.operate cells).transfers = 0 := rfl

/-- The driver's test of the status register. -/
@[simp]
theorem statusRegister_and_wip : world.statusRegister &&& 1 = if world.busy then 1 else 0 := by
  cases busy : world.busy <;> cases enabled : world.writeEnabled <;>
    simp only [statusRegister, busy, enabled] <;> rfl

end FlashWorld

/-! ## Instructions -/

/-- The byte that `MxAddr2Cmd` stores at a place of the instruction. -/
def mxAddr2Cmd (lenAddr addr place : ℕ) : UInt8 :=
  UInt8.ofNat (addr >>> (lenAddr * 8 - place * 8))

/-- The bytes of `WriteBuffer`: command, address and data. -/
def writeBuffer (command : MxCommand) (addr : ℕ) (data : ℕ → UInt8) : ℕ → UInt8 := fun place =>
  if place = 0 then command.code
  else if place < 1 + command.lenAddr then mxAddr2Cmd command.lenAddr addr place
  else data (place - (1 + command.lenAddr))

section WriteBuffer

variable (command : MxCommand) (addr : ℕ) (data : ℕ → UInt8)

@[simp]
theorem writeBuffer_zero : writeBuffer command addr data 0 = command.code := by
  simp [writeBuffer]

variable {command}

/-- The data follow a 3-byte address. -/
theorem writeBuffer_data (addressed : command.lenAddr = 3) (place : ℕ) :
    writeBuffer command addr data (place + 4) = data place := by
  simp [writeBuffer, addressed]

/-- The chip decodes the low 21 bits of the address that was sent. -/
theorem addressOf_writeBuffer (addressed : command.lenAddr = 3) :
    FlashWorld.addressOf (writeBuffer command addr data) = addr % chipSz := by
  simp only [FlashWorld.addressOf, writeBuffer, addressed, mxAddr2Cmd, chipSz, blockSz]
  simp only [Nat.shiftRight_eq_div_pow]
  norm_num
  omega

end WriteBuffer

end GenericNode.Flash
