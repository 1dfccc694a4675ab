import GenericNode.Library.Bytes
import GenericNode.Library.Program
import GenericNode.SecureElement.Keys

/-!
# The ATECC608A and the memory of its host

The device maps a slot and a block to a key.  Each command succeeds or fails
as the environment decides; a failing command leaves its output unchanged.
Reads and writes of the host's buffers are recorded.
-/

namespace GenericNode.SecureElement

open GenericNode.Library
open GenericNode.Library.Prog

/-- What the driver relies on of the device and its library: AES-CMAC, AES,
the key derivation, and the slot a derived key is stored in, where block 0
holds the key. -/
structure Atecc608 (κ : Type) where
  cmac : κ → List UInt8 → Block
  aes : κ → Block → Block
  kdf : κ → Block → κ
  store : κ → (ℕ → κ) → ℕ → κ
  store_zero : ∀ key slot, store key slot 0 = key

/-- A place in a buffer. -/
structure Pointer (β : Type) where
  object : β
  offset : ℕ

/-- The place some bytes further. -/
def Pointer.add {β : Type} (pointer : Pointer β) (bytes : ℕ) : Pointer β where
  object := pointer.object
  offset := pointer.offset + bytes

/-- The keys of the device with the record of their uses, the buffers of the
host with the record of their accesses, and the outcomes of the commands with
the number of commands issued so far. -/
structure SeWorld (β : Type) (κ : Type) where
  keys : ℕ → ℕ → κ
  used : List κ
  memory : β → ℕ → UInt8
  touched : List (β × ℕ)
  succeeds : ℕ → Bool
  issued : ℕ

variable {β : Type} {κ : Type}

/-! ## Memory -/

/-- The byte at an index of a pointer. -/
def SeWorld.byteAt (world : SeWorld β κ) (pointer : Pointer β) (index : ℕ) : UInt8 :=
  world.memory pointer.object (pointer.offset + index)

/-- The bytes at a pointer. -/
def SeWorld.bytesAt (world : SeWorld β κ) (pointer : Pointer β) (size : ℕ) : List UInt8 :=
  (List.range size).map (world.byteAt pointer)

/-- Record an access. -/
def SeWorld.touch (world : SeWorld β κ) (pointer : Pointer β) (index : ℕ) : SeWorld β κ :=
  { world with touched := (pointer.object, pointer.offset + index) :: world.touched }

/-- The world with one byte changed. -/
def SeWorld.poke [DecidableEq β] (world : SeWorld β κ) (pointer : Pointer β) (index : ℕ)
    (byte : UInt8) : SeWorld β κ :=
  { world with
    memory := fun object place =>
      if object = pointer.object ∧ place = pointer.offset + index then byte
      else world.memory object place }

/-- The world after the bytes at a pointer are read. -/
def SeWorld.touchAll (world : SeWorld β κ) (pointer : Pointer β) (size : ℕ) : SeWorld β κ :=
  { world with
    touched := (List.range size).map (fun index => (pointer.object, pointer.offset + index)) ++
      world.touched }

/-- The world in which the device has used a key. -/
def SeWorld.use (world : SeWorld β κ) (keySlot keyBlock : ℕ) : SeWorld β κ :=
  { world with used := world.keys keySlot keyBlock :: world.used }

/-- The world after a command. -/
def SeWorld.issue (world : SeWorld β κ) : SeWorld β κ :=
  { world with issued := world.issued + 1 }

theorem byteAt_add (world : SeWorld β κ) (pointer : Pointer β) (skipped index : ℕ) :
    world.byteAt (pointer.add skipped) index = world.byteAt pointer (skipped + index) := by
  simp only [SeWorld.byteAt, Pointer.add, Nat.add_assoc]

section Frame

variable (world : SeWorld β κ) (pointer other : Pointer β) (size count : ℕ)

@[simp]
theorem keys_issue : world.issue.keys = world.keys :=
  rfl

@[simp]
theorem succeeds_issue : world.issue.succeeds = world.succeeds :=
  rfl

@[simp]
theorem issued_issue : world.issue.issued = world.issued + 1 :=
  rfl

@[simp]
theorem bytesAt_issue : world.issue.bytesAt pointer size = world.bytesAt pointer size :=
  rfl

@[simp]
theorem keys_use (keySlot keyBlock : ℕ) : (world.use keySlot keyBlock).keys = world.keys :=
  rfl

@[simp]
theorem succeeds_use (keySlot keyBlock : ℕ) :
    (world.use keySlot keyBlock).succeeds = world.succeeds :=
  rfl

@[simp]
theorem issued_use (keySlot keyBlock : ℕ) :
    (world.use keySlot keyBlock).issued = world.issued :=
  rfl

@[simp]
theorem bytesAt_use (keySlot keyBlock : ℕ) :
    (world.use keySlot keyBlock).bytesAt pointer size = world.bytesAt pointer size :=
  rfl

@[simp]
theorem keys_touchAll : (world.touchAll pointer size).keys = world.keys :=
  rfl

@[simp]
theorem succeeds_touchAll : (world.touchAll pointer size).succeeds = world.succeeds :=
  rfl

@[simp]
theorem issued_touchAll : (world.touchAll pointer size).issued = world.issued :=
  rfl

@[simp]
theorem bytesAt_touchAll :
    (world.touchAll pointer size).bytesAt other count = world.bytesAt other count :=
  rfl

@[simp]
theorem byteAt_touch (index place : ℕ) :
    (world.touch pointer index).byteAt other place = world.byteAt other place :=
  rfl

end Frame

/-- `pointer[index]`. -/
def load (pointer : Pointer β) (index : ℕ) : Prog (SeWorld β κ) UInt8 := do
  modify fun world => world.touch pointer index
  gets fun world => world.byteAt pointer index

/-- `pointer[index] = byte`. -/
def store [DecidableEq β] (pointer : Pointer β) (index : ℕ) (byte : UInt8) :
    Prog (SeWorld β κ) Unit :=
  modify fun world => (world.touch pointer index).poke pointer index byte

/-- The bytes a library function reads from its argument. -/
def loadBytes (pointer : Pointer β) (size : ℕ) : Prog (SeWorld β κ) (List UInt8) := do
  modify fun world => world.touchAll pointer size
  gets fun world => world.bytesAt pointer size

/-- `memcpy1`. -/
def memcpy1 [DecidableEq β] (dst src : Pointer β) (size : ℕ) : Prog (SeWorld β κ) Unit :=
  forRange 0 size () fun index _ => do
    let byte ← load src index
    store dst index byte

/-! ## Commands -/

/-- Issue a command: `true` stands for `ATCA_SUCCESS`. -/
def command : Prog (SeWorld β κ) Bool := do
  let outcome ← gets fun world => world.succeeds world.issued
  modify SeWorld.issue
  pure outcome

/-- Issue a command that uses a key. -/
def keyCommand (keySlot keyBlock : ℕ) : Prog (SeWorld β κ) Bool := do
  modify fun world => world.use keySlot keyBlock
  command

/-- `atca_aes_cmac_ctx_t`. -/
structure AesCmacCtx where
  keySlot : ℕ
  keyBlock : ℕ
  message : List UInt8

/-- `atcab_aes_cmac_init`.  A failing command sets up no context. -/
def atcabAesCmacInit (keySlot keyBlock : ℕ) : Prog (SeWorld β κ) (Option AesCmacCtx) := do
  if ← keyCommand keySlot keyBlock then
    pure (some ⟨keySlot, keyBlock, []⟩)
  else
    pure none

/-- `atcab_aes_cmac_update`. -/
def atcabAesCmacUpdate (ctx : AesCmacCtx) (data : Pointer β) (size : ℕ) :
    Prog (SeWorld β κ) (Bool × AesCmacCtx) := do
  let bytes ← loadBytes data size
  if ← keyCommand ctx.keySlot ctx.keyBlock then
    pure (true, { ctx with message := ctx.message ++ bytes })
  else
    pure (false, ctx)

/-- `atcab_aes_cmac_finish`. -/
def atcabAesCmacFinish (atecc : Atecc608 κ) (ctx : AesCmacCtx) (cmac : Block) :
    Prog (SeWorld β κ) (Bool × Block) := do
  let key ← gets fun world => world.keys ctx.keySlot ctx.keyBlock
  if ← keyCommand ctx.keySlot ctx.keyBlock then
    pure (true, atecc.cmac key ctx.message)
  else
    pure (false, cmac)

/-- `atcab_aes_encrypt`. -/
def atcabAesEncrypt [DecidableEq β] (atecc : Atecc608 κ) (keySlot keyBlock : ℕ)
    (plaintext ciphertext : Pointer β) : Prog (SeWorld β κ) Bool := do
  let block ← gets fun world => fun index : Fin 16 => world.byteAt plaintext index
  let key ← gets fun world => world.keys keySlot keyBlock
  let _ ← loadBytes plaintext 16
  if ← keyCommand keySlot keyBlock then
    forRange 0 16 () fun index _ =>
      store ciphertext index (byteOf (atecc.aes key block) index)
    pure true
  else
    pure false

/-- `atcab_kdf` in AES mode, from a block of the source slot into the target
slot. -/
def atcabKdf (atecc : Atecc608 κ) (sourceTargetIds detail : ℕ) (input : Pointer β) :
    Prog (SeWorld β κ) Bool := do
  let block ← gets fun world => fun index : Fin 16 => world.byteAt input index
  let _ ← loadBytes input 16
  let source := sourceTargetIds % 2 ^ 8
  let target := sourceTargetIds / 2 ^ 8
  if ← command then
    modify fun world =>
      { world with
        keys := fun slot =>
          if slot = target then
            atecc.store (atecc.kdf (world.keys source detail) block) (world.keys target)
          else
            world.keys slot }
    pure true
  else
    pure false

/-! ## What a command does -/

@[simp]
theorem wp_command (post : Bool → SeWorld β κ → Prop) (world : SeWorld β κ) :
    wp command post world ↔
      post (world.succeeds world.issued) world.issue := by
  simp [command]

@[simp]
theorem wp_keyCommand (keySlot keyBlock : ℕ) (post : Bool → SeWorld β κ → Prop)
    (world : SeWorld β κ) :
    wp (keyCommand keySlot keyBlock) post world ↔
      post (world.succeeds world.issued) (world.use keySlot keyBlock).issue := by
  simp [keyCommand]

@[simp]
theorem wp_loadBytes (pointer : Pointer β) (size : ℕ)
    (post : List UInt8 → SeWorld β κ → Prop) (world : SeWorld β κ) :
    wp (loadBytes pointer size) post world ↔
      post (world.bytesAt pointer size) (world.touchAll pointer size) := by
  simp only [loadBytes, wp_bind, wp_modify, wp_gets]
  exact Iff.rfl

@[simp]
theorem wp_load (pointer : Pointer β) (index : ℕ) (post : UInt8 → SeWorld β κ → Prop)
    (world : SeWorld β κ) :
    wp (load pointer index) post world ↔
      post (world.byteAt pointer index) (world.touch pointer index) := by
  simp [load, SeWorld.byteAt, SeWorld.touch]

@[simp]
theorem wp_store [DecidableEq β] (pointer : Pointer β) (index : ℕ) (byte : UInt8)
    (post : Unit → SeWorld β κ → Prop) (world : SeWorld β κ) :
    wp (store pointer index byte) post world ↔
      post () ((world.touch pointer index).poke pointer index byte) := by
  simp [store]

@[simp]
theorem wp_atcabAesCmacInit (keySlot keyBlock : ℕ) (post : Option AesCmacCtx → SeWorld β κ → Prop)
    (world : SeWorld β κ) :
    wp (atcabAesCmacInit keySlot keyBlock) post world ↔
      post (if world.succeeds world.issued then some ⟨keySlot, keyBlock, []⟩ else none)
        (world.use keySlot keyBlock).issue := by
  simp only [atcabAesCmacInit, wp_bind, wp_keyCommand]
  cases world.succeeds world.issued <;> simp

@[simp]
theorem wp_atcabAesCmacUpdate (ctx : AesCmacCtx) (data : Pointer β) (size : ℕ)
    (post : Bool × AesCmacCtx → SeWorld β κ → Prop) (world : SeWorld β κ) :
    wp (atcabAesCmacUpdate ctx data size) post world ↔
      post (world.succeeds world.issued,
        { ctx with
          message := if world.succeeds world.issued then ctx.message ++ world.bytesAt data size
            else ctx.message }) ((world.touchAll data size).use ctx.keySlot ctx.keyBlock).issue := by
  simp only [atcabAesCmacUpdate, wp_bind, wp_loadBytes, wp_keyCommand, wp_ite, wp_pure,
    succeeds_touchAll, issued_touchAll]
  by_cases outcome : world.succeeds world.issued = true
  · simp only [outcome, ↓reduceIte]
  · simp only [outcome, Bool.false_eq_true, ↓reduceIte]

@[simp]
theorem wp_atcabAesCmacFinish (atecc : Atecc608 κ) (ctx : AesCmacCtx) (cmac : Block)
    (post : Bool × Block → SeWorld β κ → Prop) (world : SeWorld β κ) :
    wp (atcabAesCmacFinish atecc ctx cmac) post world ↔
      post (world.succeeds world.issued,
        if world.succeeds world.issued then
          atecc.cmac (world.keys ctx.keySlot ctx.keyBlock) ctx.message
        else cmac) (world.use ctx.keySlot ctx.keyBlock).issue := by
  simp only [atcabAesCmacFinish, wp_bind, wp_gets, wp_keyCommand]
  cases world.succeeds world.issued <;> simp

/-- The commands from the next one on, `count` of them, succeed. -/
def SeWorld.Succeed (world : SeWorld β κ) (count : ℕ) : Prop :=
  ∀ index < count, world.succeeds (world.issued + index) = true

instance (world : SeWorld β κ) (count : ℕ) : Decidable (world.Succeed count) :=
  inferInstanceAs (Decidable (∀ index < count, _))

/-- Every command issued between two worlds succeeded. -/
def SeWorld.EveryCommandSucceeded (world final : SeWorld β κ) : Prop :=
  ∀ index, world.issued ≤ index → index < final.issued → world.succeeds index = true

/-- What no CMAC or encryption changes: the keys and the outcomes to come. -/
structure SameDevice (world final : SeWorld β κ) : Prop where
  keys : final.keys = world.keys
  succeeds : final.succeeds = world.succeeds

/-- What no CMAC changes: the keys, the buffers and the outcomes to come. -/
structure SameBuffers (world final : SeWorld β κ) : Prop extends SameDevice world final where
  memory : final.memory = world.memory

theorem SameBuffers.byteAt {world final : SeWorld β κ} (same : SameBuffers world final)
    (pointer : Pointer β) : final.byteAt pointer = world.byteAt pointer := by
  funext index
  simp only [SeWorld.byteAt, same.memory]

theorem SameBuffers.bytesAt {world final : SeWorld β κ} (same : SameBuffers world final)
    (pointer : Pointer β) (size : ℕ) :
    final.bytesAt pointer size = world.bytesAt pointer size := by
  simp only [SeWorld.bytesAt, same.byteAt]

end GenericNode.SecureElement
