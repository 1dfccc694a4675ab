import GenericNode.SecureElement.Calls

/-!
# Filling a buffer

`memcpy1` and `SecureElementAesEncrypt` fill a destination and touch nothing
else.  Their loops are followed through two relations between the worlds
before and after: the memory that was filled, and the places touched.
-/

namespace GenericNode.SecureElement

open GenericNode.Library
open GenericNode.Library.Prog

variable {β κ : Type}

/-- A place among the first `size` bytes at a pointer. -/
def InRegion (pointer : Pointer β) (size : ℕ) (access : β × ℕ) : Prop :=
  access.1 = pointer.object ∧ pointer.offset ≤ access.2 ∧ access.2 < pointer.offset + size

instance [DecidableEq β] (pointer : Pointer β) (size : ℕ) (access : β × ℕ) :
    Decidable (InRegion pointer size access) :=
  inferInstanceAs (Decidable (_ ∧ _ ∧ _))

/-- Every access since is in a region. -/
def TouchedOnly (region : β × ℕ → Prop) (world final : SeWorld β κ) : Prop :=
  ∀ access ∈ final.touched, access ∈ world.touched ∨ region access

/-- The first `size` bytes of the destination are given; the rest of the
memory is as before. -/
structure Filled [DecidableEq β] (dst : Pointer β) (bytes : ℕ → UInt8) (size : ℕ)
    (world final : SeWorld β κ) : Prop extends SameDevice world final where
  memory : ∀ object place, final.memory object place =
    if InRegion dst size (object, place) then bytes (place - dst.offset)
    else world.memory object place

namespace TouchedOnly

variable {region wider : β × ℕ → Prop} {world middle final : SeWorld β κ}

theorem refl : TouchedOnly region world world :=
  fun _ member => .inl member

theorem trans (first : TouchedOnly region world middle)
    (second : TouchedOnly region middle final) : TouchedOnly region world final := by
  intro access member
  rcases second access member with earlier | inside
  · exact first access earlier
  · exact .inr inside

theorem mono (only : TouchedOnly region world final)
    (implies : ∀ access, region access → wider access) : TouchedOnly wider world final :=
  fun access member => (only access member).imp_right (implies access)

theorem touch (only : TouchedOnly region world final) {pointer : Pointer β} {index : ℕ}
    (inside : region (pointer.object, pointer.offset + index)) :
    TouchedOnly region world (final.touch pointer index) := by
  intro access member
  rcases List.mem_cons.mp member with rfl | earlier
  · exact .inr inside
  · exact only access earlier

theorem touchAll (only : TouchedOnly region world final) {pointer : Pointer β} {size : ℕ}
    (inside : ∀ access, InRegion pointer size access → region access) :
    TouchedOnly region world (final.touchAll pointer size) := by
  intro access member
  simp only [SeWorld.touchAll, List.mem_append, List.mem_map, List.mem_range] at member
  rcases member with ⟨index, index_lt, rfl⟩ | earlier
  · exact .inr (inside _ ⟨rfl, by omega, by omega⟩)
  · exact only access earlier

end TouchedOnly

namespace Filled

variable [DecidableEq β] {dst : Pointer β} {bytes : ℕ → UInt8} {size more : ℕ}
  {world middle final : SeWorld β κ}

theorem refl : Filled dst bytes 0 world world where
  keys := rfl
  succeeds := rfl
  memory object place := by
    have empty : ¬ InRegion dst 0 (object, place) := by
      rintro ⟨-, after, before⟩
      omega
    simp [empty]

/-- Fill the destination, then the bytes that follow. -/
theorem append (first : Filled dst bytes size world middle)
    (second : Filled (dst.add size) (fun index => bytes (size + index)) more middle final) :
    Filled dst bytes (size + more) world final where
  keys := second.keys.trans first.keys
  succeeds := second.succeeds.trans first.succeeds
  memory object place := by
    rw [second.memory, first.memory]
    by_cases same : object = dst.object
    · simp only [InRegion, Pointer.add, same, true_and]
      rcases lt_or_ge place (dst.offset + size) with low | high
      · by_cases inside : dst.offset ≤ place
        · have beyond : ¬ (dst.offset + size ≤ place ∧ place < dst.offset + size + more) := by
            omega
          have within : dst.offset ≤ place ∧ place < dst.offset + (size + more) := by omega
          simp only [beyond, within, and_self, low, ↓reduceIte]
        · have beyond : ¬ dst.offset + size ≤ place := by omega
          simp only [beyond, inside, false_and, ↓reduceIte]
      · have earlier : ¬ place < dst.offset + size := by omega
        have start : dst.offset ≤ place := by omega
        simp only [high, start, earlier, true_and, and_false, ↓reduceIte, Nat.add_assoc]
        by_cases inside : place < dst.offset + (size + more)
        · simp only [inside, ↓reduceIte]
          congr 1
          omega
        · simp only [inside, ↓reduceIte]
    · simp [InRegion, Pointer.add, same]

/-- Filling only depends on the bytes that are filled in. -/
theorem congr {other : ℕ → UInt8} (filled : Filled dst bytes size world final)
    (same : ∀ index < size, bytes index = other index) : Filled dst other size world final where
  keys := filled.keys
  succeeds := filled.succeeds
  memory object place := by
    rw [filled.memory]
    split
    · rename_i inside
      obtain ⟨-, after, before⟩ := inside
      exact same _ (by omega)
    · rfl

/-- One byte. -/
theorem poke (world : SeWorld β κ) (dst : Pointer β) (index : ℕ) (byte : UInt8) :
    Filled (dst.add index) (fun _ => byte) 1 world
      ((world.touch dst index).poke dst index byte) where
  keys := rfl
  succeeds := rfl
  memory object place := by
    have region : InRegion (dst.add index) 1 (object, place) ↔
        object = dst.object ∧ place = dst.offset + index := by
      simp only [InRegion, Pointer.add]
      constructor
      · rintro ⟨same, after, before⟩
        exact ⟨same, by omega⟩
      · rintro ⟨same, rfl⟩
        exact ⟨same, by omega, by omega⟩
    simp only [SeWorld.poke, SeWorld.touch, region]

/-- A byte that was filled in. -/
theorem byteAt (filled : Filled dst bytes size world final) {index : ℕ} (inside : index < size) :
    final.byteAt dst index = bytes index := by
  have region : InRegion dst size (dst.object, dst.offset + index) :=
    ⟨rfl, by omega, by omega⟩
  simp only [SeWorld.byteAt, filled.memory, region, ↓reduceIte, Nat.add_sub_cancel_left]

/-- A byte of another buffer. -/
theorem byteAt_of_ne (filled : Filled dst bytes size world final) {pointer : Pointer β}
    (distinct : pointer.object ≠ dst.object) (index : ℕ) :
    final.byteAt pointer index = world.byteAt pointer index := by
  have outside : ¬ InRegion dst size (pointer.object, pointer.offset + index) :=
    fun inside => distinct inside.1
  simp only [SeWorld.byteAt, filled.memory, outside, ↓reduceIte]

end Filled

/-! ## The calls that fill a buffer -/

/-- A call filled a destination and touched nothing but its source and the
destination. -/
structure Transferred [DecidableEq β] (src dst : Pointer β) (bytes : ℕ → UInt8)
    (reads writes : ℕ) (world final : SeWorld β κ) : Prop where
  filled : Filled dst bytes writes world final
  touched : TouchedOnly (fun access => InRegion src reads access ∨ InRegion dst writes access)
    world final

theorem InRegion.mono {pointer : Pointer β} {size wider : ℕ} {access : β × ℕ}
    (inside : InRegion pointer size access) (le : size ≤ wider) :
    InRegion pointer wider access :=
  ⟨inside.1, inside.2.1, by have before := inside.2.2; omega⟩

theorem InRegion.of_add {pointer : Pointer β} {skipped size : ℕ} {access : β × ℕ}
    (inside : InRegion (pointer.add skipped) size access) :
    InRegion pointer (skipped + size) access := by
  obtain ⟨same, after, before⟩ := inside
  simp only [Pointer.add] at same after before
  exact ⟨same, by omega, by omega⟩

namespace Transferred

variable [DecidableEq β] {src dst : Pointer β} {bytes : ℕ → UInt8}
  {reads writes moreReads moreWrites : ℕ} {world middle final : SeWorld β κ}

theorem refl : Transferred src dst bytes 0 0 world world :=
  ⟨.refl, .refl⟩

/-- One transfer after another. -/
theorem append (first : Transferred src dst bytes reads writes world middle)
    (second : Transferred (src.add reads) (dst.add writes) (fun index => bytes (writes + index))
      moreReads moreWrites middle final) :
    Transferred src dst bytes (reads + moreReads) (writes + moreWrites) world final where
  filled := first.filled.append second.filled
  touched := by
    refine (first.touched.mono ?_).trans (second.touched.mono ?_)
    · rintro access (inside | inside)
      · exact .inl (inside.mono (by omega))
      · exact .inr (inside.mono (by omega))
    · rintro access (inside | inside)
      · exact .inl inside.of_add
      · exact .inr inside.of_add

/-- A byte that is loaded and then stored. -/
theorem byte (world : SeWorld β κ) (src dst : Pointer β) (index : ℕ) (value : UInt8) :
    Transferred (src.add index) (dst.add index) (fun _ => value) 1 1 world
      ((((world.touch src index).touch dst index)).poke dst index value) where
  filled :=
    { keys := rfl
      succeeds := rfl
      memory := (Filled.poke (world.touch src index) dst index value).memory }
  touched :=
    (TouchedOnly.refl.touch (.inl ⟨rfl, by simp [Pointer.add], by simp [Pointer.add]⟩)).touch
      (.inr ⟨rfl, by simp [Pointer.add], by simp [Pointer.add]⟩)

end Transferred

/-- `memcpy1` between two buffers copies. -/
theorem memcpy1_transferred [DecidableEq β] {src dst : Pointer β}
    (distinct : src.object ≠ dst.object) (size : ℕ) (world : SeWorld β κ) :
    wp (memcpy1 dst src size)
      (fun _ final => Transferred src dst (world.byteAt src) size size world final ∧
        final.issued = world.issued) world := by
  refine wp_forRange (fun index _ state =>
    Transferred src dst (world.byteAt src) index index world state ∧
      state.issued = world.issued) ⟨.refl, rfl⟩ ?_ ?_
  · rintro index _ state - - ⟨transferred, issued⟩
    simp only [wp_bind, wp_load, wp_store]
    refine ⟨transferred.append ?_, issued⟩
    have same : state.byteAt src index = world.byteAt src index :=
      transferred.filled.byteAt_of_ne distinct index
    have byte := Transferred.byte state src dst index (state.byteAt src index)
    rw [same] at byte ⊢
    exact ⟨byte.filled.congr fun next next_lt => by simp [Nat.lt_one_iff.mp next_lt],
      byte.touched⟩
  · rintro _ state holds
    simpa using holds

/-- A byte that is stored. -/
theorem Transferred.store [DecidableEq β] (world : SeWorld β κ) (src dst : Pointer β)
    (index : ℕ) (value : UInt8) :
    Transferred src (dst.add index) (fun _ => value) 0 1 world
      ((world.touch dst index).poke dst index value) where
  filled := .poke world dst index value
  touched := TouchedOnly.refl.touch (.inr ⟨rfl, by simp [Pointer.add], by simp [Pointer.add]⟩)

/-- A block that the device encrypts. -/
theorem atcabAesEncrypt_transferred [DecidableEq β] (atecc : Atecc608 κ)
    (keySlot keyBlock : ℕ) (plaintext ciphertext : Pointer β) {world : SeWorld β κ}
    (succeed : world.succeeds world.issued = true) :
    wp (atcabAesEncrypt atecc keySlot keyBlock plaintext ciphertext)
      (fun _ final =>
        Transferred plaintext ciphertext
            (byteOf (atecc.aes (world.keys keySlot keyBlock)
              fun place => world.byteAt plaintext place)) 16 16 world final ∧
          final.issued = world.issued + 1) world := by
  simp only [atcabAesEncrypt, wp_bind, wp_gets, wp_loadBytes, wp_keyCommand, succeeds_touchAll,
    issued_touchAll, wp_ite, succeed, ↓reduceIte, wp_pure]
  refine wp_forRange (fun index _ state =>
    Transferred plaintext ciphertext
        (byteOf (atecc.aes (world.keys keySlot keyBlock)
          fun place => world.byteAt plaintext place)) 16 index world state ∧
      state.issued = world.issued + 1) ⟨⟨?_, ?_⟩, rfl⟩ ?_ ?_
  · have unchanged : Filled ciphertext
        (byteOf (atecc.aes (world.keys keySlot keyBlock)
          fun place => world.byteAt plaintext place)) 0 world world := .refl
    exact ⟨⟨rfl, rfl⟩, unchanged.memory⟩
  · exact TouchedOnly.refl.touchAll fun access inside => .inl inside
  · rintro index _ state - - ⟨transferred, issued⟩
    simp only [wp_store]
    have stored := Transferred.store state (plaintext.add 16) ciphertext index
      (byteOf (atecc.aes (world.keys keySlot keyBlock)
        fun place => world.byteAt plaintext place) index)
    refine ⟨transferred.append ⟨stored.filled.congr fun next next_lt => ?_, stored.touched⟩,
      issued⟩
    simp [Nat.lt_one_iff.mp next_lt]
  · rintro _ state holds
    simpa using holds

/-- The buffers of a device that does not fail. -/
theorem secureElementAesEncrypt_transferred [DecidableEq β] (atecc : Atecc608 κ)
    {buffer encBuffer : Pointer β} (distinct : buffer.object ≠ encBuffer.object) {size : ℕ}
    (whole : size % 16 = 0) (small : size ≤ 2 ^ 8) {keyID : KeyIdentifier} {keyItem : KeyItem}
    (found : getKeyByID keyID = some keyItem) {world : SeWorld β κ}
    (succeed : ∀ index, world.succeeds index = true) :
    wp (secureElementAesEncrypt atecc (some buffer) size keyID (some encBuffer))
      (fun status final => status = .success ∧
        Transferred buffer encBuffer
          (ecb (atecc.aes (world.keys keyItem.keySlotNumber keyItem.keyBlockIndex))
            (world.byteAt buffer)) size size world final) world := by
  simp only [secureElementAesEncrypt, whole, ne_eq, not_true_eq_false, ↓reduceIte, found]
  -- The bytes before `size - rest` are encrypted when `rest` are left.
  refine wp_loop (fun position state =>
    position.2 ≤ size ∧ position.2 % 16 = 0 ∧ position.1 = (size - position.2) % 2 ^ 8 ∧
      Transferred buffer encBuffer
        (ecb (atecc.aes (world.keys keyItem.keySlotNumber keyItem.keyBlockIndex))
          (world.byteAt buffer)) (size - position.2) (size - position.2) world state)
    (fun position _ => position.2) ?_ _ _ _ (Nat.lt_succ_self _)
    ⟨le_refl _, whole, by simp, by simpa using .refl⟩
  rintro ⟨block, rest⟩ state ⟨rest_le, rest_whole, block_eq, transferred⟩
  by_cases finished : rest = 0
  · subst rest
    simpa using transferred
  · have block_eq' : block = size - rest := by
      simp only at rest_le rest_whole block_eq
      omega
    have outcome : state.succeeds state.issued = true := by
      rw [transferred.filled.succeeds]
      exact succeed _
    simp only [finished, not_false_eq_true, ↓reduceIte, wp_bind, wp_pure]
    refine wp_mono (atcabAesEncrypt_transferred atecc _ _ _ _ outcome)
      fun _ final encrypted => ⟨⟨by omega, by omega, by omega, ?_⟩, by omega⟩
    subst block_eq'
    have done_eq : size - (rest - 16) = size - rest + 16 := by omega
    rw [done_eq]
    refine transferred.append ⟨encrypted.1.filled.congr fun index index_lt => ?_,
      encrypted.1.touched⟩
    obtain ⟨block, block_at⟩ : ∃ block, size - rest = 16 * block :=
      ⟨(size - rest) / 16, by omega⟩
    have bytes_eq : (fun place : Fin 16 => state.byteAt (buffer.add (size - rest)) place) =
        blockAt (world.byteAt buffer) (16 * block) := by
      funext place
      rw [byteAt_add, transferred.filled.byteAt_of_ne distinct, block_at]
      rfl
    rw [bytes_eq, transferred.filled.keys, block_at, ecb_block _ _ _ index_lt]

end GenericNode.SecureElement
