import GenericNode.Library.Bytes

/-!
# Counter mode

A sequence of blocks is a stream of bytes, which is added to a message.
Adding it twice gives the message back.
-/

namespace GenericNode.Library

/-- A byte of the stream of a sequence of blocks. -/
def streamByte (blocks : ℕ → Block) (index : ℕ) : UInt8 :=
  byteOf (blocks (index / 16)) index

/-- The bytes before `count` with the stream added to them. -/
def xorUpTo (blocks : ℕ → Block) (count : ℕ) (bytes : List UInt8) : List UInt8 :=
  bytes.mapIdx fun index byte => if index < count then byte ^^^ streamByte blocks index else byte

/-- A message with the stream added to it. -/
def xorStream (blocks : ℕ → Block) (bytes : List UInt8) : List UInt8 :=
  bytes.mapIdx fun index byte => byte ^^^ streamByte blocks index

variable (blocks : ℕ → Block) (bytes : List UInt8)

@[simp]
theorem length_xorUpTo (count : ℕ) : (xorUpTo blocks count bytes).length = bytes.length :=
  List.length_mapIdx

@[simp]
theorem length_xorStream : (xorStream blocks bytes).length = bytes.length :=
  List.length_mapIdx

theorem xorUpTo_zero : xorUpTo blocks 0 bytes = bytes := by
  apply List.ext_getElem (length_xorUpTo blocks bytes 0)
  intro index inside inside'
  simp [xorUpTo]

/-- The stream is added to the first bytes of a longer list. -/
theorem xorUpTo_length (after : List UInt8) :
    xorUpTo blocks bytes.length (bytes ++ after) = xorStream blocks bytes ++ after := by
  apply List.ext_getElem (by simp)
  intro index inside inside'
  simp only [xorUpTo, xorStream, List.getElem_mapIdx, List.getElem_append, List.length_mapIdx]
  split <;> simp_all

/-- Adding the stream twice gives the message back. -/
@[simp]
theorem xorStream_xorStream : xorStream blocks (xorStream blocks bytes) = bytes := by
  apply List.ext_getElem (by simp)
  intro index inside inside'
  simp only [xorStream, List.getElem_mapIdx, UInt8.xor_assoc, UInt8.xor_self, UInt8.xor_zero]

/-- The stream is added block by block. -/
theorem xorUpTo_block {start count : ℕ} (count_le : count ≤ 16) :
    ((xorUpTo blocks (16 * start) bytes).mapIdx fun index byte =>
      if 16 * start ≤ index ∧ index < 16 * start + count then
        byte ^^^ byteOf (blocks start) (index - 16 * start)
      else byte) = xorUpTo blocks (16 * start + count) bytes := by
  apply List.ext_getElem (by simp)
  intro index inside inside'
  simp only [xorUpTo, List.getElem_mapIdx]
  by_cases before : index < 16 * start
  · rw [if_neg (by omega), if_pos before, if_pos (by omega)]
  · by_cases within : index < 16 * start + count
    · have block_eq : index / 16 = start := by omega
      have place_eq : byteOf (blocks start) (index - 16 * start) = byteOf (blocks start) index := by
        rw [byteOf, byteOf]
        congr 1
        apply Fin.ext
        simp only [Fin.ofNat]
        omega
      rw [if_pos ⟨by omega, within⟩, if_neg before, if_pos within, streamByte, block_eq, place_eq]
    · rw [if_neg (by omega), if_neg before, if_neg within]

end GenericNode.Library
