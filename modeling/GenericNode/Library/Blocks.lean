import GenericNode.Library.Bytes

/-!
# Lists of bytes as blocks

A block and its 16 bytes, and the encryption of a list of bytes block by
block.
-/

namespace GenericNode.Library

/-- The first 16 bytes of a list, followed by zeros. -/
def blockOf (bytes : List UInt8) : Block :=
  fun index => bytes.getD index 0

/-- The bytes of a block. -/
def blockBytes (block : Block) : List UInt8 :=
  List.ofFn block

@[simp]
theorem length_blockBytes (block : Block) : (blockBytes block).length = 16 :=
  List.length_ofFn

@[simp]
theorem blockOf_blockBytes (block : Block) : blockOf (blockBytes block) = block := by
  funext index
  rw [blockOf, blockBytes, List.getD_eq_getElem?_getD, List.getElem?_ofFn, dif_pos index.isLt]
  rfl

theorem blockBytes_blockOf {bytes : List UInt8} (whole : bytes.length = 16) :
    blockBytes (blockOf bytes) = bytes := by
  apply List.ext_getElem (by simp [whole])
  intro index inside inside'
  simp only [blockBytes, List.getElem_ofFn, blockOf, List.getD_eq_getElem?_getD,
    List.getElem?_eq_getElem inside', Option.getD_some]

/-- Only the first 16 bytes matter. -/
theorem blockOf_append {bytes : List UInt8} (whole : 16 ≤ bytes.length) (more : List UInt8) :
    blockOf (bytes ++ more) = blockOf bytes := by
  funext index
  have index_lt := index.isLt
  simp only [blockOf, List.getD_eq_getElem?_getD]
  rw [List.getElem?_append_left (by omega)]

/-- The encryption of the first blocks of a list. -/
def ecbBlocks (encrypt : Block → Block) : ℕ → List UInt8 → List UInt8
  | 0, _ => []
  | count + 1, bytes =>
      blockBytes (encrypt (blockOf bytes)) ++ ecbBlocks encrypt count (bytes.drop 16)

/-- The encryption of the whole blocks of a list. -/
def ecbBytes (encrypt : Block → Block) (bytes : List UInt8) : List UInt8 :=
  ecbBlocks encrypt (bytes.length / 16) bytes

variable {encrypt decrypt : Block → Block}

theorem length_ecbBlocks (encrypt : Block → Block) (count : ℕ) (bytes : List UInt8) :
    (ecbBlocks encrypt count bytes).length = 16 * count := by
  induction count generalizing bytes with
  | zero => rfl
  | succ count ih =>
      rw [ecbBlocks, List.length_append, length_blockBytes, ih]
      ring

theorem length_ecbBytes (encrypt : Block → Block) {bytes : List UInt8}
    (whole : bytes.length % 16 = 0) : (ecbBytes encrypt bytes).length = bytes.length := by
  rw [ecbBytes, length_ecbBlocks]
  omega

/-- Encrypting blocks and then the inverse gives the blocks back. -/
theorem ecbBlocks_ecbBlocks (inverse : ∀ block, encrypt (decrypt block) = block) {count : ℕ}
    {bytes : List UInt8} (whole : bytes.length = 16 * count) :
    ecbBlocks encrypt count (ecbBlocks decrypt count bytes) = bytes := by
  induction count generalizing bytes with
  | zero => exact (List.length_eq_zero_iff.mp (by omega)).symm
  | succ count ih =>
      have head_length : (bytes.take 16).length = 16 := List.length_take_of_le (by omega)
      have tail_length : (bytes.drop 16).length = 16 * count := by
        rw [List.length_drop]
        omega
      have head : blockOf bytes = blockOf (bytes.take 16) := by
        conv_lhs => rw [← List.take_append_drop 16 bytes]
        exact blockOf_append head_length.ge _
      rw [ecbBlocks, ecbBlocks, blockOf_append (by rw [length_blockBytes]), blockOf_blockBytes,
        List.drop_left' (length_blockBytes _), ih tail_length, inverse, head,
        blockBytes_blockOf head_length, List.take_append_drop]

theorem ecbBytes_ecbBytes (inverse : ∀ block, encrypt (decrypt block) = block)
    {bytes : List UInt8} (whole : bytes.length % 16 = 0) :
    ecbBytes encrypt (ecbBytes decrypt bytes) = bytes := by
  have count_eq := length_ecbBytes decrypt whole
  rw [ecbBytes, count_eq]
  exact ecbBlocks_ecbBlocks inverse (by omega)

/-- The encryption of the blocks before a place and one more. -/
theorem ecbBlocks_succ (encrypt : Block → Block) (count : ℕ) (bytes : List UInt8) :
    ecbBlocks encrypt (count + 1) bytes = ecbBlocks encrypt count bytes ++
      blockBytes (encrypt (blockOf (bytes.drop (16 * count)))) := by
  induction count generalizing bytes with
  | zero => simp [ecbBlocks]
  | succ count ih =>
      rw [ecbBlocks, ih, ecbBlocks, List.append_assoc, List.drop_drop,
        show 16 + 16 * count = 16 * (count + 1) by ring]

end GenericNode.Library
