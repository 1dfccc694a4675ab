import GenericNode.Library.Blocks
import GenericNode.Library.Wire

/-!
# AES-CMAC over a block cipher

The code of a message under a permutation of blocks: the message is cut into
blocks of 16 bytes, the last block is masked with a subkey, and the blocks are
chained.  The subkeys are multiples of `encrypt 0` in the field of 2^128
elements, whose elements are the big-endian numbers of the blocks.
-/

namespace GenericNode.Library

/-! ## Blocks -/

/-- The exclusive or of two blocks. -/
def xorBlock (first second : Block) : Block :=
  fun index => first index ^^^ second index

/-- The block of zeros. -/
def zeroBlock : Block :=
  fun _ => 0

/-- The number of a block, most significant byte first. -/
def blockNat (block : Block) : ℕ :=
  bigEndian (blockBytes block)

/-- Numbers of as many bytes are different when the bytes are. -/
theorem bigEndian_injective {first second : List UInt8} (same : first.length = second.length)
    (equal : bigEndian first = bigEndian second) : first = second := by
  induction first generalizing second with
  | nil => exact (List.length_eq_zero_iff.mp same.symm).symm
  | cons byte bytes ih =>
      cases second with
      | nil => simp at same
      | cons byte' bytes' =>
          have lengths : bytes.length = bytes'.length := by simpa using same
          have low := bigEndian_lt bytes
          have low' := bigEndian_lt bytes'
          rw [← lengths] at low'
          rw [bigEndian_cons, bigEndian_cons, ← lengths] at equal
          have power_pos : 0 < 256 ^ bytes.length := by positivity
          have head : byte.toNat = byte'.toNat := by
            have quotient := congrArg (· / 256 ^ bytes.length) equal
            simp only [Nat.mul_comm _ (256 ^ bytes.length), Nat.mul_add_div power_pos,
              Nat.div_eq_of_lt low, Nat.div_eq_of_lt low', add_zero] at quotient
            exact quotient
          have tail : bigEndian bytes = bigEndian bytes' := by
            rw [head] at equal
            omega
          rw [UInt8.toNat_inj.mp head, ih lengths tail]

theorem blockNat_injective {first second : Block} (equal : blockNat first = blockNat second) :
    first = second := by
  have bytes := bigEndian_injective (by simp) equal
  rw [← blockOf_blockBytes first, bytes, blockOf_blockBytes]

/-- Reading bytes from the other end. -/
theorem bigEndian_reverse (bytes : List UInt8) : bigEndian bytes.reverse = leNat bytes := by
  induction bytes with
  | nil => rfl
  | cons byte bytes ih =>
      rw [List.reverse_cons, bigEndian, List.foldl_append, ← bigEndian, ih, leNat]
      simp only [List.foldl_cons, List.foldl_nil]
      ring

/-- The block of a number. -/
def natBlock (number : ℕ) : Block :=
  blockOf (leBytes 16 number).reverse

theorem blockNat_natBlock (number : ℕ) : blockNat (natBlock number) = number % 2 ^ 128 := by
  rw [blockNat, natBlock, blockBytes_blockOf (by simp), bigEndian_reverse, leNat_leBytes]
  norm_num

/-! ## Doubling -/

/-- The double of an element of the field of 2^128 elements. -/
def gfDouble (number : ℕ) : ℕ :=
  if number < 2 ^ 127 then 2 * number else (2 * number % 2 ^ 128) ^^^ 0x87

theorem gfDouble_lt {number : ℕ} : gfDouble number < 2 ^ 128 := by
  rw [gfDouble]
  split
  · omega
  · exact Nat.xor_lt_two_pow (Nat.mod_lt _ (by norm_num)) (by norm_num)

/-- The double of a block. -/
def doubleBlock (block : Block) : Block :=
  natBlock (gfDouble (blockNat block))

/-- The double of a block is known by its number. -/
theorem eq_doubleBlock {block double : Block} (number : blockNat double = gfDouble (blockNat block)) :
    double = doubleBlock block := by
  apply blockNat_injective
  rw [number, doubleBlock, blockNat_natBlock, Nat.mod_eq_of_lt gfDouble_lt]

/-! ## The code of a message -/

/-- The chain of blocks from a start value on. -/
def cbc (encrypt : Block → Block) (start : Block) (blocks : List Block) : Block :=
  blocks.foldl (fun chain block => encrypt (xorBlock block chain)) start

theorem cbc_concat (encrypt : Block → Block) (start block : Block) (blocks : List Block) :
    cbc encrypt start (blocks ++ [block]) =
      encrypt (xorBlock block (cbc encrypt start blocks)) := by
  simp [cbc]

/-- The whole blocks of a message, `count` of them. -/
def blocksOf (message : List UInt8) (count : ℕ) : List Block :=
  (List.range count).map fun index => blockOf (message.drop (16 * index))

theorem blocksOf_succ (message : List UInt8) (count : ℕ) :
    blocksOf message (count + 1) =
      blocksOf message count ++ [blockOf (message.drop (16 * count))] := by
  simp [blocksOf, List.range_succ]

/-- The blocks of a message stay when it goes on. -/
theorem blocksOf_append (message more : List UInt8) {count : ℕ}
    (inside : 16 * count ≤ message.length) :
    blocksOf (message ++ more) count = blocksOf message count := by
  apply List.map_congr_left
  intro index member
  have index_lt := List.mem_range.mp member
  rw [List.drop_append_of_le_length (by omega)]
  exact blockOf_append (by rw [List.length_drop]; omega) more

/-- The number of blocks before the last one. -/
def cmacCount (message : List UInt8) : ℕ :=
  (message.length - 1) / 16

/-- The last block of a message, masked with the subkey of its kind. -/
def cmacLast (subkey : Block) (last : List UInt8) : Block :=
  if last.length = 16 then xorBlock subkey (blockOf last)
  else xorBlock (doubleBlock subkey) (blockOf (last ++ [0x80]))

/-- The CMAC of a message. -/
def cmac (encrypt : Block → Block) (message : List UInt8) : Block :=
  let chain := cbc encrypt zeroBlock (blocksOf message (cmacCount message))
  let last := message.drop (16 * cmacCount message)
  encrypt (xorBlock (cmacLast (doubleBlock (encrypt zeroBlock)) last) chain)

end GenericNode.Library
