import Mathlib
import GenericNode.Library.Cmac

/-!
# The streaming CMAC

`cmac.c`, with the block encryption under the key schedule as a parameter.
`AES_CMAC_Update` takes a message in pieces of any length; the context holds
the chain of the blocks before the last one, and the last block.
-/

namespace GenericNode.SoftSe

open GenericNode.Library

/-! ## The code -/

/-- `LSHIFT`. -/
def lshift (v : Block) : Block :=
  fun i => if i.val < 15 then v i <<< 1 ||| byteOf v (i.val + 1) >>> 7 else v i <<< 1

/-- `K[15] ^= 0x87`. -/
def xorLast (k : Block) : Block :=
  fun i => if i.val = 15 then k i ^^^ 0x87 else k i

/-- A subkey from the block before it. -/
def subkey (k : Block) : Block :=
  if byteOf k 0 &&& 0x80 ≠ 0 then xorLast (lshift k) else lshift k

/-- The block with the bytes of a piece from a place on. -/
def copyAt (block : Block) (start : ℕ) (bytes : List UInt8) : Block :=
  fun i => if start ≤ i.val ∧ i.val < start + bytes.length then bytes.getD (i.val - start) 0
    else block i

/-- `AES_CMAC_CTX` without the key schedule. -/
structure AesCmacCtx where
  x : Block
  mLast : Block
  mN : ℕ

/-- `AES_CMAC_Init`.  `M_last` is not initialised. -/
def aesCmacInit (mLast : Block) : AesCmacCtx where
  x := zeroBlock
  mLast := mLast
  mN := 0

variable (encrypt : Block → Block)

/-- One block into the chain: `XOR( data, ctx->X )` and the encryption. -/
def AesCmacCtx.chain (ctx : AesCmacCtx) (block : Block) : AesCmacCtx :=
  { ctx with x := encrypt (xorBlock block ctx.x) }

/-- The loop of `AES_CMAC_Update` and the copy after it.  The fuel is enough
when it is the length of the data. -/
def absorb : ℕ → AesCmacCtx → List UInt8 → AesCmacCtx
  | 0, ctx, data => { ctx with mLast := copyAt ctx.mLast 0 data, mN := data.length }
  | fuel + 1, ctx, data =>
      if 16 < data.length then
        absorb fuel (ctx.chain encrypt (blockOf data)) (data.drop 16)
      else
        { ctx with mLast := copyAt ctx.mLast 0 data, mN := data.length }

/-- `AES_CMAC_Update`. -/
def aesCmacUpdate (ctx : AesCmacCtx) (data : List UInt8) : AesCmacCtx :=
  if 0 < ctx.mN then
    let mlen := min (16 - ctx.mN) data.length
    let ctx := { ctx with
      mLast := copyAt ctx.mLast ctx.mN (data.take mlen)
      mN := ctx.mN + mlen }
    if ctx.mN < 16 ∨ data.length = mlen then ctx
    else
      absorb encrypt (data.length - mlen) (ctx.chain encrypt ctx.mLast) (data.drop mlen)
  else
    absorb encrypt data.length ctx data

/-- `AES_CMAC_Final`. -/
def aesCmacFinal (ctx : AesCmacCtx) : Block :=
  let k := subkey (encrypt zeroBlock)
  let mLast :=
    if ctx.mN = 16 then xorBlock k ctx.mLast
    else
      let padded := fun i : Fin 16 =>
        if i.val = ctx.mN then 0x80 else if ctx.mN < i.val then 0 else ctx.mLast i
      xorBlock (subkey k) padded
  encrypt (xorBlock mLast ctx.x)

/-! ## The subkeys -/

/-- The bytes of a number shifted left by one bit. -/
def shiftBytes : List UInt8 → List UInt8
  | [] => []
  | [byte] => [byte <<< 1]
  | byte :: next :: bytes => (byte <<< 1 ||| next >>> 7) :: shiftBytes (next :: bytes)

theorem blockBytes_lshift (v : Block) : blockBytes (lshift v) = shiftBytes (blockBytes v) :=
  rfl

theorem length_shiftBytes (bytes : List UInt8) : (shiftBytes bytes).length = bytes.length := by
  induction bytes with
  | nil => rfl
  | cons byte bytes ih =>
      cases bytes with
      | nil => rfl
      | cons next bytes => rw [shiftBytes, List.length_cons, ih, ← List.length_cons]

/-- A shifted byte with the top bit of the next one. -/
theorem toNat_shift (byte next : UInt8) :
    (byte <<< 1 ||| next >>> 7).toNat = 2 * byte.toNat % 256 + next.toNat / 128 := by
  have bound := next.toNat_lt
  have even : (2 * byte.toNat) % 256 = 2 ^ 1 * (byte.toNat % 128) := by omega
  rw [UInt8.toNat_or, UInt8.toNat_shiftLeft, UInt8.toNat_shiftRight]
  simp only [UInt8.toNat_ofNat, Nat.reducePow, Nat.reduceMod, Nat.shiftLeft_eq,
    Nat.shiftRight_eq_div_pow]
  rw [Nat.mul_comm byte.toNat, even, ← Nat.two_pow_add_eq_or_of_lt (by omega)]

/-- The top bit of a number is that of its first byte. -/
theorem double_bigEndian_div (byte : UInt8) (bytes : List UInt8) :
    2 * bigEndian (byte :: bytes) / 256 ^ (bytes.length + 1) = byte.toNat / 128 := by
  have low := bigEndian_lt bytes
  have bound := byte.toNat_lt
  have power : 256 ^ (bytes.length + 1) = 256 * 256 ^ bytes.length := pow_succ' _ _
  rw [bigEndian_cons, power]
  generalize 256 ^ bytes.length = unit at low ⊢
  by_cases top : byte.toNat < 128
  · rw [Nat.div_eq_of_lt top, Nat.div_eq_of_lt (by nlinarith)]
  · have one : byte.toNat / 128 = 1 := by omega
    rw [one]
    exact Nat.div_eq_of_lt_le (by nlinarith) (by nlinarith)

/-- Shifting the bytes doubles the number. -/
theorem bigEndian_shiftBytes (bytes : List UInt8) :
    bigEndian (shiftBytes bytes) = 2 * bigEndian bytes % 256 ^ bytes.length := by
  induction bytes with
  | nil => rfl
  | cons byte bytes ih =>
      cases bytes with
      | nil =>
          have shifted := toNat_shift byte 0
          simp only [UInt8.zero_shiftRight, UInt8.or_zero, UInt8.toNat_zero, Nat.zero_div,
            add_zero] at shifted
          simp [shiftBytes, bigEndian, shifted]
      | cons next bytes =>
          have carry := double_bigEndian_div next bytes
          have low := bigEndian_lt (next :: bytes)
          have split := Nat.div_add_mod (2 * bigEndian (next :: bytes)) (256 ^ (bytes.length + 1))
          rw [carry] at split
          rw [List.length_cons] at low
          rw [shiftBytes, bigEndian_cons, ih, length_shiftBytes, toNat_shift, bigEndian_cons byte]
          simp only [List.length_cons]
          rw [pow_succ' 256 (bytes.length + 1)]
          generalize bigEndian (next :: bytes) = number at low split ⊢
          generalize 256 ^ (bytes.length + 1) = unit at low split ⊢
          have whole : 2 * (byte.toNat * unit + number) =
              256 * unit * (2 * byte.toNat / 256) +
                (2 * byte.toNat % 256 * unit + 2 * number) := by
            have parts := Nat.div_add_mod (2 * byte.toNat) 256
            calc 2 * (byte.toNat * unit + number)
                = 2 * byte.toNat * unit + 2 * number := by ring
              _ = (256 * (2 * byte.toNat / 256) + 2 * byte.toNat % 256) * unit + 2 * number := by
                  rw [parts]
              _ = _ := by ring
          have small : 2 * byte.toNat % 256 * unit + 2 * number < 256 * unit := by
            have even : 2 * byte.toNat % 256 ≤ 254 := by omega
            have scaled := Nat.mul_le_mul_right unit even
            omega
          rw [whole, Nat.mul_add_mod, Nat.mod_eq_of_lt small, add_mul, add_assoc,
            Nat.mul_comm (next.toNat / 128), split]

theorem blockNat_lshift (v : Block) : blockNat (lshift v) = 2 * blockNat v % 2 ^ 128 := by
  rw [blockNat, blockBytes_lshift, bigEndian_shiftBytes, length_blockBytes, ← blockNat]
  norm_num

/-- The last byte of a number is its remainder. -/
theorem blockNat_xorLast (k : Block) : blockNat (xorLast k) = blockNat k ^^^ 0x87 := by
  have split : ∀ block : Block, blockNat block =
      2 ^ 8 * bigEndian ((blockBytes block).take 15) + (block 15).toNat := by
    intro block
    have bytes_eq : blockBytes block = (blockBytes block).take 15 ++ [block 15] := rfl
    rw [blockNat]
    conv_lhs => rw [bytes_eq]
    rw [bigEndian, List.foldl_append, ← bigEndian]
    simp only [List.foldl_cons, List.foldl_nil]
    ring
  have same : (blockBytes (xorLast k)).take 15 = (blockBytes k).take 15 := rfl
  have last : xorLast k 15 = k 15 ^^^ 0x87 := rfl
  have bound : (k 15).toNat < 2 ^ 8 := (k 15).toNat_lt
  have xor_bound : (k 15).toNat ^^^ 0x87 < 2 ^ 8 := Nat.xor_lt_two_pow bound (by norm_num)
  rw [split (xorLast k), split k, same, last, UInt8.toNat_xor,
    show (0x87 : UInt8).toNat = 0x87 from rfl]
  apply Nat.eq_of_testBit_eq
  intro bit
  rw [Nat.testBit_xor, Nat.testBit_two_pow_mul_add _ xor_bound, Nat.testBit_two_pow_mul_add _ bound]
  split
  · exact Nat.testBit_xor _ _ _
  · rename_i high
    have power : 2 ^ 8 ≤ 2 ^ bit := Nat.pow_le_pow_right (by norm_num) (by omega)
    rw [Nat.testBit_lt_two_pow (show 0x87 < 2 ^ bit by omega), Bool.xor_false]

/-- The condition on the first byte is one on the number. -/
theorem top_iff (k : Block) : byteOf k 0 &&& 0x80 ≠ 0 ↔ ¬ blockNat k < 2 ^ 127 := by
  change k 0 &&& 0x80 ≠ 0 ↔ ¬ blockNat k < 2 ^ 127
  have bytes_eq : blockBytes k = k 0 :: (blockBytes k).drop 1 := rfl
  have low := bigEndian_lt ((blockBytes k).drop 1)
  have number : blockNat k =
      (k 0).toNat * 256 ^ 15 + bigEndian ((blockBytes k).drop 1) := by
    rw [blockNat]
    conv_lhs => rw [bytes_eq]
    rw [bigEndian_cons, List.length_drop, length_blockBytes]
  have bit : k 0 &&& 0x80 ≠ 0 ↔ 128 ≤ (k 0).toNat := by
    have bound := (k 0).toNat_lt
    have masked : (k 0).toNat &&& 0x80 = ((k 0).toNat.testBit 7).toNat * 2 ^ 7 :=
      Nat.and_two_pow _ 7
    have top : (k 0).toNat.testBit 7 = decide (128 ≤ (k 0).toNat) := by
      rw [Nat.testBit_eq_decide_div_mod_eq, decide_eq_decide]
      omega
    rw [ne_eq, ← UInt8.toNat_inj, UInt8.toNat_and]
    simp only [UInt8.reduceToNat, masked, top]
    by_cases high : 128 ≤ (k 0).toNat <;> simp [high]
  rw [List.length_drop, length_blockBytes] at low
  rw [bit, number]
  norm_num at low ⊢
  omega

/-- `AES_CMAC_Final` doubles in the field. -/
theorem subkey_eq (k : Block) : subkey k = doubleBlock k := by
  apply eq_doubleBlock
  rw [subkey, gfDouble]
  by_cases top : blockNat k < 2 ^ 127
  · rw [if_neg (by rw [top_iff]; exact not_not_intro top), if_pos top, blockNat_lshift]
    exact Nat.mod_eq_of_lt (by omega)
  · rw [if_pos ((top_iff k).mpr top), if_neg top, blockNat_xorLast, blockNat_lshift]

/-! ## The chain -/

/-- A context has taken a message: the blocks before the last one are chained
and the last one is kept. -/
structure Absorbed (message : List UInt8) (ctx : AesCmacCtx) : Prop where
  mN : ctx.mN = message.length - 16 * cmacCount message
  x : ctx.x = cbc encrypt zeroBlock (blocksOf message (cmacCount message))
  mLast : ∀ i : Fin 16, i.val < ctx.mN →
    ctx.mLast i = message.getD (16 * cmacCount message + i.val) 0

theorem absorbed_init (mLast : Block) : Absorbed encrypt [] (aesCmacInit mLast) where
  mN := rfl
  x := rfl
  mLast := fun _ inside => absurd inside (Nat.not_lt_zero _)

/-- The blocks before the last one and at most one block more. -/
theorem cmacCount_eq {message : List UInt8} {count rest : ℕ}
    (length_eq : message.length = 16 * count + rest) (rest_le : rest ≤ 16)
    (rest_pos : 0 < rest ∨ count = 0) : cmacCount message = count := by
  rw [cmacCount, length_eq]
  omega

/-- The copy after the loop keeps the last block. -/
theorem keep_absorbed {message data : List UInt8} {ctx : AesCmacCtx} {count : ℕ}
    (short : data.length ≤ 16) (whole : message.length = 16 * count)
    (more : data ≠ [] ∨ message = [])
    (x : ctx.x = cbc encrypt zeroBlock (blocksOf message count)) :
    Absorbed encrypt (message ++ data)
      { ctx with mLast := copyAt ctx.mLast 0 data, mN := data.length } := by
  have length_eq : (message ++ data).length = 16 * count + data.length := by
    rw [List.length_append, whole]
  have count_eq : cmacCount (message ++ data) = count := by
    apply cmacCount_eq length_eq short
    rcases more with data_ne | rfl
    · exact .inl (List.length_pos_of_ne_nil data_ne)
    · simp only [List.length_nil] at whole
      omega
  constructor
  · rw [count_eq, length_eq, Nat.add_sub_cancel_left]
  · rw [count_eq, blocksOf_append _ _ (by omega)]
    exact x
  · intro i inside
    have inside : i.val < data.length := inside
    simp only [copyAt, Nat.zero_le, Nat.zero_add, inside, and_self, ↓reduceIte, Nat.sub_zero,
      count_eq, List.getD_eq_getElem?_getD]
    rw [List.getElem?_append_right (by omega), whole, Nat.add_sub_cancel_left]

/-- One block more in the chain. -/
theorem cbc_blocksOf_succ {message block : List UInt8} {ctx : AesCmacCtx} {count : ℕ}
    (whole : message.length = 16 * count)
    (x : ctx.x = cbc encrypt zeroBlock (blocksOf message count)) :
    (ctx.chain encrypt (blockOf block)).x =
      cbc encrypt zeroBlock (blocksOf (message ++ block) (count + 1)) := by
  rw [blocksOf_succ, blocksOf_append _ _ (by omega), ← whole, List.drop_left, cbc_concat, ← x]
  rfl

/-- The loop of `AES_CMAC_Update` goes on from whole blocks that are chained. -/
theorem absorb_absorbed {message data : List UInt8} {ctx : AesCmacCtx} {count fuel : ℕ}
    (enough : data.length ≤ 16 * fuel + 16) (whole : message.length = 16 * count)
    (more : data ≠ [] ∨ message = [])
    (x : ctx.x = cbc encrypt zeroBlock (blocksOf message count)) :
    Absorbed encrypt (message ++ data) (absorb encrypt fuel ctx data) := by
  induction fuel generalizing message data ctx count with
  | zero => exact keep_absorbed encrypt (by omega) whole more x
  | succ fuel ih =>
      rw [absorb]
      split
      · rename_i long
        have taken : (data.take 16).length = 16 := List.length_take_of_le (by omega)
        have same : blockOf data = blockOf (data.take 16) := by
          conv_lhs => rw [← List.take_append_drop 16 data]
          exact blockOf_append (by omega) _
        have next : Absorbed encrypt (message ++ data.take 16 ++ data.drop 16)
            (absorb encrypt fuel (ctx.chain encrypt (blockOf data)) (data.drop 16)) := by
          apply ih
          · rw [List.length_drop]
            omega
          · rw [List.length_append, taken, whole, Nat.mul_succ]
          · exact .inl (List.ne_nil_of_length_pos (by rw [List.length_drop]; omega))
          · rw [same]
            exact cbc_blocksOf_succ encrypt whole x
        rwa [List.append_assoc, List.take_append_drop] at next
      · exact keep_absorbed encrypt (by omega) whole more x

variable {encrypt}

namespace Absorbed

variable {message : List UInt8} {ctx : AesCmacCtx}

theorem length_eq (absorbed : Absorbed encrypt message ctx) :
    message.length = 16 * cmacCount message + ctx.mN := by
  rw [absorbed.mN, cmacCount]
  omega

theorem mN_le (absorbed : Absorbed encrypt message ctx) : ctx.mN ≤ 16 := by
  rw [absorbed.mN, cmacCount]
  omega

/-- The kept block is filled from the first bytes of a piece. -/
theorem fill (absorbed : Absorbed encrypt message ctx) (started : 0 < ctx.mN)
    {piece : List UInt8} (fits : ctx.mN + piece.length ≤ 16) :
    Absorbed encrypt (message ++ piece)
      { ctx with mLast := copyAt ctx.mLast ctx.mN piece, mN := ctx.mN + piece.length } := by
  have before := absorbed.length_eq
  have after : (message ++ piece).length =
      16 * cmacCount message + (ctx.mN + piece.length) := by
    rw [List.length_append]
    omega
  have count_eq : cmacCount (message ++ piece) = cmacCount message :=
    cmacCount_eq after fits (.inl (by omega))
  constructor
  · rw [count_eq, after, Nat.add_sub_cancel_left]
  · rw [count_eq, blocksOf_append _ _ (by omega)]
    exact absorbed.x
  · intro i inside
    have inside : i.val < ctx.mN + piece.length := inside
    rw [count_eq, List.getD_eq_getElem?_getD]
    by_cases kept : i.val < ctx.mN
    · have not_copied : ¬ (ctx.mN ≤ i.val ∧ i.val < ctx.mN + piece.length) := by omega
      rw [List.getElem?_append_left (by omega), ← List.getD_eq_getElem?_getD]
      simp only [copyAt, not_copied, ↓reduceIte]
      exact absorbed.mLast i kept
    · have copied : ctx.mN ≤ i.val ∧ i.val < ctx.mN + piece.length := by omega
      rw [List.getElem?_append_right (by omega), ← List.getD_eq_getElem?_getD]
      simp only [copyAt, copied, and_self, ↓reduceIte]
      congr 1
      omega

/-- The kept block, when it is whole. -/
theorem mLast_eq (absorbed : Absorbed encrypt message ctx) (full : ctx.mN = 16) :
    ctx.mLast = blockOf (message.drop (16 * cmacCount message)) := by
  funext i
  rw [absorbed.mLast i (by rw [full]; exact i.isLt), blockOf, List.getD_eq_getElem?_getD,
    List.getD_eq_getElem?_getD, List.getElem?_drop]

/-- A whole kept block goes into the chain before the next byte. -/
theorem chain_mLast (absorbed : Absorbed encrypt message ctx) (full : ctx.mN = 16) :
    (ctx.chain encrypt ctx.mLast).x =
      cbc encrypt zeroBlock (blocksOf message (cmacCount message + 1)) := by
  rw [blocksOf_succ, cbc_concat, ← absorbed.x, ← absorbed.mLast_eq full]
  rfl

end Absorbed

/-- `AES_CMAC_Update` takes any further piece of a message. -/
theorem aesCmacUpdate_absorbed {message : List UInt8} {ctx : AesCmacCtx} (data : List UInt8)
    (absorbed : Absorbed encrypt message ctx) :
    Absorbed encrypt (message ++ data) (aesCmacUpdate encrypt ctx data) := by
  have mN_le := absorbed.mN_le
  have before := absorbed.length_eq
  rw [aesCmacUpdate]
  split
  · rename_i started
    generalize mlen_eq : min (16 - ctx.mN) data.length = mlen
    have taken : (data.take mlen).length = mlen := List.length_take_of_le (by omega)
    have fits : ctx.mN + (data.take mlen).length ≤ 16 := by omega
    have filled := absorbed.fill started fits
    rw [taken] at filled
    dsimp only
    split
    · have all : data.take mlen = data := List.take_of_length_le (by omega)
      rw [all] at filled ⊢
      exact filled
    · have full : ctx.mN + mlen = 16 := by omega
      have whole := filled.length_eq
      have chained := filled.chain_mLast full
      have enough : (data.drop mlen).length ≤ 16 * (data.length - mlen) + 16 := by
        rw [List.length_drop]
        omega
      have rest : data.drop mlen ≠ [] :=
        List.ne_nil_of_length_pos (by rw [List.length_drop]; omega)
      have next := absorb_absorbed encrypt enough (by rw [whole]; simp only; omega) (.inl rest) chained
      rwa [List.append_assoc, List.take_append_drop] at next
  · have nil : message = [] := by
      apply List.eq_nil_of_length_eq_zero
      rw [cmacCount] at before
      omega
    subst nil
    exact absorb_absorbed encrypt (by omega) rfl (.inr rfl) absorbed.x

/-- `AES_CMAC_Final` gives the CMAC of the message taken. -/
theorem aesCmacFinal_eq {message : List UInt8} {ctx : AesCmacCtx}
    (absorbed : Absorbed encrypt message ctx) :
    aesCmacFinal encrypt ctx = cmac encrypt message := by
  have last_length : (message.drop (16 * cmacCount message)).length = ctx.mN := by
    rw [List.length_drop, absorbed.mN]
  rw [aesCmacFinal, cmac, cmacLast, last_length, subkey_eq, subkey_eq, absorbed.x]
  by_cases full : ctx.mN = 16
  · simp only [full, ↓reduceIte, absorbed.mLast_eq full]
  · simp only [full, ↓reduceIte]
    congr 3
    -- The padding writes the byte 0x80 behind the message, then zeros.
    funext i
    rw [blockOf, List.getD_eq_getElem?_getD]
    rcases Nat.lt_trichotomy i.val ctx.mN with inside | marker | behind
    · rw [if_neg (by omega), if_neg (by omega), absorbed.mLast i inside,
        List.getElem?_append_left (by omega), List.getElem?_drop, List.getD_eq_getElem?_getD]
    · rw [if_pos marker, List.getElem?_append_right (by omega), last_length, marker, Nat.sub_self]
      rfl
    · rw [if_neg (by omega), if_pos behind, List.getElem?_eq_none]
      · rfl
      · rw [List.length_append, last_length, List.length_singleton]
        omega

/-- The streaming CMAC of a message in any pieces is its CMAC, whatever the
uninitialised block was. -/
theorem aesCmac_pieces (mLast : Block) (pieces : List (List UInt8)) :
    aesCmacFinal encrypt (pieces.foldl (aesCmacUpdate encrypt) (aesCmacInit mLast)) =
      cmac encrypt pieces.flatten := by
  have absorbed : ∀ (message : List UInt8) (ctx : AesCmacCtx), Absorbed encrypt message ctx →
      Absorbed encrypt (message ++ pieces.flatten) (pieces.foldl (aesCmacUpdate encrypt) ctx) := by
    induction pieces with
    | nil =>
        intro message ctx absorbed
        simpa using absorbed
    | cons piece pieces ih =>
        intro message ctx absorbed
        have next := ih _ _ (aesCmacUpdate_absorbed piece absorbed)
        rwa [List.append_assoc] at next
  exact aesCmacFinal_eq (absorbed [] _ (absorbed_init encrypt mLast))

end GenericNode.SoftSe
