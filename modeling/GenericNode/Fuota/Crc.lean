import GenericNode.Library.Crc
import GenericNode.Fuota.Storage

/-!
# The CRC of the data block

`Crc32` computes a remainder by the generator of CRC-32/ISO-HDLC: the register
is reflected, begins with ones, and is complemented at the end.
-/

namespace GenericNode.Fuota

open Polynomial
open GenericNode.Library
open GenericNode.Library.Prog
open GenericNode.Library.Crc

/-- The generator of CRC-32, `0x04C11DB7`. -/
noncomputable def crc32Generator : (ZMod 2)[X] :=
  X ^ 32 + X ^ 26 + X ^ 23 + X ^ 22 + X ^ 16 + X ^ 12 + X ^ 11 + X ^ 10 + X ^ 8 + X ^ 7 + X ^ 5 +
    X ^ 4 + X ^ 2 + X + 1

/-- The bits of a message, the lowest bit of each byte first. -/
def messageBits (bytes : List UInt8) : List Bool :=
  bytes.flatMap fun byte => bitsOf 8 byte.toBitVec

/-- The remainder of a message behind a register of ones. -/
noncomputable def crc32Remainder (bytes : List UInt8) : (ZMod 2)[X] :=
  (messagePoly (messageBits bytes) * X ^ 32 +
    (∑ k ∈ Finset.range 32, X ^ k) * X ^ (8 * bytes.length)) %ₘ crc32Generator

/-- The reversed polynomial is that of CRC-32. -/
theorem generator_eq : generator 0xEDB88320#32 = crc32Generator := by
  simp only [generator, toPoly, Finset.sum_range_succ, Finset.sum_range_zero, crc32Generator]
  simp [coeffOf]
  ring

/-- The mask of the low bit. -/
theorem mask_eq (crc : UInt32) :
    (~~~((crc &&& 0x01) - 1)).toBitVec =
      if crc.toBitVec.getLsbD 0 then 0xFFFFFFFF#32 else 0#32 := by
  have low : (crc &&& 0x01).toBitVec =
      BitVec.setWidth 32 (BitVec.ofBool (crc.toBitVec.getLsbD 0)) := by
    rw [UInt32.toBitVec_and]
    exact BitVec.and_one_eq_setWidth_ofBool_getLsbD
  rw [UInt32.toBitVec_not, UInt32.toBitVec_sub, low]
  cases crc.toBitVec.getLsbD 0 <;> rfl

/-- The mask replaces a test of the bit that is shifted out. -/
theorem crc32Bit_eq (crc : UInt32) :
    (crc32Bit crc).toBitVec = step 0xEDB88320#32 crc.toBitVec := by
  rw [crc32Bit, UInt32.toBitVec_xor, UInt32.toBitVec_and, mask_eq, step]
  cases crc.toBitVec.getLsbD 0 with
  | false => rfl
  | true =>
      rw [if_pos rfl, if_pos rfl]
      congr 1

theorem crc32Bit_iterate (count : ℕ) (crc : UInt32) :
    (crc32Bit^[count] crc).toBitVec = (step 0xEDB88320#32)^[count] crc.toBitVec := by
  induction count with
  | zero => rfl
  | succ count ih =>
      rw [Function.iterate_succ_apply', Function.iterate_succ_apply', crc32Bit_eq, ih]

/-- A byte as a word. -/
def wordOf (byte : UInt8) : BitVec 32 :=
  byte.toBitVec.setWidth 32

theorem crc32Byte_eq (crc : UInt32) (byte : UInt8) :
    (crc32Byte crc byte).toBitVec = absorb 0xEDB88320#32 8 crc.toBitVec (wordOf byte) := by
  rw [crc32Byte, crc32Bit_iterate, UInt32.toBitVec_xor]
  rfl

theorem foldl_eq (bytes : List UInt8) (crc : UInt32) :
    (bytes.foldl crc32Byte crc).toBitVec =
      (bytes.map wordOf).foldl (absorb 0xEDB88320#32 8) crc.toBitVec := by
  induction bytes generalizing crc with
  | nil => rfl
  | cons byte bytes ih =>
      rw [List.foldl_cons, ih, List.map_cons, List.foldl_cons, crc32Byte_eq]

theorem getLsbD_wordOf (byte : UInt8) (k : ℕ) :
    (wordOf byte).getLsbD k = (decide (k < 32) && byte.toBitVec.getLsbD k) :=
  BitVec.getLsbD_setWidth ..

theorem message_eq (bytes : List UInt8) : message 8 (bytes.map wordOf) = messageBits bytes := by
  rw [message, List.flatMap_map]
  rfl

/-- The register of ones. -/
theorem toPoly_ones : toPoly (0xFFFFFFFF : UInt32).toBitVec = ∑ k ∈ Finset.range 32, X ^ k := by
  rw [toPoly, ← Finset.sum_range_reflect]
  apply Finset.sum_congr rfl
  intro k mem
  have below := Finset.mem_range.mp mem
  have one : (0xFFFFFFFF : UInt32).toBitVec.getLsbD (32 - 1 - k) = true := by
    interval_cases k <;> rfl
  rw [one, show coeffOf true = 1 from rfl, C_1, one_mul]
  congr 1
  omega

/-- The register after some bytes is the remainder of the message. -/
theorem toPoly_register (bytes : List UInt8) :
    toPoly (bytes.foldl crc32Byte 0xFFFFFFFF).toBitVec = crc32Remainder bytes := by
  have short : ∀ word ∈ bytes.map wordOf, ∀ k ≥ 8, word.getLsbD k = false := by
    intro word mem k high
    obtain ⟨byte, -, rfl⟩ := List.mem_map.mp mem
    rw [getLsbD_wordOf, BitVec.getLsbD_of_ge _ _ high, Bool.and_false]
  rw [foldl_eq, toPoly_absorbAll _ (by decide) _ short, generator_eq, message_eq, toPoly_ones,
    List.length_map]
  rfl

/-- The check value of CRC-32/ISO-HDLC. -/
example : crc32Of [0x31, 0x32, 0x33, 0x34, 0x35, 0x36, 0x37, 0x38, 0x39] = 0xCBF43926 := by
  decide +kernel

/-- The register goes on behind the first part of a message. -/
theorem crc32Of_append (first second : List UInt8) :
    crc32Of (first ++ second) = ~~~(second.foldl crc32Byte (~~~crc32Of first)) := by
  rw [crc32Of, crc32Of, List.foldl_append, UInt32.not_not]

/-- `Crc32` returns for every length, and leaves the complement of the remainder of
the bytes before it; it may be continued from each of its parts. -/
theorem crc32_isoHdlc (storage : Storage) (length : UInt16) :
    wp (crc32 length) (fun crc final =>
      final.unfragmentedData = storage.unfragmentedData ∧
      toPoly (~~~crc).toBitVec = crc32Remainder (storage.unfragmentedData.take length.toNat) ∧
      ∀ first second, first ++ second = storage.unfragmentedData.take length.toNat →
        crc = ~~~(second.foldl crc32Byte (~~~crc32Of first))) storage := by
  refine wp_mono (wp_crc32 length) ?_
  rintro _ final ⟨rfl, loaded⟩
  refine ⟨loaded.unfragmentedData, ?_, fun first second whole => ?_⟩
  · rw [crc32Of, UInt32.not_not]
    exact toPoly_register _
  · rw [← whole]
    exact crc32Of_append first second

end GenericNode.Fuota
