import Mathlib.Data.Fintype.Card
import Mathlib.Tactic.Linarith
import Mathlib.Tactic.Ring
import Mathlib.Data.Nat.Bitwise

/-!
# Bytes and blocks

Little-endian words, big-endian numbers, and block-wise (ECB) encryption of a
byte sequence.
-/

namespace GenericNode.Library

/-- The 32-bit word whose bytes are given, least significant first. -/
def packLe (byte0 byte1 byte2 byte3 : UInt8) : UInt32 :=
  byte0.toUInt32 ||| byte1.toUInt32 <<< 8 ||| byte2.toUInt32 <<< 16 |||
    byte3.toUInt32 <<< 24

/-- The number whose bytes are given, most significant first. -/
def bigEndian (bytes : List UInt8) : ℕ :=
  bytes.foldl (fun number byte => number * 256 + byte.toNat) 0

/-- Bytes before a number count by its length. -/
theorem foldl_bigEndian (bytes : List UInt8) (start : ℕ) :
    bytes.foldl (fun number byte => number * 256 + byte.toNat) start =
      start * 256 ^ bytes.length + bigEndian bytes := by
  induction bytes generalizing start with
  | nil => simp [bigEndian]
  | cons byte bytes ih =>
      rw [bigEndian, List.foldl_cons, List.foldl_cons, ih, ih (0 * 256 + byte.toNat),
        List.length_cons]
      ring

theorem bigEndian_cons (byte : UInt8) (bytes : List UInt8) :
    bigEndian (byte :: bytes) = byte.toNat * 256 ^ bytes.length + bigEndian bytes := by
  rw [bigEndian, List.foldl_cons, foldl_bigEndian, zero_mul, zero_add]

theorem bigEndian_lt (bytes : List UInt8) : bigEndian bytes < 256 ^ bytes.length := by
  induction bytes with
  | nil => simp [bigEndian]
  | cons byte bytes ih =>
      have bound := byte.toNat_lt
      rw [bigEndian_cons, List.length_cons, pow_succ]
      nlinarith

/-- A 16-byte block. -/
abbrev Block :=
  Fin 16 → UInt8

/-- A byte of a block; the index counts modulo 16. -/
def byteOf (block : Block) (index : ℕ) : UInt8 :=
  block (Fin.ofNat 16 index)

/-- The 16 bytes from an index on. -/
def blockAt (bytes : ℕ → UInt8) (start : ℕ) : Block :=
  fun index => bytes (start + index)

/-- Block-wise encryption of a byte sequence. -/
def ecb (encrypt : Block → Block) (bytes : ℕ → UInt8) (index : ℕ) : UInt8 :=
  byteOf (encrypt (blockAt bytes (16 * (index / 16)))) index

/-- The bytes of one encrypted block. -/
theorem ecb_block (encrypt : Block → Block) (bytes : ℕ → UInt8) (block : ℕ) {index : ℕ}
    (index_lt : index < 16) :
    ecb encrypt bytes (16 * block + index) = byteOf (encrypt (blockAt bytes (16 * block))) index := by
  have quotient : (16 * block + index) / 16 = block := by omega
  have remainder : Fin.ofNat 16 (16 * block + index) = Fin.ofNat 16 index :=
    Fin.ext (Nat.mul_add_mod 16 block index)
  simp only [ecb, byteOf, quotient, remainder]

end GenericNode.Library
