import Mathlib.Data.Nat.Basic
import Mathlib.Tactic.Ring

/-!
# Little-endian words and slices of memory

The bytes of a word in the order in which a frame carries them, and reads and
writes of a memory area that are missing when they leave the area.
-/

namespace GenericNode.Library

/-- The low bytes of a number, least significant first. -/
def leBytes : ℕ → ℕ → List UInt8
  | 0, _ => []
  | count + 1, number => UInt8.ofNat number :: leBytes count (number / 256)

/-- The number whose bytes are given, least significant first. -/
def leNat : List UInt8 → ℕ
  | [] => 0
  | byte :: bytes => byte.toNat + 256 * leNat bytes

@[simp]
theorem length_leBytes (count number : ℕ) : (leBytes count number).length = count := by
  induction count generalizing number with
  | zero => rfl
  | succ count ih => simp [leBytes, ih]

/-- The bytes of a number give it back modulo their count. -/
theorem leNat_leBytes (count number : ℕ) :
    leNat (leBytes count number) = number % 256 ^ count := by
  induction count generalizing number with
  | zero => simp [leBytes, leNat, Nat.mod_one]
  | succ count ih =>
      rw [leBytes, leNat, ih, pow_succ', Nat.mod_mul, UInt8.toNat_ofNat']

/-- The number of some bytes has these bytes. -/
theorem leBytes_leNat (bytes : List UInt8) : leBytes bytes.length (leNat bytes) = bytes := by
  induction bytes with
  | nil => rfl
  | cons byte bytes ih =>
      have bound := byte.toNat_lt
      have rest : (byte.toNat + 256 * leNat bytes) / 256 = leNat bytes := by omega
      have first : UInt8.ofNat (byte.toNat + 256 * leNat bytes) = byte := by
        apply UInt8.toNat_inj.mp
        rw [UInt8.toNat_ofNat']
        omega
      rw [List.length_cons, leNat, leBytes, rest, first, ih]

theorem leNat_lt (bytes : List UInt8) : leNat bytes < 256 ^ bytes.length := by
  induction bytes with
  | nil => simp [leNat]
  | cons byte bytes ih =>
      have bound := byte.toNat_lt
      rw [leNat, List.length_cons, pow_succ]
      omega

/-- A 32-bit word is its four bytes. -/
@[simp]
theorem ofNat_leNat_leBytes32 (word : UInt32) :
    UInt32.ofNat (leNat (leBytes 4 word.toNat)) = word := by
  apply UInt32.toNat_inj.mp
  rw [leNat_leBytes, UInt32.toNat_ofNat']
  have bound := word.toNat_lt
  omega

/-- A 16-bit word is its two bytes. -/
@[simp]
theorem ofNat_leNat_leBytes16 (word : UInt16) :
    UInt16.ofNat (leNat (leBytes 2 word.toNat)) = word := by
  apply UInt16.toNat_inj.mp
  rw [leNat_leBytes, UInt16.toNat_ofNat']
  have bound := word.toNat_lt
  omega

/-- Four bytes are those of their word. -/
theorem leBytes_toNat_ofNat32 {bytes : List UInt8} (length_eq : bytes.length = 4) :
    leBytes 4 (UInt32.ofNat (leNat bytes)).toNat = bytes := by
  have bound := leNat_lt bytes
  rw [length_eq] at bound
  rw [UInt32.toNat_ofNat', Nat.mod_eq_of_lt (by omega), ← length_eq, leBytes_leNat]

/-- Two bytes are those of their word. -/
theorem leBytes_toNat_ofNat16 {bytes : List UInt8} (length_eq : bytes.length = 2) :
    leBytes 2 (UInt16.ofNat (leNat bytes)).toNat = bytes := by
  have bound := leNat_lt bytes
  rw [length_eq] at bound
  rw [UInt16.toNat_ofNat', Nat.mod_eq_of_lt (by omega), ← length_eq, leBytes_leNat]

/-- The bytes at a place of a memory area. -/
def slice (memory : List UInt8) (start count : ℕ) : Option (List UInt8) :=
  if start + count ≤ memory.length then some ((memory.drop start).take count) else none

/-- The memory area with the bytes at a place replaced. -/
def overwrite (memory : List UInt8) (start : ℕ) (bytes : List UInt8) : Option (List UInt8) :=
  if start + bytes.length ≤ memory.length then
    some (memory.take start ++ bytes ++ memory.drop (start + bytes.length))
  else none

/-- A piece of a memory area is read where it lies. -/
theorem slice_of_eq {memory piece after : List UInt8} {start count : ℕ} (before : List UInt8)
    (memory_eq : memory = before ++ (piece ++ after)) (start_eq : start = before.length)
    (count_eq : count = piece.length) : slice memory start count = some piece := by
  subst memory_eq start_eq count_eq
  simp [slice]

/-- So is a byte. -/
theorem getElem?_of_eq {memory after : List UInt8} {byte : UInt8} {index : ℕ}
    (before : List UInt8) (memory_eq : memory = before ++ byte :: after) (index_eq : index = before.length) :
    memory[index]? = some byte := by
  subst memory_eq index_eq
  simp

/-- A read inside the area returns as many bytes as it asks for. -/
theorem slice_eq_some {memory : List UInt8} {start count : ℕ}
    (inside : start + count ≤ memory.length) :
    slice memory start count = some ((memory.drop start).take count) :=
  if_pos inside

theorem length_of_slice {memory bytes : List UInt8} {start count : ℕ}
    (read : slice memory start count = some bytes) : bytes.length = count := by
  rw [slice] at read
  split at read
  · cases read
    simp only [List.length_take, List.length_drop]
    omega
  · cases read

/-- What is read at the start is what the area starts with. -/
theorem eq_append_of_slice {memory bytes : List UInt8} {count : ℕ}
    (read : slice memory 0 count = some bytes) : memory = bytes ++ memory.drop count := by
  rw [slice] at read
  split at read
  · cases read
    rw [List.drop_zero, List.take_append_drop]
  · cases read

/-- A write at the start of the area that fits in it. -/
theorem overwrite_zero {memory bytes : List UInt8} (fits : bytes.length ≤ memory.length) :
    overwrite memory 0 bytes = some (bytes ++ memory.drop bytes.length) := by
  simp [overwrite, fits]

/-- Bytes enough for a piece start with one. -/
theorem exists_piece {bytes : List UInt8} {count : ℕ} (enough : count ≤ bytes.length) :
    ∃ piece after, bytes = piece ++ after ∧ piece.length = count :=
  ⟨bytes.take count, bytes.drop count, (List.take_append_drop count bytes).symm,
    List.length_take_of_le enough⟩

end GenericNode.Library
