import Mathlib.Data.Fintype.Card
import Mathlib.Tactic.Linarith

/-!
# NOR flash arrays

Programming clears bits, and stays inside one page: a place past the end of
the page wraps to its start.  Erasing sets every bit of a block.
-/

namespace GenericNode.Library

/-- The bytes of an array. -/
abbrev Cells :=
  ℕ → UInt8

/-- An erased byte. -/
def erasedByte : UInt8 :=
  0xFF

/-- Program `count` bytes from an address on, in a page of `pageSize` bytes.
Of the bytes that fall on one place, the last one is programmed. -/
def programPage (pageSize : ℕ) (cells : Cells) (address count : ℕ) (data : ℕ → UInt8) : Cells :=
  fun place =>
    let first := (place + pageSize - address % pageSize) % pageSize
    if place / pageSize = address / pageSize ∧ first < count then
      cells place &&& data (first + pageSize * ((count - 1 - first) / pageSize))
    else
      cells place

/-- Erase the block that holds an address. -/
def eraseBlock (blockSize : ℕ) (cells : Cells) (address : ℕ) : Cells :=
  fun place => if place / blockSize = address / blockSize then erasedByte else cells place

/-- Programming an erased byte writes it. -/
@[simp]
theorem erasedByte_and (byte : UInt8) : erasedByte &&& byte = byte := by
  rw [← UInt8.toNat_inj, UInt8.toNat_and]
  have mask := Nat.and_two_pow_sub_one_eq_mod byte.toNat 8
  rw [Nat.and_comm] at mask
  exact mask.trans (Nat.mod_eq_of_lt byte.toNat_lt)

section Page

variable {pageSize address count place : ℕ}

/-- Where a place of the addressed page comes in the transferred data. -/
theorem pageOffset (positive : 0 < pageSize) (same : place / pageSize = address / pageSize) :
    (place + pageSize - address % pageSize) % pageSize =
      if address ≤ place then place - address else place + pageSize - address := by
  have place_split := Nat.div_add_mod place pageSize
  have address_split := Nat.div_add_mod address pageSize
  have place_mod := Nat.mod_lt place positive
  have address_mod := Nat.mod_lt address positive
  rw [same] at place_split
  have shift : place + pageSize - address % pageSize =
      pageSize * (address / pageSize) + (place % pageSize + pageSize - address % pageSize) := by
    omega
  rw [shift, Nat.mul_add_mod]
  by_cases after : address ≤ place
  · rw [if_pos after, show place % pageSize + pageSize - address % pageSize =
      place - address + pageSize by omega, Nat.add_mod_right]
    apply Nat.mod_eq_of_lt
    omega
  · rw [if_neg after, show place % pageSize + pageSize - address % pageSize =
      place + pageSize - address by omega]
    apply Nat.mod_eq_of_lt
    omega

/-- A program that fits in its page does not wrap. -/
theorem programPage_apply (positive : 0 < pageSize)
    (fits : address % pageSize + count ≤ pageSize) (cells : Cells) (data : ℕ → UInt8)
    (place : ℕ) :
    programPage pageSize cells address count data place =
      if address ≤ place ∧ place < address + count then
        cells place &&& data (place - address)
      else cells place := by
  have address_split := Nat.div_add_mod address pageSize
  have address_mod := Nat.mod_lt address positive
  simp only [programPage]
  by_cases same : place / pageSize = address / pageSize
  · rw [pageOffset positive same]
    have place_split := Nat.div_add_mod place pageSize
    have place_mod := Nat.mod_lt place positive
    rw [same] at place_split
    by_cases after : address ≤ place
    · simp only [same, after, true_and, ↓reduceIte]
      by_cases inside : place < address + count
      · have no_wrap : (count - 1 - (place - address)) / pageSize = 0 := by
          apply Nat.div_eq_of_lt
          omega
        have first : place - address < count := by omega
        rw [if_pos first, if_pos inside, no_wrap, Nat.mul_zero, Nat.add_zero]
      · have beyond : ¬ place - address < count := by omega
        rw [if_neg beyond, if_neg inside]
    · have beyond : ¬ place + pageSize - address < count := by omega
      simp only [same, after, beyond, false_and, and_false, ↓reduceIte]
  · have outside : ¬ (address ≤ place ∧ place < address + count) := by
      rintro ⟨after, before⟩
      apply same
      have upper : place < pageSize * (address / pageSize + 1) := by
        rw [Nat.mul_add]
        omega
      have lower : pageSize * (address / pageSize) ≤ place := by omega
      apply Nat.le_antisymm
      · exact Nat.lt_succ_iff.mp (Nat.div_lt_of_lt_mul upper)
      · exact (Nat.le_div_iff_mul_le positive).mpr (by rwa [Nat.mul_comm])
    rw [if_neg outside, if_neg (fun both => same both.1)]

end Page

end GenericNode.Library
