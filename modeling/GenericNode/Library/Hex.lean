import Mathlib.Data.Fintype.Card
import Mathlib.Tactic.Linarith

/-!
# Hexadecimal text

The upper-case hexadecimal text of a byte sequence: two ASCII digits a byte,
the high nibble first.
-/

namespace GenericNode.Library

/-- The digit of a nibble. -/
def hexDigit (nibble : ℕ) : UInt8 :=
  if nibble < 10 then UInt8.ofNat (48 + nibble) else UInt8.ofNat (55 + nibble)

/-- `'0'..'9'` or `'A'..'F'`. -/
def IsHexDigit (character : UInt8) : Prop :=
  ((0x30 : UInt8) ≤ character ∧ character ≤ (0x39 : UInt8)) ∨
    ((0x41 : UInt8) ≤ character ∧ character ≤ (0x46 : UInt8))

instance (character : UInt8) : Decidable (IsHexDigit character) :=
  inferInstanceAs (Decidable (_ ∨ _))

/-- The nibble written at a position of the text. -/
def nibbleAt (bytes : ℕ → UInt8) (position : ℕ) : ℕ :=
  if position % 2 = 0 then (bytes (position / 2)).toNat / 16
  else (bytes (position / 2)).toNat % 16

/-- The text of a byte sequence. -/
def hexText (bytes : ℕ → UInt8) (position : ℕ) : UInt8 :=
  hexDigit (nibbleAt bytes position)

/-! ## Digits -/

theorem isHexDigit_hexDigit {nibble : ℕ} (nibble_lt : nibble < 16) :
    IsHexDigit (hexDigit nibble) := by
  have all : ∀ nibble : Fin 16, IsHexDigit (hexDigit nibble) := by decide
  exact all ⟨nibble, nibble_lt⟩

/-- Every digit is that of a nibble. -/
theorem IsHexDigit.exists_nibble {character : UInt8} (digit : IsHexDigit character) :
    ∃ nibble < 16, hexDigit nibble = character := by
  have all : ∀ code : Fin 256, IsHexDigit (UInt8.ofNat code) →
      ∃ nibble < 16, hexDigit nibble = UInt8.ofNat code := by decide +kernel
  have found := all ⟨character.toNat, character.toNat_lt⟩
  simp only [UInt8.ofNat_toNat] at found
  exact found digit

/-- Two nibbles have two digits. -/
theorem hexDigit_injective {first second : ℕ} (first_lt : first < 16) (second_lt : second < 16)
    (same : hexDigit first = hexDigit second) : first = second := by
  have all : ∀ first second : Fin 16, hexDigit first = hexDigit second →
      (first : ℕ) = second := by decide +kernel
  exact all ⟨first, first_lt⟩ ⟨second, second_lt⟩ same

/-! ## Texts -/

variable {bytes others : ℕ → UInt8}

theorem nibbleAt_lt (bytes : ℕ → UInt8) (position : ℕ) : nibbleAt bytes position < 16 := by
  have byte_lt := (bytes (position / 2)).toNat_lt
  unfold nibbleAt
  split <;> omega

theorem nibbleAt_even (bytes : ℕ → UInt8) (index : ℕ) :
    nibbleAt bytes (2 * index) = (bytes index).toNat / 16 := by
  simp [nibbleAt]

theorem nibbleAt_odd (bytes : ℕ → UInt8) (index : ℕ) :
    nibbleAt bytes (2 * index + 1) = (bytes index).toNat % 16 := by
  have odd : (2 * index + 1) % 2 ≠ 0 := by omega
  have half : (2 * index + 1) / 2 = index := by omega
  rw [nibbleAt, if_neg odd, half]

/-- A text is made of digits. -/
theorem isHexDigit_hexText (bytes : ℕ → UInt8) (position : ℕ) :
    IsHexDigit (hexText bytes position) :=
  isHexDigit_hexDigit (nibbleAt_lt bytes position)

/-- The two digits of a byte determine it. -/
theorem eq_of_hexText_eq {index : ℕ}
    (high : hexText bytes (2 * index) = hexText others (2 * index))
    (low : hexText bytes (2 * index + 1) = hexText others (2 * index + 1)) :
    bytes index = others index := by
  have highs := hexDigit_injective (nibbleAt_lt _ _) (nibbleAt_lt _ _) high
  have lows := hexDigit_injective (nibbleAt_lt _ _) (nibbleAt_lt _ _) low
  rw [nibbleAt_even, nibbleAt_even] at highs
  rw [nibbleAt_odd, nibbleAt_odd] at lows
  apply UInt8.toNat_inj.mp
  omega

/-- The text up to a position depends on the bytes before it. -/
theorem hexText_congr {position : ℕ} (same : bytes (position / 2) = others (position / 2)) :
    hexText bytes position = hexText others position := by
  simp only [hexText, nibbleAt, same]

end GenericNode.Library
