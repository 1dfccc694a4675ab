import GenericNode.Fuota.BitArrays
import Mathlib.Tactic.IntervalCases

/-!
# Rows of the parity matrix

The random numbers of a row are drawn again while they are not below the number
of fragments.  Where that happens the bit of the generator that is fed back is
set; after as many turns as it takes for this bit to leave, nothing is fed back
any more and the state runs out.
-/

namespace GenericNode.Fuota

/-! ## The generator -/

theorem testBit_eq_div (value index : ℕ) :
    value.testBit index = decide (value / 2 ^ index % 2 = 1) :=
  Nat.testBit_eq_decide_div_mod_eq

/-- The lowest bit as a number. -/
theorem and_one_eq (value : ℕ) : value &&& 0x01 = (value.testBit 0).toNat := by
  rw [Nat.and_one_is_mod, Nat.testBit_zero]
  rcases Nat.mod_two_eq_zero_or_one value with even | odd
  · rw [even]
    rfl
  · rw [odd]
    rfl

/-- What is fed back. -/
theorem feedback_eq (value : ℕ) :
    (value &&& 0x01) ^^^ ((value &&& 0x20) >>> 5) = (value.testBit 0 ^^ value.testBit 5).toNat := by
  have high : (value &&& 0x20) >>> 5 = (value.testBit 5).toNat := by
    rw [Nat.shiftRight_and_distrib]
    change value >>> 5 &&& 0x01 = _
    rw [and_one_eq, Nat.testBit_shiftRight]
  rw [and_one_eq, high]
  cases value.testBit 0 <;> cases value.testBit 5 <;> rfl

theorem fragPrbs23_eq (value : ℕ) :
    fragPrbs23 value = (if value.testBit 0 = value.testBit 5 then 0 else 2 ^ 22) + value / 2 := by
  unfold fragPrbs23
  rw [feedback_eq, Nat.shiftRight_one, Nat.add_comm (value / 2)]
  cases value.testBit 0 <;> cases value.testBit 5 <;> rfl

theorem fragPrbs23_lt {value : ℕ} (short : value < 2 ^ 24) : fragPrbs23 value < 2 ^ 24 := by
  rw [fragPrbs23_eq]
  split_ifs <;> omega

/-- The low bits are shifted. -/
theorem fragPrbs23_testBit (value : ℕ) {j : ℕ} (low : j < 22) :
    (fragPrbs23 value).testBit j = value.testBit (j + 1) := by
  rw [fragPrbs23_eq, Nat.testBit_add_one value j]
  split_ifs
  · rw [Nat.zero_add]
  · exact Nat.testBit_two_pow_add_gt low _

/-- The states after some turns. -/
def prbsAt (x turn : ℕ) : ℕ :=
  fragPrbs23^[turn] x

variable {x m mTemp turns : ℕ}

theorem prbsAt_succ (x turn : ℕ) : prbsAt x (turn + 1) = fragPrbs23 (prbsAt x turn) :=
  Function.iterate_succ_apply' ..

theorem prbsAt_next (x turn : ℕ) : prbsAt (fragPrbs23 x) turn = prbsAt x (turn + 1) :=
  (Function.iterate_succ_apply ..).symm

theorem prbsAt_lt (short : x < 2 ^ 24) (turn : ℕ) : prbsAt x turn < 2 ^ 24 := by
  induction turn with
  | zero => exact short
  | succ turn ih =>
      rw [prbsAt_succ]
      exact fragPrbs23_lt ih

/-- The bit that is fed back leaves five turns later. -/
theorem prbsAt_leave (x turn : ℕ) : (prbsAt x (turn + 5)).testBit 0 = (prbsAt x turn).testBit 5 := by
  have moved : ∀ j ≤ 5, (prbsAt x (turn + j)).testBit (5 - j) = (prbsAt x turn).testBit 5 := by
    intro j
    induction j with
    | zero =>
        intro _
        rfl
    | succ j ih =>
        intro upTo
        rw [← Nat.add_assoc, prbsAt_succ, fragPrbs23_testBit _ (by omega), ← ih (by omega)]
        congr 1
        omega
  exact moved 5 (Nat.le_refl 5)

/-! ## Random numbers that are drawn again -/

/-- Where two numbers in a row are drawn again the bit that is fed back is set. -/
theorem fedBack_of_again (powers : m ∈ [2, 4, 8, 16]) (again : m ≤ x % (m + 1))
    (next : m ≤ fragPrbs23 x % (m + 1)) : x.testBit 5 = true := by
  rw [fragPrbs23_eq, testBit_eq_div, testBit_eq_div] at next
  rw [testBit_eq_div, decide_eq_true_iff]
  simp only [List.mem_cons, List.not_mem_nil, or_false] at powers
  simp only [decide_eq_decide] at next
  rcases powers with rfl | rfl | rfl | rfl <;> split_ifs at next <;> omega

/-- Numbers are not drawn again for ever. -/
theorem again_ends (powers : m ∈ [2, 4, 8, 16]) (short : x < 2 ^ 24)
    (again : ∀ turn, 1 ≤ turn → turn ≤ prbsTurns → m ≤ prbsAt x turn % (m + 1)) : False := by
  have turns_eq : prbsTurns = 32 := rfl
  have fed : ∀ turn, 1 ≤ turn → turn < 32 → (prbsAt x turn).testBit 5 = true := by
    intro turn low high
    have next := again (turn + 1) (by omega) (by omega)
    rw [prbsAt_succ] at next
    exact fedBack_of_again powers (again turn low (by omega)) next
  -- From here on the two bits are the same, and the state is halved.
  have halved : ∀ j < 25, prbsAt x (6 + j) = prbsAt x 6 / 2 ^ j := by
    intro j
    induction j with
    | zero =>
        intro _
        exact (Nat.div_one _).symm
    | succ j ih =>
        intro below
        have left := prbsAt_leave x (1 + j)
        rw [fed (1 + j) (by omega) (by omega), show 1 + j + 5 = 6 + j by omega] at left
        have still := fed (6 + j) (by omega) (by omega)
        rw [← Nat.add_assoc, prbsAt_succ, fragPrbs23_eq, if_pos (left.trans still.symm),
          ih (by omega), Nat.div_div_eq_div_mul, ← Nat.pow_succ, Nat.zero_add]
  have out := halved 24 (by omega)
  rw [Nat.div_eq_of_lt (prbsAt_lt short 6)] at out
  have set := fed (6 + 24) (by omega) (by omega)
  rw [out] at set
  cases set

theorem prbsBelow_eq (m mTemp turns x : ℕ) :
    (∃ r last, prbsBelow m mTemp turns x = some (r, last) ∧ r < m ∧
      ∃ turn ≤ turns, last = prbsAt x turn) ∨
    (prbsBelow m mTemp turns x = none ∧
      ∀ turn, 1 ≤ turn → turn ≤ turns → m ≤ prbsAt x turn % (m + mTemp)) := by
  induction turns generalizing x with
  | zero =>
      refine .inr ⟨rfl, fun turn low high => ?_⟩
      omega
  | succ turns ih =>
      rw [prbsBelow]
      have first : fragPrbs23 x = prbsAt x 1 := prbsAt_next x 0
      by_cases below : fragPrbs23 x % (m + mTemp) < m
      · rw [if_pos below]
        exact .inl ⟨_, _, rfl, below, 1, by omega, first⟩
      · rw [if_neg below]
        rcases ih (fragPrbs23 x) with ⟨r, last, run, less, turn, upTo, rfl⟩ | ⟨run, again⟩
        · exact .inl ⟨r, _, run, less, turn + 1, by omega, prbsAt_next x turn⟩
        · refine .inr ⟨run, fun turn low high => ?_⟩
          cases turn with
          | zero => omega
          | succ turn =>
              rcases Nat.eq_zero_or_pos turn with rfl | more
              · rw [Nat.zero_add, ← first]
                exact Nat.le_of_not_lt below
              · rw [← prbsAt_next]
                exact again turn more (by omega)

/-! ## Rows -/

/-- What is added to a number of fragments. -/
def mTempOf (m : ℕ) : ℕ :=
  if isPowerOfTwo m then 1 else 0

theorem prbsBelow_defined (some_coeffs : 2 ≤ m) (few : m ≤ fragMaxNb) (short : x < 2 ^ 24) :
    ∃ r last, prbsBelow m (mTempOf m) prbsTurns x = some (r, last) ∧ r < m ∧ last < 2 ^ 24 := by
  rcases prbsBelow_eq m (mTempOf m) prbsTurns x with
    ⟨r, last, run, less, turn, -, rfl⟩ | ⟨-, again⟩
  · exact ⟨r, _, run, less, prbsAt_lt short turn⟩
  · exfalso
    by_cases power : isPowerOfTwo m = true
    · have powers : ∀ m ≤ fragMaxNb, 2 ≤ m → isPowerOfTwo m = true → m ∈ [2, 4, 8, 16] := by
        decide
      rw [mTempOf, if_pos power] at again
      exact again_ends (powers m few some_coeffs power) short again
    · have once := again 1 (Nat.le_refl 1) (by decide)
      rw [mTempOf, if_neg power, Nat.add_zero] at once
      have less := Nat.mod_lt (prbsAt x 1) (show 0 < m by omega)
      omega

theorem parityCoeffs_defined (few : m ≤ fragMaxNb) {nbCoeff : ℕ} (coeffs : nbCoeff ≤ m >>> 1)
    (short : x < 2 ^ 24) {row : List Bool} (length : row.length = rowBits) :
    ∃ result, parityCoeffs m (mTempOf m) nbCoeff x row = some result ∧
      result.length = rowBits := by
  have room : fragMaxNb ≤ rowBits := by decide
  have half : m >>> 1 = m / 2 := Nat.shiftRight_eq_div_pow m 1
  induction nbCoeff generalizing x row with
  | zero => exact ⟨row, rfl, length⟩
  | succ nbCoeff ih =>
      have some_coeffs : 2 ≤ m := by omega
      obtain ⟨r, last, run, less, still⟩ := prbsBelow_defined some_coeffs few short
      obtain ⟨result, rest, wide⟩ := ih (by omega) still ((List.length_set ..).trans length)
      refine ⟨result, ?_, wide⟩
      rw [parityCoeffs, run]
      simp only [Option.bind_eq_bind, Option.bind_some, setParity_eq (show r < row.length by omega)]
      exact rest

/-- Rows are defined for as many fragments as there are places for missing ones. -/
theorem fragGetParityMatrixRow_defined {n : ℕ} (few : m ≤ fragMaxNb) (short : n < 2 ^ 14) :
    ∃ row, fragGetParityMatrixRow n m = some row ∧ row.length = rowBits := by
  have room : ∀ m ≤ fragMaxNb, 8 * (m >>> 3 + 1) ≤ rowBits := by decide
  rw [fragGetParityMatrixRow, if_pos (room m few)]
  exact parityCoeffs_defined few (Nat.le_refl _) (by omega) (List.length_replicate ..)

end GenericNode.Fuota
