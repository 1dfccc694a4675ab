import Mathlib

/-!
# Cyclic redundancy checks

The register of a reflected CRC is a polynomial over the field of two elements:
its lowest bit is the highest coefficient.  A step of the register multiplies
by `X` modulo the generator, so a run of steps computes a remainder.
-/

namespace GenericNode.Library.Crc

open Polynomial

/-- A bit as a coefficient. -/
def coeffOf (bit : Bool) : ZMod 2 :=
  if bit then 1 else 0

theorem coeffOf_xor (first second : Bool) :
    coeffOf (first ^^ second) = coeffOf first + coeffOf second := by
  revert first second
  decide

variable {w : ℕ}

/-- The polynomial of a register. -/
noncomputable def toPoly (register : BitVec w) : (ZMod 2)[X] :=
  ∑ k ∈ Finset.range w, C (coeffOf (register.getLsbD k)) * X ^ (w - 1 - k)

/-- The generator, whose lower coefficients are given as a register. -/
noncomputable def generator (poly : BitVec w) : (ZMod 2)[X] :=
  X ^ w + toPoly poly

/-- The polynomial of a message, its first bit highest. -/
noncomputable def messagePoly : List Bool → (ZMod 2)[X]
  | [] => 0
  | bit :: bits => C (coeffOf bit) * X ^ bits.length + messagePoly bits

/-- One step of the register. -/
def step (poly register : BitVec w) : BitVec w :=
  (register >>> 1) ^^^ (if register.getLsbD 0 then poly else 0#w)

/-! ## The register -/

theorem toPoly_zero : toPoly (0#w) = 0 := by
  apply Finset.sum_eq_zero
  intro k _
  simp [coeffOf]

theorem toPoly_xor (first second : BitVec w) :
    toPoly (first ^^^ second) = toPoly first + toPoly second := by
  rw [toPoly, toPoly, toPoly, ← Finset.sum_add_distrib]
  apply Finset.sum_congr rfl
  intro k _
  rw [BitVec.getLsbD_xor, coeffOf_xor, C_add, add_mul]

theorem degree_toPoly_lt (register : BitVec w) : (toPoly register).degree < w := by
  rw [degree_lt_iff_coeff_zero]
  intro m above
  rw [toPoly, finsetSum_coeff]
  apply Finset.sum_eq_zero
  intro k mem
  have below := Finset.mem_range.mp mem
  rw [coeff_C_mul, coeff_X_pow, if_neg (by omega), mul_zero]

theorem monic_generator (poly : BitVec w) : (generator poly).Monic :=
  monic_X_pow_add (degree_toPoly_lt poly)

theorem degree_generator (poly : BitVec w) : (generator poly).degree = w := by
  rw [generator, degree_add_eq_left_of_degree_lt]
  · exact degree_X_pow w
  · rw [degree_X_pow]
    exact degree_toPoly_lt poly

/-- Shifting the register multiplies its polynomial, up to the bit shifted out. -/
theorem toPoly_shift (register : BitVec (w + 1)) :
    toPoly register * X =
      toPoly (register >>> 1) + C (coeffOf (register.getLsbD 0)) * X ^ (w + 1) := by
  rw [toPoly, toPoly, Finset.sum_mul, Finset.sum_range_succ', Finset.sum_range_succ]
  congr 1
  · rw [BitVec.getLsbD_ushiftRight, BitVec.getLsbD_of_ge _ _ (by omega)]
    rw [show coeffOf false = 0 from rfl, C_0, zero_mul, add_zero]
    apply Finset.sum_congr rfl
    intro k mem
    have below := Finset.mem_range.mp mem
    rw [BitVec.getLsbD_ushiftRight, Nat.add_comm 1 k, mul_assoc, ← pow_succ]
    congr 2
    omega
  · rw [mul_assoc, ← pow_succ]
    rfl

/-! ## Remainders -/

/-- The residue of a polynomial. -/
noncomputable def residue (poly : BitVec w) : (ZMod 2)[X] →+* AdjoinRoot (generator poly) :=
  AdjoinRoot.mk (generator poly)

theorem residue_generator (poly : BitVec w) : residue poly (generator poly) = 0 :=
  AdjoinRoot.mk_self

/-- A register is the remainder of every polynomial with its residue. -/
theorem toPoly_eq_of_residue {poly register : BitVec w} {value : (ZMod 2)[X]}
    (same : residue poly (toPoly register) = residue poly value) :
    toPoly register = value %ₘ generator poly := by
  have divides := AdjoinRoot.mk_eq_mk.mp same
  have reduced : toPoly register %ₘ generator poly = toPoly register := by
    rw [modByMonic_eq_self_iff (monic_generator poly), degree_generator]
    exact degree_toPoly_lt register
  rw [← modByMonic_eq_of_dvd_sub (monic_generator poly) divides, reduced]

/-- A step multiplies by `X`. -/
theorem residue_step (poly register : BitVec (w + 1)) :
    residue poly (toPoly (step poly register)) = residue poly (toPoly register * X) := by
  rw [toPoly_shift, step, toPoly_xor, map_add, map_add]
  congr 1
  cases register.getLsbD 0 with
  | false => rw [if_neg Bool.false_ne_true, toPoly_zero, show coeffOf false = 0 from rfl, C_0, zero_mul]
  | true =>
      have top : residue poly (X ^ (w + 1)) + residue poly (toPoly poly) = 0 := by
        rw [← map_add]
        exact residue_generator poly
      have two : residue poly (X ^ (w + 1)) + residue poly (X ^ (w + 1)) = 0 := by
        rw [← map_add, CharTwo.add_self_eq_zero, map_zero]
      rw [if_pos rfl, show coeffOf true = 1 from rfl, C_1, one_mul]
      exact add_left_cancel (top.trans two.symm)

theorem residue_steps (poly register : BitVec (w + 1)) (count : ℕ) :
    residue poly (toPoly ((step poly)^[count] register)) =
      residue poly (toPoly register * X ^ count) := by
  induction count with
  | zero => simp
  | succ count ih =>
      rw [Function.iterate_succ_apply', residue_step, map_mul, ih, ← map_mul, pow_succ, mul_assoc]

/-! ## Messages -/

theorem messagePoly_append (first second : List Bool) :
    messagePoly (first ++ second) = messagePoly first * X ^ second.length + messagePoly second := by
  induction first with
  | nil => simp [messagePoly]
  | cons bit first ih =>
      rw [List.cons_append, messagePoly, ih, messagePoly, List.length_append, pow_add, add_mul,
        add_assoc, mul_assoc]

/-- The lowest bits of a word, the lowest first. -/
def bitsOf (count : ℕ) (word : BitVec w) : List Bool :=
  (List.range count).map word.getLsbD

@[simp]
theorem length_bitsOf (count : ℕ) (word : BitVec w) : (bitsOf count word).length = count := by
  rw [bitsOf, List.length_map, List.length_range]

theorem messagePoly_bitsOf (count : ℕ) (word : BitVec w) :
    messagePoly (bitsOf count word) =
      ∑ k ∈ Finset.range count, C (coeffOf (word.getLsbD k)) * X ^ (count - 1 - k) := by
  induction count with
  | zero => rfl
  | succ count ih =>
      have more : bitsOf (count + 1) word = bitsOf count word ++ [word.getLsbD count] := by
        rw [bitsOf, List.range_succ, List.map_append]
        rfl
      rw [more, messagePoly_append, ih, Finset.sum_range_succ, Finset.sum_mul]
      congr 1
      · apply Finset.sum_congr rfl
        intro k mem
        have below := Finset.mem_range.mp mem
        rw [mul_assoc, List.length_singleton, ← pow_add]
        congr 2
        omega
      · simp [messagePoly]

/-- A word of few bits, where it meets the register. -/
theorem toPoly_of_short {count : ℕ} {word : BitVec w} (fits : count ≤ w)
    (short : ∀ k ≥ count, word.getLsbD k = false) :
    toPoly word * X ^ count = messagePoly (bitsOf count word) * X ^ w := by
  have high : toPoly word =
      ∑ k ∈ Finset.range count, C (coeffOf (word.getLsbD k)) * X ^ (w - 1 - k) := by
    rw [toPoly]
    refine (Finset.sum_subset (Finset.range_subset_range.mpr fits) fun k _ beyond => ?_).symm
    rw [short k (not_lt.mp (mt Finset.mem_range.mpr beyond))]
    rw [show coeffOf false = 0 from rfl, C_0, zero_mul]
  rw [high, messagePoly_bitsOf, Finset.sum_mul, Finset.sum_mul]
  apply Finset.sum_congr rfl
  intro k mem
  have below := Finset.mem_range.mp mem
  rw [mul_assoc, mul_assoc, ← pow_add, ← pow_add]
  congr 2
  omega

/-- A word is taken in, and the register steps once for each of its bits. -/
def absorb (poly : BitVec w) (count : ℕ) (register word : BitVec w) : BitVec w :=
  (step poly)^[count] (register ^^^ word)

/-- The bits of some words. -/
def message (count : ℕ) (words : List (BitVec w)) : List Bool :=
  words.flatMap (bitsOf count)

theorem length_message (count : ℕ) (words : List (BitVec w)) :
    (message count words).length = count * words.length := by
  induction words with
  | nil => rfl
  | cons word words ih =>
      rw [message, List.flatMap_cons, List.length_append, length_bitsOf, List.length_cons,
        Nat.mul_succ, Nat.add_comm]
      exact congrArg (· + count) ih

/-- The register after some words is the remainder of the message, which begins
with the register as it was. -/
theorem toPoly_absorbAll (poly : BitVec (w + 1)) {count : ℕ} (fits : count ≤ w + 1)
    (words : List (BitVec (w + 1)))
    (short : ∀ word ∈ words, ∀ k ≥ count, word.getLsbD k = false) (register : BitVec (w + 1)) :
    toPoly (words.foldl (absorb poly count) register) =
      (messagePoly (message count words) * X ^ (w + 1) +
        toPoly register * X ^ (count * words.length)) %ₘ generator poly := by
  apply toPoly_eq_of_residue
  induction words generalizing register with
  | nil => simp [message, messagePoly]
  | cons word words ih =>
      have word_short := short word List.mem_cons_self
      have absorbed : residue poly (toPoly (absorb poly count register word)) =
          residue poly (toPoly register * X ^ count +
            messagePoly (bitsOf count word) * X ^ (w + 1)) := by
        rw [absorb, residue_steps, toPoly_xor, add_mul, toPoly_of_short fits word_short]
      have rest_short : ∀ other ∈ words, ∀ k ≥ count, other.getLsbD k = false :=
        fun other mem => short other (List.mem_cons_of_mem _ mem)
      rw [List.foldl_cons, ih rest_short, map_add, map_mul (residue poly) (toPoly _), absorbed,
        ← map_mul, ← map_add]
      congr 1
      have first : message count (word :: words) = bitsOf count word ++ message count words :=
        List.flatMap_cons
      rw [first, messagePoly_append, length_message, List.length_cons, Nat.mul_succ, pow_add]
      ring

end GenericNode.Library.Crc
