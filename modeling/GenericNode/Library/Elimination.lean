import Mathlib.Algebra.BigOperators.Intervals

/-!
# Equations over the field of two elements

An equation picks some of the unknowns and gives their sum.  In a group where
every element is its own inverse, two equations add up to the one about the
unknowns that only one of them picks; an equation whose first pick is `p`
leads there, and is cleared there by another one that does.
-/

namespace GenericNode.Library.Elimination

variable {V : Type*} [AddCommMonoid V] {pick rest row : ℕ → Bool} {value : ℕ → V} {count k : ℕ}

/-- The sum of the unknowns that are picked. -/
def combine (pick : ℕ → Bool) (value : ℕ → V) (count : ℕ) : V :=
  ∑ j ∈ Finset.range count, if pick j then value j else 0

theorem combine_congr (same : ∀ j < count, pick j = rest j) :
    combine pick value count = combine rest value count := by
  apply Finset.sum_congr rfl
  intro j mem
  rw [same j (Finset.mem_range.mp mem)]

/-- Nothing is picked. -/
theorem combine_none (none : ∀ j < count, pick j = false) : combine pick value count = 0 := by
  apply Finset.sum_eq_zero
  intro j mem
  rw [none j (Finset.mem_range.mp mem)]
  rfl

/-- One unknown is split off. -/
theorem combine_split (below : k < count) (same : ∀ j < count, j ≠ k → pick j = rest j)
    (free : rest k = false) :
    combine pick value count = combine rest value count + if pick k then value k else 0 := by
  have mem : k ∈ Finset.range count := Finset.mem_range.mpr below
  have others : ∑ j ∈ (Finset.range count).erase k, (if pick j then value j else 0) =
      ∑ j ∈ (Finset.range count).erase k, if rest j then value j else 0 := by
    apply Finset.sum_congr rfl
    intro j also
    rw [same j (Finset.mem_range.mp (Finset.mem_of_mem_erase also)) (Finset.ne_of_mem_erase also)]
  have first := Finset.sum_erase_add (Finset.range count) (fun j => if pick j then value j else 0) mem
  have second := Finset.sum_erase_add (Finset.range count) (fun j => if rest j then value j else 0) mem
  rw [combine, combine, ← first, ← second, others, free]
  simp

/-- One unknown is picked. -/
theorem combine_single (below : k < count) (only : ∀ j < count, j ≠ k → pick j = false)
    (picked : pick k = true) : combine pick value count = value k := by
  have split : combine pick value count =
      combine (fun _ => false) value count + if pick k then value k else 0 :=
    combine_split below only rfl
  rw [split, combine_none fun _ _ => rfl, picked, zero_add, if_pos rfl]

/-- What is added twice cancels. -/
theorem add_twice (double : ∀ v : V, v + v = 0) (a b : V) : a + b + b = a := by
  rw [add_assoc, double, add_zero]

/-- Two equations add up. -/
theorem combine_xor (double : ∀ v : V, v + v = 0) (pick row : ℕ → Bool) (value : ℕ → V)
    (count : ℕ) :
    combine (fun j => pick j ^^ row j) value count =
      combine pick value count + combine row value count := by
  rw [combine, combine, combine, ← Finset.sum_add_distrib]
  apply Finset.sum_congr rfl
  intro j _
  cases pick j <;> cases row j <;> simp [double]

/-! ## Leading picks -/

/-- The first pick of an equation. -/
structure Leads (pick : ℕ → Bool) (p : ℕ) : Prop where
  picked : pick p = true
  first : ∀ j < p, pick j = false

variable {p : ℕ}

/-- An equation is cleared up to its first pick by another one that leads there. -/
theorem Leads.clear (leads : Leads pick p) (also : Leads row p) :
    ∀ j ≤ p, (pick j ^^ row j) = false := by
  intro j upTo
  rcases Nat.lt_or_eq_of_le upTo with before | rfl
  · rw [leads.first j before, also.first j before]
    rfl
  · rw [leads.picked, also.picked]
    rfl

/-- The unknowns before one are left when it is taken out. -/
theorem combine_below (below : k < count) :
    combine (fun j => pick j && decide (j < k + 1)) value count =
      combine (fun j => pick j && decide (j < k)) value count + if pick k then value k else 0 := by
  have split : combine (fun j => pick j && decide (j < k + 1)) value count =
      combine (fun j => pick j && decide (j < k)) value count +
        if pick k && decide (k < k + 1) then value k else 0 := by
    apply combine_split below
    · intro j _ other
      have same : (j < k + 1) = (j < k) := by
        apply propext
        omega
      simp only [same]
    · simp
  simpa using split

/-- So are the unknowns from one on. -/
theorem combine_above (below : k < count) :
    combine (fun j => pick j && decide (k ≤ j)) value count =
      combine (fun j => pick j && decide (k + 1 ≤ j)) value count +
        if pick k then value k else 0 := by
  have split : combine (fun j => pick j && decide (k ≤ j)) value count =
      combine (fun j => pick j && decide (k + 1 ≤ j)) value count +
        if pick k && decide (k ≤ k) then value k else 0 := by
    apply combine_split below
    · intro j _ other
      have same : (k ≤ j) = (k + 1 ≤ j) := by
        apply propext
        omega
      simp only [same]
    · simp
  simpa using split

/-- The unknown at the first pick is left of an equation when those behind it are taken out. -/
theorem Leads.combine_below (leads : Leads pick p) (below : p < count) :
    combine (fun j => pick j && decide (j < p + 1)) value count = value p := by
  apply combine_single below
  · intro j _ other
    rcases Nat.lt_or_gt_of_ne other with before | behind
    · rw [leads.first j before]
      rfl
    · have out : ¬ j < p + 1 := by omega
      simp [out]
  · simp [leads.picked]

/-! ## Bytes -/

/-- A byte, in the group where addition is the exclusive or. -/
structure XorByte where
  byte : UInt8

namespace XorByte

instance : Zero XorByte :=
  ⟨⟨0⟩⟩

instance : Add XorByte :=
  ⟨fun first second => ⟨first.byte ^^^ second.byte⟩⟩

instance : AddCommMonoid XorByte where
  nsmul := nsmulRec
  add_assoc first second third := congrArg mk (UInt8.xor_assoc ..)
  add_comm first second := congrArg mk (UInt8.xor_comm ..)
  zero_add byte := congrArg mk UInt8.zero_xor
  add_zero byte := congrArg mk UInt8.xor_zero

theorem mk_xor (first second : UInt8) : mk (first ^^^ second) = mk first + mk second :=
  rfl

theorem add_self (byte : XorByte) : byte + byte = 0 :=
  congrArg mk UInt8.xor_self

end XorByte

end GenericNode.Library.Elimination
