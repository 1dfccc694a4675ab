import Mathlib.Data.Fintype.Card
import Mathlib.Tactic.Linarith

/-!
# A hardware counter continued in software

The low part of the count is a free-running counter that wraps at `modulus`.
Software keeps the carry: each wrap raises a flag, and serving the flag adds
one to the carry.  The flag is a single bit, so a wrap that finds it raised is
lost.
-/

namespace GenericNode.Library

/-- The true count, the carry kept in software, and the flag of an unserved
wrap. -/
structure SplitCounter where
  total : ℕ
  carry : ℕ
  pending : Bool
deriving DecidableEq

namespace SplitCounter

variable (modulus : ℕ)

/-- What the hardware counter shows. -/
def low (counter : SplitCounter) : ℕ :=
  counter.total % modulus

/-- The next tick wraps the hardware counter. -/
def Wraps (counter : SplitCounter) : Prop :=
  modulus ∣ counter.total + 1

instance : DecidablePred (Wraps modulus) := fun counter =>
  decidable_of_iff ((counter.total + 1) % modulus = 0) Nat.dvd_iff_mod_eq_zero.symm

/-- The wraps so far are counted by the carry and the flag. -/
def Coherent (counter : SplitCounter) : Prop :=
  counter.total / modulus = counter.carry + counter.pending.toNat

/-- One tick. -/
def tick (counter : SplitCounter) : SplitCounter where
  total := counter.total + 1
  carry := counter.carry
  pending := counter.pending || decide (Wraps modulus counter)

/-- Serve the flag. -/
def serve (counter : SplitCounter) : SplitCounter where
  total := counter.total
  carry := counter.carry + 1
  pending := false

variable {modulus}

/-- A tick keeps the count coherent unless it wraps over a raised flag. -/
theorem Coherent.tick {counter : SplitCounter}
    (coherent : counter.Coherent modulus)
    (kept : counter.Wraps modulus → counter.pending = false) :
    (counter.tick modulus).Coherent modulus := by
  simp only [Coherent, SplitCounter.tick, Nat.succ_div] at coherent ⊢
  by_cases wraps : counter.Wraps modulus
  · have clear := kept wraps
    simp only [Wraps] at wraps
    simp_all [Wraps]
  · have stays : ¬ modulus ∣ counter.total + 1 := wraps
    simp [stays, wraps, coherent]

/-- Serving a raised flag keeps the count coherent. -/
theorem Coherent.serve {counter : SplitCounter} (coherent : counter.Coherent modulus)
    (raised : counter.pending = true) : counter.serve.Coherent modulus := by
  simp only [Coherent, SplitCounter.serve, raised] at coherent ⊢
  simpa using coherent

end SplitCounter

end GenericNode.Library
