import Mathlib.Data.List.Basic
import Mathlib.Order.Defs.Unbundled

/-!
# Logs of counters

A receiver keeps the last counter it took and takes only later ones, except
that a value of its own stands for no counter.  What it took is then in order,
as long as it never took that value.
-/

namespace GenericNode.Library

variable {α : Type} [LT α] {initial start last counter : α} {log : List α}

/-- A counter that the receiver takes after `last`. -/
def FreshAfter (initial last counter : α) : Prop :=
  last < counter ∨ last = initial

/-- The receiver took the counters in `log` since the counter was `start`. -/
structure FreshLog (initial start last : α) (log : List α) : Prop where
  last_eq : log.getLastD start = last
  most : initial ∉ log → ∀ taken ∈ log, taken < last ∨ taken = last
  rising : initial ∉ log → log.Pairwise (· < ·)
  since : initial ∉ log → start = initial ∨ ∀ taken ∈ log, start < taken

namespace FreshLog

/-- Nothing was taken at the start. -/
theorem nil (initial start : α) : FreshLog initial start start [] where
  last_eq := rfl
  most _ _ taken := by cases taken
  rising _ := List.Pairwise.nil
  since _ := .inr fun _ taken => by cases taken

/-- The last counter is the start or was taken. -/
theorem last_cases (taken : FreshLog initial start last log) :
    (log = [] ∧ last = start) ∨ last ∈ log := by
  have last_eq := taken.last_eq
  rcases List.eq_nil_or_concat log with rfl | ⟨before, final, rfl⟩
  · exact .inl ⟨rfl, last_eq.symm⟩
  · rw [List.concat_eq_append, List.getLastD_concat] at last_eq
    exact .inr (by simp [last_eq])

/-- A fresh counter is taken. -/
theorem take [IsTrans α (· < ·)] (taken : FreshLog initial start last log)
    (fresh : FreshAfter initial last counter) :
    FreshLog initial start counter (log ++ [counter]) := by
  have before : initial ∉ log ++ [counter] → initial ∉ log := by
    intro never
    exact fun member => never (List.mem_append_left _ member)
  -- Unless nothing was taken, the last counter is a counter.
  have later : initial ∉ log → log = [] ∨ last < counter := by
    intro never
    rcases taken.last_cases with ⟨nil, -⟩ | member
    · exact .inl nil
    · rcases fresh with later | initial_eq
      · exact .inr later
      · exact absurd (initial_eq ▸ member) never
  have above : initial ∉ log → ∀ other ∈ log, other < counter := by
    intro never other member
    rcases later never with rfl | later
    · cases member
    · rcases taken.most never other member with smaller | rfl
      · exact IsTrans.trans _ _ _ smaller later
      · exact later
  constructor
  · rw [List.getLastD_concat]
  · intro never other member
    rcases List.mem_append.mp member with old | new
    · exact .inl (above (before never) other old)
    · exact .inr (List.mem_singleton.mp new)
  · intro never
    rw [List.pairwise_append]
    refine ⟨taken.rising (before never), List.pairwise_singleton _ _, ?_⟩
    intro other old new member
    rw [List.mem_singleton.mp member]
    exact above (before never) other old
  · intro never
    rcases taken.since (before never) with initial_eq | since
    · exact .inl initial_eq
    · rcases taken.last_cases with ⟨rfl, last_eq⟩ | member
      · rcases fresh with later | initial_eq
        · refine .inr fun other member => ?_
          rw [List.nil_append, List.mem_singleton] at member
          rw [member, ← last_eq]
          exact later
        · exact .inl (last_eq ▸ initial_eq)
      · refine .inr fun other appended => ?_
        rcases List.mem_append.mp appended with old | new
        · exact since other old
        · rw [List.mem_singleton.mp new]
          exact IsTrans.trans _ _ _ (since last member) (above (before never) last member)

end FreshLog

end GenericNode.Library
