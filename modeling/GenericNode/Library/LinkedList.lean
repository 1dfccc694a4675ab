import Mathlib.Data.Fintype.Card
import Mathlib.Tactic.Linarith

/-!
# Singly linked lists

The nodes that a pointer reaches through a `next` field.  A chain that ends in
the null pointer is finite, so that it visits no node twice.
-/

namespace GenericNode.Library

universe u

/-- The nodes met from a pointer on, up to the null pointer. -/
inductive Chain {ι : Type u} (next : ι → Option ι) : Option ι → List ι → Prop
  | null : Chain next none []
  | node (node : ι) (rest : List ι) (tail : Chain next (next node) rest) :
      Chain next (some node) (node :: rest)

/-- The nodes that a walk of so many steps meets. -/
def walk {ι : Type u} (next : ι → Option ι) : ℕ → Option ι → List ι
  | 0, _ => []
  | _ + 1, none => []
  | fuel + 1, some node => node :: walk next fuel (next node)

namespace Chain

variable {ι : Type u} {next next' : ι → Option ι} {pointer : Option ι}
  {nodes nodes' before after : List ι} {node new : ι}

theorem null_iff : Chain next none nodes ↔ nodes = [] := by
  constructor
  · intro chain
    cases chain
    rfl
  · rintro rfl
    exact .null

theorem cons_iff :
    Chain next pointer (node :: nodes) ↔ pointer = some node ∧ Chain next (next node) nodes := by
  constructor
  · intro chain
    cases chain with
    | node _ _ tail => exact ⟨rfl, tail⟩
  · rintro ⟨rfl, tail⟩
    exact .node node nodes tail

/-- A chain starts at its pointer. -/
theorem head_eq (chain : Chain next pointer nodes) : pointer = nodes.head? := by
  cases chain <;> rfl

/-- A pointer reaches one chain only. -/
theorem unique (chain : Chain next pointer nodes) (chain' : Chain next pointer nodes') :
    nodes = nodes' := by
  induction chain generalizing nodes' with
  | null => exact (null_iff.mp chain').symm
  | node node rest _ ih =>
      cases chain' with
      | node _ rest' tail' => rw [ih tail']

/-- A walk that is long enough meets the nodes of a chain. -/
theorem walk_eq (chain : Chain next pointer nodes) (fuel : ℕ) (enough : nodes.length < fuel) :
    walk next fuel pointer = nodes := by
  induction chain generalizing fuel with
  | null => cases fuel <;> rfl
  | node node rest _ ih =>
      cases fuel with
      | zero => exact absurd enough (Nat.not_lt_zero _)
      | succ fuel => rw [walk, ih fuel (Nat.lt_of_succ_lt_succ enough)]

/-- From each of its nodes on, the rest of a chain is a chain. -/
theorem suffix (chain : Chain next pointer (before ++ after)) :
    ∃ middle, Chain next middle after := by
  induction before generalizing pointer with
  | nil => exact ⟨pointer, chain⟩
  | cons first before ih => exact ih (cons_iff.mp chain).2

/-- The pointer in a node leads to the rest of the chain. -/
theorem tail_of_mem (chain : Chain next pointer (before ++ node :: after)) :
    Chain next (next node) after := by
  obtain ⟨middle, rest⟩ := chain.suffix
  exact (cons_iff.mp rest).2

/-- A chain visits no node twice. -/
theorem nodup (chain : Chain next pointer nodes) : nodes.Nodup := by
  induction chain with
  | null => exact List.nodup_nil
  | node node rest tail ih =>
      apply List.nodup_cons.mpr
      refine ⟨fun again => ?_, ih⟩
      obtain ⟨before, after, rfl⟩ := List.append_of_mem again
      -- Both visits of the node would see the same rest.
      have same := congrArg List.length (tail.unique tail.tail_of_mem)
      simp only [List.length_append, List.length_cons] at same
      omega

/-- A chain depends on the pointers in its own nodes. -/
theorem congr (chain : Chain next pointer nodes)
    (same : ∀ node ∈ nodes, next' node = next node) : Chain next' pointer nodes := by
  induction chain with
  | null => exact .null
  | node node rest _ ih =>
      apply cons_iff.mpr
      refine ⟨rfl, ?_⟩
      rw [same node List.mem_cons_self]
      exact ih fun later mem => same later (List.mem_cons_of_mem _ mem)

/-- Replace the rest of a chain behind one of its nodes. -/
theorem replace (chain : Chain next pointer (before ++ node :: after))
    (same : ∀ earlier ∈ before, next' earlier = next earlier)
    (rest : Chain next' (next' node) nodes) :
    Chain next' pointer (before ++ node :: nodes) := by
  induction before generalizing pointer with
  | nil => exact cons_iff.mpr ⟨(cons_iff.mp chain).1, rest⟩
  | cons first before ih =>
      have head := cons_iff.mp chain
      apply cons_iff.mpr
      refine ⟨head.1, ?_⟩
      rw [same first List.mem_cons_self]
      exact ih head.2 fun earlier mem => same earlier (List.mem_cons_of_mem _ mem)

/-- Insert a new node behind a node of the chain. -/
theorem insert_after (chain : Chain next pointer (before ++ node :: after))
    (fresh : new ∉ before ++ node :: after)
    (same : ∀ other, other ≠ node → other ≠ new → next' other = next other)
    (link : next' node = some new) (rest : next' new = next node) :
    Chain next' pointer (before ++ node :: new :: after) := by
  have distinct := List.nodup_append.mp chain.nodup
  have outside : node ∉ after := (List.nodup_cons.mp distinct.2.1).1
  apply chain.replace
  · intro earlier mem
    apply same
    · rintro rfl
      exact distinct.2.2 earlier mem earlier List.mem_cons_self rfl
    · rintro rfl
      exact fresh (List.mem_append_left _ mem)
  · rw [link]
    apply Chain.node
    rw [rest]
    apply chain.tail_of_mem.congr
    intro later mem
    apply same
    · rintro rfl
      exact outside mem
    · rintro rfl
      exact fresh (List.mem_append_right _ (List.mem_cons_of_mem _ mem))

/-- Unlink the node behind a node of the chain. -/
theorem remove_after (chain : Chain next pointer (before ++ node :: new :: after))
    (same : ∀ other, other ≠ node → next' other = next other)
    (skip : next' node = next new) : Chain next' pointer (before ++ node :: after) := by
  have distinct := List.nodup_append.mp chain.nodup
  have outside := (List.nodup_cons.mp distinct.2.1).1
  apply chain.replace
  · intro earlier mem
    apply same
    rintro rfl
    exact distinct.2.2 earlier mem earlier List.mem_cons_self rfl
  · rw [skip]
    have rest := (cons_iff.mp chain.tail_of_mem).2
    apply rest.congr
    intro later mem
    apply same
    rintro rfl
    exact outside (List.mem_cons_of_mem _ mem)

end Chain

end GenericNode.Library
