import Mathlib.Data.List.Basic

/-!
# The queues of the kernel

FreeRTOS is not part of this repository: its queues are a parameter, with what
the documentation says of their calls.  Lists are an instance.
-/

namespace GenericNode.FreeRtos

/-- The queues of a kernel: their calls, the items in a queue, the oldest one
first, and how many it may hold. -/
structure QueueKernel where
  Queue : Type → Type
  items : {α : Type} → Queue α → List α
  length : {α : Type} → Queue α → ℕ
  xQueueCreate : {α : Type} → ℕ → Queue α
  xQueueSend : {α : Type} → Queue α → α → Bool × Queue α
  xQueueReceive : {α : Type} → Queue α → Option α × Queue α

namespace QueueKernel

/-- A queue may hold so many items, and holds these. -/
structure Holds (kernel : QueueKernel) {α : Type} (queue : kernel.Queue α) (length : ℕ)
    (items : List α) : Prop where
  length : kernel.length queue = length
  items : kernel.items queue = items

/-- What the documentation says: a queue is created empty; an item is put at
its back, unless it is full; and it is received from its front, unless it is
empty. -/
structure Documented (kernel : QueueKernel) : Prop where
  create : ∀ {α : Type} (length : ℕ),
    kernel.Holds (kernel.xQueueCreate length : kernel.Queue α) length []
  sent : ∀ {α : Type} {queue : kernel.Queue α} {length : ℕ} {items : List α} (item : α),
    kernel.Holds queue length items → items.length < length →
      (kernel.xQueueSend queue item).1 = true ∧
        kernel.Holds (kernel.xQueueSend queue item).2 length (items ++ [item])
  full : ∀ {α : Type} {queue : kernel.Queue α} {length : ℕ} {items : List α} (item : α),
    kernel.Holds queue length items → length ≤ items.length →
      (kernel.xQueueSend queue item).1 = false ∧
        kernel.Holds (kernel.xQueueSend queue item).2 length items
  receive : ∀ {α : Type} {queue : kernel.Queue α} {length : ℕ} {items : List α},
    kernel.Holds queue length items →
      (kernel.xQueueReceive queue).1 = items.head? ∧
        kernel.Holds (kernel.xQueueReceive queue).2 length items.tail

section Calls

variable {kernel : QueueKernel} {α : Type} {queue : kernel.Queue α} {length : ℕ} {item : α}
  {items : List α}

/-- The oldest item is received. -/
theorem Documented.receive_cons (documented : kernel.Documented)
    (holds : kernel.Holds queue length (item :: items)) :
    ∃ rest, kernel.xQueueReceive queue = (some item, rest) ∧ kernel.Holds rest length items := by
  obtain ⟨front, rest⟩ := documented.receive holds
  exact ⟨_, Prod.ext front rfl, rest⟩

/-- From an empty queue nothing is received. -/
theorem Documented.receive_nil (documented : kernel.Documented)
    (holds : kernel.Holds queue length []) :
    ∃ rest, kernel.xQueueReceive queue = (none, rest) ∧ kernel.Holds rest length [] := by
  obtain ⟨front, rest⟩ := documented.receive holds
  exact ⟨_, Prod.ext front rfl, rest⟩

/-- An item that was sent is at the back. -/
theorem Documented.holds_of_sent (documented : kernel.Documented)
    (holds : kernel.Holds queue length items) (sent : (kernel.xQueueSend queue item).1 = true) :
    kernel.Holds (kernel.xQueueSend queue item).2 length (items ++ [item]) := by
  rcases Nat.lt_or_ge items.length length with room | full
  · exact (documented.sent item holds room).2
  · rw [(documented.full item holds full).1] at sent
    cases sent

/-- An item is refused by a full queue. -/
theorem Documented.holds_of_refused (documented : kernel.Documented)
    (holds : kernel.Holds queue length items) (refused : (kernel.xQueueSend queue item).1 = false) :
    length ≤ items.length ∧ kernel.Holds (kernel.xQueueSend queue item).2 length items := by
  rcases Nat.lt_or_ge items.length length with room | full
  · rw [(documented.sent item holds room).1] at refused
    cases refused
  · exact ⟨full, (documented.full item holds full).2⟩

end Calls

end QueueKernel

/-! ## Lists -/

/-- A queue as the list of its items. -/
structure ListQueue (α : Type) where
  items : List α
  length : ℕ
deriving DecidableEq, Repr

/-- The kernel of these queues. -/
def listQueues : QueueKernel where
  Queue := ListQueue
  items := ListQueue.items
  length := ListQueue.length
  xQueueCreate length := ⟨[], length⟩
  xQueueSend queue item :=
    if queue.items.length < queue.length then
      (true, { queue with items := queue.items ++ [item] })
    else (false, queue)
  xQueueReceive queue := (queue.items.head?, { queue with items := queue.items.tail })

theorem listQueues_documented : listQueues.Documented where
  create _ := ⟨rfl, rfl⟩
  sent := by
    rintro α ⟨items, length⟩ _ _ item ⟨rfl, rfl⟩ room
    change items.length < length at room
    simp only [listQueues, if_pos room]
    exact ⟨trivial, rfl, rfl⟩
  full := by
    rintro α ⟨items, length⟩ _ _ item ⟨rfl, rfl⟩ full
    change length ≤ items.length at full
    simp only [listQueues, if_neg (Nat.not_lt.mpr full)]
    exact ⟨trivial, rfl, rfl⟩
  receive := by
    rintro α queue _ _ ⟨rfl, rfl⟩
    exact ⟨rfl, rfl, rfl⟩

end GenericNode.FreeRtos
