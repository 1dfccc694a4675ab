import GenericNode.Fuota.BitArrays

/-!
# Missing fragments

`FragNbMissingIndex` has a zero for a fragment that was received, and numbers
those that were not; below the last one that was received, the numbers are
those of the lost fragments, each once.
-/

namespace GenericNode.Fuota

namespace FragDecoder

/-- What is noted of a fragment. -/
def missing (decoder : FragDecoder) (i : ℕ) : ℕ :=
  decoder.fragNbMissingIndex[i]?.getD 0

/-- How far the fragments were looked at. -/
def reached (decoder : FragDecoder) : ℕ :=
  min decoder.status.fragNbLastRx decoder.fragNb

/-- Where the x-th missing fragment is. -/
def place (decoder : FragDecoder) (x : ℕ) : ℕ :=
  (decoder.fragFindMissingIndex x).getD 0

variable {decoder final marked : FragDecoder} {i x value low high count reach : ℕ}

theorem missing_eq (inside : i < decoder.fragNbMissingIndex.length) :
    decoder.fragNbMissingIndex[i]? = some (decoder.missing i) := by
  rw [missing, List.getElem?_eq_getElem inside, Option.getD_some]

theorem missing_set (inside : i < decoder.fragNbMissingIndex.length) (value k : ℕ) :
    missing { decoder with fragNbMissingIndex := decoder.fragNbMissingIndex.set i value } k =
      if k = i then value else decoder.missing k := by
  rw [missing, missing, List.getElem?_set]
  by_cases here : i = k
  · subst here
    rw [if_pos rfl, if_pos rfl, if_pos inside, Option.getD_some]
  · rw [if_neg here, if_neg (Ne.symm here)]

/-- A fragment is received. -/
def noteReceived (decoder : FragDecoder) (i : ℕ) : FragDecoder :=
  { decoder with fragNbMissingIndex := decoder.fragNbMissingIndex.set i 0 }

theorem setMissingIndex_zero (inside : i < decoder.fragNbMissingIndex.length) :
    decoder.setMissingIndex i 0 = some (decoder.noteReceived i) :=
  if_pos inside

theorem missing_noteReceived (inside : i < decoder.fragNbMissingIndex.length) (k : ℕ) :
    (decoder.noteReceived i).missing k = if k = i then 0 else decoder.missing k :=
  missing_set inside 0 k

/-! ## Marking -/

/-- One more fragment is lost. -/
def noteLost (decoder : FragDecoder) (i : ℕ) : FragDecoder :=
  { decoder with
    fragNbMissingIndex := decoder.fragNbMissingIndex.set i (decoder.status.fragNbLost + 1)
    status := { decoder.status with fragNbLost := decoder.status.fragNbLost + 1 } }

theorem markMissing_eq (more : i < decoder.fragNb)
    (inside : i < decoder.fragNbMissingIndex.length) :
    decoder.markMissing i = some (decoder.noteLost i) := by
  rw [markMissing, if_pos more]
  exact if_pos inside

theorem missing_noteLost (inside : i < decoder.fragNbMissingIndex.length) (k : ℕ) :
    (decoder.noteLost i).missing k =
      if k = i then decoder.status.fragNbLost + 1 else decoder.missing k :=
  missing_set inside _ k

/-- The fragments from one on to before another one were marked. -/
structure Marks (decoder : FragDecoder) (low high : ℕ) (final : FragDecoder) : Prop where
  same : final =
    { decoder with
      fragNbMissingIndex := final.fragNbMissingIndex
      status := { decoder.status with
        fragNbLost := decoder.status.fragNbLost + (high - low) } }
  length : final.fragNbMissingIndex.length = decoder.fragNbMissingIndex.length
  noted : ∀ i, low ≤ i → i < high →
    final.missing i = decoder.status.fragNbLost + (i - low) + 1
  others : ∀ i, i < low ∨ high ≤ i → final.missing i = decoder.missing i

/-- Nothing is marked. -/
theorem Marks.none (empty : high ≤ low) : Marks decoder low high decoder := by
  refine ⟨?_, rfl, fun i above below => ?_, fun _ _ => rfl⟩
  · rw [Nat.sub_eq_zero_of_le empty]
    rfl
  · omega

/-- The first one is marked before the others. -/
theorem Marks.cons (more : low < high) (inside : low < decoder.fragNbMissingIndex.length)
    (marks : Marks (decoder.noteLost low) (low + 1) high final) : Marks decoder low high final := by
  have written := missing_noteLost inside
  refine ⟨?_, ?_, fun i above below => ?_, fun i away => ?_⟩
  · have lost : decoder.status.fragNbLost + 1 + (high - (low + 1)) =
        decoder.status.fragNbLost + (high - low) := by omega
    rw [← lost]
    exact marks.same
  · rw [marks.length, noteLost, List.length_set]
  · rcases Nat.lt_or_eq_of_le above with behind | rfl
    · rw [marks.noted i behind below]
      change decoder.status.fragNbLost + 1 + _ + 1 = _
      omega
    · rw [marks.others low (.inl (Nat.lt_succ_self low)), written, if_pos rfl, Nat.sub_self]
  · rw [marks.others i (by omega), written, if_neg (by omega)]

theorem markAll_behind (behind : decoder.fragNb ≤ low) :
    decoder.markAll count low = some decoder := by
  induction count generalizing low with
  | zero => rfl
  | succ count ih =>
      rw [markAll, markMissing, if_neg (not_lt.mpr behind)]
      exact ih (Nat.le_succ_of_le behind)

theorem markAll_eq (decoder : FragDecoder) (count low : ℕ)
    (inside : min (low + count) decoder.fragNb ≤ decoder.fragNbMissingIndex.length) :
    ∃ final, decoder.markAll count low = some final ∧
      Marks decoder low (min (low + count) decoder.fragNb) final := by
  induction count generalizing decoder low with
  | zero => exact ⟨decoder, rfl, .none (by omega)⟩
  | succ count ih =>
      have ends : low + 1 + count = low + (count + 1) := by omega
      by_cases more : low < decoder.fragNb
      · have room : low < decoder.fragNbMissingIndex.length := by omega
        obtain ⟨final, run, marks⟩ := ih (decoder.noteLost low) (low + 1) (by
          rw [ends, noteLost, List.length_set]
          exact inside)
        rw [ends] at marks
        refine ⟨final, ?_, .cons (by omega) room marks⟩
        rw [markAll, markMissing_eq more room]
        exact run
      · rw [markAll_behind (not_lt.mp more)]
        exact ⟨decoder, rfl, .none (by omega)⟩

/-- The last fragment that was looked at. -/
def lookedTo (decoder : FragDecoder) (lastRx : ℕ) : FragDecoder :=
  { decoder with status := { decoder.status with fragNbLastRx := lastRx } }

theorem reached_lookedTo (lastRx : ℕ) :
    (decoder.lookedTo lastRx).reached = min lastRx decoder.fragNb :=
  rfl

/-- The fragments before a counter are marked, from the last one that was received on. -/
theorem fragFindMissingFrags_eq (decoder : FragDecoder) (counter : ℕ)
    (inside : min (max decoder.status.fragNbLastRx (counter - 1)) decoder.fragNb ≤
      decoder.fragNbMissingIndex.length) :
    ∃ marked, Marks decoder decoder.status.fragNbLastRx
        (min (max decoder.status.fragNbLastRx (counter - 1)) decoder.fragNb) marked ∧
      decoder.fragFindMissingFrags counter = some (marked.lookedTo
        (if max decoder.status.fragNbLastRx (counter - 1) < decoder.fragNb then counter
          else decoder.fragNb + 1)) := by
  have ends : decoder.status.fragNbLastRx + (counter - 1 - decoder.status.fragNbLastRx) =
      max decoder.status.fragNbLastRx (counter - 1) := by omega
  rw [← ends] at inside
  obtain ⟨marked, run, marks⟩ := markAll_eq _ _ _ inside
  rw [ends] at marks
  have fragNb : marked.fragNb = decoder.fragNb := by rw [marks.same]
  refine ⟨marked, marks, ?_⟩
  rw [← fragNb]
  simp only [fragFindMissingFrags, run, Option.bind_eq_bind, Option.bind_some]
  rfl

/-- When everything was looked at, nothing is marked. -/
theorem fragFindMissingFrags_of_looked
    (looked : decoder.status.fragNbLastRx = decoder.fragNb + 1) (counter : ℕ) :
    decoder.fragFindMissingFrags counter = some decoder := by
  have behind : ¬ max (decoder.fragNb + 1) (counter - 1) < decoder.fragNb := by omega
  have same : decoder.lookedTo (decoder.fragNb + 1) = decoder := by
    rw [lookedTo, ← looked]
  simp only [fragFindMissingFrags, looked, markAll_behind (Nat.le_succ decoder.fragNb),
    Option.bind_eq_bind, Option.bind_some, if_neg behind]
  exact congrArg some same

end FragDecoder

/-! ## Notes -/

/-- The notes below a fragment number the lost ones. -/
structure Marked (decoder : FragDecoder) (reach : ℕ) : Prop where
  bounded : ∀ i < reach, decoder.missing i ≤ decoder.status.fragNbLost
  injective : ∀ i < reach, ∀ k < reach,
    decoder.missing i = decoder.missing k → decoder.missing i ≠ 0 → i = k
  onto : ∀ x < decoder.status.fragNbLost, ∃ i < reach, decoder.missing i = x + 1

variable {decoder final : FragDecoder} {i x low high reach : ℕ}

/-- Only the notes below the fragment count. -/
theorem Marked.congr (marked : Marked decoder reach)
    (lost : final.status.fragNbLost = decoder.status.fragNbLost)
    (same : ∀ i < reach, final.missing i = decoder.missing i) : Marked final reach := by
  constructor
  · intro i below
    rw [same i below, lost]
    exact marked.bounded i below
  · intro i below k below' equal nonzero
    rw [same i below] at equal nonzero
    rw [same k below'] at equal
    exact marked.injective i below k below' equal nonzero
  · intro x below
    rw [lost] at below
    obtain ⟨i, inside, number⟩ := marked.onto x below
    exact ⟨i, inside, (same i inside).trans number⟩

/-- A fragment that was received comes next. -/
theorem Marked.received (marked : Marked decoder reach) (zero : decoder.missing reach = 0) :
    Marked decoder (reach + 1) := by
  have earlier : ∀ i < reach + 1, decoder.missing i ≠ 0 → i < reach := by
    intro i below nonzero
    rcases Nat.lt_succ_iff_lt_or_eq.mp below with before | rfl
    · exact before
    · exact absurd zero nonzero
  constructor
  · intro i below
    by_cases nonzero : decoder.missing i = 0
    · rw [nonzero]
      exact Nat.zero_le _
    · exact marked.bounded i (earlier i below nonzero)
  · intro i below k below' equal nonzero
    exact marked.injective i (earlier i below nonzero) k
      (earlier k below' (by rwa [← equal])) equal nonzero
  · intro x below
    obtain ⟨i, inside, number⟩ := marked.onto x below
    exact ⟨i, Nat.lt_succ_of_lt inside, number⟩

/-- The fragments that are marked next get the next numbers. -/
theorem Marked.marks (marked : Marked decoder (min low decoder.fragNb))
    (marks : decoder.Marks low high final) (further : min low decoder.fragNb ≤ high)
    (upTo : high ≤ decoder.fragNb) : Marked final high := by
  have lost : final.status.fragNbLost = decoder.status.fragNbLost + (high - low) := by
    rw [marks.same]
  have old : ∀ i < min low decoder.fragNb, final.missing i = decoder.missing i :=
    fun i below => marks.others i (.inl (by omega))
  have new : ∀ i, ¬ i < min low decoder.fragNb → i < high → low ≤ i ∧
      final.missing i = decoder.status.fragNbLost + (i - low) + 1 :=
    fun i behind below => ⟨by omega, marks.noted i (by omega) below⟩
  constructor
  · intro i below
    by_cases before : i < min low decoder.fragNb
    · rw [old i before, lost]
      exact (marked.bounded i before).trans (Nat.le_add_right _ _)
    · obtain ⟨behind, number⟩ := new i before below
      omega
  · intro i below k below' equal nonzero
    by_cases before : i < min low decoder.fragNb <;>
      by_cases before' : k < min low decoder.fragNb
    · rw [old i before] at equal nonzero
      rw [old k before'] at equal
      exact marked.injective i before k before' equal nonzero
    · obtain ⟨-, number⟩ := new k before' below'
      have bound := marked.bounded i before
      rw [old i before] at equal
      omega
    · obtain ⟨-, number⟩ := new i before below
      have bound := marked.bounded k before'
      rw [old k before'] at equal
      omega
    · obtain ⟨behind, number⟩ := new i before below
      obtain ⟨behind', number'⟩ := new k before' below'
      omega
  · intro x below
    by_cases before : x < decoder.status.fragNbLost
    · obtain ⟨i, inside, number⟩ := marked.onto x before
      exact ⟨i, by omega, (old i inside).trans number⟩
    · have inside : low + (x - decoder.status.fragNbLost) < high := by omega
      obtain ⟨-, number⟩ := new _ (by omega) inside
      exact ⟨_, inside, number.trans (by omega)⟩

/-! ## Places -/

/-- Each missing fragment has its place. -/
theorem Marked.place (marked : Marked decoder decoder.fragNb)
    (fits : decoder.fragNb ≤ decoder.fragNbMissingIndex.length)
    (below : x < decoder.status.fragNbLost) :
    decoder.fragFindMissingIndex x = some (decoder.place x) ∧
      decoder.place x < decoder.fragNb ∧ decoder.missing (decoder.place x) = x + 1 := by
  have search := firstIndex_eq (fun i => decoder.fragNbMissingIndex[i]?.map (· == x + 1))
    (fun i => decoder.missing i == x + 1) decoder.fragNb 0 (by
      intro j inside
      have room : j < decoder.fragNbMissingIndex.length := by omega
      simp only [FragDecoder.missing_eq room, Option.map_some])
  rcases search with ⟨first, run, -, inside, found, -⟩ | ⟨-, none⟩
  · have at_first : decoder.fragFindMissingIndex x = some first := by
      rw [FragDecoder.fragFindMissingIndex, run]
      rfl
    have same : decoder.place x = first := by
      rw [FragDecoder.place, at_first, Option.getD_some]
    rw [same]
    exact ⟨at_first, by omega, beq_iff_eq.mp found⟩
  · obtain ⟨i, inside, number⟩ := marked.onto x below
    have not_found := none i (Nat.zero_le i) (by omega)
    rw [number, beq_self_eq_true] at not_found
    cases not_found

/-- There is no other fragment with its number. -/
theorem Marked.eq_place (marked : Marked decoder decoder.fragNb)
    (fits : decoder.fragNb ≤ decoder.fragNbMissingIndex.length) (inside : i < decoder.fragNb)
    (number : decoder.missing i = x + 1) : i = decoder.place x := by
  have bound := marked.bounded i inside
  have below : x < decoder.status.fragNbLost := by omega
  obtain ⟨-, place_inside, place_number⟩ := marked.place fits below
  exact marked.injective i inside _ place_inside (number.trans place_number.symm) (by omega)

end GenericNode.Fuota
