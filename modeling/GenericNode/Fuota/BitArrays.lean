import GenericNode.Fuota.Decoder

/-!
# Bit arrays of the decoder

What the operations on bit arrays leave, bit by bit, and that they are defined
within the arrays.  The rows of the triangular matrix do not overlap.
-/

namespace GenericNode.Fuota

/-- A bit of a bit array. -/
def bitAt (bits : List Bool) (index : ℕ) : Bool :=
  bits[index]?.getD false

variable {bits line1 line2 : List Bool} {index size : ℕ}

theorem getParity_eq (inside : index < bits.length) :
    getParity index bits = some (bitAt bits index) := by
  rw [getParity, bitAt, List.getElem?_eq_getElem inside, Option.getD_some]

theorem setParity_eq (inside : index < bits.length) (parity : Bool) :
    setParity index bits parity = some (bits.set index parity) :=
  if_pos inside

theorem bitAt_set (inside : index < bits.length) (parity : Bool) (j : ℕ) :
    bitAt (bits.set index parity) j = if j = index then parity else bitAt bits j := by
  rw [bitAt, bitAt, List.getElem?_set]
  by_cases here : index = j
  · subst here
    rw [if_pos rfl, if_pos rfl, if_pos inside, Option.getD_some]
  · rw [if_neg here, if_neg (Ne.symm here)]

theorem bitAt_replicate_false (size j : ℕ) : bitAt (List.replicate size false) j = false := by
  rw [bitAt, List.getElem?_replicate]
  split <;> rfl

theorem bitAt_replicate_true {j : ℕ} (inside : j < size) :
    bitAt (List.replicate size true) j = true := by
  rw [bitAt, List.getElem?_replicate, if_pos inside, Option.getD_some]

/-! ## Lines -/

/-- The first bits are the sums. -/
theorem xorParityLine_eq (fits1 : size ≤ line1.length) (fits2 : size ≤ line2.length) :
    ∃ line, xorParityLine line1 line2 size = some line ∧ line.length = line1.length ∧
      ∀ j, bitAt line j = (bitAt line1 j ^^ (decide (j < size) && bitAt line2 j)) := by
  induction size with
  | zero =>
      refine ⟨line1, rfl, rfl, fun j => ?_⟩
      simp
  | succ size ih =>
      obtain ⟨line, run, length, bit⟩ := ih (by omega) (by omega)
      have inside : size < line.length := by omega
      refine ⟨line.set size (bitAt line size ^^ bitAt line2 size), ?_, ?_, fun j => ?_⟩
      · simp only [xorParityLine, run, getParity_eq inside,
          getParity_eq (show size < line2.length by omega), Option.bind_eq_bind, Option.bind_some,
          setParity_eq inside]
      · rw [List.length_set, length]
      · rw [bitAt_set inside]
        by_cases here : j = size
        · subst here
          rw [if_pos rfl, bit]
          simp
        · have same : (j < size + 1) = (j < size) := by
            apply propext
            omega
          rw [if_neg here, bit]
          simp only [same]

/-- Where the search ends. -/
theorem firstIndex_eq (test : ℕ → Option Bool) (found : ℕ → Bool) (size index : ℕ)
    (defined : ∀ j < index + size, test j = some (found j)) :
    (∃ first, firstIndex test size index = some (some first) ∧ index ≤ first ∧
      first < index + size ∧ found first = true ∧
        ∀ j, index ≤ j → j < first → found j = false) ∨
    (firstIndex test size index = some none ∧
      ∀ j, index ≤ j → j < index + size → found j = false) := by
  induction size generalizing index with
  | zero =>
      refine .inr ⟨rfl, fun j low high => ?_⟩
      omega
  | succ size ih =>
      have here := defined index (by omega)
      rw [firstIndex, here]
      cases yes : found index with
      | true =>
          refine .inl ⟨index, rfl, Nat.le_refl _, by omega, yes, fun j low high => ?_⟩
          omega
      | false =>
          have step : ∀ j, index ≤ j → ¬ index + 1 ≤ j → found j = false := by
            intro j low high
            obtain rfl : j = index := by omega
            exact yes
          rcases ih (index + 1) fun j below => defined j (by omega) with
            ⟨first, run, low, high, first_found, before⟩ | ⟨run, all⟩
          · refine .inl ⟨first, run, by omega, by omega, first_found, fun j low below => ?_⟩
            by_cases behind : index + 1 ≤ j
            · exact before j behind below
            · exact step j low behind
          · refine .inr ⟨run, fun j low below => ?_⟩
            by_cases behind : index + 1 ≤ j
            · exact all j behind (by omega)
            · exact step j low behind

/-- The first bit that is set, if one is. -/
theorem bitArrayFindFirstOne_eq (fits : size ≤ bits.length) :
    (∃ first < size, bitArrayFindFirstOne bits size = some first ∧ bitAt bits first = true ∧
      ∀ j < first, bitAt bits j = false) ∨
    (bitArrayFindFirstOne bits size = some 0 ∧ ∀ j < size, bitAt bits j = false) := by
  have search := firstIndex_eq (fun index => getParity index bits) (bitAt bits) size 0
    fun j below => getParity_eq (by omega)
  rcases search with ⟨first, run, -, below, found, before⟩ | ⟨run, all⟩
  · refine .inl ⟨first, by omega, ?_, found, fun j early => before j (Nat.zero_le j) early⟩
    rw [bitArrayFindFirstOne, run]
    rfl
  · refine .inr ⟨?_, fun j below => all j (Nat.zero_le j) (by omega)⟩
    rw [bitArrayFindFirstOne, run]
    rfl

theorem bitArrayIsAllZeros_eq (fits : size ≤ bits.length) :
    (bitArrayIsAllZeros bits size = some true ∧ ∀ j < size, bitAt bits j = false) ∨
    (bitArrayIsAllZeros bits size = some false ∧ ∃ j < size, bitAt bits j = true) := by
  have search := firstIndex_eq (fun index => getParity index bits) (bitAt bits) size 0
    fun j below => getParity_eq (by omega)
  rcases search with ⟨first, run, -, below, found, -⟩ | ⟨run, all⟩
  · refine .inr ⟨?_, first, by omega, found⟩
    rw [bitArrayIsAllZeros, run]
    rfl
  · refine .inl ⟨?_, fun j below => all j (Nat.zero_le j) (by omega)⟩
    rw [bitArrayIsAllZeros, run]
    rfl

/-! ## The triangular matrix -/

/-- A bit of a row of the matrix, from the diagonal on. -/
def matrixBit (matrix : List Bool) (lost x j : ℕ) : Bool :=
  bitAt matrix (rowStart x lost + (j - x))

/-- The rows of up to eight missing fragments follow each other. -/
theorem rowStart_add {lost x : ℕ} (small : lost ≤ redundancyBits) (below : x < lost) :
    rowStart x lost + (lost - x) ≤ redundancyBits * fragMaxRedundancy ∧
      ∀ y < lost, x < y → rowStart x lost + (lost - x) ≤ rowStart y lost := by
  have all : ∀ lost ≤ redundancyBits, ∀ x < lost,
      rowStart x lost + (lost - x) ≤ redundancyBits * fragMaxRedundancy ∧
        ∀ y < lost, x < y → rowStart x lost + (lost - x) ≤ rowStart y lost := by
    decide
  exact all lost small x below

variable {matrix : List Bool} {x start lost : ℕ}

theorem extractBits_eq (narrow : size ≤ redundancyBits)
    (inside : start + (size - x) ≤ matrix.length) :
    ∃ line, extractBits matrix x start size = some line ∧ line.length = redundancyBits ∧
      ∀ j, bitAt line j = (decide (x ≤ j ∧ j < size) && bitAt matrix (start + (j - x))) := by
  induction size with
  | zero =>
      refine ⟨_, rfl, List.length_replicate .., fun j => ?_⟩
      rw [bitAt_replicate_false]
      simp
  | succ size ih =>
      obtain ⟨line, run, length, bit⟩ := ih (by omega) (by omega)
      have room : size < line.length := by omega
      refine ⟨line.set size (decide (x ≤ size) && bitAt matrix (start + (size - x))), ?_, ?_,
        fun j => ?_⟩
      · simp only [extractBits, run, Option.bind_eq_bind, Option.bind_some, setParity_eq room]
        by_cases before : size < x
        · rw [if_pos before, decide_eq_false (by omega), Bool.false_and]
        · rw [if_neg before, getParity_eq (by omega), decide_eq_true (by omega), Bool.true_and]
          rfl
      · rw [List.length_set, length]
      · rw [bitAt_set room]
        by_cases here : j = size
        · subst here
          rw [if_pos rfl]
          simp
        · have same : (x ≤ j ∧ j < size + 1) = (x ≤ j ∧ j < size) := by
            apply propext
            omega
          rw [if_neg here, bit]
          simp only [same]

/-- A row of the matrix with zeros before the diagonal. -/
theorem fragExtractLine_eq (small : lost ≤ redundancyBits) (below : x < lost)
    (length : matrix.length = redundancyBits * fragMaxRedundancy) :
    ∃ line, fragExtractLineFromBinaryMatrix matrix x lost = some line ∧
      line.length = redundancyBits ∧
      ∀ j, bitAt line j = (decide (x ≤ j ∧ j < lost) && matrixBit matrix lost x j) := by
  have inside := (rowStart_add small below).1
  rw [fragExtractLineFromBinaryMatrix, Nat.max_eq_right (Nat.le_of_lt below)]
  exact extractBits_eq small (by omega)

theorem pushBits_eq (start size : ℕ) (inside : start + size ≤ matrix.length)
    (fits : x + size ≤ bits.length) :
    ∃ pushed, pushBits bits matrix x start size = some pushed ∧ pushed.length = matrix.length ∧
      (∀ i < size, bitAt pushed (start + i) = (bitAt matrix (start + i) && bitAt bits (x + i))) ∧
      ∀ k, k < start ∨ start + size ≤ k → bitAt pushed k = bitAt matrix k := by
  induction size with
  | zero => exact ⟨matrix, rfl, rfl, fun i below => absurd below (Nat.not_lt_zero i), fun _ _ => rfl⟩
  | succ size ih =>
      obtain ⟨pushed, run, length, within, outside⟩ := ih (by omega) (by omega)
      have source : getParity (x + size) bits = some (bitAt bits (x + size)) :=
        getParity_eq (by omega)
      have room : start + size < pushed.length := by omega
      have unchanged := outside (start + size) (.inr (Nat.le_refl _))
      cases bit : bitAt bits (x + size) with
      | true =>
          refine ⟨pushed, ?_, length, fun i below => ?_, fun k away => outside k (by omega)⟩
          · simp only [pushBits, run, source, bit, Option.bind_eq_bind, Option.bind_some, if_true]
          · rcases Nat.lt_succ_iff_lt_or_eq.mp below with before | rfl
            · exact within i before
            · rw [unchanged, bit, Bool.and_true]
      | false =>
          refine ⟨pushed.set (start + size) false, ?_, ?_, fun i below => ?_, fun k away => ?_⟩
          · simp only [pushBits, run, source, bit, Option.bind_eq_bind, Option.bind_some,
              setParity_eq room]
            rfl
          · rw [List.length_set, length]
          · rw [bitAt_set room]
            rcases Nat.lt_succ_iff_lt_or_eq.mp below with before | rfl
            · rw [if_neg (by omega), within i before]
            · rw [if_pos rfl, bit, Bool.and_false]
          · rw [bitAt_set room, if_neg (by omega), outside k (by omega)]

/-- A line is pushed to its row, and the other rows are left. -/
theorem fragPushLine_eq (small : lost ≤ redundancyBits) (below : x < lost)
    (length : matrix.length = redundancyBits * fragMaxRedundancy)
    (width : bits.length = redundancyBits) :
    ∃ pushed, fragPushLineToBinaryMatrix bits matrix x lost = some pushed ∧
      pushed.length = redundancyBits * fragMaxRedundancy ∧
      (∀ j, x ≤ j → j < lost →
        matrixBit pushed lost x j = (matrixBit matrix lost x j && bitAt bits j)) ∧
      ∀ y < lost, y ≠ x → ∀ j, y ≤ j → j < lost →
        matrixBit pushed lost y j = matrixBit matrix lost y j := by
  obtain ⟨inside, behind⟩ := rowStart_add small below
  have fits : x + (lost - x) ≤ bits.length := by omega
  rw [← length] at inside
  obtain ⟨pushed, run, same, within, outside⟩ :=
    pushBits_eq (rowStart x lost) (lost - x) inside fits
  refine ⟨pushed, run, same.trans length, fun j low high => ?_, fun y below' other j low high => ?_⟩
  · have bit := within (j - x) (by omega)
    rwa [Nat.add_sub_cancel' low] at bit
  · apply outside
    rcases Nat.lt_or_gt_of_ne other with before | after
    · have ahead := (rowStart_add small below').2 x below before
      omega
    · have ahead := behind y below' after
      omega

end GenericNode.Fuota
