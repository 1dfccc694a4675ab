import GenericNode.Library.Elimination
import GenericNode.Fuota.Missing
import GenericNode.Fuota.Rows
import Mathlib.Data.Finset.Card

/-!
# Equations about the missing fragments

A file has a row of bytes for each fragment.  A line of the triangular matrix
is an equation about the missing ones; its right-hand side is the row of the
storage where the fragment on the diagonal is to be.
-/

namespace GenericNode.Fuota

open GenericNode.Library.Elimination

/-- A row of bytes for each fragment. -/
abbrev File :=
  ℕ → Row

/-! ## The decoder while fragments are missing -/

/-- The sizes of the decoder's arrays, and a block that fits into the storage. -/
structure Shaped (decoder : FragDecoder) : Prop where
  block : decoder.fragNb * decoder.fragSize ≤ unfragmentedDataSize
  small : decoder.fragSize < unfragmentedDataSize
  missing : decoder.fragNbMissingIndex.length = fragMaxNb
  matrix : decoder.matrixM2B.length = redundancyBits * fragMaxRedundancy
  filled : decoder.s.length = redundancyBits

/-- All fragments were looked at, and the arrays have room for those that are
missing.  The rows that are not filled are blank. -/
structure Ready (decoder : FragDecoder) : Prop extends Shaped decoder where
  few : decoder.fragNb ≤ fragMaxNb
  short : decoder.fragSize ≤ fragMaxSize
  looked : decoder.status.fragNbLastRx = decoder.fragNb + 1
  marked : Marked decoder decoder.fragNb
  lost : decoder.status.fragNbLost ≤ redundancyBits
  count : decoder.m2bLine =
    ((Finset.range decoder.status.fragNbLost).filter fun x => bitAt decoder.s x = true).card
  diagonal : ∀ x < decoder.status.fragNbLost, bitAt decoder.s x = true →
    matrixBit decoder.matrixM2B decoder.status.fragNbLost x x = true
  blank : ∀ x < decoder.status.fragNbLost, bitAt decoder.s x = false →
    ∀ j, x ≤ j → j < decoder.status.fragNbLost →
      matrixBit decoder.matrixM2B decoder.status.fragNbLost x j = true

/-- A line of the triangular matrix. -/
def FragDecoder.line (decoder : FragDecoder) (x j : ℕ) : Bool :=
  decide (x ≤ j ∧ j < decoder.status.fragNbLost) &&
    matrixBit decoder.matrixM2B decoder.status.fragNbLost x j

variable {decoder : FragDecoder} {x i : ℕ}

theorem Ready.reached (ready : Ready decoder) : decoder.reached = decoder.fragNb := by
  rw [FragDecoder.reached, ready.looked]
  exact Nat.min_eq_right (Nat.le_succ _)

theorem Ready.fits (ready : Ready decoder) :
    decoder.fragNb ≤ decoder.fragNbMissingIndex.length := by
  rw [ready.missing]
  exact ready.few

/-- A line that is filled leads on the diagonal. -/
theorem Ready.leads (ready : Ready decoder) (below : x < decoder.status.fragNbLost)
    (filled : bitAt decoder.s x = true) : Leads (decoder.line x) x := by
  constructor
  · rw [FragDecoder.line, ready.diagonal x below filled, Bool.and_true,
      decide_eq_true ⟨Nat.le_refl x, below⟩]
  · intro j before
    rw [FragDecoder.line, decide_eq_false fun between => absurd between.1 (not_le.mpr before),
      Bool.false_and]

theorem Ready.extract (ready : Ready decoder) (below : x < decoder.status.fragNbLost) :
    ∃ row, fragExtractLineFromBinaryMatrix decoder.matrixM2B x decoder.status.fragNbLost =
        some row ∧ row.length = redundancyBits ∧ ∀ j, bitAt row j = decoder.line x j :=
  fragExtractLine_eq ready.lost below ready.matrix

/-- A bit array of the missing fragments has room for all of them. -/
theorem Ready.room (ready : Ready decoder) {bits : List Bool}
    (width : bits.length = redundancyBits) : decoder.status.fragNbLost ≤ bits.length := by
  rw [width]
  exact ready.lost

theorem Ready.findPlace (ready : Ready decoder) (below : x < decoder.status.fragNbLost) :
    decoder.fragFindMissingIndex x = some (decoder.place x) :=
  (ready.marked.place ready.fits below).1

theorem Ready.place_lt (ready : Ready decoder) (below : x < decoder.status.fragNbLost) :
    decoder.place x < decoder.fragNb :=
  (ready.marked.place ready.fits below).2.1

theorem Ready.missing_place (ready : Ready decoder) (below : x < decoder.status.fragNbLost) :
    decoder.missing (decoder.place x) = x + 1 :=
  (ready.marked.place ready.fits below).2.2

/-- A fragment was received, or it has its place among the missing ones. -/
theorem Ready.received_or_missing (ready : Ready decoder) (inside : i < decoder.fragNb) :
    decoder.missing i = 0 ∨ ∃ x < decoder.status.fragNbLost,
      decoder.missing i = x + 1 ∧ i = decoder.place x := by
  have bound := ready.marked.bounded i inside
  cases number : decoder.missing i with
  | zero => exact .inl rfl
  | succ x =>
      rw [number] at bound
      exact .inr ⟨x, bound, rfl, ready.marked.eq_place ready.fits inside number⟩

theorem Ready.place_ne (ready : Ready decoder) {y : ℕ} (below : x < decoder.status.fragNbLost)
    (below' : y < decoder.status.fragNbLost) (other : x ≠ y) :
    decoder.place x ≠ decoder.place y := by
  intro same
  have number := ready.missing_place below
  rw [same, ready.missing_place below'] at number
  exact other (Nat.succ.inj number).symm

/-! ## A line more -/

/-- A line is filled. -/
def FragDecoder.push (decoder : FragDecoder) (x : ℕ) (matrix : List Bool) : FragDecoder :=
  { decoder with
    matrixM2B := matrix
    s := decoder.s.set x true
    m2bLine := decoder.m2bLine + 1 }

variable {matrix vector : List Bool}

theorem Ready.filled_push (ready : Ready decoder) (below : x < decoder.status.fragNbLost) (y : ℕ) :
    bitAt (decoder.push x matrix).s y = if y = x then true else bitAt decoder.s y := by
  apply bitAt_set
  rw [ready.filled]
  exact below.trans_le ready.lost

/-- What `FragPushLineToBinaryMatrix` leaves. -/
structure Pushed (decoder : FragDecoder) (x : ℕ) (vector matrix : List Bool) : Prop where
  length : matrix.length = redundancyBits * fragMaxRedundancy
  row : ∀ j, x ≤ j → j < decoder.status.fragNbLost →
    matrixBit matrix decoder.status.fragNbLost x j =
      (matrixBit decoder.matrixM2B decoder.status.fragNbLost x j && bitAt vector j)
  others : ∀ y < decoder.status.fragNbLost, y ≠ x →
    ∀ j, y ≤ j → j < decoder.status.fragNbLost →
      matrixBit matrix decoder.status.fragNbLost y j =
        matrixBit decoder.matrixM2B decoder.status.fragNbLost y j

theorem Ready.pushed (ready : Ready decoder) (below : x < decoder.status.fragNbLost)
    (width : vector.length = redundancyBits) :
    ∃ matrix, fragPushLineToBinaryMatrix vector decoder.matrixM2B x decoder.status.fragNbLost =
      some matrix ∧ Pushed decoder x vector matrix := by
  obtain ⟨matrix, run, length, row, others⟩ :=
    fragPushLine_eq ready.lost below ready.matrix width
  exact ⟨matrix, run, length, row, others⟩

/-- The line is the one that was pushed. -/
theorem Pushed.line (pushed : Pushed decoder x vector matrix) (ready : Ready decoder)
    (below : x < decoder.status.fragNbLost) (free : bitAt decoder.s x = false)
    (leads : Leads (bitAt vector) x) (j : ℕ) (inside : j < decoder.status.fragNbLost) :
    (decoder.push x matrix).line x j = bitAt vector j := by
  change (decide (x ≤ j ∧ j < decoder.status.fragNbLost) &&
    matrixBit matrix decoder.status.fragNbLost x j) = bitAt vector j
  by_cases behind : x ≤ j
  · rw [decide_eq_true ⟨behind, inside⟩, pushed.row j behind inside,
      ready.blank x below free j behind inside, Bool.true_and, Bool.true_and]
  · rw [decide_eq_false fun between => behind between.1, leads.first j (not_le.mp behind),
      Bool.false_and]

/-- The other lines are left. -/
theorem Pushed.line_of_ne (pushed : Pushed decoder x vector matrix) {y : ℕ}
    (below : y < decoder.status.fragNbLost) (other : y ≠ x) (j : ℕ) :
    (decoder.push x matrix).line y j = decoder.line y j := by
  change (decide (y ≤ j ∧ j < decoder.status.fragNbLost) &&
    matrixBit matrix decoder.status.fragNbLost y j) = _
  rw [FragDecoder.line]
  by_cases between : y ≤ j ∧ j < decoder.status.fragNbLost
  · rw [pushed.others y below other j between.1 between.2]
  · rw [decide_eq_false between, Bool.false_and, Bool.false_and]

theorem Ready.push (ready : Ready decoder) (below : x < decoder.status.fragNbLost)
    (free : bitAt decoder.s x = false) (leads : Leads (bitAt vector) x)
    (pushed : Pushed decoder x vector matrix) : Ready (decoder.push x matrix) := by
  have filled : ∀ y, bitAt (decoder.push x matrix).s y = if y = x then true else bitAt decoder.s y :=
    ready.filled_push below
  refine ⟨⟨ready.block, ready.small, ready.missing, pushed.length, ?_⟩, ready.few, ready.short,
    ready.looked, ?_, ready.lost, ?_, fun y lost set => ?_, fun y lost clear j low high => ?_⟩
  · exact (List.length_set ..).trans ready.filled
  · exact ready.marked.congr rfl fun _ _ => rfl
  · have grown : ((Finset.range decoder.status.fragNbLost).filter fun y =>
          bitAt (decoder.push x matrix).s y = true) =
        insert x ((Finset.range decoder.status.fragNbLost).filter fun y =>
          bitAt decoder.s y = true) := by
      ext y
      rw [Finset.mem_insert, Finset.mem_filter, Finset.mem_filter, filled y]
      by_cases here : y = x
      · subst here
        simp [below]
      · simp [here]
    have fresh : x ∉ (Finset.range decoder.status.fragNbLost).filter fun y =>
        bitAt decoder.s y = true := by
      simp [free]
    change decoder.m2bLine + 1 = (Finset.filter _ (Finset.range decoder.status.fragNbLost)).card
    rw [grown, Finset.card_insert_of_notMem fresh, ready.count]
  · rw [filled y] at set
    by_cases here : y = x
    · subst here
      exact (pushed.row y (Nat.le_refl y) below).trans (by
        rw [ready.blank y below free y (Nat.le_refl y) below, leads.picked]
        rfl)
    · rw [if_neg here] at set
      exact (pushed.others y lost here y (Nat.le_refl y) lost).trans (ready.diagonal y lost set)
  · rw [filled y] at clear
    by_cases here : y = x
    · rw [if_pos here] at clear
      cases clear
    · rw [if_neg here] at clear
      exact (pushed.others y lost here j low high).trans (ready.blank y lost clear j low high)

/-! ## Equations -/

/-- The missing fragments that are picked add up to some bytes. -/
def Equation (file : File) (decoder : FragDecoder) (rawData : Row) (pick : ℕ → Bool) : Prop :=
  ∀ b < decoder.fragSize, XorByte.mk (rawData b) =
    combine pick (fun j => ⟨file (decoder.place j) b⟩) decoder.status.fragNbLost

variable {file : File} {rawData rawData' : Row} {pick pick' : ℕ → Bool} {size : ℕ}

theorem xorDataLine_of_lt {line1 line2 : Row} {b : ℕ} (inside : b < size) :
    xorDataLine line1 line2 size b = line1 b ^^^ line2 b :=
  if_pos inside

theorem Equation.congr (holds : Equation file decoder rawData pick)
    (same : ∀ j < decoder.status.fragNbLost, pick j = pick' j) :
    Equation file decoder rawData pick' := by
  intro b inside
  rw [holds b inside]
  exact combine_congr same

theorem Equation.bytes (holds : Equation file decoder rawData pick)
    (same : ∀ b < decoder.fragSize, rawData' b = rawData b) :
    Equation file decoder rawData' pick := by
  intro b inside
  rw [same b inside, holds b inside]

/-- Two equations are added. -/
theorem Equation.xor (holds : Equation file decoder rawData pick)
    (also : Equation file decoder rawData' pick') :
    Equation file decoder (xorDataLine rawData rawData' decoder.fragSize)
      fun j => pick j ^^ pick' j := by
  intro b inside
  rw [xorDataLine_of_lt inside, XorByte.mk_xor, holds b inside, also b inside]
  exact (combine_xor XorByte.add_self ..).symm

/-- A file is what the storage and the lines say of the fragments. -/
structure Explains (file : File) (state : Decoding) : Prop where
  received : ∀ i < state.decoder.reached, state.decoder.missing i = 0 →
    ∀ b < state.decoder.fragSize, state.storage.row state.decoder.fragSize i b = file i b
  filled : ∀ x < state.decoder.status.fragNbLost, bitAt state.decoder.s x = true →
    Equation file state.decoder
      (state.storage.row state.decoder.fragSize (state.decoder.place x)) (state.decoder.line x)

/-- The lines from one on are solved. -/
structure Solved (file : File) (t : ℕ) (state : Decoding) : Prop where
  received : ∀ i < state.decoder.fragNb, state.decoder.missing i = 0 →
    ∀ b < state.decoder.fragSize, state.storage.row state.decoder.fragSize i b = file i b
  solved : ∀ x < state.decoder.status.fragNbLost, t ≤ x → ∀ b < state.decoder.fragSize,
    state.storage.row state.decoder.fragSize (state.decoder.place x) b =
      file (state.decoder.place x) b
  lines : ∀ x < state.decoder.status.fragNbLost, x < t → Equation file state.decoder
    (state.storage.row state.decoder.fragSize (state.decoder.place x)) (state.decoder.line x)

/-- The storage has the file. -/
def Holds (file : File) (state : Decoding) : Prop :=
  ∀ i < state.decoder.fragNb, ∀ b < state.decoder.fragSize,
    state.storage.row state.decoder.fragSize i b = file i b

/-- So it has when all lines are solved. -/
theorem Solved.holds {state : Decoding} (solved : Solved file 0 state)
    (ready : Ready state.decoder) : Holds file state := by
  intro i inside
  rcases ready.received_or_missing inside with zero | ⟨x, lost, -, rfl⟩
  · exact solved.received i inside zero
  · exact solved.solved x lost (Nat.zero_le x)

/-- When each missing fragment has a line, the last one is solved. -/
theorem Explains.solved {state : Decoding} (explains : Explains file state)
    (ready : Ready state.decoder) (complete : ∀ x < state.decoder.status.fragNbLost,
      bitAt state.decoder.s x = true) :
    Solved file (state.decoder.status.fragNbLost - 1) state := by
  have lines := fun x lost => explains.filled x lost (complete x lost)
  refine ⟨fun i inside => ?_, fun x lost last b inside => ?_, fun x lost _ => lines x lost⟩
  · apply explains.received i
    rw [ready.reached]
    exact inside
  · have leads := ready.leads lost (complete x lost)
    have only : combine (state.decoder.line x)
        (fun j => XorByte.mk (file (state.decoder.place j) b)) state.decoder.status.fragNbLost =
          ⟨file (state.decoder.place x) b⟩ := by
      apply combine_single lost
      · intro j below other
        exact leads.first j (by omega)
      · exact leads.picked
    exact XorByte.mk.inj ((lines x lost b inside).trans only)

/-- Reading changes nothing. -/
theorem Explains.reads {start final : Decoding} (explains : Explains file start)
    (reads : Reads start final) : Explains file final := by
  constructor
  · rw [reads.decoder]
    simp only [reads.row]
    exact explains.received
  · rw [reads.decoder]
    simp only [reads.row]
    exact explains.filled

/-- The row of a line that is pushed is written. -/
theorem Explains.push {start final : Decoding} (explains : Explains file start)
    (ready : Ready start.decoder) (below : x < start.decoder.status.fragNbLost)
    (free : bitAt start.decoder.s x = false) (leads : Leads (bitAt vector) x)
    (pushed : Pushed start.decoder x vector matrix)
    (holds : Equation file start.decoder rawData (bitAt vector))
    (decoder : final.decoder = start.decoder.push x matrix)
    (row : ∀ b < start.decoder.fragSize,
      final.storage.row start.decoder.fragSize (start.decoder.place x) b = rawData b)
    (others : ∀ k ≠ start.decoder.place x, ∀ b < start.decoder.fragSize,
      final.storage.row start.decoder.fragSize k b =
        start.storage.row start.decoder.fragSize k b) : Explains file final := by
  constructor
  · rw [decoder]
    intro i reached zero b inside
    have other : i ≠ start.decoder.place x := by
      rintro rfl
      have number := ready.missing_place below
      exact Nat.succ_ne_zero x (number.symm.trans zero)
    exact (others i other b inside).trans (explains.received i reached zero b inside)
  · rw [decoder]
    intro y lost set
    rw [ready.filled_push below] at set
    change Equation file start.decoder
      (final.storage.row start.decoder.fragSize (start.decoder.place y)) _
    by_cases here : y = x
    · subst here
      exact (holds.bytes row).congr fun j inside =>
        (pushed.line ready below free leads j inside).symm
    · rw [if_neg here] at set
      have row_holds := explains.filled y lost set
      have left := row_holds.bytes (others _ (ready.place_ne lost below here))
      exact left.congr fun j _ => (pushed.line_of_ne lost here j).symm

/-- An encoded fragment: the sum of those that a row of the parity matrix picks. -/
def Encodes (file : File) (decoder : FragDecoder) (matrixRow : List Bool) (rawData : Row) : Prop :=
  ∀ b < decoder.fragSize, XorByte.mk (rawData b) =
    combine (bitAt matrixRow) (fun i => ⟨file i b⟩) decoder.fragNb

end GenericNode.Fuota
