import GenericNode.Fuota.Recovery

/-!
# The decoder between two fragments

What `FragDecoderInit` establishes and `FragDecoderProcess` keeps, as long as
the counters of the fragments stay within the arrays of the decoder.
-/

namespace GenericNode.Fuota

open GenericNode.Library
open GenericNode.Library.Prog
open GenericNode.Library.Elimination

/-! ## The invariant -/

/-- The matrix as it is initialized. -/
structure Fresh (decoder : FragDecoder) : Prop where
  count : decoder.m2bLine = 0
  matrix : decoder.matrixM2B = List.replicate (redundancyBits * fragMaxRedundancy) true
  filled : decoder.s = List.replicate redundancyBits false

/-- The fragments are noted up to the last one that was received, and the matrix
is used only when all are. -/
structure Kept (decoder : FragDecoder) : Prop extends Shaped decoder where
  lastRx : decoder.status.fragNbLastRx ≤ decoder.fragNb + 1
  marked : Marked decoder decoder.reached
  received : 1 ≤ decoder.status.fragNbLastRx → decoder.status.fragNbLastRx ≤ decoder.fragNb →
    decoder.missing (decoder.status.fragNbLastRx - 1) = 0
  lines : Fresh decoder ∨ Ready decoder

/-- The fragments that are lost when all are looked at. -/
def FragDecoder.lostAfter (decoder : FragDecoder) : ℕ :=
  decoder.status.fragNbLost + (decoder.fragNb - decoder.status.fragNbLastRx)

/-- A fragment does not lead out of the arrays of the decoder. -/
abbrev FragDecoder.Fits (decoder : FragDecoder) (fragCounter : ℕ) : Prop :=
  if fragCounter < decoder.status.fragNbLastRx then True
  else if fragCounter < decoder.fragNb + 1 then 1 ≤ fragCounter ∧ fragCounter ≤ fragMaxNb
  else if decoder.status.fragNbLost > fragMaxRedundancy then True
  else decoder.fragNb ≤ fragMaxNb ∧
    (decoder.lostAfter = 0 ∨ decoder.lostAfter ≤ redundancyBits ∧ decoder.fragSize ≤ fragMaxSize)

/-- The content of the fragments of a file, as far as the decoder tells them apart. -/
def Carries (file : File) (decoder : FragDecoder) (fragCounter : ℕ) (rawData : Row) : Prop :=
  if fragCounter < decoder.fragNb + 1 then
    ∀ b < decoder.fragSize, rawData b = file (fragCounter - 1) b
  else ∀ row, fragGetParityMatrixRow (fragCounter - decoder.fragNb) decoder.fragNb = some row →
    Encodes file decoder row rawData

variable {decoder final : FragDecoder} {fragCounter : ℕ}

theorem Fresh.bitAt (fresh : Fresh decoder) (x : ℕ) : bitAt decoder.s x = false := by
  rw [fresh.filled]
  exact bitAt_replicate_false ..

/-- The matrix is not used while fragments are stored. -/
theorem Kept.fresh (kept : Kept decoder)
    (storing : decoder.status.fragNbLastRx ≤ decoder.fragNb) : Fresh decoder := by
  rcases kept.lines with fresh | ready
  · exact fresh
  · have looked := ready.looked
    omega

/-- The decoder is ready for encoded fragments. -/
theorem Fresh.ready (fresh : Fresh decoder) (shaped : Shaped decoder)
    (few : decoder.fragNb ≤ fragMaxNb) (short : decoder.fragSize ≤ fragMaxSize)
    (looked : decoder.status.fragNbLastRx = decoder.fragNb + 1)
    (marked : Marked decoder decoder.fragNb)
    (lost : decoder.status.fragNbLost ≤ redundancyBits) : Ready decoder := by
  refine ⟨shaped, few, short, looked, marked, lost, ?_, fun x _ set => ?_,
    fun x below _ j low high => ?_⟩
  · have none : ((Finset.range decoder.status.fragNbLost).filter fun x =>
        Fuota.bitAt decoder.s x = true) = ∅ := by
      apply Finset.filter_eq_empty_iff.mpr
      intro x _ set
      rw [fresh.bitAt] at set
      cases set
    rw [none, fresh.count, Finset.card_empty]
  · rw [fresh.bitAt] at set
    cases set
  · have inside := (rowStart_add lost below).1
    rw [matrixBit, fresh.matrix]
    apply bitAt_replicate_true
    omega

/-! ## Notes that the decoder takes -/

/-- What is only reported. -/
def FragDecoder.report (decoder : FragDecoder) (fragNbRx : ℕ) (matrixError : Bool) : FragDecoder :=
  { decoder with status := { decoder.status with fragNbRx, matrixError } }

theorem Kept.report (kept : Kept decoder) (fragNbRx : ℕ) (matrixError : Bool) :
    Kept (decoder.report fragNbRx matrixError) := by
  refine ⟨⟨kept.block, kept.small, kept.missing, kept.matrix, kept.filled⟩, kept.lastRx,
    kept.marked.congr rfl fun _ _ => rfl, kept.received, ?_⟩
  rcases kept.lines with fresh | ready
  · exact .inl ⟨fresh.count, fresh.matrix, fresh.filled⟩
  · exact .inr ⟨⟨kept.block, kept.small, kept.missing, kept.matrix, kept.filled⟩, ready.few,
      ready.short, ready.looked, ready.marked.congr rfl fun _ _ => rfl, ready.lost, ready.count,
      ready.diagonal, ready.blank⟩

variable {noted marked : FragDecoder} {low high lastRx : ℕ}

theorem Shaped.marks (shaped : Shaped decoder) (marks : decoder.Marks low high marked) :
    Shaped marked := by
  have length := marks.length.trans shaped.missing
  rw [marks.same] at length ⊢
  exact ⟨shaped.block, shaped.small, length, shaped.matrix, shaped.filled⟩

theorem Fresh.marks (fresh : Fresh decoder) (marks : decoder.Marks low high marked) :
    Fresh marked := by
  rw [marks.same]
  exact ⟨fresh.count, fresh.matrix, fresh.filled⟩

/-- The fragments were looked at up to one that was received, or all were. -/
theorem Fresh.lookedTo (fresh : Fresh decoder) (shaped : Shaped decoder)
    (marked : Marked decoder (min lastRx decoder.fragNb)) (upper : lastRx ≤ decoder.fragNb + 1)
    (received : 1 ≤ lastRx → lastRx ≤ decoder.fragNb → decoder.missing (lastRx - 1) = 0) :
    Kept (decoder.lookedTo lastRx) :=
  ⟨⟨shaped.block, shaped.small, shaped.missing, shaped.matrix, shaped.filled⟩, upper,
    marked.congr rfl fun _ _ => rfl, received, .inl ⟨fresh.count, fresh.matrix, fresh.filled⟩⟩

/-- What a fragment that is not encoded leaves of the notes. -/
structure StoredNote (decoder : FragDecoder) (fragCounter : ℕ) (final : FragDecoder) : Prop where
  kept : Kept final
  unfilled : final.s = decoder.s
  fragNb : final.fragNb = decoder.fragNb
  fragSize : final.fragSize = decoder.fragSize
  received : ∀ i < final.reached, final.missing i = 0 →
    i = fragCounter - 1 ∨ (i < decoder.reached ∧ decoder.missing i = 0)

theorem Kept.store (kept : Kept decoder) (next : decoder.status.fragNbLastRx ≤ fragCounter)
    (first : 1 ≤ fragCounter) (last : fragCounter ≤ decoder.fragNb)
    (room : fragCounter ≤ fragMaxNb) :
    ∃ final, (decoder.noteReceived (fragCounter - 1)).fragFindMissingFrags fragCounter =
      some final ∧ StoredNote decoder fragCounter final := by
  have length := kept.missing
  have inside : fragCounter - 1 < decoder.fragNbMissingIndex.length := by omega
  have note := FragDecoder.missing_noteReceived inside
  have shaped : Shaped (decoder.noteReceived (fragCounter - 1)) :=
    ⟨kept.block, kept.small, (List.length_set ..).trans length, kept.matrix, kept.filled⟩
  have fresh := kept.fresh (next.trans last)
  have fresh' : Fresh (decoder.noteReceived (fragCounter - 1)) :=
    ⟨fresh.count, fresh.matrix, fresh.filled⟩
  have upTo : min (max decoder.status.fragNbLastRx (fragCounter - 1)) decoder.fragNb ≤
      (decoder.noteReceived (fragCounter - 1)).fragNbMissingIndex.length := by
    rw [shaped.missing]
    omega
  obtain ⟨marked, marks, run⟩ := FragDecoder.fragFindMissingFrags_eq
    (decoder.noteReceived (fragCounter - 1)) fragCounter upTo
  change FragDecoder.Marks _ decoder.status.fragNbLastRx
    (min (max decoder.status.fragNbLastRx (fragCounter - 1)) decoder.fragNb) marked at marks
  change _ = some (marked.lookedTo
    (if max decoder.status.fragNbLastRx (fragCounter - 1) < decoder.fragNb then fragCounter
      else decoder.fragNb + 1)) at run
  have old : Marked (decoder.noteReceived (fragCounter - 1))
      (min decoder.status.fragNbLastRx decoder.fragNb) := by
    refine kept.marked.congr rfl fun i below => ?_
    change i < min decoder.status.fragNbLastRx decoder.fragNb at below
    rw [note]
    split_ifs with here
    · -- The last fragment again.
      have again : decoder.status.fragNbLastRx = fragCounter := by omega
      have zero := kept.received (by omega) (by omega)
      rw [again] at zero
      rw [here, zero]
    · rfl
  have zero : marked.missing (fragCounter - 1) = 0 := by
    rw [marks.others _ (by omega), note, if_pos rfl]
  have new : Marked marked fragCounter := by
    have further : min decoder.status.fragNbLastRx decoder.fragNb ≤
        min (max decoder.status.fragNbLastRx (fragCounter - 1)) decoder.fragNb := by omega
    have upToHigh := old.marks marks further (Nat.min_le_right _ _)
    rcases Nat.lt_or_eq_of_le next with before | again
    · have high : min (max decoder.status.fragNbLastRx (fragCounter - 1)) decoder.fragNb =
          fragCounter - 1 := by omega
      rw [high] at upToHigh
      have one_more := upToHigh.received zero
      rwa [Nat.sub_add_cancel first] at one_more
    · rwa [again, Nat.max_eq_left (Nat.sub_le _ _), Nat.min_eq_left last] at upToHigh
  have fragNb : marked.fragNb = decoder.fragNb := by
    rw [marks.same]
    rfl
  have reached : min (if max decoder.status.fragNbLastRx (fragCounter - 1) < decoder.fragNb then
      fragCounter else decoder.fragNb + 1) decoder.fragNb = fragCounter := by
    split_ifs <;> omega
  refine ⟨_, run, ?_, ?_, fragNb, ?_, ?_⟩
  · apply (fresh'.marks marks).lookedTo (shaped.marks marks)
    · rwa [fragNb, reached]
    · rw [fragNb]
      split_ifs <;> omega
    · intro _ within
      rw [fragNb] at within
      rwa [← Nat.min_eq_left within, reached]
  · change marked.s = decoder.s
    rw [marks.same]
    rfl
  · change marked.fragSize = decoder.fragSize
    rw [marks.same]
    rfl
  · intro i below none
    rw [FragDecoder.reached_lookedTo, fragNb, reached] at below
    change marked.missing i = 0 at none
    change _ ∨ i < min decoder.status.fragNbLastRx decoder.fragNb ∧ _
    by_cases here : i = fragCounter - 1
    · exact .inl here
    · by_cases before : i < decoder.status.fragNbLastRx
      · rw [marks.others i (.inl before), note, if_neg here] at none
        exact .inr ⟨by omega, none⟩
      · have number := marks.noted i (by omega) (by omega)
        omega

/-- What the look at all fragments leaves of the notes. -/
structure LookedNote (decoder final : FragDecoder) : Prop where
  kept : Kept final
  looked : final.status.fragNbLastRx = final.fragNb + 1
  lost : final.status.fragNbLost = decoder.lostAfter
  same : Ready decoder ∧ final = decoder ∨ Fresh final
  fragNb : final.fragNb = decoder.fragNb
  fragSize : final.fragSize = decoder.fragSize
  received : ∀ i < final.reached, final.missing i = 0 →
    i < decoder.reached ∧ decoder.missing i = 0

theorem Kept.look (kept : Kept decoder) (few : decoder.fragNb ≤ fragMaxNb)
    (encoded : decoder.fragNb < fragCounter) :
    ∃ final, decoder.fragFindMissingFrags fragCounter = some final ∧ LookedNote decoder final := by
  rcases Nat.lt_or_eq_of_le kept.lastRx with before | looked
  · have fresh := kept.fresh (Nat.le_of_lt_succ before)
    have high : min (max decoder.status.fragNbLastRx (fragCounter - 1)) decoder.fragNb =
        decoder.fragNb := by omega
    have behind : ¬ max decoder.status.fragNbLastRx (fragCounter - 1) < decoder.fragNb := by omega
    obtain ⟨marked, marks, run⟩ := FragDecoder.fragFindMissingFrags_eq decoder fragCounter (by
      rw [high, kept.missing]
      exact few)
    rw [high] at marks
    rw [if_neg behind] at run
    have fragNb : marked.fragNb = decoder.fragNb := by rw [marks.same]
    have all : min (decoder.fragNb + 1) decoder.fragNb = decoder.fragNb :=
      Nat.min_eq_right (Nat.le_succ _)
    refine ⟨_, run, ?_, ?_, ?_, .inr ?_, fragNb, ?_, ?_⟩
    · apply (fresh.marks marks).lookedTo (kept.toShaped.marks marks)
      · rw [fragNb, all]
        exact kept.marked.marks marks (Nat.min_le_right _ _) (Nat.le_refl _)
      · rw [fragNb]
      · rw [fragNb]
        omega
    · exact congrArg (· + 1) fragNb.symm
    · change marked.status.fragNbLost = _
      rw [marks.same]
      rfl
    · have unused := fresh.marks marks
      exact ⟨unused.count, unused.matrix, unused.filled⟩
    · change marked.fragSize = _
      rw [marks.same]
    · intro i below none
      rw [FragDecoder.reached_lookedTo, fragNb, all] at below
      change marked.missing i = 0 at none
      change i < min decoder.status.fragNbLastRx decoder.fragNb ∧ _
      by_cases old : i < decoder.status.fragNbLastRx
      · rw [marks.others i (.inl old)] at none
        exact ⟨by omega, none⟩
      · have number := marks.noted i (by omega) below
        omega
  · refine ⟨decoder, FragDecoder.fragFindMissingFrags_of_looked looked _, kept, looked, ?_, ?_, rfl,
      rfl, fun i below none => ⟨below, none⟩⟩
    · rw [FragDecoder.lostAfter, looked, Nat.sub_eq_zero_of_le (Nat.le_succ _)]
      rfl
    · rcases kept.lines with fresh | ready
      · exact .inr fresh
      · exact .inl ⟨ready, rfl⟩

/-! ## What the decoder does -/

variable {files : Set File} {state : Decoding} {rawData : Row}

theorem wp_changeDecoder {change : FragDecoder → Option FragDecoder}
    (run : change state.decoder = some final) (post : Unit → Decoding → Prop) :
    wp (changeDecoder change) post state ↔ post () { state with decoder := final } := by
  rw [changeDecoder, wp_bind, wp_getDecoder, wp_bind, wp_lift]
  constructor
  · rintro ⟨_, run', holds⟩
    rw [run] at run'
    cases run'
    exact (wp_setDecoder ..).mp holds
  · intro holds
    exact ⟨final, run, (wp_setDecoder ..).mpr holds⟩

/-- What a fragment leaves: the session goes on, and the file is still explained,
or it is finished, and the storage has the file. -/
structure Processed (files : Set File) (start : Decoding) (status : ℤ) (final : Decoding) :
    Prop where
  kept : Kept final.decoder
  fragNb : final.decoder.fragNb = start.decoder.fragNb
  fragSize : final.decoder.fragSize = start.decoder.fragSize
  continues : Continues start.storage final.storage
  result : (status = fragSessionOngoing ∧ ∀ file ∈ files, Explains file final) ∨
    (0 ≤ status ∧ ∀ file ∈ files, Holds file final)

theorem Ready.kept (ready : Ready decoder) : Kept decoder := by
  refine ⟨ready.toShaped, ready.looked.le, ?_, fun _ upTo => ?_, .inr ready⟩
  · rw [ready.reached]
    exact ready.marked
  · have looked := ready.looked
    omega

/-- Nothing is known of the fragments yet. -/
theorem Explains.fresh (fresh : Fresh state.decoder) {file : File}
    (received : ∀ i < state.decoder.reached, state.decoder.missing i = 0 →
      ∀ b < state.decoder.fragSize, state.storage.row state.decoder.fragSize i b = file i b) :
    Explains file state := by
  refine ⟨received, fun x _ set => ?_⟩
  rw [fresh.bitAt] at set
  cases set

theorem wp_fragStore (kept : Kept state.decoder)
    (explains : ∀ file ∈ files, Explains file state)
    (next : state.decoder.status.fragNbLastRx ≤ fragCounter) (first : 1 ≤ fragCounter)
    (last : fragCounter ≤ state.decoder.fragNb) (room : fragCounter ≤ fragMaxNb)
    (carries : ∀ file ∈ files, ∀ b < state.decoder.fragSize,
      rawData b = file (fragCounter - 1) b) :
    wp (fragStore fragCounter rawData)
      (fun _ final => Processed files state fragSessionOngoing final) state := by
  have bounded : fragMaxNb = 21 := rfl
  have row : (fragCounter + 2 ^ 16 - 1) % 2 ^ 16 = fragCounter - 1 := by omega
  have inside : fragCounter - 1 < state.decoder.fragNb := by omega
  obtain ⟨final, run, note⟩ := kept.store next first last room
  rw [fragStore, wp_bind, wp_getDecoder, wp_bind, row]
  refine wp_mono (wp_setRow kept.block kept.small inside rawData) fun _ stored writes => ?_
  have received : (if fragCounter = 0 then none else
      stored.decoder.setMissingIndex (fragCounter - 1) 0) =
        some (state.decoder.noteReceived (fragCounter - 1)) := by
    rw [if_neg (by omega), writes.decoder]
    apply FragDecoder.setMissingIndex_zero
    rw [kept.missing]
    omega
  rw [wp_bind, wp_changeDecoder received, wp_changeDecoder run]
  refine ⟨note.kept, note.fragNb, note.fragSize, writes.continues, .inl ⟨rfl, ?_⟩⟩
  intro file mem
  have fresh := kept.fresh (next.trans last)
  have unfilled : ∀ x, bitAt final.s x = false := by
    intro x
    rw [note.unfilled]
    exact fresh.bitAt x
  refine ⟨fun i below zero b in_row => ?_, fun x _ set => ?_⟩
  · change b < final.fragSize at in_row
    change stored.storage.row final.fragSize i b = _
    rw [note.fragSize] at in_row ⊢
    by_cases here : i = fragCounter - 1
    · rw [here, writes.row b in_row, carries file mem b in_row]
    · rcases note.received i below zero with now | ⟨before, zero'⟩
      · exact absurd now here
      · rw [writes.others i here b in_row]
        exact (explains file mem).received i before zero' b in_row
  · exact absurd set (by simp [unfilled])

/-- What the decoder is initialized to. -/
structure Initialized (start : Decoding) (nb size : ℕ) (final : Decoding) : Prop where
  kept : Kept final.decoder
  fragNb : final.decoder.fragNb = nb
  fragSize : final.decoder.fragSize = size
  explains : ∀ file, Explains file final
  continues : nb * size ≠ unfragmentedDataSize → Continues start.storage final.storage

theorem wp_fragDecoderInit {fragNb fragSize : ℕ}
    (block : fragNb * fragSize ≤ unfragmentedDataSize)
    (small : fragSize < unfragmentedDataSize) :
    wp (fragDecoderInit fragNb fragSize)
      (fun _ final => Initialized state fragNb fragSize final) state := by
  rw [fragDecoderInit, wp_bind, wp_getDecoder, wp_bind, wp_setDecoder, wp_bind, onStorage, wp_zoom]
  refine wp_mono (wp_callback_erase block) fun _ storage continues => ?_
  rw [wp_pure]
  have unreached : ∀ i, ¬ i < min 0 fragNb := by omega
  refine ⟨⟨⟨block, small, List.length_replicate .., List.length_replicate ..,
    List.length_replicate ..⟩, Nat.zero_le _, ⟨?_, ?_, ?_⟩, ?_, .inl ⟨rfl, rfl, rfl⟩⟩, rfl, rfl,
    fun file => .fresh ⟨rfl, rfl, rfl⟩ ?_, continues⟩
  · exact fun i below => absurd below (unreached i)
  · exact fun i below => absurd below (unreached i)
  · exact fun x below => absurd below (Nat.not_lt_zero x)
  · exact fun first => absurd first (Nat.not_succ_le_zero 0)
  · exact fun i below => absurd below (unreached i)

/-- A fragment that only changes what is reported. -/
theorem Processed.ongoing (kept : Kept state.decoder)
    (explains : ∀ file ∈ files, Explains file state) :
    Processed files state fragSessionOngoing state :=
  ⟨kept, rfl, rfl, .refl _, .inl ⟨rfl, explains⟩⟩

/-- An encoded fragment, when there are not too many losses. -/
theorem wp_fragEncoded (kept : Kept state.decoder)
    (explains : ∀ file ∈ files, Explains file state) (short : fragCounter < 2 ^ 14)
    (encoded : state.decoder.fragNb < fragCounter) (few : state.decoder.fragNb ≤ fragMaxNb)
    (fits : state.decoder.lostAfter = 0 ∨
      state.decoder.lostAfter ≤ redundancyBits ∧ state.decoder.fragSize ≤ fragMaxSize)
    (encodes : ∀ file ∈ files, ∀ row, fragGetParityMatrixRow
        (fragCounter - state.decoder.fragNb) state.decoder.fragNb = some row →
      Encodes file state.decoder row rawData) :
    wp (do
        changeDecoder fun decoder => decoder.fragFindMissingFrags fragCounter
        let decoder ← getDecoder
        if decoder.status.fragNbLost = 0 then
          return (decoder.status.fragNbLost : ℤ)
        else
          fragDecodeParity fragCounter rawData)
      (fun status final => Processed files state status final) state := by
  obtain ⟨final, run, note⟩ := kept.look few encoded
  have reached : final.reached = final.fragNb := by
    rw [FragDecoder.reached, note.looked]
    exact Nat.min_eq_right (Nat.le_succ _)
  have marked : Marked final final.fragNb := by
    have marked := note.kept.marked
    rwa [reached] at marked
  have explains' : ∀ file ∈ files, Explains file { state with decoder := final } := by
    intro file mem
    rcases note.same with ⟨-, same⟩ | fresh
    · rw [same]
      exact explains file mem
    · apply Explains.fresh fresh
      intro i below zero b inside
      obtain ⟨before, zero'⟩ := note.received i below zero
      change b < final.fragSize at inside
      change state.storage.row final.fragSize i b = _
      rw [note.fragSize] at inside ⊢
      exact (explains file mem).received i before zero' b inside
  rw [wp_bind, wp_changeDecoder run, wp_bind, wp_getDecoder]
  by_cases none : final.status.fragNbLost = 0
  · rw [if_pos none, wp_pure]
    refine ⟨note.kept, note.fragNb, note.fragSize, .refl _, .inr ⟨Int.natCast_nonneg _, ?_⟩⟩
    intro file mem i below
    apply (explains' file mem).received i
    · rw [reached]
      exact below
    · exact Nat.le_zero.mp (none ▸ marked.bounded i below)
  · rw [if_neg none]
    rw [note.lost] at none
    obtain ⟨room, narrow⟩ := fits.resolve_left none
    have ready : Ready final := by
      rcases note.same with ⟨ready, same⟩ | fresh
      · rw [same]
        exact ready
      · apply fresh.ready note.kept.toShaped _ _ note.looked marked
        · rw [note.lost]
          exact room
        · rw [note.fragNb]
          exact few
        · rw [note.fragSize]
          exact narrow
    refine wp_mono (wp_fragDecodeParity ready explains' ?_ ?_) fun status now outcome => ?_
    · exact (Nat.sub_le _ _).trans_lt short
    · rw [note.fragNb]
      intro row is_row file mem b inside
      change b < final.fragSize at inside
      change _ = combine _ _ final.fragNb
      rw [note.fragSize] at inside
      rw [note.fragNb]
      exact encodes file mem row is_row b inside
    · obtain ⟨_, _, _, same⟩ := outcome.same
      refine ⟨outcome.ready.kept, ?_, ?_, outcome.continues, outcome.result⟩
      · rw [same]
        exact note.fragNb
      · rw [same]
        exact note.fragSize

theorem wp_fragDecoderProcess (kept : Kept state.decoder)
    (explains : ∀ file ∈ files, Explains file state) (short : fragCounter < 2 ^ 14)
    (fits : state.decoder.Fits fragCounter)
    (checked : ∀ file ∈ files, state.decoder.fragNb < fragCounter →
      state.decoder.status.fragNbLost ≤ fragMaxRedundancy)
    (carries : ∀ file ∈ files, Carries file state.decoder fragCounter rawData) :
    wp (fragDecoderProcess fragCounter rawData)
      (fun status final => Processed files state status final) state := by
  rw [fragDecoderProcess, wp_bind, wp_getDecoder, wp_bind, wp_setDecoder]
  have kept' := kept.report fragCounter state.decoder.status.matrixError
  have explains' : ∀ file ∈ files, Explains file
      { state with
        decoder := state.decoder.report fragCounter state.decoder.status.matrixError } :=
    fun file mem => ⟨(explains file mem).received, (explains file mem).filled⟩
  have ongoing := Processed.ongoing kept' explains'
  have moved : ∀ {status final}, Processed files
      { state with
        decoder := state.decoder.report fragCounter state.decoder.status.matrixError }
      status final → Processed files state status final :=
    fun processed => ⟨processed.kept, processed.fragNb, processed.fragSize, processed.continues,
      processed.result⟩
  unfold FragDecoder.Fits at fits
  unfold Carries at carries
  by_cases dropped : fragCounter < state.decoder.status.fragNbLastRx
  · rw [if_pos dropped, wp_pure]
    exact moved ongoing
  rw [if_neg dropped] at fits ⊢
  by_cases stored : fragCounter < state.decoder.fragNb + 1
  · simp only [if_pos stored] at carries
    rw [if_pos stored] at fits ⊢
    rw [wp_bind]
    refine wp_mono (wp_fragStore kept' explains' (not_lt.mp dropped) fits.1
      (Nat.le_of_lt_succ stored) fits.2 carries) fun _ final processed => ?_
    exact (wp_pure ..).mpr (moved processed)
  simp only [if_neg stored] at carries
  rw [if_neg stored] at fits ⊢
  have encoded : state.decoder.fragNb < fragCounter := by omega
  by_cases many : state.decoder.status.fragNbLost > fragMaxRedundancy
  · rw [if_pos many]
    have changed : (fun decoder : FragDecoder => some
        { decoder with status := { decoder.status with matrixError := true } })
          (state.decoder.report fragCounter state.decoder.status.matrixError) =
        some (state.decoder.report fragCounter true) := rfl
    rw [wp_bind, wp_changeDecoder changed, wp_pure]
    refine ⟨kept.report fragCounter true, rfl, rfl, .refl _, .inr ⟨Int.le_refl _, ?_⟩⟩
    intro file mem
    exact absurd (checked file mem encoded) (not_le.mpr many)
  · rw [if_neg many] at fits ⊢
    refine wp_mono (wp_fragEncoded kept' explains' short encoded fits.1 fits.2
      fun file mem row is_row => ?_) fun _ final processed => ?_
    · exact carries file mem row is_row
    · exact moved processed

end GenericNode.Fuota
