import GenericNode.Fuota.Equations
import GenericNode.Fuota.Parity

/-!
# Recovery of the missing fragments

What `FragDecoderProcess` does with an encoded fragment: it takes out the
fragments that were received, eliminates the missing ones that have a line,
keeps what is left as a line, and solves the lines from the last one on when
each missing fragment has one.  A file that explains the storage before goes
on to explain it; in the end the storage has it.
-/

namespace GenericNode.Fuota

open GenericNode.Library
open GenericNode.Library.Prog
open GenericNode.Library.Elimination

variable {files : Set File} {start state : Decoding} {matrixRow : List Bool} {i : ℕ}

@[simp]
theorem wp_getDecoder (post : FragDecoder → Decoding → Prop) :
    wp getDecoder post state ↔ post state.decoder state :=
  wp_gets ..

@[simp]
theorem wp_setDecoder (decoder : FragDecoder) (post : Unit → Decoding → Prop) :
    wp (setDecoder decoder) post state ↔ post () { state with decoder := decoder } :=
  wp_modify ..

/-! ## Received fragments are taken out -/

/-- The line after the first bits of the parity row. -/
structure Reduced (files : Set File) (decoder : FragDecoder) (matrixRow : List Bool) (i : ℕ)
    (line : ParityLine) : Prop where
  width : line.vector.length = redundancyBits
  picked : ∀ x, bitAt line.vector x = true →
    x < decoder.status.fragNbLost ∧ decoder.place x < i
  first : line.first = true → ∃ x < decoder.status.fragNbLost, bitAt line.vector x = true
  sum : ∀ file ∈ files, ∀ b < decoder.fragSize, XorByte.mk (line.rawData b) =
    combine (fun k => bitAt matrixRow k && decide (i ≤ k)) (fun k => ⟨file k b⟩) decoder.fragNb +
      combine (bitAt line.vector) (fun x => ⟨file (decoder.place x) b⟩) decoder.status.fragNbLost

/-- Before the first bit. -/
theorem Reduced.zero {decoder : FragDecoder} {rawData : Row}
    (encodes : ∀ file ∈ files, Encodes file decoder matrixRow rawData) :
    Reduced files decoder matrixRow 0 ⟨rawData, List.replicate redundancyBits false, false⟩ := by
  refine ⟨List.length_replicate .., fun x set => ?_, ?_, fun file mem b inside => ?_⟩
  · rw [bitAt_replicate_false] at set
    cases set
  · rintro ⟨⟩
  · have empty : combine (bitAt (List.replicate redundancyBits false))
        (fun x => XorByte.mk (file (decoder.place x) b)) decoder.status.fragNbLost = 0 :=
      combine_none fun j _ => bitAt_replicate_false _ j
    rw [empty, add_zero, encodes file mem b inside]
    apply combine_congr
    intro k _
    rw [decide_eq_true (Nat.zero_le k), Bool.and_true]

/-- A bit of the parity row that is not set. -/
theorem Reduced.skip {decoder : FragDecoder} {line : ParityLine}
    (reduced : Reduced files decoder matrixRow i line) (below : i < decoder.fragNb)
    (clear : bitAt matrixRow i = false) : Reduced files decoder matrixRow (i + 1) line := by
  refine ⟨reduced.width, fun x set => ?_, reduced.first, fun file mem b inside => ?_⟩
  · obtain ⟨lost, before⟩ := reduced.picked x set
    exact ⟨lost, Nat.lt_succ_of_lt before⟩
  · rw [reduced.sum file mem b inside, combine_above below, clear, if_neg Bool.false_ne_true,
      add_zero]

/-- A fragment that was received. -/
theorem Reduced.received {decoder : FragDecoder} {line : ParityLine} {temp : Row}
    (reduced : Reduced files decoder matrixRow i line) (below : i < decoder.fragNb)
    (set : bitAt matrixRow i = true)
    (row : ∀ file ∈ files, ∀ b < decoder.fragSize, temp b = file i b) :
    Reduced files decoder matrixRow (i + 1)
      { line with rawData := xorDataLine line.rawData temp decoder.fragSize } := by
  refine ⟨reduced.width, fun x set => ?_, reduced.first, fun file mem b inside => ?_⟩
  · obtain ⟨lost, before⟩ := reduced.picked x set
    exact ⟨lost, Nat.lt_succ_of_lt before⟩
  · dsimp only
    rw [xorDataLine_of_lt inside, XorByte.mk_xor, reduced.sum file mem b inside,
      row file mem b inside, combine_above below, if_pos set, add_right_comm,
      add_twice XorByte.add_self]

/-- A fragment that is missing. -/
theorem Reduced.missing {decoder : FragDecoder} {line : ParityLine} {x : ℕ}
    (ready : Ready decoder) (reduced : Reduced files decoder matrixRow i line)
    (below : i < decoder.fragNb) (set : bitAt matrixRow i = true)
    (lost : x < decoder.status.fragNbLost) (place : i = decoder.place x) :
    Reduced files decoder matrixRow (i + 1)
      { line with vector := line.vector.set x true, first := true } := by
  have room : x < line.vector.length := by
    rw [reduced.width]
    exact lost.trans_le ready.lost
  have bit := bitAt_set room true
  have free : bitAt line.vector x = false := by
    apply Bool.eq_false_of_not_eq_true
    intro already
    have before := (reduced.picked x already).2
    omega
  refine ⟨?_, fun y picked => ?_, fun _ => ⟨x, lost, ?_⟩, fun file mem b inside => ?_⟩
  · rw [List.length_set, reduced.width]
  · by_cases here : y = x
    · subst here
      exact ⟨lost, by omega⟩
    · rw [bit, if_neg here] at picked
      obtain ⟨lost', before⟩ := reduced.picked y picked
      exact ⟨lost', Nat.lt_succ_of_lt before⟩
  · rw [bit, if_pos rfl]
  · have split : combine (bitAt (line.vector.set x true))
          (fun x => XorByte.mk (file (decoder.place x) b)) decoder.status.fragNbLost =
        combine (bitAt line.vector) (fun x => XorByte.mk (file (decoder.place x) b))
          decoder.status.fragNbLost +
          if bitAt (line.vector.set x true) x then XorByte.mk (file (decoder.place x) b) else 0 := by
      apply combine_split lost
      · intro y _ other
        rw [bit, if_neg other]
      · exact free
    rw [reduced.sum file mem b inside, split, bit, if_pos rfl, if_pos rfl, combine_above below,
      if_pos set, ← place, add_right_comm, add_assoc]

theorem wp_fragReduceBit {line : ParityLine} (ready : Ready start.decoder)
    (explains : ∀ file ∈ files, Explains file start) (wide : matrixRow.length = rowBits)
    (below : i < start.decoder.fragNb) (reads : Reads start state)
    (reduced : Reduced files start.decoder matrixRow i line) :
    wp (fragReduceBit matrixRow i line)
      (fun line final => Reduced files start.decoder matrixRow (i + 1) line ∧ Reads start final)
      state := by
  have room : fragMaxNb ≤ rowBits := by decide
  have few := ready.few
  have in_row : i < matrixRow.length := by omega
  have noted := FragDecoder.missing_eq (below.trans_le ready.fits)
  rw [fragReduceBit, wp_bind, wp_lift]
  refine ⟨_, getParity_eq in_row, ?_⟩
  cases set : bitAt matrixRow i with
  | false => exact (wp_pure ..).mpr ⟨reduced.skip below set, reads⟩
  | true =>
      rw [if_pos rfl, wp_bind, wp_getDecoder, reads.decoder, wp_bind, wp_lift]
      refine ⟨_, noted, ?_⟩
      rcases ready.received_or_missing below with zero | ⟨x, lost, number, place⟩
      · rw [if_pos zero, wp_bind]
        refine wp_mono (wp_getTempRow ready.block ready.short below) fun temp final read => ?_
        rw [wp_pure]
        refine ⟨reduced.received below set fun file mem b inside => ?_, reads.trans read.2⟩
        rw [read.1 b inside, reads.row]
        apply (explains file mem).received i _ zero b inside
        rw [ready.reached]
        exact below
      · have vector_room : x < line.vector.length := by
          rw [reduced.width]
          exact lost.trans_le ready.lost
        rw [number, if_neg (Nat.succ_ne_zero x), wp_bind, wp_lift]
        refine ⟨_, setParity_eq vector_room true, ?_⟩
        rw [wp_pure]
        exact ⟨reduced.missing ready below set lost place, reads⟩

/-! ## Missing fragments that have a line are eliminated -/

/-- A line that leads at its first bit. -/
structure Leading (files : Set File) (decoder : FragDecoder) (line : Elimination) : Prop where
  width : line.vector.length = redundancyBits
  lost : line.firstOneInRow < decoder.status.fragNbLost
  leads : Leads (bitAt line.vector) line.firstOneInRow
  news : line.noInfo = false
  holds : ∀ file ∈ files, Equation file decoder line.rawData (bitAt line.vector)

/-- What the loop leaves: a line that says nothing new, or one of a missing
fragment that has none. -/
def Eliminated (files : Set File) (decoder : FragDecoder) (line : Elimination) : Prop :=
  line.noInfo = true ∨
    Leading files decoder line ∧ bitAt decoder.s line.firstOneInRow = false

/-- The first bit of the line that is left. -/
theorem firstOne_of_some {vector : List Bool} {lost : ℕ} (fits : lost ≤ vector.length)
    (some_bit : ∃ x < lost, bitAt vector x = true) :
    ∃ first < lost, bitArrayFindFirstOne vector lost = some first ∧ Leads (bitAt vector) first := by
  rcases bitArrayFindFirstOne_eq fits with ⟨first, below, run, set, before⟩ | ⟨-, none⟩
  · exact ⟨first, below, run, set, before⟩
  · obtain ⟨x, below, set⟩ := some_bit
    rw [none x below] at set
    cases set

theorem wp_fragEliminateBody {line : Elimination} (ready : Ready start.decoder)
    (explains : ∀ file ∈ files, Explains file start) (reads : Reads start state)
    (leading : Leading files start.decoder line) :
    wp (fragEliminateBody line)
      (fun outcome final =>
        match outcome with
        | .inl next => (Leading files start.decoder next ∧ Reads start final) ∧
            line.firstOneInRow < next.firstOneInRow
        | .inr result => Eliminated files start.decoder result ∧ Reads start final) state := by
  have lost := leading.lost
  have room := lost.trans_le ready.lost
  rw [fragEliminateBody, wp_bind, wp_getDecoder, reads.decoder, wp_bind, wp_lift]
  refine ⟨_, getParity_eq (by rwa [ready.filled]), ?_⟩
  cases filled : bitAt start.decoder.s line.firstOneInRow with
  | false => exact (wp_pure ..).mpr ⟨.inr ⟨leading, filled⟩, reads⟩
  | true =>
      obtain ⟨row, extract, row_width, row_bit⟩ := ready.extract lost
      obtain ⟨vector, xor, width, bit⟩ :=
        xorParityLine_eq (ready.room leading.width) (ready.room row_width)
      have sum : ∀ x < start.decoder.status.fragNbLost, bitAt vector x =
          (bitAt line.vector x ^^ start.decoder.line line.firstOneInRow x) := by
        intro x below
        rw [bit, row_bit, decide_eq_true below, Bool.true_and]
      have fits := ready.room (width.trans leading.width)
      rw [if_pos rfl, wp_bind, wp_lift]
      refine ⟨row, extract, ?_⟩
      rw [wp_bind, wp_lift]
      refine ⟨vector, xor, ?_⟩
      rw [wp_bind, wp_lift]
      refine ⟨_, ready.findPlace lost, ?_⟩
      rw [wp_bind]
      refine wp_mono (wp_getTempRow ready.block ready.short (ready.place_lt lost)) ?_
      intro temp final read
      have holds : ∀ file ∈ files, Equation file start.decoder
          (xorDataLine line.rawData temp start.decoder.fragSize) (bitAt vector) := by
        intro file mem
        have row_holds := (explains file mem).filled _ lost filled
        have same : ∀ b < start.decoder.fragSize, temp b = start.storage.row
            start.decoder.fragSize (start.decoder.place line.firstOneInRow) b := by
          intro b inside
          rw [read.1 b inside, reads.row]
        exact ((leading.holds file mem).xor (row_holds.bytes same)).congr fun x below =>
          (sum x below).symm
      rw [wp_bind, wp_lift]
      rcases bitArrayIsAllZeros_eq fits with ⟨zeros, -⟩ | ⟨zeros, some_bit⟩
      · refine ⟨_, zeros, ?_⟩
        rw [if_pos rfl, wp_pure]
        exact ⟨.inl rfl, reads.trans read.2⟩
      · obtain ⟨first, below, run, leads⟩ := firstOne_of_some fits some_bit
        refine ⟨_, zeros, ?_⟩
        rw [if_neg Bool.false_ne_true, wp_bind, wp_lift]
        refine ⟨first, run, ?_⟩
        rw [wp_pure]
        refine ⟨⟨⟨width.trans leading.width, below, leads, leading.news, holds⟩,
          reads.trans read.2⟩, ?_⟩
        apply Nat.lt_of_not_le
        intro upTo
        have clear := leading.leads.clear (ready.leads lost filled) first upTo
        rw [← sum first below, leads.picked] at clear
        cases clear

/-- Each turn leads further on, so the loop ends. -/
theorem wp_fragEliminate {line : Elimination} (ready : Ready start.decoder)
    (explains : ∀ file ∈ files, Explains file start) (reads : Reads start state)
    (leading : Leading files start.decoder line) :
    wp (loop fragEliminateBody (start.decoder.status.fragNbLost + 1) line)
      (fun result final => Eliminated files start.decoder result ∧ Reads start final) state := by
  apply wp_loop (fun line state => Leading files start.decoder line ∧ Reads start state)
    (fun line _ => start.decoder.status.fragNbLost - line.firstOneInRow)
  · rintro line state ⟨leading, reads⟩
    refine wp_mono (wp_fragEliminateBody ready explains reads leading) fun outcome final turn => ?_
    cases outcome with
    | inl next =>
        obtain ⟨⟨leading', reads'⟩, further⟩ := turn
        have lost := leading'.lost
        exact ⟨⟨leading', reads'⟩, by omega⟩
    | inr result => exact turn
  · omega
  · exact ⟨leading, reads⟩

/-! ## What is left is kept -/

/-- What an encoded fragment changes. -/
structure Advanced (files : Set File) (start final : Decoding) : Prop where
  same : ∃ matrix filled count, final.decoder =
    { start.decoder with matrixM2B := matrix, s := filled, m2bLine := count }
  ready : Ready final.decoder
  explains : ∀ file ∈ files, Explains file final
  continues : Continues start.storage final.storage

theorem Advanced.of_reads (ready : Ready start.decoder)
    (explains : ∀ file ∈ files, Explains file start) (reads : Reads start state) :
    Advanced files start state := by
  refine ⟨⟨_, _, _, reads.decoder⟩, ?_, fun file mem => (explains file mem).reads reads,
    reads.continues⟩
  rw [reads.decoder]
  exact ready

theorem wp_fragPushLine {line : Elimination} (ready : Ready start.decoder)
    (explains : ∀ file ∈ files, Explains file start) (reads : Reads start state)
    (leading : Leading files start.decoder line)
    (free : bitAt start.decoder.s line.firstOneInRow = false) :
    wp (fragPushLine line) (fun _ final => Advanced files start final) state := by
  have lost := leading.lost
  obtain ⟨matrix, push, pushed⟩ := ready.pushed lost leading.width
  have room : line.firstOneInRow < start.decoder.s.length := by
    rw [ready.filled]
    exact lost.trans_le ready.lost
  rw [fragPushLine, wp_bind, wp_getDecoder, reads.decoder, wp_bind, wp_lift]
  refine ⟨matrix, push, ?_⟩
  rw [wp_bind, wp_setDecoder, wp_bind, wp_lift]
  refine ⟨_, ready.findPlace lost, ?_⟩
  rw [wp_bind]
  refine wp_mono (wp_setRow ready.block ready.small (ready.place_lt lost) _) ?_
  intro _ final writes
  rw [wp_bind, wp_lift]
  refine ⟨_, setParity_eq room true, ?_⟩
  rw [wp_setDecoder]
  refine ⟨⟨_, _, _, rfl⟩, ready.push lost free leading.leads pushed, fun file mem => ?_,
    reads.continues.trans writes.continues⟩
  refine (explains file mem).push ready lost free leading.leads pushed (leading.holds file mem) rfl
    (fun b inside => writes.row b inside) fun k other b inside => ?_
  exact (writes.others k other b inside).trans (congrFun (reads.row _ k) b)

/-! ## The lines are solved -/

/-- A line without the fragments from one on. -/
def linePart (decoder : FragDecoder) (i t j : ℕ) : Bool :=
  decoder.line i j && decide (j < t)

/-- Another fragment that is solved is taken out of a line. -/
theorem Equation.takeOut {file : File} {decoder : FragDecoder} {temp rawData : Row} {j : ℕ}
    (holds : Equation file decoder temp (linePart decoder i (j + 1)))
    (lost : j < decoder.status.fragNbLost) (set : decoder.line i j = true)
    (row : ∀ b < decoder.fragSize, rawData b = file (decoder.place j) b) :
    Equation file decoder (xorDataLine temp rawData decoder.fragSize) (linePart decoder i j) := by
  intro b inside
  have all := holds b inside
  unfold linePart at all
  rw [combine_below lost, if_pos set] at all
  rw [xorDataLine_of_lt inside, XorByte.mk_xor, row b inside, all, add_twice XorByte.add_self]
  rfl

/-- A fragment that is not in a line. -/
theorem Equation.leaveOut {file : File} {decoder : FragDecoder} {temp : Row} {j : ℕ}
    (holds : Equation file decoder temp (linePart decoder i (j + 1)))
    (lost : j < decoder.status.fragNbLost) (clear : decoder.line i j = false) :
    Equation file decoder temp (linePart decoder i j) := by
  intro b inside
  have all := holds b inside
  unfold linePart at all
  rw [combine_below lost, clear, if_neg Bool.false_ne_true, add_zero] at all
  exact all

theorem wp_fragSolveBit {j : ℕ} {temp : Row} (ready : Ready start.decoder)
    (solved : ∀ file ∈ files, Solved file (i + 1) start) (reads : Reads start state)
    (lost : i < start.decoder.status.fragNbLost) (behind : i < j)
    (lost' : j < start.decoder.status.fragNbLost)
    (holds : ∀ file ∈ files,
      Equation file start.decoder temp (linePart start.decoder i (j + 1))) :
    wp (fragSolveBit i j temp)
      (fun temp final => (∀ file ∈ files,
          Equation file start.decoder temp (linePart start.decoder i j)) ∧ Reads start final)
      state := by
  obtain ⟨row, extract, width, bit⟩ := ready.extract lost
  obtain ⟨other, extract', width', -⟩ := ready.extract lost'
  obtain ⟨sum, xor, -, -⟩ := xorParityLine_eq (ready.room width) (ready.room width')
  rw [fragSolveBit, wp_bind, wp_getDecoder, reads.decoder]
  dsimp only
  rw [wp_bind, wp_lift]
  refine ⟨row, extract, ?_⟩
  rw [wp_bind, wp_lift]
  refine ⟨other, extract', ?_⟩
  rw [wp_bind, wp_lift]
  refine ⟨_, getParity_eq (lost'.trans_le (ready.room width)), ?_⟩
  rw [bit]
  cases set : start.decoder.line i j with
  | false => exact (wp_pure ..).mpr ⟨fun file mem => (holds file mem).leaveOut lost' set, reads⟩
  | true =>
      rw [if_pos rfl, wp_bind, wp_lift]
      refine ⟨sum, xor, ?_⟩
      rw [wp_bind, wp_lift]
      refine ⟨_, ready.findPlace lost', ?_⟩
      rw [wp_bind]
      refine wp_mono (wp_getRow ready.block ready.small (ready.place_lt lost') _) ?_
      intro rawData final read
      rw [wp_pure]
      refine ⟨fun file mem => ?_, reads.trans read.2⟩
      apply (holds file mem).takeOut lost' set
      intro b inside
      rw [read.1 b inside, reads.row]
      exact (solved file mem).solved j lost' behind b inside

/-- A line is solved. -/
theorem wp_fragSolveRow (ready : Ready start.decoder)
    (complete : ∀ x < start.decoder.status.fragNbLost, bitAt start.decoder.s x = true)
    (solved : ∀ file ∈ files, Solved file (i + 1) start)
    (lost : i < start.decoder.status.fragNbLost) :
    wp (fragSolveRow i)
      (fun _ final => final.decoder = start.decoder ∧
        Continues start.storage final.storage ∧ ∀ file ∈ files, Solved file i final) start := by
  rw [fragSolveRow, wp_bind, wp_getDecoder, wp_bind, wp_lift]
  refine ⟨_, ready.findPlace lost, ?_⟩
  rw [wp_bind]
  refine wp_mono (wp_getTempRow ready.block ready.short (ready.place_lt lost)) ?_
  intro temp middle read
  rw [wp_bind]
  have ordered : i + 1 ≤ start.decoder.status.fragNbLost := lost
  refine wp_forRangeDown (fun t temp state => (∀ file ∈ files,
      Equation file start.decoder temp (linePart start.decoder i t)) ∧ Reads start state)
    ordered ⟨fun file mem => ?_, read.2⟩ ?_ ?_
  · have line := (solved file mem).lines i lost (Nat.lt_succ_self i)
    refine (line.bytes read.1).congr fun j below => ?_
    rw [linePart, decide_eq_true below, Bool.and_true]
  · rintro j temp state behind lost' ⟨holds, reads⟩
    exact wp_fragSolveBit ready solved reads lost behind lost' holds
  · rintro temp state ⟨holds, reads⟩
    refine wp_mono (wp_setRow ready.block ready.small (ready.place_lt lost) temp) ?_
    intro _ final writes
    have decoder := writes.decoder.trans reads.decoder
    have others : ∀ k ≠ start.decoder.place i, ∀ b < start.decoder.fragSize,
        final.storage.row start.decoder.fragSize k b =
          start.storage.row start.decoder.fragSize k b := by
      intro k other b inside
      exact (writes.others k other b inside).trans (congrFun (reads.row _ k) b)
    refine ⟨decoder, reads.continues.trans writes.continues, fun file mem => ?_⟩
    constructor <;> rw [decoder]
    · intro k inside zero b in_row
      have other : k ≠ start.decoder.place i := by
        rintro rfl
        exact Nat.succ_ne_zero i ((ready.missing_place lost).symm.trans zero)
      exact (others k other b in_row).trans ((solved file mem).received k inside zero b in_row)
    · intro x lost' upTo b inside
      rcases Nat.lt_or_eq_of_le upTo with behind | rfl
      · have other := ready.place_ne lost' lost (Nat.ne_of_gt behind)
        exact (others _ other b inside).trans ((solved file mem).solved x lost' behind b inside)
      · have only : combine (linePart start.decoder i (i + 1))
            (fun j => XorByte.mk (file (start.decoder.place j) b))
              start.decoder.status.fragNbLost = ⟨file (start.decoder.place i) b⟩ :=
          (ready.leads lost (complete i lost)).combine_below lost
        exact (writes.row b inside).trans (XorByte.mk.inj ((holds file mem b inside).trans only))
    · intro x lost' before
      have other := ready.place_ne lost' lost (Nat.ne_of_lt before)
      exact ((solved file mem).lines x lost' (Nat.lt_succ_of_lt before)).bytes (others _ other)

/-- How an encoded fragment leaves the session: it goes on, and the file is still
explained, or it is finished, and the storage has the file. -/
structure Outcome (files : Set File) (start : Decoding) (status : ℤ) (final : Decoding) :
    Prop where
  same : ∃ matrix filled count, final.decoder =
    { start.decoder with matrixM2B := matrix, s := filled, m2bLine := count }
  ready : Ready final.decoder
  continues : Continues start.storage final.storage
  result : (status = fragSessionOngoing ∧ ∀ file ∈ files, Explains file final) ∨
    (0 ≤ status ∧ ∀ file ∈ files, Holds file final)

theorem Ready.complete {decoder : FragDecoder} (ready : Ready decoder)
    (full : decoder.m2bLine = decoder.status.fragNbLost) :
    ∀ x < decoder.status.fragNbLost, bitAt decoder.s x = true := by
  have all := ready.count
  rw [full] at all
  nth_rewrite 1 [← Finset.card_range decoder.status.fragNbLost] at all
  intro x lost
  exact Finset.card_filter_eq_iff.mp all.symm x (Finset.mem_range.mpr lost)

theorem wp_fragSolve (advanced : Advanced files start state) :
    wp fragSolve (fun status final => Outcome files start status final) state := by
  have ready := advanced.ready
  rw [fragSolve, wp_bind, wp_getDecoder]
  by_cases full : state.decoder.m2bLine = state.decoder.status.fragNbLost
  · have complete := ready.complete full
    rw [if_pos full, wp_bind]
    refine wp_forRangeDown (fun t _ now => now.decoder = state.decoder ∧
        Continues state.storage now.storage ∧ ∀ file ∈ files, Solved file t now)
      (Nat.zero_le _) ⟨rfl, .refl _, fun file mem => ?_⟩ ?_ ?_
    · exact (advanced.explains file mem).solved ready complete
    · rintro i _ now - below ⟨decoder, continues, solved⟩
      refine wp_mono (wp_fragSolveRow (i := i) (by rwa [decoder]) (by rwa [decoder]) solved ?_) ?_
      · rw [decoder]
        omega
      · rintro _ final ⟨decoder', continues', solved'⟩
        exact ⟨decoder'.trans decoder, continues.trans continues', solved'⟩
    · rintro _ now ⟨decoder, continues, solved⟩
      rw [wp_pure]
      refine ⟨?_, ?_, advanced.continues.trans continues, .inr ⟨Int.natCast_nonneg _, ?_⟩⟩
      · rw [decoder]
        exact advanced.same
      · rwa [decoder]
      · intro file mem
        exact (solved file mem).holds (by rwa [decoder])
  · rw [if_neg full, wp_pure]
    exact ⟨advanced.same, ready, advanced.continues, .inl ⟨rfl, advanced.explains⟩⟩

theorem wp_fragDecodeParity {fragCounter : ℕ} {rawData : Row} (ready : Ready start.decoder)
    (explains : ∀ file ∈ files, Explains file start)
    (short : fragCounter - start.decoder.fragNb < 2 ^ 14)
    (encodes : ∀ row, fragGetParityMatrixRow (fragCounter - start.decoder.fragNb)
        start.decoder.fragNb = some row →
      ∀ file ∈ files, Encodes file start.decoder row rawData) :
    wp (fragDecodeParity fragCounter rawData)
      (fun status final => Outcome files start status final) start := by
  obtain ⟨row, run, wide⟩ := fragGetParityMatrixRow_defined ready.few short
  rw [fragDecodeParity, wp_bind, wp_getDecoder, wp_bind, wp_lift]
  refine ⟨row, run, ?_⟩
  rw [wp_bind]
  refine wp_forRange (fun i line state => Reduced files start.decoder row i line ∧
      Reads start state) ⟨.zero (encodes row run), .refl _⟩ ?_ ?_
  · rintro i line state - below ⟨reduced, reads⟩
    exact wp_fragReduceBit ready explains wide below reads reduced
  · rintro line state ⟨reduced, reads⟩
    rw [Nat.max_eq_right (Nat.zero_le _)] at reduced
    have fits := ready.room reduced.width
    have advanced : Advanced files start state := .of_reads ready explains reads
    cases some_missing : line.first with
    | false =>
        rw [wp_bind, wp_lift]
        rcases bitArrayFindFirstOne_eq fits with ⟨first, -, found, -⟩ | ⟨found, -⟩
        all_goals
          refine ⟨_, found, ?_⟩
          rw [if_neg Bool.false_ne_true, wp_pure]
          exact ⟨advanced.same, advanced.ready, advanced.continues,
            .inl ⟨rfl, advanced.explains⟩⟩
    | true =>
        obtain ⟨first, lost, found, leads⟩ := firstOne_of_some fits (reduced.first some_missing)
        have leading : Leading files start.decoder ⟨line.rawData, line.vector, first, false⟩ := by
          refine ⟨reduced.width, lost, leads, rfl, fun file mem b inside => ?_⟩
          have sum := reduced.sum file mem b inside
          have taken : combine (fun k => bitAt row k && decide (start.decoder.fragNb ≤ k))
              (fun k => XorByte.mk (file k b)) start.decoder.fragNb = 0 := by
            apply combine_none
            intro k below
            rw [decide_eq_false (not_le.mpr below), Bool.and_false]
          rwa [taken, zero_add] at sum
        rw [wp_bind, wp_lift]
        refine ⟨first, found, ?_⟩
        rw [if_pos rfl, wp_bind]
        refine wp_mono (wp_fragEliminate ready explains reads leading) ?_
        rintro result now ⟨eliminated, reads'⟩
        rcases eliminated with nothing | ⟨leading', free⟩
        · rw [nothing, if_neg Bool.noConfusion]
          exact wp_fragSolve (.of_reads ready explains reads')
        · rw [leading'.news, if_pos rfl, wp_bind]
          refine wp_mono (wp_fragPushLine ready explains reads' leading' free) ?_
          intro _ final advanced'
          exact wp_fragSolve advanced'

end GenericNode.Fuota
