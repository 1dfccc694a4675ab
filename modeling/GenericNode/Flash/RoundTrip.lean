import GenericNode.Flash.Driver

/-!
# Writing a region and reading it back

The driver splits a buffer at the page boundaries, and reads through a buffer of
`RDWR_BUF_SZ` bytes.  It does not check that the write enable before a later
page reached a chip that was ready, so that a page may be lost in silence.
-/

namespace GenericNode.Flash

open GenericNode.Library
open GenericNode.Library.Prog

/-- The pages that a region touches. -/
def pagesOf (addr count : ℕ) : ℕ :=
  (addr % pageSz + count + (pageSz - 1)) / pageSz

/-- All bytes of a region are erased. -/
def Erased (cells : Cells) (addr count : ℕ) : Prop :=
  ∀ place, addr ≤ place → place < addr + count → cells place = erasedByte

/-- After an operation, the write enable that follows the polling reaches a
chip that is ready. -/
def FlashBus.PageAccepted (bus : FlashBus) (operation : ℕ) : Prop :=
  ∃ polls, bus.Stops operation 0 polls ∧ bus.received operation (polls + 1) = true ∧
    bus.busyFor operation ≤ polls + 1

/-- The write enables of all pages after the first are taken. -/
def FlashBus.PagesAccepted (bus : FlashBus) (operation pages : ℕ) : Prop :=
  ∀ page, 1 ≤ page → page < pages → bus.PageAccepted (operation + page)

/-- The first `done` bytes are in the array. -/
structure AllWritten (start : FlashWorld) (addr : ℕ) (buf : ℕ → UInt8) (done : ℕ)
    (world : FlashWorld) : Prop where
  operations : world.operations = start.operations + pagesOf addr done
  accepted : start.bus.PagesAccepted start.operations (pagesOf addr done)
  stopped : ∃ polls, world.transfers = polls + 1 ∧ start.bus.Stops world.operations 0 polls
  written : ∀ index < done, world.cells (addr + index) = buf index

/-- A page was lost: one of its bytes is still erased. -/
structure PageLost (start : FlashWorld) (addr count done : ℕ) (world : FlashWorld) : Prop where
  missed : ¬ start.bus.PagesAccepted start.operations (pagesOf addr count)
  erased : ∃ index < done, world.cells (addr + index) = erasedByte

/-- The invariant of the page loop. -/
structure Progress (start : FlashWorld) (addr count : ℕ) (buf : ℕ → UInt8) (done : ℕ)
    (world : FlashWorld) : Prop where
  bus : world.bus = start.bus
  disabled : world.writeEnabled = false
  rest : ∀ place, ¬ (addr ≤ place ∧ place < addr + done) →
    world.cells place = start.cells place
  pages : AllWritten start addr buf done world ∨ PageLost start addr count done world

section Region

variable {start world final : FlashWorld} {addr count done size : ℕ} {buf : ℕ → UInt8}

/-- A page that starts at a boundary is the next page. -/
theorem pagesOf_add (aligned : (addr + done) % pageSz = 0) (some : 0 < size)
    (fits : size ≤ pageSz) : pagesOf addr (done + size) = pagesOf addr done + 1 := by
  simp only [pagesOf, pageSz] at *
  omega

theorem pagesOf_mono (less : done ≤ count) : pagesOf addr done ≤ pagesOf addr count := by
  apply Nat.div_le_div_right
  omega

/-- A world where all is written takes the next write enable if its page is accepted. -/
theorem AllWritten.accepts_iff (all : AllWritten start addr buf done world)
    (bus : world.bus = start.bus) :
    world.Accepts ↔ start.bus.PageAccepted (start.operations + pagesOf addr done) := by
  obtain ⟨polls, transfers, stops⟩ := all.stopped
  simp only [FlashWorld.Accepts, FlashWorld.received, FlashWorld.busy, bus, transfers,
    decide_eq_false_iff_not, Nat.not_lt]
  rw [all.operations] at stops ⊢
  constructor
  · rintro ⟨received, ready⟩
    exact ⟨polls, stops, received, ready⟩
  · rintro ⟨polls', stops', received, ready⟩
    obtain rfl := stops.unique stops'
    exact ⟨received, ready⟩

/-- A page that is programmed into erased bytes. -/
theorem programPage_erased (fits : (addr + done) % pageSz + size ≤ pageSz)
    (erased : Erased world.cells (addr + done) size) (place : ℕ) :
    programPage pageSz world.cells (addr + done) size (fun index => buf (done + index)) place =
      if addr + done ≤ place ∧ place < addr + done + size then buf (place - addr)
      else world.cells place := by
  rw [programPage_apply (by decide) fits]
  by_cases inside : addr + done ≤ place ∧ place < addr + done + size
  · rw [if_pos inside, if_pos inside, erased place inside.1 inside.2, erasedByte_and]
    congr 1
    omega
  · rw [if_neg inside, if_neg inside]

/-- The rest of an erased region is still erased. -/
theorem Progress.erased (progress : Progress start addr count buf done world)
    (erased : Erased start.cells addr count) (inside : done + size ≤ count) :
    Erased world.cells (addr + done) size := by
  intro place after before
  rw [progress.rest place (by omega)]
  apply erased <;> omega

/-- The chip takes the next page. -/
theorem Progress.next_accepted (progress : Progress start addr count buf done world)
    (erased : Erased start.cells addr count) (aligned : (addr + done) % pageSz = 0)
    (some : 0 < size) (fits : size ≤ pageSz) (inside : done + size ≤ count)
    (accepts : world.Accepts)
    (described : Operated world (programPage pageSz world.cells (addr + done) size
      fun index => buf (done + index)) final) :
    Progress start addr count buf (done + size) final := by
  obtain ⟨cells, operations, polls, transfers, stops⟩ := described.accepted accepts
  have final_cells : ∀ place, final.cells place =
      if addr + done ≤ place ∧ place < addr + done + size then buf (place - addr)
      else world.cells place := by
    intro place
    rw [cells]
    exact programPage_erased (by omega) (progress.erased erased inside) place
  refine ⟨described.bus.trans progress.bus, described.disabled, fun place outside => ?_, ?_⟩
  · rw [final_cells, if_neg (by omega)]
    exact progress.rest place (by omega)
  · rcases progress.pages with all | lost
    · left
      refine ⟨?_, ?_, ⟨polls, transfers, ?_⟩, fun index before => ?_⟩
      · rw [operations, all.operations, pagesOf_add aligned some fits, Nat.add_assoc]
      · intro page first before
        rw [pagesOf_add aligned some fits] at before
        rcases Nat.lt_succ_iff_lt_or_eq.mp before with earlier | rfl
        · exact all.accepted page first earlier
        · exact (all.accepts_iff progress.bus).mp accepts
      · rw [operations, ← progress.bus]
        exact stops
      · rw [final_cells]
        by_cases new : done ≤ index
        · rw [if_pos (by omega), Nat.add_sub_cancel_left]
        · rw [if_neg (by omega)]
          exact all.written index (by omega)
    · right
      obtain ⟨index, before, byte⟩ := lost.erased
      refine ⟨lost.missed, index, by omega, ?_⟩
      rw [final_cells, if_neg (by omega)]
      exact byte

/-- The next page is lost. -/
theorem Progress.next_refused (progress : Progress start addr count buf done world)
    (erased : Erased start.cells addr count) (aligned : (addr + done) % pageSz = 0)
    (started : 0 < done) (some : 0 < size) (fits : size ≤ pageSz)
    (inside : done + size ≤ count) (refuses : ¬ world.Accepts) {cells : Cells}
    (described : Operated world cells final) :
    Progress start addr count buf (done + size) final := by
  have same := described.refused refuses
  refine ⟨described.bus.trans progress.bus, described.disabled, fun place outside => ?_, .inr ?_⟩
  · rw [same]
    exact progress.rest place (by omega)
  · rcases progress.pages with all | lost
    · refine ⟨fun accepted => refuses ?_, done, by omega, ?_⟩
      · apply (all.accepts_iff progress.bus).mpr
        have later := pagesOf_add aligned some fits
        have last : pagesOf addr (done + size) ≤ pagesOf addr count := pagesOf_mono inside
        apply accepted
        · simp only [pagesOf, pageSz] at aligned ⊢
          omega
        · omega
      · rw [same, progress.rest _ (by omega)]
        apply erased <;> omega
    · obtain ⟨index, before, byte⟩ := lost.erased
      exact ⟨lost.missed, index, by omega, by rw [same, byte]⟩

/-- The first page is taken, since its write enable is checked. -/
theorem Progress.first (erased : Erased start.cells addr count) (some : 0 < size)
    (fits : addr % pageSz + size ≤ pageSz) (inside : size ≤ count)
    (described : Operated start (programPage pageSz start.cells addr size buf) final)
    (accepts : start.Accepts) : Progress start addr count buf size final := by
  obtain ⟨cells, operations, polls, transfers, stops⟩ := described.accepted accepts
  have final_cells : ∀ place, final.cells place =
      if addr ≤ place ∧ place < addr + size then buf (place - addr)
      else start.cells place := by
    intro place
    have page : Erased start.cells (addr + 0) size :=
      fun place after before => erased place after (by omega)
    have programmed : programPage pageSz start.cells (addr + 0) size
        (fun index => buf (0 + index)) place = _ :=
      programPage_erased fits page place
    simpa [cells] using programmed
  have one : pagesOf addr size = 1 := by
    simp only [pagesOf, pageSz] at fits ⊢
    omega
  refine ⟨described.bus, described.disabled, fun place outside => ?_, .inl ?_⟩
  · rw [final_cells, if_neg outside]
  · refine ⟨by rw [operations, one], ?_, ⟨polls, transfers, ?_⟩, fun index before => ?_⟩
    · intro page first before
      omega
    · rw [operations]
      exact stops
    · rw [final_cells, if_pos (by omega), Nat.add_sub_cancel_left]

/-- The region is inside the chip. -/
theorem address_eq (inside : addr + count ≤ chipSz) (before : done < count) :
    (addr + done) % 2 ^ 32 % chipSz = addr + done := by
  simp only [chipSz, blockSz] at *
  omega

/-- What the page loop reports when it ends. -/
def Written (start : FlashWorld) (addr count : ℕ) (buf : ℕ → UInt8) (status : DeviceStatus)
    (final : FlashWorld) : Prop :=
  (status = .success → Progress start addr count buf count final) ∧
    (start.bus.Works → status = .success)

/-- One turn of the page loop. -/
theorem wp_mxWriteTemplateBody (inside : addr + count ≤ chipSz)
    (erased : Erased start.cells addr count) (started : 0 < done)
    (aligned : done < count → (addr + done) % pageSz = 0) (bounded : done ≤ count)
    (progress : Progress start addr count buf done world) :
    wp (mxWriteTemplateBody addr count buf done) (fun outcome final =>
      match outcome with
      | .inl next => done < next ∧ next ≤ count ∧
          (next < count → (addr + next) % pageSz = 0) ∧
          Progress start addr count buf next final
      | .inr status => Written start addr count buf status final) world := by
  rw [mxWriteTemplateBody]
  by_cases before : done < count
  · have page := aligned before
    generalize size_eq :
      (if count - done > pageSz then pageSz else count - done) = size
    have size_spec : 0 < size ∧ size ≤ pageSz ∧ done + size ≤ count ∧
        (done + size < count → size = pageSz) := by
      have positive : 0 < pageSz := by decide
      split_ifs at size_eq <;> omega
    obtain ⟨some, fits, within, full⟩ := size_spec
    simp only [before, ↓reduceIte, wp_bind, wp_mxWREN]
    refine wp_mono (wp_mxProgramAndWait _ _ (.inl progress.disabled) fits)
      fun status final described => ?_
    rw [address_eq inside before] at described
    by_cases success : status = .success
    · have small : ¬ 2 ^ 31 ≤ done + size := by
        simp only [chipSz, blockSz] at inside
        omega
      simp only [success, ne_eq, not_true_eq_false, ↓reduceIte, small, wp_pure]
      refine ⟨by omega, within, fun later => ?_, ?_⟩
      · have whole := full later
        simp only [pageSz] at *
        omega
      · by_cases accepts : world.Accepts
        · exact progress.next_accepted erased page some fits within accepts (described.1 success)
        · exact progress.next_refused erased page started some fits within accepts
            (described.1 success)
    · rw [progress.bus] at described
      simp only [success, ne_eq, not_false_eq_true, ↓reduceIte, wp_pure]
      exact ⟨fun reported => absurd reported success, described.2⟩
  · have complete : done = count := by omega
    subst complete
    simp only [before, ↓reduceIte, wp_pure]
    exact ⟨fun _ => progress, fun _ => rfl⟩

/-- The driver writes a region of erased bytes, or loses pages of it. -/
theorem wp_mxWriteTemplate (inside : addr + count ≤ chipSz)
    (erased : Erased start.cells addr count) (some : 0 < count) (ready : start.busy = false) :
    wp (mxWriteTemplate addr count buf) (Written start addr count buf) start := by
  have offset : addr &&& (pageSz - 1) = addr % pageSz := Nat.and_two_pow_sub_one_eq_mod addr 8
  simp only [mxWriteTemplate, offset, Nat.ne_of_gt some, ↓reduceIte, wp_bind, wp_mxWREN]
  by_cases sent : start.status = .success
  · have accepts : start.Accepts := ⟨FlashWorld.received_of_success sent, ready⟩
    have address : addr % chipSz = addr := by
      apply Nat.mod_eq_of_lt
      omega
    have no_wrap : (addr % pageSz + count) % 2 ^ 32 = addr % pageSz + count := by
      simp only [chipSz, blockSz, pageSz] at *
      omega
    simp only [sent, ne_eq, not_true_eq_false, ↓reduceIte, no_wrap]
    by_cases single : addr % pageSz + count ≤ pageSz
    · simp only [single, ↓reduceIte]
      have fits : count ≤ pageSz := by omega
      refine wp_mono (wp_mxProgramAndWait _ _ (.inr accepts) fits)
        fun status final described => ?_
      rw [address] at described
      exact ⟨fun success => Progress.first erased some single (Nat.le_refl _)
        (described.1 success) accepts, described.2⟩
    · simp only [single, ↓reduceIte, wp_bind]
      have offset_lt : addr % pageSz < pageSz := Nat.mod_lt _ (by decide)
      refine wp_mono (wp_mxProgramAndWait _ _ (.inr accepts) (Nat.sub_le ..))
        fun status final described => ?_
      rw [address] at described
      by_cases success : status = .success
      · simp only [success, not_true_eq_false, ↓reduceIte]
        have progress : Progress start addr count buf (pageSz - addr % pageSz) final := by
          apply Progress.first erased _ _ _ (described.1 success) accepts
          · omega
          · omega
          · omega
        apply wp_loop
          (fun done world => 0 < done ∧ done ≤ count ∧
            (done < count → (addr + done) % pageSz = 0) ∧
            Progress start addr count buf done world)
          (fun done _ => count - done)
        · rintro done world ⟨started, bounded, aligned, holds⟩
          refine wp_mono (wp_mxWriteTemplateBody inside erased started aligned bounded holds)
            fun outcome after described => ?_
          cases outcome with
          | inl next =>
              obtain ⟨grows, bounded', aligned', holds'⟩ := described
              refine ⟨⟨?_, bounded', aligned', holds'⟩, ?_⟩ <;> omega
          | inr status => exact described
        · omega
        · refine ⟨by omega, by omega, fun _ => ?_, progress⟩
          simp only [pageSz] at *
          omega
      · simp only [success, not_false_eq_true, ↓reduceIte, wp_pure]
        exact ⟨fun reported => absurd reported success, described.2⟩
  · simp only [sent, ne_eq, not_false_eq_true, ↓reduceIte, wp_pure]
    exact ⟨fun reported => absurd reported sent, FlashWorld.status_of_works⟩

end Region

/-! ## The round trip -/

/-- A write and the read of the same region that follows it: both results and
the target buffer. -/
def writeThenRead (addr count : ℕ) (sourceBuffer targetBuffer : ℕ → UInt8) :
    Prog FlashWorld (FlashOpResult × FlashOpResult × (ℕ → UInt8)) := do
  let written ← gnseFlashWrite addr count sourceBuffer
  let (read, targetBuffer) ← gnseFlashRead addr count targetBuffer
  return (written, read, targetBuffer)

/-- A write that succeeds changes no byte outside its region. -/
def LeavesRest (world : FlashWorld) (addr count : ℕ) : Prop :=
  ∀ buf, wp (gnseFlashWrite addr count buf) (fun result final =>
    result = .success → ∀ place, ¬ (addr ≤ place ∧ place < addr + count) →
      final.cells place = world.cells place) world

/-- What is written and read back without an error is what was to be written. -/
def RoundTrip (world : FlashWorld) (addr count : ℕ) : Prop :=
  ∀ buf out, wp (writeThenRead addr count buf out) (fun result _ =>
    result.1 = .success → result.2.1 = .success → ∀ index < count, result.2.2 index = buf index)
    world

/-- Both calls report success. -/
def BothSucceed (world : FlashWorld) (addr count : ℕ) : Prop :=
  ∀ buf out, wp (writeThenRead addr count buf out) (fun result _ =>
    result.1 = .success ∧ result.2.1 = .success) world

section

variable {world : FlashWorld} {addr count : ℕ} {buf out : ℕ → UInt8}

/-- What a successful write leaves behind. -/
structure WriteResult (world : FlashWorld) (addr count : ℕ) (buf : ℕ → UInt8)
    (final : FlashWorld) : Prop where
  bus : final.bus = world.bus
  rest : ∀ place, ¬ (addr ≤ place ∧ place < addr + count) → final.cells place = world.cells place
  pages : (world.bus.PagesAccepted world.operations (pagesOf addr count) ∧
      ∀ index < count, final.cells (addr + index) = buf index) ∨
    (¬ world.bus.PagesAccepted world.operations (pagesOf addr count) ∧
      ∃ index < count, final.cells (addr + index) = erasedByte)
  ready : world.bus.Works → final.busy = false

theorem tick_ready (ready : world.busy = false) : world.tick.busy = false := by
  simp only [FlashWorld.busy, decide_eq_false_iff_not] at ready ⊢
  exact fun later => ready (Nat.lt_of_succ_lt later)

/-- A poll without a fault finds the chip ready. -/
theorem poll_of_works (works : world.bus.Works) (ready : world.busy = false) :
    world.poll = .deviceReady :=
  FlashWorld.poll_eq_ready.mpr ⟨works.transferred _ _, by simp [ready]⟩

/-- On a bus without faults every page is taken. -/
theorem FlashBus.Works.pagesAccepted {bus : FlashBus} (works : bus.Works)
    (operation pages : ℕ) : bus.PagesAccepted operation pages := by
  intro page _ _
  refine ⟨bus.busyFor (operation + page), ⟨fun index before => ?_, fun seen => ?_⟩, ?_, ?_⟩
  · exact ⟨works.transferred _ _, by simpa using before⟩
  · exact absurd seen.2 (by simp)
  · exact bus.received_of_ok _ _ (works.transferred _ _)
  · exact Nat.le_succ _

theorem Progress.writeResult {start final : FlashWorld}
    (progress : Progress start addr count buf count final) :
    WriteResult start addr count buf final := by
  refine ⟨progress.bus, progress.rest, ?_, fun works => ?_⟩
  · rcases progress.pages with all | lost
    · exact .inl ⟨all.accepted, all.written⟩
    · exact .inr ⟨lost.missed, lost.erased⟩
  · rcases progress.pages with all | lost
    · obtain ⟨polls, transfers, stops⟩ := all.stopped
      simp only [FlashWorld.busy, progress.bus, transfers, decide_eq_false_iff_not]
      intro later
      exact stops.ends ⟨works.transferred _ _, by omega⟩
    · exact absurd (works.pagesAccepted _ _) lost.missed

theorem wp_gnseFlashWrite (inside : addr + count ≤ chipSz)
    (erased : Erased world.cells addr count) :
    wp (gnseFlashWrite addr count buf) (fun result final =>
      (result = .success → WriteResult world addr count buf final) ∧
        (world.bus.Works → world.busy = false → result = .success)) world := by
  simp only [gnseFlashWrite, wp_bind, wp_mxIsFlashBusy]
  by_cases ready : world.poll = .deviceReady
  · simp only [ready, ↓reduceIte, wp_bind, mxPP]
    have not_busy : world.busy = false := by
      simpa using (FlashWorld.poll_eq_ready.mp ready).2
    by_cases none : count = 0
    · subst none
      have vacuous : world.bus.PagesAccepted world.operations (pagesOf addr 0) := by
        intro page first before
        simp only [pagesOf, pageSz] at before
        omega
      simp only [mxWriteTemplate, ↓reduceIte, wp_pure, ne_eq, not_true_eq_false]
      refine ⟨fun _ => ⟨rfl, fun _ _ => rfl, .inl ⟨vacuous, ?_⟩, fun _ => tick_ready not_busy⟩,
        fun _ _ => trivial⟩
      exact fun _ before => absurd before (Nat.not_lt_zero _)
    · refine wp_mono (wp_mxWriteTemplate inside erased (Nat.pos_of_ne_zero none)
        (tick_ready not_busy)) fun status final written => ?_
      by_cases success : status = .success
      · simp only [success, ne_eq, not_true_eq_false, ↓reduceIte, wp_pure]
        have left := (written.1 success).writeResult
        exact ⟨fun _ => ⟨left.bus, left.rest, left.pages, left.ready⟩, fun _ _ => trivial⟩
      · simp only [success, ne_eq, not_false_eq_true, ↓reduceIte, wp_pure]
        exact ⟨by simp, fun works => absurd (written.2 works) success⟩
  · simp only [ready, ↓reduceIte, wp_pure]
    exact ⟨by simp, fun works not_busy => absurd (poll_of_works works not_busy) ready⟩

theorem wp_gnseFlashRead (inside : addr + count ≤ chipSz) :
    wp (gnseFlashRead addr count out) (fun result _ =>
      (result.1 = .success → ∀ index < count, result.2 index =
          if index < rdwrBufSz then world.cells (addr + index) else out index) ∧
        (world.bus.Works → world.busy = false → result.1 = .success)) world := by
  simp only [gnseFlashRead, wp_bind, wp_mxIsFlashBusy]
  by_cases ready : world.poll = .deviceReady
  · simp only [ready, ↓reduceIte, wp_bind]
    have not_busy : world.busy = false := by
      simpa using (FlashWorld.poll_eq_ready.mp ready).2
    refine wp_mono (wp_mxREAD addr count out) fun result final described => ?_
    by_cases success : result.1 = .success
    · simp only [success, ne_eq, not_true_eq_false, ↓reduceIte, wp_pure]
      refine ⟨fun _ index before => ?_, fun _ _ => trivial⟩
      rw [described.2.1 success (tick_ready not_busy)]
      have address : (addr % chipSz + index) % chipSz = addr + index := by
        rw [Nat.mod_add_mod, Nat.mod_eq_of_lt (by omega)]
      by_cases buffered : index < rdwrBufSz
      · rw [if_pos (lt_min before buffered), if_pos buffered, address]
        rfl
      · rw [if_neg (by omega), if_neg buffered]
    · simp only [success, ne_eq, not_false_eq_true, ↓reduceIte, wp_pure]
      exact ⟨by simp, fun works => absurd (described.2.2 works) success⟩
  · simp only [ready, ↓reduceIte, wp_pure]
    exact ⟨by simp, fun works not_busy => absurd (poll_of_works works not_busy) ready⟩

/-- A region that was written and read back without an error. -/
theorem wp_writeThenRead (inside : addr + count ≤ chipSz)
    (erased : Erased world.cells addr count) :
    wp (writeThenRead addr count buf out) (fun result _ =>
      (result.1 = .success → result.2.1 = .success → ∃ middle,
        WriteResult world addr count buf middle ∧ ∀ index < count, result.2.2 index =
          if index < rdwrBufSz then middle.cells (addr + index) else out index) ∧
      (world.bus.Works → world.busy = false → result.1 = .success ∧ result.2.1 = .success))
      world := by
  simp only [writeThenRead, wp_bind]
  refine wp_mono (wp_gnseFlashWrite inside erased) fun written middle described => ?_
  refine wp_mono (wp_gnseFlashRead inside) fun result final readBack => ?_
  rw [wp_pure]
  refine ⟨fun success read => ⟨middle, described.1 success, readBack.1 read⟩,
    fun works ready => ?_⟩
  have success := described.2 works ready
  have left := described.1 success
  exact ⟨success, readBack.2 (by rwa [left.bus]) (left.ready works)⟩

/-- On a bus without faults both calls succeed. -/
theorem bothSucceed (inside : addr + count ≤ chipSz) (erased : Erased world.cells addr count)
    (works : world.bus.Works) (ready : world.busy = false) : BothSucceed world addr count :=
  fun _ _ => wp_mono (wp_writeThenRead inside erased) fun _ _ described => described.2 works ready

end

/-- The round trip holds for the regions that fit in the read buffer, and of
which the chip takes every page. -/
theorem roundTrip_iff (world : FlashWorld) (addr count : ℕ) (inside : addr + count ≤ chipSz)
    (erased : Erased world.cells addr count) (succeed : BothSucceed world addr count) :
    RoundTrip world addr count ↔
      count ≤ rdwrBufSz ∧ world.bus.PagesAccepted world.operations (pagesOf addr count) := by
  constructor
  · intro roundTrip
    -- Zeros that come back over ones expose both a lost page and an unread byte.
    have described := wp_and (roundTrip (fun _ => 0) fun _ => 1) (wp_and
      (succeed (fun _ => 0) fun _ => 1) (wp_writeThenRead inside erased))
    obtain ⟨result, final, -, same, ⟨written, read⟩, result_eq, -⟩ := described
    obtain ⟨middle, left, readBack⟩ := result_eq written read
    have zeros := same written read
    constructor
    · by_contra long
      have last : rdwrBufSz < count := Nat.lt_of_not_le long
      have unread := readBack rdwrBufSz last
      rw [if_neg (Nat.lt_irrefl _), zeros rdwrBufSz last] at unread
      exact absurd unread (by decide)
    · rcases left.pages with all | ⟨-, index, before, byte⟩
      · exact all.1
      · have lost := readBack index before
        rw [zeros index before, byte] at lost
        split at lost <;> exact absurd lost (by decide)
  · rintro ⟨short, accepted⟩ buf out
    refine wp_mono (wp_writeThenRead inside erased) fun result final described written read => ?_
    obtain ⟨middle, left, readBack⟩ := described.1 written read
    intro index before
    rcases left.pages with all | lost
    · rw [readBack index before, if_pos (by omega)]
      exact all.2 index before
    · exact absurd accepted lost.1

/-- An erased chip on a bus without faults. -/
def erasedChip : FlashWorld where
  cells := fun _ => erasedByte
  writeEnabled := false
  operations := 0
  transfers := 0
  bus :=
    { transferred := fun _ _ => .ok
      received := fun _ _ => true
      received_of_ok := fun _ _ _ => rfl
      busyFor := fun operation => if operation = 0 then 0 else 3
      expired := fun _ _ => false }

theorem erasedChip_works : erasedChip.bus.Works :=
  ⟨fun _ _ => rfl, fun _ _ => rfl⟩

/-- A write that succeeds stays in its region, and it can be read back exactly
if the region fits in the read buffer and the chip takes every page. -/
theorem gnseFlash_write_read (world : FlashWorld) (addr count : ℕ)
    (inside : addr + count ≤ chipSz) (erased : Erased world.cells addr count) :
    LeavesRest world addr count ∧ (BothSucceed world addr count →
      (RoundTrip world addr count ↔
        count ≤ rdwrBufSz ∧ world.bus.PagesAccepted world.operations (pagesOf addr count))) := by
  constructor
  · intro buf
    exact wp_mono (wp_gnseFlashWrite inside erased) fun _ _ described success =>
      (described.1 success).rest
  · exact roundTrip_iff world addr count inside erased

/-- Bytes in two pages, on a bus without faults. -/
theorem gnseFlash_write_read_erased :
    LeavesRest erasedChip 200 300 ∧ RoundTrip erasedChip 200 300 := by
  have inside : 200 + 300 ≤ chipSz := by decide
  have erased : Erased erasedChip.cells 200 300 := fun _ _ _ => rfl
  obtain ⟨rest, roundTrip⟩ := gnseFlash_write_read erasedChip 200 300 inside erased
  have succeed := bothSucceed inside erased erasedChip_works rfl
  exact ⟨rest, (roundTrip succeed).mpr ⟨by decide, erasedChip_works.pagesAccepted _ _⟩⟩

/-- Both calls report success for 513 bytes, and the last byte is not read. -/
theorem longRead_not_roundTrip :
    BothSucceed erasedChip 0 513 ∧ ¬ RoundTrip erasedChip 0 513 := by
  have inside : 0 + 513 ≤ chipSz := by decide
  have erased : Erased erasedChip.cells 0 513 := fun _ _ _ => rfl
  have succeed := bothSucceed inside erased erasedChip_works rfl
  refine ⟨succeed, fun roundTrip => ?_⟩
  have short := ((roundTrip_iff erasedChip 0 513 inside erased succeed).mp roundTrip).1
  exact absurd short (by decide)

end GenericNode.Flash
