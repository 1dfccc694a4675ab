import GenericNode.Fuota.Buffers

/-!
# Transfer of a file

A file is sent in fragments, and in encoded fragments behind them; some get
lost.  As long as not more fragments are missing than the decoder can keep
lines of, the application reports the file, or it reports nothing.
-/

namespace GenericNode.Fuota

open GenericNode.Library
open GenericNode.Library.Prog
open GenericNode.Library.Elimination

/-! ## The sender -/

/-- A file with the sizes of its fragments; the last fragment is filled up. -/
structure SentFile where
  content : List UInt8
  fill : Row
  fragNb : UInt16
  fragSize : UInt8
  padding : UInt8
  few : fragNb.toNat ≤ fragMaxNb
  short : fragSize.toNat ≤ fragMaxSize
  padded : padding.toNat < fragSize.toNat
  length : content.length + padding.toNat = fragNb.toNat * fragSize.toNat

/-- The sum of the fragments that a row of the parity matrix picks. -/
def encodeFragments (file : File) (matrixRow : List Bool) (fragNb : ℕ) : Row := fun b =>
  (List.range fragNb).foldl (fun byte i => if bitAt matrixRow i then byte ^^^ file i b else byte) 0

/-- The application reported nothing since the start. -/
def Unreported (start final : FuotaWorld) : Prop :=
  final.done = start.done ∧ final.isFileTransferDone = start.isFileTransferDone ∧
    final.fileRxCrc = start.fileRxCrc

/-- When an encoded fragment comes there are not too many losses. -/
def transferFits (world : FuotaWorld) : FuotaEvent → Prop
  | .downlink _ (.dataFragment fragCounter _) =>
      (world.fragSessionData (sessionIndex (fragCounter.toNat >>> 14))).fragDecoderProcessStatus =
          fragSessionOngoing →
        world.decoding.decoder.fragNb < fragCounter.toNat % 2 ^ 14 →
          world.decoding.decoder.status.fragNbLost ≤ fragMaxRedundancy ∧
            world.decoding.decoder.lostAfter ≤ redundancyBits
  | .downlink _ (.fragSessionSetupReq _ _ _ _ _) | .downlink _ (.fragSessionDeleteReq _)
  | .fragDone _ | .sysTimeUpdate | .classChange _ | .txTimer | .sendTxData _ => True

instance (world : FuotaWorld) : ∀ event, Decidable (transferFits world event)
  | .downlink _ (.dataFragment _ _) => inferInstanceAs (Decidable (_ → _ → _ ∧ _))
  | .downlink _ (.fragSessionSetupReq _ _ _ _ _) | .downlink _ (.fragSessionDeleteReq _)
  | .fragDone _ | .sysTimeUpdate | .classChange _ | .txTimer | .sendTxData _ => .isTrue trivial

namespace SentFile

variable (sent : SentFile)

/-- The fragments of the file. -/
def file : File := fun i b =>
  sent.content[i * sent.fragSize.toNat + b]?.getD (sent.fill (i * sent.fragSize.toNat + b))

/-- What is sent with a counter. -/
def fragment (fragCounter : ℕ) : Row :=
  if fragCounter ≤ sent.fragNb.toNat then sent.file (fragCounter - 1)
  else
    encodeFragments sent.file
      ((fragGetParityMatrixRow (fragCounter - sent.fragNb.toNat) sent.fragNb.toNat).getD [])
      sent.fragNb.toNat

/-- The session that the file is announced with. -/
def group (fragSession control : UInt8) : FragGroupData :=
  ⟨true, fragSession, sent.fragNb, sent.fragSize, control, sent.padding⟩

/-- What comes while the file is sent: its fragments, and what does not concern the
package. -/
def Receives (fragIndex : Fin 4) : FuotaEvent → Prop
  | .downlink _ (.dataFragment fragCounter rawData) =>
      sessionIndex (fragCounter.toNat >>> 14) = fragIndex ∧ 1 ≤ fragCounter.toNat % 2 ^ 14 ∧
        ∀ b < sent.fragSize.toNat,
          rawData b = sent.fragment (fragCounter.toNat % 2 ^ 14) b
  | .sysTimeUpdate | .classChange _ | .txTimer | .sendTxData _ => True
  | .downlink _ (.fragSessionSetupReq _ _ _ _ _) | .downlink _ (.fragSessionDeleteReq _)
  | .fragDone _ => False

instance (fragIndex : Fin 4) : ∀ event, Decidable (sent.Receives fragIndex event)
  | .downlink _ (.dataFragment _ _) => inferInstanceAs (Decidable (_ ∧ _ ≤ _ ∧ ∀ b < _, _))
  | .sysTimeUpdate | .classChange _ | .txTimer | .sendTxData _ => .isTrue trivial
  | .downlink _ (.fragSessionSetupReq _ _ _ _ _) | .downlink _ (.fragSessionDeleteReq _)
  | .fragDone _ => .isFalse id

/-- The application while the file is sent. -/
def transfer (fragIndex : Fin 4) : Machine FuotaWorld FuotaEvent where
  enabled := fun _ event => sent.Receives fragIndex event
  step := fuotaStep

instance (fragIndex : Fin 4) (world : FuotaWorld) (event : FuotaEvent) :
    Decidable ((sent.transfer fragIndex).enabled world event) :=
  inferInstanceAs (Decidable (sent.Receives fragIndex event))

/-- Since the start it reported the file, once. -/
def Reported (start final : FuotaWorld) : Prop :=
  final.isFileTransferDone = true ∧ final.fileRxCrc = crc32Of sent.content ∧
    ∃ data : Row, data.take sent.content.length = sent.content ∧
      final.done = start.done ++
        [⟨start.setups, sent.content.length, data, crc32Of sent.content⟩]

variable {sent}

theorem blockSize_le (sent : SentFile) :
    sent.fragNb.toNat * sent.fragSize.toNat ≤ unfragmentedDataSize :=
  Nat.mul_le_mul sent.few sent.short

/-- The size that is reported is that of the file. -/
theorem fileSize_group (sent : SentFile) (fragSession control : UInt8) :
    (sent.group fragSession control).fileSize = sent.content.length := by
  have length := sent.length
  have padded : (sent.group fragSession control).Padded := by
    change sent.padding.toNat ≤ sent.fragNb.toNat * sent.fragSize.toNat
    omega
  rw [FragGroupData.fileSize_eq padded sent.blockSize_le]
  change sent.fragNb.toNat * sent.fragSize.toNat - sent.padding.toNat = _
  omega

/-- Encoded fragments are the sums that the decoder expects. -/
theorem mk_encodeFragments (file : File) (matrixRow : List Bool) (fragNb b : ℕ) :
    XorByte.mk (encodeFragments file matrixRow fragNb b) =
      combine (bitAt matrixRow) (fun i => ⟨file i b⟩) fragNb := by
  induction fragNb with
  | zero => rfl
  | succ fragNb ih =>
      rw [combine, Finset.sum_range_succ, ← combine, ← ih, encodeFragments, List.range_succ,
        List.foldl_append]
      cases picked : bitAt matrixRow fragNb with
      | false =>
          rw [if_neg Bool.false_ne_true, add_zero]
          simp [picked, encodeFragments]
      | true =>
          rw [if_pos rfl, ← XorByte.mk_xor]
          simp [picked, encodeFragments]

/-- When the storage has all fragments it begins with the file. -/
theorem take_of_holds {state : Decoding} (fragNb : state.decoder.fragNb = sent.fragNb.toNat)
    (fragSize : state.decoder.fragSize = sent.fragSize.toNat) (holds : Holds sent.file state) :
    state.storage.unfragmentedData.take sent.content.length = sent.content := by
  apply List.ext_getElem
  · rw [Row.take, List.length_map, List.length_range]
  · intro index inside inside'
    have positive : 0 < sent.fragSize.toNat := by
      have padded := sent.padded
      omega
    have place := Nat.div_add_mod' index sent.fragSize.toNat
    have below : index / sent.fragSize.toNat < sent.fragNb.toNat := by
      apply Nat.div_lt_of_lt_mul
      have length := sent.length
      rw [Nat.mul_comm]
      omega
    have row := holds (index / sent.fragSize.toNat) (by rwa [fragNb]) (index % sent.fragSize.toNat)
      (by rw [fragSize]; exact Nat.mod_lt _ positive)
    rw [fragSize, Storage.row, place, file, place, List.getElem?_eq_getElem inside',
      Option.getD_some] at row
    simp only [Row.take, List.getElem_map, List.getElem_range]
    exact row

/-! ## What a step preserves -/

/-- The session of the file, and what it has got. -/
structure Transferring (sent : SentFile) (group : FragGroupData) (start world : FuotaWorld)
    (status : ℤ) : Prop where
  session : world.fragSessionData group.fragIndex = ⟨group, status, start.setups⟩
  fragNb : world.decoding.decoder.fragNb = sent.fragNb.toNat
  fragSize : world.decoding.decoder.fragSize = sent.fragSize.toNat
  ongoing : status = fragSessionOngoing → Kept world.decoding.decoder ∧
    Explains sent.file world.decoding
  finished : 0 ≤ status → Holds sent.file world.decoding
  reports : (status = fragSessionOngoing ∨ 0 ≤ status) ∧ Unreported start world ∨
    status = fragSessionNotStarted ∧ sent.Reported start world

/-- Whatever it has got. -/
def InTransfer (sent : SentFile) (group : FragGroupData) (start world : FuotaWorld) : Prop :=
  ∃ status, sent.Transferring group start world status

variable {group : FragGroupData} {start world final : FuotaWorld} {status : ℤ}

/-- What does not concern the package. -/
theorem Transferring.untouched (kept : Transferring sent group start world status)
    (untouched : Untouched world final) : Transferring sent group start final status := by
  constructor
  · rw [untouched.sessions]
    exact kept.session
  · rw [untouched.decoding]
    exact kept.fragNb
  · rw [untouched.decoding]
    exact kept.fragSize
  · rw [untouched.decoding]
    exact kept.ongoing
  · rw [untouched.decoding]
    exact kept.finished
  · rw [Unreported, Reported, untouched.done, untouched.isFileTransferDone, untouched.fileRxCrc]
    exact kept.reports

/-- The content of a fragment of the file. -/
theorem carries {decoder : FragDecoder} {fragCounter : ℕ} {rawData : Row}
    (fragNb : decoder.fragNb = sent.fragNb.toNat)
    (fragSize : decoder.fragSize = sent.fragSize.toNat)
    (same : ∀ b < sent.fragSize.toNat, rawData b = sent.fragment fragCounter b) :
    Carries sent.file decoder fragCounter rawData := by
  unfold Carries
  rw [fragSize, fragNb]
  unfold fragment at same
  split_ifs with stored
  · rw [if_pos (Nat.le_of_lt_succ stored)] at same
    exact same
  · intro row is_row b inside
    rw [fragSize] at inside
    rw [if_neg (by omega), is_row, Option.getD_some] at same
    rw [same b inside, fragNb]
    exact mk_encodeFragments ..

/-- The counters of the file stay within the arrays. -/
theorem Transferring.fits (kept : Transferring sent group start world status) {fragCounter : ℕ}
    (first : 1 ≤ fragCounter)
    (lost : world.decoding.decoder.fragNb < fragCounter →
      world.decoding.decoder.lostAfter ≤ redundancyBits) :
    world.decoding.decoder.Fits fragCounter := by
  have few := sent.few
  have fragNb := kept.fragNb
  unfold FragDecoder.Fits
  split_ifs with dropped stored many
  · exact ⟨first, by omega⟩
  · refine ⟨by omega, .inr ⟨lost (by omega), ?_⟩⟩
    rw [kept.fragSize]
    exact sent.short

/-- A fragment is processed. -/
theorem Transferring.ongoing_step (kept : Transferring sent group start world fragSessionOngoing)
    {fragCounter : ℕ} {rawData : Row} (short : fragCounter < 2 ^ 14) (first : 1 ≤ fragCounter)
    (same : ∀ b < sent.fragSize.toNat, rawData b = sent.fragment fragCounter b)
    (fits : world.decoding.decoder.fragNb < fragCounter →
      world.decoding.decoder.status.fragNbLost ≤ fragMaxRedundancy ∧
        world.decoding.decoder.lostAfter ≤ redundancyBits) :
    wp (fragDecoderProcess fragCounter rawData)
      (fun status decoding => ∀ sessions : Fin 4 → FragSessionData,
        sessions group.fragIndex = ⟨group, status, start.setups⟩ →
          Transferring sent group start
            { world with decoding := decoding, fragSessionData := sessions } status)
      world.decoding := by
  obtain ⟨decoder_kept, explains⟩ := kept.ongoing rfl
  have is_file : ∀ file ∈ ({sent.file} : Set File), file = sent.file :=
    fun file mem => Set.mem_singleton_iff.mp mem
  have explains' : ∀ file ∈ ({sent.file} : Set File), Explains file world.decoding := by
    intro file mem
    rw [is_file file mem]
    exact explains
  refine wp_mono (wp_fragDecoderProcess decoder_kept explains' short
    (kept.fits first fun encoded => (fits encoded).2) ?_ ?_) fun status decoding processed => ?_
  · exact fun _ _ encoded => (fits encoded).1
  · intro file mem
    rw [is_file file mem]
    exact carries kept.fragNb kept.fragSize same
  · intro sessions session
    have unreported : Unreported start world := by
      rcases kept.reports with ⟨-, unreported⟩ | ⟨other, -⟩
      · exact unreported
      · cases other
    refine ⟨session, processed.fragNb.trans kept.fragNb, processed.fragSize.trans kept.fragSize,
      fun ongoing => ?_, fun finished => ?_, .inl ⟨?_, unreported⟩⟩
    all_goals rcases processed.result with ⟨is_ongoing, explains'⟩ | ⟨is_finished, holds⟩
    · exact ⟨processed.kept, explains' _ (Set.mem_singleton _)⟩
    · rw [ongoing] at is_finished
      exact absurd is_finished (by decide)
    · rw [is_ongoing] at finished
      exact absurd finished (by decide)
    · exact holds _ (Set.mem_singleton _)
    · exact .inl is_ongoing
    · exact .inr is_finished

/-- The file is reported. -/
theorem Transferring.done_step (kept : Transferring sent group start world status)
    (size : group.fileSize = sent.content.length) (finished : 0 ≤ status) :
    wp (fragSessionDone (world.fragSessionData group.fragIndex))
      (fun _ final => ∀ sessions : Fin 4 → FragSessionData,
        sessions group.fragIndex = ⟨group, fragSessionNotStarted, start.setups⟩ →
          Transferring sent group start { final with fragSessionData := sessions }
            fragSessionNotStarted) world := by
  have fits : sent.content.length < 2 ^ 16 := by
    have bounded : unfragmentedDataSize = 1050 := rfl
    have block := sent.blockSize_le
    have length := sent.length
    omega
  have content := take_of_holds kept.fragNb kept.fragSize (kept.finished finished)
  refine wp_mono (wp_fragSessionDone world _) fun _ final done sessions session => ?_
  have same := done.same
  rw [kept.session] at same
  dsimp only at same
  rw [size, Nat.mod_eq_of_lt fits, content] at same
  have unreported : Unreported start world := by
    rcases kept.reports with ⟨-, unreported⟩ | ⟨other, -⟩
    · exact unreported
    · rw [other] at finished
      exact absurd finished (by decide)
  rw [same]
  refine ⟨session, kept.fragNb, kept.fragSize, ?_, ?_, .inr ⟨rfl, rfl, rfl, _, content, ?_⟩⟩
  · exact fun other => absurd other (by decide)
  · exact fun other => absurd other (by decide)
  · rw [← unreported.1]

theorem Transferring.process (kept : Transferring sent group start world status)
    (active : group.isActive = true) (size : group.fileSize = sent.content.length)
    {fragCounter : ℕ} {rawData : Row} (short : fragCounter < 2 ^ 14) (first : 1 ≤ fragCounter)
    (same : ∀ b < sent.fragSize.toNat, rawData b = sent.fragment fragCounter b)
    (fits : status = fragSessionOngoing → world.decoding.decoder.fragNb < fragCounter →
      world.decoding.decoder.status.fragNbLost ≤ fragMaxRedundancy ∧
        world.decoding.decoder.lostAfter ≤ redundancyBits) :
    wp (fragDataFragment group.fragIndex fragCounter rawData)
      (fun _ final => sent.InTransfer group start final) world := by
  have session := kept.session
  have is_active : (world.fragSessionData group.fragIndex).fragGroupData.isActive = true := by
    rw [session]
    exact active
  have is_status : (world.fragSessionData group.fragIndex).fragDecoderProcessStatus = status := by
    rw [session]
  rw [fragDataFragment, wp_bind, wp_gets]
  dsimp only
  rw [if_neg (by rw [is_active]; exact Bool.noConfusion), is_status]
  split_ifs with ongoing finished
  · subst ongoing
    rw [wp_bind, onDecoding, wp_zoom]
    refine wp_mono (kept.ongoing_step short first same (fits rfl)) fun status decoding next => ?_
    refine (wp_modify ..).mpr ⟨status, next _ ?_⟩
    rw [Function.update_self, session]
  · rw [wp_bind]
    refine wp_mono (kept.done_step size finished) fun _ final next => ?_
    refine (wp_modify ..).mpr ⟨_, next _ ?_⟩
    rw [Function.update_self, session]
  · exact (wp_pure ..).mpr ⟨status, kept⟩

/-- A step that fits is defined, and keeps the invariant. -/
theorem Transferring.step (kept : Transferring sent group start world status)
    (active : group.isActive = true) (size : group.fileSize = sent.content.length)
    {event : FuotaEvent} (receives : sent.Receives group.fragIndex event)
    (fits : transferFits world event) :
    wp ((sent.transfer group.fragIndex).step event)
      (fun _ final => sent.InTransfer group start final) world := by
  cases event with
  | sysTimeUpdate =>
      exact (wp_modify ..).mpr ⟨status, kept.untouched ⟨rfl, rfl, rfl, rfl, rfl⟩⟩
  | classChange deviceClass =>
      exact wp_mono (wp_onClassChange deviceClass) fun _ final untouched =>
        ⟨status, kept.untouched untouched⟩
  | downlink multicast command =>
      cases command with
      | fragSessionSetupReq fragSession fragNb fragSize control padding => exact receives.elim
      | fragSessionDeleteReq id => exact receives.elim
      | dataFragment fragCounter rawData =>
          obtain ⟨index, first, same⟩ := receives
          have short : fragCounter.toNat % 2 ^ 14 < 2 ^ 14 := Nat.mod_lt _ (Nat.two_pow_pos 14)
          have allowed : status = fragSessionOngoing →
              world.decoding.decoder.fragNb < fragCounter.toNat % 2 ^ 14 →
                world.decoding.decoder.status.fragNbLost ≤ fragMaxRedundancy ∧
                  world.decoding.decoder.lostAfter ≤ redundancyBits := by
            intro ongoing
            apply fits
            rw [index, kept.session]
            exact ongoing
          change wp (fragDataFragment (sessionIndex (fragCounter.toNat >>> 14)) _ rawData) _ world
          rw [index]
          exact kept.process active size short first same allowed
  | fragDone fragIndex => exact receives.elim
  | txTimer =>
      exact (wp_modify ..).mpr ⟨status, kept.untouched ⟨rfl, rfl, rfl, rfl, rfl⟩⟩
  | sendTxData conditions =>
      exact wp_mono (wp_sendTxData conditions) fun _ final untouched =>
        ⟨status, kept.untouched untouched⟩

/-- The session is set up. -/
theorem transferring_start {fragSession control : UInt8}
    (accepted : (sent.group fragSession control).setupStatus &&& 0x0F = 0) :
    wp (fragSessionSetup (sent.group fragSession control))
      (fun _ start => Transferring sent (sent.group fragSession control) start start
        fragSessionOngoing) world := by
  rw [fragSessionSetup, if_pos accepted, wp_bind, wp_modify, wp_bind, wp_gets, wp_bind,
    Fuota.setSession, wp_modify, wp_bind, onDecoding, wp_zoom]
  refine wp_mono (wp_fragDecoderInit sent.blockSize_le (fragSize_small _)) ?_
  intro _ decoding initialized
  refine (wp_lmHandlerSend ..).mpr ⟨Function.update_self .., initialized.fragNb,
    initialized.fragSize, fun _ => ⟨initialized.kept, initialized.explains _⟩, ?_,
    .inl ⟨.inl rfl, rfl, rfl, rfl⟩⟩
  exact fun other => absurd other (by decide)

end SentFile

/-- In every run of a transfer without too many losses the application reports the
file, or nothing, and the next step is defined. -/
theorem fileTransfer_intact (sent : SentFile) {fragSession control : UInt8}
    (accepted : (sent.group fragSession control).setupStatus &&& 0x0F = 0) (world : FuotaWorld) :
    wp (fragSessionSetup (sent.group fragSession control))
      (fun _ start => ∀ final,
        (sent.transfer (sent.group fragSession control).fragIndex).Reaches transferFits start
            final →
          (Unreported start final ∨ sent.Reported start final) ∧
          ∀ event, sent.Receives (sent.group fragSession control).fragIndex event →
            transferFits final event → wp (fuotaStep event) (fun _ _ => True) final) world := by
  have size := sent.fileSize_group fragSession control
  refine wp_mono (SentFile.transferring_start accepted) fun _ start initial final reaches => ?_
  have kept : sent.InTransfer (sent.group fragSession control) start final := by
    refine reaches.invariant ⟨_, initial⟩ ?_
    rintro before event ⟨status, kept⟩ receives fits
    exact kept.step rfl size receives fits
  obtain ⟨status, kept⟩ := kept
  refine ⟨?_, fun event receives fits => ?_⟩
  · rcases kept.reports with ⟨-, unreported⟩ | ⟨-, reported⟩
    · exact .inl unreported
    · exact .inr reported
  · exact wp_mono (kept.step rfl size receives fits) fun _ _ _ => trivial

namespace SentFile

/-- Some fragments of a file. -/
def received (sent : SentFile) (counters : List UInt16) : List FuotaEvent :=
  counters.map fun counter => .downlink true (.dataFragment counter (sent.fragment counter.toNat))

/-- Two bytes, one in each fragment. -/
def twoBytes : SentFile where
  content := [0x42, 0x43]
  fill := fun _ => 0
  fragNb := 2
  fragSize := 1
  padding := 0
  few := by decide
  short := by decide
  padded := by decide
  length := by decide

/-- Six bytes, one in each fragment. -/
def sixBytes : SentFile where
  content := [1, 2, 3, 4, 5, 6]
  fill := fun _ => 0
  fragNb := 6
  fragSize := 1
  padding := 0
  few := by decide
  short := by decide
  padded := by decide
  length := by decide

end SentFile

open SentFile (twoBytes sixBytes)

/-- The first of two fragments is recovered from an encoded one. -/
theorem fileTransfer_intact_twoBytes :
    ∃ start final : FuotaWorld, final.done.map (fun done => done.data.take 2) = [[0x42, 0x43]] ∧
      (Unreported start final ∨ twoBytes.Reported start final) := by
  have replayed : ∃ start final : FuotaWorld,
      (fragSessionSetup (twoBytes.group 0 0)).run (fuotaBoot fun _ => 0) = (some (), start) ∧
      (twoBytes.transfer 0).replay transferFits (twoBytes.received [2, 3, 4, 5]) start =
        some final ∧
      final.done.map (fun done => done.data.take 2) = [[0x42, 0x43]] :=
    ⟨_, _, rfl, rfl, by decide +kernel⟩
  obtain ⟨start, final, setup, replayed, content⟩ := replayed
  have intact := wp_result (fileTransfer_intact twoBytes (by decide) (fuotaBoot fun _ => 0)) setup
  exact ⟨start, final, content, (intact final (Machine.reaches_of_replay _ replayed)).1⟩

/-- When all are lost the decoder finishes with an error, and what it has got is
reported. -/
theorem lostFile_reported :
    ∃ start final : FuotaWorld,
      (fragSessionSetup (sixBytes.group 0 0)).run (fuotaBoot fun _ => 0) = (some (), start) ∧
      (sixBytes.transfer 0).Reaches (fun _ _ => True) start final ∧
      ¬ (Unreported start final ∨ sixBytes.Reported start final) := by
  have replayed : ∃ start final : FuotaWorld,
      (fragSessionSetup (sixBytes.group 0 0)).run (fuotaBoot fun _ => 0) = (some (), start) ∧
      (sixBytes.transfer 0).replay (fun _ _ => True) (sixBytes.received [7, 8, 9]) start =
        some final ∧
      start.done.length = 0 ∧
      final.done.map (fun done => done.data.take 6) =
        [[3, 0xFF, 0xFF, 0xFF, 0xFF, 0xFF]] :=
    ⟨_, _, rfl, rfl, rfl, rfl⟩
  obtain ⟨start, final, setup, replayed, none, wrong⟩ := replayed
  refine ⟨start, final, setup, Machine.reaches_of_replay _ replayed, ?_⟩
  rw [List.length_eq_zero_iff] at none
  rintro (⟨done, -⟩ | ⟨-, -, data, content, done⟩)
  · rw [done, none] at wrong
    cases wrong
  · rw [done, none, List.nil_append, List.map_singleton] at wrong
    change [data.take sixBytes.content.length] = _ at wrong
    rw [content] at wrong
    cases wrong

end GenericNode.Fuota
