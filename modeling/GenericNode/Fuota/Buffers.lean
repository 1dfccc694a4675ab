import GenericNode.Fuota.Fragments
import GenericNode.Fuota.Sessions

/-!
# Buffers of the FUOTA application

Sessions are set up and fragments come in any order, and in any session.  As
long as the counters, the sizes and the padding do not lead out of the arrays,
every call of the decoder is lawful, and nothing but the data block is touched.
-/

namespace GenericNode.Fuota

open GenericNode.Library
open GenericNode.Library.Prog

/-! ## Blocks -/

/-- The size of the data block of a session. -/
def FragGroupData.blockSize (group : FragGroupData) : ℕ :=
  group.fragNb.toNat * group.fragSize.toNat

variable {group : FragGroupData}

/-- A session that is accepted has a block that fits into the storage. -/
theorem FragGroupData.blockSize_le (accepted : group.setupStatus &&& 0x0F = 0) :
    group.blockSize ≤ unfragmentedDataSize := by
  by_contra larger
  have memory : group.fragNb.toNat * group.fragSize.toNat > fragDecoderGetMaxFileSize :=
    not_le.mp larger
  have refused : ∀ encoding ∈ ([0x01, 0x00] : List UInt8), ∀ index : Fin 4,
      (encoding ||| (0x02 : UInt8) ||| (UInt8.ofNat index.val <<< 6)) &&& 0x0F ≠ 0 := by
    decide +kernel
  rw [FragGroupData.setupStatus, if_pos memory] at accepted
  refine refused _ ?_ _ accepted
  by_cases encoded : (group.control >>> 3) &&& 0x07 > 0
  · rw [if_pos encoded]
    exact List.mem_cons_self
  · rw [if_neg encoded]
    exact List.mem_cons_of_mem _ List.mem_cons_self

/-- The padding is not larger than the block. -/
abbrev FragGroupData.Padded (group : FragGroupData) : Prop :=
  group.padding.toNat ≤ group.blockSize

theorem FragGroupData.fileSize_eq (padded : group.Padded)
    (block : group.blockSize ≤ unfragmentedDataSize) :
    group.fileSize = group.blockSize - group.padding.toNat := by
  have bounded : unfragmentedDataSize = 1050 := rfl
  change (group.blockSize + 2 ^ 32 - group.padding.toNat) % 2 ^ 32 = _
  omega

theorem fragSize_small (size : UInt8) : size.toNat < unfragmentedDataSize := by
  have bounded : unfragmentedDataSize = 1050 := rfl
  have short : size.toNat < 2 ^ 8 := size.toNat_lt
  omega

/-! ## What a step preserves -/

/-- An event does not lead out of the buffers. -/
def bufferFits (world : FuotaWorld) : FuotaEvent → Prop
  | .downlink multicast (.fragSessionSetupReq fragSession fragNb fragSize control padding) =>
      multicast = false →
        FragGroupData.setupStatus ⟨true, fragSession, fragNb, fragSize, control, padding⟩
            &&& 0x0F = 0 →
          fragNb.toNat * fragSize.toNat ≠ unfragmentedDataSize
  | .downlink _ (.dataFragment fragCounter _) =>
      let session := world.fragSessionData (sessionIndex (fragCounter.toNat >>> 14))
      session.fragGroupData.isActive = true →
        (session.fragDecoderProcessStatus = fragSessionOngoing →
          world.decoding.decoder.Fits (fragCounter.toNat % 2 ^ 14)) ∧
        (0 ≤ session.fragDecoderProcessStatus → session.fragGroupData.Padded)
  | .fragDone fragIndex => (world.fragSessionData fragIndex).fragGroupData.Padded
  | .downlink _ (.fragSessionDeleteReq _) | .sysTimeUpdate | .classChange _ | .txTimer
  | .sendTxData _ => True

instance (world : FuotaWorld) : ∀ event, Decidable (bufferFits world event)
  | .downlink _ (.fragSessionSetupReq _ _ _ _ _) => inferInstanceAs (Decidable (_ → _ → _))
  | .downlink _ (.dataFragment _ _) => inferInstanceAs (Decidable (_ → (_ → _) ∧ (_ → _)))
  | .fragDone _ => inferInstanceAs (Decidable (_ ≤ _))
  | .downlink _ (.fragSessionDeleteReq _) | .sysTimeUpdate | .classChange _ | .txTimer
  | .sendTxData _ => .isTrue trivial

/-- The storage is safe, and the decoder is in use when a session is active. -/
structure BuffersKept (world : FuotaWorld) : Prop where
  safe : world.decoding.storage.Safe
  decoder : ∀ i, (world.fragSessionData i).fragGroupData.isActive = true →
    Kept world.decoding.decoder
  blocks : ∀ i, (world.fragSessionData i).fragGroupData.blockSize ≤ unfragmentedDataSize

variable {world final : FuotaWorld}

/-- What the application does on its own leaves the package and what it reported. -/
structure Untouched (world final : FuotaWorld) : Prop where
  decoding : final.decoding = world.decoding
  sessions : final.fragSessionData = world.fragSessionData
  done : final.done = world.done
  isFileTransferDone : final.isFileTransferDone = world.isFileTransferDone
  fileRxCrc : final.fileRxCrc = world.fileRxCrc

theorem wp_lmHandlerSend (port : UInt8) (buffer : List UInt8) (post : Unit → FuotaWorld → Prop) :
    wp (lmHandlerSend port buffer) post world ↔
      post () { world with
        uplinks := world.uplinks ++
          [⟨port, buffer, world.deviceClass, world.setups, world.done⟩] } :=
  wp_modify ..

theorem wp_onClassChange (deviceClass : DeviceClass) :
    wp (onClassChange deviceClass) (fun _ final => Untouched world final) world := by
  refine (wp_bind ..).mpr ((wp_modify ..).mpr ?_)
  cases deviceClass with
  | classA => exact (wp_modify ..).mpr ⟨rfl, rfl, rfl, rfl, rfl⟩
  | classB =>
      rw [wp_bind, wp_lmHandlerSend]
      exact (wp_modify ..).mpr ⟨rfl, rfl, rfl, rfl, rfl⟩
  | classC => exact (wp_modify ..).mpr ⟨rfl, rfl, rfl, rfl, rfl⟩

theorem wp_sendTxData (conditions : TxConditions) :
    wp (sendTxData conditions) (fun _ final => Untouched world final) world := by
  rw [sendTxData, wp_bind, wp_gets, wp_bind, wp_modify]
  dsimp only [id]
  split_ifs
  · exact (wp_pure ..).mpr ⟨rfl, rfl, rfl, rfl, rfl⟩
  · exact (wp_lmHandlerSend ..).mpr ⟨rfl, rfl, rfl, rfl, rfl⟩
  · exact (wp_lmHandlerSend ..).mpr ⟨rfl, rfl, rfl, rfl, rfl⟩
  · exact (wp_pure ..).mpr ⟨rfl, rfl, rfl, rfl, rfl⟩
  · exact (wp_lmHandlerSend ..).mpr ⟨rfl, rfl, rfl, rfl, rfl⟩
  · exact (wp_pure ..).mpr ⟨rfl, rfl, rfl, rfl, rfl⟩

/-- Only the decoder and the sessions matter. -/
theorem BuffersKept.untouched (kept : BuffersKept world) (untouched : Untouched world final) :
    BuffersKept final := by
  constructor
  · rw [untouched.decoding]
    exact kept.safe
  · rw [untouched.decoding, untouched.sessions]
    exact kept.decoder
  · rw [untouched.sessions]
    exact kept.blocks

theorem BuffersKept.send (kept : BuffersKept world) (port : UInt8) (buffer : List UInt8) :
    wp (lmHandlerSend port buffer) (fun _ final => BuffersKept final) world :=
  (wp_lmHandlerSend ..).mpr ⟨kept.safe, kept.decoder, kept.blocks⟩

theorem BuffersKept.setup (kept : BuffersKept world)
    (fits : group.setupStatus &&& 0x0F = 0 → group.blockSize ≠ unfragmentedDataSize) :
    wp (fragSessionSetup group) (fun _ final => BuffersKept final) world := by
  rw [fragSessionSetup]
  by_cases accepted : group.setupStatus &&& 0x0F = 0
  · have block := group.blockSize_le accepted
    rw [if_pos accepted, wp_bind, wp_modify, wp_bind, wp_gets, wp_bind, setSession, wp_modify,
      wp_bind, onDecoding, wp_zoom]
    refine wp_mono (wp_fragDecoderInit block (fragSize_small _)) fun _ decoding initialized => ?_
    apply BuffersKept.send
    refine ⟨kept.safe.continues (initialized.continues (fits accepted)),
      fun _ _ => initialized.kept, fun i => ?_⟩
    by_cases here : i = group.fragIndex
    · subst here
      simpa using block
    · simpa [here] using kept.blocks i
  · rw [if_neg accepted]
    exact kept.send _ _

/-- A session is changed, but not its block. -/
theorem BuffersKept.setSession (kept : BuffersKept world) {index : Fin 4}
    {session : FragSessionData}
    (block : session.fragGroupData.blockSize =
      (world.fragSessionData index).fragGroupData.blockSize)
    (active : session.fragGroupData.isActive = true →
      (world.fragSessionData index).fragGroupData.isActive = true) :
    wp (Fuota.setSession index session) (fun _ final => BuffersKept final) world := by
  refine (wp_modify ..).mpr ⟨kept.safe, fun i is_active => ?_, fun i => ?_⟩
  · by_cases here : i = index
    · subst here
      exact kept.decoder i (active (by simpa using is_active))
    · exact kept.decoder i (by simpa [here] using is_active)
  · by_cases here : i = index
    · subst here
      simpa [block] using kept.blocks i
    · simpa [here] using kept.blocks i

theorem BuffersKept.delete (kept : BuffersKept world) (id : Fin 4) :
    wp (fragSessionDelete id) (fun _ final => BuffersKept final) world := by
  rw [fragSessionDelete, wp_bind, wp_gets]
  dsimp only
  split_ifs
  · exact kept.send _ _
  · rw [wp_bind]
    refine wp_mono (kept.setSession rfl ?_) fun _ final changed => changed.send _ _
    rintro ⟨⟩

/-- The CRC is computed within the block. -/
theorem BuffersKept.done (kept : BuffersKept world) {index : Fin 4}
    (padded : (world.fragSessionData index).fragGroupData.Padded) :
    wp (fragSessionDone (world.fragSessionData index))
      (fun _ final => BuffersKept final ∧ final.fragSessionData = world.fragSessionData)
      world := by
  refine wp_mono (wp_fragSessionDone world _) fun _ final done => ?_
  have bounded : unfragmentedDataSize = 1050 := rfl
  have block := kept.blocks index
  have loaded := done.loaded
  rw [FragGroupData.fileSize_eq padded block] at loaded
  have touched := loaded.touched
  have before := kept.safe.touched
  have sessions : final.fragSessionData = world.fragSessionData := by rw [done.same]
  have decoder : final.decoding.decoder = world.decoding.decoder := by rw [done.same]
  refine ⟨⟨⟨by omega, ?_⟩, ?_, ?_⟩, sessions⟩
  · rw [loaded.calls]
    exact kept.safe.calls
  · rw [sessions, decoder]
    exact kept.decoder
  · rw [sessions]
    exact kept.blocks

theorem BuffersKept.fragment (kept : BuffersKept world) {fragIndex : Fin 4} {fragCounter : ℕ}
    (short : fragCounter < 2 ^ 14) (rawData : Row)
    (fits : (world.fragSessionData fragIndex).fragGroupData.isActive = true →
      ((world.fragSessionData fragIndex).fragDecoderProcessStatus = fragSessionOngoing →
        world.decoding.decoder.Fits fragCounter) ∧
      (0 ≤ (world.fragSessionData fragIndex).fragDecoderProcessStatus →
        (world.fragSessionData fragIndex).fragGroupData.Padded)) :
    wp (fragDataFragment fragIndex fragCounter rawData)
      (fun _ final => BuffersKept final) world := by
  rw [fragDataFragment, wp_bind, wp_gets]
  dsimp only
  split_ifs with inactive ongoing finished
  · exact (wp_pure ..).mpr kept
  · have active := Bool.eq_true_of_not_eq_false inactive
    have no_file : ∀ file ∈ (∅ : Set File), Explains file world.decoding :=
      fun file mem => absurd mem (Set.notMem_empty file)
    rw [wp_bind, onDecoding, wp_zoom]
    refine wp_mono (wp_fragDecoderProcess (kept.decoder _ active) no_file short
      ((fits active).1 ongoing) (fun file mem => absurd mem (Set.notMem_empty file))
      fun file mem => absurd mem (Set.notMem_empty file)) fun status decoding processed => ?_
    have moved : BuffersKept { world with decoding := decoding } :=
      ⟨kept.safe.continues processed.continues, fun _ _ => processed.kept, kept.blocks⟩
    exact moved.setSession rfl id
  · have active := Bool.eq_true_of_not_eq_false inactive
    rw [wp_bind]
    refine wp_mono (kept.done ((fits active).2 finished)) ?_
    rintro _ final ⟨done, sessions⟩
    apply done.setSession
    · rw [sessions]
    · rw [sessions]
      exact id
  · exact (wp_pure ..).mpr kept

/-- A step that fits is defined, and keeps the invariant. -/
theorem BuffersKept.step (kept : BuffersKept world) {event : FuotaEvent}
    (fits : bufferFits world event) :
    wp (fuotaMachine.step event) (fun _ final => BuffersKept final) world := by
  cases event with
  | sysTimeUpdate => exact (wp_modify ..).mpr ⟨kept.safe, kept.decoder, kept.blocks⟩
  | classChange deviceClass =>
      exact wp_mono (wp_onClassChange deviceClass) fun _ final => kept.untouched
  | downlink multicast command =>
      cases command with
      | fragSessionSetupReq fragSession fragNb fragSize control padding =>
          cases multicast with
          | true => exact (wp_pure ..).mpr kept
          | false => exact kept.setup (fits rfl)
      | fragSessionDeleteReq id =>
          cases multicast with
          | true => exact (wp_pure ..).mpr kept
          | false => exact kept.delete _
      | dataFragment fragCounter rawData =>
          exact kept.fragment (Nat.mod_lt _ (Nat.two_pow_pos 14)) rawData fits
  | fragDone fragIndex =>
      refine (wp_bind ..).mpr ((wp_gets ..).mpr ?_)
      exact wp_mono (kept.done fits) fun _ final done => done.1
  | txTimer => exact (wp_modify ..).mpr ⟨kept.safe, kept.decoder, kept.blocks⟩
  | sendTxData conditions =>
      exact wp_mono (wp_sendTxData conditions) fun _ final => kept.untouched

theorem buffersKept_boot (unfragmentedData : Row) :
    BuffersKept (fuotaBoot unfragmentedData) := by
  refine ⟨⟨Nat.zero_le _, ?_⟩, fun i active => ?_, fun i => Nat.zero_le _⟩
  · rintro call ⟨⟩
  · cases active

/-- In every run that does not lead out of the buffers, the storage is safe, and the
next step is defined. -/
theorem unfragmentedData_safe {unfragmentedData : Row}
    (reaches : fuotaMachine.Reaches bufferFits (fuotaBoot unfragmentedData) world) :
    world.decoding.storage.Safe ∧ ∀ event, bufferFits world event →
      wp (fuotaMachine.step event) (fun _ final => final.decoding.storage.Safe) world := by
  have kept : BuffersKept world := by
    refine reaches.invariant (buffersKept_boot unfragmentedData) ?_
    intro before event kept _ fits
    exact kept.step fits
  refine ⟨kept.safe, fun event fits => ?_⟩
  exact wp_mono (kept.step fits) fun _ final after => after.safe

/-- Two bytes in two fragments, of which the first is lost. -/
def lostFragment : List FuotaEvent :=
  [.downlink false (.fragSessionSetupReq 0 2 1 0 0),
    .downlink true (.dataFragment 2 fun _ => 0x43),
    .downlink true (.dataFragment 3 fun _ => 0x42),
    .downlink true (.dataFragment 4 fun _ => 0x42),
    .downlink true (.dataFragment 5 fun _ => 0x42),
    .downlink true (.dataFragment 6 fun _ => 0x42)]

/-- It is recovered, and only the two bytes are touched. -/
theorem unfragmentedData_safe_lost :
    ∃ world : FuotaWorld, (world.decoding.storage.unfragmentedData 0, world.decoding.storage.touched,
        world.done.length) = (0x42, 2, 1) ∧ world.decoding.storage.Safe := by
  have replayed : ∃ world : FuotaWorld,
      fuotaMachine.replay bufferFits lostFragment (fuotaBoot fun _ => 0) = some world ∧
        (world.decoding.storage.unfragmentedData 0, world.decoding.storage.touched,
          world.done.length) = (0x42, 2, 1) :=
    ⟨_, rfl, rfl⟩
  obtain ⟨world, replayed, recovered⟩ := replayed
  exact ⟨world, recovered, (unfragmentedData_safe (Machine.reaches_of_replay _ replayed)).1⟩

/-- A block that fills the storage lies in it, but its erasure is refused. -/
theorem fullBlock_refused :
    ∃ world, fuotaMachine.Reaches (fun _ _ => True) (fuotaBoot fun _ => 0) world ∧
      ¬ world.decoding.storage.Safe := by
  have replayed : ∃ world, fuotaMachine.replay (fun _ _ => True)
        [.downlink false (.fragSessionSetupReq 0 21 50 0 0)] (fuotaBoot fun _ => 0) =
          some world ∧
      world.decoding.storage.calls.map (fun call =>
        (call.request.addr, call.request.size, call.status)) = [(0, 1050, 0xFF)] :=
    ⟨_, rfl, rfl⟩
  obtain ⟨world, replayed, calls⟩ := replayed
  refine ⟨world, Machine.reaches_of_replay _ replayed, fun safe => ?_⟩
  have mem : (0, 1050, 0xFF) ∈ world.decoding.storage.calls.map (fun call =>
      (call.request.addr, call.request.size, call.status)) := by
    rw [calls]
    exact List.mem_singleton_self _
  obtain ⟨call, call_mem, same⟩ := List.mem_map.mp mem
  simp only [Prod.mk.injEq] at same
  obtain ⟨addr, size, status⟩ := same
  have inside : call.request.Inside := by
    rw [FragRequest.Inside, addr, size]
    exact Nat.le_refl _
  have accepted := ((safe.calls call call_mem).accepted inside).1
  rw [status] at accepted
  cases accepted

end GenericNode.Fuota
