import GenericNode.Fuota.Package
import GenericNode.Library.Machine

/-!
# Sessions of the FUOTA application

`SendTxData` and the callbacks of `basic_fuota` that it depends on, in any
order.  `OnFragDone` and `SendTxData` come in turn for each session: then the CRC
of the block is sent for the session that was set up last.
-/

namespace GenericNode.Fuota

open GenericNode.Library
open GenericNode.Library.Prog

/-! ## The application -/

/-- A word, its lowest byte first. -/
def littleEndian (word : UInt32) : List UInt8 :=
  [(word &&& 0x000000FF).toUInt8, ((word >>> 8) &&& 0x000000FF).toUInt8,
    ((word >>> 16) &&& 0x000000FF).toUInt8, ((word >>> 24) &&& 0x000000FF).toUInt8]

/-- What `SendTxData` finds: the handler is busy, a random byte, and the request
that `LmhpClockSyncAppTimeReq` builds. -/
structure TxConditions where
  isBusy : Bool
  random : UInt8
  appTimeReq : List UInt8
deriving DecidableEq, Repr

/-- `CLOCK_SYNC_PORT`. -/
def clockSyncPort : UInt8 := 202

/-- `SendTxData`, when a frame is pending. -/
def sendTxData (conditions : TxConditions) : Prog FuotaWorld Unit := do
  let world ← gets id
  modify fun world => { world with isTxFramePending := false }
  if world.isTxFramePending = true then
    if conditions.isBusy = true then return ()
    else if world.isMcSessionStarted = false then
      if world.isClockSynched = false then lmHandlerSend clockSyncPort conditions.appTimeReq
      else lmHandlerSend 1 [conditions.random]
    else if world.isFileTransferDone = false then return ()
    else lmHandlerSend fragmentationPort (0x05 :: littleEndian world.fileRxCrc)

/-- `OnTxTimerEvent`. -/
def onTxTimerEvent : Prog FuotaWorld Unit :=
  modify fun world => { world with isTxFramePending := true }

/-- `OnSysTimeUpdate`. -/
def onSysTimeUpdate : Prog FuotaWorld Unit :=
  modify fun world => { world with isClockSynched := true }

/-- `OnClassChange`. -/
def onClassChange (deviceClass : DeviceClass) : Prog FuotaWorld Unit := do
  modify fun world => { world with deviceClass := some deviceClass }
  match deviceClass with
  | .classA => modify fun world => { world with isMcSessionStarted := false }
  | .classB =>
      lmHandlerSend 0 []
      modify fun world => { world with isMcSessionStarted := true }
  | .classC => modify fun world => { world with isMcSessionStarted := true }

/-! ## Runs -/

/-- What calls the application and the package; a session may also be done
whatever the decoder has got. -/
inductive FuotaEvent where
  | sysTimeUpdate
  | classChange (deviceClass : DeviceClass)
  | downlink (multicast : Bool) (command : FragCommand)
  | fragDone (fragIndex : Fin 4)
  | txTimer
  | sendTxData (conditions : TxConditions)

/-- What happens at an event. -/
def fuotaStep : FuotaEvent → Prog FuotaWorld Unit
  | .sysTimeUpdate => onSysTimeUpdate
  | .classChange deviceClass => onClassChange deviceClass
  | .downlink multicast command => lmhpFragmentationOnMcpsIndication multicast command
  | .fragDone fragIndex => do
      let sessions ← gets FuotaWorld.fragSessionData
      fragSessionDone (sessions fragIndex)
  | .txTimer => onTxTimerEvent
  | .sendTxData conditions => sendTxData conditions

/-- The application; its events come in any order. -/
def fuotaMachine : Machine FuotaWorld FuotaEvent where
  enabled := fun _ _ => True
  step := fuotaStep

instance (world : FuotaWorld) (event : FuotaEvent) :
    Decidable (fuotaMachine.enabled world event) :=
  .isTrue trivial

/-- After `LoRaWAN_Init`, with the content of `UnfragmentedData`. -/
def fuotaBoot (unfragmentedData : Row) : FuotaWorld where
  decoding :=
    { decoder :=
        { fragNb := 0
          fragSize := 0
          m2bLine := 0
          matrixM2B := List.replicate (redundancyBits * fragMaxRedundancy) false
          fragNbMissingIndex := List.replicate fragMaxNb 0
          s := List.replicate redundancyBits false
          status := ⟨0, 0, 0, false⟩ }
      storage := ⟨unfragmentedData, 0, []⟩ }
  fragSessionData := fun _ => ⟨⟨false, 0, 0, 0, 0, 0⟩, 0, 0⟩
  isClockSynched := false
  isMcSessionStarted := false
  isFileTransferDone := false
  isTxFramePending := false
  fileRxCrc := 0
  deviceClass := none
  setups := 0
  setupsAtDone := 0
  done := []
  uplinks := []

/-- A session was set up, and no other one after it. -/
def FuotaWorld.IsLatest (world : FuotaWorld) (session : FragSessionData) : Prop :=
  0 < session.number ∧ session.number = world.setups

instance (world : FuotaWorld) (session : FragSessionData) : Decidable (world.IsLatest session) :=
  inferInstanceAs (Decidable (_ ∧ _))

/-- The order of the events: `OnFragDone` is called for no session but the one
set up last, and once a file is done, a CRC is due for sending only while no
session was set up after the last `OnFragDone`. -/
def fuotaFits (world : FuotaWorld) : FuotaEvent → Prop
  | .downlink _ (.dataFragment fragCounter _) =>
      let session := world.fragSessionData (sessionIndex (fragCounter.toNat >>> 14))
      session.fragGroupData.isActive = true →
        session.fragDecoderProcessStatus ≠ fragSessionOngoing →
        0 ≤ session.fragDecoderProcessStatus → world.IsLatest session
  | .fragDone fragIndex => world.IsLatest (world.fragSessionData fragIndex)
  | .sendTxData conditions =>
      world.isTxFramePending = true → conditions.isBusy = false →
        world.isMcSessionStarted = true → world.isFileTransferDone = true →
        world.setupsAtDone = world.setups
  | .sysTimeUpdate | .classChange _ | .downlink _ (.fragSessionSetupReq ..)
  | .downlink _ (.fragSessionDeleteReq _) | .txTimer => True

instance (world : FuotaWorld) : ∀ event, Decidable (fuotaFits world event)
  | .sendTxData _ => inferInstanceAs (Decidable (_ → _))
  | .downlink _ (.dataFragment ..) => inferInstanceAs (Decidable (_ → _))
  | .fragDone _ => inferInstanceAs (Decidable (FuotaWorld.IsLatest _ _))
  | .sysTimeUpdate | .classChange _ | .downlink _ (.fragSessionSetupReq ..)
  | .downlink _ (.fragSessionDeleteReq _) | .txTimer => .isTrue trivial

/-- What an uplink of the application promises: a `FragDataBlockAuthReq` is sent
in class B or C, and carries the CRC of the block of the session set up last,
the sessions being counted from one. -/
def Uplink.Promised (uplink : Uplink) : Prop :=
  uplink.port = fragmentationPort → uplink.buffer.head? = some 0x05 →
    (uplink.deviceClass = some .classB ∨ uplink.deviceClass = some .classC) ∧
    0 < uplink.setups ∧ ∃ done ∈ uplink.done, done.number = uplink.setups ∧
      done.crc = crc32Of (done.data.take (done.size % 2 ^ 16)) ∧
      uplink.buffer = 0x05 :: littleEndian done.crc

/-- All uplinks do. -/
def UplinksPromised (world : FuotaWorld) : Prop :=
  ∀ uplink ∈ world.uplinks, uplink.Promised

/-! ## What a step preserves -/

/-- The invariant of the application: what its flags say of the class changes and
of the session done last, which was the one set up last then. -/
structure SessionsKept (world : FuotaWorld) : Prop where
  classes : world.isMcSessionStarted = true →
    world.deviceClass = some .classB ∨ world.deviceClass = some .classC
  transferred : world.isFileTransferDone = true →
    0 < world.setupsAtDone ∧
    ∃ done ∈ world.done, done.number = world.setupsAtDone ∧ done.crc = world.fileRxCrc
  crcs : ∀ done ∈ world.done, done.crc = crc32Of (done.data.take (done.size % 2 ^ 16))
  uplinks : UplinksPromised world

variable {world : FuotaWorld}

/-- One uplink more. -/
theorem UplinksPromised.append (promised : UplinksPromised world) {uplink : Uplink}
    (also : uplink.Promised) : ∀ other ∈ world.uplinks ++ [uplink], other.Promised := by
  intro other mem
  rcases List.mem_append.mp mem with before | now
  · exact promised other before
  · obtain rfl := List.mem_singleton.mp now
    exact also

theorem SessionsKept.send (kept : SessionsKept world) {port : UInt8} {buffer : List UInt8}
    (promised : Uplink.Promised ⟨port, buffer, world.deviceClass, world.setups, world.done⟩) :
    wlp (lmHandlerSend port buffer) (fun _ final => SessionsKept final) world := by
  apply wlp_modify
  exact ⟨kept.classes, kept.transferred, kept.crcs, kept.uplinks.append promised⟩

/-- Uplinks on other ports promise nothing, nor do the answers of the package. -/
theorem SessionsKept.answer (kept : SessionsKept world) {command : UInt8}
    (other : command ≠ 0x05) (rest : List UInt8) :
    wlp (lmHandlerSend fragmentationPort (command :: rest))
      (fun _ final => SessionsKept final) world :=
  kept.send fun _ auth => absurd (Option.some.inj auth) other

theorem SessionsKept.onClassChange (kept : SessionsKept world) (deviceClass : DeviceClass) :
    wlp (onClassChange deviceClass) (fun _ final => SessionsKept final) world := by
  apply wlp_bind
  apply wlp_modify
  cases deviceClass with
  | classA =>
      apply wlp_modify
      refine ⟨?_, kept.transferred, kept.crcs, kept.uplinks⟩
      rintro ⟨⟩
  | classB =>
      apply wlp_bind
      apply wlp_modify
      apply wlp_modify
      refine ⟨fun _ => .inl rfl, kept.transferred, kept.crcs, kept.uplinks.append ?_⟩
      rintro ⟨⟩
  | classC =>
      apply wlp_modify
      exact ⟨fun _ => .inr rfl, kept.transferred, kept.crcs, kept.uplinks⟩

/-- The CRC is sent of the session that was done last. -/
theorem SessionsKept.sendTxData (kept : SessionsKept world) {conditions : TxConditions}
    (fits : fuotaFits world (.sendTxData conditions)) :
    wlp (sendTxData conditions) (fun _ final => SessionsKept final) world := by
  apply wlp_bind
  apply wlp_gets
  apply wlp_bind
  apply wlp_modify
  have taken : SessionsKept { world with isTxFramePending := false } :=
    ⟨kept.classes, kept.transferred, kept.crcs, kept.uplinks⟩
  dsimp only [id]
  split_ifs with pending busy idle unsynched waiting
  · exact wlp_pure taken
  · apply taken.send
    rintro ⟨⟩
  · apply taken.send
    rintro ⟨⟩
  · exact wlp_pure taken
  · have started := Bool.eq_true_of_not_eq_false idle
    have transferred := Bool.eq_true_of_not_eq_false waiting
    rcases kept.transferred transferred with ⟨positive, done, mem, number, crc⟩
    have since : world.setupsAtDone = world.setups :=
      fits pending (Bool.eq_false_of_not_eq_true busy) started transferred
    rw [since] at positive number
    apply taken.send
    intro _ _
    refine ⟨kept.classes started, positive, done, mem, number, kept.crcs done mem, ?_⟩
    rw [crc]
  · exact wlp_pure taken

/-- The CRC is computed of the block as it is when the session is done. -/
theorem SessionsKept.fragDone (kept : SessionsKept world) {session : FragSessionData}
    (latest : world.IsLatest session) :
    wp (fragSessionDone session) (fun _ final => SessionsKept final) world := by
  rcases latest with ⟨positive, number⟩
  rw [number] at positive
  refine wp_mono (wp_fragSessionDone world session) fun _ final done => ?_
  rw [done.same]
  refine ⟨kept.classes, fun _ => ⟨positive, _, List.mem_append_right _ (List.mem_singleton_self _),
    number, rfl⟩, fun other mem => ?_, kept.uplinks⟩
  rcases List.mem_append.mp mem with before | now
  · exact kept.crcs other before
  · obtain rfl := List.mem_singleton.mp now
    rfl

/-- The sessions and the decoder are changed. -/
theorem SessionsKept.congr (kept : SessionsKept world) (decoding : Decoding)
    (fragSessionData : Fin 4 → FragSessionData) (setups : ℕ) :
    SessionsKept { world with decoding, fragSessionData, setups } :=
  ⟨kept.classes, kept.transferred, kept.crcs, kept.uplinks⟩

theorem SessionsKept.setup (kept : SessionsKept world) (group : FragGroupData) :
    wlp (fragSessionSetup group) (fun _ final => SessionsKept final) world := by
  have other : (0x02 : UInt8) ≠ 0x05 := by decide
  rw [fragSessionSetup]
  split_ifs
  · apply wlp_bind
    apply wlp_modify
    apply wlp_bind
    apply wlp_gets
    apply wlp_bind
    apply wlp_modify
    apply wlp_bind
    apply wlp_zoom
    intro _ decoding
    exact (kept.congr decoding _ _).answer other _
  · exact kept.answer other _

theorem SessionsKept.delete (kept : SessionsKept world) (id : Fin 4) :
    wlp (fragSessionDelete id) (fun _ final => SessionsKept final) world := by
  have other : (0x03 : UInt8) ≠ 0x05 := by decide
  apply wlp_bind
  apply wlp_gets
  dsimp only
  split_ifs
  · exact kept.answer other _
  · apply wlp_bind
    apply wlp_modify
    exact (kept.congr world.decoding _ world.setups).answer other _

theorem SessionsKept.fragment (kept : SessionsKept world) {fragIndex : Fin 4} (fragCounter : ℕ)
    (rawData : Row)
    (latest : (world.fragSessionData fragIndex).fragGroupData.isActive = true →
      (world.fragSessionData fragIndex).fragDecoderProcessStatus ≠ fragSessionOngoing →
      0 ≤ (world.fragSessionData fragIndex).fragDecoderProcessStatus →
      world.IsLatest (world.fragSessionData fragIndex)) :
    wlp (fragDataFragment fragIndex fragCounter rawData)
      (fun _ final => SessionsKept final) world := by
  apply wlp_bind
  apply wlp_gets
  dsimp only
  split_ifs with inactive ongoing finished
  · exact wlp_pure kept
  · apply wlp_bind
    apply wlp_zoom
    intro status decoding
    apply wlp_modify
    exact kept.congr decoding _ world.setups
  · have last := latest (Bool.eq_true_of_not_eq_false inactive) ongoing finished
    apply wlp_bind
    refine wlp_mono (wlp_of_wp (kept.fragDone last)) fun _ final done => ?_
    apply wlp_modify
    exact done.congr final.decoding _ final.setups
  · exact wlp_pure kept

/-- A step that fits keeps the invariant. -/
theorem SessionsKept.step (kept : SessionsKept world) {event : FuotaEvent}
    (fits : fuotaFits world event) :
    wlp (fuotaMachine.step event) (fun _ final => SessionsKept final) world := by
  cases event with
  | sysTimeUpdate =>
      apply wlp_modify
      exact ⟨kept.classes, kept.transferred, kept.crcs, kept.uplinks⟩
  | classChange deviceClass => exact kept.onClassChange deviceClass
  | downlink multicast command =>
      cases command with
      | fragSessionSetupReq fragSession fragNb fragSize control padding =>
          cases multicast with
          | true => exact wlp_pure kept
          | false => exact kept.setup _
      | fragSessionDeleteReq id =>
          cases multicast with
          | true => exact wlp_pure kept
          | false => exact kept.delete _
      | dataFragment fragCounter rawData => exact kept.fragment _ _ fits
  | fragDone fragIndex =>
      apply wlp_bind
      apply wlp_gets
      exact wlp_of_wp (kept.fragDone fits)
  | txTimer =>
      apply wlp_modify
      exact ⟨kept.classes, kept.transferred, kept.crcs, kept.uplinks⟩
  | sendTxData conditions => exact kept.sendTxData fits

theorem sessionsKept_boot (unfragmentedData : Row) :
    SessionsKept (fuotaBoot unfragmentedData) := by
  constructor
  · rintro ⟨⟩
  · rintro ⟨⟩
  · rintro done ⟨⟩
  · rintro uplink ⟨⟩

/-- In every run where `OnFragDone` is called for the session set up last only, and
no CRC is due between a set-up and the next `OnFragDone`, the CRC that is sent is
that of the session set up last. -/
theorem uplinks_promised {unfragmentedData : Row}
    (reaches : fuotaMachine.Reaches fuotaFits (fuotaBoot unfragmentedData) world) :
    UplinksPromised world := by
  have kept : SessionsKept world := by
    refine reaches.invariant_of_wlp (sessionsKept_boot unfragmentedData) ?_
    intro before event kept _ fits
    exact kept.step fits
  exact kept.uplinks

/-- One byte in one fragment. -/
def oneFragment (byte : UInt8) : List FuotaEvent :=
  [.downlink false (.fragSessionSetupReq 0 1 1 0 0),
    .downlink true (.dataFragment 1 fun _ => byte),
    .downlink true (.dataFragment 2 fun _ => byte),
    .downlink true (.dataFragment 3 fun _ => byte)]

/-- `SendTxData` after the timer, while nothing is sent. -/
def sendNow : List FuotaEvent :=
  [.txTimer, .sendTxData ⟨false, 0, []⟩]

/-- Two sessions one after another: the CRC of the byte of each is sent. -/
theorem uplinks_promised_twice :
    ∃ world, world.uplinks.map (·.buffer) =
        [[0x02, 0x00], [0x05, 0x31, 0xCF, 0xD0, 0x4A], [0x02, 0x00],
          [0x05, 0xA7, 0xFF, 0xD7, 0x3D]] ∧
      UplinksPromised world := by
  have replayed : ∃ world, fuotaMachine.replay fuotaFits
        (oneFragment 0x42 ++ .classChange .classC :: sendNow ++ oneFragment 0x43 ++ sendNow)
        (fuotaBoot fun _ => 0) = some world ∧
      world.uplinks.map (·.buffer) =
        [[0x02, 0x00], [0x05, 0x31, 0xCF, 0xD0, 0x4A], [0x02, 0x00],
          [0x05, 0xA7, 0xFF, 0xD7, 0x3D]] :=
    ⟨_, rfl, rfl⟩
  obtain ⟨world, replayed, sent⟩ := replayed
  exact ⟨world, sent, uplinks_promised (Machine.reaches_of_replay _ replayed)⟩

/-- So it is after another session was set up, which has no fragment yet. -/
theorem oldCrc_sent :
    ∃ world, fuotaMachine.Reaches (fun _ _ => True) (fuotaBoot fun _ => 0) world ∧
      ¬ UplinksPromised world := by
  have replayed : ∃ world, fuotaMachine.replay (fun _ _ => True) (oneFragment 0x42 ++
        .classChange .classC :: .downlink false (.fragSessionSetupReq 0 1 1 0 0) :: sendNow)
        (fuotaBoot fun _ => 0) =
          some world ∧
      world.uplinks.map (fun uplink => (uplink.port, uplink.buffer, uplink.setups,
        uplink.done.map (·.number))) =
        [(201, [0x02, 0x00], 1, []), (201, [0x02, 0x00], 2, [1]),
          (201, [0x05, 0x31, 0xCF, 0xD0, 0x4A], 2, [1])] :=
    ⟨_, rfl, rfl⟩
  obtain ⟨world, replayed, sent⟩ := replayed
  refine ⟨world, Machine.reaches_of_replay _ replayed, fun promised => ?_⟩
  have last : (201, [0x05, 0x31, 0xCF, 0xD0, 0x4A], 2, [1]) ∈ world.uplinks.map (fun uplink =>
      (uplink.port, uplink.buffer, uplink.setups, uplink.done.map (·.number))) := by
    rw [sent]
    simp
  obtain ⟨uplink, mem, same⟩ := List.mem_map.mp last
  obtain ⟨port, buffer, setups, done⟩ := uplink
  simp only [Prod.mk.injEq] at same
  obtain ⟨rfl, rfl, rfl, numbers⟩ := same
  rcases promised _ mem rfl rfl with ⟨-, -, session, session_mem, number, -⟩
  have first : session.number ∈ [1] := by
    rw [← numbers]
    exact List.mem_map_of_mem session_mem
  rw [number] at first
  cases List.mem_singleton.mp first

end GenericNode.Fuota
