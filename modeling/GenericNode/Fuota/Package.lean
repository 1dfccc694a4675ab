import GenericNode.Fuota.Decoder

/-!
# The fragmentation package

`LmhpFragmentation.c` and the callbacks of `basic_fuota`: sessions are set up,
deleted, and get their fragments.
-/

namespace GenericNode.Fuota

open GenericNode.Library
open GenericNode.Library.Prog

/-- `DeviceClass_t`. -/
inductive DeviceClass where
  | classA | classB | classC
deriving DecidableEq, Repr

/-- `FragGroupData_t`, without the descriptor, which nothing reads. -/
structure FragGroupData where
  isActive : Bool
  fragSession : UInt8
  fragNb : UInt16
  fragSize : UInt8
  control : UInt8
  padding : UInt8
deriving DecidableEq, Repr

/-- `FragSessionData_t`, without the status for its answers; for the record, the
number of the session. -/
structure FragSessionData where
  fragGroupData : FragGroupData
  fragDecoderProcessStatus : ℤ
  number : ℕ
deriving DecidableEq, Repr

/-- A session was done: its number, the size of its block, the memory from
`UnfragmentedData` on, and the CRC that was computed. -/
structure FragDone where
  number : ℕ
  size : ℕ
  data : Row
  crc : UInt32

/-- What was given to `LmHandlerSend`; and the last class change, the number of
the session that was set up last, and the sessions done, when it was. -/
structure Uplink where
  port : UInt8
  buffer : List UInt8
  deviceClass : Option DeviceClass
  setups : ℕ
  done : List FragDone

/-- The decoder, the sessions of the package and the statics of the application;
for the record, the last class change, the number of sessions that were set up,
now and at the last `OnFragDone`, the sessions done, and the uplinks. -/
structure FuotaWorld where
  decoding : Decoding
  fragSessionData : Fin 4 → FragSessionData
  isClockSynched : Bool
  isMcSessionStarted : Bool
  isFileTransferDone : Bool
  isTxFramePending : Bool
  fileRxCrc : UInt32
  deviceClass : Option DeviceClass
  setups : ℕ
  setupsAtDone : ℕ
  done : List FragDone
  uplinks : List Uplink

/-- A command of the package to the device. -/
inductive FragCommand where
  | fragSessionSetupReq (fragSession : UInt8) (fragNb : UInt16) (fragSize control padding : UInt8)
  | fragSessionDeleteReq (id : UInt8)
  | dataFragment (fragCounter : UInt16) (rawData : Row)

/-! ## The application -/

/-- Run a step of the decoder. -/
def onDecoding {α : Type} (call : Prog Decoding α) : Prog FuotaWorld α :=
  zoom FuotaWorld.decoding (fun decoding world => { world with decoding := decoding }) call

/-- `LmHandlerSend`. -/
def lmHandlerSend (port : UInt8) (buffer : List UInt8) : Prog FuotaWorld Unit :=
  modify fun world =>
    { world with
      uplinks := world.uplinks ++
        [⟨port, buffer, world.deviceClass, world.setups, world.done⟩] }

/-- `OnFragDone`.  The status is only printed. -/
def onFragDone (_status : ℤ) (size : ℕ) : Prog FuotaWorld Unit := do
  modify fun world => { world with isFileTransferDone := true }
  let crc ← onDecoding (onStorage (crc32 (UInt16.ofNat size)))
  modify fun world => { world with fileRxCrc := crc }

/-! ## The package -/

/-- `FRAGMENTATION_PORT`. -/
def fragmentationPort : UInt8 := 201

/-- Two bits, one of `FRAGMENTATION_MAX_SESSIONS` sessions. -/
def sessionIndex (value : ℕ) : Fin 4 :=
  ⟨value % 4, Nat.mod_lt value (Nat.succ_pos 3)⟩

/-- The field `FragIndex` of `FragSession`. -/
def FragGroupData.fragIndex (group : FragGroupData) : Fin 4 :=
  sessionIndex (group.fragSession.toNat >>> 4)

/-- The status of a `FragSessionSetupReq`. -/
def FragGroupData.setupStatus (group : FragGroupData) : UInt8 :=
  let encoding : UInt8 := if (group.control >>> 3) &&& 0x07 > 0 then 0x01 else 0x00
  let memory : UInt8 :=
    if group.fragNb.toNat * group.fragSize.toNat > fragDecoderGetMaxFileSize then 0x02 else 0x00
  encoding ||| memory ||| (UInt8.ofNat group.fragIndex.val <<< 6)

/-- Change a session. -/
def setSession (index : Fin 4) (session : FragSessionData) : Prog FuotaWorld Unit :=
  modify fun world =>
    { world with fragSessionData := Function.update world.fragSessionData index session }

/-- `FRAGMENTATION_FRAG_SESSION_SETUP_REQ`. -/
def fragSessionSetup (group : FragGroupData) : Prog FuotaWorld Unit := do
  if group.setupStatus &&& 0x0F = 0 then
    modify fun world => { world with setups := world.setups + 1 }
    let number ← gets FuotaWorld.setups
    setSession group.fragIndex ⟨group, fragSessionOngoing, number⟩
    onDecoding (fragDecoderInit group.fragNb.toNat group.fragSize.toNat)
  lmHandlerSend fragmentationPort [0x02, group.setupStatus]

/-- `FRAGMENTATION_FRAG_SESSION_DELETE_REQ`. -/
def fragSessionDelete (id : Fin 4) : Prog FuotaWorld Unit := do
  let sessions ← gets FuotaWorld.fragSessionData
  let session := sessions id
  if session.fragGroupData.isActive = false then
    lmHandlerSend fragmentationPort [0x03, UInt8.ofNat id.val ||| 0x04]
  else
    setSession id { session with fragGroupData := { session.fragGroupData with isActive := false } }
    lmHandlerSend fragmentationPort [0x03, UInt8.ofNat id.val]

/-- The size that `OnDone` gets. -/
def FragGroupData.fileSize (group : FragGroupData) : ℕ :=
  (group.fragNb.toNat * group.fragSize.toNat + 2 ^ 32 - group.padding.toNat) % 2 ^ 32

/-- The session is done. -/
def fragSessionDone (session : FragSessionData) : Prog FuotaWorld Unit := do
  let size := session.fragGroupData.fileSize
  onFragDone session.fragDecoderProcessStatus size
  modify fun world =>
    { world with
      setupsAtDone := world.setups
      done := world.done ++
        [⟨session.number, size, world.decoding.storage.unfragmentedData, world.fileRxCrc⟩] }

/-- `FRAGMENTATION_DATA_FRAGMENT`. -/
def fragDataFragment (fragIndex : Fin 4) (fragCounter : ℕ) (rawData : Row) :
    Prog FuotaWorld Unit := do
  let sessions ← gets FuotaWorld.fragSessionData
  let session := sessions fragIndex
  if session.fragGroupData.isActive = false then
    return ()
  else if session.fragDecoderProcessStatus = fragSessionOngoing then
    let status ← onDecoding (fragDecoderProcess fragCounter rawData)
    setSession fragIndex { session with fragDecoderProcessStatus := status }
  else if session.fragDecoderProcessStatus ≥ 0 then
    fragSessionDone session
    setSession fragIndex { session with fragDecoderProcessStatus := fragSessionNotStarted }
  else
    return ()

/-- `LmhpFragmentationOnMcpsIndication` of one command. -/
def lmhpFragmentationOnMcpsIndication (multicast : Bool) : FragCommand → Prog FuotaWorld Unit
  | .fragSessionSetupReq fragSession fragNb fragSize control padding =>
      if multicast then return ()
      else fragSessionSetup ⟨true, fragSession, fragNb, fragSize, control, padding⟩
  | .fragSessionDeleteReq id =>
      if multicast then return () else fragSessionDelete (sessionIndex id.toNat)
  | .dataFragment fragCounter rawData =>
      fragDataFragment (sessionIndex (fragCounter.toNat >>> 14)) (fragCounter.toNat % 2 ^ 14) rawData

/-! ## What the package does -/

/-- A session was done: the CRC is that of the first bytes of the storage. -/
structure SessionDone (world : FuotaWorld) (session : FragSessionData) (final : FuotaWorld) :
    Prop where
  same : final =
    { world with
      decoding := { world.decoding with storage := final.decoding.storage }
      isFileTransferDone := true
      fileRxCrc := crc32Of (world.decoding.storage.unfragmentedData.take
        (session.fragGroupData.fileSize % 2 ^ 16))
      setupsAtDone := world.setups
      done := world.done ++
        [⟨session.number, session.fragGroupData.fileSize,
          world.decoding.storage.unfragmentedData,
          crc32Of (world.decoding.storage.unfragmentedData.take
            (session.fragGroupData.fileSize % 2 ^ 16))⟩] }
  loaded : Loaded world.decoding.storage 0 (session.fragGroupData.fileSize % 2 ^ 16)
    final.decoding.storage

theorem wp_fragSessionDone (world : FuotaWorld) (session : FragSessionData) :
    wp (fragSessionDone session) (fun _ final => SessionDone world session final) world := by
  rw [fragSessionDone, wp_bind, onFragDone, wp_bind, wp_modify, wp_bind, onDecoding, wp_zoom,
    onStorage, wp_zoom]
  refine wp_mono (wp_crc32 _) ?_
  rintro _ storage ⟨rfl, loaded⟩
  rw [UInt16.toNat_ofNat'] at loaded
  rw [wp_modify, wp_modify, UInt16.toNat_ofNat']
  refine ⟨?_, loaded⟩
  rw [loaded.unfragmentedData]

end GenericNode.Fuota
