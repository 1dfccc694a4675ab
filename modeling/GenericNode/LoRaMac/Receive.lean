import GenericNode.LoRaMac.Context

/-!
# Receiving a frame

`ProcessRadioRxDone`.  What a frame carries for the region, the confirm queue
and the MAC commands is left to these.
-/

namespace GenericNode.LoRaMac

open GenericNode.Library
open GenericNode.Library.Prog
open GenericNode.SecureElement

variable {σ : Type}

/-! ## The code -/

/-- `PrepareRxDoneAbort`. -/
def prepareRxDoneAbort : Prog (MacCtx σ) Unit := do
  modify fun ctx => { ctx with rxAbort := true }
  let nodeAckRequested ← gets fun ctx => ctx.tx.nodeAckRequested
  if nodeAckRequested then
    onAckTimeoutTimerEvent
  modify fun ctx => { ctx with mcpsInd := true, macDone := true }
  updateRxSlotIdleState

/-- An abort with a status. -/
def abortWith (status : LoRaMacEventInfoStatus) : Prog (MacCtx σ) Unit := do
  setIndication fun indication => { indication with status := status }
  prepareRxDoneAbort

/-- `DetermineFrameType`. -/
def determineFrameType (macMsg : LoRaMacMessageData) : Option FType :=
  if 0 < macMsg.fhdr.fOptsLen ∧ 0 < macMsg.fPort then some .frameTypeA
  else if macMsg.frmPayloadSize = 0 then some .frameTypeB
  else if macMsg.fhdr.fOptsLen = 0 ∧ macMsg.fPort = 0 then some .frameTypeC
  else if macMsg.fhdr.fOptsLen = 0 ∧ 0 < macMsg.fPort then some .frameTypeD
  else none

/-- The counter that `GetFCntDown` chooses. -/
def fCntIdentifierOf (addrID : AddressIdentifier) (fType : FType) (minor : ℕ) : FCntIdentifier :=
  match addrID with
  | .unicastDevAddr =>
      if minor = 1 then
        if fType = .frameTypeA ∨ fType = .frameTypeD then .aFCntDown else .nFCntDown
      else .fCntDown
  | .multicast0Addr => .mcFCntDown0

/-- Whether a message is for the multicast channel. -/
def MacSession.isMulticast (session : MacSession) (macMsg : LoRaMacMessageData) : Bool :=
  decide (session.multicastChannel.address = macMsg.fhdr.devAddr) &&
    session.multicastChannel.isEnabled

/-- The address identifier and the address that a message is checked against. -/
def MacSession.addressOf (session : MacSession) (macMsg : LoRaMacMessageData) :
    AddressIdentifier × UInt32 :=
  if session.isMulticast macMsg then
    (session.multicastChannel.groupID, session.multicastChannel.address)
  else (.unicastDevAddr, session.devAddr)

/-- What the parser is given: the received bytes and the area for the payload. -/
def receivedMessage (payload : List UInt8) (size : ℕ) (rxPayload : List UInt8) :
    LoRaMacMessageData where
  buffer := payload
  bufSize := size
  mhdr := 0
  fhdr := ⟨0, 0, 0, List.replicate loramacFhdrFOptsMaxFieldSize 0⟩
  fPort := 0
  frmPayload := rxPayload
  frmPayloadSize := loramacPhyMaxpayload
  mic := 0

/-- The abort for a counter that is not accepted. -/
def abortFCntDown (status : LoRaMacCryptoStatus) (mhdr : UInt8) (macMsg : LoRaMacMessageData)
    (downLinkCounter : UInt32) : Prog (MacCtx σ) Unit := do
  match status with
  | .failFcntDuplicated => do
      setIndication fun indication => { indication with status := .downlinkRepeated }
      modify fun ctx =>
        if ctx.session.minor = 0 ∧ mType mhdr = .dataConfirmedDown ∧ ctx.lastRxMic = macMsg.mic then
          { ctx with srvAckRequested := true }
        else ctx
  | .failMaxGapFcnt =>
      setIndication fun indication => { indication with status := .downlinkTooManyFramesLoss }
  | _ => setIndication fun indication => { indication with status := .error }
  setIndication fun indication => { indication with downLinkCounter := downLinkCounter }
  prepareRxDoneAbort

/-- The bytes that `ProcessMacCommands` is given for a message. -/
def macCommandsOf (fType : FType) (macMsg : LoRaMacMessageData) : List (List UInt8) :=
  match fType with
  | .frameTypeA | .frameTypeB => [macMsg.fhdr.fOpts.take macMsg.fhdr.fOptsLen]
  | .frameTypeC => [macMsg.frmPayload.take macMsg.frmPayloadSize]
  | .frameTypeD => []

/-- What the upper layer is given of a message. -/
def deliver (fType : FType) (macMsg : LoRaMacMessageData) (indication : McpsIndication) :
    McpsIndication :=
  match fType with
  | .frameTypeA | .frameTypeD =>
      { indication with
        port := macMsg.fPort
        buffer := some (macMsg.frmPayload.take macMsg.frmPayloadSize)
        rxData := true }
  | .frameTypeB | .frameTypeC => { indication with port := macMsg.fPort }

/-- The part of `ProcessRadioRxDone` for a valid frame. -/
def acceptFrame (mhdr : UInt8) (multicast : Bool) (fType : FType) (downLinkCounter : UInt32)
    (macMsg : LoRaMacMessageData) : Prog (MacCtx σ) Unit := do
  setIndication fun indication => { indication with
    status := .ok
    multicast := multicast
    framePending := fPendingOf macMsg.fhdr.fCtrl
    buffer := none
    downLinkCounter := downLinkCounter
    ackReceived := ackOf macMsg.fhdr.fCtrl }
  modify fun ctx => { ctx with confirmStatus := .ok, ackReceived := ackOf macMsg.fhdr.fCtrl }
  if multicast then
    setIndication fun indication => { indication with mcpsIndication := .multicast }
  else if mType mhdr = .dataConfirmedDown then
    modify fun ctx => { ctx with
      srvAckRequested := true
      lastRxMic := if ctx.session.minor = 0 then macMsg.mic else ctx.lastRxMic }
    setIndication fun indication => { indication with mcpsIndication := .confirmed }
  else
    modify fun ctx => { ctx with srvAckRequested := false }
    setIndication fun indication => { indication with mcpsIndication := .unconfirmed }
  modify fun ctx => { ctx with commands := ctx.commands ++ macCommandsOf fType macMsg }
  setIndication (deliver fType macMsg)
  modify fun ctx => { ctx with mcpsInd := true }

variable (api : SecureElementApi σ)

/-- The part of `ProcessRadioRxDone` from the frame counter on.  It returns
whether the frame is aborted. -/
def unsecureFrame (mhdr : UInt8) (fType : FType) (macMsg : LoRaMacMessageData) :
    Prog (MacCtx σ) Bool := do
  let session ← gets MacCtx.session
  let (addrID, address) := session.addressOf macMsg
  let fCntID := fCntIdentifierOf addrID fType session.minor
  let (status, downLinkCounter) ←
    cryptoCall (loRaMacCryptoGetFCntDown fCntID session.maxFCntGap macMsg.fhdr.fCnt)
  let downLinkCounter := downLinkCounter.getD 0
  if status ≠ .success then
    abortFCntDown status mhdr macMsg downLinkCounter
    pure true
  else
    let (status, macMsg) ← cryptoCall
      (loRaMacCryptoUnsecureMessage api addrID address fCntID downLinkCounter macMsg)
    modify fun ctx => { ctx with rxPayload := macMsg.frmPayload }
    if status ≠ .success then
      abortWith (if status = .failAddress then .addressFail else .micFail)
      pure true
    else
      acceptFrame mhdr (session.isMulticast macMsg) fType downLinkCounter macMsg
      pure false

/-- The part of `ProcessRadioRxDone` for a message whose type is known. -/
def checkFrame (mhdr : UInt8) (fType : FType) (macMsg : LoRaMacMessageData) :
    Prog (MacCtx σ) Bool := do
  let session ← gets MacCtx.session
  let multicast := session.isMulticast macMsg
  setIndication fun indication => { indication with
    rxSlot := if multicast = true ∧ session.deviceClass = .classC then .winClassCMulticast
      else indication.rxSlot }
  if multicast = true ∧ (fType ≠ .frameTypeD ∨ ackOf macMsg.fhdr.fCtrl = true ∨
      adrAckReqOf macMsg.fhdr.fCtrl = true) then
    abortWith .error
    pure true
  else
    unsecureFrame api mhdr fType macMsg

/-- The part of `ProcessRadioRxDone` for a data frame; `maxPayload` is what the
region allows at the data rate. -/
def receiveData (maxPayload : ℕ) (mhdr : UInt8) (payload : List UInt8) (size : ℕ) :
    Prog (MacCtx σ) Bool := do
  if maxPayload < size - loramacFramePayloadOverheadSize ∨ size < loramacFramePayloadMinSize then
    abortWith .error
    pure true
  else
    let rxPayload ← gets MacCtx.rxPayload
    let (parsed, macMsg) ← lift (loRaMacParserData (receivedMessage payload size rxPayload))
    modify fun ctx => { ctx with rxPayload := macMsg.frmPayload }
    if parsed ≠ .success then
      abortWith .error
      pure true
    else
      setIndication fun indication => { indication with devAddress := macMsg.fhdr.devAddr }
      match determineFrameType macMsg with
      | none => do
          abortWith .error
          pure true
      | some fType => checkFrame api mhdr fType macMsg

/-- `LORAMAC_JOIN_ACCEPT_FRAME_MIN_SIZE`. -/
def loramacJoinAcceptFrameMinSize : ℕ :=
  17

/-- The part of `ProcessRadioRxDone` for a join accept. -/
def receiveJoinAccept (payload : List UInt8) (size : ℕ) : Prog (MacCtx σ) Bool := do
  let session ← gets MacCtx.session
  if size < loramacJoinAcceptFrameMinSize then
    abortWith .error
    pure true
  else if session.networkActivation ≠ .none then
    abortWith .error
    pure true
  else
    let macMsg : LoRaMacMessageJoinAccept :=
      ⟨payload, size, 0, [], [], 0, 0, 0, [], 0⟩
    let (status, macMsg) ← cryptoCall (loRaMacCryptoHandleJoinAccept api macMsg)
    if status = .success then
      modify fun ctx => { ctx with
        session := { ctx.session with
          devAddr := macMsg.devAddr
          minor := 0
          networkActivation := .otaa } }
    pure false

/-- The part of `ProcessRadioRxDone` for a proprietary frame.  The length of
the copy is a 16-bit word. -/
def receiveProprietary (payload : List UInt8) (size : ℕ) : Prog (MacCtx σ) Bool := do
  let bytes ← lift (slice payload 1 ((size + 2 ^ 16 - 1) % 2 ^ 16))
  let rxPayload ← gets MacCtx.rxPayload
  let rxPayload ← lift (overwrite rxPayload 0 bytes)
  modify fun ctx => { ctx with rxPayload := rxPayload }
  setIndication fun indication => { indication with
    mcpsIndication := .proprietary
    status := .ok
    buffer := some bytes }
  modify fun ctx => { ctx with mcpsInd := true }
  pure false

/-- The end of `ProcessRadioRxDone`. -/
def finishReception : Prog (MacCtx σ) Unit := do
  let ctx ← gets fun ctx => ctx
  if ctx.tx.nodeAckRequested then
    if ctx.ackReceived then
      onAckTimeoutTimerEvent
  else if ctx.session.deviceClass = .classC then
    onAckTimeoutTimerEvent
  modify fun ctx => { ctx with macDone := true }
  updateRxSlotIdleState

/-- `ProcessRadioRxDone` without class B. -/
def processRadioRxDone (maxPayload : ℕ) (payload : List UInt8) (size : ℕ) :
    Prog (MacCtx σ) Unit := do
  modify fun ctx => { ctx with
    ackReceived := false
    indication := .start ctx.indication.status ctx.rxSlot
    radio := .sleep
    timers := { ctx.timers with rxWindowTimer2 := false } }
  let mhdr ← lift payload[0]?
  let aborted ← match mType mhdr with
    | .joinAccept => receiveJoinAccept api payload size
    | .dataConfirmedDown => do
        setIndication fun indication => { indication with mcpsIndication := .confirmed }
        receiveData api maxPayload mhdr payload size
    | .dataUnconfirmedDown => receiveData api maxPayload mhdr payload size
    | .proprietary => receiveProprietary payload size
    | _ => do
        abortWith .error
        pure false
  if aborted then
    pure ()
  else
    finishReception

end GenericNode.LoRaMac
