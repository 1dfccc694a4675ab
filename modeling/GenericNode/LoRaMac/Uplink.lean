import GenericNode.LoRaMac.Context

/-!
# Sending a frame

`LoRaMacMcpsRequest` for data frames, down to `Radio.Send`, and what the MAC
does to send a frame again.  What the region, the MAC commands and the ADR
decide comes with the request.
-/

namespace GenericNode.LoRaMac

open GenericNode.Library
open GenericNode.Library.Prog
open GenericNode.SecureElement

variable {σ : Type}

/-! ## What others decide -/

/-- The values of `LoRaMacStatus_t` that sending a data frame returns. -/
inductive LoRaMacStatus where
  | ok
  | busy
  | parameterInvalid
  | noNetworkJoined
  | lengthError
  | skippedAppData
  | dutycycleRestricted
  | noChannelFound
  | noFreeChannelFound
  | cryptoError
deriving DecidableEq, Repr

/-- What decides whether a frame can be sent: the answer of
`RegionNextChannel`, the time it says to wait, and `VerifyTxFrame`. -/
structure TxConditions where
  nextChannel : LoRaMacStatus
  dutyCycleWaitTime : ℕ
  verified : Bool
deriving DecidableEq, Repr

/-- The MAC commands that wait to be sent: their size, and their bytes when
`availableSize` bytes are available. -/
structure MacCommandsOut where
  size : ℕ
  serialized : ℕ → List UInt8
  fits : ∀ availableSize, (serialized availableSize).length ≤ availableSize

/-- `McpsReq_t` for a data frame. -/
structure McpsReq where
  confirmed : Bool
  fPort : UInt8
  fBuffer : List UInt8
  nbTrials : ℕ
deriving DecidableEq, Repr

/-- What else a request depends on: whether the region takes its data rate, the
ADR bits, the commands and the room for them. -/
structure RequestConditions where
  datarateValid : Bool
  adr : Bool
  adrAckReq : Bool
  macCommands : MacCommandsOut
  availableSize : ℕ
  allowDelayedTx : Bool
  tx : TxConditions

/-! ## Onto the air -/

/-- `LORA_MAC_COMMAND_MAX_FOPTS_LENGTH`. -/
def loraMacCommandMaxFoptsLength : ℕ :=
  15

/-- `MAX_ACK_RETRIES`. -/
def maxAckRetries : ℕ :=
  8

/-- A change of what the MAC keeps for its message. -/
def setTx (change : MacTx → MacTx) : Prog (MacCtx σ) Unit :=
  modify fun ctx => { ctx with tx := change ctx.tx }

/-- The condition of `SecureFrame` for the counter of the frame before. -/
def MacTx.isAgain (tx : MacTx) : Bool :=
  decide (1 ≤ tx.channelsNbTransCounter) || decide (1 < tx.ackTimeoutRetriesCounter)

variable (api : SecureElementApi σ)

/-- `SecureFrame` for a data frame. -/
def secureFrame : Prog (MacCtx σ) LoRaMacStatus := do
  let next ← cryptoCall loRaMacCryptoGetFCntUp
  let tx ← gets MacCtx.tx
  let fCntUp := if tx.isAgain then next - 1 else next
  let (status, txMsg) ← cryptoCall (loRaMacCryptoSecureMessage api fCntUp tx.txMsg)
  setTx fun tx => { tx with txMsg := txMsg }
  if status ≠ .success then
    pure .cryptoError
  else
    pure .ok

/-- `SendFrameOnChannel`. -/
def sendFrameOnChannel : Prog (MacCtx σ) LoRaMacStatus := do
  modify fun ctx => { ctx with confirmStatus := .error }
  let status ← secureFrame api
  if status ≠ .ok then
    pure status
  else
    modify fun ctx => { ctx with
      tx := { ctx.tx with
        txRunning := true
        channelsNbTransCounter :=
          if ctx.tx.nodeAckRequested then ctx.tx.channelsNbTransCounter
          else (ctx.tx.channelsNbTransCounter + 1) % 2 ^ 8
        air := ctx.tx.air ++ [ctx.tx.txMsg.buffer.take ctx.tx.txMsg.bufSize] }
      radio := .tx }
    pure .ok

/-- `ScheduleTx` for a data frame. -/
def scheduleTx (conditions : TxConditions) (allowDelayedTx : Bool) :
    Prog (MacCtx σ) LoRaMacStatus := do
  let tx ← gets MacCtx.tx
  let (serialized, txMsg) ← lift (loRaMacSerializerData tx.txMsg)
  setTx fun tx => { tx with txMsg := txMsg }
  if serialized ≠ .success then
    pure .cryptoError
  else if conditions.nextChannel ≠ .ok then
    if conditions.nextChannel = .dutycycleRestricted ∧ allowDelayedTx = true then
      if conditions.dutyCycleWaitTime ≠ 0 then
        modify fun ctx => { ctx with
          tx := { ctx.tx with txDelayed := true }
          timers := { ctx.timers with txDelayedTimer := true } }
      pure .ok
    else
      pure conditions.nextChannel
  else if conditions.verified = false then
    pure .lengthError
  else
    sendFrameOnChannel api

/-! ## Requests -/

/-- The header byte of a data frame. -/
def McpsReq.macHdr (request : McpsReq) : UInt8 :=
  if request.confirmed then 0x80 else 0x40

/-- `fCtrl` of `Send`, with the length of the options. -/
def fCtrlOf (adr adrAckReq ack : Bool) (fOptsLen : ℕ) : UInt8 :=
  UInt8.ofNat (fOptsLen % 16 + (if ack then 0x20 else 0) + (if adrAckReq then 0x40 else 0) +
    (if adr then 0x80 else 0))

/-- `PrepareFrame` for a data frame. -/
def prepareFrame (request : McpsReq) (conditions : RequestConditions) :
    Prog (MacCtx σ) LoRaMacStatus := do
  let ctx ← gets fun ctx => ctx
  let appData ← lift (overwrite ctx.tx.txMsg.frmPayload 0 request.fBuffer)
  let fCntUp ← cryptoCall loRaMacCryptoGetFCntUp
  let appDataSize := request.fBuffer.length % 2 ^ 8
  let fCtrl := fCtrlOf conditions.adr conditions.adrAckReq ctx.srvAckRequested
  let txMsg := { ctx.tx.txMsg with
    bufSize := loramacPhyMaxpayload
    mhdr := request.macHdr
    fPort := request.fPort
    fhdr := { ctx.tx.txMsg.fhdr with
      devAddr := ctx.session.devAddr
      fCtrl := fCtrl 0
      fCnt := low16 fCntUp }
    frmPayload := appData
    frmPayloadSize := appDataSize }
  modify fun ctx => { ctx with
    ackReceived := false
    tx := { ctx.tx with
      txMsg := txMsg
      nodeAckRequested := request.confirmed
      nbRetries := 0
      upLinkCounter := fCntUp } }
  if 0 < conditions.macCommands.size then
    if 0 < appDataSize ∧ conditions.macCommands.size ≤ loraMacCommandMaxFoptsLength then
      let commands := conditions.macCommands.serialized loraMacCommandMaxFoptsLength
      let fOpts ← lift (overwrite txMsg.fhdr.fOpts 0 commands)
      setTx fun tx => { tx with
        txMsg := { txMsg with
          fhdr := { txMsg.fhdr with fOpts := fOpts, fCtrl := fCtrl commands.length } } }
      pure .ok
    else if 0 < appDataSize then
      pure .skippedAppData
    else
      let commands := conditions.macCommands.serialized conditions.availableSize
      let macCommandsBuffer ← lift (overwrite appData 0 commands)
      setTx fun tx => { tx with
        txMsg := { txMsg with
          fPort := 0
          frmPayload := macCommandsBuffer
          frmPayloadSize := commands.length % 2 ^ 8 } }
      pure .ok
  else
    pure .ok

/-- `Send`. -/
def send (request : McpsReq) (conditions : RequestConditions) : Prog (MacCtx σ) LoRaMacStatus := do
  let session ← gets MacCtx.session
  if session.networkActivation = .none then
    pure .noNetworkJoined
  else
    let prepared ← prepareFrame request conditions
    if prepared = .ok ∨ prepared = .skippedAppData then
      let status ← scheduleTx api conditions.tx conditions.allowDelayedTx
      if status = .ok then
        modify fun ctx => { ctx with srvAckRequested := false }
      pure status
    else
      pure prepared

/-- `LoRaMacIsBusy` between events. -/
def MacCtx.isBusy (ctx : MacCtx σ) : Bool :=
  ctx.tx.txRunning || ctx.tx.txDelayed || ctx.rxAbort

/-- `LoRaMacMcpsRequest` for a data frame. -/
def loRaMacMcpsRequest (request : McpsReq) (conditions : RequestConditions) :
    Prog (MacCtx σ) LoRaMacStatus := do
  let busy ← gets MacCtx.isBusy
  if busy then
    pure .busy
  else
    modify fun ctx => { ctx with
      confirmStatus := .error
      ackReceived := false
      tx := { ctx.tx with
        mcpsRequest := .unconfirmed
        nbRetries := 0
        upLinkCounter := 0
        ackTimeoutRetriesCounter := 1
        ackTimeoutRetries := if request.confirmed then min request.nbTrials maxAckRetries else 1 } }
    if conditions.datarateValid = false then
      pure .parameterInvalid
    else
      let status ← send api request conditions
      if status = .ok then
        setTx fun tx => { tx with
          mcpsRequest := if request.confirmed then .confirmed else .unconfirmed
          mcpsReq := true }
      else
        setTx fun tx => { tx with nodeAckRequested := false }
      pure status

/-! ## Sending again -/

/-- `StopRetransmission` without the ADR counter. -/
def stopRetransmission : Prog (MacCtx σ) Unit :=
  modify fun ctx => { ctx with
    ackTimeoutRetry := false
    tx := { ctx.tx with
      channelsNbTransCounter := 0
      nodeAckRequested := false
      txRunning := false } }

/-- `OnTxDelayedTimerEvent`. -/
def onTxDelayedTimerEvent (conditions : TxConditions) : Prog (MacCtx σ) Unit := do
  modify fun ctx => { ctx with
    tx := { ctx.tx with txDelayed := false }
    timers := { ctx.timers with txDelayedTimer := false } }
  let status ← scheduleTx api conditions true
  if status = .ok ∨ status = .dutycycleRestricted then
    pure ()
  else
    modify fun ctx => { ctx with
      confirmStatus := .txDrPayloadSizeError
      tx := { ctx.tx with nbRetries := ctx.tx.ackTimeoutRetriesCounter } }
    stopRetransmission

/-- `CheckRetransUnconfirmedUplink`. -/
def MacCtx.checkRetransUnconfirmedUplink (channelsNbTrans : ℕ) (ctx : MacCtx σ) : Bool :=
  decide (channelsNbTrans ≤ ctx.tx.channelsNbTransCounter) ||
    (ctx.mcpsInd && (decide (ctx.session.deviceClass = .classA) ||
      decide (ctx.indication.rxSlot = .win1)))

/-- `CheckRetransConfirmedUplink`. -/
def MacCtx.checkRetransConfirmedUplink (ctx : MacCtx σ) : Bool :=
  decide (ctx.tx.ackTimeoutRetries ≤ ctx.tx.ackTimeoutRetriesCounter) ||
    (ctx.mcpsInd && ctx.ackReceived)

/-- `AckTimeoutRetriesProcess` without the data rate. -/
def ackTimeoutRetriesProcess : Prog (MacCtx σ) Unit :=
  setTx fun tx => { tx with
    ackTimeoutRetriesCounter :=
      if tx.ackTimeoutRetriesCounter < tx.ackTimeoutRetries then
        (tx.ackTimeoutRetriesCounter + 1) % 2 ^ 8
      else tx.ackTimeoutRetriesCounter }

/-- `AckTimeoutRetriesFinalize` without the channels. -/
def ackTimeoutRetriesFinalize : Prog (MacCtx σ) Unit :=
  modify fun ctx => { ctx with
    tx := { ctx.tx with
      nodeAckRequested := ctx.tx.nodeAckRequested && ctx.ackReceived
      nbRetries := ctx.tx.ackTimeoutRetriesCounter } }

/-- What `LoRaMacHandleMcpsRequest` decides. -/
inductive Retransmission where
  | stop
  | wait
  | again
deriving DecidableEq, Repr

/-- The first part of `LoRaMacHandleMcpsRequest`. -/
def checkRetransmission (channelsNbTrans : ℕ) : Prog (MacCtx σ) Retransmission := do
  let ctx ← gets fun ctx => ctx
  match ctx.tx.mcpsRequest with
  | .unconfirmed | .proprietary =>
      pure (if ctx.checkRetransUnconfirmedUplink channelsNbTrans then .stop else .again)
  | .confirmed =>
      if ctx.ackTimeoutRetry = false then
        pure .wait
      else if ctx.checkRetransConfirmedUplink then
        if ctx.session.minor = 0 then
          ackTimeoutRetriesFinalize
        pure .stop
      else
        if ctx.session.minor = 0 then
          ackTimeoutRetriesProcess
        pure .again
  | .multicast => pure .again

/-- `LoRaMacHandleMcpsRequest`. -/
def loRaMacHandleMcpsRequest (channelsNbTrans : ℕ) (conditions : TxConditions) :
    Prog (MacCtx σ) Unit := do
  let mcpsReq ← gets fun ctx => ctx.tx.mcpsReq
  if mcpsReq then
    match ← checkRetransmission channelsNbTrans with
    | .stop =>
        modify fun ctx => { ctx with
          tx := { ctx.tx with txDelayed := false }
          timers := { ctx.timers with txDelayedTimer := false } }
        stopRetransmission
    | .wait => pure ()
    | .again =>
        modify fun ctx => { ctx with macDone := false, ackTimeoutRetry := false }
        onTxDelayedTimerEvent api conditions

end GenericNode.LoRaMac
