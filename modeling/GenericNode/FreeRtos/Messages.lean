import GenericNode.FreeRtos.Requests

/-!
# Messages of the FreeRTOS application

The data that `LoRaWAN_Send` and `LoRaWAN_Receive` pass between the task and
the MAC, in messages with a buffer of fixed size.  A copy beyond that buffer is
undefined, and a failed `configASSERT` halts the device.
-/

namespace GenericNode.FreeRtos

/-- `McpsReq_t`, for unconfirmed and confirmed data. -/
structure McpsReq where
  type : Mcps
  fPort : UInt8
  fBuffer : Fin lorawanConfigMaxMessageSize → UInt8
  fBufferSize : UInt16
  nbTrials : Option ℕ
  datarate : UInt8

/-- `lorawanConfigMAX_SEND_RETRIES`. -/
def lorawanConfigMaxSendRetries : ℕ :=
  8

/-- The request of `LoRaWAN_Send`. -/
def LoRaWANMessage.mcpsReq (message : LoRaWANMessage) (confirmed : Bool) : McpsReq where
  type := mcpsType confirmed
  fPort := message.port.toUInt8
  fBuffer := message.data
  fBufferSize := message.length.toUInt16
  nbTrials := if confirmed then some lorawanConfigMaxSendRetries else none
  datarate := message.dataRate

namespace Messages

open GenericNode.Library
open GenericNode.Library.Prog

/-! ## Data -/

/-- What the MAC knows when it is asked whether a size can be sent:
`CurrentPossiblePayloadSize` and the size of the MAC commands to be sent. -/
structure MacInfo where
  currentPossiblePayloadSize : UInt8
  macCmdsSize : ℕ
deriving DecidableEq, Repr

/-- How `LoRaMacMcpsRequest` ends: before `PrepareFrame` copies the data, or
with the status of what follows. -/
inductive McpsAttempt where
  | refused (status : LoRaMacStatus)
  | prepared (status : LoRaMacStatus)
deriving DecidableEq, Repr

/-- Where `LoRaWAN_Send` is: not called, before a call of the MAC, or waiting
for the response.  The answer of the MAC to the query is kept. -/
inductive SendPoint where
  | outside
  | query (message : LoRaWANMessage) (confirmed : Bool)
  | request (message : LoRaWANMessage) (confirmed : Bool) (mac : MacInfo)
  | response (message : LoRaWANMessage) (confirmed : Bool) (mac : MacInfo)

/-- A downlink for the queue, and whether the queue was full on its arrival. -/
structure Entry where
  indication : McpsIndication
  downlink : LoRaWANMessage
  queueFull : Bool

/-- A downlink that `prvMcpsIndication` has done with. -/
structure Arrival where
  indication : McpsIndication
  queueFull : Bool
  dropped : Bool

/-- An uplink that was handed to the radio: the size of its data and the data. -/
structure Transmission where
  message : LoRaWANMessage
  mac : MacInfo
  request : McpsReq
  size : UInt8
  bytes : List UInt8

/-- The message of a call of `LoRaWAN_Send`, and what the MAC was asked. -/
structure CheckedSend where
  message : LoRaWANMessage
  mac : MacInfo

/-- The task, the downlink for which the MAC task waits in `xQueueSend`, and
the queues; for the record, the downlinks that passed the assertion, those done
with, the messages received, the uplinks, and the results of `LoRaWAN_Send`. -/
structure MessagesState (kernel : QueueKernel) where
  task : SendPoint
  blocked : Option Entry
  xDownlinkQueue : kernel.Queue LoRaWANMessage
  xEventQueue : kernel.Queue LoRaWANEventInfo
  halted : Bool
  accepted : List McpsIndication
  arrivals : List Arrival
  received : List LoRaWANMessage
  transmissions : List Transmission
  sendReturns : List (SendReturn CheckedSend)

/-- `LORAMAC_STATUS_LENGTH_ERROR`. -/
def loramacStatusLengthError : LoRaMacStatus :=
  .other 8

/-- `LORA_MAC_COMMAND_MAX_FOPTS_LENGTH`. -/
def loraMacCommandMaxFoptsLength : ℕ :=
  15

/-! ## Downlinks -/

section Tasks

variable {kernel : QueueKernel}

/-- `memcpy` to the data of a message. -/
def memcpyToData (message : LoRaWANMessage) (buffer : List UInt8) :
    Prog (MessagesState kernel) LoRaWANMessage :=
  if buffer.length ≤ lorawanConfigMaxMessageSize then
    return { message with
      data := fun index =>
        if index < buffer.length then buffer.getD index 0 else message.data index }
  else undefined

/-- `xQueueSend` to `xEventQueue`. -/
def sendEvent (event : LoRaWANEventInfo) (state : MessagesState kernel) : MessagesState kernel :=
  { state with xEventQueue := (kernel.xQueueSend state.xEventQueue event).2 }

/-- The events of an indication. -/
def sendEvents (mcpsIndication : McpsIndication) (state : MessagesState kernel) :
    MessagesState kernel :=
  let state := if mcpsIndication.framePending then sendEvent (.downlinkPending .ok) state
    else state
  if mcpsIndication.status = .downlinkTooManyFramesLoss then
    sendEvent (.tooManyFrameLoss .ok) state
  else state

/-- `xQueueSend` has put a downlink in the queue. -/
def queued (entry : Entry) (state : MessagesState kernel) : MessagesState kernel :=
  sendEvents entry.indication
    { state with
      blocked := none
      arrivals := state.arrivals ++ [⟨entry.indication, entry.queueFull, false⟩] }

/-- `xQueueSend` has failed. -/
def dropped (entry : Entry) (state : MessagesState kernel) : MessagesState kernel :=
  sendEvents entry.indication
    { state with
      blocked := none
      arrivals := state.arrivals ++ [⟨entry.indication, entry.queueFull, true⟩] }

/-- `xQueueSend` to `xDownlinkQueue`, with a timeout of one tick. -/
def sendDownlink (mcpsIndication : McpsIndication) (downlink : LoRaWANMessage)
    (state : MessagesState kernel) : MessagesState kernel :=
  let entry : Entry := ⟨mcpsIndication, downlink,
    decide (lorawanConfigDownlinkQueueSize ≤ (kernel.items state.xDownlinkQueue).length)⟩
  let sent := kernel.xQueueSend state.xDownlinkQueue downlink
  let state := { state with
    xDownlinkQueue := sent.2
    accepted := state.accepted ++ [mcpsIndication] }
  if sent.1 then queued entry state else { state with blocked := some entry }

/-- `prvMcpsIndication`. -/
def prvMcpsIndication (mcpsIndication : McpsIndication) : Prog (MessagesState kernel) Unit :=
  if mcpsIndication.status = .ok ∧ mcpsIndication.rxData = true then
    if mcpsIndication.buffer.length ≤ lorawanConfigMaxMessageSize then do
      let downlink ← memcpyToData
        { port := mcpsIndication.port.toUInt16
          data := fun _ => 0
          length := UInt32.ofNat mcpsIndication.buffer.length
          dataRate := mcpsIndication.rxDatarate }
        mcpsIndication.buffer
      modify (sendDownlink mcpsIndication downlink)
    else modify fun state => { state with halted := true }
  else modify (sendEvents mcpsIndication)

/-- The tick that `xQueueSend` waits for room is over. -/
def sendTimeout (state : MessagesState kernel) : MessagesState kernel :=
  match state.blocked with
  | some entry => dropped entry state
  | none => state

/-- The MAC task tries again to put its downlink in the queue. -/
def sendBlocked (state : MessagesState kernel) : MessagesState kernel :=
  match state.blocked with
  | some entry =>
      let sent := kernel.xQueueSend state.xDownlinkQueue entry.downlink
      let state := { state with xDownlinkQueue := sent.2 }
      if sent.1 then queued entry state else state
  | none => state

/-- `LoRaWAN_Receive`.  Taking a message makes room for the MAC task. -/
def loRaWANReceive (state : MessagesState kernel) : MessagesState kernel :=
  match kernel.xQueueReceive state.xDownlinkQueue with
  | (some message, rest) =>
      sendBlocked { state with
        xDownlinkQueue := rest
        received := state.received ++ [message] }
  | (none, rest) => { state with xDownlinkQueue := rest }

/-- `LoRaWAN_PollEvent`. -/
def loRaWANPollEvent (state : MessagesState kernel) : MessagesState kernel :=
  { state with xEventQueue := (kernel.xQueueReceive state.xEventQueue).2 }

/-! ## Uplinks -/

/-- `LoRaMacQueryTxPossible`. -/
def loRaMacQueryTxPossible (size : UInt8) (mac : MacInfo) : LoRaMacStatus :=
  if mac.macCmdsSize ≤ loraMacCommandMaxFoptsLength ∧
      mac.macCmdsSize ≤ mac.currentPossiblePayloadSize.toNat then
    if mac.macCmdsSize + size.toNat ≤ mac.currentPossiblePayloadSize.toNat then .ok
    else loramacStatusLengthError
  else loramacStatusLengthError

/-- `memcpy1` from the data of a message. -/
def memcpyFromData (fBuffer : Fin lorawanConfigMaxMessageSize → UInt8) (size : ℕ) :
    Prog (MessagesState kernel) (List UInt8) :=
  if size ≤ lorawanConfigMaxMessageSize then return (List.ofFn fBuffer).take size
  else undefined

/-- `LoRaMacMcpsRequest`: `PrepareFrame` copies `fBufferSize` bytes, and keeps
their number in `AppDataSize`.  The size and the data are returned when the
frame is sent. -/
def loRaMacMcpsRequest (mcpsReq : McpsReq) :
    McpsAttempt → Prog (MessagesState kernel) (LoRaMacStatus × Option (UInt8 × List UInt8))
  | .refused status => return (status, none)
  | .prepared status => do
      let appData ← memcpyFromData mcpsReq.fBuffer mcpsReq.fBufferSize.toNat
      let appDataSize := mcpsReq.fBufferSize.toUInt8
      return (status,
        if status = .ok then some (appDataSize, appData.take appDataSize.toNat) else none)

/-- `LoRaWAN_Send` returns. -/
def sendReturn (message : LoRaWANMessage) (mac : MacInfo) (status : LoRaMacStatus)
    (state : MessagesState kernel) : MessagesState kernel :=
  { state with
    task := .outside
    sendReturns := state.sendReturns ++ [⟨⟨message, mac⟩, status⟩] }

/-- The query of `LoRaWAN_Send`. -/
def queryTxPossible (mac : MacInfo) (state : MessagesState kernel) : MessagesState kernel :=
  match state.task with
  | .query message confirmed =>
      let status := loRaMacQueryTxPossible message.length.toUInt8 mac
      if status = .ok then { state with task := .request message confirmed mac }
      else sendReturn message mac status state
  | _ => state

/-- What `LoRaWAN_Send` does with the status of a request; after a duty-cycle
restriction it waits and tries again. -/
def mcpsRequested (message : LoRaWANMessage) (confirmed : Bool) (mac : MacInfo)
    (status : LoRaMacStatus) (sent : Option (UInt8 × List UInt8)) (state : MessagesState kernel) :
    MessagesState kernel :=
  let state := match sent with
    | some (size, bytes) =>
        { state with
          transmissions := state.transmissions ++
            [⟨message, mac, message.mcpsReq confirmed, size, bytes⟩] }
    | none => state
  match status with
  | .ok => { state with task := .response message confirmed mac }
  | .dutycycleRestricted => state
  | _ => sendReturn message mac status state

/-- One turn of the loop of `LoRaWAN_Send`. -/
def mcpsRequest (attempt : McpsAttempt) : Prog (MessagesState kernel) Unit := do
  let task ← gets MessagesState.task
  match task with
  | .request message confirmed mac =>
      let (status, sent) ← loRaMacMcpsRequest (message.mcpsReq confirmed) attempt
      modify (mcpsRequested message confirmed mac status sent)
  | _ => return ()

/-- The response to the request. -/
def mcpsResponse (status : EventInfoStatus) (state : MessagesState kernel) : MessagesState kernel :=
  match state.task with
  | .response message _ mac =>
      sendReturn message mac (if status = .ok then .ok else .error) state
  | _ => state

/-! ## The two tasks -/

/-- An indication of the MAC, the end of the wait for room in the queue, calls
of `LoRaWAN_Receive` and `LoRaWAN_PollEvent`, and the steps of
`LoRaWAN_Send`. -/
inductive MessagesEvent where
  | indicate (mcpsIndication : McpsIndication)
  | timeout
  | receive
  | pollEvent
  | callSend (message : LoRaWANMessage) (confirmed : Bool)
  | query (mac : MacInfo)
  | request (attempt : McpsAttempt)
  | response (status : EventInfoStatus)

/-- A request that is refused is neither accepted nor delayed. -/
def McpsAttempt.Possible : McpsAttempt → Prop
  | .refused status => status ≠ .ok ∧ status ≠ .dutycycleRestricted
  | .prepared _ => True

namespace SendPoint

/-- `LoRaWAN_Send` is not called. -/
def isOutside : SendPoint → Bool
  | .outside => true
  | _ => false

/-- `LoRaWAN_Send` is before its query. -/
def isQuery : SendPoint → Bool
  | .query _ _ => true
  | _ => false

/-- `LoRaWAN_Send` is before a request. -/
def isRequest : SendPoint → Bool
  | .request _ _ _ => true
  | _ => false

/-- `LoRaWAN_Send` waits for the response. -/
def isResponse : SendPoint → Bool
  | .response _ _ _ => true
  | _ => false

end SendPoint

/-- When an event can happen.  The MAC task gives no indication while it waits
in one. -/
def messagesEnabled (state : MessagesState kernel) : MessagesEvent → Prop
  | .indicate _ => state.halted = false ∧ state.blocked.isNone = true
  | .timeout => state.halted = false ∧ state.blocked.isSome = true
  | .receive | .pollEvent => state.halted = false
  | .callSend _ _ => state.halted = false ∧ state.task.isOutside = true
  | .query _ => state.halted = false ∧ state.task.isQuery = true
  | .request attempt =>
      state.halted = false ∧ state.task.isRequest = true ∧ attempt.Possible
  | .response _ => state.halted = false ∧ state.task.isResponse = true

instance : ∀ attempt : McpsAttempt, Decidable attempt.Possible
  | .refused _ => inferInstanceAs (Decidable (_ ∧ _))
  | .prepared _ => .isTrue trivial

instance (state : MessagesState kernel) : ∀ event, Decidable (messagesEnabled state event)
  | .indicate _ | .timeout | .callSend _ _ | .query _ | .response _ =>
      inferInstanceAs (Decidable (_ ∧ _))
  | .receive | .pollEvent => inferInstanceAs (Decidable (_ = _))
  | .request _ => inferInstanceAs (Decidable (_ ∧ _ ∧ _))

/-- What happens at an event. -/
def messagesStep : MessagesEvent → Prog (MessagesState kernel) Unit
  | .indicate mcpsIndication => prvMcpsIndication mcpsIndication
  | .timeout => modify sendTimeout
  | .receive => modify loRaWANReceive
  | .pollEvent => modify loRaWANPollEvent
  | .callSend message confirmed =>
      modify fun state => { state with task := .query message confirmed }
  | .query mac => modify (queryTxPossible mac)
  | .request attempt => mcpsRequest attempt
  | .response status => modify (mcpsResponse status)

/-- The MAC task and the task of the application. -/
def messagesMachine (kernel : QueueKernel) : Machine (MessagesState kernel) MessagesEvent where
  enabled := messagesEnabled
  step := messagesStep

instance (state : MessagesState kernel) (event : MessagesEvent) :
    Decidable ((messagesMachine kernel).enabled state event) :=
  inferInstanceAs (Decidable (messagesEnabled state event))

/-- The state after `LoRaWAN_Init`. -/
def messagesInit (kernel : QueueKernel) : MessagesState kernel where
  task := .outside
  blocked := none
  xDownlinkQueue := kernel.xQueueCreate lorawanConfigDownlinkQueueSize
  xEventQueue := kernel.xQueueCreate lorawanConfigEventQueueSize
  halted := false
  accepted := []
  arrivals := []
  received := []
  transmissions := []
  sendReturns := []

end Tasks

end Messages

end GenericNode.FreeRtos
