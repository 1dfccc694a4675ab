import GenericNode.FreeRtos.Queues
import GenericNode.Library.Machine

/-!
# Requests of the FreeRTOS application

`LoRaWAN_Join` and `LoRaWAN_Send` of one task against the callbacks that the
MAC task runs.  Both kinds of request get their response from one queue of
statuses; the model keeps with each status the confirm it came from.
-/

namespace GenericNode.FreeRtos

open GenericNode.Library
open GenericNode.Library.Prog

/-- `LoRaMacEventInfoStatus_t`. -/
inductive EventInfoStatus where
  | ok | error | txTimeout | rx1Timeout | rx2Timeout | rx1Error | rx2Error | joinFail
  | downlinkRepeated | txDrPayloadSizeError | downlinkTooManyFramesLoss | addressFail | micFail
  | multicastFail | beaconLocked | beaconLost | beaconNotFound
deriving DecidableEq, Repr

/-- `LoRaMacStatus_t`: the statuses that the calls tell apart, and the others. -/
inductive LoRaMacStatus where
  | ok | dutycycleRestricted | error
  | other (value : ℕ)
deriving DecidableEq, Repr

/-- `Mcps_t`, of the requests of the application. -/
inductive Mcps where
  | unconfirmed | confirmed
deriving DecidableEq, Repr

/-- `Mlme_t`. -/
inductive Mlme where
  | join | deviceTime | linkCheck
  | other (value : ℕ)
deriving DecidableEq, Repr

/-- `McpsConfirm_t`. -/
structure McpsConfirm where
  mcpsRequest : Mcps
  status : EventInfoStatus
  ackReceived : Bool
deriving DecidableEq, Repr

/-- `MlmeConfirm_t`. -/
structure MlmeConfirm where
  mlmeRequest : Mlme
  status : EventInfoStatus
  demodMargin : ℕ
  nbGateways : ℕ
deriving DecidableEq, Repr

/-- `McpsIndication_t`; the length of the buffer is its `BufferSize`. -/
structure McpsIndication where
  status : EventInfoStatus
  port : UInt8
  rxDatarate : UInt8
  framePending : Bool
  buffer : List UInt8
  rxData : Bool
  size_le : buffer.length ≤ 255

/-- `MlmeIndication_t`: whether it asks for an uplink. -/
structure MlmeIndication where
  scheduleUplink : Bool
  status : EventInfoStatus
deriving DecidableEq, Repr

/-- `LoRaWANEventInfo_t`. -/
inductive LoRaWANEventInfo where
  | downlinkPending (status : EventInfoStatus)
  | tooManyFrameLoss (status : EventInfoStatus)
  | deviceTimeUpdated (status : EventInfoStatus)
  | linkCheckReply (status : EventInfoStatus) (demodMargin nbGateways : ℕ)
deriving DecidableEq, Repr

/-- `lorawanConfigMAX_MESSAGE_SIZE`. -/
def lorawanConfigMaxMessageSize : ℕ :=
  222

/-- `LoRaWANMessage_t`. -/
structure LoRaWANMessage where
  port : UInt16
  data : Fin lorawanConfigMaxMessageSize → UInt8
  length : UInt32
  dataRate : UInt8

/-- A request of the application to the MAC. -/
inductive Request where
  | join
  | send (type : Mcps)
deriving DecidableEq, Repr

/-- The confirm of a request. -/
inductive Confirm where
  | mlme (confirm : MlmeConfirm)
  | mcps (confirm : McpsConfirm)
deriving DecidableEq, Repr

/-- An entry of `xResponseQueue`: the status, and for the record the confirm
it comes from and the request that the MAC confirms. -/
structure Response where
  status : EventInfoStatus
  confirm : Confirm
  request : ℕ
deriving DecidableEq, Repr

/-- Where the task is: outside the calls, before a call of the MAC, in a delay,
or waiting for the response to a request. -/
inductive TaskPoint where
  | outside
  | joinCredentials
  | joinDatarate
  | joinRequest (xNumTries : ℕ)
  | joinDutyCycle (xNumTries : ℕ)
  | joinReceive (xNumTries : ℕ) (request : ℕ)
  | joinRetry (xNumTries : ℕ)
  | sendQuery (confirmed : Bool)
  | sendRequest (confirmed : Bool)
  | sendDutyCycle (confirmed : Bool)
  | sendReceive (confirmed : Bool) (request : ℕ)
deriving DecidableEq, Repr

/-- A response that was dequeued: the request its call waits for. -/
structure Dequeued where
  expected : ℕ
  response : Response
deriving DecidableEq, Repr

/-- A call of `LoRaWAN_Send` that returned: what is on record of the call, and
the status it returned. -/
structure SendReturn (Call : Type) where
  call : Call
  status : LoRaMacStatus
deriving DecidableEq, Repr

/-- Whether an uplink was to be confirmed, and the response to it. -/
structure SendCall where
  confirmed : Bool
  response : Option Response
deriving DecidableEq, Repr

/-- The task, the queues, and the requests that the MAC has accepted and not
confirmed; for the record, the entries that found `xResponseQueue` full, the
responses dequeued, and the results of the calls. -/
structure RtosState (kernel : QueueKernel) where
  point : TaskPoint
  xResponseQueue : kernel.Queue Response
  xEventQueue : kernel.Queue LoRaWANEventInfo
  xDownlinkQueue : kernel.Queue LoRaWANMessage
  outstanding : List (ℕ × Request)
  accepted : ℕ
  dropped : List Response
  dequeued : List Dequeued
  joinReturns : List LoRaMacStatus
  sendReturns : List (SendReturn SendCall)

/-- `lorawanConfigRESPONSE_QUEUE_SIZE`. -/
def lorawanConfigResponseQueueSize : ℕ :=
  1

/-- `lorawanConfigEVENT_QUEUE_SIZE`. -/
def lorawanConfigEventQueueSize : ℕ :=
  4

/-- `lorawanConfigDOWNLINK_QUEUE_SIZE`. -/
def lorawanConfigDownlinkQueueSize : ℕ :=
  1

/-- `lorawanConfigMAX_JOIN_ATTEMPTS`. -/
def lorawanConfigMaxJoinAttempts : ℕ :=
  1000

/-! ## The callbacks of the MAC task -/

section Tasks

variable {kernel : QueueKernel}

/-- `xQueueSend` to `xResponseQueue`. -/
def sendResponse (response : Response) (state : RtosState kernel) : RtosState kernel :=
  let sent := kernel.xQueueSend state.xResponseQueue response
  { state with
    xResponseQueue := sent.2
    dropped := if sent.1 then state.dropped else state.dropped ++ [response] }

/-- `xQueueSend` to `xEventQueue`. -/
def sendEvent (event : LoRaWANEventInfo) (state : RtosState kernel) : RtosState kernel :=
  { state with xEventQueue := (kernel.xQueueSend state.xEventQueue event).2 }

/-- The status that `prvMcpsConfirm` reports. -/
def McpsConfirm.reported (confirm : McpsConfirm) : EventInfoStatus :=
  if confirm.mcpsRequest = .confirmed ∧ confirm.ackReceived = false then .error
  else confirm.status

/-- `prvMcpsConfirm`. -/
def prvMcpsConfirm (request : ℕ) (mcpsConfirm : McpsConfirm) (state : RtosState kernel) :
    RtosState kernel :=
  sendResponse ⟨mcpsConfirm.reported, .mcps mcpsConfirm, request⟩ state

/-- `prvMlmeConfirm`. -/
def prvMlmeConfirm (request : ℕ) (mlmeConfirm : MlmeConfirm) (state : RtosState kernel) :
    RtosState kernel :=
  match mlmeConfirm.mlmeRequest with
  | .join => sendResponse ⟨mlmeConfirm.status, .mlme mlmeConfirm, request⟩ state
  | .deviceTime => sendEvent (.deviceTimeUpdated mlmeConfirm.status) state
  | .linkCheck =>
      sendEvent (.linkCheckReply mlmeConfirm.status mlmeConfirm.demodMargin mlmeConfirm.nbGateways)
        state
  | .other _ => state

/-- The downlink of an indication, of which the data fit. -/
def McpsIndication.downlink (mcpsIndication : McpsIndication) : LoRaWANMessage where
  port := mcpsIndication.port.toUInt16
  data := fun index => mcpsIndication.buffer.getD index 0
  length := UInt32.ofNat mcpsIndication.buffer.length
  dataRate := mcpsIndication.rxDatarate

/-- `xQueueSend` to `xDownlinkQueue`. -/
def sendDownlink (mcpsIndication : McpsIndication) (state : RtosState kernel) :
    RtosState kernel :=
  if mcpsIndication.status = .ok ∧ mcpsIndication.rxData = true then
    { state with
      xDownlinkQueue := (kernel.xQueueSend state.xDownlinkQueue mcpsIndication.downlink).2 }
  else state

/-- `prvMcpsIndication`. -/
def prvMcpsIndication (mcpsIndication : McpsIndication) (state : RtosState kernel) :
    RtosState kernel :=
  let state := sendDownlink mcpsIndication state
  let state := if mcpsIndication.framePending then sendEvent (.downlinkPending .ok) state
    else state
  if mcpsIndication.status = .downlinkTooManyFramesLoss then
    sendEvent (.tooManyFrameLoss .ok) state
  else state

/-- `prvMlmeIndication`. -/
def prvMlmeIndication (mlmeIndication : MlmeIndication) (state : RtosState kernel) :
    RtosState kernel :=
  if mlmeIndication.status = .ok ∧ mlmeIndication.scheduleUplink = true then
    sendEvent (.downlinkPending mlmeIndication.status) state
  else state

/-! ## The calls of the task -/

/-- `LoRaWAN_Join` returns. -/
def joinReturn (status : LoRaMacStatus) (state : RtosState kernel) : RtosState kernel :=
  { state with point := .outside, joinReturns := state.joinReturns ++ [status] }

/-- `LoRaWAN_Send` returns. -/
def sendReturn (confirmed : Bool) (response : Option Response) (status : LoRaMacStatus)
    (state : RtosState kernel) : RtosState kernel :=
  { state with
    point := .outside
    sendReturns := state.sendReturns ++ [⟨⟨confirmed, response⟩, status⟩] }

/-- The MAC accepts a request; the task goes on to wait for its response. -/
def accept (request : Request) (point : ℕ → TaskPoint) (state : RtosState kernel) :
    RtosState kernel :=
  { state with
    point := point state.accepted
    outstanding := state.outstanding ++ [(state.accepted, request)]
    accepted := state.accepted + 1 }

/-- The type of an uplink. -/
def mcpsType (confirmed : Bool) : Mcps :=
  if confirmed then .confirmed else .unconfirmed

/-- A call of the MAC by the task: what it answers is up to the MAC. -/
def taskStep (status : LoRaMacStatus) (state : RtosState kernel) : RtosState kernel :=
  match state.point with
  | .joinCredentials =>
      if status = .ok then { state with point := .joinDatarate } else joinReturn status state
  | .joinDatarate =>
      if status = .ok then { state with point := .joinRequest 0 } else joinReturn status state
  | .joinRequest xNumTries =>
      match status with
      | .ok => accept .join (.joinReceive xNumTries) state
      | .dutycycleRestricted => { state with point := .joinDutyCycle xNumTries }
      | _ => joinReturn status state
  | .joinDutyCycle xNumTries => { state with point := .joinRequest xNumTries }
  | .joinRetry xNumTries => { state with point := .joinRequest xNumTries }
  | .sendQuery confirmed =>
      if status = .ok then { state with point := .sendRequest confirmed }
      else sendReturn confirmed none status state
  | .sendRequest confirmed =>
      match status with
      | .ok => accept (.send (mcpsType confirmed)) (.sendReceive confirmed) state
      | .dutycycleRestricted => { state with point := .sendDutyCycle confirmed }
      | _ => sendReturn confirmed none status state
  | .sendDutyCycle confirmed => { state with point := .sendRequest confirmed }
  | .outside | .joinReceive _ _ | .sendReceive _ _ => state

/-- What `LoRaWAN_Join` does with the status of a response. -/
def joinResponse (xNumTries : ℕ) (status : EventInfoStatus) (state : RtosState kernel) :
    RtosState kernel :=
  if status = .ok then joinReturn .ok state
  else if xNumTries < lorawanConfigMaxJoinAttempts - 1 then
    { state with point := .joinRetry (xNumTries + 1) }
  else joinReturn .error state

/-- `xQueueReceive` from `xResponseQueue`, and what follows. -/
def receiveResponse (state : RtosState kernel) : RtosState kernel :=
  match state.point, kernel.xQueueReceive state.xResponseQueue with
  | .joinReceive xNumTries request, (some response, rest) =>
      joinResponse xNumTries response.status
        { state with
          xResponseQueue := rest
          dequeued := state.dequeued ++ [⟨request, response⟩] }
  | .sendReceive confirmed request, (some response, rest) =>
      sendReturn confirmed (some response) (if response.status = .ok then .ok else .error)
        { state with
          xResponseQueue := rest
          dequeued := state.dequeued ++ [⟨request, response⟩] }
  | _, _ => state

/-! ## The two tasks -/

/-- The task calls and goes on, the queue wakes it, and the MAC task runs its
callbacks. -/
inductive RtosEvent where
  | callJoin
  | callSend (confirmed : Bool)
  | task (status : LoRaMacStatus)
  | receive
  | confirmMlme (request : ℕ) (confirm : MlmeConfirm)
  | confirmMcps (request : ℕ) (confirm : McpsConfirm)
  | indicateMcps (indication : McpsIndication)
  | indicateMlme (indication : MlmeIndication)

/-- The task waits for a response. -/
def TaskPoint.IsWaiting : TaskPoint → Prop
  | .joinReceive _ _ | .sendReceive _ _ => True
  | _ => False

instance (point : TaskPoint) : Decidable point.IsWaiting := by
  cases point <;> first | exact .isTrue trivial | exact .isFalse id

/-- The MAC confirms each request that it accepts once, with a confirm of the
request's type. -/
def rtosEnabled (state : RtosState kernel) : RtosEvent → Prop
  | .callJoin => state.point = .outside
  | .callSend _ => state.point = .outside
  | .task _ => state.point ≠ .outside ∧ ¬ state.point.IsWaiting
  | .receive => state.point.IsWaiting ∧ kernel.items state.xResponseQueue ≠ []
  | .confirmMlme request confirm =>
      confirm.mlmeRequest = .join → (request, .join) ∈ state.outstanding
  | .confirmMcps request confirm => (request, .send confirm.mcpsRequest) ∈ state.outstanding
  | .indicateMcps indication => indication.buffer.length ≤ lorawanConfigMaxMessageSize
  | .indicateMlme _ => True

instance (state : RtosState kernel) (event : RtosEvent) : Decidable (rtosEnabled state event) := by
  cases event with
  | callJoin => exact inferInstanceAs (Decidable (_ = _))
  | callSend confirmed => exact inferInstanceAs (Decidable (_ = _))
  | task status => exact inferInstanceAs (Decidable (_ ∧ _))
  | receive => exact inferInstanceAs (Decidable (_ ∧ _))
  | confirmMlme request confirm => exact inferInstanceAs (Decidable (_ → _))
  | confirmMcps request confirm => exact inferInstanceAs (Decidable (_ ∈ _))
  | indicateMcps indication => exact inferInstanceAs (Decidable (_ ≤ _))
  | indicateMlme indication => exact .isTrue trivial

/-- A request is confirmed. -/
def settle (request : ℕ) (state : RtosState kernel) : RtosState kernel :=
  { state with outstanding := state.outstanding.filter fun entry => entry.1 ≠ request }

/-- What happens at an event. -/
def rtosStep : RtosEvent → RtosState kernel → RtosState kernel
  | .callJoin, state => { state with point := .joinCredentials }
  | .callSend confirmed, state => { state with point := .sendQuery confirmed }
  | .task status, state => taskStep status state
  | .receive, state => receiveResponse state
  | .confirmMlme request confirm, state =>
      if confirm.mlmeRequest = .join then prvMlmeConfirm request confirm (settle request state)
      else prvMlmeConfirm request confirm state
  | .confirmMcps request confirm, state => prvMcpsConfirm request confirm (settle request state)
  | .indicateMcps indication, state => prvMcpsIndication indication state
  | .indicateMlme indication, state => prvMlmeIndication indication state

/-- The two tasks. -/
def rtosMachine (kernel : QueueKernel) : Machine (RtosState kernel) RtosEvent where
  enabled := rtosEnabled
  step event := modify (rtosStep event)

instance (state : RtosState kernel) (event : RtosEvent) :
    Decidable ((rtosMachine kernel).enabled state event) :=
  inferInstanceAs (Decidable (rtosEnabled state event))

/-- The state after `LoRaWAN_Init`. -/
def rtosInit (kernel : QueueKernel) : RtosState kernel where
  point := .outside
  xResponseQueue := kernel.xQueueCreate lorawanConfigResponseQueueSize
  xEventQueue := kernel.xQueueCreate lorawanConfigEventQueueSize
  xDownlinkQueue := kernel.xQueueCreate lorawanConfigDownlinkQueueSize
  outstanding := []
  accepted := 0
  dropped := []
  dequeued := []
  joinReturns := []
  sendReturns := []

end Tasks

end GenericNode.FreeRtos
