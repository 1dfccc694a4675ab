import GenericNode.Library.Machine
import GenericNode.LoRaMac.Receive
import GenericNode.LoRaMac.Uplink

/-!
# The MAC as a machine

The radio and the timers raise events, the upper layer makes requests, and
`LoRaMacProcess` handles what the radio raised.  There is no class B, no MLME
request and no change of the class.
-/

namespace GenericNode.LoRaMac

open GenericNode.Library
open GenericNode.Library.Prog
open GenericNode.SecureElement

variable {σ : Type}

/-! ## The code -/

/-- `LoRaMacRadioEvents`, with `RxDoneParams`. -/
structure RadioEvents where
  txDone : Bool
  rxDone : Option (List UInt8 × ℕ)
  txTimeout : Bool
  rxError : Bool
  rxTimeout : Bool
deriving DecidableEq, Repr

/-- No event. -/
def RadioEvents.none : RadioEvents where
  txDone := false
  rxDone := .none
  txTimeout := false
  rxError := false
  rxTimeout := false

/-- The MAC with the events that wait for it. -/
structure Mac (σ : Type) where
  ctx : MacCtx σ
  events : RadioEvents

/-- What `LoRaMacProcess` depends on besides: the payload that the region
allows, the number of transmissions, whether an error in the first window comes
after the second one would start, whether the radio takes the parameters of
class C, and what decides about a frame that is sent again. -/
structure ProcessConditions where
  maxPayload : ℕ
  channelsNbTrans : ℕ
  window2Passed : Bool
  rxConfigured : Bool
  tx : TxConditions

/-- The radio of a device that does not listen all the time goes to sleep. -/
def sleepUnlessClassC : Prog (MacCtx σ) Unit :=
  modify fun ctx => { ctx with
    radio := if ctx.session.deviceClass ≠ .classC then .sleep else ctx.radio }

/-- `ProcessRadioTxDone`. -/
def processRadioTxDone : Prog (MacCtx σ) Unit := do
  sleepUnlessClassC
  modify fun ctx => { ctx with
    timers := { ctx.timers with
      rxWindowTimer1 := true
      rxWindowTimer2 := true
      ackTimeoutTimer := ctx.timers.ackTimeoutTimer ||
        decide (ctx.session.deviceClass = .classC) || ctx.tx.nodeAckRequested }
    confirmStatus := if ctx.tx.nodeAckRequested then ctx.confirmStatus else .ok }

/-- `ProcessRadioTxTimeout`. -/
def processRadioTxTimeout : Prog (MacCtx σ) Unit := do
  sleepUnlessClassC
  updateRxSlotIdleState
  modify fun ctx => { ctx with
    confirmStatus := .txTimeout
    ackTimeoutRetry := ctx.ackTimeoutRetry || ctx.tx.nodeAckRequested
    macDone := true }

/-- `HandleRadioRxErrorTimeout` without class B. -/
def handleRadioRxErrorTimeout (rx1EventInfoStatus rx2EventInfoStatus : LoRaMacEventInfoStatus)
    (window2Passed : Bool) : Prog (MacCtx σ) Unit := do
  sleepUnlessClassC
  let rxSlot ← gets MacCtx.rxSlot
  if rxSlot = .win1 then
    modify fun ctx => { ctx with
      confirmStatus := if ctx.tx.nodeAckRequested then rx1EventInfoStatus else ctx.confirmStatus
      timers := { ctx.timers with
        rxWindowTimer2 := ctx.timers.rxWindowTimer2 && !window2Passed }
      macDone := ctx.macDone || window2Passed }
  else
    modify fun ctx => { ctx with
      confirmStatus := if ctx.tx.nodeAckRequested then rx2EventInfoStatus else ctx.confirmStatus
      macDone := ctx.macDone || decide (ctx.session.deviceClass ≠ .classC) }
  updateRxSlotIdleState

/-- A call that is made if something was raised. -/
def onRaised (raised : Bool) (call : Prog (MacCtx σ) Unit) : Prog (MacCtx σ) Unit :=
  if raised then call else pure ()

variable (api : SecureElementApi σ)

/-- The reception of what was received. -/
def onReceived (maxPayload : ℕ) : Option (List UInt8 × ℕ) → Prog (MacCtx σ) Unit
  | some (payload, size) => processRadioRxDone api maxPayload payload size
  | none => pure ()

/-- `LoRaMacHandleIrqEvents` for the events that were raised. -/
def loRaMacHandleIrqEvents (conditions : ProcessConditions) (events : RadioEvents) :
    Prog (MacCtx σ) Unit := do
  onRaised events.txDone processRadioTxDone
  onReceived api conditions.maxPayload events.rxDone
  onRaised events.txTimeout processRadioTxTimeout
  onRaised events.rxError
    (handleRadioRxErrorTimeout .rx1Error .rx2Error conditions.window2Passed)
  onRaised events.rxTimeout
    (handleRadioRxErrorTimeout .rx1Timeout .rx2Timeout conditions.window2Passed)

/-- `LoRaMacCheckForRxAbort`. -/
def loRaMacCheckForRxAbort : Prog (MacCtx σ) Unit :=
  modify fun ctx => { ctx with
    rxAbort := false
    tx := { ctx.tx with txRunning := ctx.tx.txRunning && !ctx.rxAbort } }

/-- What `MacMcpsConfirm` is given. -/
def MacCtx.mcpsConfirm (ctx : MacCtx σ) : McpsConfirm where
  mcpsRequest := ctx.tx.mcpsRequest
  status := ctx.confirmStatus
  nbRetries := ctx.tx.nbRetries
  ackReceived := ctx.ackReceived
  upLinkCounter := ctx.tx.upLinkCounter

/-- `LoRaMacHandleRequestEvents`. -/
def loRaMacHandleRequestEvents : Prog (MacCtx σ) Unit :=
  modify fun ctx =>
    if ctx.isBusy then ctx
    else { ctx with
      tx := { ctx.tx with mcpsReq := false }
      confirms := ctx.confirms ++ if ctx.tx.mcpsReq then [ctx.mcpsConfirm] else []
      macDone := false }

/-- `LoRaMacHandleIndicationEvents`. -/
def loRaMacHandleIndicationEvents : Prog (MacCtx σ) Unit :=
  modify fun ctx => { ctx with
    mcpsInd := false
    indications := ctx.indications ++ if ctx.mcpsInd then [ctx.indication] else [] }

/-- `OpenContinuousRxCWindow`. -/
def openContinuousRxCWindow (rxConfigured : Bool) : Prog (MacCtx σ) Unit :=
  modify fun ctx => if rxConfigured then { ctx with radio := .rx, rxSlot := .winClassC } else ctx

/-- The part of `LoRaMacProcess` for a state that is done. -/
def processMacDone (conditions : ProcessConditions) : Prog (MacCtx σ) Unit := do
  loRaMacCheckForRxAbort
  loRaMacHandleMcpsRequest api conditions.channelsNbTrans conditions.tx
  loRaMacHandleRequestEvents

/-- `LoRaMacProcess` for the events that were raised. -/
def loRaMacProcess (conditions : ProcessConditions) (events : RadioEvents) :
    Prog (MacCtx σ) Unit := do
  loRaMacHandleIrqEvents api conditions events
  let macDone ← gets MacCtx.macDone
  onRaised macDone (processMacDone api conditions)
  loRaMacHandleIndicationEvents
  let rxSlot ← gets MacCtx.rxSlot
  onRaised (rxSlot = .winClassC) (openContinuousRxCWindow conditions.rxConfigured)

/-- `RxWindowSetup` for a slot. -/
def rxWindowSetup (rxSlot : LoRaMacRxSlot) (rxConfigured : Bool) : Prog (MacCtx σ) Unit :=
  modify fun ctx =>
    if rxConfigured then { ctx with radio := .rx, rxSlot := rxSlot }
    else { ctx with radio := .sleep }

/-- `OnRxWindow1TimerEvent`. -/
def onRxWindow1TimerEvent (rxConfigured : Bool) : Prog (MacCtx σ) Unit := do
  modify fun ctx => { ctx with timers := { ctx.timers with rxWindowTimer1 := false } }
  rxWindowSetup .win1 rxConfigured

/-- `OnRxWindow2TimerEvent`. -/
def onRxWindow2TimerEvent (rxConfigured : Bool) : Prog (MacCtx σ) Unit := do
  modify fun ctx => { ctx with timers := { ctx.timers with rxWindowTimer2 := false } }
  let rxSlot ← gets MacCtx.rxSlot
  if rxSlot ≠ .win1 then
    rxWindowSetup .win2 rxConfigured

/-! ## The machine -/

/-- What the radio raises. -/
inductive RadioIrq where
  | txDone
  | rxDone (payload : List UInt8) (size : ℕ)
  | txTimeout
  | rxError
  | rxTimeout
deriving DecidableEq, Repr

/-- What the radio does when it raises an event. -/
def RadioIrq.during : RadioIrq → Radio
  | .txDone | .txTimeout => .tx
  | .rxDone _ _ | .rxError | .rxTimeout => .rx

/-- `OnRadioTxDone`, `OnRadioRxDone`, `OnRadioTxTimeout`, `OnRadioRxError` and
`OnRadioRxTimeout`. -/
def RadioEvents.raise (events : RadioEvents) : RadioIrq → RadioEvents
  | .txDone => { events with txDone := true }
  | .rxDone payload size => { events with rxDone := some (payload, size) }
  | .txTimeout => { events with txTimeout := true }
  | .rxError => { events with rxError := true }
  | .rxTimeout => { events with rxTimeout := true }

/-- What happens to the MAC. -/
inductive MacEvent where
  | mcpsRequest (request : McpsReq) (conditions : RequestConditions)
  | radio (irq : RadioIrq)
  | rxWindow1Timer (rxConfigured : Bool)
  | rxWindow2Timer (rxConfigured : Bool)
  | ackTimeoutTimer
  | txDelayedTimer (conditions : TxConditions)
  | process (conditions : ProcessConditions)

/-- The events that may happen.  A request fits the buffer of the MAC, what the
radio received fits its own, and the delay of the first window is the shorter. -/
def macEnabled (mac : Mac σ) : MacEvent → Prop
  | .mcpsRequest request conditions =>
      request.fBuffer.length ≤ loramacPhyMaxpayload ∧
        conditions.availableSize ≤ loramacPhyMaxpayload
  | .radio irq => mac.ctx.radio = irq.during ∧ match irq with
      | .rxDone payload size => 0 < size ∧ size ≤ loramacPhyMaxpayload ∧
          loramacPhyMaxpayload ≤ payload.length
      | _ => True
  | .rxWindow1Timer _ => mac.ctx.timers.rxWindowTimer1 = true
  | .rxWindow2Timer _ => mac.ctx.timers.rxWindowTimer2 = true ∧
      mac.ctx.timers.rxWindowTimer1 = false
  | .ackTimeoutTimer => mac.ctx.timers.ackTimeoutTimer = true
  | .txDelayedTimer _ => mac.ctx.timers.txDelayedTimer = true
  | .process conditions => conditions.channelsNbTrans < 16

/-- A call on the context. -/
def onCtx (call : Prog (MacCtx σ) Unit) : Prog (Mac σ) Unit :=
  zoom Mac.ctx (fun ctx mac => { mac with ctx := ctx }) call

/-- What the MAC does.  A radio that raises an event is idle after it, unless
it listens all the time. -/
def macStep : MacEvent → Prog (Mac σ) Unit
  | .mcpsRequest request conditions => onCtx do
      let _ ← loRaMacMcpsRequest api request conditions
      pure ()
  | .radio irq => modify fun mac =>
      { ctx := { mac.ctx with
          radio := if mac.ctx.session.deviceClass = .classC ∧ irq.during = .rx then .rx
            else .sleep }
        events := mac.events.raise irq }
  | .rxWindow1Timer rxConfigured => onCtx (onRxWindow1TimerEvent rxConfigured)
  | .rxWindow2Timer rxConfigured => onCtx (onRxWindow2TimerEvent rxConfigured)
  | .ackTimeoutTimer => onCtx onAckTimeoutTimerEvent
  | .txDelayedTimer conditions => onCtx (onTxDelayedTimerEvent api conditions)
  | .process conditions => do
      let events ← gets Mac.events
      modify fun mac => { mac with events := .none }
      onCtx (loRaMacProcess api conditions events)

instance (mac : Mac σ) : ∀ event, Decidable (macEnabled mac event)
  | .mcpsRequest _ _ | .rxWindow2Timer _ => inferInstanceAs (Decidable (_ ∧ _))
  | .radio (.rxDone _ _) => inferInstanceAs (Decidable (_ ∧ _ ∧ _ ∧ _))
  | .radio .txDone | .radio .txTimeout | .radio .rxError | .radio .rxTimeout =>
      inferInstanceAs (Decidable (_ ∧ True))
  | .rxWindow1Timer _ | .ackTimeoutTimer | .txDelayedTimer _ => inferInstanceAs (Decidable (_ = _))
  | .process _ => inferInstanceAs (Decidable (_ < _))

/-- The MAC. -/
def macMachine : Machine (Mac σ) MacEvent where
  enabled := macEnabled
  step := macStep api

instance (mac : Mac σ) (event : MacEvent) : Decidable ((macMachine api).enabled mac event) :=
  inferInstanceAs (Decidable (macEnabled mac event))

end GenericNode.LoRaMac
