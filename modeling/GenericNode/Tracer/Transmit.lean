import GenericNode.Library.Machine
import GenericNode.Lpm.StopMode

/-!
# The transmissions of the tracer

`stm32_adv_tracer.c` with the hooks of the application, which vote for the
tracer.  Any number of contexts send traces; their critical sections and the
calls between them are single steps, in any order.
-/

namespace GenericNode.Tracer

open GenericNode.Library
open GenericNode.Library.Prog
open GenericNode.Lpm

/-- `TRACE_UNCHUNK_STATUS`. -/
inductive TraceUnchunkStatus where
  | none | detected | transfer
deriving DecidableEq, Repr

/-- `ADV_TRACER_Context`; the lock counts each context at most once, and is far
from the end of its 16 bits. -/
structure AdvTracerContext where
  unchunkEnabled : UInt16
  unchunkStatus : TraceUnchunkStatus
  traceRdPtr : UInt16
  traceWrPtr : UInt16
  traceSentSize : UInt16
  traceLock : ℕ
deriving DecidableEq, Repr

/-- `ADV_TRACER_FIFO_SIZE`. -/
def advTracerFifoSize : UInt16 :=
  512

namespace AdvTracerContext

/-- `TRACE_Lock`. -/
def traceLocked (tracer : AdvTracerContext) : AdvTracerContext :=
  { tracer with traceLock := tracer.traceLock + 1 }

/-- `TRACE_UnLock`. -/
def traceUnlocked (tracer : AdvTracerContext) : AdvTracerContext :=
  { tracer with traceLock := tracer.traceLock - 1 }

/-- The wrap of `TRACE_AllocateBufer` to the start of the buffer, and the free
size. -/
def unchunk (size : UInt16) (tracer : AdvTracerContext) : AdvTracerContext × UInt16 :=
  if size ≥ advTracerFifoSize - tracer.traceWrPtr ∧ tracer.traceRdPtr > size then
    ({ tracer with
        unchunkStatus := .detected
        unchunkEnabled := tracer.traceWrPtr
        traceWrPtr := 0 }, tracer.traceRdPtr)
  else (tracer, advTracerFifoSize - tracer.traceWrPtr)

/-- `TRACE_AllocateBufer`: whether there is room. -/
def traceAllocateBuffer (size : UInt16) (tracer : AdvTracerContext) : Bool × AdvTracerContext :=
  let (tracer, freesize) :=
    if tracer.traceWrPtr = tracer.traceRdPtr ∨ tracer.traceWrPtr > tracer.traceRdPtr then
      tracer.unchunk size
    else (tracer, tracer.traceRdPtr - tracer.traceWrPtr)
  if freesize > size then
    (true, { tracer with traceWrPtr := (tracer.traceWrPtr + size) % advTracerFifoSize })
  else (false, tracer)

/-- The part before the end of the buffer, once the traces wrap. -/
def detectedChunk (tracer : AdvTracerContext) : AdvTracerContext :=
  let sentSize := tracer.unchunkEnabled - tracer.traceRdPtr
  { tracer with
    traceSentSize := sentSize
    unchunkStatus := if sentSize = 0 then .none else .transfer
    unchunkEnabled := 0
    traceRdPtr := if sentSize = 0 then 0 else tracer.traceRdPtr }

/-- The size of the next chunk, as `TRACE_Send` and the callback compute it. -/
def nextChunk (tracer : AdvTracerContext) : AdvTracerContext :=
  let tracer := if tracer.unchunkStatus = .detected then tracer.detectedChunk else tracer
  if tracer.unchunkStatus = .none then
    { tracer with
      traceSentSize :=
        if tracer.traceWrPtr > tracer.traceRdPtr then tracer.traceWrPtr - tracer.traceRdPtr
        else advTracerFifoSize - tracer.traceRdPtr }
  else tracer

/-- The read pointer after a chunk. -/
def chunkSent (tracer : AdvTracerContext) : AdvTracerContext :=
  if tracer.unchunkStatus = .transfer then
    { tracer with unchunkStatus := .none, traceRdPtr := 0 }
  else
    { tracer with
      traceRdPtr := (tracer.traceRdPtr + tracer.traceSentSize) % advTracerFifoSize }

end AdvTracerContext

/-! ## Contexts -/

/-- Where a context is that sends a trace: before a critical section, a hook or
the call of the UART driver. -/
inductive SendPoint where
  | lock (size : UInt16)
  | allocate (size : UInt16)
  | unlock (allocated : Bool)
  | traceSend
  | preSendHook
  | driverSend
deriving DecidableEq, Repr

/-- Where `TRACE_TxCpltCallback` is. -/
inductive CallbackPoint where
  | start
  | driverSend
  | unlock
deriving DecidableEq, Repr

/-- A transfer that the UART driver has accepted. -/
structure Transfer where
  position : UInt16
  size : UInt16
deriving DecidableEq, Repr

/-- An entry of the low-power mode: the mode, the votes so far, and whether a
transfer is under way. -/
structure LowPowerEntry where
  mode : LowPowerMode
  votes : List Vote
  transmitting : Bool
deriving DecidableEq, Repr

/-- The tracer, the UART, the contexts that send, the callback, and the mask of
the low-power manager; for the record, the votes, the transfers that the UART
did not start, and the low-power modes entered. -/
structure TracerState where
  tracer : AdvTracerContext
  inFlight : Option Transfer
  contexts : List SendPoint
  callback : Option CallbackPoint
  stopModeDisable : GnseLpmBm
  votes : List Vote
  refused : ℕ
  lowPower : List LowPowerEntry
deriving DecidableEq, Repr

/-- `GNSE_LPM_SetStopMode` by a requester. -/
def castVote (requester : GnseLpmId) (vote : GnseLpmState) (state : TracerState) : TracerState :=
  { state with
    stopModeDisable := gnseLpmSetStopMode requester.bit vote state.stopModeDisable
    votes := ⟨requester, vote⟩ :: state.votes }

/-- `ADV_TRACER_PreSendHook`. -/
def advTracerPreSendHook (state : TracerState) : TracerState :=
  castVote gnseLpmUartTracer .disable state

/-- `ADV_TRACER_PostSendHook`. -/
def advTracerPostSendHook (state : TracerState) : TracerState :=
  castVote gnseLpmUartTracer .enable state

/-- `vcom_Trace_DMA`, which ignores that the UART is busy or has nothing to
send; `accepts` tells whether the DMA starts. -/
def vcomTraceDma (accepts : Bool) (state : TracerState) : TracerState :=
  if state.inFlight = none ∧ state.tracer.traceSentSize ≠ 0 ∧ accepts = true then
    { state with inFlight := some ⟨state.tracer.traceRdPtr, state.tracer.traceSentSize⟩ }
  else { state with refused := state.refused + 1 }

/-- The critical section of `TRACE_Send`. -/
def TracerState.traceSend (state : TracerState) : TracerState × Option SendPoint :=
  if state.tracer.traceLock = 0 ∧ state.tracer.traceRdPtr ≠ state.tracer.traceWrPtr then
    ({ state with tracer := state.tracer.traceLocked.nextChunk }, some .preSendHook)
  else (state, none)

/-- A section of a context that sends, and where it is then. -/
def SendPoint.run (accepts : Bool) (state : TracerState) :
    SendPoint → TracerState × Option SendPoint
  | .lock size => ({ state with tracer := state.tracer.traceLocked }, some (.allocate size))
  | .allocate size =>
      let (allocated, tracer) := state.tracer.traceAllocateBuffer size
      ({ state with tracer := tracer }, some (.unlock allocated))
  | .unlock allocated =>
      ({ state with tracer := state.tracer.traceUnlocked },
        if allocated then some .traceSend else none)
  | .traceSend => state.traceSend
  | .preSendHook => (advTracerPreSendHook state, some .driverSend)
  | .driverSend => (vcomTraceDma accepts state, none)

/-- The first critical section of `TRACE_TxCpltCallback`. -/
def traceTxCpltCallback (state : TracerState) : TracerState :=
  let state := { state with tracer := state.tracer.chunkSent }
  if state.tracer.traceRdPtr ≠ state.tracer.traceWrPtr ∧ state.tracer.traceLock = 1 then
    { state with tracer := state.tracer.nextChunk, callback := some .driverSend }
  else { advTracerPostSendHook state with callback := some .unlock }

/-- A section of the callback. -/
def CallbackPoint.run (accepts : Bool) (state : TracerState) : CallbackPoint → TracerState
  | .start => traceTxCpltCallback state
  | .driverSend => { vcomTraceDma accepts state with callback := none }
  | .unlock => { state with tracer := state.tracer.traceUnlocked, callback := none }

/-- The list with one entry replaced, or taken out. -/
def replaceAt {α : Type} (entries : List α) (index : ℕ) (next : Option α) : List α :=
  entries.take index ++ next.toList ++ entries.drop (index + 1)

/-! ## Runs -/

/-- A trace, the next section of a context, the end of a transfer, the next
section of the callback, a vote of another requester, and the idle task. -/
inductive TracerEvent where
  | send (size : UInt16)
  | context (index : ℕ) (accepts : Bool)
  | complete
  | callback (accepts : Bool)
  | vote (requester : GnseLpmId) (vote : GnseLpmState)
  | enterLowPower

/-- When an event can happen. -/
def tracerEnabled (state : TracerState) : TracerEvent → Prop
  | .send _ | .enterLowPower => True
  | .context index _ => index < state.contexts.length
  | .complete => state.inFlight ≠ none ∧ state.callback = none
  | .callback _ => state.callback ≠ none
  | .vote requester _ => requester ≠ gnseLpmUartTracer

instance (state : TracerState) : ∀ event : TracerEvent, Decidable (tracerEnabled state event)
  | .send _ | .enterLowPower => .isTrue trivial
  | .context _ _ => inferInstanceAs (Decidable (_ < _))
  | .complete => inferInstanceAs (Decidable (_ ∧ _))
  | .callback _ => inferInstanceAs (Decidable (_ ≠ _))
  | .vote _ _ => inferInstanceAs (Decidable (_ ≠ _))

/-- What happens at an event. -/
def tracerStep : TracerEvent → TracerState → TracerState
  | .send size, state => { state with contexts := state.contexts ++ [.lock size] }
  | .context index accepts, state =>
      match state.contexts[index]? with
      | some point =>
          let (next, point) := point.run accepts state
          { next with contexts := replaceAt state.contexts index point }
      | none => state
  | .complete, state => { state with inFlight := none, callback := some .start }
  | .callback accepts, state =>
      match state.callback with
      | some point => point.run accepts state
      | none => state
  | .vote requester vote, state => castVote requester vote state
  | .enterLowPower, state =>
      { state with
        lowPower := state.lowPower ++
          [⟨gnseLpmEnterLowPower state.stopModeDisable, state.votes, state.inFlight.isSome⟩] }

/-- The tracer and the low-power manager. -/
def tracerMachine : Machine TracerState TracerEvent where
  enabled := tracerEnabled
  step event := modify (tracerStep event)

instance (state : TracerState) (event : TracerEvent) :
    Decidable (tracerMachine.enabled state event) :=
  inferInstanceAs (Decidable (tracerEnabled state event))

/-- After `GNSE_LPM_Init` and `ADV_TRACER_Init`. -/
def tracerBoot (mode : GnseLpmMode) : TracerState where
  tracer :=
    { unchunkEnabled := 0
      unchunkStatus := .none
      traceRdPtr := 0
      traceWrPtr := 0
      traceSentSize := 0
      traceLock := 0 }
  inFlight := none
  contexts := []
  callback := none
  stopModeDisable := gnseLpmInit mode
  votes := gnseLpmInitVotes mode
  refused := 0
  lowPower := []

end GenericNode.Tracer
