import GenericNode.FreeRtos.Messages

/-!
# Bounds and delivery

Every downlink that passes the assertion is received once, in the order of
arrival, or was lost to a full queue; and an uplink is sent with the length
that was checked.  Lengths above the size of the buffer break this.
-/

namespace GenericNode.FreeRtos

open GenericNode.Library
open GenericNode.Library.Prog

/-! ## What is promised -/

/-- The data that sender and receiver see. -/
structure Content where
  port : ℕ
  length : ℕ
  bytes : List UInt8
deriving DecidableEq, Repr

/-- What a message contains. -/
def LoRaWANMessage.content (message : LoRaWANMessage) : Content where
  port := message.port.toNat
  length := message.length.toNat
  bytes := (List.ofFn message.data).take message.length.toNat

/-- What an indication contains. -/
def McpsIndication.content (mcpsIndication : McpsIndication) : Content where
  port := mcpsIndication.port.toNat
  length := mcpsIndication.buffer.length
  bytes := mcpsIndication.buffer

namespace Messages

/-- A length that fits in the buffer and, with the MAC commands, in a frame. -/
structure MacInfo.Fits (mac : MacInfo) (length : ℕ) : Prop where
  buffer : length ≤ lorawanConfigMaxMessageSize
  fOpts : mac.macCmdsSize ≤ loraMacCommandMaxFoptsLength
  frame : mac.macCmdsSize + length ≤ mac.currentPossiblePayloadSize.toNat

/-- An uplink was sent with its own length, which is the one that was checked. -/
structure Transmitted (transmission : Transmission) : Prop where
  fits : transmission.mac.Fits transmission.message.length.toNat
  checked : transmission.size = transmission.message.length.toUInt8
  size : transmission.size.toNat = transmission.message.length.toNat
  bytes : transmission.bytes = transmission.message.content.bytes

section Tasks

variable {kernel : QueueKernel}

/-- What the wrapper promises about the data. -/
structure MessagesPromised (state : MessagesState kernel) : Prop where
  running : state.halted = false
  accepted : state.accepted =
    state.arrivals.map Arrival.indication ++ state.blocked.toList.map Entry.indication
  delivered :
    (state.received ++ kernel.items state.xDownlinkQueue).map LoRaWANMessage.content =
      (state.arrivals.filter fun arrival => !arrival.dropped).map fun arrival =>
        arrival.indication.content
  dropped : ∀ arrival ∈ state.arrivals, arrival.dropped = true → arrival.queueFull = true
  transmitted : ∀ transmission ∈ state.transmissions, Transmitted transmission
  returned : ∀ result ∈ state.sendReturns,
    ¬ result.call.mac.Fits result.call.message.length.toNat → result.status ≠ .ok

/-- A request with a length that fits, or one that ends before anything is read
beyond the buffer or sent. -/
def McpsAttempt.InBounds (length : UInt32) : McpsAttempt → Prop
  | .refused _ => True
  | .prepared status => length.toNat ≤ lorawanConfigMaxMessageSize ∨
      length.toUInt16.toNat ≤ lorawanConfigMaxMessageSize ∧ status ≠ .ok

/-- An attempt at the request of the message that is sent. -/
def SendPoint.InBounds (attempt : McpsAttempt) : SendPoint → Prop
  | .request message _ _ => attempt.InBounds message.length
  | .outside | .query _ _ | .response _ _ _ => True

/-- An event that keeps to the size of the buffer. -/
def inBounds (state : MessagesState kernel) : MessagesEvent → Prop
  | .indicate mcpsIndication => mcpsIndication.status = .ok → mcpsIndication.rxData = true →
      mcpsIndication.buffer.length ≤ lorawanConfigMaxMessageSize
  | .request attempt => state.task.InBounds attempt
  | .timeout | .receive | .pollEvent | .callSend _ _ | .query _ | .response _ => True

instance (length : UInt32) : ∀ attempt : McpsAttempt, Decidable (attempt.InBounds length)
  | .refused _ => .isTrue trivial
  | .prepared _ => inferInstanceAs (Decidable (_ ∨ _ ∧ _))

instance (attempt : McpsAttempt) : ∀ point : SendPoint, Decidable (point.InBounds attempt)
  | .request message _ _ => inferInstanceAs (Decidable (attempt.InBounds message.length))
  | .outside | .query _ _ | .response _ _ _ => .isTrue trivial

instance (state : MessagesState kernel) : ∀ event, Decidable (inBounds state event)
  | .indicate _ => inferInstanceAs (Decidable (_ → _ → _))
  | .request attempt => inferInstanceAs (Decidable (state.task.InBounds attempt))
  | .timeout | .receive | .pollEvent | .callSend _ _ | .query _ | .response _ => .isTrue trivial

/-- The invariant of the two tasks. -/
structure MessagesKept (state : MessagesState kernel) : Prop extends MessagesPromised state where
  queue : kernel.length state.xDownlinkQueue = lorawanConfigDownlinkQueueSize
  blocked : ∀ entry, state.blocked = some entry →
    entry.queueFull = true ∧ entry.downlink.content = entry.indication.content
  request : ∀ message confirmed mac, state.task = .request message confirmed mac →
    loRaMacQueryTxPossible message.length.toUInt8 mac = .ok
  response : ∀ message confirmed mac, state.task = .response message confirmed mac →
    mac.Fits message.length.toNat

/-! ## Downlinks -/

variable {state : MessagesState kernel}

/-- The events of an indication are sent to another queue. -/
theorem sendEvents_eq (mcpsIndication : McpsIndication) (state : MessagesState kernel) :
    ∃ events, sendEvents mcpsIndication state = { state with xEventQueue := events } := by
  unfold sendEvents
  split_ifs
  · exact ⟨_, rfl⟩
  · exact ⟨_, rfl⟩
  · exact ⟨_, rfl⟩
  · exact ⟨_, rfl⟩

theorem MessagesKept.withEvents (kept : MessagesKept state)
    (events : kernel.Queue LoRaWANEventInfo) :
    MessagesKept { state with xEventQueue := events } :=
  ⟨⟨kept.running, kept.accepted, kept.delivered, kept.dropped, kept.transmitted, kept.returned⟩,
    kept.queue, kept.blocked, kept.request, kept.response⟩

theorem MessagesKept.sendEvents (kept : MessagesKept state) (mcpsIndication : McpsIndication) :
    MessagesKept (sendEvents mcpsIndication state) := by
  obtain ⟨events, same⟩ := sendEvents_eq mcpsIndication state
  rw [same]
  exact kept.withEvents events

/-- What is copied into the buffer is what was received. -/
theorem wp_memcpyToData {mcpsIndication : McpsIndication} {state : MessagesState kernel}
    (fits : mcpsIndication.buffer.length ≤ lorawanConfigMaxMessageSize) :
    wp (memcpyToData
        { port := mcpsIndication.port.toUInt16
          data := fun _ => 0
          length := UInt32.ofNat mcpsIndication.buffer.length
          dataRate := mcpsIndication.rxDatarate }
        mcpsIndication.buffer)
      (fun downlink final => downlink.content = mcpsIndication.content ∧ final = state) state := by
  have length : (UInt32.ofNat mcpsIndication.buffer.length).toNat =
      mcpsIndication.buffer.length := by
    rw [UInt32.toNat_ofNat']
    exact Nat.mod_eq_of_lt (by linarith [mcpsIndication.size_le])
  rw [memcpyToData, if_pos fits, wp_pure]
  refine ⟨?_, rfl⟩
  rw [LoRaWANMessage.content, McpsIndication.content, Content.mk.injEq]
  refine ⟨UInt8.toNat_toUInt16 _, length, ?_⟩
  apply List.ext_getElem
  · rw [List.length_take, List.length_ofFn, length]
    exact Nat.min_eq_left fits
  · intro index _ inside
    simp [inside]

/-- The queue, as the documentation speaks of it. -/
theorem MessagesKept.holds (kept : MessagesKept state) :
    kernel.Holds state.xDownlinkQueue lorawanConfigDownlinkQueueSize
      (kernel.items state.xDownlinkQueue) :=
  ⟨kept.queue, rfl⟩

/-- A state where a downlink has passed the assertion. -/
def MessagesState.withAccepted (state : MessagesState kernel) (mcpsIndication : McpsIndication) :
    MessagesState kernel :=
  { state with accepted := state.accepted ++ [mcpsIndication] }

/-- `xQueueSend` has put a downlink in the queue. -/
theorem MessagesKept.queued {entry : Entry} {queue : kernel.Queue LoRaWANMessage}
    (kept : MessagesKept state) (free : state.blocked = none)
    (same : entry.downlink.content = entry.indication.content)
    (sent : kernel.Holds queue lorawanConfigDownlinkQueueSize
      (kernel.items state.xDownlinkQueue ++ [entry.downlink])) :
    MessagesKept (queued entry
      { state.withAccepted entry.indication with xDownlinkQueue := queue }) := by
  apply MessagesKept.sendEvents
  have accepted := kept.accepted
  rw [free, Option.toList_none, List.map_nil, List.append_nil] at accepted
  refine ⟨⟨kept.running, ?_, ?_, ?_, kept.transmitted, kept.returned⟩, sent.length, ?_,
    kept.request, kept.response⟩
  · simp [MessagesState.withAccepted, accepted]
  · have delivered := kept.delivered
    simp only [MessagesState.withAccepted, sent.items, ← List.append_assoc, List.map_append,
      List.filter_append, List.map_cons, List.map_nil, same, List.filter_cons, Bool.not_false,
      if_true, List.filter_nil]
    rw [← List.map_append, delivered]
  · intro arrival mem
    rcases List.mem_append.mp mem with before | now
    · exact kept.dropped arrival before
    · rw [List.mem_singleton.mp now]
      intro lost
      cases lost
  · intro other waits
    cases waits

/-- A full queue loses a downlink. -/
theorem MessagesKept.lost {entry : Entry} (kept : MessagesKept state)
    (free : state.blocked = none) (full : entry.queueFull = true) :
    MessagesKept (dropped entry (state.withAccepted entry.indication)) := by
  apply MessagesKept.sendEvents
  have accepted := kept.accepted
  rw [free, Option.toList_none, List.map_nil, List.append_nil] at accepted
  refine ⟨⟨kept.running, ?_, ?_, ?_, kept.transmitted, kept.returned⟩, kept.queue, ?_,
    kept.request, kept.response⟩
  · simp [MessagesState.withAccepted, accepted]
  · have delivered := kept.delivered
    simp only [MessagesState.withAccepted, List.filter_append, List.filter_cons, Bool.not_true,
      Bool.false_eq_true, if_false, List.filter_nil, List.append_nil]
    exact delivered
  · intro arrival mem
    rcases List.mem_append.mp mem with before | now
    · exact kept.dropped arrival before
    · rw [List.mem_singleton.mp now]
      exact fun _ => full
  · intro other waits
    cases waits

/-- The downlink that waits for room is the last one accepted. -/
theorem MessagesKept.unblocked {entry : Entry} (kept : MessagesKept state)
    (waits : state.blocked = some entry) :
    ∃ before, MessagesKept before ∧ before.blocked = none ∧
      state = { before.withAccepted entry.indication with blocked := some entry } := by
  have accepted := kept.accepted
  rw [waits] at accepted
  refine ⟨{ state with
    blocked := none
    accepted := state.arrivals.map Arrival.indication }, ⟨⟨kept.running, ?_, kept.delivered,
      kept.dropped, kept.transmitted, kept.returned⟩, kept.queue, ?_, kept.request,
      kept.response⟩, rfl, ?_⟩
  · simp
  · intro other waits
    cases waits
  · cases state
    simp only [MessagesState.withAccepted] at accepted waits ⊢
    rw [accepted, waits]
    rfl

/-- The queue holds what it held. -/
theorem MessagesKept.withQueue {queue : kernel.Queue LoRaWANMessage} (kept : MessagesKept state)
    (holds : kernel.Holds queue lorawanConfigDownlinkQueueSize
      (kernel.items state.xDownlinkQueue)) :
    MessagesKept { state with xDownlinkQueue := queue } := by
  refine ⟨⟨kept.running, kept.accepted, ?_, kept.dropped, kept.transmitted, kept.returned⟩,
    holds.length, kept.blocked, kept.request, kept.response⟩
  rw [holds.items]
  exact kept.delivered

/-- A downlink waits for room. -/
theorem MessagesKept.wait {entry : Entry} (kept : MessagesKept state)
    (free : state.blocked = none) (full : entry.queueFull = true)
    (same : entry.downlink.content = entry.indication.content) :
    MessagesKept { state.withAccepted entry.indication with blocked := some entry } := by
  have accepted := kept.accepted
  rw [free, Option.toList_none, List.map_nil, List.append_nil] at accepted
  refine ⟨⟨kept.running, ?_, kept.delivered, kept.dropped, kept.transmitted, kept.returned⟩,
    kept.queue, ?_, kept.request, kept.response⟩
  · simp [MessagesState.withAccepted, accepted]
  · rintro other waits
    cases waits
    exact ⟨full, same⟩

theorem MessagesKept.sendDownlink {mcpsIndication : McpsIndication} {downlink : LoRaWANMessage}
    (documented : kernel.Documented) (kept : MessagesKept state) (free : state.blocked = none)
    (same : downlink.content = mcpsIndication.content) :
    MessagesKept (sendDownlink mcpsIndication downlink state) := by
  unfold Messages.sendDownlink
  extract_lets entry result sending
  cases sent : result.1 with
  | true =>
      refine kept.queued free same ?_
      exact documented.holds_of_sent kept.holds sent
  | false =>
      obtain ⟨full, holds⟩ := documented.holds_of_refused kept.holds sent
      refine (kept.withQueue holds).wait free ?_ same
      exact decide_eq_true full

theorem MessagesKept.sendTimeout (kept : MessagesKept state) :
    MessagesKept (sendTimeout state) := by
  rw [Messages.sendTimeout]
  cases waits : state.blocked with
  | none => exact kept
  | some entry =>
      obtain ⟨before, before_kept, free, rfl⟩ := kept.unblocked waits
      exact before_kept.lost free (kept.blocked entry waits).1

/-- `LoRaWAN_Receive` takes the first message. -/
theorem MessagesKept.popped {message : LoRaWANMessage} {messages : List LoRaWANMessage}
    {rest : kernel.Queue LoRaWANMessage} (kept : MessagesKept state)
    (queue : kernel.items state.xDownlinkQueue = message :: messages)
    (left : kernel.Holds rest lorawanConfigDownlinkQueueSize messages) :
    MessagesKept { state with
      xDownlinkQueue := rest
      received := state.received ++ [message] } := by
  have delivered := kept.delivered
  rw [queue] at delivered
  refine ⟨⟨kept.running, kept.accepted, ?_, kept.dropped, kept.transmitted, kept.returned⟩,
    left.length, kept.blocked, kept.request, kept.response⟩
  rw [← delivered, left.items, List.append_assoc]
  rfl

theorem MessagesKept.sendBlocked (documented : kernel.Documented) (kept : MessagesKept state) :
    MessagesKept (sendBlocked state) := by
  unfold Messages.sendBlocked
  cases waits : state.blocked with
  | none => exact kept
  | some entry =>
      dsimp only
      cases sent : (kernel.xQueueSend state.xDownlinkQueue entry.downlink).1 with
      | true =>
          have holds := documented.holds_of_sent kept.holds sent
          obtain ⟨before, before_kept, free, rfl⟩ := kept.unblocked waits
          exact before_kept.queued free (kept.blocked entry waits).2 holds
      | false =>
          have holds := (documented.holds_of_refused kept.holds sent).2
          rw [if_neg Bool.false_ne_true, ← waits]
          exact kept.withQueue holds

theorem MessagesKept.loRaWANReceive (documented : kernel.Documented) (kept : MessagesKept state) :
    MessagesKept (loRaWANReceive state) := by
  rw [Messages.loRaWANReceive]
  cases queue : kernel.items state.xDownlinkQueue with
  | nil =>
      have holds := kept.holds
      rw [queue] at holds
      obtain ⟨rest, taken, left⟩ := documented.receive_nil holds
      rw [taken]
      apply kept.withQueue
      rw [queue]
      exact left
  | cons message messages =>
      have holds := kept.holds
      rw [queue] at holds
      obtain ⟨rest, taken, left⟩ := documented.receive_cons holds
      rw [taken]
      exact (kept.popped queue left).sendBlocked documented

/-! ## Uplinks -/

section Uplinks

variable {message : LoRaWANMessage} {mac : MacInfo} {confirmed : Bool}

/-- What the MAC accepts on eight bits fits, if the length fits in the buffer. -/
theorem fits_of_query (fits : message.length.toNat ≤ lorawanConfigMaxMessageSize)
    (accepted : loRaMacQueryTxPossible message.length.toUInt8 mac = .ok) :
    mac.Fits message.length.toNat := by
  have small : message.length.toUInt8.toNat = message.length.toNat := by
    rw [UInt32.toNat_toUInt8]
    exact Nat.mod_eq_of_lt (lt_of_le_of_lt fits (by decide))
  rw [loRaMacQueryTxPossible, small] at accepted
  split_ifs at accepted with commands frame
  · exact ⟨fits, commands.1, frame⟩
  · cases accepted
  · cases accepted

/-- A length above the size of the buffer does not fit. -/
theorem MacInfo.Fits.size_eq (fits : mac.Fits message.length.toNat) :
    message.length.toUInt16.toNat = message.length.toNat ∧
      message.length.toUInt16.toUInt8 = message.length.toUInt8 ∧
      message.length.toUInt8.toNat = message.length.toNat := by
  have buffer : message.length.toNat ≤ 222 := fits.buffer
  refine ⟨?_, ?_, ?_⟩
  · rw [UInt32.toNat_toUInt16]
    exact Nat.mod_eq_of_lt (lt_of_le_of_lt buffer (by decide))
  · exact UInt32.toUInt8_toUInt16 _
  · rw [UInt32.toNat_toUInt8]
    exact Nat.mod_eq_of_lt (lt_of_le_of_lt buffer (by decide))

/-- An error may be returned for every length. -/
theorem MessagesKept.sendReturn (kept : MessagesKept state) {status : LoRaMacStatus}
    (honest : ¬ mac.Fits message.length.toNat → status ≠ .ok) :
    MessagesKept (sendReturn message mac status state) := by
  refine ⟨⟨kept.running, kept.accepted, kept.delivered, kept.dropped, kept.transmitted, ?_⟩,
    kept.queue, kept.blocked, ?_, ?_⟩
  · intro result mem
    rcases List.mem_append.mp mem with before | now
    · exact kept.returned result before
    · rw [List.mem_singleton.mp now]
      exact honest
  · intro _ _ _ there
    cases there
  · intro _ _ _ there
    cases there

theorem MessagesKept.callSend (kept : MessagesKept state) (message : LoRaWANMessage)
    (confirmed : Bool) : MessagesKept { state with task := .query message confirmed } := by
  refine ⟨⟨kept.running, kept.accepted, kept.delivered, kept.dropped, kept.transmitted,
    kept.returned⟩, kept.queue, kept.blocked, ?_, ?_⟩
  · intro _ _ _ there
    cases there
  · intro _ _ _ there
    cases there

theorem MessagesKept.queryTxPossible (kept : MessagesKept state) (mac : MacInfo) :
    MessagesKept (queryTxPossible mac state) := by
  rw [Messages.queryTxPossible]
  split
  · rename_i message confirmed there
    dsimp only
    split_ifs with accepted
    · refine ⟨⟨kept.running, kept.accepted, kept.delivered, kept.dropped, kept.transmitted,
        kept.returned⟩, kept.queue, kept.blocked, ?_, ?_⟩
      · intro _ _ _ here
        cases here
        exact accepted
      · intro _ _ _ here
        cases here
    · exact kept.sendReturn fun _ => accepted
  · exact kept

theorem MessagesKept.mcpsResponse (kept : MessagesKept state) (status : EventInfoStatus) :
    MessagesKept (mcpsResponse status state) := by
  rw [Messages.mcpsResponse]
  split
  · rename_i message confirmed mac there
    apply kept.sendReturn
    intro misfit
    exact absurd (kept.response message confirmed mac there) misfit
  · exact kept

/-- A request that was not accepted sends nothing. -/
theorem MessagesKept.mcpsRequested (kept : MessagesKept state) {status : LoRaMacStatus}
    (refused : status ≠ .ok) :
    MessagesKept (mcpsRequested message confirmed mac status none state) := by
  unfold Messages.mcpsRequested
  cases status with
  | ok => exact absurd rfl refused
  | dutycycleRestricted => exact kept
  | error => exact kept.sendReturn fun _ => refused
  | other value => exact kept.sendReturn fun _ => refused

/-- A request of a length that fits sends its data. -/
theorem MessagesKept.transmit (kept : MessagesKept state)
    (fits : mac.Fits message.length.toNat) :
    MessagesKept (Messages.mcpsRequested message confirmed mac .ok
      (some (message.length.toUInt8, message.content.bytes)) state) := by
  refine ⟨⟨kept.running, kept.accepted, kept.delivered, kept.dropped, ?_, kept.returned⟩,
    kept.queue, kept.blocked, ?_, ?_⟩
  · intro transmission mem
    rcases List.mem_append.mp mem with before | now
    · exact kept.transmitted transmission before
    · rw [List.mem_singleton.mp now]
      exact ⟨fits, rfl, fits.size_eq.2.2, rfl⟩
  · intro _ _ _ there
    cases there
  · intro _ _ _ there
    cases there
    exact fits

theorem wp_memcpyFromData {size : ℕ} (fits : size ≤ lorawanConfigMaxMessageSize)
    (fBuffer : Fin lorawanConfigMaxMessageSize → UInt8)
    (post : List UInt8 → MessagesState kernel → Prop) :
    wp (memcpyFromData fBuffer size) post state ↔ post ((List.ofFn fBuffer).take size) state := by
  rw [memcpyFromData, if_pos fits, wp_pure]

/-- One turn of the loop of `LoRaWAN_Send`, for an attempt in bounds. -/
theorem MessagesKept.wp_mcpsRequest (kept : MessagesKept state) {attempt : McpsAttempt}
    (there : state.task = .request message confirmed mac) (possible : attempt.Possible)
    (bounds : attempt.InBounds message.length) :
    wp (mcpsRequest attempt) (fun _ final => MessagesKept final) state := by
  rw [mcpsRequest, wp_bind, wp_gets, there]
  dsimp only
  cases attempt with
  | refused status =>
      rw [loRaMacMcpsRequest, wp_bind, wp_pure, wp_modify]
      exact kept.mcpsRequested possible.1
  | prepared status =>
      have copied : message.length.toUInt16.toNat ≤ lorawanConfigMaxMessageSize := by
        rcases bounds with short | wrapped
        · rw [UInt32.toNat_toUInt16]
          exact (Nat.mod_le _ _).trans short
        · exact wrapped.1
      rw [loRaMacMcpsRequest, wp_bind, wp_bind, LoRaWANMessage.mcpsReq, wp_memcpyFromData copied,
        wp_pure, wp_modify]
      by_cases sent : status = .ok
      · subst sent
        have short : message.length.toNat ≤ lorawanConfigMaxMessageSize := by
          rcases bounds with short | wrapped
          · exact short
          · exact absurd rfl wrapped.2
        have fits := fits_of_query short (kept.request message confirmed mac there)
        obtain ⟨wide, narrow, same⟩ := fits.size_eq
        have bytes : ((List.ofFn message.data).take message.length.toUInt16.toNat).take
            message.length.toUInt16.toUInt8.toNat = message.content.bytes := by
          rw [narrow, wide, same, List.take_take, Nat.min_self]
          rfl
        rw [if_pos rfl, bytes, narrow]
        exact kept.transmit fits
      · rw [if_neg sent]
        exact kept.mcpsRequested sent

/-- An attempt out of bounds reads beyond the buffer, or sends a length that
does not fit. -/
theorem inBounds_of_wp_mcpsRequest {attempt : McpsAttempt}
    (there : state.task = .request message confirmed mac)
    (promised : wp (mcpsRequest attempt) (fun _ final => MessagesPromised final) state) :
    attempt.InBounds message.length := by
  rw [mcpsRequest, wp_bind, wp_gets, there] at promised
  dsimp only at promised
  cases attempt with
  | refused status => trivial
  | prepared status =>
      rw [loRaMacMcpsRequest, wp_bind, wp_bind, LoRaWANMessage.mcpsReq] at promised
      by_cases copied : message.length.toUInt16.toNat ≤ lorawanConfigMaxMessageSize
      · rw [wp_memcpyFromData copied, wp_pure, wp_modify] at promised
        by_cases sent : status = .ok
        · subst sent
          left
          have transmitted := promised.transmitted _ (List.mem_append_right _
            (List.mem_singleton.mpr rfl))
          exact transmitted.fits.buffer
        · exact .inr ⟨copied, sent⟩
      · rw [memcpyFromData, if_neg copied, wp_undefined] at promised
        exact promised.elim

end Uplinks

/-! ## Every run -/

/-- An event in bounds keeps the promise. -/
theorem MessagesKept.step (documented : kernel.Documented) (kept : MessagesKept state)
    {event : MessagesEvent} (enabled : (messagesMachine kernel).enabled state event)
    (bounds : inBounds state event) :
    wp ((messagesMachine kernel).step event) (fun _ final => MessagesKept final) state := by
  change wp (messagesStep event) _ state
  cases event with
  | indicate mcpsIndication =>
      rw [messagesStep, prvMcpsIndication]
      split_ifs with data fits
      · rw [wp_bind]
        refine wp_mono (wp_memcpyToData fits) ?_
        rintro downlink final ⟨same, rfl⟩
        rw [wp_modify]
        exact kept.sendDownlink documented (Option.isNone_iff_eq_none.mp enabled.2) same
      · exact absurd (bounds data.1 data.2) fits
      · rw [wp_modify]
        exact kept.sendEvents mcpsIndication
  | timeout =>
      rw [messagesStep, wp_modify]
      exact kept.sendTimeout
  | receive =>
      rw [messagesStep, wp_modify]
      exact kept.loRaWANReceive documented
  | pollEvent =>
      rw [messagesStep, wp_modify]
      exact kept.withEvents _
  | callSend message confirmed =>
      rw [messagesStep, wp_modify]
      exact kept.callSend message confirmed
  | query mac =>
      rw [messagesStep, wp_modify]
      exact kept.queryTxPossible mac
  | request attempt =>
      obtain ⟨-, -, possible⟩ := enabled
      rw [messagesStep]
      cases there : state.task with
      | request message confirmed mac =>
          rw [inBounds, there] at bounds
          exact kept.wp_mcpsRequest there possible bounds
      | _ =>
          rw [mcpsRequest, wp_bind, wp_gets, there, wp_pure]
          exact kept
  | response status =>
      rw [messagesStep, wp_modify]
      exact kept.mcpsResponse status

/-- An event out of bounds breaks it. -/
theorem inBounds_of_step {event : MessagesEvent}
    (promised : wp ((messagesMachine kernel).step event)
      (fun _ final => MessagesPromised final) state) :
    inBounds state event := by
  change wp (messagesStep event) _ state at promised
  cases event with
  | indicate mcpsIndication =>
      intro ok data
      by_contra long
      rw [messagesStep, prvMcpsIndication, if_pos ⟨ok, data⟩, if_neg long, wp_modify] at promised
      exact absurd promised.running Bool.noConfusion
  | request attempt =>
      rw [messagesStep] at promised
      cases there : state.task with
      | request message confirmed mac =>
          rw [inBounds, there]
          exact inBounds_of_wp_mcpsRequest there promised
      | _ =>
          rw [inBounds, there]
          trivial
  | _ => trivial

theorem messagesKept_init (documented : kernel.Documented) :
    MessagesKept (messagesInit kernel) := by
  have empty : kernel.Holds (messagesInit kernel).xDownlinkQueue _ [] := documented.create _
  have delivered : ([] ++ kernel.items (messagesInit kernel).xDownlinkQueue).map
      LoRaWANMessage.content = [] := by
    rw [empty.items]
    rfl
  refine ⟨⟨rfl, rfl, delivered, ?_, ?_, ?_⟩, empty.length, ?_, ?_, ?_⟩
  · intro _ mem
    exact absurd mem List.not_mem_nil
  · intro _ mem
    exact absurd mem List.not_mem_nil
  · intro _ mem
    exact absurd mem List.not_mem_nil
  · intro _ waits
    cases waits
  · intro _ _ _ there
    cases there
  · intro _ _ _ there
    cases there

/-- In a run in bounds the promise holds, and the next event keeps it if and
only if it is in bounds too. -/
theorem messages_promised (documented : kernel.Documented) {run : MessagesState kernel}
    (reaches : (messagesMachine kernel).Reaches inBounds (messagesInit kernel) run) :
    MessagesPromised run ∧ ∀ event, (messagesMachine kernel).enabled run event →
      (wp ((messagesMachine kernel).step event) (fun _ final => MessagesPromised final) run ↔
        inBounds run event) := by
  have kept : MessagesKept run :=
    reaches.invariant (messagesKept_init documented) fun _ _ kept enabled bounds =>
      kept.step documented enabled bounds
  refine ⟨kept.toMessagesPromised, fun event enabled => ⟨inBounds_of_step, fun bounds => ?_⟩⟩
  exact wp_mono (kept.step documented enabled bounds) fun _ _ kept => kept.toMessagesPromised

/-- A downlink above the size of the buffer halts the device. -/
theorem indicate_halts {mcpsIndication : McpsIndication} (ok : mcpsIndication.status = .ok)
    (data : mcpsIndication.rxData = true)
    (long : lorawanConfigMaxMessageSize < mcpsIndication.buffer.length) :
    ((messagesMachine kernel).step (.indicate mcpsIndication)).run state =
      (some (), { state with halted := true }) := by
  change (prvMcpsIndication mcpsIndication).run state = _
  rw [prvMcpsIndication, if_pos ⟨ok, data⟩, if_neg (not_le.mpr long)]
  rfl

end Tasks

/-- A downlink of some zeros. -/
def zeros (size : ℕ) (size_le : size ≤ 255) : McpsIndication where
  status := .ok
  port := 2
  rxDatarate := 5
  framePending := false
  buffer := List.replicate size 0
  rxData := true
  size_le := by rwa [List.length_replicate]

/-- An uplink of some zeros. -/
def zerosUplink (length : UInt32) : LoRaWANMessage where
  port := 2
  data := fun _ => 0
  length := length
  dataRate := 0

/-- Three downlinks, of which the second is lost and the third waits for room;
then an uplink that is delayed once. -/
def busyQueue : List MessagesEvent :=
  [.indicate (zeros 3 (by decide)), .indicate (zeros 1 (by decide)), .timeout,
    .indicate (zeros 2 (by decide)), .receive, .callSend (zerosUplink 51) true, .query ⟨51, 0⟩,
    .request (.prepared .dutycycleRestricted), .request (.prepared .ok), .response .ok, .receive]

theorem busyQueue_promised :
    ∃ run : MessagesState listQueues, run.received.length = 2 ∧ run.arrivals.length = 3 ∧
      run.transmissions.length = 1 ∧ MessagesPromised run := by
  have replayed : ∃ run : MessagesState listQueues,
      (messagesMachine listQueues).replay inBounds busyQueue (messagesInit listQueues) =
        some run ∧
      run.received.length = 2 ∧ run.arrivals.length = 3 ∧ run.transmissions.length = 1 :=
    ⟨_, rfl, rfl, rfl, rfl⟩
  obtain ⟨run, replayed, received, arrivals, transmissions⟩ := replayed
  have promised := (messages_promised listQueues_documented
    (Machine.reaches_of_replay _ replayed)).1
  exact ⟨run, received, arrivals, transmissions, promised⟩

/-- A downlink of 223 bytes halts the device; an uplink of 256 bytes passes the
query as an empty one, and is read beyond the buffer. -/
theorem messages_not_promised :
    (∃ run : MessagesState listQueues,
      (messagesMachine listQueues).Reaches (fun _ _ => True) (messagesInit listQueues) run ∧
        ¬ MessagesPromised run) ∧
    ∃ run : MessagesState listQueues,
      (messagesMachine listQueues).Reaches (fun _ _ => True) (messagesInit listQueues) run ∧
      (messagesMachine listQueues).enabled run (.request (.prepared .ok)) ∧
      ¬ wp ((messagesMachine listQueues).step (.request (.prepared .ok)))
        (fun _ final => MessagesPromised final) run := by
  constructor
  · have long : lorawanConfigMaxMessageSize < (zeros 223 (by decide)).buffer.length := by
      rw [zeros, List.length_replicate]
      decide
    have enabled : (messagesMachine listQueues).enabled (messagesInit listQueues)
        (.indicate (zeros 223 (by decide))) :=
      And.intro rfl rfl
    refine ⟨{ messagesInit listQueues with halted := true },
      .step _ .start enabled trivial (indicate_halts rfl rfl long), fun promised => ?_⟩
    cases promised.running
  · have replayed : ∃ run : MessagesState listQueues,
        (messagesMachine listQueues).replay (fun _ _ => True)
          [.callSend (zerosUplink 256) false, .query ⟨242, 0⟩] (messagesInit listQueues) =
            some run ∧ run.halted = false ∧
        run.task = .request (zerosUplink 256) false ⟨242, 0⟩ :=
      ⟨_, rfl, rfl, rfl⟩
    obtain ⟨run, replayed, running, there⟩ := replayed
    have enabled : (messagesMachine listQueues).enabled run (.request (.prepared .ok)) := by
      refine And.intro running (And.intro ?_ trivial)
      rw [there]
      rfl
    refine ⟨run, Machine.reaches_of_replay _ replayed, enabled, fun promised => ?_⟩
    have bounds := inBounds_of_wp_mcpsRequest there promised
    exact absurd bounds (by decide)

end Messages

end GenericNode.FreeRtos
