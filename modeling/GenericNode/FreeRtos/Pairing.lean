import GenericNode.FreeRtos.Requests

/-!
# Requests and responses

The response that a call dequeues is the confirm of its own request.
-/

namespace GenericNode.FreeRtos

open GenericNode.Library
open GenericNode.Library.Prog

/-- The request whose response the task waits for. -/
def TaskPoint.request : TaskPoint → Option (ℕ × Request)
  | .joinReceive _ request => some (request, .join)
  | .sendReceive confirmed request => some (request, .send (mcpsType confirmed))
  | _ => none

/-- A response to a kind of request. -/
def Answers (response : Response) : Request → Prop
  | .join => ∃ confirm : MlmeConfirm, response.confirm = .mlme confirm ∧
      confirm.mlmeRequest = .join ∧ response.status = confirm.status
  | .send type => ∃ confirm : McpsConfirm, response.confirm = .mcps confirm ∧
      confirm.mcpsRequest = type ∧ response.status = confirm.reported

section Tasks

variable {kernel : QueueKernel}

/-- What the queue of the responses holds. -/
def RtosState.HoldsResponses (state : RtosState kernel) (responses : List Response) : Prop :=
  kernel.Holds state.xResponseQueue lorawanConfigResponseQueueSize responses

/-- The request that the task waits for is with the MAC, or its response is in
the queue. -/
inductive Pending (state : RtosState kernel) (request : ℕ) (kind : Request) : Prop
  | outstanding (outstanding : state.outstanding = [(request, kind)])
      (queue : state.HoldsResponses [])
  | answered (response : Response) (outstanding : state.outstanding = [])
      (queue : state.HoldsResponses [response]) (same : response.request = request)
      (answers : Answers response kind)

/-- Nothing is with the MAC or in the queue. -/
structure Quiet (state : RtosState kernel) : Prop where
  outstanding : state.outstanding = []
  queue : state.HoldsResponses []

/-- A confirmed uplink is successful only when it was acknowledged, and
reported as an error when its confirm says that it was not. -/
structure Acknowledged (result : SendReturn SendCall) : Prop where
  success : result.status = .ok → ∃ response, result.call.response = some response ∧
    ∃ confirm : McpsConfirm, response.confirm = .mcps confirm ∧
      confirm.mcpsRequest = .confirmed ∧ confirm.ackReceived = true
  failure : ∀ response, result.call.response = some response → ∀ confirm : McpsConfirm,
    response.confirm = .mcps confirm → confirm.ackReceived = false → result.status = .error

/-- What the records tell. -/
structure Recorded (state : RtosState kernel) : Prop where
  dequeued : ∀ entry ∈ state.dequeued, entry.response.request = entry.expected
  dropped : state.dropped = []
  acknowledged : ∀ result ∈ state.sendReturns, result.call.confirmed = true → Acknowledged result

/-- The invariant of the two tasks. -/
structure Paired (state : RtosState kernel) : Prop extends Recorded state where
  quiet : state.point.request = none → Quiet state
  pending : ∀ request kind, state.point.request = some (request, kind) →
    Pending state request kind

theorem paired_init (documented : kernel.Documented) : Paired (rtosInit kernel) where
  dequeued _ mem := absurd mem List.not_mem_nil
  dropped := rfl
  acknowledged _ mem := absurd mem List.not_mem_nil
  quiet _ := ⟨rfl, documented.create _⟩
  pending _ _ waits := by cases waits

variable {state final : RtosState kernel} {request : ℕ} {kind : Request}

/-- The waiting points are those with a request. -/
theorem isWaiting_iff {point : TaskPoint} : point.IsWaiting ↔ point.request ≠ none := by
  cases point <;> simp [TaskPoint.IsWaiting, TaskPoint.request]

theorem Paired.quiet_of_not_waiting (paired : Paired state) (idle : ¬ state.point.IsWaiting) :
    Quiet state := by
  apply paired.quiet
  by_contra waits
  exact idle (isWaiting_iff.mpr waits)

/-- A request that the MAC holds is the one the task waits for. -/
theorem Paired.of_outstanding (paired : Paired state) (mem : (request, kind) ∈ state.outstanding) :
    state.point.request = some (request, kind) ∧ state.outstanding = [(request, kind)] ∧
      state.HoldsResponses [] := by
  cases waits : state.point.request with
  | none =>
      rw [(paired.quiet waits).outstanding] at mem
      cases mem
  | some entry =>
      obtain ⟨waiting, waitingKind⟩ := entry
      cases paired.pending waiting waitingKind waits with
      | outstanding outstanding queue =>
          rw [outstanding, List.mem_singleton] at mem
          cases mem
          exact ⟨rfl, outstanding, queue⟩
      | answered response outstanding _ _ _ =>
          rw [outstanding] at mem
          cases mem

/-- Steps that concern other queues. -/
structure SameRequests (state final : RtosState kernel) : Prop where
  point : final.point = state.point
  queue : final.xResponseQueue = state.xResponseQueue
  outstanding : final.outstanding = state.outstanding
  dropped : final.dropped = state.dropped
  dequeued : final.dequeued = state.dequeued
  sendReturns : final.sendReturns = state.sendReturns

theorem SameRequests.refl : SameRequests state state :=
  ⟨rfl, rfl, rfl, rfl, rfl, rfl⟩

theorem SameRequests.sendEvent (same : SameRequests state final) (event : LoRaWANEventInfo) :
    SameRequests state (sendEvent event final) :=
  ⟨same.point, same.queue, same.outstanding, same.dropped, same.dequeued, same.sendReturns⟩

theorem SameRequests.holds (same : SameRequests state final) {responses : List Response}
    (holds : state.HoldsResponses responses) : final.HoldsResponses responses := by
  rw [RtosState.HoldsResponses, same.queue]
  exact holds

theorem Paired.of_same (paired : Paired state) (same : SameRequests state final) :
    Paired final where
  dequeued := by
    rw [same.dequeued]
    exact paired.dequeued
  dropped := by rw [same.dropped, paired.dropped]
  acknowledged := by
    rw [same.sendReturns]
    exact paired.acknowledged
  quiet idle := by
    rw [same.point] at idle
    have quiet := paired.quiet idle
    exact ⟨by rw [same.outstanding, quiet.outstanding], same.holds quiet.queue⟩
  pending request kind waits := by
    rw [same.point] at waits
    cases paired.pending request kind waits with
    | outstanding outstanding queue =>
        apply Pending.outstanding
        · rw [same.outstanding, outstanding]
        · exact same.holds queue
    | answered response outstanding queue request answers =>
        apply Pending.answered response _ _ request answers
        · rw [same.outstanding, outstanding]
        · exact same.holds queue

theorem prvMcpsIndication_same (indication : McpsIndication) :
    SameRequests state (prvMcpsIndication indication state) := by
  have downlink : SameRequests state (sendDownlink indication state) := by
    rw [sendDownlink]
    split_ifs
    · exact ⟨rfl, rfl, rfl, rfl, rfl, rfl⟩
    · exact .refl
  rw [prvMcpsIndication]
  split_ifs
  · exact (downlink.sendEvent _).sendEvent _
  · exact downlink.sendEvent _
  · exact downlink.sendEvent _
  · exact downlink

theorem prvMlmeIndication_same (indication : MlmeIndication) :
    SameRequests state (prvMlmeIndication indication state) := by
  rw [prvMlmeIndication]
  split_ifs
  · exact SameRequests.refl.sendEvent _
  · exact .refl

/-- The confirms of other requests than a join. -/
theorem prvMlmeConfirm_same {confirm : MlmeConfirm} (other : confirm.mlmeRequest ≠ .join) :
    SameRequests state (prvMlmeConfirm request confirm state) := by
  rw [prvMlmeConfirm]
  cases kind : confirm.mlmeRequest with
  | join => exact absurd kind other
  | deviceTime => exact SameRequests.refl.sendEvent _
  | linkCheck => exact SameRequests.refl.sendEvent _
  | other value => exact .refl

/-- The confirm of the request that the task waits for is queued. -/
theorem Paired.confirm (documented : kernel.Documented) (paired : Paired state)
    (mem : (request, kind) ∈ state.outstanding)
    {response : Response} (same : response.request = request) (answers : Answers response kind) :
    Paired (sendResponse response (settle request state)) := by
  obtain ⟨waits, outstanding, queue⟩ := paired.of_outstanding mem
  have settled : (settle request state).outstanding = [] := by
    rw [settle, outstanding]
    simp
  obtain ⟨sent, queued⟩ := documented.sent response queue (by decide)
  have kept : (sendResponse response (settle request state)).dropped = [] := by
    change (if (kernel.xQueueSend state.xResponseQueue response).1 then _ else _) = _
    rw [if_pos sent]
    exact paired.dropped
  refine ⟨⟨paired.dequeued, kept, paired.acknowledged⟩, fun idle => ?_,
    fun waiting waitingKind waits' => ?_⟩
  · have none : some (request, kind) = none := waits.symm.trans idle
    cases none
  · have entry : some (waiting, waitingKind) = some (request, kind) := waits'.symm.trans waits
    cases entry
    exact .answered response settled queued same answers

/-- Where the task does not wait. -/
theorem Recorded.quiet (recorded : Recorded state) (quiet : Quiet state)
    (idle : state.point.request = none) : Paired state := by
  refine ⟨recorded, fun _ => quiet, fun request kind waits => ?_⟩
  rw [idle] at waits
  cases waits

/-- The task goes to a point where it does not wait. -/
theorem Paired.goto (paired : Paired state) (idle : ¬ state.point.IsWaiting) {point : TaskPoint}
    (next : point.request = none) : Paired { state with point := point } := by
  have quiet := paired.quiet_of_not_waiting idle
  exact Recorded.quiet ⟨paired.dequeued, paired.dropped, paired.acknowledged⟩
    ⟨quiet.outstanding, quiet.queue⟩ next

/-- `LoRaWAN_Join` returns. -/
theorem Recorded.joinReturn (recorded : Recorded state) (quiet : Quiet state)
    (status : LoRaMacStatus) : Paired (joinReturn status state) :=
  Recorded.quiet ⟨recorded.dequeued, recorded.dropped, recorded.acknowledged⟩
    ⟨quiet.outstanding, quiet.queue⟩ rfl

/-- `LoRaWAN_Join` returns before it waits. -/
theorem Paired.joinReturn (paired : Paired state) (idle : ¬ state.point.IsWaiting)
    (status : LoRaMacStatus) : Paired (joinReturn status state) :=
  paired.toRecorded.joinReturn (paired.quiet_of_not_waiting idle) status

/-- `LoRaWAN_Send` returns. -/
theorem Recorded.sendReturn (recorded : Recorded state) (quiet : Quiet state) {confirmed : Bool}
    {response : Option Response} {status : LoRaMacStatus}
    (acknowledged : confirmed = true → Acknowledged ⟨⟨confirmed, response⟩, status⟩) :
    Paired (sendReturn confirmed response status state) := by
  refine Recorded.quiet ⟨recorded.dequeued, recorded.dropped, fun result mem isConfirmed => ?_⟩
    ⟨quiet.outstanding, quiet.queue⟩ rfl
  rcases List.mem_append.mp mem with earlier | last
  · exact recorded.acknowledged result earlier isConfirmed
  · rw [List.mem_singleton] at last
    subst last
    exact acknowledged isConfirmed

/-- A call that returns without a response does not report success. -/
theorem Paired.sendRefused (paired : Paired state) (idle : ¬ state.point.IsWaiting)
    {status : LoRaMacStatus} (refused : status ≠ .ok) (confirmed : Bool) :
    Paired (sendReturn confirmed none status state) := by
  apply paired.toRecorded.sendReturn (paired.quiet_of_not_waiting idle)
  intro _
  refine ⟨fun success => absurd success refused, fun response none => ?_⟩
  cases none

/-- The MAC accepts a request. -/
theorem Paired.accept (paired : Paired state) (idle : ¬ state.point.IsWaiting)
    {point : ℕ → TaskPoint} (waits : (point state.accepted).request = some (state.accepted, kind)) :
    Paired (accept kind point state) := by
  have quiet := paired.quiet_of_not_waiting idle
  refine ⟨⟨paired.dequeued, paired.dropped, paired.acknowledged⟩, fun idle' => ?_,
    fun request kind' waits' => ?_⟩
  · have none : some (state.accepted, kind) = none := waits.symm.trans idle'
    cases none
  · have entry : some (request, kind') = some (state.accepted, kind) := waits'.symm.trans waits
    cases entry
    apply Pending.outstanding
    · rw [FreeRtos.accept, quiet.outstanding]
      rfl
    · exact quiet.queue

/-- A step of the task outside the queue. -/
theorem Paired.task (paired : Paired state) (outside : state.point ≠ .outside)
    (idle : ¬ state.point.IsWaiting) (status : LoRaMacStatus) :
    Paired (taskStep status state) := by
  rw [taskStep]
  cases point : state.point with
  | outside => exact absurd point outside
  | joinReceive xNumTries request =>
      rw [point] at idle
      exact absurd trivial idle
  | sendReceive confirmed request =>
      rw [point] at idle
      exact absurd trivial idle
  | joinDutyCycle xNumTries => exact paired.goto idle rfl
  | joinRetry xNumTries => exact paired.goto idle rfl
  | sendDutyCycle confirmed => exact paired.goto idle rfl
  | joinCredentials =>
      simp only
      split_ifs
      · exact paired.goto idle rfl
      · exact paired.joinReturn idle status
  | joinDatarate =>
      simp only
      split_ifs
      · exact paired.goto idle rfl
      · exact paired.joinReturn idle status
  | sendQuery confirmed =>
      simp only
      split_ifs with possible
      · exact paired.goto idle rfl
      · exact paired.sendRefused idle possible confirmed
  | joinRequest xNumTries =>
      cases status with
      | ok => exact paired.accept idle rfl
      | dutycycleRestricted => exact paired.goto idle rfl
      | error => exact paired.joinReturn idle .error
      | other value => exact paired.joinReturn idle (.other value)
  | sendRequest confirmed =>
      cases status with
      | ok => exact paired.accept idle rfl
      | dutycycleRestricted => exact paired.goto idle rfl
      | error => exact paired.sendRefused idle (by decide) confirmed
      | other value => exact paired.sendRefused idle (by simp) confirmed

/-- A response that says that a confirmed uplink was acknowledged, or not. -/
theorem Answers.acknowledged {response : Response} (answers : Answers response (.send .confirmed)) :
    Acknowledged ⟨⟨true, some response⟩, if response.status = .ok then .ok else .error⟩ := by
  obtain ⟨confirm, comes, isConfirmed, status⟩ := answers
  constructor
  · intro success
    refine ⟨response, rfl, confirm, comes, isConfirmed, ?_⟩
    by_contra missing
    rw [Bool.not_eq_true] at missing
    rw [McpsConfirm.reported, if_pos ⟨isConfirmed, missing⟩] at status
    simp only [status] at success
    cases success
  · intro response' given confirm' comes' missing
    cases given
    rw [comes] at comes'
    cases comes'
    rw [McpsConfirm.reported, if_pos ⟨isConfirmed, missing⟩] at status
    simp only [status]
    rfl

/-- A record of a response that the call waited for. -/
theorem Recorded.dequeue (recorded : Recorded state) {response : Response}
    (same : response.request = request) (rest : kernel.Queue Response) :
    Recorded { state with
      xResponseQueue := rest
      dequeued := state.dequeued ++ [⟨request, response⟩] } where
  dequeued entry mem := by
    rcases List.mem_append.mp mem with earlier | last
    · exact recorded.dequeued entry earlier
    · rw [List.mem_singleton] at last
      subst last
      exact same
  dropped := recorded.dropped
  acknowledged := recorded.acknowledged

/-- `LoRaWAN_Join` goes on with the status of its response. -/
theorem Recorded.joinResponse (recorded : Recorded state) (quiet : Quiet state) (xNumTries : ℕ)
    (status : EventInfoStatus) : Paired (joinResponse xNumTries status state) := by
  rw [FreeRtos.joinResponse]
  split_ifs
  · exact recorded.joinReturn quiet _
  · exact Recorded.quiet ⟨recorded.dequeued, recorded.dropped, recorded.acknowledged⟩
      ⟨quiet.outstanding, quiet.queue⟩ rfl
  · exact recorded.joinReturn quiet _

/-- The response that the task waits for is there. -/
theorem Pending.of_received (pending : Pending state request kind)
    (received : kernel.items state.xResponseQueue ≠ []) :
    ∃ response, state.outstanding = [] ∧ state.HoldsResponses [response] ∧
      response.request = request ∧ Answers response kind := by
  cases pending with
  | outstanding outstanding queue => exact absurd queue.items received
  | answered response outstanding queue same answers =>
      exact ⟨response, outstanding, queue, same, answers⟩

/-- The queue wakes the task. -/
theorem Paired.receive (documented : kernel.Documented) (paired : Paired state)
    (received : kernel.items state.xResponseQueue ≠ []) : Paired (receiveResponse state) := by
  cases point : state.point with
  | joinReceive xNumTries request =>
      have waits : state.point.request = some (request, .join) := by rw [point]; rfl
      obtain ⟨response, outstanding, queue, same, answers⟩ :=
        (paired.pending request .join waits).of_received received
      obtain ⟨rest, taken, left⟩ := documented.receive_cons queue
      simp only [receiveResponse, point, taken]
      exact (paired.toRecorded.dequeue same rest).joinResponse ⟨outstanding, left⟩ xNumTries _
  | sendReceive confirmed request =>
      have waits : state.point.request = some (request, .send (mcpsType confirmed)) := by
        rw [point]
        rfl
      obtain ⟨response, outstanding, queue, same, answers⟩ :=
        (paired.pending request _ waits).of_received received
      obtain ⟨rest, taken, left⟩ := documented.receive_cons queue
      simp only [receiveResponse, point, taken]
      apply (paired.toRecorded.dequeue same rest).sendReturn ⟨outstanding, left⟩
      intro isConfirmed
      subst isConfirmed
      exact answers.acknowledged
  | outside | joinCredentials | joinDatarate =>
      simpa only [receiveResponse, point] using paired
  | joinRequest _ | joinDutyCycle _ | joinRetry _ =>
      simpa only [receiveResponse, point] using paired
  | sendQuery _ | sendRequest _ | sendDutyCycle _ =>
      simpa only [receiveResponse, point] using paired

/-- Every event keeps the invariant. -/
theorem Paired.step (documented : kernel.Documented) (paired : Paired state) {event : RtosEvent}
    (enabled : rtosEnabled state event) : Paired (rtosStep event state) := by
  cases event with
  | callJoin =>
      have idle : ¬ state.point.IsWaiting := by
        rw [show state.point = .outside from enabled]
        exact id
      exact paired.goto idle rfl
  | callSend confirmed =>
      have idle : ¬ state.point.IsWaiting := by
        rw [show state.point = .outside from enabled]
        exact id
      exact paired.goto idle rfl
  | task status => exact paired.task enabled.1 enabled.2 status
  | receive => exact paired.receive documented enabled.2
  | confirmMlme request confirm =>
      by_cases join : confirm.mlmeRequest = .join
      · rw [rtosStep, if_pos join, prvMlmeConfirm, join]
        exact paired.confirm documented (enabled join) rfl ⟨confirm, rfl, join, rfl⟩
      · rw [rtosStep, if_neg join]
        exact paired.of_same (prvMlmeConfirm_same join)
  | confirmMcps request confirm =>
      exact paired.confirm documented enabled rfl ⟨confirm, rfl, rfl, rfl⟩
  | indicateMcps indication => exact paired.of_same (prvMcpsIndication_same indication)
  | indicateMlme indication => exact paired.of_same (prvMlmeIndication_same indication)

/-- The invariant holds in every run. -/
theorem paired_of_reaches (documented : kernel.Documented)
    (reaches : (rtosMachine kernel).Reaches (fun _ _ => True) (rtosInit kernel) state) :
    Paired state := by
  refine reaches.invariant (paired_init documented) ?_
  intro before event paired enabled _
  exact (wp_modify _ _ _).mpr (paired.step documented enabled)

end Tasks

/-- A join that fails once, with a link check in between, and a confirmed
uplink that is not acknowledged. -/
def joinAndSend : List RtosEvent :=
  [.callJoin, .task .ok, .task .ok, .task .dutycycleRestricted, .task .ok, .task .ok,
    .confirmMlme 0 ⟨.join, .joinFail, 0, 0⟩, .receive, .task .ok, .task .ok,
    .confirmMlme 7 ⟨.linkCheck, .ok, 20, 1⟩, .confirmMlme 1 ⟨.join, .ok, 0, 0⟩, .receive,
    .callSend true, .task .ok, .task .ok,
    .indicateMcps ⟨.ok, 1, 5, true, [1, 2], true, by decide⟩,
    .confirmMcps 2 ⟨.confirmed, .ok, false⟩, .receive]

end GenericNode.FreeRtos
