import GenericNode.Tracer.Transmit

/-!
# The vote of the tracer

STOP2 is entered exactly when every requester has enabled it, and never while
a transfer is under way: the transfer, or the one who prepares it, has a count
in the lock of its own.
-/

namespace GenericNode.Tracer

open GenericNode.Library
open GenericNode.Library.Prog
open GenericNode.Lpm

/-- What the low-power manager promises about the tracer. -/
structure TracerPromised (state : TracerState) : Prop where
  stop2 : gnseLpmEnterLowPower state.stopModeDisable = .stop2 ↔
    ∀ requester, mostRecentVote requester state.votes = .enable
  own : ∀ requester, Forbids state.stopModeDisable requester ↔
    mostRecentVote requester state.votes = .disable
  transmitting : state.inFlight ≠ none → Forbids state.stopModeDisable gnseLpmUartTracer ∧
    gnseLpmEnterLowPower state.stopModeDisable = .sleep
  entered : ∀ entry ∈ state.lowPower,
    (entry.mode = .stop2 ↔ ∀ requester, mostRecentVote requester entry.votes = .enable) ∧
      (entry.transmitting = true → entry.mode = .sleep)

/-! ## Counts -/

section Counts

variable {α : Type} {entries : List α} {index : ℕ} {entry : α}

/-- How much the entries of a list count together. -/
def total (count : α → ℕ) (entries : List α) : ℕ :=
  (entries.map count).sum

theorem total_append (count : α → ℕ) (first second : List α) :
    total count (first ++ second) = total count first + total count second := by
  rw [total, List.map_append, List.sum_append, total, total]

/-- Replacing an entry changes the total by what the two count. -/
theorem total_replaceAt (count : α → ℕ) (next : Option α) (here : entries[index]? = some entry) :
    total count (replaceAt entries index next) + count entry =
      total count entries + (next.elim 0 count) := by
  induction entries generalizing index with
  | nil => cases here
  | cons first rest ih =>
      cases index with
      | zero =>
          cases here
          cases next with
          | none => simp [replaceAt, total, Nat.add_comm]
          | some next => simp [replaceAt, total]; omega
      | succ index =>
          have moved : total count (replaceAt rest index next) + count entry =
              total count rest + next.elim 0 count := ih here
          have split : replaceAt (first :: rest) (index + 1) next =
              first :: replaceAt rest index next := rfl
          rw [split]
          simp only [total, List.map_cons, List.sum_cons] at moved ⊢
          omega

/-- An entry counts in the total. -/
theorem le_total (count : α → ℕ) (here : entries[index]? = some entry) :
    count entry ≤ total count entries := by
  have replaced := total_replaceAt count none here
  simp only [Option.elim] at replaced
  omega

end Counts

/-- A context that has locked the tracer. -/
def SendPoint.locks : SendPoint → ℕ
  | .allocate _ | .unlock _ | .preSendHook | .driverSend => 1
  | .lock _ | .traceSend => 0

/-- A context that prepares a transfer. -/
def SendPoint.prepares : SendPoint → ℕ
  | .preSendHook | .driverSend => 1
  | .lock _ | .allocate _ | .unlock _ | .traceSend => 0

/-- A context that hands a transfer to the UART driver. -/
def SendPoint.hands : SendPoint → ℕ
  | .driverSend => 1
  | .lock _ | .allocate _ | .unlock _ | .traceSend | .preSendHook => 0

/-- The transfer under way, its callback, and the transfers that were refused. -/
def TracerState.transfers (state : TracerState) : ℕ :=
  state.inFlight.toList.length + state.callback.toList.length + state.refused

/-- The vote of the tracer is needed. -/
def TracerState.Sending (state : TracerState) : Prop :=
  state.inFlight ≠ none ∨ 0 < total SendPoint.hands state.contexts ∨
    state.callback = some .start ∨ state.callback = some .driverSend

/-- The invariant of the tracer. -/
structure Sound (state : TracerState) : Prop where
  reflects : Reflects state.stopModeDisable state.votes
  lock : state.tracer.traceLock = total SendPoint.locks state.contexts + state.transfers
  single : total SendPoint.prepares state.contexts + state.transfers ≤ 1
  sending : state.Sending → Forbids state.stopModeDisable gnseLpmUartTracer
  entered : ∀ entry ∈ state.lowPower,
    (entry.mode = .stop2 ↔ ∀ requester, mostRecentVote requester entry.votes = .enable) ∧
      (entry.transmitting = true → entry.mode = .sleep)

theorem sound_boot (mode : GnseLpmMode) : Sound (tracerBoot mode) where
  reflects := reflects_init mode
  lock := rfl
  single := Nat.zero_le _
  sending sending := by
    rcases sending with inFlight | hands | start | handing
    · exact absurd rfl inFlight
    · exact absurd hands (Nat.lt_irrefl 0)
    · cases start
    · cases handing
  entered _ mem := absurd mem List.not_mem_nil

/-! ## The contexts -/

section Steps

variable {state : TracerState} {index : ℕ} {point : SendPoint}

theorem traceLock_traceAllocateBuffer (size : UInt16) (tracer : AdvTracerContext) :
    (tracer.traceAllocateBuffer size).2.traceLock = tracer.traceLock := by
  simp only [AdvTracerContext.traceAllocateBuffer, AdvTracerContext.unchunk]
  split_ifs <;> rfl

theorem traceLock_nextChunk (tracer : AdvTracerContext) :
    tracer.nextChunk.traceLock = tracer.traceLock := by
  simp only [AdvTracerContext.nextChunk, AdvTracerContext.detectedChunk]
  split_ifs <;> rfl

theorem traceLock_chunkSent (tracer : AdvTracerContext) :
    tracer.chunkSent.traceLock = tracer.traceLock := by
  rw [AdvTracerContext.chunkSent]
  split_ifs <;> rfl

/-- Who hands a transfer over prepares it, and who prepares it has locked. -/
theorem hands_le_prepares (contexts : List SendPoint) :
    total SendPoint.hands contexts ≤ total SendPoint.prepares contexts := by
  induction contexts with
  | nil => exact Nat.le_refl _
  | cons point contexts ih =>
      have point_le : point.hands ≤ point.prepares := by
        cases point <;> first | exact Nat.le_refl _ | exact Nat.zero_le _
      exact Nat.add_le_add point_le ih

theorem prepares_le_locks (contexts : List SendPoint) :
    total SendPoint.prepares contexts ≤ total SendPoint.locks contexts := by
  induction contexts with
  | nil => exact Nat.le_refl _
  | cons point contexts ih =>
      have point_le : point.prepares ≤ point.locks := by
        cases point <;> first | exact Nat.le_refl _ | exact Nat.zero_le _
      exact Nat.add_le_add point_le ih

/-- What a section changes of the counts. -/
structure Counted (state : TracerState) (contexts : List SendPoint) (tracer : AdvTracerContext) :
    Prop where
  lock : tracer.traceLock = total SendPoint.locks contexts + state.transfers
  single : total SendPoint.prepares contexts + state.transfers ≤ 1
  hands : total SendPoint.hands contexts ≤ total SendPoint.hands state.contexts

/-- A section that changes the tracer, and leaves the vote. -/
theorem Sound.section (sound : Sound state) {contexts : List SendPoint}
    {tracer : AdvTracerContext} (counted : Counted state contexts tracer) :
    Sound { state with tracer := tracer, contexts := contexts } := by
  refine ⟨sound.reflects, counted.lock, counted.single, fun sending => ?_, sound.entered⟩
  apply sound.sending
  rcases sending with inFlight | hands | callback
  · exact .inl inFlight
  · exact .inr (.inl (Nat.lt_of_lt_of_le hands counted.hands))
  · exact .inr (.inr callback)

/-- The sections of a context before `TRACE_Send`. -/
theorem Sound.fill (sound : Sound state) (here : state.contexts[index]? = some point)
    {next : Option SendPoint} {tracer : AdvTracerContext}
    (idle : point.prepares = 0 ∧ next.elim 0 SendPoint.prepares = 0)
    (lock : tracer.traceLock + point.locks =
      state.tracer.traceLock + next.elim 0 SendPoint.locks) :
    Sound { state with tracer := tracer, contexts := replaceAt state.contexts index next } := by
  have locks := total_replaceAt SendPoint.locks next here
  have prepares := total_replaceAt SendPoint.prepares next here
  have hands := total_replaceAt SendPoint.hands next here
  have handed : point.hands = 0 ∧ next.elim 0 SendPoint.hands = 0 := by
    have below : ∀ point : SendPoint, point.hands ≤ point.prepares := by
      intro point
      cases point <;> first | exact Nat.le_refl _ | exact Nat.zero_le _
    constructor
    · have := below point
      omega
    · cases next with
      | none => rfl
      | some next =>
          have := below next
          simp only [Option.elim] at idle ⊢
          omega
  have before := sound.lock
  have single := sound.single
  apply sound.section
  constructor
  · omega
  · omega
  · omega

/-- `TRACE_Send` begins a transfer only when nobody has locked the tracer. -/
theorem Sound.traceSend (sound : Sound state) (here : state.contexts[index]? = some .traceSend) :
    Sound { state.traceSend.1 with
      contexts := replaceAt state.contexts index state.traceSend.2 } := by
  by_cases sends : state.tracer.traceLock = 0 ∧ state.tracer.traceRdPtr ≠ state.tracer.traceWrPtr
  · simp only [TracerState.traceSend, if_pos sends]
    have locks := total_replaceAt SendPoint.locks (some .preSendHook) here
    have prepares := total_replaceAt SendPoint.prepares (some .preSendHook) here
    have hands := total_replaceAt SendPoint.hands (some .preSendHook) here
    simp only [Option.elim, SendPoint.locks, SendPoint.prepares, SendPoint.hands] at locks prepares hands
    have free := sound.lock
    have below := prepares_le_locks state.contexts
    rw [sends.1] at free
    apply sound.section
    constructor
    · have locked : state.tracer.traceLocked.nextChunk.traceLock = state.tracer.traceLock + 1 :=
        traceLock_nextChunk _
      omega
    · omega
    · omega
  · simp only [TracerState.traceSend, if_neg sends]
    exact sound.fill here ⟨rfl, rfl⟩ rfl

/-- The hook before the transfer votes for the tracer. -/
theorem Sound.preSendHook (sound : Sound state)
    (here : state.contexts[index]? = some .preSendHook) :
    Sound { advTracerPreSendHook state with
      contexts := replaceAt state.contexts index (some .driverSend) } := by
  have locks := total_replaceAt SendPoint.locks (some .driverSend) here
  have prepares := total_replaceAt SendPoint.prepares (some .driverSend) here
  simp only [Option.elim, SendPoint.locks, SendPoint.prepares] at locks prepares
  have lock := sound.lock
  have single := sound.single
  constructor
  · exact sound.reflects.vote gnseLpmUartTracer .disable
  · change state.tracer.traceLock = total SendPoint.locks
      (replaceAt state.contexts index (some .driverSend)) + state.transfers
    omega
  · change total SendPoint.prepares (replaceAt state.contexts index (some .driverSend)) +
      state.transfers ≤ 1
    omega
  · exact fun _ => forbids_setStopMode.mpr rfl
  · exact sound.entered

/-- The transfer is handed to the driver by a context that holds the lock. -/
theorem Sound.handOver (sound : Sound state)
    (here : state.contexts[index]? = some .driverSend) (accepts : Bool) :
    Sound { vcomTraceDma accepts state with
      contexts := replaceAt state.contexts index none } := by
  have locks := total_replaceAt SendPoint.locks none here
  have prepares := total_replaceAt SendPoint.prepares none here
  have hands := le_total SendPoint.hands here
  have prepared := le_total SendPoint.prepares here
  simp only [Option.elim, SendPoint.locks, SendPoint.prepares, SendPoint.hands]
    at locks prepares hands prepared
  have lock := sound.lock
  have single := sound.single
  have voted : Forbids state.stopModeDisable gnseLpmUartTracer := sound.sending (.inr (.inl hands))
  by_cases starts : state.inFlight = none ∧ state.tracer.traceSentSize ≠ 0 ∧ accepts = true
  · rw [vcomTraceDma, if_pos starts]
    have transfers : state.transfers = state.callback.toList.length + state.refused := by
      simp [TracerState.transfers, starts.1]
    constructor
    · exact sound.reflects
    · change state.tracer.traceLock = total SendPoint.locks (replaceAt state.contexts index none) +
        (1 + state.callback.toList.length + state.refused)
      omega
    · change total SendPoint.prepares (replaceAt state.contexts index none) +
        (1 + state.callback.toList.length + state.refused) ≤ 1
      omega
    · exact fun _ => voted
    · exact sound.entered
  · rw [vcomTraceDma, if_neg starts]
    have transfers : state.transfers = state.inFlight.toList.length +
        state.callback.toList.length + state.refused := rfl
    constructor
    · exact sound.reflects
    · change state.tracer.traceLock = total SendPoint.locks (replaceAt state.contexts index none) +
        (state.inFlight.toList.length + state.callback.toList.length + (state.refused + 1))
      omega
    · change total SendPoint.prepares (replaceAt state.contexts index none) +
        (state.inFlight.toList.length + state.callback.toList.length + (state.refused + 1)) ≤ 1
      omega
    · exact fun _ => voted
    · exact sound.entered

/-- A section of a context. -/
theorem Sound.context (sound : Sound state) (here : state.contexts[index]? = some point)
    (accepts : Bool) :
    Sound { (point.run accepts state).1 with
      contexts := replaceAt state.contexts index (point.run accepts state).2 } := by
  cases point with
  | lock size => exact sound.fill here ⟨rfl, rfl⟩ rfl
  | allocate size =>
      have lock := traceLock_traceAllocateBuffer size state.tracer
      exact sound.fill here ⟨rfl, rfl⟩ (congrArg (· + 1) lock)
  | unlock allocated =>
      have locks := le_total SendPoint.locks here
      have lock := sound.lock
      have held : 1 ≤ state.tracer.traceLock := by
        simp only [SendPoint.locks] at locks
        omega
      have unlocked : state.tracer.traceUnlocked.traceLock + 1 = state.tracer.traceLock :=
        Nat.sub_add_cancel held
      cases allocated with
      | true => exact sound.fill here ⟨rfl, rfl⟩ unlocked
      | false => exact sound.fill here ⟨rfl, rfl⟩ unlocked
  | traceSend => exact sound.traceSend here
  | preSendHook => exact sound.preSendHook here
  | driverSend => exact sound.handOver here accepts

/-! ## The callback -/

/-- While the callback runs, no transfer is under way and no context prepares one. -/
theorem Sound.callback_alone (sound : Sound state) {point : CallbackPoint}
    (runs : state.callback = some point) :
    state.inFlight = none ∧ state.refused = 0 ∧ total SendPoint.prepares state.contexts = 0 ∧
      state.tracer.traceLock = total SendPoint.locks state.contexts + 1 := by
  have single := sound.single
  have lock := sound.lock
  simp only [TracerState.transfers, runs, Option.toList_some, List.length_singleton] at single lock
  have none : state.inFlight.toList.length = 0 := by omega
  have idle : state.inFlight = .none := by simpa using none
  refine ⟨idle, ?_, ?_, ?_⟩
  · omega
  · omega
  · omega

/-- The callback prepares the next chunk under the same vote, or gives it back. -/
theorem Sound.callback_start (sound : Sound state) (runs : state.callback = some .start) :
    Sound (traceTxCpltCallback state) := by
  obtain ⟨idle, refused, prepares, lock⟩ := sound.callback_alone runs
  have hands : total SendPoint.hands state.contexts ≤ 0 := by
    rw [← prepares]
    exact hands_le_prepares state.contexts
  have transfers : state.transfers = 1 := by
    simp [TracerState.transfers, runs, idle, refused]
  have voted : Forbids state.stopModeDisable gnseLpmUartTracer :=
    sound.sending (.inr (.inr (.inl runs)))
  rw [traceTxCpltCallback]
  split_ifs with chunk
  · constructor
    · exact sound.reflects
    · change state.tracer.chunkSent.nextChunk.traceLock = _ +
        (state.inFlight.toList.length + 1 + state.refused)
      rw [traceLock_nextChunk, traceLock_chunkSent, lock, idle, refused]
      rfl
    · change total SendPoint.prepares state.contexts +
        (state.inFlight.toList.length + 1 + state.refused) ≤ 1
      rw [prepares, idle, refused]
      exact Nat.le_refl 1
    · exact fun _ => voted
    · exact sound.entered
  · constructor
    · exact sound.reflects.vote gnseLpmUartTracer .enable
    · change state.tracer.chunkSent.traceLock = _ +
        (state.inFlight.toList.length + 1 + state.refused)
      rw [traceLock_chunkSent, lock, idle, refused]
      rfl
    · change total SendPoint.prepares state.contexts +
        (state.inFlight.toList.length + 1 + state.refused) ≤ 1
      rw [prepares, idle, refused]
      exact Nat.le_refl 1
    · intro sending
      rcases sending with inFlight | handed | start | handing
      · exact absurd idle inFlight
      · exact absurd handed (not_lt.mpr hands)
      · cases start
      · cases handing
    · exact sound.entered

theorem Sound.callback_driverSend (sound : Sound state)
    (runs : state.callback = some .driverSend) (accepts : Bool) :
    Sound { vcomTraceDma accepts state with callback := none } := by
  obtain ⟨idle, refused, prepares, lock⟩ := sound.callback_alone runs
  have voted : Forbids state.stopModeDisable gnseLpmUartTracer :=
    sound.sending (.inr (.inr (.inr runs)))
  rw [vcomTraceDma]
  split_ifs with starts
  · constructor
    · exact sound.reflects
    · change state.tracer.traceLock = _ + (1 + 0 + state.refused)
      rw [lock, refused]
    · change total SendPoint.prepares state.contexts + (1 + 0 + state.refused) ≤ 1
      rw [prepares, refused]
    · exact fun _ => voted
    · exact sound.entered
  · constructor
    · exact sound.reflects
    · change state.tracer.traceLock = _ +
        (state.inFlight.toList.length + 0 + (state.refused + 1))
      rw [lock, idle, refused]
      rfl
    · change total SendPoint.prepares state.contexts +
        (state.inFlight.toList.length + 0 + (state.refused + 1)) ≤ 1
      rw [prepares, idle, refused]
      exact Nat.le_refl 1
    · exact fun _ => voted
    · exact sound.entered

theorem Sound.callback_unlock (sound : Sound state) (runs : state.callback = some .unlock) :
    Sound { state with tracer := state.tracer.traceUnlocked, callback := none } := by
  obtain ⟨idle, refused, prepares, lock⟩ := sound.callback_alone runs
  have hands : total SendPoint.hands state.contexts ≤ 0 := by
    rw [← prepares]
    exact hands_le_prepares state.contexts
  constructor
  · exact sound.reflects
  · change state.tracer.traceLock - 1 = _ + (state.inFlight.toList.length + 0 + state.refused)
    rw [lock, idle, refused]
    rfl
  · change total SendPoint.prepares state.contexts +
      (state.inFlight.toList.length + 0 + state.refused) ≤ 1
    rw [prepares, idle, refused]
    exact Nat.zero_le 1
  · intro sending
    rcases sending with inFlight | handed | start | handing
    · exact absurd idle inFlight
    · exact absurd handed (not_lt.mpr hands)
    · cases start
    · cases handing
  · exact sound.entered

theorem Sound.callback (sound : Sound state) {point : CallbackPoint}
    (runs : state.callback = some point) (accepts : Bool) : Sound (point.run accepts state) := by
  cases point with
  | start => exact sound.callback_start runs
  | driverSend => exact sound.callback_driverSend runs accepts
  | unlock => exact sound.callback_unlock runs

/-- The completion interrupt takes over the count of the transfer. -/
theorem Sound.complete (sound : Sound state) (inFlight : state.inFlight ≠ none)
    (idle : state.callback = none) :
    Sound { state with inFlight := none, callback := some .start } := by
  have voted := sound.sending (.inl inFlight)
  have transfers : state.transfers = 0 + 1 + state.refused := by
    obtain ⟨transfer, flies⟩ := Option.ne_none_iff_exists'.mp inFlight
    simp [TracerState.transfers, flies, idle]
  have lock := sound.lock
  have single := sound.single
  rw [transfers] at lock single
  exact ⟨sound.reflects, lock, single, fun _ => voted, sound.entered⟩

/-! ## The low-power manager -/

/-- The vote of another requester leaves the vote of the tracer. -/
theorem Sound.vote (sound : Sound state) {requester : GnseLpmId}
    (other : requester ≠ gnseLpmUartTracer) (vote : GnseLpmState) :
    Sound (castVote requester vote state) := by
  refine ⟨sound.reflects.vote requester vote, sound.lock, sound.single, fun sending => ?_,
    sound.entered⟩
  exact (forbids_setStopMode_other (Ne.symm other)).mpr (sound.sending sending)

/-- A new trace has no count yet. -/
theorem Sound.send (sound : Sound state) (size : UInt16) :
    Sound { state with contexts := state.contexts ++ [.lock size] } := by
  have unchanged (count : SendPoint → ℕ) (zero : count (.lock size) = 0) :
      total count (state.contexts ++ [.lock size]) = total count state.contexts := by
    rw [total_append]
    simp [total, zero]
  constructor
  · exact sound.reflects
  · change state.tracer.traceLock = total SendPoint.locks _ + state.transfers
    rw [unchanged _ rfl]
    exact sound.lock
  · change total SendPoint.prepares _ + state.transfers ≤ 1
    rw [unchanged _ rfl]
    exact sound.single
  · intro sending
    apply sound.sending
    rcases sending with inFlight | hands | callback
    · exact .inl inFlight
    · rw [unchanged _ rfl] at hands
      exact .inr (.inl hands)
    · exact .inr (.inr callback)
  · exact sound.entered

theorem Sound.enterLowPower (sound : Sound state) :
    Sound { state with
      lowPower := state.lowPower ++
        [⟨gnseLpmEnterLowPower state.stopModeDisable, state.votes, state.inFlight.isSome⟩] } := by
  refine ⟨sound.reflects, sound.lock, sound.single, sound.sending, ?_⟩
  intro entry mem
  rcases List.mem_append.mp mem with before | now
  · exact sound.entered entry before
  · obtain rfl := List.mem_singleton.mp now
    refine ⟨sound.reflects.stop2_iff, fun transmitting => ?_⟩
    have inFlight : state.inFlight ≠ none := Option.isSome_iff_ne_none.mp transmitting
    exact (sound.sending (.inl inFlight)).not_stop2

/-- An event keeps the invariant. -/
theorem Sound.step (sound : Sound state) {event : TracerEvent}
    (enabled : tracerMachine.enabled state event) : Sound (tracerStep event state) := by
  cases event with
  | send size => exact sound.send size
  | context index accepts =>
      rw [tracerStep]
      cases here : state.contexts[index]? with
      | some point => exact sound.context here accepts
      | none => exact sound
  | complete => exact sound.complete enabled.1 enabled.2
  | callback accepts =>
      rw [tracerStep]
      cases runs : state.callback with
      | some point => exact sound.callback runs accepts
      | none => exact sound
  | vote requester vote => exact sound.vote enabled vote
  | enterLowPower => exact sound.enterLowPower

theorem Sound.promised (sound : Sound state) : TracerPromised state where
  stop2 := sound.reflects.stop2_iff
  own := sound.reflects
  transmitting inFlight :=
    have voted := sound.sending (.inl inFlight)
    ⟨voted, voted.not_stop2⟩
  entered := sound.entered

end Steps

/-- In every run the mode follows the votes, and the tracer forbids STOP2 while
a transfer is under way. -/
theorem tracer_promised {mode : GnseLpmMode} {state : TracerState}
    (reaches : tracerMachine.Reaches (fun _ _ => True) (tracerBoot mode) state) :
    TracerPromised state := by
  have sound : Sound state := by
    refine reaches.invariant (sound_boot mode) ?_
    intro before event sound enabled _
    exact (wp_modify _ _ _).mpr (sound.step enabled)
  exact sound.promised

/-- A trace whose transfer is under way while another is written and the idle
task runs, and the chunk that the completion then starts. -/
def chainedTraces : List TracerEvent :=
  [.send 100, .context 0 true, .context 0 true, .context 0 true, .context 0 true,
    .context 0 true, .context 0 true, .enterLowPower, .send 20, .context 0 true,
    .context 0 true, .context 0 true, .context 0 true, .vote gnseLpmTimBuzzer .disable,
    .vote gnseLpmTimBuzzer .enable, .complete, .callback true, .callback true, .enterLowPower]

/-- The second chunk is under way at the end of that run, and nothing else is. -/
theorem chainedTraces_promised :
    ∃ state : TracerState, state.inFlight = some ⟨100, 20⟩ ∧ state.contexts = [] ∧
      state.lowPower.map (·.mode) = [.sleep, .sleep] ∧ TracerPromised state := by
  have run : ∃ state, tracerMachine.replay (fun _ _ => True) chainedTraces
        (tracerBoot .sleepStop) = some state ∧
      state.inFlight = some ⟨100, 20⟩ ∧ state.contexts = [] ∧
      state.lowPower.map (·.mode) = [.sleep, .sleep] :=
    ⟨_, rfl, rfl, rfl, rfl⟩
  obtain ⟨state, replayed, inFlight, contexts, modes⟩ := run
  exact ⟨state, inFlight, contexts, modes, tracer_promised (Machine.reaches_of_replay _ replayed)⟩

end GenericNode.Tracer
