import GenericNode.LoRaMac.Delivery
import GenericNode.LoRaMac.Uplinks

/-!
# Uplinks over a run

For a device of class A every step leads from one phase to another.  So in
every run each frame on the air is encrypted and signed under its counter, and
no counter is used for two frames.
-/

namespace GenericNode.LoRaMac

open GenericNode.Library
open GenericNode.Library.Prog
open GenericNode.SecureElement

variable {σ κ : Type} {keys : σ → KeyIdentifier → κ} {cipher : KeyedCipher κ}
  {api : SecureElementApi σ}

/-! ## The events of the radio -/

/-- What the events of the radio leave for the uplinks. -/
structure Handled (ctx final : MacCtx σ) : Prop where
  session : final.session = ctx.session
  tx : final.tx = ctx.tx
  fCntUp : final.crypto.fCntList.fCntUp = ctx.crypto.fCntList.fCntUp
  delayTimer : final.timers.txDelayedTimer = ctx.timers.txDelayedTimer
  sound : final.Sound
  told : final.rxAbort = true → final.mcpsInd = true ∧ final.macDone = true
  stage : Stage final.view .none

@[simp]
theorem wp_onRaised_false (call : Prog (MacCtx σ) Unit) (post : Unit → MacCtx σ → Prop)
    (ctx : MacCtx σ) : wp (onRaised false call) post ctx ↔ post () ctx :=
  wp_pure _ _ _

@[simp]
theorem wp_onRaised_true (call : Prog (MacCtx σ) Unit) (post : Unit → MacCtx σ → Prop)
    (ctx : MacCtx σ) : wp (onRaised true call) post ctx ↔ wp call post ctx :=
  Iff.rfl

@[simp]
theorem wp_onReceived_none (maxPayload : ℕ) (post : Unit → MacCtx σ → Prop) (ctx : MacCtx σ) :
    wp (onReceived api maxPayload none) post ctx ↔ post () ctx :=
  wp_pure _ _ _

theorem wp_loRaMacHandleIrqEvents_handled (lawful : api.Lawful cipher keys)
    (conditions : ProcessConditions) {events : RadioEvents} {start : MacCtx σ} (ctx : MacCtx σ)
    (ready : start.session.Ready) (classA : start.session.deviceClass = .classA)
    (steady : Steady keys start ctx)
    (rxDone : ∀ payload size, events.rxDone = some (payload, size) → Receivable payload size)
    (stage : Stage ctx.view events) (calm : ctx.rxAbort = false) (slot : ctx.rxSlot ≠ .winClassC) :
    wp (loRaMacHandleIrqEvents api conditions events) (fun _ final => Handled ctx final) ctx := by
  have own : ctx.session.deviceClass = .classA := by
    rw [steady.session]
    exact classA
  have not_classC : ctx.session.deviceClass ≠ .classC := by
    rw [own]
    simp
  have unaborted : ¬ ctx.rxAbort = true := by
    rw [calm]
    simp
  have calm_sound : ctx.Sound := ⟨fun aborted => absurd aborted unaborted, fun _ => slot⟩
  -- Without an event nothing happens.
  have nothing : events = .none → Stage ctx.view .none →
      wp (loRaMacHandleIrqEvents api conditions events) (fun _ final => Handled ctx final) ctx := by
    rintro rfl stage
    simp only [loRaMacHandleIrqEvents, RadioEvents.none, wp_bind, wp_onRaised_false,
      wp_onReceived_none]
    exact ⟨rfl, rfl, rfl, rfl, calm_sound, fun aborted => absurd aborted unaborted, stage⟩
  have asleep : ∀ radio : Radio,
      (if ctx.session.deviceClass ≠ .classC then Radio.sleep else radio) = .sleep := by
    intro radio
    rw [if_pos not_classC]
  have no_slot : (if ctx.session.deviceClass ≠ .classC then LoRaMacRxSlot.none
      else .winClassC) = .none := if_pos not_classC
  cases stage with
  | sending radio window1 window2 none early =>
      exact nothing none (.sending radio window1 window2 rfl early)
  | waiting radio none early => exact nothing none (.waiting radio rfl early)
  | listening radio window1 window none early =>
      exact nothing none (.listening radio window1 window rfl early)
  | done quiet none late => exact nothing none (.done quiet rfl late)
  | sent irq during quiet raised early =>
      subst raised
      cases irq with
      | txDone =>
          simp only [loRaMacHandleIrqEvents, RadioEvents.raise, RadioEvents.none, wp_bind,
            wp_onRaised_false, wp_onRaised_true, wp_onReceived_none, processRadioTxDone,
            sleepUnlessClassC, wp_modify]
          exact ⟨rfl, rfl, rfl, rfl, ⟨calm_sound.abort, calm_sound.slot⟩,
            fun aborted => absurd aborted unaborted, .waiting (asleep _) rfl early⟩
      | txTimeout =>
          simp only [loRaMacHandleIrqEvents, RadioEvents.raise, RadioEvents.none, wp_bind,
            wp_onRaised_false, wp_onRaised_true, wp_onReceived_none, processRadioTxTimeout,
            sleepUnlessClassC, updateRxSlotIdleState, wp_modify]
          refine ⟨rfl, rfl, rfl, rfl, ⟨fun aborted => absurd aborted unaborted, fun _ => ?_⟩,
            fun aborted => absurd aborted unaborted,
            .done ⟨asleep _, quiet.window1, quiet.window2⟩ rfl rfl⟩
          rw [no_slot]
          simp
      | _ => cases during
  | heard irq during radio window1 window raised early =>
      subst raised
      have failed : ∀ rx1EventInfoStatus rx2EventInfoStatus : LoRaMacEventInfoStatus,
          wp (handleRadioRxErrorTimeout rx1EventInfoStatus rx2EventInfoStatus
            conditions.window2Passed) (fun _ final => Handled ctx final) ctx := by
        intro rx1EventInfoStatus rx2EventInfoStatus
        simp only [handleRadioRxErrorTimeout, sleepUnlessClassC, updateRxSlotIdleState, wp_bind,
          wp_modify, wp_gets]
        split
        · simp only [wp_bind, wp_modify]
          refine ⟨rfl, rfl, rfl, rfl, ⟨fun aborted => absurd aborted unaborted, fun _ => ?_⟩,
            fun aborted => absurd aborted unaborted, ?_⟩
          · rw [no_slot]
            simp
          · cases passed : conditions.window2Passed with
            | true =>
                exact .done ⟨rfl, window1, by simp [MacCtx.view]⟩ rfl (by simp [MacCtx.view])
            | false => exact .waiting rfl rfl (by simpa [MacCtx.view] using early)
        · rename_i other
          simp only [wp_bind, wp_modify]
          refine ⟨rfl, rfl, rfl, rfl, ⟨fun aborted => absurd aborted unaborted, fun _ => ?_⟩,
            fun aborted => absurd aborted unaborted, .done ⟨rfl, window1, ?_⟩ rfl ?_⟩
          · rw [no_slot]
            simp
          · exact window.resolve_left other
          · simp [MacCtx.view, not_classC]
      cases irq with
      | rxDone payload size =>
          have receivable := rxDone payload size rfl
          simp only [loRaMacHandleIrqEvents, RadioEvents.raise, RadioEvents.none, wp_bind,
            wp_onRaised_false]
          refine wp_mono (wp_processRadioRxDone lawful conditions.maxPayload ctx
            (by rw [steady.session]; exact ready.joined) receivable.nonempty receivable.small
            receivable.inside steady.rxPayload) ?_
          rintro _ final ⟨kept, ⟨mcpsInd, macDone⟩, -⟩
          have receiving : ctx.receiving.Sound := ⟨calm_sound.abort, calm_sound.slot⟩
          exact ⟨kept.session, kept.tx, kept.fCntUp, kept.txDelayedTimer, kept.sound receiving,
            fun _ => ⟨mcpsInd, macDone⟩, .done ⟨kept.radio, kept.rxWindowTimer1.trans window1,
              kept.rxWindowTimer2⟩ rfl macDone⟩
      | rxError =>
          simp only [loRaMacHandleIrqEvents, RadioEvents.raise, RadioEvents.none, wp_bind,
            wp_onRaised_false, wp_onRaised_true, wp_onReceived_none]
          exact failed .rx1Error .rx2Error
      | rxTimeout =>
          simp only [loRaMacHandleIrqEvents, RadioEvents.raise, RadioEvents.none, wp_bind,
            wp_onRaised_false, wp_onRaised_true, wp_onReceived_none]
          exact failed .rx1Timeout .rx2Timeout
      | _ => cases during

/-! ## What holds between two steps -/

/-- A message of the upper layer. -/
structure Asked (tx : MacTx) : Prop where
  mcpsReq : tx.mcpsReq = true
  service : tx.mcpsRequest = if tx.nodeAckRequested then .confirmed else .unconfirmed

/-- What holds of the uplinks of a context and the events that wait for it. -/
structure UplinkInv (cipher : KeyedCipher κ) (keys : σ → KeyIdentifier → κ) (start : MacCtx σ)
    (ctx : MacCtx σ) (events : RadioEvents) (log : List (UInt32 × DataFrame)) : Prop where
  logged : UplinkLog cipher (keys start.crypto.se) start.session.devAddr
    start.crypto.fCntList.fCntUp ctx.crypto.fCntList.fCntUp ctx.tx.air log
  phase : Phase cipher (keys start.crypto.se) start.session.devAddr log ctx.view events
  asked : ctx.isBusy = true → Asked ctx.tx
  rxAbort : ctx.rxAbort = false
  rxSlot : ctx.rxSlot ≠ .winClassC

/-- What holds when some log fits. -/
def UplinkHolds (cipher : KeyedCipher κ) (keys : σ → KeyIdentifier → κ) (start ctx : MacCtx σ)
    (events : RadioEvents) : Prop :=
  ∃ log, UplinkInv cipher keys start ctx events log

section Steps

variable {start ctx final : MacCtx σ} {events : RadioEvents} {log : List (UInt32 × DataFrame)}

/-- A step that leaves what the uplinks depend on. -/
theorem UplinkInv.of_view (inv : UplinkInv cipher keys start ctx events log)
    (view : final.view = ctx.view) (air : final.tx.air = ctx.tx.air)
    (mcpsReq : final.tx.mcpsReq = ctx.tx.mcpsReq)
    (mcpsRequest : final.tx.mcpsRequest = ctx.tx.mcpsRequest)
    (rxAbort : final.rxAbort = ctx.rxAbort) : UplinkInv cipher keys start final events log := by
  have fCntUp : final.crypto.fCntList.fCntUp = ctx.crypto.fCntList.fCntUp :=
    congrArg UplinkView.fCntUp view
  have nodeAckRequested : final.tx.nodeAckRequested = ctx.tx.nodeAckRequested :=
    congrArg UplinkView.confirmed view
  have txRunning : final.tx.txRunning = ctx.tx.txRunning := congrArg UplinkView.txRunning view
  have txDelayed : final.tx.txDelayed = ctx.tx.txDelayed := congrArg UplinkView.txDelayed view
  have rxSlot : final.rxSlot = ctx.rxSlot := congrArg UplinkView.rxSlot view
  constructor
  · rw [fCntUp, air]
    exact inv.logged
  · rw [view]
    exact inv.phase
  · intro busy
    rw [MacCtx.isBusy, txRunning, txDelayed, rxAbort] at busy
    rcases inv.asked busy with ⟨req, service⟩
    exact ⟨mcpsReq.trans req, by rw [mcpsRequest, nodeAckRequested]; exact service⟩
  · exact rxAbort.trans inv.rxAbort
  · rw [rxSlot]
    exact inv.rxSlot

/-- A device that has nothing to send and waits for nothing. -/
structure Settled (ctx : MacCtx σ) : Prop where
  quiet : ctx.view.Quiet
  stopped : ctx.tx.txRunning = false
  prompt : ctx.tx.txDelayed = false
  timer : ctx.timers.txDelayedTimer = false
  unsent : ctx.tx.channelsNbTransCounter = 0
  rxAbort : ctx.rxAbort = false
  rxSlot : ctx.rxSlot ≠ .winClassC

theorem Settled.isBusy (settled : Settled ctx) : ctx.isBusy = false := by
  rw [MacCtx.isBusy, settled.stopped, settled.prompt, settled.rxAbort]
  rfl

/-- A device that is settled is idle. -/
theorem Settled.uplinks (settled : Settled ctx) (early : ctx.macDone = false)
    (logged : UplinkLog cipher (keys start.crypto.se) start.session.devAddr
      start.crypto.fCntList.fCntUp ctx.crypto.fCntList.fCntUp ctx.tx.air log) :
    UplinkInv cipher keys start ctx .none log where
  logged := logged
  phase := .idle settled.quiet rfl early settled.stopped settled.prompt settled.timer settled.unsent
  asked busy := by
    rw [settled.isBusy] at busy
    cases busy
  rxAbort := settled.rxAbort
  rxSlot := settled.rxSlot

/-- A device that is not busy is settled. -/
theorem UplinkInv.settled (inv : UplinkInv cipher keys start ctx events log)
    (idle : ctx.isBusy = false) : events = .none ∧ ctx.macDone = false ∧ Settled ctx := by
  simp only [MacCtx.isBusy, Bool.or_eq_false_iff] at idle
  rcases idle with ⟨⟨not_running, not_delayed⟩, -⟩
  cases inv.phase with
  | idle quiet none early stopped prompt timer unsent =>
      exact ⟨none, early, quiet, stopped, prompt, timer, unsent, inv.rxAbort, inv.rxSlot⟩
  | delayed _ _ _ delayed _ =>
      rw [show ctx.tx.txDelayed = true from delayed] at not_delayed
      cases not_delayed
  | active _ running _ _ _ _ _ =>
      rw [show ctx.tx.txRunning = true from running] at not_running
      cases not_running

/-- What is given up leaves the device settled. -/
theorem GivenUp.settled (givenUp : GivenUp ctx final) (quiet : ctx.view.Quiet)
    (prompt : ctx.tx.txDelayed = false) (timer : ctx.timers.txDelayedTimer = false)
    (rxAbort : ctx.rxAbort = false) (rxSlot : ctx.rxSlot ≠ .winClassC) :
    Settled final ∧ final.macDone = ctx.macDone ∧ final.tx.air = ctx.tx.air ∧
      final.crypto = ctx.crypto := by
  rcases givenUp.tx with ⟨nbRetries, tx⟩
  rcases givenUp.rest with ⟨confirmStatus, rest⟩
  rw [tx] at rest
  subst rest
  exact ⟨⟨⟨quiet.radio, quiet.window1, quiet.window2⟩, rfl, prompt, timer, rfl, rxAbort, rxSlot⟩,
    rfl, rfl, rfl⟩

/-- A request. -/
theorem Requested.uplinks {request : McpsReq}
    (requested : Requested cipher keys request ctx final) (steady : Steady keys start ctx)
    (inv : UplinkInv cipher keys start ctx events log) :
    UplinkHolds cipher keys start final events := by
  cases requested with
  | busy _ => exact ⟨log, inv⟩
  | invalid idle =>
      rcases inv.settled idle with ⟨rfl, early, settled⟩
      refine ⟨log, Settled.uplinks ?_ early inv.logged⟩
      exact ⟨⟨settled.quiet.radio, settled.quiet.window1, settled.quiet.window2⟩, settled.stopped,
        settled.prompt, settled.timer, settled.unsent, settled.rxAbort, settled.rxSlot⟩
  | refused idle prepared holds bad done =>
      rcases inv.settled idle with ⟨rfl, early, settled⟩
      cases done with
      | refused _ _ txMsg _ _ _ =>
          refine ⟨log, Settled.uplinks ?_ early inv.logged⟩
          exact ⟨⟨settled.quiet.radio, settled.quiet.window1, settled.quiet.window2⟩,
            settled.stopped, settled.prompt, settled.timer, settled.unsent, settled.rxAbort,
            settled.rxSlot⟩
      | _ => exact absurd rfl bad
  | taken idle prepared holds done =>
      rcases inv.settled idle with ⟨rfl, early, settled⟩
      rename_i txMsg frame scheduled
      have loaded : Loaded cipher (keys start.crypto.se) start.session.devAddr log
          (ctx.requested request txMsg).view := by
        apply Loaded.fresh holds
        · rw [← holds.devAddr, prepared.devAddr, steady.session]
        · rw [← holds.fCnt, prepared.fCnt]
          rfl
        · exact settled.unsent
        · rfl
        · exact settled.stopped
        · intro confirmed
          have asked : request.confirmed = true := confirmed
          simp only [MacCtx.view, MacCtx.requested, MacTx.preparedAs, MacTx.resetFor, asked,
            ↓reduceIte]
          exact min_le_right _ _
      rcases done.phase steady.crypto.keys ⟨settled.quiet.radio, settled.quiet.window1,
        settled.quiet.window2⟩ early settled.prompt settled.timer loaded holds inv.logged with
        ⟨longer, logged, phase⟩
      have left := done.unscheduled
      refine ⟨longer, logged, phase, fun _ => ⟨rfl, ?_⟩, left.rxAbort.trans inv.rxAbort, ?_⟩
      · have ack : scheduled.tx.nodeAckRequested = request.confirmed := left.nodeAckRequested
        simp only [ack]
      · rw [show _ = ctx.rxSlot from left.rxSlot]
        exact inv.rxSlot

/-- A loaded message of a quiet device goes onto the air, is put off or is given
up. -/
theorem SentLater.uplinks {frame : DataFrame} (sent : SentLater cipher keys ctx frame final)
    (steady : Steady keys start ctx) (quiet : ctx.view.Quiet) (early : ctx.macDone = false)
    (loaded : Loaded cipher (keys start.crypto.se) start.session.devAddr log ctx.view)
    (holds : ctx.tx.txMsg.Holds frame)
    (logged : UplinkLog cipher (keys start.crypto.se) start.session.devAddr
      start.crypto.fCntList.fCntUp ctx.crypto.fCntList.fCntUp ctx.tx.air log)
    (asked : Asked ctx.tx) (rxAbort : ctx.rxAbort = false) (rxSlot : ctx.rxSlot ≠ .winClassC) :
    UplinkHolds cipher keys start final .none := by
  have undelayed : Loaded cipher (keys start.crypto.se) start.session.devAddr log
      ctx.undelayed.view := loaded.put_off false false holds holds
  have quiet_too : ctx.undelayed.view.Quiet := ⟨quiet.radio, quiet.window1, quiet.window2⟩
  cases sent with
  | scheduled done =>
      rcases done.phase steady.crypto.keys quiet_too early rfl rfl undelayed holds logged with
        ⟨longer, more, phase⟩
      have left := done.unscheduled
      refine ⟨longer, more, phase, fun _ => ⟨?_, ?_⟩, left.rxAbort.trans rxAbort, ?_⟩
      · rw [left.mcpsReq]
        exact asked.mcpsReq
      · rw [left.mcpsRequest, left.nodeAckRequested]
        exact asked.service
      · rw [left.rxSlot]
        exact rxSlot
  | stopped bad done givenUp =>
      cases done with
      | refused _ _ txMsg _ _ _ =>
          rcases givenUp.settled ⟨quiet.radio, quiet.window1, quiet.window2⟩ rfl rfl rxAbort rxSlot
            with ⟨settled, macDone, air, crypto⟩
          refine ⟨log, settled.uplinks (macDone.trans early) ?_⟩
          rw [air, crypto]
          exact logged
      | _ => exact absurd rfl bad

/-- When a message was put off, its timer brings it onto the air. -/
theorem SentLater.delayed {frame : DataFrame} (sent : SentLater cipher keys ctx frame final)
    (steady : Steady keys start ctx) (timer : ctx.timers.txDelayedTimer = true)
    (holds : ctx.tx.txMsg.Holds frame) (inv : UplinkInv cipher keys start ctx events log) :
    events = .none ∧ UplinkHolds cipher keys start final .none := by
  cases inv.phase with
  | idle _ _ _ _ _ off _ =>
      rw [show ctx.timers.txDelayedTimer = false from off] at timer
      cases timer
  | active _ _ _ off _ _ _ =>
      rw [show ctx.timers.txDelayedTimer = false from off] at timer
      cases timer
  | delayed quiet none early delayed loaded =>
      have busy : ctx.isBusy = true := by
        rw [MacCtx.isBusy, show ctx.tx.txDelayed = true from delayed, Bool.or_true, Bool.true_or]
      exact ⟨none, sent.uplinks steady quiet early loaded holds inv.logged (inv.asked busy)
        inv.rxAbort inv.rxSlot⟩

/-- The end of `LoRaMacProcess` leaves the uplinks. -/
theorem UplinkHolds.wp_indications (holds : UplinkHolds cipher keys start ctx .none)
    (rxConfigured : Bool) :
    wp (do
      loRaMacHandleIndicationEvents
      let rxSlot ← gets MacCtx.rxSlot
      onRaised (rxSlot = .winClassC) (openContinuousRxCWindow rxConfigured))
      (fun _ final => UplinkHolds cipher keys start final .none) ctx := by
  rcases holds with ⟨log, inv⟩
  simp only [loRaMacHandleIndicationEvents, wp_bind, wp_modify, wp_gets, inv.rxSlot, decide_false,
    wp_onRaised_false]
  exact ⟨log, inv.of_view rfl rfl rfl rfl rfl⟩

/-- The confirm leaves the uplinks. -/
theorem UplinkHolds.wp_confirm (holds : UplinkHolds cipher keys start ctx .none) :
    wp loRaMacHandleRequestEvents (fun _ final => UplinkHolds cipher keys start final .none)
      ctx := by
  rcases holds with ⟨log, inv⟩
  rw [loRaMacHandleRequestEvents, wp_modify]
  split
  · exact ⟨log, inv⟩
  · rename_i free
    rcases inv.settled (by simpa using free) with ⟨-, early, settled⟩
    refine ⟨log, Settled.uplinks ?_ rfl inv.logged⟩
    exact ⟨⟨settled.quiet.radio, settled.quiet.window1, settled.quiet.window2⟩, settled.stopped,
      settled.prompt, settled.timer, settled.unsent, settled.rxAbort, settled.rxSlot⟩

/-- A message that was given to the radio, with what is kept for it. -/
structure OnAir (cipher : KeyedCipher κ) (keys : σ → KeyIdentifier → κ) (start ctx : MacCtx σ)
    (log : List (UInt32 × DataFrame)) (frame : DataFrame) : Prop where
  running : ctx.tx.txRunning = true
  prompt : ctx.tx.txDelayed = false
  timer : ctx.timers.txDelayedTimer = false
  sent : (ctx.crypto.fCntList.fCntUp, frame) ∈ log
  holds : ctx.tx.txMsg.Holds
    (onAir cipher (keys start.crypto.se) (ctx.crypto.fCntList.fCntUp, frame))
  counted : Counted ctx.view
  asked : Asked ctx.tx
  logged : UplinkLog cipher (keys start.crypto.se) start.session.devAddr
    start.crypto.fCntList.fCntUp ctx.crypto.fCntList.fCntUp ctx.tx.air log

theorem OnAir.handled {frame : DataFrame} (message : OnAir cipher keys start ctx log frame)
    (handled : Handled ctx final) : OnAir cipher keys start final log frame := by
  have tx := handled.tx
  have fCntUp := handled.fCntUp
  constructor
  · rw [tx]
    exact message.running
  · rw [tx]
    exact message.prompt
  · rw [handled.delayTimer]
    exact message.timer
  · rw [fCntUp]
    exact message.sent
  · rw [tx, fCntUp]
    exact message.holds
  · have counted := message.counted
    have confirmed : final.view.confirmed = ctx.view.confirmed :=
      congrArg MacTx.nodeAckRequested tx
    have repeated : final.view.channelsNbTransCounter = ctx.view.channelsNbTransCounter :=
      congrArg MacTx.channelsNbTransCounter tx
    have retried : final.view.ackTimeoutRetriesCounter = ctx.view.ackTimeoutRetriesCounter :=
      congrArg MacTx.ackTimeoutRetriesCounter tx
    have retries : final.view.ackTimeoutRetries = ctx.view.ackTimeoutRetries :=
      congrArg MacTx.ackTimeoutRetries tx
    cases counted with
    | repeated unconfirmed some few =>
        exact .repeated (confirmed.trans unconfirmed) (by rw [repeated]; exact some)
          (by rw [repeated]; exact few)
    | retried service uncounted some few =>
        exact .retried (confirmed.trans service) (repeated.trans uncounted)
          (by rw [retried]; exact some) (by rw [retries]; exact few)
  · rw [tx]
    exact message.asked
  · rw [tx, fCntUp]
    exact message.logged

/-- Between two steps a message that was given to the radio is active. -/
theorem OnAir.uplinks {frame : DataFrame} (message : OnAir cipher keys start ctx log frame)
    (stage : Stage ctx.view events) (rxAbort : ctx.rxAbort = false)
    (rxSlot : ctx.rxSlot ≠ .winClassC) : UplinkInv cipher keys start ctx events log where
  logged := message.logged
  phase := .active stage message.running message.prompt message.timer message.sent message.holds
    message.counted
  asked _ := message.asked
  rxAbort := rxAbort
  rxSlot := rxSlot

/-- The context after `LoRaMacCheckForRxAbort`. -/
def MacCtx.checked (ctx : MacCtx σ) : MacCtx σ :=
  { ctx with
    rxAbort := false
    tx := { ctx.tx with txRunning := ctx.tx.txRunning && !ctx.rxAbort } }

/-- The radio and the windows are only busy for such a message. -/
theorem UplinkInv.onAir (inv : UplinkInv cipher keys start ctx events log)
    (busy : ¬ ctx.view.Quiet) :
    ∃ frame, OnAir cipher keys start ctx log frame ∧ Stage ctx.view events := by
  cases inv.phase with
  | idle quiet _ _ _ _ _ _ => exact absurd quiet busy
  | delayed quiet _ _ _ _ => exact absurd quiet busy
  | active stage running prompt timer sent held counted =>
      have asked := inv.asked (by
        rw [MacCtx.isBusy, show ctx.tx.txRunning = true from running, Bool.true_or, Bool.true_or])
      exact ⟨_, ⟨running, prompt, timer, sent, held, counted, asked, inv.logged⟩, stage⟩

/-- A change of the radio and the windows. -/
theorem OnAir.moved {frame : DataFrame} {radio : Radio} {rxSlot : LoRaMacRxSlot}
    {window1 window2 : Bool} (message : OnAir cipher keys start ctx log frame)
    (stage : Stage { ctx.view with
      radio := radio, rxSlot := rxSlot, window1 := window1, window2 := window2 } events)
    (calm : ctx.rxAbort = false) (slot : rxSlot ≠ .winClassC) :
    UplinkHolds cipher keys start { ctx with
      radio := radio
      rxSlot := rxSlot
      timers := { ctx.timers with rxWindowTimer1 := window1, rxWindowTimer2 := window2 } } events := by
  have counted : Counted { ctx.view with
      radio := radio, rxSlot := rxSlot, window1 := window1, window2 := window2 } := by
    cases message.counted with
    | repeated unconfirmed some few => exact .repeated unconfirmed some few
    | retried confirmed uncounted some few => exact .retried confirmed uncounted some few
  have still : OnAir cipher keys start { ctx with
      radio := radio
      rxSlot := rxSlot
      timers := { ctx.timers with rxWindowTimer1 := window1, rxWindowTimer2 := window2 } } log
        frame :=
    ⟨message.running, message.prompt, message.timer, message.sent, message.holds, counted,
      message.asked, message.logged⟩
  exact ⟨log, still.uplinks stage calm slot⟩

/-- A message that is sent again is loaded. -/
theorem OnAir.loaded {frame : DataFrame} {channelsNbTrans : ℕ} {tx : MacTx}
    (message : OnAir cipher keys start ctx log frame) (few : channelsNbTrans < 16)
    (classA : ctx.session.deviceClass = .classA)
    (told : ctx.rxAbort = true → ctx.mcpsInd = true)
    (repeated : Repeated channelsNbTrans ctx.checked tx) :
    Loaded cipher (keys start.crypto.se) start.session.devAddr log
      { ctx.checked with macDone := false, ackTimeoutRetry := false, tx := tx }.view ∧
      Asked tx := by
  have asked := message.asked
  have service := asked.service
  cases repeated with
  | unconfirmed other left unanswered =>
      have no_ack : ctx.tx.nodeAckRequested = false := by
        cases ack : ctx.tx.nodeAckRequested with
        | false => rfl
        | true =>
            rw [ack] at service
            exact absurd service other
      rw [no_ack] at service
      have single : ctx.tx.mcpsRequest ≠ .multicast := by
        rw [service]
        simp
      have calm : ctx.rxAbort = false := by
        cases aborted : ctx.rxAbort with
        | false => rfl
        | true =>
            have alone : ctx.mcpsInd = false := unanswered single classA
            rw [told aborted] at alone
            cases alone
      have less : ctx.tx.channelsNbTransCounter < channelsNbTrans := left single
      refine ⟨?_, asked.mcpsReq, asked.service⟩
      cases message.counted with
      | repeated unconfirmed some _ =>
          refine .repeated message.sent message.holds unconfirmed some (less.trans few) ?_
          simp only [MacCtx.view, MacCtx.checked, message.running, calm, Bool.not_false,
            Bool.and_self]
      | retried confirmed _ _ _ =>
          rw [show ctx.view.confirmed = false from no_ack] at confirmed
          cases confirmed
  | confirmed confirmed left =>
      have left' : ctx.tx.ackTimeoutRetriesCounter < ctx.tx.ackTimeoutRetries := left
      refine ⟨?_, asked.mcpsReq, asked.service⟩
      cases message.counted with
      | repeated unconfirmed _ _ =>
          rw [show ctx.tx.nodeAckRequested = false from unconfirmed] at service
          rw [show ctx.tx.mcpsRequest = .confirmed from confirmed] at service
          cases service
      | retried ack uncounted some most =>
          refine .retried message.sent message.holds ack uncounted ?_ most
          have counted : 1 ≤ ctx.tx.ackTimeoutRetriesCounter := some
          have bounded : ctx.tx.ackTimeoutRetries ≤ 8 := most
          simp only [MacCtx.view, MacCtx.checked]
          omega

/-- A message whose windows are over is sent again, given up or waited for. -/
theorem wp_processMacDone_uplinks (lawful : api.Lawful cipher keys)
    (conditions : ProcessConditions) {frame : DataFrame} (few : conditions.channelsNbTrans < 16)
    (version : start.session.minor = 0) (classA : start.session.deviceClass = .classA)
    (steady : Steady keys start ctx) (message : OnAir cipher keys start ctx log frame)
    (quiet : ctx.view.Quiet) (late : ctx.macDone = true) (sound : ctx.Sound)
    (told : ctx.rxAbort = true → ctx.mcpsInd = true) :
    wp (processMacDone api conditions) (fun _ final => UplinkHolds cipher keys start final .none)
      ctx := by
  rw [← steady.session] at version classA
  have rxSlot := sound.slot classA
  have checked : Steady keys start ctx.checked :=
    ⟨steady.session, steady.crypto, steady.rxPayload, steady.areas⟩
  simp only [processMacDone, loRaMacCheckForRxAbort, wp_bind, wp_modify]
  refine wp_mono (wp_loRaMacHandleMcpsRequest lawful conditions.channelsNbTrans conditions.tx
    ctx.checked version steady.areas message.holds) ?_
  intro _ final mcps
  cases mcps with
  | nothing none =>
      rw [show ctx.checked.tx.mcpsReq = true from message.asked.mcpsReq] at none
      cases none
  | waits service early =>
      have calm : ctx.rxAbort = false := by
        cases aborted : ctx.rxAbort with
        | false => rfl
        | true =>
            have asked := message.asked.service
            rw [show ctx.tx.mcpsRequest = .confirmed from service] at asked
            have ack : ctx.tx.nodeAckRequested = true := by
              by_contra no_ack
              simp [no_ack] at asked
            have noted := sound.abort aborted ack
            rw [show ctx.ackTimeoutRetry = false from early] at noted
            cases noted
      have view : ctx.checked.view = ctx.view := by
        simp only [MacCtx.view, MacCtx.checked, calm, Bool.not_false, Bool.and_true]
      have waits := message.uplinks (.done quiet rfl late) calm rxSlot
      have holds : UplinkHolds cipher keys start ctx.checked .none :=
        ⟨log, waits.of_view view rfl rfl rfl calm.symm⟩
      exact holds.wp_confirm
  | stopped givenUp =>
      rcases givenUp.settled ⟨quiet.radio, quiet.window1, quiet.window2⟩ rfl rfl rfl rxSlot with
        ⟨settled, -, air, crypto⟩
      have free : ¬ final.isBusy = true := by
        rw [settled.isBusy]
        simp
      rw [loRaMacHandleRequestEvents, wp_modify, if_neg free]
      refine ⟨log, Settled.uplinks ?_ rfl ?_⟩
      · exact ⟨⟨settled.quiet.radio, settled.quiet.window1, settled.quiet.window2⟩,
          settled.stopped, settled.prompt, settled.timer, settled.unsent, settled.rxAbort,
          settled.rxSlot⟩
      · have logged := message.logged
        rw [show ctx.tx.air = final.tx.air from air.symm,
          show ctx.crypto = final.crypto from crypto.symm] at logged
        exact logged
  | again repeated sent =>
      rename_i tx
      have same : tx.txMsg = ctx.tx.txMsg ∧ tx.air = ctx.tx.air := by
        cases repeated <;> exact ⟨rfl, rfl⟩
      rcases message.loaded few classA told repeated with ⟨loaded, asked⟩
      have holds : tx.txMsg.Holds
          (onAir cipher (keys start.crypto.se) (ctx.crypto.fCntList.fCntUp, frame)) := by
        rw [same.1]
        exact message.holds
      have logged : UplinkLog cipher (keys start.crypto.se) start.session.devAddr
          start.crypto.fCntList.fCntUp ctx.crypto.fCntList.fCntUp tx.air log := by
        rw [same.2]
        exact message.logged
      have areas : tx.txMsg.Areas := by
        rw [same.1]
        exact steady.areas
      exact (sent.uplinks ⟨steady.session, steady.crypto, steady.rxPayload, areas⟩
        ⟨quiet.radio, quiet.window1, quiet.window2⟩ rfl loaded holds logged asked rfl
        rxSlot).wp_confirm

/-- `LoRaMacProcess` leads from one phase to another. -/
theorem wp_loRaMacProcess_uplinks (lawful : api.Lawful cipher keys)
    (conditions : ProcessConditions) (few : conditions.channelsNbTrans < 16)
    (ready : start.session.Ready) (classA : start.session.deviceClass = .classA)
    (steady : Steady keys start ctx)
    (rxDone : ∀ payload size, events.rxDone = some (payload, size) → Receivable payload size)
    (inv : UplinkInv cipher keys start ctx events log) :
    wp (loRaMacProcess api conditions events)
      (fun _ final => UplinkHolds cipher keys start final .none) ctx := by
  -- Without an event and without a message that is done nothing happens.
  have nothing : events = .none → ctx.macDone = false →
      wp (loRaMacProcess api conditions events)
        (fun _ final => UplinkHolds cipher keys start final .none) ctx := by
    rintro rfl early
    have holds : UplinkHolds cipher keys start ctx .none := ⟨log, inv⟩
    have rest := holds.wp_indications conditions.rxConfigured
    rw [loRaMacProcess]
    simp only [loRaMacHandleIrqEvents, RadioEvents.none, wp_bind, wp_onRaised_false,
      wp_onReceived_none, wp_gets, early] at rest ⊢
    exact rest
  cases inv.phase with
  | idle _ none early _ _ _ _ => exact nothing none early
  | delayed _ none early _ _ => exact nothing none early
  | active stage running prompt timer sent held counted =>
      rename_i frame
      have busy : ctx.isBusy = true := by
        rw [MacCtx.isBusy, show ctx.tx.txRunning = true from running, Bool.true_or, Bool.true_or]
      have message : OnAir cipher keys start ctx log frame :=
        ⟨running, prompt, timer, sent, held, counted, inv.asked busy, inv.logged⟩
      rw [loRaMacProcess, wp_bind]
      refine wp_mono (wp_and
        (wp_loRaMacHandleIrqEvents_handled lawful conditions ctx ready classA steady rxDone stage
          inv.rxAbort inv.rxSlot)
        (wp_loRaMacHandleIrqEvents_heard lawful conditions ctx ready.joined steady rxDone)) ?_
      rintro _ middle ⟨handled, heard⟩
      have middle_steady := steady.heard heard
      have middle_message := message.handled handled
      have middle_classA : middle.session.deviceClass = .classA := by
        rw [middle_steady.session]
        exact classA
      have done : wp (onRaised middle.macDone (processMacDone api conditions))
          (fun _ final => UplinkHolds cipher keys start final .none) middle := by
        cases late : middle.macDone with
        | false =>
            have calm : middle.rxAbort = false := by
              cases aborted : middle.rxAbort with
              | false => rfl
              | true =>
                  rw [(handled.told aborted).2] at late
                  cases late
            exact (wp_pure _ _ _).mpr
              ⟨log, middle_message.uplinks handled.stage calm (handled.sound.slot middle_classA)⟩
        | true =>
            exact wp_processMacDone_uplinks lawful conditions few ready.version classA
              middle_steady middle_message (handled.stage.quiet late) late handled.sound
              fun aborted => (handled.told aborted).1
      simp only [wp_bind, wp_gets]
      refine wp_mono done ?_
      intro _ last holds
      have rest := holds.wp_indications conditions.rxConfigured
      simp only [wp_bind, wp_gets] at rest
      exact rest

end Steps

/-- A step of a device of class A leads from one phase to another. -/
theorem wp_macStep_uplinks (lawful : api.Lawful cipher keys) {start : MacCtx σ}
    (ready : start.session.Ready) (classA : start.session.deviceClass = .classA) (mac : Mac σ)
    (event : MacEvent) (inv : MacInv keys start mac)
    (holds : UplinkHolds cipher keys start mac.ctx mac.events) (enabled : macEnabled mac event) :
    wp (macStep api event) (fun _ final => UplinkHolds cipher keys start final.ctx final.events)
      mac := by
  rcases holds with ⟨log, uplinks⟩
  have joined := ready.joined
  rw [← inv.steady.session] at joined
  have own : mac.ctx.session.deviceClass = .classA := by
    rw [inv.steady.session]
    exact classA
  rcases inv.steady.areas.exists_frame with ⟨frame, holds⟩
  cases event with
  | mcpsRequest request conditions =>
      rcases enabled with ⟨fits, available⟩
      simp only [macStep, onCtx, wp_zoom, wp_bind]
      refine wp_mono (wp_loRaMacMcpsRequest lawful request conditions mac.ctx joined
        inv.steady.areas fits available) ?_
      intro _ final requested
      exact (wp_pure _ _ _).mpr (requested.uplinks inv.steady uplinks)
  | radio irq =>
      rcases enabled with ⟨during, -⟩
      rcases uplinks.onAir (fun quiet => by
        rw [show mac.ctx.radio = .sleep from quiet.radio] at during
        cases irq <;> cases during) with ⟨frame, message, stage⟩
      have idle : (if mac.ctx.session.deviceClass = .classC ∧ irq.during = .rx then Radio.rx
          else .sleep) = .sleep := by
        rw [own]
        simp
      simp only [macStep, wp_modify, idle]
      exact message.moved (stage.raise during) uplinks.rxAbort uplinks.rxSlot
  | rxWindow1Timer rxConfigured =>
      rcases uplinks.onAir (fun quiet => by
        rw [macEnabled, show mac.ctx.timers.rxWindowTimer1 = false from quiet.window1] at enabled
        cases enabled) with ⟨frame, message, stage⟩
      rcases stage.window1 enabled with ⟨opened, refused⟩
      simp only [macStep, onCtx, wp_zoom, onRxWindow1TimerEvent, rxWindowSetup, wp_bind, wp_modify]
      split
      · exact message.moved opened uplinks.rxAbort (by simp)
      · exact message.moved refused uplinks.rxAbort uplinks.rxSlot
  | rxWindow2Timer rxConfigured =>
      rcases enabled with ⟨running, ended⟩
      rcases uplinks.onAir (fun quiet => by
        rw [show mac.ctx.timers.rxWindowTimer2 = false from quiet.window2] at running
        cases running) with ⟨frame, message, stage⟩
      simp only [macStep, onCtx, wp_zoom, onRxWindow2TimerEvent, rxWindowSetup, wp_bind, wp_modify,
        wp_gets]
      split
      · rename_i other
        rcases stage.window2 running ended other with ⟨opened, refused⟩
        rw [wp_modify]
        split
        · exact message.moved opened uplinks.rxAbort (by simp)
        · exact message.moved refused uplinks.rxAbort uplinks.rxSlot
      · rename_i same
        have first : mac.ctx.rxSlot = .win1 := by simpa using same
        exact (wp_pure _ _ _).mpr
          (message.moved (stage.window2_first running first) uplinks.rxAbort uplinks.rxSlot)
  | ackTimeoutTimer =>
      simp only [macStep, onCtx, wp_zoom, onAckTimeoutTimerEvent, wp_modify]
      refine ⟨log, uplinks.of_view ?_ rfl rfl rfl rfl⟩
      simp [MacCtx.view, own]
  | txDelayedTimer conditions =>
      simp only [macStep, onCtx, wp_zoom]
      refine wp_mono (wp_onTxDelayedTimerEvent lawful conditions mac.ctx inv.steady.areas holds) ?_
      intro _ final sent
      rcases sent.delayed inv.steady enabled holds uplinks with ⟨none, later⟩
      rw [none]
      exact later
  | process conditions =>
      simp only [macStep, onCtx, wp_bind, wp_gets, wp_modify, wp_zoom]
      exact wp_loRaMacProcess_uplinks lawful conditions enabled ready classA inv.steady inv.rxDone
        uplinks

/-! ## Runs -/

/-- A device of class A that joined and sent nothing yet. -/
structure Mac.Idle (mac : Mac σ) : Prop extends mac.Rested where
  classA : mac.ctx.session.deviceClass = .classA
  settled : Settled mac.ctx
  macDone : mac.ctx.macDone = false
  air : mac.ctx.tx.air = []

theorem sampleMac_idle : sampleMac.Idle where
  toRested := sampleMac_rested
  classA := rfl
  settled := ⟨⟨rfl, rfl, rfl⟩, rfl, rfl, rfl, rfl, rfl, by decide⟩
  macDone := rfl
  air := rfl

end GenericNode.LoRaMac
