import GenericNode.LoRaMac.Reception
import GenericNode.LoRaMac.Transmission

/-!
# Downlinks over a run

Whatever bytes the radio receives and whatever else happens, no step of the MAC
is undefined, and the counters of the frames it accepts increase.
-/

namespace GenericNode.LoRaMac

open GenericNode.Library
open GenericNode.Library.Prog
open GenericNode.SecureElement

variable {σ κ : Type} {keys : σ → KeyIdentifier → κ} {cipher : KeyedCipher κ}

/-! ## What is left of the downlinks -/

/-- What everything but a reception leaves. -/
structure Beside (keys : σ → KeyIdentifier → κ) (ctx final : MacCtx σ) : Prop where
  session : final.session = ctx.session
  crypto : SameKeys keys ctx.crypto final.crypto
  down : ∀ fCntID, final.crypto.fCntList.down fCntID = ctx.crypto.fCntList.down fCntID
  rxPayload : final.rxPayload.length = ctx.rxPayload.length
  indication : final.indication = ctx.indication
  mcpsInd : final.mcpsInd = ctx.mcpsInd
  indications : final.indications = ctx.indications
  areas : ctx.tx.txMsg.Areas → final.tx.txMsg.Areas

namespace Beside

theorem refl (ctx : MacCtx σ) : Beside keys ctx ctx :=
  ⟨rfl, .refl _, fun _ => rfl, rfl, rfl, rfl, rfl, id⟩

theorem trans {first second third : MacCtx σ} (beside : Beside keys first second)
    (also : Beside keys second third) : Beside keys first third where
  session := also.session.trans beside.session
  crypto := beside.crypto.trans also.crypto
  down fCntID := (also.down fCntID).trans (beside.down fCntID)
  rxPayload := also.rxPayload.trans beside.rxPayload
  indication := also.indication.trans beside.indication
  mcpsInd := also.mcpsInd.trans beside.mcpsInd
  indications := also.indications.trans beside.indications
  areas areas := also.areas (beside.areas areas)

/-- A change of what neither a reception nor the message depends on. -/
theorem of_eq {ctx final : MacCtx σ} (session : final.session = ctx.session)
    (crypto : final.crypto = ctx.crypto) (rxPayload : final.rxPayload = ctx.rxPayload)
    (indication : final.indication = ctx.indication) (mcpsInd : final.mcpsInd = ctx.mcpsInd)
    (indications : final.indications = ctx.indications)
    (areas : ctx.tx.txMsg.Areas → final.tx.txMsg.Areas) : Beside keys ctx final :=
  ⟨session, by rw [crypto]; exact .refl _, fun _ => by rw [crypto], by rw [rxPayload], indication,
    mcpsInd, indications, areas⟩

end Beside

theorem Scheduled.beside {ctx final : MacCtx σ} {frame : DataFrame} {status : LoRaMacStatus}
    (done : Scheduled cipher keys ctx frame status final) : Beside keys ctx final := by
  cases done with
  | refused _ _ _ _ areas holds => exact .of_eq rfl rfl rfl rfl rfl rfl fun _ => areas
  | delayed _ areas holds => exact .of_eq rfl rfl rfl rfl rfl rfl fun _ => areas
  | forgotten _ areas holds => exact .of_eq rfl rfl rfl rfl rfl rfl fun _ => areas
  | sent fCnt shown crypto txMsg onAir secured =>
      constructor
      case crypto => exact secured.same
      case down =>
        intro fCntID
        simp only [secured.fCntList]
        cases fCntID <;> rfl
      case areas => exact fun _ => secured.areas
      all_goals rfl

theorem GivenUp.beside {ctx final : MacCtx σ} (givenUp : GivenUp ctx final) :
    Beside keys ctx final := by
  rcases givenUp.tx with ⟨nbRetries, tx⟩
  rcases givenUp.rest with ⟨confirmStatus, rest⟩
  rw [rest]
  exact Beside.of_eq rfl rfl rfl rfl rfl rfl (by simp only [tx, imp_self])

theorem SentLater.beside {ctx final : MacCtx σ} {frame : DataFrame}
    (sent : SentLater cipher keys ctx frame final) : Beside keys ctx final := by
  have undelayed : Beside keys ctx ctx.undelayed := .of_eq rfl rfl rfl rfl rfl rfl id
  cases sent with
  | scheduled done => exact undelayed.trans done.beside
  | stopped _ done givenUp => exact (undelayed.trans done.beside).trans givenUp.beside

theorem McpsHandled.beside {channelsNbTrans : ℕ} {ctx final : MacCtx σ} {frame : DataFrame}
    (handled : McpsHandled cipher keys channelsNbTrans ctx frame final) :
    Beside keys ctx final := by
  cases handled with
  | nothing _ => exact .refl _
  | waits _ _ => exact .refl _
  | stopped givenUp =>
      have undelayed : Beside keys ctx ctx.undelayed := .of_eq rfl rfl rfl rfl rfl rfl id
      exact undelayed.trans givenUp.beside
  | again repeated sent =>
      rename_i tx
      have same : tx.txMsg = ctx.tx.txMsg := by
        cases repeated <;> rfl
      have counted : Beside keys ctx
          { ctx with macDone := false, ackTimeoutRetry := false, tx := tx } :=
        .of_eq rfl rfl rfl rfl rfl rfl (by simp only [same, imp_self])
      exact counted.trans sent.beside

theorem Requested.beside {request : McpsReq} {ctx final : MacCtx σ}
    (requested : Requested cipher keys request ctx final) : Beside keys ctx final := by
  have prepared : ∀ txMsg : LoRaMacMessageData, txMsg.Areas →
      Beside keys ctx (ctx.requested request txMsg) :=
    fun txMsg areas => .of_eq rfl rfl rfl rfl rfl rfl fun _ => areas
  cases requested with
  | busy _ => exact .refl _
  | invalid _ => exact .of_eq rfl rfl rfl rfl rfl rfl id
  | refused _ ready _ _ done =>
      exact ((prepared _ ready.areas).trans done.beside).trans (.of_eq rfl rfl rfl rfl rfl rfl id)
  | taken _ ready _ done =>
      exact ((prepared _ ready.areas).trans done.beside).trans (.of_eq rfl rfl rfl rfl rfl rfl id)

/-! ## The events of the radio -/

variable (keys) in
theorem wp_processRadioTxDone_beside (ctx : MacCtx σ) :
    wp processRadioTxDone (fun _ final => Beside keys ctx final) ctx := by
  simp only [processRadioTxDone, sleepUnlessClassC, wp_bind, wp_modify]
  exact .of_eq rfl rfl rfl rfl rfl rfl id

variable (keys) in
theorem wp_processRadioTxTimeout_beside (ctx : MacCtx σ) :
    wp processRadioTxTimeout (fun _ final => Beside keys ctx final) ctx := by
  simp only [processRadioTxTimeout, sleepUnlessClassC, updateRxSlotIdleState, wp_bind, wp_modify]
  exact .of_eq rfl rfl rfl rfl rfl rfl id

variable (keys) in
theorem wp_handleRadioRxErrorTimeout_beside
    (rx1EventInfoStatus rx2EventInfoStatus : LoRaMacEventInfoStatus) (window2Passed : Bool)
    (ctx : MacCtx σ) :
    wp (handleRadioRxErrorTimeout rx1EventInfoStatus rx2EventInfoStatus window2Passed)
      (fun _ final => Beside keys ctx final) ctx := by
  simp only [handleRadioRxErrorTimeout, sleepUnlessClassC, updateRxSlotIdleState, wp_bind,
    wp_modify, wp_gets]
  split
  · simp only [wp_bind, wp_modify]
    exact .of_eq rfl rfl rfl rfl rfl rfl id
  · simp only [wp_bind, wp_modify]
    exact .of_eq rfl rfl rfl rfl rfl rfl id

/-- A call that only some events make. -/
theorem wp_onRaised_beside {call : Prog (MacCtx σ) Unit} {raised : Bool}
    (beside : ∀ ctx, wp call (fun _ final => Beside keys ctx final) ctx) (ctx : MacCtx σ) :
    wp (onRaised raised call) (fun _ final => Beside keys ctx final) ctx := by
  cases raised with
  | false => exact (wp_pure _ _ _).mpr (.refl ctx)
  | true => exact beside ctx

/-! ## What a step tells the upper layer -/

/-- The MAC tells of data that it accepted. -/
def McpsIndication.isData (indication : McpsIndication) : Bool :=
  decide (indication.status = .ok) && decide (indication.mcpsIndication ≠ .proprietary)

/-- What the radio received lies in its buffer. -/
structure Receivable (payload : List UInt8) (size : ℕ) : Prop where
  nonempty : 0 < size
  small : size ≤ loramacPhyMaxpayload
  inside : loramacPhyMaxpayload ≤ payload.length

/-- A reception of what the radio received, if it received anything, with what
comes before and after it. -/
inductive Heard (cipher : KeyedCipher κ) (keys : σ → KeyIdentifier → κ) (maxPayload : ℕ)
    (ctx final : MacCtx σ) : Option (List UInt8 × ℕ) → Prop
  | nothing (beside : Beside keys ctx final) : Heard cipher keys maxPayload ctx final none
  | frame {payload : List UInt8} {size : ℕ} {before after : MacCtx σ}
      (receivable : Receivable payload size)
      (earlier : Beside keys ctx before) (kept : Kept keys before.receiving after)
      (mcpsInd : after.mcpsInd = true)
      (received : Received cipher keys maxPayload size (payload.getD 0 0)
        (receivedMessage payload size before.rxPayload).parsed before after)
      (later : Beside keys after final) :
      Heard cipher keys maxPayload ctx final (some (payload, size))

theorem Heard.beside {maxPayload : ℕ} {rxDone : Option (List UInt8 × ℕ)}
    {ctx middle final : MacCtx σ} (heard : Heard cipher keys maxPayload ctx middle rxDone)
    (beside : Beside keys middle final) : Heard cipher keys maxPayload ctx final rxDone := by
  cases heard with
  | nothing earlier => exact .nothing (earlier.trans beside)
  | frame receivable earlier kept mcpsInd received later =>
      exact .frame receivable earlier kept mcpsInd received (later.trans beside)

/-- What a session keeps from its start on. -/
structure Steady (keys : σ → KeyIdentifier → κ) (start ctx : MacCtx σ) : Prop where
  session : ctx.session = start.session
  crypto : SameKeys keys start.crypto ctx.crypto
  rxPayload : ctx.rxPayload.length = loramacPhyMaxpayload
  areas : ctx.tx.txMsg.Areas

theorem Steady.beside {start ctx final : MacCtx σ} (steady : Steady keys start ctx)
    (beside : Beside keys ctx final) : Steady keys start final :=
  ⟨beside.session.trans steady.session, steady.crypto.trans beside.crypto,
    beside.rxPayload.trans steady.rxPayload, beside.areas steady.areas⟩

theorem Steady.kept {start ctx final : MacCtx σ} (steady : Steady keys start ctx)
    (kept : Kept keys ctx.receiving final) : Steady keys start final :=
  ⟨kept.session.trans steady.session, steady.crypto.trans kept.crypto,
    kept.rxPayload.trans steady.rxPayload, by rw [kept.tx]; exact steady.areas⟩

theorem Steady.heard {maxPayload : ℕ} {rxDone : Option (List UInt8 × ℕ)}
    {start ctx final : MacCtx σ} (steady : Steady keys start ctx)
    (heard : Heard cipher keys maxPayload ctx final rxDone) : Steady keys start final := by
  cases heard with
  | nothing beside => exact steady.beside beside
  | frame _ earlier kept _ _ later => exact ((steady.beside earlier).kept kept).beside later

section Lawful

variable {api : SecureElementApi σ}

theorem wp_loRaMacHandleIrqEvents_heard (lawful : api.Lawful cipher keys)
    (conditions : ProcessConditions) {events : RadioEvents} {start : MacCtx σ} (ctx : MacCtx σ)
    (joined : start.session.networkActivation ≠ .none) (steady : Steady keys start ctx)
    (rxDone : ∀ payload size, events.rxDone = some (payload, size) → Receivable payload size) :
    wp (loRaMacHandleIrqEvents api conditions events) (fun _ final =>
      Heard cipher keys conditions.maxPayload ctx final events.rxDone) ctx := by
  rw [loRaMacHandleIrqEvents, wp_bind]
  refine wp_mono (wp_onRaised_beside (wp_processRadioTxDone_beside keys) ctx) ?_
  intro _ first sent
  have reception : wp (onReceived api conditions.maxPayload events.rxDone) (fun _ final =>
      Heard cipher keys conditions.maxPayload ctx final events.rxDone) first := by
    cases received : events.rxDone with
    | none => exact (wp_pure _ _ _).mpr (.nothing sent)
    | some pair =>
        rcases pair with ⟨payload, size⟩
        have receivable := rxDone payload size received
        have now := steady.beside sent
        refine wp_mono (wp_processRadioRxDone lawful conditions.maxPayload first
          (by rw [now.session]; exact joined) receivable.nonempty receivable.small
          receivable.inside now.rxPayload) ?_
        rintro _ final ⟨kept, ⟨mcpsInd, -⟩, received⟩
        exact .frame receivable sent kept mcpsInd received (.refl final)
  simp only [wp_bind]
  refine wp_mono reception ?_
  intro _ second heard
  refine wp_mono (wp_onRaised_beside (wp_processRadioTxTimeout_beside keys) second) ?_
  intro _ third timeout
  refine wp_mono (wp_onRaised_beside
    (wp_handleRadioRxErrorTimeout_beside keys _ _ conditions.window2Passed) third) ?_
  intro _ fourth error
  refine wp_mono (wp_onRaised_beside
    (wp_handleRadioRxErrorTimeout_beside keys _ _ conditions.window2Passed) fourth) ?_
  intro _ final late
  exact (((heard.beside timeout).beside error).beside late)

theorem wp_processMacDone_beside (lawful : api.Lawful cipher keys)
    (conditions : ProcessConditions) (ctx : MacCtx σ) (version : ctx.session.minor = 0)
    (areas : ctx.tx.txMsg.Areas) :
    wp (processMacDone api conditions) (fun _ final => Beside keys ctx final) ctx := by
  rcases areas.exists_frame with ⟨frame, holds⟩
  simp only [processMacDone, loRaMacCheckForRxAbort, wp_bind, wp_modify]
  refine wp_mono (wp_loRaMacHandleMcpsRequest lawful conditions.channelsNbTrans conditions.tx _
    version areas holds) ?_
  intro _ middle handled
  have aborted : Beside keys ctx { ctx with
      rxAbort := false, tx := { ctx.tx with txRunning := ctx.tx.txRunning && !ctx.rxAbort } } :=
    .of_eq rfl rfl rfl rfl rfl rfl id
  have confirmed : wp loRaMacHandleRequestEvents
      (fun _ final => Beside keys middle final) middle := by
    rw [loRaMacHandleRequestEvents, wp_modify]
    split
    · exact .refl middle
    · exact .of_eq rfl rfl rfl rfl rfl rfl id
  refine wp_mono confirmed ?_
  intro _ final beside
  exact (aborted.trans handled.beside).trans beside

/-- What a step tells the upper layer of what the radio received: nothing if it
received nothing, the data of a frame that passes the checks, or something that
is no data if none passes. -/
inductive Told (cipher : KeyedCipher κ) (keys : σ → KeyIdentifier → κ) (maxPayload : ℕ)
    (ctx final : MacCtx σ) : Option (List UInt8 × ℕ) → Prop
  | nothing (down : ∀ fCntID, final.crypto.fCntList.down fCntID = ctx.crypto.fCntList.down fCntID)
      (indications : final.indications = ctx.indications) :
      Told cipher keys maxPayload ctx final none
  | other {payload rxPayload : List UInt8} {size : ℕ} {macMsg : LoRaMacMessageData}
      (indication : McpsIndication) (no_data : indication.isData = false)
      (room : rxPayload.length = loramacPhyMaxpayload)
      (parsed : macMsg = (receivedMessage payload size rxPayload).parsed)
      (failed : IsDataDown (payload.getD 0 0) → ∀ fType fCntDown,
        ¬ Passes cipher keys ctx.session ctx.crypto maxPayload size macMsg fType fCntDown)
      (down : ∀ fCntID, final.crypto.fCntList.down fCntID = ctx.crypto.fCntList.down fCntID)
      (indications : final.indications = ctx.indications ++ [indication]) :
      Told cipher keys maxPayload ctx final (some (payload, size))
  | data {payload rxPayload : List UInt8} {size : ℕ} {macMsg : LoRaMacMessageData}
      (rxSlot : LoRaMacRxSlot) (fType : FType) (fCntDown : UInt32)
      (receivable : Receivable payload size) (room : rxPayload.length = loramacPhyMaxpayload)
      (parsed : macMsg = (receivedMessage payload size rxPayload).parsed)
      (passed : Passes cipher keys ctx.session ctx.crypto maxPayload size macMsg fType fCntDown)
      (down : ∀ fCntID, final.crypto.fCntList.down fCntID =
        (ctx.crypto.fCntList.setDown (ctx.session.fCntIDOf macMsg fType) fCntDown).down fCntID)
      (indications : final.indications = ctx.indications ++ [acceptedIndication ctx.session rxSlot
        (payload.getD 0 0) fType fCntDown
          (decrypted cipher keys ctx.session ctx.crypto macMsg fCntDown)]) :
      Told cipher keys maxPayload ctx final (some (payload, size))

/-- The checks depend on the keys and the counters only. -/
theorem Passes.of_same {session : MacSession} {crypto other : LoRaMacCryptoCtx σ}
    {maxPayload size : ℕ} {macMsg : LoRaMacMessageData} {fType : FType} {fCntDown : UInt32}
    (passes : Passes cipher keys session crypto maxPayload size macMsg fType fCntDown)
    (same : SameKeys keys other crypto)
    (down : ∀ fCntID, crypto.fCntList.down fCntID = other.fCntList.down fCntID) :
    Passes cipher keys session other maxPayload size macMsg fType fCntDown := by
  rcases passes.genuine.counter.success with ⟨last, last_eq, answer⟩
  rcases passes.genuine.counter.fresh with ⟨last', last'_eq, fresh⟩
  refine ⟨passes.most, passes.least, passes.frameType, passes.dataOnly, ⟨⟨last, ?_, ?_⟩, ?_⟩,
    passes.genuine.address, ?_⟩
  · rw [← down]
    exact last_eq
  · rw [← same.minor]
    exact answer
  · exact ⟨last', by rw [← down]; exact last'_eq, fresh⟩
  · rw [← same.keys]
    exact passes.genuine.authentic

theorem down_setDown {fCntList other : FCntList} {fCntID : FCntIdentifier} {value : UInt32}
    (same : ∀ fCntID, fCntList.down fCntID = other.down fCntID) (identifier : FCntIdentifier) :
    (fCntList.setDown fCntID value).down identifier =
      (other.setDown fCntID value).down identifier := by
  have equal := same identifier
  cases fCntID <;> cases identifier <;> first | rfl | exact equal

/-- The indications that wait are told at the end. -/
theorem Heard.told {maxPayload : ℕ} {rxDone : Option (List UInt8 × ℕ)}
    {start ctx middle final : MacCtx σ} (heard : Heard cipher keys maxPayload ctx middle rxDone)
    (steady : Steady keys start ctx) (quiet : ctx.mcpsInd = false)
    (down : ∀ fCntID, final.crypto.fCntList.down fCntID = middle.crypto.fCntList.down fCntID)
    (indications : final.indications =
      middle.indications ++ if middle.mcpsInd then [middle.indication] else []) :
    Told cipher keys maxPayload ctx final rxDone := by
  cases heard with
  | nothing beside =>
      apply Told.nothing
      · intro fCntID
        rw [down, beside.down]
      · rw [indications, beside.mcpsInd, quiet, beside.indications]
        exact List.append_nil _
  | frame receivable earlier kept mcpsInd received later =>
      rename_i payload size before after
      have now := steady.beside earlier
      have told : final.indications = ctx.indications ++ [after.indication] := by
        rw [indications, later.mcpsInd, mcpsInd, later.indications, later.indication,
          kept.indications]
        exact congrArg (· ++ _) earlier.indications
      have unchanged : after.crypto.fCntList = before.crypto.fCntList →
          ∀ fCntID, final.crypto.fCntList.down fCntID = ctx.crypto.fCntList.down fCntID := by
        intro fCntList fCntID
        rw [down, later.down, fCntList, earlier.down]
      cases received with
      | accepted fType fCntDown data passed fCntList indication =>
          have same_indication : after.indication = acceptedIndication ctx.session before.rxSlot
              (payload.getD 0 0) fType fCntDown (decrypted cipher keys ctx.session ctx.crypto
                (receivedMessage payload size before.rxPayload).parsed fCntDown) := by
            rw [indication, decrypted, decrypted, earlier.session, earlier.crypto.keys]
          rw [earlier.session] at passed fCntList
          refine .data before.rxSlot fType fCntDown receivable now.rxPayload rfl
            (passed.of_same earlier.crypto earlier.down) ?_ (same_indication ▸ told)
          intro fCntID
          rw [down, later.down, fCntList]
          exact down_setDown earlier.down fCntID
      | refused failed fCntList status =>
          refine .other after.indication ?_ now.rxPayload rfl ?_ (unchanged fCntList) told
          · simp [McpsIndication.isData, status]
          · intro data fType fCntDown passed
            apply failed data fType fCntDown
            rw [earlier.session]
            exact passed.of_same earlier.crypto.symm fun fCntID => (earlier.down fCntID).symm
      | proprietary type fCntList indication =>
          refine .other after.indication ?_ now.rxPayload rfl ?_ (unchanged fCntList) told
          · simp [McpsIndication.isData, indication]
          · intro data
            rw [IsDataDown, type] at data
            simp at data

theorem wp_loRaMacProcess_told (lawful : api.Lawful cipher keys) (conditions : ProcessConditions)
    {events : RadioEvents} {start : MacCtx σ} (ctx : MacCtx σ)
    (joined : start.session.networkActivation ≠ .none) (version : start.session.minor = 0)
    (steady : Steady keys start ctx) (quiet : ctx.mcpsInd = false)
    (rxDone : ∀ payload size, events.rxDone = some (payload, size) → Receivable payload size) :
    wp (loRaMacProcess api conditions events) (fun _ final =>
      Steady keys start final ∧ final.mcpsInd = false ∧
        Told cipher keys conditions.maxPayload ctx final events.rxDone) ctx := by
  rw [loRaMacProcess, wp_bind]
  refine wp_mono (wp_loRaMacHandleIrqEvents_heard lawful conditions ctx joined steady rxDone) ?_
  intro _ first heard
  have first_steady := steady.heard heard
  have done : wp (onRaised first.macDone (processMacDone api conditions))
      (fun _ final => Beside keys first final) first := by
    cases first.macDone with
    | false => exact (wp_pure _ _ _).mpr (.refl first)
    | true =>
        exact wp_processMacDone_beside lawful conditions first
          (by rw [first_steady.session]; exact version) first_steady.areas
  simp only [wp_bind, wp_gets]
  refine wp_mono done ?_
  intro _ second beside
  have all := heard.beside beside
  have second_steady := steady.heard all
  simp only [loRaMacHandleIndicationEvents, wp_modify]
  have opened : wp (onRaised (decide (second.rxSlot = .winClassC))
      (openContinuousRxCWindow conditions.rxConfigured)) (fun _ final =>
        ∃ radio rxSlot, final = { second with
          mcpsInd := false
          indications := second.indications ++ if second.mcpsInd then [second.indication] else []
          radio := radio
          rxSlot := rxSlot })
      { second with
        mcpsInd := false
        indications := second.indications ++ if second.mcpsInd then [second.indication] else [] } := by
    rw [onRaised]
    split
    · rw [openContinuousRxCWindow, wp_modify]
      split
      · exact ⟨_, _, rfl⟩
      · exact ⟨_, _, rfl⟩
    · exact (wp_pure _ _ _).mpr ⟨_, _, rfl⟩
  refine wp_mono opened ?_
  rintro _ _ ⟨radio, rxSlot, rfl⟩
  constructor
  · exact ⟨second_steady.session, second_steady.crypto, second_steady.rxPayload,
      second_steady.areas⟩
  · exact ⟨rfl, all.told steady quiet (fun _ => rfl) rfl⟩

end Lawful

/-! ## Runs -/

/-- A device that joined a LoRaWAN 1.0 network. -/
structure MacSession.Ready (session : MacSession) : Prop where
  joined : session.networkActivation ≠ .none
  version : session.minor = 0
  group : session.multicastChannel.groupID = .multicast0Addr

/-- What holds between the steps of a session. -/
structure MacInv (keys : σ → KeyIdentifier → κ) (start : MacCtx σ) (mac : Mac σ) : Prop where
  steady : Steady keys start mac.ctx
  mcpsInd : mac.ctx.mcpsInd = false
  rxDone : ∀ payload size, mac.events.rxDone = some (payload, size) → Receivable payload size

/-- What the radio received, in the step that handles it. -/
def MacEvent.rxDone (mac : Mac σ) : MacEvent → Option (List UInt8 × ℕ)
  | .process _ => mac.events.rxDone
  | _ => none

/-- What the region allows, in the step that handles a reception. -/
def MacEvent.maxPayload : MacEvent → ℕ
  | .process conditions => conditions.maxPayload
  | _ => 0

/-- What a step that is no reception does. -/
theorem MacInv.beside {maxPayload : ℕ} {start : MacCtx σ} {mac final : Mac σ}
    (inv : MacInv keys start mac) (beside : Beside keys mac.ctx final.ctx)
    (events : final.events = mac.events) :
    MacInv keys start final ∧ Told cipher keys maxPayload mac.ctx final.ctx none := by
  constructor
  · exact ⟨inv.steady.beside beside, beside.mcpsInd.trans inv.mcpsInd, events ▸ inv.rxDone⟩
  · exact .nothing beside.down beside.indications

section Lawful

variable {api : SecureElementApi σ}

/-- A call on the context that is no reception. -/
theorem MacInv.wp_onCtx {maxPayload : ℕ} {start : MacCtx σ} {mac : Mac σ}
    (inv : MacInv keys start mac) {call : Prog (MacCtx σ) Unit}
    (beside : wp call (fun _ final => Beside keys mac.ctx final) mac.ctx) :
    wp (onCtx call) (fun _ final =>
      MacInv keys start final ∧ Told cipher keys maxPayload mac.ctx final.ctx none) mac := by
  rw [onCtx, wp_zoom]
  refine wp_mono beside ?_
  intro _ final beside
  exact inv.beside beside rfl

/-- A step is defined and keeps what holds. -/
theorem wp_macStep (lawful : api.Lawful cipher keys) {start : MacCtx σ}
    (ready : start.session.Ready) (mac : Mac σ) (event : MacEvent) (inv : MacInv keys start mac)
    (enabled : macEnabled mac event) :
    wp (macStep api event) (fun _ final => MacInv keys start final ∧
      Told cipher keys event.maxPayload mac.ctx final.ctx (event.rxDone mac)) mac := by
  have joined := ready.joined
  rcases inv.steady.areas.exists_frame with ⟨frame, holds⟩
  rw [← inv.steady.session] at joined
  cases event with
  | mcpsRequest request conditions =>
      rcases enabled with ⟨fits, available⟩
      apply inv.wp_onCtx
      rw [wp_bind]
      refine wp_mono (wp_loRaMacMcpsRequest lawful request conditions mac.ctx joined
        inv.steady.areas fits available) ?_
      intro _ final requested
      exact (wp_pure _ _ _).mpr requested.beside
  | radio irq =>
      simp only [macStep, wp_modify]
      constructor
      · refine ⟨inv.steady.beside (.of_eq rfl rfl rfl rfl rfl rfl id), inv.mcpsInd, ?_⟩
        intro payload size raised
        cases irq with
        | rxDone received length =>
            cases raised
            rcases enabled with ⟨-, nonempty, small, inside⟩
            exact ⟨nonempty, small, inside⟩
        | _ => exact inv.rxDone payload size raised
      · exact .nothing (fun _ => rfl) rfl
  | rxWindow1Timer rxConfigured =>
      apply inv.wp_onCtx
      simp only [onRxWindow1TimerEvent, rxWindowSetup, wp_bind, wp_modify]
      split
      · exact .of_eq rfl rfl rfl rfl rfl rfl id
      · exact .of_eq rfl rfl rfl rfl rfl rfl id
  | rxWindow2Timer rxConfigured =>
      apply inv.wp_onCtx
      simp only [onRxWindow2TimerEvent, rxWindowSetup, wp_bind, wp_modify, wp_gets]
      split
      · rw [wp_modify]
        split
        · exact .of_eq rfl rfl rfl rfl rfl rfl id
        · exact .of_eq rfl rfl rfl rfl rfl rfl id
      · exact (wp_pure _ _ _).mpr (.of_eq rfl rfl rfl rfl rfl rfl id)
  | ackTimeoutTimer =>
      apply inv.wp_onCtx
      simp only [onAckTimeoutTimerEvent, wp_modify]
      exact .of_eq rfl rfl rfl rfl rfl rfl id
  | txDelayedTimer conditions =>
      apply inv.wp_onCtx
      refine wp_mono (wp_onTxDelayedTimerEvent lawful conditions mac.ctx inv.steady.areas holds) ?_
      intro _ final sent
      exact sent.beside
  | process conditions =>
      simp only [macStep, onCtx, wp_bind, wp_gets, wp_modify, wp_zoom]
      refine wp_mono (wp_loRaMacProcess_told lawful conditions mac.ctx ready.joined ready.version
        inv.steady inv.mcpsInd inv.rxDone) ?_
      rintro _ final ⟨steady, mcpsInd, told⟩
      exact ⟨⟨steady, mcpsInd, fun _ _ raised => by cases raised⟩, told⟩

end Lawful

end GenericNode.LoRaMac
