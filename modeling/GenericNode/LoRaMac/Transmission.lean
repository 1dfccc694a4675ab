import GenericNode.LoRaMac.Process

/-!
# What a transmission does

`ScheduleTx` sends a frame, puts it off or refuses it.  What goes onto the air
the first time is the frame encrypted and signed under the next counter; what
goes there again is the frame as it was left, signed under the last one.
-/

namespace GenericNode.LoRaMac

open GenericNode.Library
open GenericNode.Library.Prog
open GenericNode.SecureElement

variable {σ κ : Type}

/-! ## The areas of a message -/

/-- The areas that the message of the MAC lies in. -/
structure LoRaMacMessageData.Areas (macMsg : LoRaMacMessageData) : Prop where
  buffer : macMsg.buffer.length = loramacPhyMaxpayload
  bufSize : macMsg.bufSize ≤ loramacPhyMaxpayload
  fOpts : loramacFhdrFOptsMaxFieldSize ≤ macMsg.fhdr.fOpts.length
  frmPayload : macMsg.frmPayload.length = loramacPhyMaxpayload
  frmPayloadSize : macMsg.frmPayloadSize ≤ loramacPhyMaxpayload

namespace LoRaMacMessageData.Areas

variable {macMsg : LoRaMacMessageData}

/-- A message in its areas describes a frame. -/
theorem exists_frame (areas : macMsg.Areas) : ∃ frame, macMsg.Holds frame := by
  apply macMsg.exists_holds
  · have fOpts := areas.fOpts
    have options_le := fOptsLenOf_le macMsg.fhdr.fCtrl
    rw [loramacFhdrFOptsMaxFieldSize] at fOpts
    rw [LoRaMacFrameHeader.fOptsLen]
    omega
  · rw [areas.frmPayload]
    exact areas.frmPayloadSize

theorem room {frame : DataFrame} (areas : macMsg.Areas)
    (fits : frame.bytes.length ≤ macMsg.bufSize) : macMsg.Room frame :=
  ⟨fits, areas.bufSize, by rw [areas.buffer]; exact areas.bufSize⟩

/-- A message that is serialised stays in its areas. -/
theorem signedAs {frame : DataFrame} (areas : macMsg.Areas)
    (fits : frame.bytes.length ≤ loramacPhyMaxpayload) : (macMsg.signedAs frame).Areas := by
  constructor
  · simp only [LoRaMacMessageData.signedAs, List.length_append, List.length_drop, areas.buffer]
    omega
  · exact fits
  · exact areas.fOpts
  · exact areas.frmPayload
  · exact areas.frmPayloadSize

end LoRaMacMessageData.Areas

/-- The bytes of a message that is serialised are those of its frame. -/
theorem LoRaMacMessageData.bytes_signedAs (macMsg : LoRaMacMessageData) (frame : DataFrame) :
    (macMsg.signedAs frame).buffer.take (macMsg.signedAs frame).bufSize = frame.bytes :=
  List.take_left' rfl

/-- `LoRaMacSerializerData` over a message in its areas. -/
theorem serialize_cases {macMsg : LoRaMacMessageData} {frame : DataFrame} (areas : macMsg.Areas)
    (holds : macMsg.Holds frame) :
    ∃ status serialized, loRaMacSerializerData macMsg = some (status, serialized) ∧
      serialized.Areas ∧ serialized.Holds frame ∧
        (status = .success → serialized.bufSize = frame.bytes.length) := by
  by_cases fits : frame.bytes.length ≤ macMsg.bufSize
  · refine ⟨.success, _, loRaMacSerializerData_eq holds fits ?_, ?_, ?_, fun _ => rfl⟩
    · rw [areas.buffer]
      exact areas.bufSize
    · have bounded := fits.trans areas.bufSize
      constructor
      · simp only [List.length_append, List.length_drop, areas.buffer]
        omega
      · exact bounded
      · exact areas.fOpts
      · exact areas.frmPayload
      · exact areas.frmPayloadSize
    · exact ⟨holds.mhdr, holds.devAddr, holds.fCtrl, holds.fCnt, holds.fOpts, holds.payload,
        holds.frmPayloadSize, holds.fPort, holds.mic⟩
  · refine ⟨.errorBufSize, macMsg, ?_, areas, holds, fun success => by cases success⟩
    rw [loRaMacSerializerData, holds.computedBufSize_eq, if_pos (by omega)]

/-! ## Frames on the air -/

/-- The frame is signed as it is. -/
def DataFrame.resigned (cipher : KeyedCipher κ) (key : κ) (fCnt : UInt32) (frame : DataFrame) :
    DataFrame :=
  frame.signed (messageMic cipher key uplink frame.devAddr fCnt frame.body)

theorem DataFrame.length_bytes_secured (cipher : KeyedCipher κ) (keyOf : KeyIdentifier → κ)
    (appSkey nwkSkey : KeyIdentifier) (dir : UInt8) (fCnt : UInt32) (frame : DataFrame) :
    (frame.secured cipher keyOf appSkey nwkSkey dir fCnt).bytes.length = frame.bytes.length := by
  rw [secured, length_bytes_signed, length_bytes_crypt]

/-- A frame goes onto the air as `shown` under the counter `fCnt`, after the
counter `last`. -/
inductive Shown (cipher : KeyedCipher κ) (keyOf : KeyIdentifier → κ) (last : UInt32)
    (frame : DataFrame) : Bool → UInt32 → DataFrame → Prop
  | first (later : last < last + 1) :
      Shown cipher keyOf last frame false (last + 1)
        (frame.secured cipher keyOf .appSKey .nwkSKey uplink (last + 1))
  | again : Shown cipher keyOf last frame true last (frame.resigned cipher (keyOf .nwkSKey) last)

section Lawful

variable {api : SecureElementApi σ} {cipher : KeyedCipher κ} {keys : σ → KeyIdentifier → κ}

/-- What securing a frame does to the message and to the crypto context. -/
structure SecuredAs (keys : σ → KeyIdentifier → κ) (fCnt : UInt32) (shown : DataFrame)
    (ctx final : LoRaMacCryptoCtx σ) (txMsg : LoRaMacMessageData) : Prop where
  same : SameKeys keys ctx final
  fCntList : final.fCntList = { ctx.fCntList with fCntUp := fCnt }
  areas : txMsg.Areas
  holds : txMsg.Holds shown
  bytes : txMsg.buffer.take txMsg.bufSize = shown.bytes

/-- What `SecureFrame` does: the frame is secured, or there is no counter left
for it. -/
inductive FrameSecured (cipher : KeyedCipher κ) (keys : σ → KeyIdentifier → κ) (ctx : MacCtx σ)
    (frame : DataFrame) : LoRaMacStatus → MacCtx σ → Prop
  | secured (fCnt : UInt32) (shown : DataFrame) (crypto : LoRaMacCryptoCtx σ)
      (txMsg : LoRaMacMessageData)
      (onAir : Shown cipher (keys ctx.crypto.se) ctx.crypto.fCntList.fCntUp frame ctx.tx.isAgain
        fCnt shown)
      (secured : SecuredAs keys fCnt shown ctx.crypto crypto txMsg) :
      FrameSecured cipher keys ctx frame .ok
        { ctx with crypto := crypto, tx := { ctx.tx with txMsg := txMsg } }
  | usedUp : FrameSecured cipher keys ctx frame .cryptoError ctx

theorem wp_secureFrame (lawful : api.Lawful cipher keys) {frame : DataFrame} (ctx : MacCtx σ)
    (areas : ctx.tx.txMsg.Areas) (holds : ctx.tx.txMsg.Holds frame)
    (fits : frame.bytes.length ≤ ctx.tx.txMsg.bufSize) :
    wp (secureFrame api) (FrameSecured cipher keys ctx frame) ctx := by
  have room := areas.room fits
  have short := fits.trans areas.bufSize
  simp only [secureFrame, cryptoCall, loRaMacCryptoGetFCntUp, setTx, wp_bind, wp_zoom, wp_gets,
    wp_modify]
  cases used : ctx.tx.isAgain with
  | true =>
      have counter_eq : ctx.crypto.fCntList.fCntUp + 1 - 1 = ctx.crypto.fCntList.fCntUp :=
        UInt32.add_sub_cancel _ _
      rw [if_pos rfl, counter_eq]
      refine wp_mono (wp_secureMessage_again lawful ctx.crypto holds room) ?_
      rintro _ crypto ⟨rfl, same, counters⟩
      simp only [ne_eq, not_true_eq_false, ↓reduceIte, wp_pure]
      apply FrameSecured.secured ctx.crypto.fCntList.fCntUp
      · rw [used]
        exact .again
      · constructor
        · exact same
        · exact counters
        · exact areas.signedAs (by rw [DataFrame.length_bytes_signed]; exact short)
        · exact holds.signedAs _
        · exact LoRaMacMessageData.bytes_signedAs _ _
  | false =>
      rw [if_neg (by simp)]
      by_cases later : ctx.crypto.fCntList.fCntUp < ctx.crypto.fCntList.fCntUp + 1
      · refine wp_mono (wp_secureMessage_first lawful ctx.crypto holds room later) ?_
        rintro ⟨status, txMsg⟩ crypto ⟨status_eq, ⟨frmPayload, length_eq, txMsg_eq⟩, secured, same,
          counters⟩
        simp only at status_eq txMsg_eq secured
        subst status_eq txMsg_eq
        have with_area : ({ ctx.tx.txMsg with frmPayload := frmPayload } :
            LoRaMacMessageData).Areas :=
          ⟨areas.buffer, areas.bufSize, areas.fOpts, length_eq.trans areas.frmPayload,
            areas.frmPayloadSize⟩
        simp only [ne_eq, not_true_eq_false, ↓reduceIte, wp_pure]
        apply FrameSecured.secured (ctx.crypto.fCntList.fCntUp + 1)
        · rw [used]
          exact .first later
        · constructor
          · exact same
          · exact counters
          · exact with_area.signedAs (by rw [DataFrame.length_bytes_secured]; exact short)
          · exact secured
          · exact LoRaMacMessageData.bytes_signedAs _ _
      · have smaller : ctx.crypto.fCntList.fCntUp + 1 < ctx.crypto.fCntList.fCntUp := by
          apply UInt32.lt_of_le_of_ne (UInt32.not_lt.mp later)
          intro equal
          simp at equal
        simp only [loRaMacCryptoSecureMessage, wp_bind, wp_gets]
        rw [if_pos smaller]
        simp only [wp_pure, ne_eq, reduceCtorEq, not_false_eq_true, ↓reduceIte]
        exact .usedUp

/-- What the MAC keeps for a message after it was given to the radio. -/
def MacTx.sentAs (tx : MacTx) (txMsg : LoRaMacMessageData) (shown : DataFrame) : MacTx :=
  { tx with
    txMsg := txMsg
    txRunning := true
    channelsNbTransCounter :=
      if tx.nodeAckRequested then tx.channelsNbTransCounter
      else (tx.channelsNbTransCounter + 1) % 2 ^ 8
    air := tx.air ++ [shown.bytes] }

/-- What `ScheduleTx` does with a frame. -/
inductive Scheduled (cipher : KeyedCipher κ) (keys : σ → KeyIdentifier → κ) (ctx : MacCtx σ)
    (frame : DataFrame) : LoRaMacStatus → MacCtx σ → Prop
  | refused (status : LoRaMacStatus) (confirmStatus : LoRaMacEventInfoStatus)
      (txMsg : LoRaMacMessageData) (bad : status ≠ .ok) (areas : txMsg.Areas)
      (holds : txMsg.Holds frame) :
      Scheduled cipher keys ctx frame status
        { ctx with confirmStatus := confirmStatus, tx := { ctx.tx with txMsg := txMsg } }
  | delayed (txMsg : LoRaMacMessageData) (areas : txMsg.Areas) (holds : txMsg.Holds frame) :
      Scheduled cipher keys ctx frame .ok
        { ctx with
          tx := { ctx.tx with txMsg := txMsg, txDelayed := true }
          timers := { ctx.timers with txDelayedTimer := true } }
  | forgotten (txMsg : LoRaMacMessageData) (areas : txMsg.Areas) (holds : txMsg.Holds frame) :
      Scheduled cipher keys ctx frame .ok { ctx with tx := { ctx.tx with txMsg := txMsg } }
  | sent (fCnt : UInt32) (shown : DataFrame) (crypto : LoRaMacCryptoCtx σ)
      (txMsg : LoRaMacMessageData)
      (onAir : Shown cipher (keys ctx.crypto.se) ctx.crypto.fCntList.fCntUp frame ctx.tx.isAgain fCnt shown)
      (secured : SecuredAs keys fCnt shown ctx.crypto crypto txMsg) :
      Scheduled cipher keys ctx frame .ok
        { ctx with
          confirmStatus := .error
          crypto := crypto
          tx := ctx.tx.sentAs txMsg shown
          radio := .tx }

theorem wp_scheduleTx (lawful : api.Lawful cipher keys) {frame : DataFrame}
    (conditions : TxConditions) (allowDelayedTx : Bool) (ctx : MacCtx σ)
    (areas : ctx.tx.txMsg.Areas) (holds : ctx.tx.txMsg.Holds frame) :
    wp (scheduleTx api conditions allowDelayedTx) (fun status final =>
      Scheduled cipher keys ctx frame status final ∧
        (allowDelayedTx = true → status ≠ .dutycycleRestricted)) ctx := by
  rcases serialize_cases areas holds with
    ⟨serialized, txMsg, serialize_eq, msg_areas, msg_holds, size⟩
  rw [scheduleTx]
  simp only [wp_bind, wp_gets, wp_lift, serialize_eq, Option.some.injEq, exists_eq_left', setTx,
    wp_modify]
  cases serialized with
  | errorBufSize =>
      simp only [ne_eq, reduceCtorEq, not_false_eq_true, ↓reduceIte, wp_pure]
      exact ⟨.refused _ ctx.confirmStatus txMsg (by simp) msg_areas msg_holds, fun _ => by simp⟩
  | success =>
      simp only [ne_eq, not_true_eq_false, ↓reduceIte]
      by_cases free : conditions.nextChannel = .ok
      · rw [if_neg (not_not_intro free)]
        by_cases verified : conditions.verified = false
        · rw [if_pos verified, wp_pure]
          exact ⟨.refused _ ctx.confirmStatus txMsg (by simp) msg_areas msg_holds, fun _ => by simp⟩
        · rw [if_neg verified]
          simp only [sendFrameOnChannel, wp_bind, wp_modify]
          refine wp_mono (wp_secureFrame lawful _ msg_areas msg_holds (size rfl).ge) ?_
          intro status final done
          cases done with
          | secured fCnt shown crypto secured onAir as =>
              have sent : Scheduled cipher keys ctx frame .ok _ :=
                .sent fCnt shown crypto secured onAir as
              rw [MacTx.sentAs, ← as.bytes] at sent
              simp only [ne_eq, not_true_eq_false, ↓reduceIte, wp_bind, wp_modify, wp_pure]
              exact ⟨sent, fun _ => by simp⟩
          | usedUp =>
              simp only [ne_eq, reduceCtorEq, not_false_eq_true, ↓reduceIte, wp_pure]
              exact ⟨.refused _ .error txMsg (by simp) msg_areas msg_holds, fun _ => by simp⟩
      · rw [if_pos free]
        by_cases delay : conditions.nextChannel = .dutycycleRestricted ∧ allowDelayedTx = true
        · rw [if_pos delay]
          by_cases wait : conditions.dutyCycleWaitTime = 0
          · simp only [wait, not_true_eq_false, ↓reduceIte, wp_pure]
            exact ⟨.forgotten txMsg msg_areas msg_holds, fun _ => by simp⟩
          · simp only [wait, not_false_eq_true, ↓reduceIte, wp_bind, wp_modify, wp_pure]
            exact ⟨.delayed txMsg msg_areas msg_holds, fun _ => by simp⟩
        · rw [if_neg delay, wp_pure]
          exact ⟨.refused _ ctx.confirmStatus txMsg free msg_areas msg_holds,
            fun allowed restricted => delay ⟨restricted, allowed⟩⟩

end Lawful

/-! ## Requests -/

/-- A message that is prepared for the next counter. -/
structure LoRaMacMessageData.PreparedFor (macMsg : LoRaMacMessageData) (session : MacSession)
    (fCnt : UInt32) : Prop where
  areas : macMsg.Areas
  devAddr : macMsg.fhdr.devAddr = session.devAddr
  fCnt : macMsg.fhdr.fCnt = low16 fCnt

/-- What `PrepareFrame` keeps of a request, with its message. -/
def MacTx.preparedAs (tx : MacTx) (request : McpsReq) (fCntUp : UInt32)
    (txMsg : LoRaMacMessageData) : MacTx :=
  { tx with
    txMsg := txMsg
    nodeAckRequested := request.confirmed
    nbRetries := 0
    upLinkCounter := fCntUp }

theorem wp_prepareFrame (request : McpsReq) (conditions : RequestConditions) (ctx : MacCtx σ)
    (areas : ctx.tx.txMsg.Areas) (fits : request.fBuffer.length ≤ loramacPhyMaxpayload)
    (available : conditions.availableSize ≤ loramacPhyMaxpayload) :
    wp (prepareFrame request conditions) (fun status final =>
      (status = .ok ∨ status = .skippedAppData) ∧
      ∃ txMsg, txMsg.PreparedFor ctx.session (ctx.crypto.fCntList.fCntUp + 1) ∧
        final = { ctx with
          ackReceived := false
          tx := ctx.tx.preparedAs request (ctx.crypto.fCntList.fCntUp + 1) txMsg }) ctx := by
  have write := overwrite_zero (fits.trans areas.frmPayload.ge)
  have fOpts := areas.fOpts
  have buffer_length : (request.fBuffer ++ ctx.tx.txMsg.frmPayload.drop
      request.fBuffer.length).length = loramacPhyMaxpayload := by
    rw [List.length_append, List.length_drop, areas.frmPayload]
    omega
  have small : ∀ size, size % 2 ^ 8 ≤ loramacPhyMaxpayload := by
    intro size
    rw [loramacPhyMaxpayload]
    omega
  rw [prepareFrame]
  simp only [wp_bind, wp_gets, wp_lift, write, Option.some.injEq, exists_eq_left', cryptoCall,
    loRaMacCryptoGetFCntUp, wp_zoom, wp_modify, setTx, wp_ite, wp_pure]
  split
  · split
    · have options := conditions.macCommands.fits loraMacCommandMaxFoptsLength
      have into : (conditions.macCommands.serialized loraMacCommandMaxFoptsLength).length ≤
          ctx.tx.txMsg.fhdr.fOpts.length := options.trans fOpts
      refine ⟨_, overwrite_zero into, .inl trivial, _, ?_, rfl⟩
      refine ⟨⟨areas.buffer, le_refl _, ?_, buffer_length, small _⟩, rfl, rfl⟩
      rw [List.length_append, List.length_drop]
      omega
    · split
      · refine ⟨.inr trivial, _, ?_, rfl⟩
        exact ⟨⟨areas.buffer, le_refl _, fOpts, buffer_length, small _⟩, rfl, rfl⟩
      · have commands := conditions.macCommands.fits conditions.availableSize
        have into : (conditions.macCommands.serialized conditions.availableSize).length ≤
            (request.fBuffer ++ ctx.tx.txMsg.frmPayload.drop request.fBuffer.length).length := by
          rw [buffer_length]
          exact commands.trans available
        refine ⟨_, overwrite_zero into, .inl trivial, _, ?_, rfl⟩
        refine ⟨⟨areas.buffer, le_refl _, fOpts, ?_, small _⟩, rfl, rfl⟩
        rw [List.length_append, List.length_drop, buffer_length]
        omega
  · refine ⟨.inl trivial, _, ?_, rfl⟩
    exact ⟨⟨areas.buffer, le_refl _, fOpts, buffer_length, small _⟩, rfl, rfl⟩

/-- What a request starts with. -/
def MacTx.resetFor (tx : MacTx) (request : McpsReq) : MacTx :=
  { tx with
    mcpsRequest := .unconfirmed
    nbRetries := 0
    upLinkCounter := 0
    ackTimeoutRetriesCounter := 1
    ackTimeoutRetries := if request.confirmed then min request.nbTrials maxAckRetries else 1 }

/-- The context of a request whose message is prepared. -/
def MacCtx.requested (ctx : MacCtx σ) (request : McpsReq) (txMsg : LoRaMacMessageData) :
    MacCtx σ :=
  { ctx with
    confirmStatus := .error
    ackReceived := false
    tx := (ctx.tx.resetFor request).preparedAs request (ctx.crypto.fCntList.fCntUp + 1) txMsg }

/-- What `LoRaMacMcpsRequest` does in a session. -/
inductive Requested (cipher : KeyedCipher κ) (keys : σ → KeyIdentifier → κ) (request : McpsReq)
    (ctx : MacCtx σ) : MacCtx σ → Prop
  | busy (busy : ctx.isBusy = true) : Requested cipher keys request ctx ctx
  | invalid (idle : ctx.isBusy = false) :
      Requested cipher keys request ctx
        { ctx with
          confirmStatus := .error, ackReceived := false, tx := ctx.tx.resetFor request }
  | refused (idle : ctx.isBusy = false) {txMsg : LoRaMacMessageData} {frame : DataFrame}
      {status : LoRaMacStatus} {scheduled : MacCtx σ}
      (prepared : txMsg.PreparedFor ctx.session (ctx.crypto.fCntList.fCntUp + 1))
      (holds : txMsg.Holds frame) (bad : status ≠ .ok)
      (done : Scheduled cipher keys (ctx.requested request txMsg) frame status scheduled) :
      Requested cipher keys request ctx
        { scheduled with tx := { scheduled.tx with nodeAckRequested := false } }
  | taken (idle : ctx.isBusy = false) {txMsg : LoRaMacMessageData} {frame : DataFrame}
      {scheduled : MacCtx σ}
      (prepared : txMsg.PreparedFor ctx.session (ctx.crypto.fCntList.fCntUp + 1))
      (holds : txMsg.Holds frame)
      (done : Scheduled cipher keys (ctx.requested request txMsg) frame .ok scheduled) :
      Requested cipher keys request ctx
        { scheduled with
          srvAckRequested := false
          tx := { scheduled.tx with
            mcpsRequest := if request.confirmed then .confirmed else .unconfirmed
            mcpsReq := true } }

section Lawful

variable {api : SecureElementApi σ} {cipher : KeyedCipher κ} {keys : σ → KeyIdentifier → κ}

theorem wp_loRaMacMcpsRequest (lawful : api.Lawful cipher keys) (request : McpsReq)
    (conditions : RequestConditions) (ctx : MacCtx σ)
    (joined : ctx.session.networkActivation ≠ .none) (areas : ctx.tx.txMsg.Areas)
    (fits : request.fBuffer.length ≤ loramacPhyMaxpayload)
    (available : conditions.availableSize ≤ loramacPhyMaxpayload) :
    wp (loRaMacMcpsRequest api request conditions)
      (fun _ final => Requested cipher keys request ctx final) ctx := by
  rw [loRaMacMcpsRequest]
  simp only [wp_bind, wp_gets, wp_ite, wp_pure, wp_modify]
  split
  · rename_i busy
    exact .busy busy
  · rename_i not_busy
    have idle : ctx.isBusy = false := by simpa using not_busy
    split
    · exact .invalid idle
    · simp only [send, wp_bind, wp_gets, joined, ↓reduceIte]
      refine wp_mono (wp_prepareFrame request conditions _ areas fits available) ?_
      rintro prepared _ ⟨accepted, txMsg, ready, rfl⟩
      rw [if_pos accepted]
      rcases ready.areas.exists_frame with ⟨frame, holds⟩
      simp only [wp_bind]
      refine wp_mono (wp_scheduleTx lawful conditions.tx conditions.allowDelayedTx
        (ctx.requested request txMsg) ready.areas holds) ?_
      rintro status scheduled ⟨done, -⟩
      by_cases taken : status = .ok
      · subst taken
        simp only [↓reduceIte, wp_bind, wp_modify, wp_pure, setTx]
        exact .taken idle ready holds done
      · simp only [taken, ↓reduceIte, wp_modify, wp_pure, setTx]
        exact .refused idle ready holds taken done

/-! ## Frames that are sent again -/

/-- The context when a delay is over. -/
def MacCtx.undelayed (ctx : MacCtx σ) : MacCtx σ :=
  { ctx with
    tx := { ctx.tx with txDelayed := false }
    timers := { ctx.timers with txDelayedTimer := false } }

/-- What is left when a message is given up. -/
structure GivenUp (ctx final : MacCtx σ) : Prop where
  tx : ∃ nbRetries, final.tx = { ctx.tx with
    nbRetries := nbRetries
    channelsNbTransCounter := 0
    nodeAckRequested := false
    txRunning := false }
  rest : ∃ confirmStatus, final = { ctx with
    confirmStatus := confirmStatus, ackTimeoutRetry := false, tx := final.tx }

/-- What `OnTxDelayedTimerEvent` does. -/
inductive SentLater (cipher : KeyedCipher κ) (keys : σ → KeyIdentifier → κ) (ctx : MacCtx σ)
    (frame : DataFrame) : MacCtx σ → Prop
  | scheduled {final : MacCtx σ}
      (done : Scheduled cipher keys ctx.undelayed frame .ok final) :
      SentLater cipher keys ctx frame final
  | stopped {status : LoRaMacStatus} {scheduled final : MacCtx σ} (bad : status ≠ .ok)
      (done : Scheduled cipher keys ctx.undelayed frame status scheduled)
      (givenUp : GivenUp scheduled final) : SentLater cipher keys ctx frame final

theorem wp_onTxDelayedTimerEvent (lawful : api.Lawful cipher keys) {frame : DataFrame}
    (conditions : TxConditions) (ctx : MacCtx σ) (areas : ctx.tx.txMsg.Areas)
    (holds : ctx.tx.txMsg.Holds frame) :
    wp (onTxDelayedTimerEvent api conditions)
      (fun _ final => SentLater cipher keys ctx frame final) ctx := by
  simp only [onTxDelayedTimerEvent, wp_bind, wp_modify]
  refine wp_mono (wp_scheduleTx lawful conditions true ctx.undelayed areas holds) ?_
  rintro status scheduled ⟨done, not_restricted⟩
  by_cases taken : status = .ok
  · subst taken
    simp only [true_or, ↓reduceIte, wp_pure]
    exact .scheduled done
  · simp only [taken, not_restricted rfl, or_self, ↓reduceIte, stopRetransmission, wp_bind,
      wp_modify]
    exact .stopped taken done ⟨⟨_, rfl⟩, ⟨_, rfl⟩⟩

/-- How a message is sent again: an unconfirmed one as it is, a confirmed one
that was not acknowledged in time with its trials counted. -/
inductive Repeated (channelsNbTrans : ℕ) (ctx : MacCtx σ) : MacTx → Prop
  | unconfirmed (service : ctx.tx.mcpsRequest ≠ .confirmed)
      (left : ctx.tx.mcpsRequest ≠ .multicast →
        ctx.tx.channelsNbTransCounter < channelsNbTrans)
      (unanswered : ctx.tx.mcpsRequest ≠ .multicast → ctx.session.deviceClass = .classA →
        ctx.mcpsInd = false) :
      Repeated channelsNbTrans ctx ctx.tx
  | confirmed (service : ctx.tx.mcpsRequest = .confirmed)
      (left : ctx.tx.ackTimeoutRetriesCounter < ctx.tx.ackTimeoutRetries) :
      Repeated channelsNbTrans ctx { ctx.tx with
        ackTimeoutRetriesCounter := (ctx.tx.ackTimeoutRetriesCounter + 1) % 2 ^ 8 }

/-- What `LoRaMacHandleMcpsRequest` does. -/
inductive McpsHandled (cipher : KeyedCipher κ) (keys : σ → KeyIdentifier → κ)
    (channelsNbTrans : ℕ) (ctx : MacCtx σ) (frame : DataFrame) : MacCtx σ → Prop
  | nothing (none : ctx.tx.mcpsReq = false) : McpsHandled cipher keys channelsNbTrans ctx frame ctx
  | waits (service : ctx.tx.mcpsRequest = .confirmed) (early : ctx.ackTimeoutRetry = false) :
      McpsHandled cipher keys channelsNbTrans ctx frame ctx
  | stopped {final : MacCtx σ} (givenUp : GivenUp ctx.undelayed final) :
      McpsHandled cipher keys channelsNbTrans ctx frame final
  | again {tx : MacTx} {final : MacCtx σ} (repeated : Repeated channelsNbTrans ctx tx)
      (sent : SentLater cipher keys
        { ctx with macDone := false, ackTimeoutRetry := false, tx := tx } frame final) :
      McpsHandled cipher keys channelsNbTrans ctx frame final

/-- What the first part of `LoRaMacHandleMcpsRequest` decides. -/
inductive Decided (channelsNbTrans : ℕ) (ctx : MacCtx σ) : Retransmission → MacCtx σ → Prop
  | stop (nodeAckRequested : Bool) (nbRetries : ℕ) :
      Decided channelsNbTrans ctx .stop { ctx with tx := { ctx.tx with
        nodeAckRequested := nodeAckRequested, nbRetries := nbRetries } }
  | wait (service : ctx.tx.mcpsRequest = .confirmed) (early : ctx.ackTimeoutRetry = false) :
      Decided channelsNbTrans ctx .wait ctx
  | again {tx : MacTx} (repeated : Repeated channelsNbTrans ctx tx) :
      Decided channelsNbTrans ctx .again { ctx with tx := tx }

theorem wp_checkRetransmission (channelsNbTrans : ℕ) (ctx : MacCtx σ)
    (version : ctx.session.minor = 0) :
    wp (checkRetransmission channelsNbTrans) (Decided channelsNbTrans ctx) ctx := by
  have plain : ctx.tx.mcpsRequest = .unconfirmed ∨ ctx.tx.mcpsRequest = .proprietary →
      Decided channelsNbTrans ctx
        (if ctx.checkRetransUnconfirmedUplink channelsNbTrans then .stop else .again) ctx := by
    intro service
    split
    · exact .stop ctx.tx.nodeAckRequested ctx.tx.nbRetries
    · rename_i more
      have repeated : Repeated channelsNbTrans ctx ctx.tx := by
        apply Repeated.unconfirmed
        · rcases service with service | service <;> simp [service]
        · intro _
          simp only [MacCtx.checkRetransUnconfirmedUplink, Bool.not_eq_true, Bool.or_eq_false_iff,
            decide_eq_false_iff_not, not_le] at more
          exact more.1
        · intro _ classA
          simp only [MacCtx.checkRetransUnconfirmedUplink, classA, decide_true, Bool.true_or,
            Bool.and_true, Bool.not_eq_true, Bool.or_eq_false_iff] at more
          exact more.2
      exact .again repeated
  rw [checkRetransmission]
  simp only [wp_bind, wp_gets]
  cases service : ctx.tx.mcpsRequest with
  | unconfirmed =>
      rw [wp_pure]
      exact plain (.inl service)
  | proprietary =>
      rw [wp_pure]
      exact plain (.inr service)
  | multicast =>
      rw [wp_pure]
      exact .again (.unconfirmed (by simp [service]) (by simp [service]) (by simp [service]))
  | confirmed =>
      simp only
      split
      · rename_i early
        rw [wp_pure]
        exact .wait service early
      · split
        · simp only [ackTimeoutRetriesFinalize, wp_bind, wp_modify, wp_pure]
          exact .stop _ _
        · rename_i stop
          have left : ctx.tx.ackTimeoutRetriesCounter < ctx.tx.ackTimeoutRetries := by
            simp only [MacCtx.checkRetransConfirmedUplink, Bool.not_eq_true, Bool.or_eq_false_iff,
              decide_eq_false_iff_not, not_le] at stop
            exact stop.1
          simp only [ackTimeoutRetriesProcess, setTx, wp_bind, wp_modify, wp_pure, left]
          exact .again (.confirmed service left)

theorem wp_loRaMacHandleMcpsRequest (lawful : api.Lawful cipher keys) {frame : DataFrame}
    (channelsNbTrans : ℕ) (conditions : TxConditions) (ctx : MacCtx σ)
    (version : ctx.session.minor = 0) (areas : ctx.tx.txMsg.Areas)
    (holds : ctx.tx.txMsg.Holds frame) :
    wp (loRaMacHandleMcpsRequest api channelsNbTrans conditions)
      (fun _ final => McpsHandled cipher keys channelsNbTrans ctx frame final) ctx := by
  simp only [loRaMacHandleMcpsRequest, wp_bind, wp_gets]
  cases requested : ctx.tx.mcpsReq with
  | false =>
      simp only [Bool.false_eq_true, ↓reduceIte, wp_pure]
      exact .nothing requested
  | true =>
      simp only [↓reduceIte, wp_bind]
      refine wp_mono (wp_checkRetransmission channelsNbTrans ctx version) ?_
      intro decision middle decided
      cases decided with
      | stop nodeAckRequested nbRetries =>
          simp only [stopRetransmission, wp_bind, wp_modify]
          exact .stopped ⟨⟨nbRetries, rfl⟩, ⟨_, rfl⟩⟩
      | wait service early =>
          simp only [wp_pure]
          exact .waits service early
      | again repeated =>
          rename_i tx
          have same : tx.txMsg = ctx.tx.txMsg := by
            cases repeated <;> rfl
          simp only [wp_bind, wp_modify]
          refine wp_mono (wp_onTxDelayedTimerEvent lawful conditions _ (same ▸ areas)
            (same ▸ holds)) ?_
          intro _ final sent
          exact .again repeated sent

end Lawful

end GenericNode.LoRaMac
