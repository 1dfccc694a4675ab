import GenericNode.LoRaMac.AnyFrame

/-!
# What a reception does

Whatever the bytes are, a reception leaves the session, the message that is
sent and the keys.  It accepts a frame only with a fresh counter and the MIC
for it, and then sets the counter.
-/

namespace GenericNode.LoRaMac

open GenericNode.Library
open GenericNode.Library.Prog
open GenericNode.SecureElement

variable {σ κ : Type} {keys : σ → KeyIdentifier → κ}

/-! ## What is left -/

/-- An abort is noted for a message that waits for an acknowledgement, and a
device of class A has no slot of class C. -/
structure MacCtx.Sound (ctx : MacCtx σ) : Prop where
  abort : ctx.rxAbort = true → ctx.tx.nodeAckRequested = true → ctx.ackTimeoutRetry = true
  slot : ctx.session.deviceClass = .classA → ctx.rxSlot ≠ .winClassC

/-- What every part of a reception leaves. -/
structure Kept (keys : σ → KeyIdentifier → κ) (ctx final : MacCtx σ) : Prop where
  session : final.session = ctx.session
  tx : final.tx = ctx.tx
  crypto : SameKeys keys ctx.crypto final.crypto
  fCntUp : final.crypto.fCntList.fCntUp = ctx.crypto.fCntList.fCntUp
  rxPayload : final.rxPayload.length = ctx.rxPayload.length
  radio : final.radio = ctx.radio
  indications : final.indications = ctx.indications
  txDelayedTimer : final.timers.txDelayedTimer = ctx.timers.txDelayedTimer
  rxWindowTimer1 : final.timers.rxWindowTimer1 = ctx.timers.rxWindowTimer1
  rxWindowTimer2 : final.timers.rxWindowTimer2 = ctx.timers.rxWindowTimer2
  ackTimeoutTimer : final.timers.ackTimeoutTimer = true →
    ctx.timers.ackTimeoutTimer = true ∧ final.ackTimeoutRetry = ctx.ackTimeoutRetry
  ackTimeoutRetry : ctx.tx.nodeAckRequested = false → final.ackTimeoutRetry = ctx.ackTimeoutRetry
  sound : ctx.Sound → final.Sound

namespace Kept

theorem refl (ctx : MacCtx σ) : Kept keys ctx ctx :=
  ⟨rfl, rfl, .refl _, rfl, rfl, rfl, rfl, rfl, rfl, rfl, fun running => ⟨running, rfl⟩,
    fun _ => rfl, id⟩

theorem trans {first second third : MacCtx σ} (kept : Kept keys first second)
    (also : Kept keys second third) : Kept keys first third where
  session := also.session.trans kept.session
  tx := also.tx.trans kept.tx
  crypto := kept.crypto.trans also.crypto
  fCntUp := also.fCntUp.trans kept.fCntUp
  rxPayload := also.rxPayload.trans kept.rxPayload
  radio := also.radio.trans kept.radio
  indications := also.indications.trans kept.indications
  txDelayedTimer := also.txDelayedTimer.trans kept.txDelayedTimer
  rxWindowTimer1 := also.rxWindowTimer1.trans kept.rxWindowTimer1
  rxWindowTimer2 := also.rxWindowTimer2.trans kept.rxWindowTimer2
  ackTimeoutTimer running := by
    rcases also.ackTimeoutTimer running with ⟨before, same⟩
    rcases kept.ackTimeoutTimer before with ⟨start, still⟩
    exact ⟨start, same.trans still⟩
  ackTimeoutRetry no_ack :=
    (also.ackTimeoutRetry (by rw [kept.tx]; exact no_ack)).trans (kept.ackTimeoutRetry no_ack)
  sound sound := also.sound (kept.sound sound)

end Kept

/-! ## Aborts -/

/-- The context after an abort. -/
def MacCtx.aborted (ctx : MacCtx σ) : MacCtx σ :=
  { ctx with
    rxAbort := true
    timers := { ctx.timers with
      ackTimeoutTimer := ctx.timers.ackTimeoutTimer && !ctx.tx.nodeAckRequested }
    ackTimeoutRetry := ctx.ackTimeoutRetry || ctx.tx.nodeAckRequested
    mcpsInd := true
    macDone := true
    rxSlot := if ctx.session.deviceClass ≠ .classC then .none else .winClassC }

@[simp]
theorem wp_prepareRxDoneAbort (post : Unit → MacCtx σ → Prop) (ctx : MacCtx σ) :
    wp prepareRxDoneAbort post ctx ↔ post () ctx.aborted := by
  cases requested : ctx.tx.nodeAckRequested with
  | false =>
      simp only [prepareRxDoneAbort, updateRxSlotIdleState, wp_bind, wp_modify, wp_gets, requested,
        Bool.false_eq_true, ↓reduceIte, MacCtx.aborted, Bool.not_false, Bool.and_true,
        Bool.or_false]
  | true =>
      simp only [prepareRxDoneAbort, onAckTimeoutTimerEvent, updateRxSlotIdleState, wp_bind,
        wp_modify, wp_gets, requested, ↓reduceIte, MacCtx.aborted, Bool.not_true,
        Bool.and_false, Bool.or_true]

@[simp]
theorem wp_setIndication (change : McpsIndication → McpsIndication)
    (post : Unit → MacCtx σ → Prop) (ctx : MacCtx σ) :
    wp (setIndication change) post ctx ↔ post () { ctx with indication := change ctx.indication } :=
  wp_modify _ _ _

@[simp]
theorem wp_abortWith (status : LoRaMacEventInfoStatus) (post : Unit → MacCtx σ → Prop)
    (ctx : MacCtx σ) :
    wp (abortWith status) post ctx ↔
      post () { ctx with indication := { ctx.indication with status := status } }.aborted := by
  simp only [abortWith, wp_bind, wp_setIndication, wp_prepareRxDoneAbort]

theorem kept_aborted (ctx : MacCtx σ) : Kept keys ctx ctx.aborted := by
  constructor
  case crypto => exact .refl _
  case ackTimeoutTimer =>
    intro running
    simp only [MacCtx.aborted, Bool.and_eq_true, Bool.not_eq_true'] at running ⊢
    rcases running with ⟨before, no_ack⟩
    exact ⟨before, by rw [no_ack, Bool.or_false]⟩
  case ackTimeoutRetry =>
    intro no_ack
    simp only [MacCtx.aborted, no_ack, Bool.or_false]
  case sound =>
    intro _
    constructor
    · intro _ requested
      have acknowledged : ctx.tx.nodeAckRequested = true := requested
      simp only [MacCtx.aborted, acknowledged, Bool.or_true]
    · intro classA
      have deviceClass : ctx.session.deviceClass = .classA := classA
      simp [MacCtx.aborted, deviceClass]
  all_goals rfl

/-- A reception that leaves the counters and tells the upper layer so. -/
structure Refused (ctx final : MacCtx σ) : Prop where
  fCntList : final.crypto.fCntList = ctx.crypto.fCntList
  status : final.indication.status ≠ .ok
  mcpsInd : final.mcpsInd = true
  macDone : final.macDone = true

variable (keys) in
/-- What the indication says is not among what is left. -/
theorem kept_indication (ctx : MacCtx σ) (indication : McpsIndication) :
    Kept keys ctx { ctx with indication := indication } :=
  ⟨rfl, rfl, .refl _, rfl, rfl, rfl, rfl, rfl, rfl, rfl, fun running => ⟨running, rfl⟩,
    fun _ => rfl, fun sound => ⟨sound.abort, sound.slot⟩⟩

variable (keys) in
/-- An abort refuses the frame. -/
theorem wp_abortWith_refused {status : LoRaMacEventInfoStatus} (ctx : MacCtx σ)
    (bad : status ≠ .ok) :
    wp (abortWith status) (fun _ final => Kept keys ctx final ∧ Refused ctx final) ctx := by
  rw [wp_abortWith]
  constructor
  · exact (kept_indication _ ctx _).trans (kept_aborted _)
  · exact ⟨rfl, bad, rfl, rfl⟩

variable (keys) in
/-- So does the abort for a counter that is not accepted. -/
theorem wp_abortFCntDown (status : LoRaMacCryptoStatus) (mhdr : UInt8)
    (macMsg : LoRaMacMessageData) (downLinkCounter : UInt32) (ctx : MacCtx σ) :
    wp (abortFCntDown status mhdr macMsg downLinkCounter)
      (fun _ final => Kept keys ctx final ∧ Refused ctx final) ctx := by
  have plain : ∀ (indication : McpsIndication) (srvAckRequested : Bool),
      Kept keys ctx { ctx with indication := indication, srvAckRequested := srvAckRequested } :=
    fun _ _ => ⟨rfl, rfl, .refl _, rfl, rfl, rfl, rfl, rfl, rfl, rfl,
      fun running => ⟨running, rfl⟩, fun _ => rfl, fun sound => ⟨sound.abort, sound.slot⟩⟩
  have leaves : ∀ (indication : McpsIndication) (srvAckRequested : Bool),
      indication.status ≠ .ok →
      Kept keys ctx
        { ctx with indication := indication, srvAckRequested := srvAckRequested }.aborted ∧
      Refused ctx
        { ctx with indication := indication, srvAckRequested := srvAckRequested }.aborted := by
    intro indication srvAckRequested bad
    exact ⟨(plain _ _).trans (kept_aborted _), ⟨rfl, bad, rfl, rfl⟩⟩
  cases status with
  | failFcntDuplicated =>
      simp only [abortFCntDown, wp_bind, wp_setIndication, wp_modify, wp_prepareRxDoneAbort]
      split
      · exact leaves _ true (by simp)
      · exact leaves _ ctx.srvAckRequested (by simp)
  | _ =>
      simp only [abortFCntDown, wp_bind, wp_setIndication, wp_prepareRxDoneAbort]
      exact leaves _ ctx.srvAckRequested (by simp)

/-! ## Checks -/

/-- The keys of an address, the entry of `KeyAddrList`. -/
def keyAddrOf : AddressIdentifier → KeyAddr
  | .multicast0Addr => ⟨.multicast0Addr, .mcAppSKey0, .mcNwkSKey0, .mcKey0⟩
  | .unicastDevAddr => ⟨.unicastDevAddr, .appSKey, .nwkSKey, .noKey⟩

theorem getKeyAddrItem_eq (addrID : AddressIdentifier) :
    getKeyAddrItem addrID = some (keyAddrOf addrID) := by
  cases addrID <;> rfl

/-- The counter that a message is checked with. -/
def MacSession.fCntIDOf (session : MacSession) (macMsg : LoRaMacMessageData) (fType : FType) :
    FCntIdentifier :=
  fCntIdentifierOf (session.addressOf macMsg).1 fType session.minor

/-- A multicast message carries data and nothing else. -/
def MacSession.DataOnly (session : MacSession) (macMsg : LoRaMacMessageData) (fType : FType) :
    Prop :=
  session.isMulticast macMsg = true → fType = .frameTypeD ∧
    ackOf macMsg.fhdr.fCtrl = false ∧ adrAckReqOf macMsg.fhdr.fCtrl = false

/-- The counter of a message is accepted after the one that was accepted last. -/
structure CounterAccepted (crypto : LoRaMacCryptoCtx σ) (fCntID : FCntIdentifier) (maxFCntGap : ℕ)
    (frameFcnt : UInt16) (fCntDown : UInt32) : Prop where
  success : ∃ last, crypto.fCntList.down fCntID = some last ∧
    FCntDownAnswer crypto.minor last maxFCntGap frameFcnt (.success, some fCntDown)
  fresh : crypto.fCntList.Fresh fCntID fCntDown

/-- A message comes from the holder of the keys, under a counter that is
accepted. -/
structure Genuine (cipher : KeyedCipher κ) (keys : σ → KeyIdentifier → κ) (session : MacSession)
    (crypto : LoRaMacCryptoCtx σ) (macMsg : LoRaMacMessageData) (fType : FType)
    (fCntDown : UInt32) : Prop where
  counter : CounterAccepted crypto (session.fCntIDOf macMsg fType) session.maxFCntGap
    macMsg.fhdr.fCnt fCntDown
  address : macMsg.fhdr.devAddr = (session.addressOf macMsg).2
  authentic : macMsg.Authentic cipher
    (keys crypto.se (keyAddrOf (session.addressOf macMsg).1).nwkSkey)
    (session.addressOf macMsg).2 fCntDown

/-- A message passes the checks of a reception. -/
structure Passes (cipher : KeyedCipher κ) (keys : σ → KeyIdentifier → κ) (session : MacSession)
    (crypto : LoRaMacCryptoCtx σ) (maxPayload size : ℕ) (macMsg : LoRaMacMessageData)
    (fType : FType) (fCntDown : UInt32) : Prop where
  most : size - loramacFramePayloadOverheadSize ≤ maxPayload
  least : loramacFramePayloadMinSize ≤ size
  frameType : determineFrameType macMsg = some fType
  dataOnly : session.DataOnly macMsg fType
  genuine : Genuine cipher keys session crypto macMsg fType fCntDown

/-- A message decrypted under a counter. -/
def decrypted (cipher : KeyedCipher κ) (keys : σ → KeyIdentifier → κ) (session : MacSession)
    (crypto : LoRaMacCryptoCtx σ) (macMsg : LoRaMacMessageData) (fCntDown : UInt32) :
    LoRaMacMessageData :=
  macMsg.crypt (keystream cipher
    (keys crypto.se (macMsg.payloadKeyID (keyAddrOf (session.addressOf macMsg).1).appSkey))
    (session.addressOf macMsg).2 downlink fCntDown)

/-- What the upper layer is told when the indication began as `indication`. -/
def McpsIndication.accepted (indication : McpsIndication) (mhdr : UInt8) (multicast : Bool)
    (fType : FType) (fCntDown : UInt32) (macMsg : LoRaMacMessageData) : McpsIndication :=
  deliver fType macMsg { indication with
    mcpsIndication := if multicast then .multicast
      else if mType mhdr = .dataConfirmedDown then .confirmed else .unconfirmed
    status := .ok
    multicast := multicast
    framePending := fPendingOf macMsg.fhdr.fCtrl
    buffer := none
    ackReceived := ackOf macMsg.fhdr.fCtrl
    downLinkCounter := fCntDown }

/-- What the acceptance of a frame does. -/
structure Accepted (session : MacSession) (indication : McpsIndication) (mhdr : UInt8)
    (fType : FType) (fCntDown : UInt32) (macMsg : LoRaMacMessageData) (ctx final : MacCtx σ) :
    Prop where
  fCntList : final.crypto.fCntList =
    ctx.crypto.fCntList.setDown (session.fCntIDOf macMsg fType) fCntDown
  indication : final.indication =
    indication.accepted mhdr (session.isMulticast macMsg) fType fCntDown macMsg
  commands : final.commands = ctx.commands ++ macCommandsOf fType macMsg
  mcpsInd : final.mcpsInd = true

/-! ## The parts of a reception -/

variable (keys) in
theorem wp_acceptFrame (mhdr : UInt8) (multicast : Bool) (fType : FType) (fCntDown : UInt32)
    (macMsg : LoRaMacMessageData) (ctx : MacCtx σ) :
    wp (acceptFrame mhdr multicast fType fCntDown macMsg) (fun _ final =>
      Kept keys ctx final ∧ final.crypto = ctx.crypto ∧
        final.indication = ctx.indication.accepted mhdr multicast fType fCntDown macMsg ∧
        final.commands = ctx.commands ++ macCommandsOf fType macMsg ∧ final.mcpsInd = true) ctx := by
  have kept : ∀ final : MacCtx σ, final.session = ctx.session → final.tx = ctx.tx →
      final.crypto = ctx.crypto → final.rxPayload = ctx.rxPayload → final.radio = ctx.radio →
      final.indications = ctx.indications → final.timers = ctx.timers →
      final.ackTimeoutRetry = ctx.ackTimeoutRetry → final.rxAbort = ctx.rxAbort →
      final.rxSlot = ctx.rxSlot → Kept keys ctx final := by
    intro final session tx crypto rxPayload radio indications timers ackTimeoutRetry rxAbort rxSlot
    constructor
    case crypto => rw [crypto]; exact .refl _
    case fCntUp => rw [crypto]
    case rxPayload => rw [rxPayload]
    case ackTimeoutTimer =>
      intro running
      rw [timers] at running
      exact ⟨running, ackTimeoutRetry⟩
    case ackTimeoutRetry => exact fun _ => ackTimeoutRetry
    case sound =>
      intro sound
      constructor
      · rw [rxAbort, tx, ackTimeoutRetry]
        exact sound.abort
      · rw [session, rxSlot]
        exact sound.slot
    all_goals first | assumption | rw [timers]
  cases multicast with
  | true =>
      simp only [acceptFrame, wp_bind, wp_setIndication, wp_modify, ↓reduceIte]
      exact ⟨kept _ rfl rfl rfl rfl rfl rfl rfl rfl rfl rfl, trivial, rfl, trivial, trivial⟩
  | false =>
      simp only [acceptFrame, wp_bind, wp_setIndication, wp_modify, Bool.false_eq_true, ↓reduceIte]
      by_cases confirmed : mType mhdr = .dataConfirmedDown
      · simp only [confirmed, ↓reduceIte, wp_bind, wp_setIndication, wp_modify]
        refine ⟨kept _ rfl rfl rfl rfl rfl rfl rfl rfl rfl rfl, trivial, ?_, trivial, trivial⟩
        simp only [McpsIndication.accepted, confirmed, Bool.false_eq_true, ↓reduceIte]
      · simp only [confirmed, ↓reduceIte, wp_bind, wp_setIndication, wp_modify]
        refine ⟨kept _ rfl rfl rfl rfl rfl rfl rfl rfl rfl rfl, trivial, ?_, trivial, trivial⟩
        simp only [McpsIndication.accepted, confirmed, Bool.false_eq_true, ↓reduceIte]

/-- The slot that a message is received in. -/
def MacSession.slotOf (session : MacSession) (macMsg : LoRaMacMessageData)
    (rxSlot : LoRaMacRxSlot) : LoRaMacRxSlot :=
  if session.isMulticast macMsg = true ∧ session.deviceClass = .classC then .winClassCMulticast
  else rxSlot

/-- The counter of a message is one of those for downlinks. -/
theorem exists_down (session : MacSession) (macMsg : LoRaMacMessageData) (fType : FType)
    (fCntList : FCntList) : ∃ last, fCntList.down (session.fCntIDOf macMsg fType) = some last := by
  rw [MacSession.fCntIDOf]
  cases (session.addressOf macMsg).1 with
  | multicast0Addr => exact ⟨_, rfl⟩
  | unicastDevAddr =>
      rw [fCntIdentifierOf]
      split
      · split <;> exact ⟨_, rfl⟩
      · exact ⟨_, rfl⟩

@[simp]
theorem setDown_fCntUp (fCntList : FCntList) (fCntID : FCntIdentifier) (value : UInt32) :
    (fCntList.setDown fCntID value).fCntUp = fCntList.fCntUp := by
  cases fCntID <;> rfl

section Lawful

variable {api : SecureElementApi σ} {cipher : KeyedCipher κ}

/-- A message is accepted under a counter that passes the checks, or refused
since none passes. -/
inductive Checked (cipher : KeyedCipher κ) (keys : σ → KeyIdentifier → κ)
    (passes : FType → UInt32 → Prop) (indication : McpsIndication) (mhdr : UInt8)
    (macMsg : LoRaMacMessageData) (ctx final : MacCtx σ) : Bool → Prop
  | accepted (fType : FType) (fCntDown : UInt32) (passed : passes fType fCntDown)
      (accepted : Accepted ctx.session indication mhdr fType fCntDown
        (decrypted cipher keys ctx.session ctx.crypto macMsg fCntDown) ctx final) :
      Checked cipher keys passes indication mhdr macMsg ctx final false
  | refused (failed : ∀ fType fCntDown, ¬ passes fType fCntDown) (refused : Refused ctx final) :
      Checked cipher keys passes indication mhdr macMsg ctx final true

/-- What comes before the checks may change the area of the payload and what the
indication says. -/
theorem Checked.before {passes other : FType → UInt32 → Prop}
    {indication changed : McpsIndication} {mhdr : UInt8} {macMsg : LoRaMacMessageData}
    {ctx final : MacCtx σ} {rxPayload : List UInt8} {aborted : Bool}
    (checked : Checked cipher keys passes indication mhdr macMsg
      { ctx with rxPayload := rxPayload, indication := changed } final aborted)
    (same : ∀ fType fCntDown, passes fType fCntDown ↔ other fType fCntDown) :
    Checked cipher keys other indication mhdr macMsg ctx final aborted := by
  cases checked with
  | accepted fType fCntDown passed accepted =>
      exact .accepted fType fCntDown ((same fType fCntDown).mp passed)
        ⟨accepted.fCntList, accepted.indication, accepted.commands, accepted.mcpsInd⟩
  | refused failed refused =>
      exact .refused (fun fType fCntDown passed => failed fType fCntDown
          ((same fType fCntDown).mpr passed))
        ⟨refused.fCntList, refused.status, refused.mcpsInd, refused.macDone⟩

/-- What refuses a frame later on refuses it from the start. -/
theorem Checked.refuse {passes : FType → UInt32 → Prop} {indication : McpsIndication}
    {mhdr : UInt8} {macMsg : LoRaMacMessageData} {ctx middle final : MacCtx σ}
    (before : Kept keys ctx middle) (counters : middle.crypto.fCntList = ctx.crypto.fCntList)
    (failed : ∀ fType fCntDown, ¬ passes fType fCntDown)
    (after : Kept keys middle final ∧ Refused middle final) :
    Kept keys ctx final ∧ Checked cipher keys passes indication mhdr macMsg ctx final true := by
  rcases after with ⟨kept, refused⟩
  constructor
  · exact before.trans kept
  · exact .refused failed
      ⟨refused.fCntList.trans counters, refused.status, refused.mcpsInd, refused.macDone⟩

theorem wp_unsecureFrame (lawful : api.Lawful cipher keys) {macMsg : LoRaMacMessageData}
    (mhdr : UInt8) (fType : FType) (ctx : MacCtx σ)
    (parse : loRaMacParserData macMsg = some (.success, macMsg)) (inside : macMsg.Inside)
    (room : macMsg.frmPayload.length = ctx.rxPayload.length) :
    wp (unsecureFrame api mhdr fType macMsg) (fun aborted final =>
      Kept keys ctx final ∧ Checked cipher keys (fun frameType fCntDown => frameType = fType ∧
        Genuine cipher keys ctx.session ctx.crypto macMsg fType fCntDown) ctx.indication mhdr
          macMsg ctx final aborted) ctx := by
  let session := ctx.session
  let fCntID := session.fCntIDOf macMsg fType
  obtain ⟨last, last_eq⟩ := exists_down session macMsg fType ctx.crypto.fCntList
  have called : ∀ (crypto : LoRaMacCryptoCtx σ) (rxPayload : List UInt8),
      SameKeys keys ctx.crypto crypto → crypto.fCntList.fCntUp = ctx.crypto.fCntList.fCntUp →
      rxPayload.length = ctx.rxPayload.length →
      Kept keys ctx { ctx with crypto := crypto, rxPayload := rxPayload } :=
    fun crypto rxPayload same up length_eq => ⟨rfl, rfl, same, up, length_eq, rfl, rfl, rfl, rfl,
      rfl, fun running => ⟨running, rfl⟩, fun _ => rfl, fun sound => ⟨sound.abort, sound.slot⟩⟩
  rw [unsecureFrame]
  simp only [wp_bind, wp_gets, cryptoCall, wp_zoom]
  refine wp_mono (wp_loRaMacCryptoGetFCntDown keys ctx.session.maxFCntGap macMsg.fhdr.fCnt
    ctx.crypto last_eq) ?_
  rintro ⟨status, downLinkCounter⟩ first ⟨answer, same⟩
  have counter_eq := answer.counter
  simp only at counter_eq
  subst counter_eq
  let fCntDown := reconstructFCntDown last macMsg.fhdr.fCnt
  simp only [Option.getD_some]
  have first_kept := called first ctx.rxPayload same.toSameKeys (by rw [same.fCntList]) rfl
  by_cases success : status = .success
  · subst success
    have unsecured := wp_unsecureMessage lawful (session.addressOf macMsg).2 fCntID fCntDown first
      parse (getKeyAddrItem_eq (session.addressOf macMsg).1) inside
    simp only [ne_eq, not_true_eq_false, ↓reduceIte, wp_bind, wp_zoom]
    refine wp_mono unsecured ?_
    rintro ⟨status, message⟩ second result
    have counters := result.counters
    simp only at counters
    rw [same.fCntList] at counters
    simp only [wp_modify]
    by_cases success : status = .success
    · subst success
      rcases result.success_iff.mp rfl with ⟨fresh, own, authentic⟩
      have message_eq := result.message rfl
      rw [same.keys] at message_eq authentic
      rw [same.fCntList] at fresh
      rw [if_pos rfl] at counters
      subst message_eq
      have genuine : Genuine cipher keys session ctx.crypto macMsg fType fCntDown :=
        ⟨⟨⟨last, last_eq, answer⟩, fresh⟩, own, authentic⟩
      have second_kept := called second
        (decrypted cipher keys session ctx.crypto macMsg fCntDown).frmPayload
        (same.toSameKeys.trans result.same) (by rw [counters, setDown_fCntUp])
        (by rw [← room]; exact length_xorUpTo _ _ _)
      simp only [not_true_eq_false, ↓reduceIte, wp_bind]
      refine wp_mono (wp_acceptFrame keys mhdr _ fType fCntDown _ _) ?_
      rintro _ final ⟨kept, crypto, indication, commands, mcpsInd⟩
      rw [wp_pure]
      constructor
      · exact second_kept.trans kept
      · exact .accepted fType fCntDown ⟨rfl, genuine⟩
          ⟨by rw [crypto]; exact counters, indication, commands, mcpsInd⟩
    · have message_eq : message = macMsg := by
        rcases result.refused success with equal | equal <;> exact equal
      rw [if_neg success] at counters
      have second_kept := called second macMsg.frmPayload (same.toSameKeys.trans result.same)
        (by rw [counters]) room
      have alien : ∀ fCntDown, ¬ Genuine cipher keys session ctx.crypto macMsg fType fCntDown := by
        intro other genuine
        rcases genuine.counter.success with ⟨last', last'_eq, same_answer⟩
        rw [last_eq] at last'_eq
        cases last'_eq
        have other_eq : other = fCntDown := Option.some.inj same_answer.counter
        subst other_eq
        apply success
        apply result.success_iff.mpr
        rw [same.fCntList, same.keys]
        exact ⟨genuine.counter.fresh, genuine.address, genuine.authentic⟩
      have bad : (if status = .failAddress then LoRaMacEventInfoStatus.addressFail
          else .micFail) ≠ .ok := by
        split <;> simp
      rw [message_eq]
      simp only [success, not_false_eq_true, ↓reduceIte, wp_bind]
      refine wp_mono (wp_abortWith_refused keys _ bad) ?_
      rintro _ final refused
      rw [wp_pure]
      exact Checked.refuse second_kept counters (fun _ fCntDown passed => alien fCntDown passed.2) refused
  · have alien : ∀ fCntDown, ¬ Genuine cipher keys session ctx.crypto macMsg fType fCntDown := by
      intro fCntDown genuine
      rcases genuine.counter.success with ⟨last', last'_eq, other⟩
      rw [last_eq] at last'_eq
      cases last'_eq
      exact success (answer.success_iff.mpr (other.success_iff.mp rfl))
    simp only [ne_eq, success, not_false_eq_true, ↓reduceIte, wp_bind]
    refine wp_mono (wp_abortFCntDown keys status mhdr macMsg _ _) ?_
    rintro _ final refused
    rw [wp_pure]
    exact Checked.refuse first_kept same.fCntList (fun _ fCntDown passed => alien fCntDown passed.2) refused

theorem wp_checkFrame (lawful : api.Lawful cipher keys) {macMsg : LoRaMacMessageData}
    (mhdr : UInt8) (fType : FType) (ctx : MacCtx σ)
    (parse : loRaMacParserData macMsg = some (.success, macMsg)) (inside : macMsg.Inside)
    (room : macMsg.frmPayload.length = ctx.rxPayload.length) :
    wp (checkFrame api mhdr fType macMsg) (fun aborted final =>
      Kept keys ctx final ∧ Checked cipher keys (fun frameType fCntDown => frameType = fType ∧
        ctx.session.DataOnly macMsg fType ∧
          Genuine cipher keys ctx.session ctx.crypto macMsg fType fCntDown)
        { ctx.indication with rxSlot := ctx.session.slotOf macMsg ctx.indication.rxSlot } mhdr
          macMsg ctx final aborted) ctx := by
  have slotted := kept_indication keys ctx
    { ctx.indication with rxSlot := ctx.session.slotOf macMsg ctx.indication.rxSlot }
  rw [checkFrame]
  simp only [wp_bind, wp_gets, wp_setIndication, wp_ite, wp_pure]
  split
  · rename_i more
    refine wp_mono (wp_abortWith_refused keys _ (by simp)) ?_
    rintro _ final refused
    apply Checked.refuse slotted rfl _ refused
    rintro _ fCntDown ⟨rfl, dataOnly, -⟩
    rcases more with ⟨multicast, other⟩
    rcases dataOnly multicast with ⟨data, no_ack, no_request⟩
    simp [data, no_ack, no_request] at other
  · rename_i dataOnly
    refine wp_mono (wp_unsecureFrame lawful mhdr fType _ parse inside room) ?_
    rintro aborted final ⟨kept, checked⟩
    constructor
    · exact slotted.trans kept
    · apply checked.before
      intro frameType fCntDown
      have data : ctx.session.DataOnly macMsg fType := by
        intro multicast
        by_cases data : fType = .frameTypeD <;> simp_all
      simp only [data, true_and]

theorem wp_receiveData (lawful : api.Lawful cipher keys) (maxPayload : ℕ) (mhdr : UInt8)
    {payload : List UInt8} {size : ℕ} (ctx : MacCtx σ) (small : size ≤ loramacPhyMaxpayload)
    (inside : loramacPhyMaxpayload ≤ payload.length)
    (room : ctx.rxPayload.length = loramacPhyMaxpayload) :
    let macMsg := (receivedMessage payload size ctx.rxPayload).parsed
    wp (receiveData api maxPayload mhdr payload size) (fun aborted final =>
      Kept keys ctx final ∧
        Checked cipher keys (Passes cipher keys ctx.session ctx.crypto maxPayload size macMsg)
          { ctx.indication with
            devAddress := macMsg.fhdr.devAddr
            rxSlot := ctx.session.slotOf macMsg ctx.indication.rxSlot } mhdr macMsg ctx final
              aborted) ctx := by
  intro macMsg
  have area : ∀ (rxPayload : List UInt8) (indication : McpsIndication),
      rxPayload.length = ctx.rxPayload.length →
      Kept keys ctx { ctx with rxPayload := rxPayload, indication := indication } :=
    fun rxPayload indication length_eq => ⟨rfl, rfl, .refl _, rfl, length_eq, rfl, rfl, rfl, rfl,
      rfl, fun running => ⟨running, rfl⟩, fun _ => rfl, fun sound => ⟨sound.abort, sound.slot⟩⟩
  rw [receiveData]
  simp only [wp_ite, wp_bind, wp_gets, wp_lift]
  split
  · rename_i size_bad
    refine wp_mono (wp_abortWith_refused keys ctx (by simp)) ?_
    rintro _ final refused
    rw [wp_pure]
    apply Checked.refuse (.refl ctx) rfl _ refused
    intro fType fCntDown passes
    have most := passes.most
    have least := passes.least
    omega
  · rename_i size_good
    have start : (receivedMessage payload size ctx.rxPayload).ParseRoom :=
      receivedMessage_room (by omega) small inside room
    have length_eq : macMsg.frmPayload.length = ctx.rxPayload.length :=
      LoRaMacMessageData.length_parsed_frmPayload start
    have parse : loRaMacParserData macMsg = some (.success, macMsg) := by
      rw [LoRaMacMessageData.loRaMacParserData_eq_parsed start.parsed,
        LoRaMacMessageData.parsed_parsed start]
    rw [LoRaMacMessageData.loRaMacParserData_eq_parsed start]
    simp only [Option.some.injEq, exists_eq_left', wp_modify, wp_setIndication, not_true_eq_false,
      ↓reduceIte, ne_eq]
    cases frameType : determineFrameType macMsg with
    | none =>
        simp only [wp_bind]
        refine wp_mono (wp_abortWith_refused keys _ (by simp)) ?_
        rintro _ final refused
        rw [wp_pure]
        apply Checked.refuse (area macMsg.frmPayload _ length_eq) rfl _ refused
        intro fType fCntDown passes
        have typed := passes.frameType
        rw [frameType] at typed
        cases typed
    | some fType =>
        refine wp_mono (wp_checkFrame lawful mhdr fType _ parse start.parsed_inside rfl) ?_
        rintro aborted final ⟨kept, checked⟩
        constructor
        · exact (area macMsg.frmPayload _ length_eq).trans kept
        · apply checked.before
          intro other fCntDown
          constructor
          · rintro ⟨rfl, dataOnly, genuine⟩
            exact ⟨by omega, by omega, frameType, dataOnly, genuine⟩
          · intro passes
            have typed := passes.frameType
            rw [frameType] at typed
            cases typed
            exact ⟨rfl, passes.dataOnly, passes.genuine⟩

/-- What the end of a reception leaves besides. -/
structure Finished (ctx final : MacCtx σ) : Prop where
  crypto : final.crypto = ctx.crypto
  indication : final.indication = ctx.indication
  commands : final.commands = ctx.commands
  mcpsInd : final.mcpsInd = ctx.mcpsInd
  macDone : final.macDone = true

theorem Finished.refused {ctx middle final : MacCtx σ} (finished : Finished middle final)
    (refused : Refused ctx middle) : Refused ctx final := by
  constructor
  · rw [finished.crypto]
    exact refused.fCntList
  · rw [finished.indication]
    exact refused.status
  · exact finished.mcpsInd.trans refused.mcpsInd
  · exact finished.macDone

variable (keys) in
theorem wp_finishReception (ctx : MacCtx σ) :
    wp finishReception (fun _ final => Kept keys ctx final ∧ Finished ctx final) ctx := by
  have kept : ∀ (timers : MacTimers) (ackTimeoutRetry macDone : Bool) (rxSlot : LoRaMacRxSlot),
      timers = { ctx.timers with ackTimeoutTimer := timers.ackTimeoutTimer } →
      (timers.ackTimeoutTimer = true → ctx.timers.ackTimeoutTimer = true ∧
        ackTimeoutRetry = ctx.ackTimeoutRetry) →
      (ctx.tx.nodeAckRequested = false → ackTimeoutRetry = ctx.ackTimeoutRetry) →
      (ctx.ackTimeoutRetry = true → ackTimeoutRetry = true) →
      rxSlot = (if ctx.session.deviceClass ≠ .classC then .none else .winClassC) →
      Kept keys ctx { ctx with
        timers := timers, ackTimeoutRetry := ackTimeoutRetry, macDone := macDone,
        rxSlot := rxSlot } := by
    intro timers ackTimeoutRetry macDone rxSlot others running retry still slot
    refine ⟨rfl, rfl, .refl _, rfl, rfl, rfl, rfl, by rw [others], by rw [others], by rw [others],
      running, retry, fun sound => ⟨fun aborted requested => still (sound.abort aborted requested),
        fun classA => ?_⟩⟩
    rw [slot, if_pos (by rw [classA]; simp)]
    simp
  rw [finishReception]
  simp only [wp_bind, wp_gets]
  split
  · rename_i requested
    split
    · simp only [onAckTimeoutTimerEvent, updateRxSlotIdleState, wp_bind, wp_modify]
      exact ⟨kept _ _ _ _ rfl (by simp) (by simp [requested]) (by simp [requested]) rfl,
        ⟨rfl, rfl, rfl, rfl, rfl⟩⟩
    · simp only [updateRxSlotIdleState, wp_bind, wp_modify]
      exact ⟨kept _ _ _ _ rfl (fun running => ⟨running, rfl⟩) (fun _ => rfl) id rfl,
        ⟨rfl, rfl, rfl, rfl, rfl⟩⟩
  · rename_i no_ack
    split
    · simp only [onAckTimeoutTimerEvent, updateRxSlotIdleState, wp_bind, wp_modify]
      exact ⟨kept _ _ _ _ rfl (by simp) (by simp [no_ack]) (by simp +contextual) rfl,
        ⟨rfl, rfl, rfl, rfl, rfl⟩⟩
    · simp only [updateRxSlotIdleState, wp_bind, wp_modify]
      exact ⟨kept _ _ _ _ rfl (fun running => ⟨running, rfl⟩) (fun _ => rfl) id rfl,
        ⟨rfl, rfl, rfl, rfl, rfl⟩⟩

/-! ## A reception -/

/-- The context when a reception starts. -/
def MacCtx.receiving (ctx : MacCtx σ) : MacCtx σ :=
  { ctx with
    ackReceived := false
    indication := .start ctx.indication.status ctx.rxSlot
    radio := .sleep
    timers := { ctx.timers with rxWindowTimer2 := false } }

/-- What the upper layer is told of a data frame that is accepted. -/
def acceptedIndication (session : MacSession) (rxSlot : LoRaMacRxSlot) (mhdr : UInt8)
    (fType : FType) (fCntDown : UInt32) (macMsg : LoRaMacMessageData) : McpsIndication :=
  { McpsIndication.start .ok (session.slotOf macMsg rxSlot) with
    devAddress := macMsg.fhdr.devAddr }.accepted mhdr (session.isMulticast macMsg) fType fCntDown
      macMsg

/-- The type of a frame with data for the device. -/
def IsDataDown (mhdr : UInt8) : Prop :=
  mType mhdr = .dataConfirmedDown ∨ mType mhdr = .dataUnconfirmedDown

/-- What a reception of `macMsg` does in a session. -/
inductive Received (cipher : KeyedCipher κ) (keys : σ → KeyIdentifier → κ) (maxPayload size : ℕ)
    (mhdr : UInt8) (macMsg : LoRaMacMessageData) (ctx final : MacCtx σ) : Prop
  | accepted (fType : FType) (fCntDown : UInt32) (data : IsDataDown mhdr)
      (passed : Passes cipher keys ctx.session ctx.crypto maxPayload size macMsg fType fCntDown)
      (fCntList : final.crypto.fCntList =
        ctx.crypto.fCntList.setDown (ctx.session.fCntIDOf macMsg fType) fCntDown)
      (indication : final.indication = acceptedIndication ctx.session ctx.rxSlot mhdr fType
        fCntDown (decrypted cipher keys ctx.session ctx.crypto macMsg fCntDown))
  | refused
      (failed : IsDataDown mhdr → ∀ fType fCntDown,
        ¬ Passes cipher keys ctx.session ctx.crypto maxPayload size macMsg fType fCntDown)
      (fCntList : final.crypto.fCntList = ctx.crypto.fCntList)
      (status : final.indication.status ≠ .ok)
  | proprietary (type : mType mhdr = .proprietary)
      (fCntList : final.crypto.fCntList = ctx.crypto.fCntList)
      (indication : final.indication.mcpsIndication = .proprietary)

/-- A reception ends once its frame is checked. -/
theorem wp_finishReception_checked {mhdr : UInt8} {macMsg : LoRaMacMessageData}
    {maxPayload size : ℕ} {service : Mcps} {ctx middle : MacCtx σ} {aborted : Bool}
    (data : IsDataDown mhdr) (kept : Kept keys ctx.receiving middle)
    (checked : Checked cipher keys
      (Passes cipher keys ctx.session ctx.crypto maxPayload size macMsg)
      { McpsIndication.start ctx.indication.status ctx.rxSlot with
        mcpsIndication := service
        devAddress := macMsg.fhdr.devAddr
        rxSlot := ctx.session.slotOf macMsg ctx.rxSlot } mhdr macMsg ctx.receiving middle aborted) :
    wp (if aborted then pure () else finishReception) (fun _ final =>
      Kept keys ctx.receiving final ∧ (final.mcpsInd = true ∧ final.macDone = true) ∧
        Received cipher keys maxPayload size mhdr macMsg ctx final) middle := by
  cases checked with
  | accepted fType fCntDown passed accepted =>
      simp only [Bool.false_eq_true, ↓reduceIte]
      refine wp_mono (wp_finishReception keys middle) ?_
      rintro _ final ⟨still, finished⟩
      have told : final.mcpsInd = true := finished.mcpsInd.trans accepted.mcpsInd
      constructor
      · exact kept.trans still
      · constructor
        · exact ⟨told, finished.macDone⟩
        · apply Received.accepted fType fCntDown data passed
          · rw [finished.crypto]
            exact accepted.fCntList
          · rw [finished.indication, accepted.indication]
            cases fType <;> rfl
  | refused failed refused =>
      simp only [↓reduceIte, wp_pure]
      exact ⟨kept, ⟨refused.mcpsInd, refused.macDone⟩,
        .refused (fun _ => failed) refused.fCntList refused.status⟩

/-- A reception takes any bytes.  It accepts a data frame under a counter that
passes the checks, and refuses it if none does. -/
theorem wp_processRadioRxDone (lawful : api.Lawful cipher keys) (maxPayload : ℕ)
    {payload : List UInt8} {size : ℕ} (ctx : MacCtx σ)
    (joined : ctx.session.networkActivation ≠ .none) (nonempty : 0 < size)
    (small : size ≤ loramacPhyMaxpayload) (inside : loramacPhyMaxpayload ≤ payload.length)
    (room : ctx.rxPayload.length = loramacPhyMaxpayload) :
    wp (processRadioRxDone api maxPayload payload size) (fun _ final =>
      Kept keys ctx.receiving final ∧ (final.mcpsInd = true ∧ final.macDone = true) ∧
        Received cipher keys maxPayload size (payload.getD 0 0)
          (receivedMessage payload size ctx.rxPayload).parsed ctx final) ctx := by
  have long : 0 < payload.length := lt_of_lt_of_le (by decide) inside
  have mhdr : payload[0]? = some (payload.getD 0 0) :=
    LoRaMacMessageData.getElem?_eq_getD long
  have refuse : ¬ IsDataDown (payload.getD 0 0) → ∀ middle : MacCtx σ,
      Kept keys ctx.receiving middle ∧ Refused ctx.receiving middle →
      Kept keys ctx.receiving middle ∧ (middle.mcpsInd = true ∧ middle.macDone = true) ∧
        Received cipher keys maxPayload size (payload.getD 0 0)
          (receivedMessage payload size ctx.rxPayload).parsed ctx middle := by
    rintro other middle ⟨kept, refused⟩
    exact ⟨kept, ⟨refused.mcpsInd, refused.macDone⟩,
      .refused (fun data => absurd data other) refused.fCntList refused.status⟩
  rw [processRadioRxDone]
  simp only [wp_bind, wp_modify, wp_lift, mhdr, Option.some.injEq, exists_eq_left']
  cases type : mType (payload.getD 0 0) with
  | joinAccept =>
      have other : ¬ IsDataDown (payload.getD 0 0) := by
        rw [IsDataDown, type]
        simp
      simp only [receiveJoinAccept, wp_bind, wp_gets, wp_ite]
      split
      · refine wp_mono (wp_abortWith_refused keys ctx.receiving (by simp)) ?_
        rintro _ middle refused
        simp only [wp_pure, ↓reduceIte]
        exact refuse other middle refused
      · refine wp_mono (wp_abortWith_refused keys ctx.receiving (by simp)) ?_
        rintro _ middle refused
        simp only [wp_pure, ↓reduceIte]
        exact refuse other middle refused
  | dataConfirmedDown =>
      simp only [wp_bind, wp_setIndication]
      refine wp_mono (wp_receiveData lawful maxPayload _ _ small inside room) ?_
      rintro aborted middle ⟨kept, checked⟩
      exact wp_finishReception_checked (.inl type)
        ((kept_indication _ ctx.receiving _).trans kept) (checked.before fun _ _ => Iff.rfl)
  | dataUnconfirmedDown =>
      simp only [wp_bind]
      refine wp_mono (wp_receiveData lawful maxPayload _ ctx.receiving small inside room) ?_
      rintro aborted middle ⟨kept, checked⟩
      exact wp_finishReception_checked (.inr type) kept checked
  | proprietary =>
      have size_eq : (size + 2 ^ 16 - 1) % 2 ^ 16 = size - 1 := by
        rw [loramacPhyMaxpayload] at small
        omega
      have bytes : slice payload 1 (size - 1) = some ((payload.drop 1).take (size - 1)) :=
        slice_eq_some (by omega)
      have length_eq := length_of_slice bytes
      have written : overwrite ctx.rxPayload 0 ((payload.drop 1).take (size - 1)) =
          some ((payload.drop 1).take (size - 1) ++ ctx.rxPayload.drop (size - 1)) := by
        rw [overwrite_zero (by omega), length_eq]
      simp only [receiveProprietary, wp_bind, wp_lift, wp_gets, wp_modify, wp_setIndication,
        size_eq, bytes, written, Option.some.injEq, exists_eq_left', wp_pure, Bool.false_eq_true,
        ↓reduceIte]
      refine wp_mono (wp_finishReception keys _) ?_
      rintro _ final ⟨still, finished⟩
      have kept : ∀ (rxPayload : List UInt8) (indication : McpsIndication),
          rxPayload.length = ctx.rxPayload.length → Kept keys ctx.receiving
            { ctx.receiving with
              rxPayload := rxPayload, indication := indication, mcpsInd := true } :=
        fun rxPayload indication length_eq => ⟨rfl, rfl, .refl _, rfl, length_eq, rfl, rfl, rfl,
          rfl, rfl, fun running => ⟨running, rfl⟩, fun _ => rfl, fun sound => ⟨sound.abort, sound.slot⟩⟩
      constructor
      · refine (kept _ _ ?_).trans still
        rw [List.length_append, length_eq, List.length_drop]
        omega
      · constructor
        · exact ⟨finished.mcpsInd, finished.macDone⟩
        · exact .proprietary type (by rw [finished.crypto]) (by rw [finished.indication])
  | _ =>
      have other : ¬ IsDataDown (payload.getD 0 0) := by
        rw [IsDataDown, type]
        simp
      simp only [wp_bind]
      refine wp_mono (wp_abortWith_refused keys ctx.receiving (by simp)) ?_
      rintro _ middle ⟨kept, refused⟩
      simp only [wp_pure, Bool.false_eq_true, ↓reduceIte]
      refine wp_mono (wp_finishReception keys middle) ?_
      rintro _ final ⟨still, finished⟩
      apply refuse other
      exact ⟨kept.trans still, finished.refused refused⟩

end Lawful

end GenericNode.LoRaMac
