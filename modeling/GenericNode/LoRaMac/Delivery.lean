import GenericNode.Library.FreshLog
import GenericNode.LoRaMac.Downlinks

/-!
# What the upper layer is told over a run

Whatever the radio receives, no step is undefined and the counters of the data
that is told increase.  If nobody but the network makes bytes that pass the
check of the MIC, the data is that of the network.
-/

namespace GenericNode.LoRaMac

open GenericNode.Library
open GenericNode.Library.Prog
open GenericNode.SecureElement

variable {σ κ : Type} {keys : σ → KeyIdentifier → κ} {cipher : KeyedCipher κ}
  {api : SecureElementApi σ}

/-! ## Channels -/

/-- The identifier of the address of a channel: that of the multicast group or
that of the device. -/
def channelID (multicast : Bool) : AddressIdentifier :=
  if multicast then .multicast0Addr else .unicastDevAddr

/-- The counter of a channel. -/
def channelCounter (multicast : Bool) : FCntIdentifier :=
  if multicast then .mcFCntDown0 else .fCntDown

/-- The address of a channel. -/
def MacSession.channelAddress (session : MacSession) (multicast : Bool) : UInt32 :=
  if multicast then session.multicastChannel.address else session.devAddr

theorem MacSession.Ready.addressOf_eq {session : MacSession} (ready : session.Ready)
    (macMsg : LoRaMacMessageData) :
    session.addressOf macMsg =
      (channelID (session.isMulticast macMsg),
        session.channelAddress (session.isMulticast macMsg)) := by
  rw [addressOf, channelID, channelAddress]
  cases session.isMulticast macMsg with
  | false => rfl
  | true => simp only [↓reduceIte, ready.group]

theorem MacSession.Ready.fCntIDOf_eq {session : MacSession} (ready : session.Ready)
    (macMsg : LoRaMacMessageData) (fType : FType) :
    session.fCntIDOf macMsg fType = channelCounter (session.isMulticast macMsg) := by
  rw [fCntIDOf, ready.addressOf_eq, channelCounter, channelID]
  cases session.isMulticast macMsg with
  | false => simp only [Bool.false_eq_true, ↓reduceIte, fCntIdentifierOf, ready.version, zero_ne_one]
  | true => rfl

theorem exists_channelCounter (fCntList : FCntList) (multicast : Bool) :
    ∃ last, fCntList.down (channelCounter multicast) = some last := by
  cases multicast <;> exact ⟨_, rfl⟩

theorem down_setDown_channel (fCntList : FCntList) (multicast other : Bool) (value : UInt32) :
    (fCntList.setDown (channelCounter multicast) value).down (channelCounter other) =
      if other = multicast then some value else fCntList.down (channelCounter other) := by
  cases multicast <;> cases other <;> rfl

/-- The bytes that a network sends for a frame on a channel. -/
def sentBytes (cipher : KeyedCipher κ) (keyOf : KeyIdentifier → κ) (multicast : Bool)
    (fCnt : UInt32) (frame : DataFrame) : List UInt8 :=
  (frame.secured cipher keyOf (keyAddrOf (channelID multicast)).appSkey
    (keyAddrOf (channelID multicast)).nwkSkey downlink fCnt).bytes

/-! ## The counters that were told -/

/-- The counters of the data that was told on a channel. -/
def countersTold (multicast : Bool) (indications : List McpsIndication) : List UInt32 :=
  (indications.filter fun indication =>
    indication.isData && indication.multicast == multicast).map McpsIndication.downLinkCounter

theorem countersTold_append (multicast : Bool) (indications : List McpsIndication)
    (indication : McpsIndication) :
    countersTold multicast (indications ++ [indication]) =
      countersTold multicast indications ++
        if indication.isData = true ∧ indication.multicast = multicast then
          [indication.downLinkCounter]
        else [] := by
  rw [countersTold, List.filter_append, List.map_append]
  congr 1
  by_cases told : indication.isData = true ∧ indication.multicast = multicast
  · simp [told]
  · rw [if_neg told, List.filter_eq_nil_iff.mpr (by simpa using told), List.map_nil]

section Accepted

variable (session : MacSession) (rxSlot : LoRaMacRxSlot) (mhdr : UInt8) (fType : FType)
  (fCntDown : UInt32) (macMsg : LoRaMacMessageData)

theorem acceptedIndication_isData :
    (acceptedIndication session rxSlot mhdr fType fCntDown macMsg).isData = true := by
  have service : ∀ multicast : Bool, (if multicast then Mcps.multicast
      else if mType mhdr = .dataConfirmedDown then .confirmed else .unconfirmed) ≠
        .proprietary := by
    intro multicast
    split
    · simp
    · split <;> simp
  have accepted := service (session.isMulticast macMsg)
  cases fType <;>
    simp only [acceptedIndication, McpsIndication.accepted, McpsIndication.isData, deliver,
      decide_true, Bool.true_and] <;> exact decide_eq_true accepted

theorem acceptedIndication_multicast :
    (acceptedIndication session rxSlot mhdr fType fCntDown macMsg).multicast =
      session.isMulticast macMsg := by
  cases fType <;> rfl

theorem acceptedIndication_downLinkCounter :
    (acceptedIndication session rxSlot mhdr fType fCntDown macMsg).downLinkCounter = fCntDown := by
  cases fType <;> rfl

end Accepted

/-- The counters that were told and the last one of each channel, since the
counters were `start`. -/
def Taken (start : FCntList) (ctx : MacCtx σ) : Prop :=
  ∀ multicast first last, start.down (channelCounter multicast) = some first →
    ctx.crypto.fCntList.down (channelCounter multicast) = some last →
      FreshLog fcntDownInitalValue first last (countersTold multicast ctx.indications)

/-- A step keeps the counters in order. -/
theorem Told.taken {maxPayload : ℕ} {rxDone : Option (List UInt8 × ℕ)} {start : FCntList}
    {ctx final : MacCtx σ} (ready : ctx.session.Ready)
    (told : Told cipher keys maxPayload ctx final rxDone) (taken : Taken start ctx) :
    Taken start final := by
  intro multicast first last first_eq last_eq
  cases told with
  | nothing down indications =>
      rw [down] at last_eq
      rw [indications]
      exact taken multicast first last first_eq last_eq
  | other indication no_data _ _ _ down indications =>
      rw [down] at last_eq
      rw [indications, countersTold_append, no_data]
      simpa using taken multicast first last first_eq last_eq
  | data rxSlot fType fCntDown receivable room parsed passed down indications =>
      rename_i payload rxPayload size macMsg
      rcases passed.genuine.counter.fresh with ⟨before, before_eq, fresh⟩
      have channel := ready.fCntIDOf_eq macMsg fType
      rw [channel] at before_eq down
      have same : ctx.session.isMulticast
          (decrypted cipher keys ctx.session ctx.crypto macMsg fCntDown) =
            ctx.session.isMulticast macMsg := rfl
      rw [down, down_setDown_channel] at last_eq
      rw [indications, countersTold_append, acceptedIndication_isData,
        acceptedIndication_multicast, acceptedIndication_downLinkCounter, same]
      by_cases own : multicast = ctx.session.isMulticast macMsg
      · subst own
        simp only [↓reduceIte, Option.some.injEq] at last_eq
        subst last_eq
        simp only [and_self, ↓reduceIte]
        exact (taken _ first before first_eq before_eq).take fresh
      · rw [if_neg own] at last_eq
        have other : ¬ ctx.session.isMulticast macMsg = multicast := fun equal => own equal.symm
        simp only [other, and_false, ↓reduceIte, List.append_nil]
        exact taken multicast first last first_eq last_eq

/-! ## Runs from rest -/

/-- A device that joined and whose upper layer was told nothing yet. -/
structure Mac.Rested (mac : Mac σ) : Prop where
  ready : mac.ctx.session.Ready
  rxPayload : mac.ctx.rxPayload.length = loramacPhyMaxpayload
  areas : mac.ctx.tx.txMsg.Areas
  mcpsInd : mac.ctx.mcpsInd = false
  events : mac.events = .none
  indications : mac.ctx.indications = []

namespace Mac.Rested

variable {condition : Mac σ → MacEvent → Prop} {first mac : Mac σ}

theorem inv (rested : first.Rested) : MacInv keys first.ctx first where
  steady := ⟨rfl, .refl _, rested.rxPayload, rested.areas⟩
  mcpsInd := rested.mcpsInd
  rxDone _ _ raised := by
    rw [rested.events] at raised
    cases raised

theorem taken (rested : first.Rested) : Taken first.ctx.crypto.fCntList first.ctx := by
  intro multicast start last start_eq last_eq
  rw [start_eq] at last_eq
  cases last_eq
  rw [rested.indications]
  exact .nil _ _

/-- What holds in every run. -/
theorem holds (rested : first.Rested) (lawful : api.Lawful cipher keys)
    (reached : (macMachine api).Reaches condition first mac) :
    MacInv keys first.ctx mac ∧ Taken first.ctx.crypto.fCntList mac.ctx := by
  apply reached.invariant ⟨rested.inv, rested.taken⟩
  rintro before event ⟨inv, taken⟩ enabled _
  refine wp_mono (wp_macStep lawful rested.ready before event inv enabled) ?_
  rintro _ final ⟨kept, told⟩
  have ready : before.ctx.session.Ready := by
    rw [inv.steady.session]
    exact rested.ready
  exact ⟨kept, told.taken ready taken⟩

/-- The counters that were told on a channel are in order. -/
theorem log (rested : first.Rested) (lawful : api.Lawful cipher keys)
    (reached : (macMachine api).Reaches condition first mac) (multicast : Bool) :
    ∃ start last, first.ctx.crypto.fCntList.down (channelCounter multicast) = some start ∧
      FreshLog fcntDownInitalValue start last (countersTold multicast mac.ctx.indications) := by
  have taken := (rested.holds lawful reached).2
  rcases exists_channelCounter first.ctx.crypto.fCntList multicast with ⟨start, start_eq⟩
  rcases exists_channelCounter mac.ctx.crypto.fCntList multicast with ⟨last, last_eq⟩
  exact ⟨start, last, start_eq, taken multicast start last start_eq last_eq⟩

end Mac.Rested

variable {condition : Mac σ → MacEvent → Prop} {first mac : Mac σ}

/-- A device of class A that joined, with its keys in software. -/
def sampleMac : Mac SoftSe.SeNvmCtx where
  ctx :=
    { session :=
        { devAddr := 0x26011234
          networkActivation := .otaa
          minor := 0
          deviceClass := .classA
          multicastChannel := ⟨0, false, .multicast0Addr⟩
          maxFCntGap := 16384 }
      tx :=
        { txMsg := ⟨List.replicate 255 0, 0, 0, ⟨0, 0, 0, List.replicate 15 0⟩, 0,
            List.replicate 255 0, 0, 0⟩
          mcpsRequest := .unconfirmed
          nbRetries := 0
          upLinkCounter := 0
          nodeAckRequested := false
          ackTimeoutRetries := 1
          ackTimeoutRetriesCounter := 1
          channelsNbTransCounter := 0
          txRunning := false
          txDelayed := false
          mcpsReq := false
          air := [] }
      crypto := { sampleCrypto with
        fCntList := ⟨0, fcntDownInitalValue, fcntDownInitalValue, fcntDownInitalValue,
          fcntDownInitalValue⟩ }
      rxPayload := List.replicate 255 0
      rxSlot := .none
      srvAckRequested := false
      lastRxMic := 0
      ackTimeoutRetry := false
      rxAbort := false
      mcpsInd := false
      macDone := false
      ackReceived := false
      confirmStatus := .ok
      indication := .start .ok .none
      timers := ⟨false, false, false, false⟩
      radio := .sleep
      commands := []
      indications := []
      confirms := [] }
  events := .none

theorem sampleMac_rested : sampleMac.Rested where
  ready := ⟨by decide, rfl, rfl⟩
  rxPayload := List.length_replicate
  areas := ⟨List.length_replicate, by decide, by decide, List.length_replicate, by decide⟩
  mcpsInd := rfl
  events := rfl
  indications := rfl

/-- Its secure element. -/
def sampleSe : SecureElementApi SoftSe.SeNvmCtx :=
  SoftSe.softSe SoftSe.maskAes zeroBlock

/-- What that one computes. -/
def sampleCipher : KeyedCipher Block :=
  SoftSe.softCipher SoftSe.maskAes

theorem sampleSe_lawful : sampleSe.Lawful sampleCipher SoftSe.SeNvmCtx.keys :=
  SoftSe.softSe_lawful

/-- A frame of the network under a counter. -/
def sampleDown (fCnt : UInt32) : DataFrame where
  mhdr := 0x60
  devAddr := 0x26011234
  fCtrl := 0
  fCnt := low16 fCnt
  fOpts := []
  content := some (2, [1, 2, 3])
  mic := 0
  fOpts_length := rfl
  payload_ne := by
    rintro port payload ⟨⟩
    exact List.cons_ne_nil _ _

/-- Its bytes, which lie at the start of the buffer of the radio. -/
def sampleBytes (fCnt : UInt32) : List UInt8 :=
  sentBytes sampleCipher SoftSe.sampleKeys.keys false fCnt (sampleDown fCnt)

/-- The buffer of the radio. -/
def sampleRadio (fCnt : UInt32) : List UInt8 :=
  sampleBytes fCnt ++ List.replicate 255 0

/-- What `LoRaMacProcess` meets. -/
def sampleProcess : MacEvent :=
  .process ⟨51, 1, false, true, ⟨.ok, 0, true⟩⟩

/-- An uplink, and a frame of the network in its first window. -/
def exchange (fCnt : UInt32) : List MacEvent :=
  [.mcpsRequest ⟨false, 1, [9, 8], 1⟩
      ⟨true, false, false, ⟨0, fun _ => [], fun _ => Nat.zero_le _⟩, 51, false, ⟨.ok, 0, true⟩⟩,
    .radio .txDone, sampleProcess, .rxWindow1Timer true,
    .radio (.rxDone (sampleRadio fCnt) (sampleBytes fCnt).length)]

/-- The MAC when that frame waits. -/
def waitingMac : Mac SoftSe.SeNvmCtx :=
  ((macMachine sampleSe).replay (fun mac event => event.rxDone mac = none) (exchange 7)
    sampleMac).getD sampleMac

theorem waitingMac_reached : (macMachine sampleSe).Reaches
    (fun mac event => event.rxDone mac = none) sampleMac waitingMac := by
  have replayed : ((macMachine sampleSe).replay (fun mac event => event.rxDone mac = none)
      (exchange 7) sampleMac).isSome = true := by
    decide +kernel
  obtain ⟨mac, replayed⟩ := Option.isSome_iff_exists.mp replayed
  rw [waitingMac, replayed]
  exact Machine.reaches_of_replay _ replayed

theorem waitingMac_rxDone : waitingMac.events.rxDone = some (sampleRadio 7, 16) := by
  decide +kernel

theorem waitingMac_session : waitingMac.ctx.session = sampleMac.ctx.session := by
  decide +kernel

theorem waitingMac_fCntDown : waitingMac.ctx.crypto.fCntList.down (channelCounter false) =
    some fcntDownInitalValue := by
  decide +kernel

theorem waitingMac_bytes : (sampleRadio 7).take 16 = sentBytes sampleCipher
    (SoftSe.SeNvmCtx.keys waitingMac.ctx.crypto.se) false 7 (sampleDown 7) := by
  decide +kernel

/-- The address in the bytes of a frame. -/
def frameAddress (bytes : List UInt8) : UInt32 :=
  UInt32.ofNat (leNat ((bytes.drop 1).take 4))

/-- The bits of the counter in the bytes of a frame. -/
def frameCounter (bytes : List UInt8) : UInt16 :=
  UInt16.ofNat (leNat ((bytes.drop 6).take 2))

/-- The MIC in the bytes of a frame. -/
def frameMic (bytes : List UInt8) : UInt32 :=
  UInt32.ofNat (leNat (bytes.drop (bytes.length - 4)))

/-- The bytes carry the MIC of a channel for a counter. -/
def CarriesMic (cipher : KeyedCipher κ) (keyOf : KeyIdentifier → κ) (session : MacSession)
    (multicast : Bool) (fCnt : UInt32) (bytes : List UInt8) : Prop :=
  frameAddress bytes = session.channelAddress multicast ∧
    frameMic bytes = messageMic cipher (keyOf (keyAddrOf (channelID multicast)).nwkSkey) downlink
      (session.channelAddress multicast) fCnt (bytes.take (bytes.length - 4))

/-- What carries the MIC for the counter that the device expects comes from the
network, which sends the frame `network multicast fCnt` under a counter. -/
def Unforged (cipher : KeyedCipher κ) (keys : σ → KeyIdentifier → κ)
    (network : Bool → UInt32 → Option DataFrame) (mac : Mac σ) (event : MacEvent) : Prop :=
  ∀ payload size multicast last, event.rxDone mac = some (payload, size) →
    mac.ctx.crypto.fCntList.down (channelCounter multicast) = some last →
    CarriesMic cipher (keys mac.ctx.crypto.se) mac.ctx.session multicast
      (reconstructFCntDown last (frameCounter (payload.take size))) (payload.take size) →
    ∃ frame, network multicast (reconstructFCntDown last (frameCounter (payload.take size))) =
        some frame ∧
      payload.take size = sentBytes cipher (keys mac.ctx.crypto.se) multicast
        (reconstructFCntDown last (frameCounter (payload.take size))) frame

/-- Without a reception nothing is forged. -/
theorem Unforged.of_quiet {network : Bool → UInt32 → Option DataFrame} {mac : Mac σ}
    {event : MacEvent} (quiet : event.rxDone mac = none) :
    Unforged cipher keys network mac event := by
  intro payload size multicast last rxDone
  rw [quiet] at rxDone
  cases rxDone

/-- The data of the application in a frame: what comes on a port but 0. -/
def DataFrame.appData (frame : DataFrame) : Option (UInt8 × List UInt8) :=
  frame.content.filter fun content => content.1 ≠ 0

/-- The data that the application is given. -/
def McpsIndication.appData (indication : McpsIndication) : Option (UInt8 × List UInt8) :=
  if indication.rxData then indication.buffer.map fun buffer => (indication.port, buffer) else none

/-- The indication tells what is in the frame. -/
structure McpsIndication.Tells (indication : McpsIndication) (frame : DataFrame) : Prop where
  devAddress : indication.devAddress = frame.devAddr
  framePending : indication.framePending = fPendingOf frame.fCtrl
  ackReceived : indication.ackReceived = ackOf frame.fCtrl
  appData : indication.appData = frame.appData

/-- A frame that is decrypted under its counter and its key is the frame. -/
theorem LoRaMacMessageData.Holds.decrypted {macMsg : LoRaMacMessageData} {frame : DataFrame}
    {keyOf : KeyIdentifier → κ} {appSkey nwkSkey : KeyIdentifier} {fCnt : UInt32}
    (holds : macMsg.Holds (frame.secured cipher keyOf appSkey nwkSkey downlink fCnt)) :
    ∃ mic, (macMsg.crypt (keystream cipher (keyOf (macMsg.payloadKeyID appSkey)) frame.devAddr
      downlink fCnt)).Holds (frame.signed mic) := by
  let stream : KeyIdentifier → ℕ → Block := fun keyID =>
    keystream cipher (keyOf keyID) frame.devAddr downlink fCnt
  have secured := holds.crypt_key appSkey stream
  have crypted := holds.crypt (stream (macMsg.payloadKeyID appSkey))
  refine ⟨(frame.secured cipher keyOf appSkey nwkSkey downlink fCnt).mic, ?_⟩
  have same_key : (frame.secured cipher keyOf appSkey nwkSkey downlink fCnt).payloadKeyID appSkey =
      frame.payloadKeyID appSkey := by
    rw [DataFrame.payloadKeyID, DataFrame.payloadKeyID]
    congr 1
    exact congrArg (· = [0]) (frame.portBytes_crypt _)
  have plain : (frame.secured cipher keyOf appSkey nwkSkey downlink fCnt).crypt
      (stream (macMsg.payloadKeyID appSkey)) =
        frame.signed (frame.secured cipher keyOf appSkey nwkSkey downlink fCnt).mic := by
    rw [LoRaMacMessageData.payloadKeyID, secured, same_key]
    have twice := frame.crypt_crypt (stream (frame.payloadKeyID appSkey))
    exact congrArg (fun plain : DataFrame =>
      plain.signed (frame.secured cipher keyOf appSkey nwkSkey downlink fCnt).mic) twice
  rw [plain] at crypted
  exact crypted

/-- What is told of a message that describes a frame is what is in the frame. -/
theorem acceptedIndication_tells {macMsg : LoRaMacMessageData} {frame : DataFrame}
    {fType : FType} (session : MacSession) (rxSlot : LoRaMacRxSlot) (mhdr : UInt8)
    (fCntDown : UInt32) (holds : macMsg.Holds frame)
    (no_port : frame.content = none → macMsg.fPort = 0)
    (typed : determineFrameType macMsg = some fType) :
    (acceptedIndication session rxSlot mhdr fType fCntDown macMsg).Tells frame := by
  have payload_eq : macMsg.frmPayload.take macMsg.frmPayloadSize = frame.payload := by
    rw [holds.frmPayloadSize, eq_append_of_slice holds.payload]
    exact List.take_left' rfl
  have delivered : 0 < macMsg.fPort → frame.appData =
      some (macMsg.fPort, macMsg.frmPayload.take macMsg.frmPayloadSize) := by
    intro ported
    cases content : frame.content with
    | none =>
        rw [no_port content] at ported
        exact absurd ported (by decide)
    | some pair =>
        have port_eq : macMsg.fPort = pair.1 := holds.fPort pair.1 pair.2 content
        have port_ne : pair.1 ≠ 0 := by
          intro zero
          rw [port_eq, zero] at ported
          exact absurd ported (by decide)
        have payload := frame.payload_of_content content
        rw [DataFrame.appData, content, Option.filter_some, if_pos (decide_eq_true port_ne),
          payload_eq, payload, port_eq]
  have withheld : ¬ 0 < macMsg.fPort → frame.appData = none := by
    intro no_data
    cases content : frame.content with
    | none => simp [DataFrame.appData, content]
    | some pair =>
        have port_eq : macMsg.fPort = pair.1 := holds.fPort pair.1 pair.2 content
        have zero : pair.1 = 0 := by
          rw [← port_eq]
          apply UInt8.toNat.inj
          exact Nat.le_zero.mp (UInt8.le_iff_toNat_le.mp (UInt8.not_lt.mp no_data))
        simp [DataFrame.appData, content, zero]
  have empty : macMsg.frmPayloadSize = 0 → frame.appData = none := by
    intro size
    cases content : frame.content with
    | none => simp [DataFrame.appData, content]
    | some pair =>
        have payload := frame.payload_of_content content
        rw [holds.frmPayloadSize, payload] at size
        exact absurd (List.length_eq_zero_iff.mp size) (frame.payload_ne _ _ content)
  have others : (acceptedIndication session rxSlot mhdr fType fCntDown macMsg).devAddress =
      frame.devAddr ∧
      (acceptedIndication session rxSlot mhdr fType fCntDown macMsg).framePending =
        fPendingOf frame.fCtrl ∧
      (acceptedIndication session rxSlot mhdr fType fCntDown macMsg).ackReceived =
        ackOf frame.fCtrl := by
    rw [← holds.devAddr, ← holds.fCtrl]
    cases fType <;> exact ⟨rfl, rfl, rfl⟩
  refine ⟨others.1, others.2.1, others.2.2, ?_⟩
  rw [determineFrameType] at typed
  split at typed
  · rename_i port
    cases typed
    rw [delivered port.2]
    rfl
  · split at typed
    · rename_i size
      cases typed
      rw [empty size]
      rfl
    · split at typed
      · rename_i port
        cases typed
        rw [withheld (by rw [port.2]; decide)]
        rfl
      · split at typed
        · rename_i port
          cases typed
          rw [delivered port.2]
          rfl
        · cases typed

/-! ## Authenticity -/

/-- What the header of a received frame says. -/
theorem frameAddress_take (payload rxPayload : List UInt8) {size : ℕ}
    (long : loramacFramePayloadMinSize ≤ size) :
    frameAddress (payload.take size) =
      (receivedMessage payload size rxPayload).parsed.fhdr.devAddr ∧
    frameCounter (payload.take size) =
      (receivedMessage payload size rxPayload).parsed.fhdr.fCnt := by
  rw [show loramacFramePayloadMinSize = 12 from rfl] at long
  constructor
  · simp only [frameAddress, LoRaMacMessageData.parsed, LoRaMacMessageData.parsedHeader,
      receivedMessage, List.drop_take, List.take_take, min_eq_left (by omega : 4 ≤ size - 1)]
  · simp only [frameCounter, LoRaMacMessageData.parsed, LoRaMacMessageData.parsedHeader,
      receivedMessage, List.drop_take, List.take_take, min_eq_left (by omega : 2 ≤ size - 6)]

/-- The MIC and what it is for. -/
theorem frameMic_take {payload : List UInt8} (rxPayload : List UInt8) {size : ℕ}
    (long : loramacFramePayloadMinSize ≤ size) (inside : size ≤ payload.length) :
    frameMic (payload.take size) = (receivedMessage payload size rxPayload).parsed.mic ∧
    (payload.take size).take ((payload.take size).length - 4) =
      (receivedMessage payload size rxPayload).parsed.buffer.take
        ((receivedMessage payload size rxPayload).parsed.bufSize - loramacMicFieldSize) := by
  rw [show loramacFramePayloadMinSize = 12 from rfl] at long
  have length_eq : (payload.take size).length = size := List.length_take_of_le inside
  constructor
  · simp only [frameMic, LoRaMacMessageData.parsed, receivedMessage, length_eq, List.drop_take,
      (by omega : size - (size - 4) = 4)]
  · simp only [LoRaMacMessageData.parsed, receivedMessage, length_eq, loramacMicFieldSize,
      List.take_take, min_eq_left (by omega : size - 4 ≤ size)]

/-- A frame that passes the checks carries the MIC of its channel. -/
theorem Passes.carriesMic {session : MacSession} {crypto : LoRaMacCryptoCtx σ}
    {maxPayload size : ℕ} {payload rxPayload : List UInt8} {fType : FType} {fCntDown : UInt32}
    (ready : session.Ready) (inside : size ≤ payload.length)
    (passed : Passes cipher keys session crypto maxPayload size
      (receivedMessage payload size rxPayload).parsed fType fCntDown) :
    let multicast := session.isMulticast (receivedMessage payload size rxPayload).parsed
    CarriesMic cipher (keys crypto.se) session multicast fCntDown (payload.take size) ∧
      ∃ last, crypto.fCntList.down (channelCounter multicast) = some last ∧
        fCntDown = reconstructFCntDown last (frameCounter (payload.take size)) := by
  intro multicast
  have header := frameAddress_take payload rxPayload passed.least
  have signature := frameMic_take rxPayload passed.least inside
  have address := passed.genuine.address
  have authentic := passed.genuine.authentic
  rw [LoRaMacMessageData.Authentic] at authentic
  rw [ready.addressOf_eq] at address authentic
  constructor
  · rw [CarriesMic, header.1, signature.1, signature.2]
    exact ⟨address, authentic⟩
  · rcases passed.genuine.counter.success with ⟨last, last_eq, answer⟩
    rw [ready.fCntIDOf_eq] at last_eq
    rw [header.2]
    exact ⟨last, last_eq, Option.some.inj answer.counter⟩

/-- What is told of a frame that passes the checks is what the network sent. -/
theorem Passes.tells {session : MacSession} {crypto : LoRaMacCryptoCtx σ} {maxPayload size : ℕ}
    {payload rxPayload : List UInt8} {fType : FType} {fCntDown : UInt32} {frame : DataFrame}
    (rxSlot : LoRaMacRxSlot) (ready : session.Ready) (receivable : Receivable payload size)
    (room : rxPayload.length = loramacPhyMaxpayload)
    (passed : Passes cipher keys session crypto maxPayload size
      (receivedMessage payload size rxPayload).parsed fType fCntDown)
    (bytes : payload.take size = sentBytes cipher (keys crypto.se)
      (session.isMulticast (receivedMessage payload size rxPayload).parsed) fCntDown frame) :
    (acceptedIndication session rxSlot (payload.getD 0 0) fType fCntDown
      (decrypted cipher keys session crypto (receivedMessage payload size rxPayload).parsed
        fCntDown)).Tells frame := by
  have start := receivedMessage_room passed.least receivable.small receivable.inside room
  rcases start.parsed_holds bytes with ⟨holds, no_port⟩
  rcases holds.decrypted with ⟨mic, plain⟩
  have address : (session.addressOf (receivedMessage payload size rxPayload).parsed).2 =
      frame.devAddr := by
    rw [← passed.genuine.address, holds.devAddr]
    rfl
  have plain_port : frame.content = none →
      (receivedMessage payload size rxPayload).parsed.fPort = 0 := by
    intro content
    apply no_port
    simp only [DataFrame.secured, DataFrame.signed, DataFrame.crypt, content, Option.map_none]
  rw [decrypted, address, ready.addressOf_eq]
  have tells := acceptedIndication_tells session rxSlot (payload.getD 0 0) fCntDown plain plain_port
    passed.frameType
  exact ⟨tells.devAddress, tells.framePending, tells.ackReceived, tells.appData⟩

/-- The data that was told is that of the network. -/
def Genuinely (network : Bool → UInt32 → Option DataFrame) (indications : List McpsIndication) :
    Prop :=
  ∀ indication ∈ indications, indication.isData = true →
    ∃ frame, network indication.multicast indication.downLinkCounter = some frame ∧
      indication.Tells frame

theorem Told.genuinely {network : Bool → UInt32 → Option DataFrame} {mac : Mac σ}
    {event : MacEvent} {final : MacCtx σ} (ready : mac.ctx.session.Ready)
    (told : Told cipher keys event.maxPayload mac.ctx final (event.rxDone mac))
    (unforged : Unforged cipher keys network mac event)
    (before : Genuinely network mac.ctx.indications) : Genuinely network final.indications := by
  generalize rxDone : event.rxDone mac = received at told
  cases told with
  | nothing _ indications =>
      rw [indications]
      exact before
  | other indication no_data _ _ _ _ indications =>
      rw [indications]
      intro member appended data
      rcases List.mem_append.mp appended with old | new
      · exact before member old data
      · rw [List.mem_singleton.mp new, no_data] at data
        cases data
  | data rxSlot fType fCntDown receivable room parsed passed down indications =>
      rename_i payload rxPayload size macMsg
      rw [indications]
      intro member appended data
      rcases List.mem_append.mp appended with old | new
      · exact before member old data
      · rw [List.mem_singleton.mp new]
        subst parsed
        have inside := receivable.small.trans receivable.inside
        let multicast := mac.ctx.session.isMulticast
          (receivedMessage payload size rxPayload).parsed
        rcases passed.carriesMic ready inside with ⟨carries, last, last_eq, counter_eq⟩
        rw [counter_eq] at carries
        rcases unforged payload size multicast last rxDone last_eq carries with
          ⟨frame, sent, bytes⟩
        rw [← counter_eq] at sent bytes
        refine ⟨frame, ?_, passed.tells rxSlot ready receivable room bytes⟩
        rw [acceptedIndication_multicast, acceptedIndication_downLinkCounter]
        exact sent

/-- A network that sends frames to the device under the first counters. -/
def sampleNetwork (multicast : Bool) (fCnt : UInt32) : Option DataFrame :=
  if multicast = false ∧ fCnt < 100 then some (sampleDown fCnt) else none

/-- The frame that waits is that of the network. -/
theorem waitingMac_unforged : Unforged sampleCipher SoftSe.SeNvmCtx.keys sampleNetwork waitingMac
    sampleProcess := by
  intro payload size multicast last rxDone last_eq carries
  have received : waitingMac.events.rxDone = some (payload, size) := rxDone
  rw [waitingMac_rxDone] at received
  cases received
  cases multicast with
  | true =>
      have address := carries.1
      rw [waitingMac_session] at address
      exact absurd address (by decide +kernel)
  | false =>
      rw [waitingMac_fCntDown] at last_eq
      cases last_eq
      have counter : reconstructFCntDown fcntDownInitalValue
          (frameCounter ((sampleRadio 7).take 16)) = 7 := by
        decide +kernel
      rw [counter]
      exact ⟨sampleDown 7, rfl, waitingMac_bytes⟩

/-- A frame that the network sends to a device whose last counter is `last`. -/
structure Deliverable (session : MacSession) (multicast : Bool) (last fCnt : UInt32)
    (frame : DataFrame) : Prop where
  type : IsDataDown frame.mhdr
  address : frame.devAddr = session.channelAddress multicast
  channel : (decide (session.multicastChannel.address = frame.devAddr) &&
    session.multicastChannel.isEnabled) = multicast
  counter : frame.fCnt = low16 fCnt
  reach : InReach last fCnt
  gap : (fCnt.toNat : ℤ) - last.toNat < session.maxFCntGap
  commands : frame.portBytes = [0] → frame.fOpts = []
  dataOnly : multicast = true → frame.fOpts = [] ∧ frame.appData ≠ none ∧
    ackOf frame.fCtrl = false ∧ adrAckReqOf frame.fCtrl = false

/-- Every frame has a type but one with commands in two places. -/
theorem determineFrameType_of_holds {macMsg : LoRaMacMessageData} {frame : DataFrame}
    (holds : macMsg.Holds frame) (no_port : frame.content = none → macMsg.fPort = 0)
    (commands : frame.portBytes = [0] → frame.fOpts = []) :
    ∃ fType, determineFrameType macMsg = some fType ∧
      (frame.fOpts = [] → frame.appData ≠ none → fType = .frameTypeD) := by
  have options : macMsg.fhdr.fOptsLen = frame.fOpts.length := by
    rw [frame.fOpts_length, LoRaMacFrameHeader.fOptsLen, holds.fCtrl]
  rw [determineFrameType, options]
  cases content : frame.content with
  | none =>
      have empty : macMsg.frmPayloadSize = 0 := by
        rw [holds.frmPayloadSize]
        simp only [DataFrame.payload, content, List.length_nil]
      rw [no_port content, empty]
      refine ⟨.frameTypeB, by simp, fun _ data => ?_⟩
      simp [DataFrame.appData, content] at data
  | some pair =>
      have port_eq : macMsg.fPort = pair.1 := holds.fPort pair.1 pair.2 content
      have payload_ne := frame.payload_ne pair.1 pair.2 content
      have size : macMsg.frmPayloadSize ≠ 0 := by
        rw [holds.frmPayloadSize, frame.payload_of_content content]
        exact fun nil => payload_ne (List.length_eq_zero_iff.mp nil)
      by_cases ported : 0 < pair.1
      · by_cases optional : 0 < frame.fOpts.length
        · refine ⟨.frameTypeA, by rw [port_eq, if_pos ⟨optional, ported⟩], fun nil => ?_⟩
          rw [nil] at optional
          exact absurd optional (by simp)
        · have none : frame.fOpts.length = 0 := by omega
          refine ⟨.frameTypeD, ?_, fun _ _ => rfl⟩
          rw [port_eq, if_neg (by omega), if_neg size, if_neg (fun both => by
            rw [both.2] at ported
            exact absurd ported (by decide)), if_pos ⟨none, ported⟩]
      · have zero : pair.1 = 0 := by
          apply UInt8.toNat.inj
          exact Nat.le_zero.mp (UInt8.le_iff_toNat_le.mp (UInt8.not_lt.mp ported))
        have none : frame.fOpts = [] := commands (by
          rw [frame.portBytes_of_content content, zero])
        refine ⟨.frameTypeC, ?_, fun _ data => ?_⟩
        · rw [port_eq, if_neg (fun both => ported both.2), if_neg size,
            if_pos ⟨by rw [none, List.length_nil], zero⟩]
        · simp [DataFrame.appData, content, zero] at data

/-- A counter in reach is accepted. -/
theorem InReach.accepted {crypto : LoRaMacCryptoCtx σ} {fCntID : FCntIdentifier}
    {last fCnt : UInt32} {maxFCntGap : ℕ} (reach : InReach last fCnt)
    (last_eq : crypto.fCntList.down fCntID = some last)
    (gap : (fCnt.toNat : ℤ) - last.toNat < maxFCntGap) :
    CounterAccepted crypto fCntID maxFCntGap (low16 fCnt) fCnt := by
  have counter := reconstructFCntDown_low16 reach
  have later : last ≠ fcntDownInitalValue → last < fCnt ∧ fCnt.toNat < last.toNat + 2 ^ 16 := by
    intro started
    rw [InReach, if_neg started] at reach
    exact reach
  constructor
  · refine ⟨last, last_eq, by rw [counter], ?_⟩
    simp only [counter, true_iff]
    constructor
    · rintro ⟨started, same⟩
      rcases later started with ⟨later, near⟩
      rw [toNat_low16] at same
      have later_nat := UInt32.lt_iff_toNat_lt.mp later
      omega
    · rintro ⟨-, far⟩
      omega
  · refine ⟨last, last_eq, ?_⟩
    by_cases started : last = fcntDownInitalValue
    · exact .inr started
    · exact .inl (later started).1

/-- A frame of the network passes the checks. -/
theorem Deliverable.passes {session : MacSession} {crypto : LoRaMacCryptoCtx σ}
    {multicast : Bool} {last fCnt : UInt32} {frame : DataFrame} {payload rxPayload : List UInt8}
    {maxPayload size : ℕ} (deliverable : Deliverable session multicast last fCnt frame)
    (ready : session.Ready) (receivable : Receivable payload size)
    (room : rxPayload.length = loramacPhyMaxpayload)
    (last_eq : crypto.fCntList.down (channelCounter multicast) = some last)
    (bytes : payload.take size = sentBytes cipher (keys crypto.se) multicast fCnt frame)
    (allowed : size - loramacFramePayloadOverheadSize ≤ maxPayload) :
    IsDataDown (payload.getD 0 0) ∧
      session.isMulticast (receivedMessage payload size rxPayload).parsed = multicast ∧
      ∃ fType, Passes cipher keys session crypto maxPayload size
        (receivedMessage payload size rxPayload).parsed fType fCnt := by
  have inside := receivable.small.trans receivable.inside
  have size_eq : size = frame.bytes.length := by
    rw [← List.length_take_of_le inside, bytes, sentBytes, DataFrame.length_bytes_secured]
  have least : loramacFramePayloadMinSize ≤ size := by
    rw [size_eq, frame.length_bytes, show loramacFramePayloadMinSize = 12 from rfl]
    omega
  have start := receivedMessage_room least receivable.small receivable.inside room
  rcases start.parsed_holds bytes with ⟨holds, no_port⟩
  rcases holds.decrypted with ⟨mic, plain⟩
  have plain_port : frame.content = none →
      (receivedMessage payload size rxPayload).parsed.fPort = 0 := by
    intro content
    apply no_port
    simp only [DataFrame.secured, DataFrame.signed, DataFrame.crypt, content, Option.map_none]
  have own : session.isMulticast (receivedMessage payload size rxPayload).parsed = multicast := by
    rw [MacSession.isMulticast, holds.devAddr]
    exact deliverable.channel
  have carries := (frameMic_take rxPayload least inside)
  rcases determineFrameType_of_holds plain plain_port deliverable.commands with
    ⟨fType, typed, data_only⟩
  refine ⟨?_, own, fType, allowed, least, typed, ?_, ?_, ?_, ?_⟩
  · have mhdr : payload.getD 0 0 = frame.mhdr := holds.mhdr
    rw [mhdr]
    exact deliverable.type
  · intro grouped
    rw [own] at grouped
    rcases deliverable.dataOnly grouped with ⟨no_options, data, no_ack, no_request⟩
    rw [holds.fCtrl]
    exact ⟨data_only no_options data, no_ack, no_request⟩
  · rw [ready.fCntIDOf_eq, own, holds.fCnt]
    have counter : (frame.secured cipher (keys crypto.se) (keyAddrOf (channelID multicast)).appSkey
        (keyAddrOf (channelID multicast)).nwkSkey downlink fCnt).fCnt = low16 fCnt :=
      deliverable.counter
    rw [counter]
    exact deliverable.reach.accepted last_eq deliverable.gap
  · rw [ready.addressOf_eq, own, holds.devAddr]
    exact deliverable.address
  · rw [LoRaMacMessageData.Authentic, ready.addressOf_eq, own, holds.mic, ← carries.2, bytes]
    have body : ∀ secured : DataFrame, secured.bytes.take (secured.bytes.length - 4) =
        secured.body := by
      intro secured
      rw [DataFrame.bytes, List.length_append, length_leBytes]
      exact List.take_left' (by omega)
    rw [sentBytes, body, ← deliverable.address]
    rfl

end GenericNode.LoRaMac
