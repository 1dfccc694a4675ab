import GenericNode.LoRaMac.Join

/-!
# The state of the MAC

`MacCtx` of `LoRaMac.c` for a device without class B: what it keeps for a
session, for the message it sends and for the frame it receives.
-/

namespace GenericNode.LoRaMac

open GenericNode.Library
open GenericNode.Library.Prog
open GenericNode.SecureElement

/-! ## Enumerations -/

/-- `LoRaMacFrameType_t`, with the value that it leaves out. -/
inductive LoRaMacFrameType where
  | joinReq
  | joinAccept
  | dataUnconfirmedUp
  | dataUnconfirmedDown
  | dataConfirmedUp
  | dataConfirmedDown
  | reserved
  | proprietary
deriving DecidableEq, Repr

/-- `macHdr.Bits.MType`. -/
def mType (mhdr : UInt8) : LoRaMacFrameType :=
  match mhdr.toNat / 32 with
  | 0 => .joinReq
  | 1 => .joinAccept
  | 2 => .dataUnconfirmedUp
  | 3 => .dataUnconfirmedDown
  | 4 => .dataConfirmedUp
  | 5 => .dataConfirmedDown
  | 6 => .reserved
  | _ => .proprietary

/-- `FType_t`. -/
inductive FType where
  | frameTypeA
  | frameTypeB
  | frameTypeC
  | frameTypeD
deriving DecidableEq, Repr

/-- `DeviceClass_t`. -/
inductive DeviceClass where
  | classA
  | classC
deriving DecidableEq, Repr

/-- `ActivationType_t`. -/
inductive ActivationType where
  | none
  | abp
  | otaa
deriving DecidableEq, Repr

/-- `LoRaMacRxSlot_t`. -/
inductive LoRaMacRxSlot where
  | win1
  | win2
  | winClassC
  | winClassCMulticast
  | none
deriving DecidableEq, Repr

/-- `LoRaMacEventInfoStatus_t`. -/
inductive LoRaMacEventInfoStatus where
  | ok
  | error
  | txTimeout
  | rx1Timeout
  | rx2Timeout
  | rx1Error
  | rx2Error
  | downlinkRepeated
  | txDrPayloadSizeError
  | downlinkTooManyFramesLoss
  | addressFail
  | micFail
deriving DecidableEq, Repr

/-- `Mcps_t`. -/
inductive Mcps where
  | unconfirmed
  | confirmed
  | multicast
  | proprietary
deriving DecidableEq, Repr

/-! ## Frame control -/

/-- `FCtrl.Bits.FPending`. -/
def fPendingOf (fCtrl : UInt8) : Bool :=
  fCtrl.toNat.testBit 4

/-- `FCtrl.Bits.Ack`. -/
def ackOf (fCtrl : UInt8) : Bool :=
  fCtrl.toNat.testBit 5

/-- `FCtrl.Bits.AdrAckReq`. -/
def adrAckReqOf (fCtrl : UInt8) : Bool :=
  fCtrl.toNat.testBit 6

/-! ## The context -/

/-- `McpsIndication_t`.  `buffer` is what the pointer shows. -/
structure McpsIndication where
  mcpsIndication : Mcps
  status : LoRaMacEventInfoStatus
  multicast : Bool
  port : UInt8
  framePending : Bool
  buffer : Option (List UInt8)
  rxData : Bool
  rxSlot : LoRaMacRxSlot
  ackReceived : Bool
  downLinkCounter : UInt32
  devAddress : UInt32
deriving DecidableEq, Repr

/-- The values that `ProcessRadioRxDone` starts with. -/
def McpsIndication.start (status : LoRaMacEventInfoStatus) (rxSlot : LoRaMacRxSlot) :
    McpsIndication where
  mcpsIndication := .unconfirmed
  status := status
  multicast := false
  port := 0
  framePending := false
  buffer := none
  rxData := false
  rxSlot := rxSlot
  ackReceived := false
  downLinkCounter := 0
  devAddress := 0

/-- `McChannelParams_t` of the one multicast context. -/
structure McChannelParams where
  address : UInt32
  isEnabled : Bool
  groupID : AddressIdentifier
deriving DecidableEq, Repr

/-- What the MAC keeps for a session.  `maxFCntGap` is `PHY_MAX_FCNT_GAP` of the
region. -/
structure MacSession where
  devAddr : UInt32
  networkActivation : ActivationType
  minor : ℕ
  deviceClass : DeviceClass
  multicastChannel : McChannelParams
  maxFCntGap : ℕ
deriving DecidableEq, Repr

/-- `McpsConfirm_t` as the upper layer is given it. -/
structure McpsConfirm where
  mcpsRequest : Mcps
  status : LoRaMacEventInfoStatus
  nbRetries : ℕ
  ackReceived : Bool
  upLinkCounter : UInt32
deriving DecidableEq, Repr

/-- What the MAC keeps for the message it sends.  `air` is what `Radio.Send`
was given. -/
structure MacTx where
  txMsg : LoRaMacMessageData
  mcpsRequest : Mcps
  nbRetries : ℕ
  upLinkCounter : UInt32
  nodeAckRequested : Bool
  ackTimeoutRetries : ℕ
  ackTimeoutRetriesCounter : ℕ
  channelsNbTransCounter : ℕ
  txRunning : Bool
  txDelayed : Bool
  mcpsReq : Bool
  air : List (List UInt8)
deriving DecidableEq, Repr

/-- What the radio does. -/
inductive Radio where
  | sleep
  | tx
  | rx
deriving DecidableEq, Repr

/-- The timers that run. -/
structure MacTimers where
  txDelayedTimer : Bool
  rxWindowTimer1 : Bool
  rxWindowTimer2 : Bool
  ackTimeoutTimer : Bool
deriving DecidableEq, Repr

/-- `MacCtx` with the radio and its timers.  `commands` is what
`ProcessMacCommands` was given, `indications` and `confirms` what the upper
layer was told. -/
structure MacCtx (σ : Type) where
  session : MacSession
  tx : MacTx
  crypto : LoRaMacCryptoCtx σ
  rxPayload : List UInt8
  rxSlot : LoRaMacRxSlot
  srvAckRequested : Bool
  lastRxMic : UInt32
  ackTimeoutRetry : Bool
  rxAbort : Bool
  mcpsInd : Bool
  macDone : Bool
  ackReceived : Bool
  confirmStatus : LoRaMacEventInfoStatus
  indication : McpsIndication
  timers : MacTimers
  radio : Radio
  commands : List (List UInt8)
  indications : List McpsIndication
  confirms : List McpsConfirm

variable {σ : Type}

/-- A call of `LoRaMacCrypto.c`. -/
def cryptoCall {α : Type} (call : Prog (LoRaMacCryptoCtx σ) α) : Prog (MacCtx σ) α :=
  zoom MacCtx.crypto (fun crypto ctx => { ctx with crypto := crypto }) call

/-- A change of the indication. -/
def setIndication (change : McpsIndication → McpsIndication) : Prog (MacCtx σ) Unit :=
  modify fun ctx => { ctx with indication := change ctx.indication }

/-- `OnAckTimeoutTimerEvent`. -/
def onAckTimeoutTimerEvent : Prog (MacCtx σ) Unit :=
  modify fun ctx => { ctx with
    timers := { ctx.timers with ackTimeoutTimer := false }
    ackTimeoutRetry := ctx.ackTimeoutRetry || ctx.tx.nodeAckRequested
    macDone := ctx.macDone || decide (ctx.session.deviceClass = .classC) }

/-- `UpdateRxSlotIdleState`. -/
def updateRxSlotIdleState : Prog (MacCtx σ) Unit :=
  modify fun ctx => { ctx with
    rxSlot := if ctx.session.deviceClass ≠ .classC then .none else .winClassC }

end GenericNode.LoRaMac
