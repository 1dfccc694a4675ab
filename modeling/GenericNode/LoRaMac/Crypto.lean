import GenericNode.LoRaMac.Frames
import GenericNode.Library.CounterMode
import GenericNode.SecureElement.Interface

/-!
# Frame security

`LoRaMacCrypto.c` for LoRaWAN 1.0 crypto with one multicast context: the frame
counters, the encryption of payloads and the message integrity codes.
-/

namespace GenericNode.LoRaMac

open GenericNode.Library
open GenericNode.Library.Prog
open GenericNode.SecureElement

/-! ## The context -/

/-- `FCntIdentifier_t`. -/
inductive FCntIdentifier where
  | fCntUp
  | nFCntDown
  | aFCntDown
  | fCntDown
  | mcFCntDown0
deriving DecidableEq, Repr

/-- `AddressIdentifier_t`. -/
inductive AddressIdentifier where
  | multicast0Addr
  | unicastDevAddr
deriving DecidableEq, Repr

/-- `LoRaMacCryptoStatus_t`. -/
inductive LoRaMacCryptoStatus where
  | success
  | failMic
  | failAddress
  | failFcntId
  | failFcntSmaller
  | failFcntDuplicated
  | failMaxGapFcnt
  | errorInvalidKeyId
  | errorInvalidAddrId
  | errorBufSize
  | errorSecureElementFunc
  | errorParser
  | errorSerializer
deriving DecidableEq, Repr

/-- `FCNT_DOWN_INITAL_VALUE`. -/
def fcntDownInitalValue : UInt32 :=
  0xFFFFFFFF

/-- `FCntList_t`. -/
structure FCntList where
  fCntUp : UInt32
  nFCntDown : UInt32
  aFCntDown : UInt32
  fCntDown : UInt32
  mcFCntDown0 : UInt32
deriving DecidableEq, Repr

/-- The downlink counter of an identifier. -/
def FCntList.down (fCntList : FCntList) : FCntIdentifier → Option UInt32
  | .nFCntDown => some fCntList.nFCntDown
  | .aFCntDown => some fCntList.aFCntDown
  | .fCntDown => some fCntList.fCntDown
  | .mcFCntDown0 => some fCntList.mcFCntDown0
  | .fCntUp => none

/-- The list with the downlink counter of an identifier replaced. -/
def FCntList.setDown (fCntList : FCntList) (fCntID : FCntIdentifier) (value : UInt32) : FCntList :=
  match fCntID with
  | .nFCntDown => { fCntList with nFCntDown := value }
  | .aFCntDown => { fCntList with aFCntDown := value }
  | .fCntDown => { fCntList with fCntDown := value }
  | .mcFCntDown0 => { fCntList with mcFCntDown0 := value }
  | .fCntUp => fCntList

/-- `LoRaMacCryptoNvmCtx_t` with the state of the secure element and the number
of times the change of the context was announced.  `lastDownFCnt` names the
counter that the pointer shows. -/
structure LoRaMacCryptoCtx (σ : Type) where
  minor : ℕ
  devNonce : UInt16
  fCntList : FCntList
  lastDownFCnt : FCntIdentifier
  announced : ℕ
  se : σ

variable {σ κ : Type}

/-- `CryptoCtx.EventCryptoNvmCtxChanged( )`. -/
def eventCryptoNvmCtxChanged : Prog (LoRaMacCryptoCtx σ) Unit :=
  modify fun ctx => { ctx with announced := ctx.announced + 1 }

/-- A call of the secure element. -/
def seCall {α : Type} (call : Prog σ α) : Prog (LoRaMacCryptoCtx σ) α :=
  zoom LoRaMacCryptoCtx.se (fun se ctx => { ctx with se := se }) call

/-- `KeyAddr_t`. -/
structure KeyAddr where
  addrID : AddressIdentifier
  appSkey : KeyIdentifier
  nwkSkey : KeyIdentifier
  rootKey : KeyIdentifier
deriving DecidableEq, Repr

/-- `KeyAddrList`. -/
def keyAddrList : List KeyAddr :=
  [⟨.multicast0Addr, .mcAppSKey0, .mcNwkSKey0, .mcKey0⟩,
    ⟨.unicastDevAddr, .appSKey, .nwkSKey, .noKey⟩]

/-- `GetKeyAddrItem`. -/
def getKeyAddrItem (addrID : AddressIdentifier) : Option KeyAddr :=
  keyAddrList.find? fun item => item.addrID = addrID

/-! ## Blocks -/

/-- `UPLINK`. -/
def uplink : UInt8 :=
  0

/-- `DOWNLINK`. -/
def downlink : UInt8 :=
  1

/-- The block that `PayloadEncrypt` encrypts at a value of its counter. -/
def aBlock (address : UInt32) (dir : UInt8) (frameCounter : UInt32) (ctr : ℕ) : Block :=
  fun index => ([0x01, 0, 0, 0, 0, dir] ++ leBytes 4 address.toNat ++
    leBytes 4 frameCounter.toNat ++ [0, UInt8.ofNat ctr]).getD index 0

/-- `PrepareB0`.  Without LoRaWAN 1.1 crypto it ignores the key and `isAck`. -/
def prepareB0 (msgLen : ℕ) (dir : UInt8) (devAddr fCnt : UInt32) : Block :=
  fun index => ([0x49, 0x00, 0x00, 0x00, 0x00, dir] ++ leBytes 4 devAddr.toNat ++
    leBytes 4 fCnt.toNat ++ [0x00, UInt8.ofNat msgLen]).getD index 0

/-- The bytes of a buffer from a place on with those of a block added. -/
def xorAt (buffer : List UInt8) (bufferIndex count : ℕ) (sBlock : Block) : Option (List UInt8) :=
  if bufferIndex + count ≤ buffer.length then
    some (buffer.mapIdx fun index byte =>
      if bufferIndex ≤ index ∧ index < bufferIndex + count then
        byte ^^^ byteOf sBlock (index - bufferIndex)
      else byte)
  else none

variable (api : SecureElementApi σ)

/-- `PayloadEncrypt`.  The loop carries the buffer, its index, the block counter
and the bytes that remain. -/
def payloadEncrypt (buffer : List UInt8) (size : ℕ) (keyID : KeyIdentifier) (address : UInt32)
    (dir : UInt8) (frameCounter : UInt32) :
    Prog (LoRaMacCryptoCtx σ) (LoRaMacCryptoStatus × List UInt8) :=
  loop (fun (buffer, bufferIndex, ctr, size) => do
    if 0 < size then
      let (status, sBlock) ←
        seCall (api.aesEncrypt (aBlock address dir frameCounter ctr) keyID)
      if status ≠ .success then
        pure (.inr (.errorSecureElementFunc, buffer))
      else
        let buffer ← lift (xorAt buffer bufferIndex (min 16 size) sBlock)
        pure (.inl (buffer, (bufferIndex + 16) % 2 ^ 8, (ctr + 1) % 2 ^ 16, size - 16))
    else
      pure (.inr (.success, buffer))) (size + 1) (buffer, 0, 1, size)

/-- `CRYPTO_MAXMESSAGE_SIZE`. -/
def cryptoMaxmessageSize : ℕ :=
  256

/-- `ComputeCmacB0`. -/
def computeCmacB0 (msg : List UInt8) (len : ℕ) (keyID : KeyIdentifier) (dir : UInt8)
    (devAddr fCnt : UInt32) : Prog (LoRaMacCryptoCtx σ) (LoRaMacCryptoStatus × Option UInt32) :=
  if cryptoMaxmessageSize < len then
    pure (.errorBufSize, none)
  else do
    let bytes ← lift (slice msg 0 len)
    let (status, cmac) ←
      seCall (api.computeAesCmac (some (prepareB0 len dir devAddr fCnt)) bytes keyID)
    if status ≠ .success then
      pure (.errorSecureElementFunc, cmac)
    else
      pure (.success, cmac)

/-- `VerifyCmacB0`. -/
def verifyCmacB0 (msg : List UInt8) (len : ℕ) (keyID : KeyIdentifier) (dir : UInt8)
    (devAddr fCnt expectedCmac : UInt32) : Prog (LoRaMacCryptoCtx σ) LoRaMacCryptoStatus :=
  if cryptoMaxmessageSize < len then
    pure .errorBufSize
  else do
    let bytes ← lift (slice msg 0 len)
    let micBuff := List.ofFn (prepareB0 len dir devAddr fCnt) ++ bytes
    let retval ← seCall (api.verifyAesCmac micBuff expectedCmac keyID)
    if retval = .success then
      pure .success
    else if retval = .failCmac then
      pure .failMic
    else
      pure .errorSecureElementFunc

/-! ## Frame counters -/

/-- `GetLastFcntDown`. -/
def getLastFcntDown (fCntID : FCntIdentifier) : Prog (LoRaMacCryptoCtx σ) (Option UInt32) := do
  let lastDown ← gets fun ctx => ctx.fCntList.down fCntID
  match fCntID with
  | .nFCntDown | .aFCntDown | .fCntDown => modify fun ctx => { ctx with lastDownFCnt := fCntID }
  | .mcFCntDown0 | .fCntUp => pure ()
  pure lastDown

/-- `CheckFCntDown`. -/
def checkFCntDown (fCntID : FCntIdentifier) (currentDown : UInt32) :
    Prog (LoRaMacCryptoCtx σ) Bool := do
  match ← getLastFcntDown fCntID with
  | none => pure false
  | some lastDown => pure (decide (lastDown < currentDown ∨ lastDown = fcntDownInitalValue))

/-- `UpdateFCntDown`. -/
def updateFCntDown (fCntID : FCntIdentifier) (currentDown : UInt32) :
    Prog (LoRaMacCryptoCtx σ) Unit := do
  modify fun ctx => { ctx with fCntList := ctx.fCntList.setDown fCntID currentDown }
  eventCryptoNvmCtxChanged

/-- `LoRaMacCryptoGetFCntUp`. -/
def loRaMacCryptoGetFCntUp : Prog (LoRaMacCryptoCtx σ) UInt32 :=
  gets fun ctx => ctx.fCntList.fCntUp + 1

/-- The downlink counter that `LoRaMacCryptoGetFCntDown` derives from the 16
bits of a frame. -/
def reconstructFCntDown (lastDown : UInt32) (frameFcnt : UInt16) : UInt32 :=
  if lastDown = fcntDownInitalValue then
    UInt32.ofNat frameFcnt.toNat
  else
    let fCntDiff : ℤ := frameFcnt.toNat - (lastDown.toNat % 2 ^ 16 : ℕ)
    if 0 < fCntDiff then
      UInt32.ofNat (lastDown.toNat + fCntDiff.toNat)
    else if fCntDiff = 0 then
      lastDown
    else
      UInt32.ofNat (lastDown.toNat / 2 ^ 16 * 2 ^ 16 + 0x10000 + frameFcnt.toNat)

/-- `LoRaMacCryptoGetFCntDown`. -/
def loRaMacCryptoGetFCntDown (fCntID : FCntIdentifier) (maxFCntGap : ℕ) (frameFcnt : UInt16) :
    Prog (LoRaMacCryptoCtx σ) (LoRaMacCryptoStatus × Option UInt32) := do
  match ← getLastFcntDown fCntID with
  | none => pure (.failFcntId, none)
  | some lastDown =>
      let currentDown := reconstructFCntDown lastDown frameFcnt
      if lastDown ≠ fcntDownInitalValue ∧ frameFcnt.toNat = lastDown.toNat % 2 ^ 16 then
        pure (.failFcntDuplicated, some currentDown)
      else
        let minor ← gets LoRaMacCryptoCtx.minor
        if minor = 0 ∧ (maxFCntGap : ℤ) ≤ (currentDown.toNat : ℤ) - lastDown.toNat then
          pure (.failMaxGapFcnt, some currentDown)
        else
          pure (.success, some currentDown)

/-! ## Messages -/

/-- The end of `LoRaMacCryptoSecureMessage`, from the first serialisation on.
The message is returned as it is left. -/
def signMessage (fCntUp : UInt32) (macMsg : LoRaMacMessageData) :
    Prog (LoRaMacCryptoCtx σ) (LoRaMacCryptoStatus × LoRaMacMessageData) := do
  let (serialised, macMsg) ← lift (loRaMacSerializerData macMsg)
  if serialised ≠ .success then
    pure (.errorSerializer, macMsg)
  else
    let (status, cmac) ← computeCmacB0 api macMsg.buffer
      ((macMsg.bufSize + 2 ^ 16 - loramacMicFieldSize) % 2 ^ 16) .nwkSKey uplink
      macMsg.fhdr.devAddr fCntUp
    let macMsg := { macMsg with mic := cmac.getD macMsg.mic }
    if status ≠ .success then
      pure (status, macMsg)
    else
      let (serialised, macMsg) ← lift (loRaMacSerializerData macMsg)
      if serialised ≠ .success then
        pure (.errorSerializer, macMsg)
      else
        modify fun ctx => { ctx with fCntList := { ctx.fCntList with fCntUp := fCntUp } }
        eventCryptoNvmCtxChanged
        pure (.success, macMsg)

/-- `LoRaMacCryptoSecureMessage`. -/
def loRaMacCryptoSecureMessage (fCntUp : UInt32) (macMsg : LoRaMacMessageData) :
    Prog (LoRaMacCryptoCtx σ) (LoRaMacCryptoStatus × LoRaMacMessageData) := do
  let last ← gets fun ctx => ctx.fCntList.fCntUp
  if fCntUp < last then
    pure (.failFcntSmaller, macMsg)
  else if last < fCntUp then
    let payloadKeyID : KeyIdentifier := if macMsg.fPort = 0 then .nwkSKey else .appSKey
    let (status, frmPayload) ← payloadEncrypt api macMsg.frmPayload macMsg.frmPayloadSize
      payloadKeyID macMsg.fhdr.devAddr uplink fCntUp
    let macMsg := { macMsg with frmPayload := frmPayload }
    if status ≠ .success then
      pure (status, macMsg)
    else
      signMessage api fCntUp macMsg
  else
    signMessage api fCntUp macMsg

/-- `LoRaMacCryptoUnsecureMessage`. -/
def loRaMacCryptoUnsecureMessage (addrID : AddressIdentifier) (address : UInt32)
    (fCntID : FCntIdentifier) (fCntDown : UInt32) (macMsg : LoRaMacMessageData) :
    Prog (LoRaMacCryptoCtx σ) (LoRaMacCryptoStatus × LoRaMacMessageData) := do
  if ! (← checkFCntDown fCntID fCntDown) then
    pure (.failFcntSmaller, macMsg)
  else
    let (parsed, macMsg) ← lift (loRaMacParserData macMsg)
    if parsed ≠ .success then
      pure (.errorParser, macMsg)
    else
      match getKeyAddrItem addrID with
      | none => pure (.errorInvalidAddrId, macMsg)
      | some curItem =>
          if address ≠ macMsg.fhdr.devAddr then
            pure (.failAddress, macMsg)
          else
            let status ← verifyCmacB0 api macMsg.buffer
              ((macMsg.bufSize + 2 ^ 16 - loramacMicFieldSize) % 2 ^ 16) curItem.nwkSkey downlink
              address fCntDown macMsg.mic
            if status ≠ .success then
              pure (status, macMsg)
            else
              let payloadKeyID := if macMsg.fPort = 0 then .nwkSKey else curItem.appSkey
              let (status, frmPayload) ← payloadEncrypt api macMsg.frmPayload
                macMsg.frmPayloadSize payloadKeyID address downlink fCntDown
              let macMsg := { macMsg with frmPayload := frmPayload }
              if status ≠ .success then
                pure (status, macMsg)
              else
                updateFCntDown fCntID fCntDown
                pure (.success, macMsg)

end GenericNode.LoRaMac
