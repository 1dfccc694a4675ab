import GenericNode.SecureElement.Device

/-!
# The calls of the secure element

The functions of `atecc608a-tnglora-se.c`.  A pointer argument that may be
`NULL` is an `Option`; a word passed by reference is given its value before
the call and returned with the status.
-/

namespace GenericNode.SecureElement

open GenericNode.Library
open GenericNode.Library.Prog

variable {β κ : Type}

/-- `ComputeCmac`. -/
def computeCmac (atecc : Atecc608 κ) (micBxBuffer buffer : Option (Pointer β)) (size : ℕ)
    (keyID : KeyIdentifier) (cmac : Option UInt32) :
    Prog (SeWorld β κ) (SecureElementStatus × Option UInt32) :=
  match buffer, cmac with
  | some buffer, some _ =>
      match getKeyByID keyID with
      | none => pure (.errorInvalidKeyId, cmac)
      | some keyItem => do
          match ← atcabAesCmacInit keyItem.keySlotNumber keyItem.keyBlockIndex with
          | some ctx =>
              let ctx ← match micBxBuffer with
                | some micBxBuffer => do
                    let (_, ctx) ← atcabAesCmacUpdate ctx micBxBuffer 16
                    pure ctx
                | none => pure ctx
              let (_, ctx) ← atcabAesCmacUpdate ctx buffer size
              let (_, block) ← atcabAesCmacFinish atecc ctx fun _ => 0
              pure (.success, some ((byteOf block 3).toUInt32 <<< 24 |||
                (byteOf block 2).toUInt32 <<< 16 ||| (byteOf block 1).toUInt32 <<< 8 |||
                (byteOf block 0).toUInt32))
          | none => pure (.error, cmac)
  | _, _ => pure (.errorNpe, cmac)

/-- `SecureElementSetKey`: no key setting for the hardware element. -/
def secureElementSetKey (_keyID : KeyIdentifier) (_key : Option (Pointer β)) :
    Prog (SeWorld β κ) SecureElementStatus :=
  pure .success

/-- `SecureElementComputeAesCmac`. -/
def secureElementComputeAesCmac (atecc : Atecc608 κ) (micBxBuffer buffer : Option (Pointer β))
    (size : ℕ) (keyID : KeyIdentifier) (cmac : Option UInt32) :
    Prog (SeWorld β κ) (SecureElementStatus × Option UInt32) :=
  if loramacCryptoMulticastKeys ≤ keyID.value then
    pure (.errorInvalidKeyId, cmac)
  else
    computeCmac atecc micBxBuffer buffer size keyID cmac

/-- `SecureElementVerifyAesCmac`. -/
def secureElementVerifyAesCmac (atecc : Atecc608 κ) (buffer : Option (Pointer β)) (size : ℕ)
    (expectedCmac : UInt32) (keyID : KeyIdentifier) :
    Prog (SeWorld β κ) SecureElementStatus :=
  match buffer with
  | none => pure .errorNpe
  | some buffer => do
      let (retval, compCmac) ← computeCmac atecc none (some buffer) size keyID (some 0)
      if retval ≠ .success then
        pure retval
      else if some expectedCmac ≠ compCmac then
        pure .failCmac
      else
        pure retval

/-- `SecureElementAesEncrypt`.  The block counter is an 8-bit word. -/
def secureElementAesEncrypt [DecidableEq β] (atecc : Atecc608 κ) (buffer : Option (Pointer β))
    (size : ℕ) (keyID : KeyIdentifier) (encBuffer : Option (Pointer β)) :
    Prog (SeWorld β κ) SecureElementStatus :=
  match buffer, encBuffer with
  | some buffer, some encBuffer =>
      if size % 16 ≠ 0 then
        pure .errorBufSize
      else
        match getKeyByID keyID with
        | none => pure .errorInvalidKeyId
        | some pItem =>
            loop (fun (block, size) => do
              if size ≠ 0 then
                let _ ← atcabAesEncrypt atecc pItem.keySlotNumber pItem.keyBlockIndex
                  (buffer.add block) (encBuffer.add block)
                pure (.inl ((block + 16) % 2 ^ 8, size - 16))
              else
                pure (.inr .success)) (size + 1) (0, size)
  | _, _ => pure .errorNpe

/-- The roots that `SecureElementDeriveAndStoreKey` skips. -/
def SkippedRoot (rootKeyID : KeyIdentifier) : Prop :=
  rootKeyID = .appKey ∨ rootKeyID = .mcRootKey ∨ rootKeyID = .mcKeKey

instance (rootKeyID : KeyIdentifier) : Decidable (SkippedRoot rootKeyID) :=
  inferInstanceAs (Decidable (_ ∨ _))

/-- `SecureElementDeriveAndStoreKey`. -/
def secureElementDeriveAndStoreKey (atecc : Atecc608 κ) (input : Option (Pointer β))
    (rootKeyID targetKeyID : KeyIdentifier) : Prog (SeWorld β κ) SecureElementStatus :=
  match input with
  | none => pure .errorNpe
  | some input =>
      if targetKeyID = .mcKeKey ∧ rootKeyID ≠ .mcRootKey then
        pure .errorInvalidKeyId
      else if SkippedRoot rootKeyID then
        pure .success
      else
        match getKeyByID rootKeyID, getKeyByID targetKeyID with
        | some sourceKey, some targetKey => do
            let sourceTargetIds :=
              (targetKey.keySlotNumber <<< 8 + sourceKey.keySlotNumber) % 2 ^ 16
            if ← atcabKdf atecc sourceTargetIds sourceKey.keyBlockIndex input then
              pure .success
            else
              pure .error
        | _, _ => pure .errorInvalidKeyId

/-- `LORAMAC_JOIN_ACCEPT_FRAME_MAX_SIZE`. -/
def loramacJoinAcceptFrameMaxSize : ℕ :=
  33

/-- `LORAMAC_MHDR_FIELD_SIZE`. -/
def loramacMhdrFieldSize : ℕ :=
  1

/-- `LORAMAC_MIC_FIELD_SIZE`. -/
def loramacMicFieldSize : ℕ :=
  4

/-- The end of `SecureElementProcessJoinAccept`, from the version of the
decrypted frame on.  A MIC that would lie before the frame is undefined. -/
def checkJoinAccept (atecc : Atecc608 κ) (encJoinAcceptSize : ℕ) (decJoinAccept : Pointer β) :
    Prog (SeWorld β κ) (SecureElementStatus × Option ℕ) := do
  let byte11 ← load decJoinAccept 11
  let versionMinor := if byte11 &&& 0x80 = 0x80 then 1 else 0
  if encJoinAcceptSize < loramacMicFieldSize then
    Prog.undefined
  else
    let micAt := encJoinAcceptSize - loramacMicFieldSize
    let mic0 ← load decJoinAccept micAt
    let mic1 ← load decJoinAccept (micAt + 1)
    let mic2 ← load decJoinAccept (micAt + 2)
    let mic3 ← load decJoinAccept (micAt + 3)
    let mic := mic0.toUInt32 <<< 0 ||| mic1.toUInt32 <<< 8 ||| mic2.toUInt32 <<< 16 |||
      mic3.toUInt32 <<< 24
    if versionMinor = 0 then
      let verified ← secureElementVerifyAesCmac atecc (some decJoinAccept) micAt mic .nwkKey
      if verified ≠ .success then
        pure (.failCmac, some versionMinor)
      else
        pure (.success, some versionMinor)
    else
      pure (.errorInvalidLorawamSpecVersion, some versionMinor)

/-- `SecureElementProcessJoinAccept` without LoRaWAN 1.1 crypto, which is what
reads the join request type, the join EUI and the nonce. -/
def secureElementProcessJoinAccept [DecidableEq β] (atecc : Atecc608 κ)
    (encJoinAccept : Option (Pointer β)) (encJoinAcceptSize : ℕ)
    (decJoinAccept : Option (Pointer β)) (versionMinor : Option ℕ) :
    Prog (SeWorld β κ) (SecureElementStatus × Option ℕ) :=
  match encJoinAccept, decJoinAccept, versionMinor with
  | some encJoinAccept, some decJoinAccept, some _ =>
      if loramacJoinAcceptFrameMaxSize < encJoinAcceptSize then
        pure (.errorBufSize, versionMinor)
      else do
        let encKeyID := KeyIdentifier.nwkKey
        memcpy1 decJoinAccept encJoinAccept encJoinAcceptSize
        let encrypted ← secureElementAesEncrypt atecc
          (some (encJoinAccept.add loramacMhdrFieldSize))
          ((encJoinAcceptSize + 2 ^ 16 - loramacMhdrFieldSize) % 2 ^ 16) encKeyID
          (some (decJoinAccept.add loramacMhdrFieldSize))
        if encrypted ≠ .success then
          pure (.failEncrypt, versionMinor)
        else
          checkJoinAccept atecc encJoinAcceptSize decJoinAccept
  | _, _, _ => pure (.errorNpe, versionMinor)

end GenericNode.SecureElement
