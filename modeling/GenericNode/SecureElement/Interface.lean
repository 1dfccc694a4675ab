import GenericNode.SecureElement.Mic
import GenericNode.Library.Blocks
import GenericNode.Library.Wire

/-!
# The interface of a secure element

`secure-element.h` as the MAC uses it, over the state of any implementation.
A lawful implementation computes with the keys it holds and changes none of
them, but for the one it is told to derive.
-/

namespace GenericNode.SecureElement

open GenericNode.Library
open GenericNode.Library.Prog

/-- The calls of `secure-element.h` that the MAC makes.  An output is returned
beside the status. -/
structure SecureElementApi (σ : Type) where
  computeAesCmac : Option Block → List UInt8 → KeyIdentifier →
    Prog σ (SecureElementStatus × Option UInt32)
  verifyAesCmac : List UInt8 → UInt32 → KeyIdentifier → Prog σ SecureElementStatus
  aesEncrypt : Block → KeyIdentifier → Prog σ (SecureElementStatus × Block)
  deriveAndStoreKey : Block → KeyIdentifier → KeyIdentifier → Prog σ SecureElementStatus
  processJoinAccept : List UInt8 → Prog σ (SecureElementStatus × List UInt8 × ℕ)

/-- What an implementation computes with a key. -/
structure KeyedCipher (κ : Type) where
  aes : κ → Block → Block
  cmac : κ → List UInt8 → Block
  derive : κ → Block → κ

/-- The integrity code of a message. -/
def KeyedCipher.mic {κ : Type} (cipher : KeyedCipher κ) (key : κ) (message : List UInt8) : UInt32 :=
  macWord (cipher.cmac key message)

/-- The bytes of an optional first block. -/
def bxBytes : Option Block → List UInt8
  | some block => List.ofFn block
  | none => []

/-- The frame under the encryption of a join accept, whose first byte is not
encrypted. -/
def KeyedCipher.decryptedFrame {κ : Type} (cipher : KeyedCipher κ) (key : κ)
    (encJoinAccept : List UInt8) : List UInt8 :=
  encJoinAccept.take 1 ++ ecbBytes (cipher.aes key) (encJoinAccept.drop 1)

/-- The bytes are a join accept for LoRaWAN 1.0 with its integrity code. -/
def KeyedCipher.JoinAccept {κ : Type} (cipher : KeyedCipher κ) (key : κ)
    (encJoinAccept : List UInt8) : Prop :=
  let frame := cipher.decryptedFrame key encJoinAccept
  (encJoinAccept.length = 17 ∨ encJoinAccept.length = 33) ∧
    (frame.getD 11 0).toNat.testBit 7 = false ∧
    UInt32.ofNat (leNat (frame.drop (frame.length - 4))) =
      cipher.mic key (frame.take (frame.length - 4))

/-- The session keys that the MAC derives from a root key. -/
def SessionKey (rootKeyID targetKeyID : KeyIdentifier) : Prop :=
  (rootKeyID = .nwkKey ∧ (targetKeyID = .appSKey ∨ targetKeyID = .nwkSKey)) ∨
    (rootKeyID = .mcKey0 ∧ (targetKeyID = .mcAppSKey0 ∨ targetKeyID = .mcNwkSKey0))

/-- The keys above the multicast keys. -/
def MulticastRoot (rootKeyID targetKeyID : KeyIdentifier) : Prop :=
  (rootKeyID = .appKey ∧ targetKeyID = .mcRootKey) ∨
    (rootKeyID = .mcRootKey ∧ targetKeyID = .mcKeKey)

/-- An implementation that computes with the keys it holds. -/
structure SecureElementApi.Lawful {σ κ : Type} (api : SecureElementApi σ) (cipher : KeyedCipher κ)
    (keys : σ → KeyIdentifier → κ) : Prop where
  computeAesCmac : ∀ (state : σ) (micBx : Option Block) (buffer : List UInt8)
    (keyID : KeyIdentifier), keyID.value < loramacCryptoMulticastKeys →
    wp (api.computeAesCmac micBx buffer keyID) (fun result final =>
      result = (.success, some (cipher.mic (keys state keyID) (bxBytes micBx ++ buffer))) ∧
        keys final = keys state) state
  verifyAesCmac : ∀ (state : σ) (buffer : List UInt8) (expectedCmac : UInt32)
    (keyID : KeyIdentifier), keyID ≠ .noKey →
    wp (api.verifyAesCmac buffer expectedCmac keyID) (fun result final =>
      result = (if expectedCmac ≠ cipher.mic (keys state keyID) buffer then .failCmac
        else .success) ∧ keys final = keys state) state
  aesEncrypt : ∀ (state : σ) (block : Block) (keyID : KeyIdentifier), keyID ≠ .noKey →
    wp (api.aesEncrypt block keyID) (fun result final =>
      result = (.success, cipher.aes (keys state keyID) block) ∧ keys final = keys state) state
  deriveSessionKey : ∀ (state : σ) (input : Block) (rootKeyID targetKeyID : KeyIdentifier),
    SessionKey rootKeyID targetKeyID →
    wp (api.deriveAndStoreKey input rootKeyID targetKeyID) (fun status final =>
      status = .success ∧ keys final =
        Function.update (keys state) targetKeyID (cipher.derive (keys state rootKeyID) input)) state
  deriveMulticastRoot : ∀ (state : σ) (input : Block) (rootKeyID targetKeyID : KeyIdentifier),
    MulticastRoot rootKeyID targetKeyID →
    wp (api.deriveAndStoreKey input rootKeyID targetKeyID) (fun status final =>
      status = .success ∧ ∀ keyID ≠ targetKeyID, keys final keyID = keys state keyID) state
  processJoinAccept : ∀ (state : σ) (encJoinAccept : List UInt8), 17 ≤ encJoinAccept.length →
    wp (api.processJoinAccept encJoinAccept) (fun result final =>
      (result.1 = .success ↔ cipher.JoinAccept (keys state .nwkKey) encJoinAccept) ∧
        (result.1 = .success →
          result.2 = (cipher.decryptedFrame (keys state .nwkKey) encJoinAccept, 0)) ∧
        keys final = keys state) state

end GenericNode.SecureElement
