import Mathlib.Data.Fintype.Card
import Mathlib.Tactic.Linarith

/-!
# Key identifiers and their slots

The key list maps the identifiers of the MAC to slots of the secure element.
The configuration is that of LoRaWAN 1.0 with one multicast context.
-/

namespace GenericNode.SecureElement

/-- `KeyIdentifier_t`. -/
inductive KeyIdentifier where
  | appKey
  | nwkKey
  | nwkSKey
  | appSKey
  | mcRootKey
  | mcKeKey
  | mcKey0
  | mcAppSKey0
  | mcNwkSKey0
  | slotRandZeroKey
  | noKey
deriving DecidableEq, Repr

/-- `LORAMAC_CRYPTO_MULTICAST_KEYS`. -/
def loramacCryptoMulticastKeys : ℕ :=
  127

/-- The value of an enumerator. -/
def KeyIdentifier.value : KeyIdentifier → ℕ
  | .appKey => 0
  | .nwkKey => 1
  | .nwkSKey => 2
  | .appSKey => 3
  | .mcRootKey => 4
  | .mcKeKey => loramacCryptoMulticastKeys
  | .mcKey0 => loramacCryptoMulticastKeys + 1
  | .mcAppSKey0 => loramacCryptoMulticastKeys + 2
  | .mcNwkSKey0 => loramacCryptoMulticastKeys + 3
  | .slotRandZeroKey => loramacCryptoMulticastKeys + 4
  | .noKey => loramacCryptoMulticastKeys + 5

/-- `SecureElementStatus_t`. -/
inductive SecureElementStatus where
  | success
  | failCmac
  | errorNpe
  | errorInvalidKeyId
  | errorInvalidLorawamSpecVersion
  | errorBufSize
  | error
  | failEncrypt
deriving DecidableEq, Repr

/-- `Key_t`: an identifier with its slot and its block in the slot. -/
structure KeyItem where
  keyID : KeyIdentifier
  keySlotNumber : ℕ
  keyBlockIndex : ℕ
deriving DecidableEq, Repr

/-- `NUM_OF_KEYS`. -/
def numOfKeys : ℕ :=
  15

/-- The initialisers of `ATECC608A_SE_KEY_LIST`. -/
def atecc608aSeKeyList : List KeyItem :=
  [⟨.appKey, 0, 1⟩, ⟨.nwkKey, 0, 1⟩, ⟨.nwkSKey, 3, 0⟩, ⟨.appSKey, 2, 0⟩,
    ⟨.mcRootKey, 0, 0⟩, ⟨.mcKeKey, 0, 0⟩, ⟨.mcKey0, 0, 0⟩, ⟨.mcAppSKey0, 11, 0⟩,
    ⟨.mcNwkSKey0, 12, 0⟩, ⟨.slotRandZeroKey, 0, 0⟩]

/-- `SeNvmCtx.KeyList`: the entries without an initialiser are zero. -/
def keyList : List KeyItem :=
  atecc608aSeKeyList ++
    List.replicate (numOfKeys - atecc608aSeKeyList.length) ⟨.appKey, 0, 0⟩

/-- `GetKeyByID`: the first entry with the identifier. -/
def getKeyByID (keyID : KeyIdentifier) : Option KeyItem :=
  keyList.find? fun keyItem => keyItem.keyID = keyID

/-- The slot of the provisioned root keys. -/
def tngloraAppKeySlot : ℕ :=
  0

/-- Only `NO_KEY` has no entry. -/
theorem getKeyByID_eq_none_iff {keyID : KeyIdentifier} :
    getKeyByID keyID = none ↔ keyID = .noKey := by
  cases keyID <;> decide

/-- Outside the slot of the root keys, a slot belongs to one identifier. -/
theorem keyID_eq_of_keySlotNumber_eq {first second : KeyIdentifier}
    {firstItem secondItem : KeyItem} (firstFound : getKeyByID first = some firstItem)
    (secondFound : getKeyByID second = some secondItem)
    (same : firstItem.keySlotNumber = secondItem.keySlotNumber)
    (own : firstItem.keySlotNumber ≠ tngloraAppKeySlot) : first = second := by
  cases first <;> cases firstFound <;> first
    | exact absurd rfl own
    | cases second <;> cases secondFound <;> first
      | rfl
      | exact absurd same (by decide)

/-- Outside the slot of the root keys, every key is in block 0. -/
theorem keyBlockIndex_eq_zero {keyID : KeyIdentifier} {keyItem : KeyItem}
    (found : getKeyByID keyID = some keyItem)
    (own : keyItem.keySlotNumber ≠ tngloraAppKeySlot) : keyItem.keyBlockIndex = 0 := by
  cases keyID <;> cases found <;> first
    | rfl
    | exact absurd rfl own

/-- A slot number fits in a byte. -/
theorem keySlotNumber_lt {keyID : KeyIdentifier} {keyItem : KeyItem}
    (found : getKeyByID keyID = some keyItem) : keyItem.keySlotNumber < 2 ^ 8 := by
  cases keyID <;> cases found <;> decide

end GenericNode.SecureElement
