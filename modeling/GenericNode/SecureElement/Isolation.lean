import GenericNode.Library.Machine
import GenericNode.SecureElement.JoinAccept

/-!
# Isolation of the key slots

The secure element under any sequence of calls: which slots a call changes,
and which keys it uses.  The identifiers without support in the device are
listed in the slot of the root keys; what a derivation into one of them does
to that slot is left open.
-/

namespace GenericNode.SecureElement

open GenericNode.Library
open GenericNode.Library.Prog

variable {β κ : Type}

/-! ## What each call uses -/

/-- The keys are as before, and every use since is of the given key. -/
structure UsesOnly (key : κ) (world final : SeWorld β κ) : Prop where
  keys : final.keys = world.keys
  used : ∃ recent, final.used = recent ++ world.used ∧ ∀ used ∈ recent, used = key

namespace UsesOnly

variable {key : κ} {world middle final : SeWorld β κ}

theorem refl : UsesOnly key world world :=
  ⟨rfl, [], rfl, by simp⟩

theorem trans (first : UsesOnly key world middle) (second : UsesOnly key middle final) :
    UsesOnly key world final := by
  obtain ⟨first_keys, earlier, first_used, earlier_eq⟩ := first
  obtain ⟨second_keys, recent, second_used, recent_eq⟩ := second
  refine ⟨second_keys.trans first_keys, recent ++ earlier, ?_, ?_⟩
  · rw [second_used, first_used, List.append_assoc]
  · intro used member
    rcases List.mem_append.mp member with in_recent | in_earlier
    · exact recent_eq used in_recent
    · exact earlier_eq used in_earlier

/-- The device uses a key that its slot holds since the beginning. -/
theorem use (first : UsesOnly key world middle) {keySlot keyBlock : ℕ}
    (held : world.keys keySlot keyBlock = key) :
    UsesOnly key world (middle.use keySlot keyBlock) := by
  obtain ⟨keys, earlier, used, earlier_eq⟩ := first
  refine ⟨keys, key :: earlier, ?_, ?_⟩
  · simp only [SeWorld.use, keys, held, used, List.cons_append]
  · intro used' member
    rcases List.mem_cons.mp member with same | in_earlier
    · exact same
    · exact earlier_eq used' in_earlier

theorem issue (first : UsesOnly key world middle) : UsesOnly key world middle.issue :=
  ⟨first.keys, first.used⟩

theorem touch (first : UsesOnly key world middle) (pointer : Pointer β) (index : ℕ) :
    UsesOnly key world (middle.touch pointer index) :=
  ⟨first.keys, first.used⟩

theorem touchAll (first : UsesOnly key world middle) (pointer : Pointer β) (size : ℕ) :
    UsesOnly key world (middle.touchAll pointer size) :=
  ⟨first.keys, first.used⟩

theorem poke [DecidableEq β] (first : UsesOnly key world middle) (pointer : Pointer β)
    (index : ℕ) (byte : UInt8) : UsesOnly key world (middle.poke pointer index byte) :=
  ⟨first.keys, first.used⟩

end UsesOnly

/-- `ComputeCmac` uses the key of its identifier, whatever fails. -/
theorem computeCmac_usesOnly (atecc : Atecc608 κ) (micBxBuffer buffer : Option (Pointer β))
    (size : ℕ) {keyID : KeyIdentifier} {keyItem : KeyItem}
    (found : getKeyByID keyID = some keyItem) (cmac : Option UInt32) (world : SeWorld β κ) :
    wp (computeCmac atecc micBxBuffer buffer size keyID cmac)
      (fun _ final =>
        UsesOnly (world.keys keyItem.keySlotNumber keyItem.keyBlockIndex) world final) world := by
  cases buffer with
  | none => simpa [computeCmac] using .refl
  | some buffer =>
      cases cmac with
      | none => simpa [computeCmac] using .refl
      | some word =>
          simp only [computeCmac, found, wp_bind, wp_atcabAesCmacInit]
          have first : UsesOnly (world.keys keyItem.keySlotNumber keyItem.keyBlockIndex) world
              (world.use keyItem.keySlotNumber keyItem.keyBlockIndex).issue :=
            (UsesOnly.refl.use rfl).issue
          cases init : world.succeeds world.issued with
          | false =>
              simp only [Bool.false_eq_true, ↓reduceIte, wp_pure]
              exact first
          | true =>
              simp only [↓reduceIte]
              cases micBxBuffer with
              | none =>
                  simp only [wp_bind, wp_pure, wp_atcabAesCmacUpdate, wp_atcabAesCmacFinish]
                  exact ((first.touchAll buffer size).use rfl).issue.use rfl |>.issue
              | some micBxBuffer =>
                  simp only [wp_bind, wp_pure, wp_atcabAesCmacUpdate, wp_atcabAesCmacFinish]
                  exact ((((first.touchAll micBxBuffer 16).use rfl).issue.touchAll buffer size).use
                    rfl).issue.use rfl |>.issue

theorem secureElementComputeAesCmac_usesOnly (atecc : Atecc608 κ)
    (micBxBuffer buffer : Option (Pointer β)) (size : ℕ) {keyID : KeyIdentifier}
    {keyItem : KeyItem} (found : getKeyByID keyID = some keyItem) (cmac : Option UInt32)
    (world : SeWorld β κ) :
    wp (secureElementComputeAesCmac atecc micBxBuffer buffer size keyID cmac)
      (fun _ final =>
        UsesOnly (world.keys keyItem.keySlotNumber keyItem.keyBlockIndex) world final) world := by
  by_cases multicast : loramacCryptoMulticastKeys ≤ keyID.value
  · simpa [secureElementComputeAesCmac, multicast] using .refl
  · simp only [secureElementComputeAesCmac, multicast, ↓reduceIte]
    exact computeCmac_usesOnly atecc micBxBuffer buffer size found cmac world

theorem secureElementVerifyAesCmac_usesOnly (atecc : Atecc608 κ) (buffer : Option (Pointer β))
    (size : ℕ) (expectedCmac : UInt32) {keyID : KeyIdentifier} {keyItem : KeyItem}
    (found : getKeyByID keyID = some keyItem) (world : SeWorld β κ) :
    wp (secureElementVerifyAesCmac atecc buffer size expectedCmac keyID)
      (fun _ final =>
        UsesOnly (world.keys keyItem.keySlotNumber keyItem.keyBlockIndex) world final) world := by
  cases buffer with
  | none => simpa [secureElementVerifyAesCmac] using .refl
  | some buffer =>
      simp only [secureElementVerifyAesCmac, wp_bind]
      refine wp_mono (computeCmac_usesOnly atecc none (some buffer) size found (some 0) world)
        fun result final uses => ?_
      simp only [wp_ite, wp_pure, ite_self]
      exact uses

/-- The device encrypts a block with the key it is given. -/
theorem atcabAesEncrypt_usesOnly [DecidableEq β] (atecc : Atecc608 κ) {key : κ}
    {keySlot keyBlock : ℕ} (plaintext ciphertext : Pointer β) {world state : SeWorld β κ}
    (held : world.keys keySlot keyBlock = key) (before : UsesOnly key world state) :
    wp (atcabAesEncrypt atecc keySlot keyBlock plaintext ciphertext)
      (fun _ final => UsesOnly key world final) state := by
  have issued := ((before.touchAll plaintext 16).use held).issue
  simp only [atcabAesEncrypt, wp_bind, wp_gets, wp_loadBytes, wp_keyCommand, succeeds_touchAll,
    issued_touchAll, wp_ite, wp_pure]
  by_cases outcome : state.succeeds state.issued = true
  · simp only [outcome, ↓reduceIte]
    refine wp_forRange (fun _ _ state => UsesOnly key world state) issued ?_
      fun _ _ holds => holds
    intro index _ state _ _ uses
    simp only [wp_store]
    exact (uses.touch _ _).poke _ _ _
  · simp only [outcome, Bool.false_eq_true, ↓reduceIte]
    exact issued

theorem secureElementAesEncrypt_usesOnly [DecidableEq β] (atecc : Atecc608 κ)
    (buffer : Option (Pointer β)) (size : ℕ) {keyID : KeyIdentifier} {keyItem : KeyItem}
    (found : getKeyByID keyID = some keyItem) (encBuffer : Option (Pointer β))
    (world : SeWorld β κ) :
    wp (secureElementAesEncrypt atecc buffer size keyID encBuffer)
      (fun _ final =>
        UsesOnly (world.keys keyItem.keySlotNumber keyItem.keyBlockIndex) world final) world := by
  cases buffer with
  | none => simpa [secureElementAesEncrypt] using .refl
  | some buffer =>
      cases encBuffer with
      | none => simpa [secureElementAesEncrypt] using .refl
      | some encBuffer =>
          by_cases whole : size % 16 = 0
          · simp only [secureElementAesEncrypt, whole, ne_eq, not_true_eq_false, ↓reduceIte, found]
            refine wp_loop (fun position state => position.2 % 16 = 0 ∧
                UsesOnly (world.keys keyItem.keySlotNumber keyItem.keyBlockIndex) world state)
              (fun position _ => position.2) ?_ _ _ _ (Nat.lt_succ_self _) ⟨whole, .refl⟩
            rintro ⟨block, rest⟩ state ⟨rest_whole, uses⟩
            by_cases finished : rest = 0
            · simpa [finished] using uses
            · simp only [finished, not_false_eq_true, ↓reduceIte, wp_bind, wp_pure]
              exact wp_mono (atcabAesEncrypt_usesOnly atecc _ _ rfl uses)
                fun _ final encrypted => ⟨⟨by omega, encrypted⟩, by omega⟩
          · simpa [secureElementAesEncrypt, whole] using .refl

theorem memcpy1_usesOnly [DecidableEq β] (dst src : Pointer β) (size : ℕ) (key : κ)
    (world : SeWorld β κ) :
    wp (memcpy1 dst src size) (fun _ final => UsesOnly key world final) world := by
  refine wp_forRange (fun _ _ state => UsesOnly key world state) .refl ?_ fun _ _ holds => holds
  intro index _ state _ _ uses
  simp only [wp_bind, wp_load, wp_store]
  exact ((uses.touch _ _).touch _ _).poke _ _ _

theorem checkJoinAccept_usesOnly (atecc : Atecc608 κ) (decJoinAccept : Pointer β) {size : ℕ}
    (enough : 17 ≤ size) (world : SeWorld β κ) :
    wp (checkJoinAccept atecc size decJoinAccept)
      (fun _ final => UsesOnly world.nwkRootKey world final) world := by
  have long : ¬ size < loramacMicFieldSize := by
    simp only [loramacMicFieldSize]
    omega
  simp only [checkJoinAccept, wp_bind, wp_load, long, ↓reduceIte]
  have loaded : ∀ index0 index1 index2 index3 index4, UsesOnly world.nwkRootKey world
      (((((world.touch decJoinAccept index0).touch decJoinAccept index1).touch decJoinAccept
        index2).touch decJoinAccept index3).touch decJoinAccept index4) :=
    fun _ _ _ _ _ => ((((UsesOnly.refl.touch _ _).touch _ _).touch _ _).touch _ _).touch _ _
  by_cases version : world.byteAt decJoinAccept 11 &&& 0x80 = 0x80
  · simp only [version, ↓reduceIte, one_ne_zero, wp_pure]
    exact loaded _ _ _ _ _
  · simp only [version, ↓reduceIte, wp_bind]
    refine wp_mono (secureElementVerifyAesCmac_usesOnly atecc (some decJoinAccept) _ _
      getKeyByID_nwkKey _) fun status final uses => ?_
    simp only [wp_ite, wp_pure, ite_self]
    exact (loaded _ _ _ _ _).trans uses

theorem secureElementProcessJoinAccept_usesOnly [DecidableEq β] (atecc : Atecc608 κ)
    (encJoinAccept : Option (Pointer β)) {size : ℕ} (enough : 17 ≤ size)
    (decJoinAccept : Option (Pointer β)) (versionMinor : Option ℕ) (world : SeWorld β κ) :
    wp (secureElementProcessJoinAccept atecc encJoinAccept size decJoinAccept versionMinor)
      (fun _ final => UsesOnly world.nwkRootKey world final) world := by
  cases encJoinAccept with
  | none => simpa [secureElementProcessJoinAccept] using .refl
  | some encJoinAccept =>
      cases decJoinAccept with
      | none => simpa [secureElementProcessJoinAccept] using .refl
      | some decJoinAccept =>
          cases versionMinor with
          | none => simpa [secureElementProcessJoinAccept] using .refl
          | some versionMinor =>
              by_cases large : loramacJoinAcceptFrameMaxSize < size
              · simpa [secureElementProcessJoinAccept, large] using .refl
              · simp only [secureElementProcessJoinAccept, large, ↓reduceIte, wp_bind]
                refine wp_mono (memcpy1_usesOnly _ _ _ world.nwkRootKey world) fun _ middle copied => ?_
                have middle_key : middle.nwkRootKey = world.nwkRootKey := by
                  simp only [SeWorld.nwkRootKey, copied.keys]
                refine wp_mono (secureElementAesEncrypt_usesOnly atecc _ _ getKeyByID_nwkKey _ _)
                  fun status decrypted encrypted => ?_
                have so_far : UsesOnly world.nwkRootKey world decrypted := by
                  rw [← middle_key] at copied ⊢
                  exact copied.trans encrypted
                by_cases failed : status = .success
                · simp only [failed, ne_eq, not_true_eq_false, ↓reduceIte]
                  refine wp_mono (checkJoinAccept_usesOnly atecc decJoinAccept enough decrypted)
                    fun _ final checked => ?_
                  have key : decrypted.nwkRootKey = world.nwkRootKey := by
                    simp only [SeWorld.nwkRootKey, so_far.keys]
                  rw [key] at checked
                  exact so_far.trans checked
                · simp only [failed, ne_eq, not_false_eq_true, ↓reduceIte, wp_pure]
                  exact so_far

/-! ## Derivation -/

/-- The key that a derivation computes. -/
def SeWorld.derivedKey (world : SeWorld β κ) (atecc : Atecc608 κ) (sourceKey : KeyItem)
    (input : Pointer β) : κ :=
  atecc.kdf (world.keys sourceKey.keySlotNumber sourceKey.keyBlockIndex)
    fun index => world.byteAt input index

/-- What `SecureElementDeriveAndStoreKey` does: it derives into the slot of
the target, or leaves the device as it is. -/
inductive DeriveResult (atecc : Atecc608 κ) (input : Option (Pointer β))
    (rootKeyID targetKeyID : KeyIdentifier) (world : SeWorld β κ) :
    SecureElementStatus → SeWorld β κ → Prop
  | kept {status : SecureElementStatus} {final : SeWorld β κ} (keys : final.keys = world.keys)
      (used : final.used = world.used) (quiet : status = .success → SkippedRoot rootKeyID)
      (unlisted : input ≠ none → ¬ SkippedRoot rootKeyID →
        getKeyByID rootKeyID = none ∨ getKeyByID targetKeyID = none →
          status = .errorInvalidKeyId) :
      DeriveResult atecc input rootKeyID targetKeyID world status final
  | derived {final : SeWorld β κ} (pointer : Pointer β) (sourceKey targetKey : KeyItem)
      (given : input = some pointer) (live : ¬ SkippedRoot rootKeyID)
      (source : getKeyByID rootKeyID = some sourceKey)
      (target : getKeyByID targetKeyID = some targetKey)
      (keys : final.keys = fun slot =>
        if slot = targetKey.keySlotNumber then
          atecc.store (world.derivedKey atecc sourceKey pointer) (world.keys slot)
        else world.keys slot)
      (used : final.used = world.used) :
      DeriveResult atecc input rootKeyID targetKeyID world .success final

theorem secureElementDeriveAndStoreKey_result (atecc : Atecc608 κ) (input : Option (Pointer β))
    (rootKeyID targetKeyID : KeyIdentifier) (world : SeWorld β κ) :
    wp (secureElementDeriveAndStoreKey atecc input rootKeyID targetKeyID)
      (DeriveResult atecc input rootKeyID targetKeyID world) world := by
  cases input with
  | none =>
      simp only [secureElementDeriveAndStoreKey, wp_pure]
      exact .kept rfl rfl (by simp) (by simp)
  | some input =>
      by_cases wrongRoot : targetKeyID = .mcKeKey ∧ rootKeyID ≠ .mcRootKey
      · simp only [secureElementDeriveAndStoreKey, wrongRoot, ne_eq, not_false_eq_true, and_self,
          ↓reduceIte, wp_pure]
        exact .kept rfl rfl (by simp) (by simp)
      by_cases skipped : SkippedRoot rootKeyID
      · simp only [secureElementDeriveAndStoreKey, wrongRoot, ↓reduceIte, skipped, wp_pure]
        exact .kept rfl rfl (fun _ => skipped) (fun _ live => absurd skipped live)
      simp only [secureElementDeriveAndStoreKey, wrongRoot, ↓reduceIte, skipped]
      cases source : getKeyByID rootKeyID with
      | none =>
          simp only [wp_pure]
          exact .kept rfl rfl (by simp) (by simp)
      | some sourceKey =>
          cases target : getKeyByID targetKeyID with
          | none =>
              simp only [wp_pure]
              exact .kept rfl rfl (by simp) (by simp)
          | some targetKey =>
              have source_lt := keySlotNumber_lt source
              have target_lt := keySlotNumber_lt target
              have joined : (targetKey.keySlotNumber <<< 8 + sourceKey.keySlotNumber) % 2 ^ 16 =
                  targetKey.keySlotNumber * 2 ^ 8 + sourceKey.keySlotNumber := by
                rw [Nat.shiftLeft_eq]
                omega
              have low : (targetKey.keySlotNumber * 2 ^ 8 + sourceKey.keySlotNumber) % 2 ^ 8 =
                  sourceKey.keySlotNumber := by
                omega
              have high : (targetKey.keySlotNumber * 2 ^ 8 + sourceKey.keySlotNumber) / 2 ^ 8 =
                  targetKey.keySlotNumber := by
                omega
              simp only [joined, atcabKdf, low, high, wp_bind, wp_gets, wp_loadBytes, wp_command,
                succeeds_touchAll, issued_touchAll]
              by_cases outcome : world.succeeds world.issued = true
              · simp only [outcome, ↓reduceIte, wp_bind, wp_modify, wp_pure]
                refine .derived input sourceKey targetKey rfl skipped source target ?_ rfl
                funext slot
                by_cases slot_eq : slot = targetKey.keySlotNumber
                · simp [slot_eq, SeWorld.derivedKey]
                · simp [slot_eq]
              · simp only [outcome, Bool.false_eq_true, ↓reduceIte, wp_pure]
                exact .kept rfl rfl (by simp) (by simp [source, target])

/-! ## Sequences of calls -/

/-- A call of the interface with its arguments. -/
inductive SeCall (β : Type) where
  | setKey (keyID : KeyIdentifier) (key : Option (Pointer β))
  | computeAesCmac (micBxBuffer buffer : Option (Pointer β)) (size : ℕ)
      (keyID : KeyIdentifier) (cmac : Option UInt32)
  | verifyAesCmac (buffer : Option (Pointer β)) (size : ℕ) (expectedCmac : UInt32)
      (keyID : KeyIdentifier)
  | aesEncrypt (buffer : Option (Pointer β)) (size : ℕ) (keyID : KeyIdentifier)
      (encBuffer : Option (Pointer β))
  | deriveAndStoreKey (input : Option (Pointer β)) (rootKeyID targetKeyID : KeyIdentifier)
  | processJoinAccept (encJoinAccept : Option (Pointer β)) (encJoinAcceptSize : ℕ)
      (decJoinAccept : Option (Pointer β)) (versionMinor : Option ℕ)

namespace SeCall

/-- Run a call, for its status. -/
def run [DecidableEq β] (atecc : Atecc608 κ) : SeCall β → Prog (SeWorld β κ) SecureElementStatus
  | .setKey keyID key => secureElementSetKey keyID key
  | .computeAesCmac micBxBuffer buffer size keyID cmac => do
      let (status, _) ← secureElementComputeAesCmac atecc micBxBuffer buffer size keyID cmac
      pure status
  | .verifyAesCmac buffer size expectedCmac keyID =>
      secureElementVerifyAesCmac atecc buffer size expectedCmac keyID
  | .aesEncrypt buffer size keyID encBuffer =>
      secureElementAesEncrypt atecc buffer size keyID encBuffer
  | .deriveAndStoreKey input rootKeyID targetKeyID =>
      secureElementDeriveAndStoreKey atecc input rootKeyID targetKeyID
  | .processJoinAccept encJoinAccept size decJoinAccept versionMinor => do
      let (status, _) ←
        secureElementProcessJoinAccept atecc encJoinAccept size decJoinAccept versionMinor
      pure status

/-- The identifier a CMAC or an encryption is asked for. -/
def keyID : SeCall β → Option KeyIdentifier
  | .computeAesCmac _ _ _ keyID _ => some keyID
  | .verifyAesCmac _ _ _ keyID => some keyID
  | .aesEncrypt _ _ keyID _ => some keyID
  | .processJoinAccept .. => some .nwkKey
  | .setKey .. => none
  | .deriveAndStoreKey .. => none

/-- The derivation a call asks for: its root and its target. -/
def derivation : SeCall β → Option (KeyIdentifier × KeyIdentifier)
  | .deriveAndStoreKey _ rootKeyID targetKeyID => some (rootKeyID, targetKeyID)
  | _ => none

/-- The call derives into an identifier that is listed in the slot of the root
keys. -/
def DerivesIntoRootSlot (call : SeCall β) : Prop :=
  ∃ rootKeyID targetKeyID targetKey, call.derivation = some (rootKeyID, targetKeyID) ∧
    ¬ SkippedRoot rootKeyID ∧ getKeyByID targetKeyID = some targetKey ∧
    targetKey.keySlotNumber = tngloraAppKeySlot

/-- The pointers are given and the size is in whole blocks, and an identifier
of the call has no entry.  A derivation from a skipped root needs no entry. -/
def AsksUnlisted : SeCall β → Prop
  | .computeAesCmac _ buffer _ keyID cmac =>
      buffer ≠ none ∧ cmac ≠ none ∧ getKeyByID keyID = none
  | .verifyAesCmac buffer _ _ keyID => buffer ≠ none ∧ getKeyByID keyID = none
  | .aesEncrypt buffer size keyID encBuffer =>
      buffer ≠ none ∧ encBuffer ≠ none ∧ size % 16 = 0 ∧ getKeyByID keyID = none
  | .deriveAndStoreKey input rootKeyID targetKeyID =>
      input ≠ none ∧ ¬ SkippedRoot rootKeyID ∧
        (getKeyByID rootKeyID = none ∨ getKeyByID targetKeyID = none)
  | .setKey .. => False
  | .processJoinAccept .. => False

end SeCall

/-- The device and its host, the key derived last for each identifier, and the
answer to the last call. -/
structure SeState (β κ : Type) where
  world : SeWorld β κ
  derived : KeyIdentifier → Option κ
  answer : Option SecureElementStatus

/-- The keys derived last, after a call. -/
def recordDerivation (atecc : Atecc608 κ) (world : SeWorld β κ) (status : SecureElementStatus)
    (derived : KeyIdentifier → Option κ) : SeCall β → KeyIdentifier → Option κ
  | .deriveAndStoreKey (some input) rootKeyID targetKeyID =>
      match getKeyByID rootKeyID with
      | some sourceKey =>
          if status = .success ∧ ¬ SkippedRoot rootKeyID then fun keyID =>
            if keyID = targetKeyID then some (world.derivedKey atecc sourceKey input)
            else derived keyID
          else derived
      | none => derived
  | _ => derived

/-- The secure element under the calls of the MAC, which hands over no join
accept shorter than 17 bytes. -/
def seMachine [DecidableEq β] (atecc : Atecc608 κ) : Machine (SeState β κ) (SeCall β) where
  enabled _ call :=
    match call with
    | .processJoinAccept _ size _ _ => 17 ≤ size
    | _ => True
  step call := do
    let before ← gets SeState.world
    let status ← zoom SeState.world (fun world state => { state with world }) (call.run atecc)
    modify fun state =>
      { state with
        derived := recordDerivation atecc before status state.derived call
        answer := some status }

/-! ## The law of the calls -/

/-- What a call that uses a key does to the device. -/
structure Keyed (keyID : KeyIdentifier) (asksUnlisted : Prop) (world : SeWorld β κ)
    (status : SecureElementStatus) (final : SeWorld β κ) : Prop where
  keys : final.keys = world.keys
  uses : ∀ keyItem, getKeyByID keyID = some keyItem →
    UsesOnly (world.keys keyItem.keySlotNumber keyItem.keyBlockIndex) world final
  unlisted : asksUnlisted → status = .errorInvalidKeyId

/-- A call under a listed identifier is keyed when it uses only its key. -/
theorem Keyed.of_usesOnly {keyID : KeyIdentifier} {keyItem : KeyItem} {asksUnlisted : Prop}
    {world final : SeWorld β κ} {status : SecureElementStatus}
    (found : getKeyByID keyID = some keyItem) (listed : ¬ asksUnlisted)
    (uses : UsesOnly (world.keys keyItem.keySlotNumber keyItem.keyBlockIndex) world final) :
    Keyed keyID asksUnlisted world status final where
  keys := uses.keys
  uses other other_found := by
    rw [found] at other_found
    cases other_found
    exact uses
  unlisted asks := absurd asks listed

/-- A call that leaves the device alone is keyed when its answer is right. -/
theorem Keyed.of_missing {keyID : KeyIdentifier} {asksUnlisted : Prop} {world : SeWorld β κ}
    {status : SecureElementStatus} (missing : getKeyByID keyID = none)
    (unlisted : asksUnlisted → status = .errorInvalidKeyId) :
    Keyed keyID asksUnlisted world status world where
  keys := rfl
  uses keyItem found := by simp [missing] at found
  unlisted := unlisted

theorem secureElementComputeAesCmac_keyed [DecidableEq β] (atecc : Atecc608 κ)
    (micBxBuffer buffer : Option (Pointer β)) (size : ℕ) (keyID : KeyIdentifier)
    (cmac : Option UInt32) (world : SeWorld β κ) :
    wp ((SeCall.computeAesCmac micBxBuffer buffer size keyID cmac).run atecc)
      (Keyed keyID (SeCall.computeAesCmac micBxBuffer buffer size keyID cmac).AsksUnlisted world)
      world := by
  simp only [SeCall.run, wp_bind, wp_pure]
  cases found : getKeyByID keyID with
  | some keyItem =>
      refine wp_mono (secureElementComputeAesCmac_usesOnly atecc micBxBuffer buffer size found
        cmac world) fun _ _ uses => .of_usesOnly found ?_ uses
      simp [SeCall.AsksUnlisted, found]
  | none =>
      have multicast : loramacCryptoMulticastKeys ≤ keyID.value := by
        rw [getKeyByID_eq_none_iff.mp found]
        decide
      simp only [secureElementComputeAesCmac, multicast, ↓reduceIte, wp_pure]
      exact .of_missing found fun _ => rfl

theorem secureElementVerifyAesCmac_keyed [DecidableEq β] (atecc : Atecc608 κ)
    (buffer : Option (Pointer β)) (size : ℕ) (expectedCmac : UInt32) (keyID : KeyIdentifier)
    (world : SeWorld β κ) :
    wp ((SeCall.verifyAesCmac buffer size expectedCmac keyID).run atecc)
      (Keyed keyID (SeCall.verifyAesCmac buffer size expectedCmac keyID).AsksUnlisted world)
      world := by
  simp only [SeCall.run]
  cases found : getKeyByID keyID with
  | some keyItem =>
      refine wp_mono (secureElementVerifyAesCmac_usesOnly atecc buffer size expectedCmac found
        world) fun _ _ uses => .of_usesOnly found ?_ uses
      simp [SeCall.AsksUnlisted, found]
  | none =>
      cases buffer with
      | none =>
          simp only [secureElementVerifyAesCmac, wp_pure]
          exact .of_missing found (by simp [SeCall.AsksUnlisted])
      | some buffer =>
          simp only [secureElementVerifyAesCmac, computeCmac, found, wp_bind, wp_pure,
            ne_eq, reduceCtorEq, not_false_eq_true, ↓reduceIte]
          exact .of_missing found fun _ => rfl

theorem secureElementAesEncrypt_keyed [DecidableEq β] (atecc : Atecc608 κ)
    (buffer : Option (Pointer β)) (size : ℕ) (keyID : KeyIdentifier)
    (encBuffer : Option (Pointer β)) (world : SeWorld β κ) :
    wp ((SeCall.aesEncrypt buffer size keyID encBuffer).run atecc)
      (Keyed keyID (SeCall.aesEncrypt buffer size keyID encBuffer).AsksUnlisted world) world := by
  simp only [SeCall.run]
  cases found : getKeyByID keyID with
  | some keyItem =>
      refine wp_mono (secureElementAesEncrypt_usesOnly atecc buffer size found encBuffer world)
        fun _ _ uses => .of_usesOnly found ?_ uses
      simp [SeCall.AsksUnlisted, found]
  | none =>
      cases buffer with
      | none =>
          simp only [secureElementAesEncrypt, wp_pure]
          exact .of_missing found (by simp [SeCall.AsksUnlisted])
      | some buffer =>
          cases encBuffer with
          | none =>
              simp only [secureElementAesEncrypt, wp_pure]
              exact .of_missing found (by simp [SeCall.AsksUnlisted])
          | some encBuffer =>
              by_cases whole : size % 16 = 0
              · simp only [secureElementAesEncrypt, whole, ne_eq, not_true_eq_false, ↓reduceIte,
                  found, wp_pure]
                exact .of_missing found fun _ => rfl
              · simp only [secureElementAesEncrypt, whole, ne_eq, not_false_eq_true, ↓reduceIte,
                  wp_pure]
                exact .of_missing found (by simp [SeCall.AsksUnlisted, whole])

theorem secureElementProcessJoinAccept_keyed [DecidableEq β] (atecc : Atecc608 κ)
    (encJoinAccept : Option (Pointer β)) {size : ℕ} (enough : 17 ≤ size)
    (decJoinAccept : Option (Pointer β)) (versionMinor : Option ℕ) (world : SeWorld β κ) :
    wp ((SeCall.processJoinAccept encJoinAccept size decJoinAccept versionMinor).run atecc)
      (Keyed .nwkKey
        (SeCall.processJoinAccept encJoinAccept size decJoinAccept versionMinor).AsksUnlisted
        world) world := by
  simp only [SeCall.run, wp_bind, wp_pure]
  exact wp_mono (secureElementProcessJoinAccept_usesOnly atecc encJoinAccept enough decJoinAccept
    versionMinor world) fun _ _ uses =>
      .of_usesOnly getKeyByID_nwkKey (by simp [SeCall.AsksUnlisted]) uses

/-- The keys of the identifiers outside the slot of the root keys are those
derived last. -/
def KeysDerived (state : SeState β κ) : Prop :=
  ∀ keyID keyItem key, getKeyByID keyID = some keyItem →
    keyItem.keySlotNumber ≠ tngloraAppKeySlot → state.derived keyID = some key →
      state.world.keys keyItem.keySlotNumber keyItem.keyBlockIndex = key

/-- The law of one call. -/
structure CallIsolated (call : SeCall β) (state next : SeState β κ) : Prop where
  roots : ¬ call.DerivesIntoRootSlot →
    next.world.keys tngloraAppKeySlot = state.world.keys tngloraAppKeySlot
  kept : call.derivation = none → next.world.keys = state.world.keys
  target : ∀ rootKeyID targetKeyID targetKey,
    call.derivation = some (rootKeyID, targetKeyID) → next.answer = some .success →
      ¬ SkippedRoot rootKeyID → getKeyByID targetKeyID = some targetKey →
        ∀ slot, slot ≠ targetKey.keySlotNumber → next.world.keys slot = state.world.keys slot
  uses : ∀ keyID keyItem key, call.keyID = some keyID → getKeyByID keyID = some keyItem →
    keyItem.keySlotNumber ≠ tngloraAppKeySlot → state.derived keyID = some key →
      ∃ recent, next.world.used = recent ++ state.world.used ∧ ∀ used ∈ recent, used = key
  unlisted : call.AsksUnlisted → next.answer = some .errorInvalidKeyId
  setKey : ∀ keyID key, call = .setKey keyID key → next.answer = some .success

/-- What the machine does with the outcome of a call. -/
theorem wp_seMachine_step [DecidableEq β] (atecc : Atecc608 κ) (call : SeCall β)
    (state : SeState β κ) {post : SecureElementStatus → SeWorld β κ → Prop}
    {holds : SeState β κ → Prop} (ran : wp (call.run atecc) post state.world)
    (implies : ∀ status final, post status final →
      holds
        { world := final
          derived := recordDerivation atecc state.world status state.derived call
          answer := some status }) :
    wp ((seMachine atecc).step call) (fun _ next => holds next) state := by
  simp only [seMachine, wp_bind, wp_gets, wp_zoom, wp_modify]
  exact wp_mono ran implies

/-- A call that uses a key, or none, changes no key. -/
theorem keyed_isolated (atecc : Atecc608 κ) {call : SeCall β} {state : SeState β κ}
    {status : SecureElementStatus} {final : SeWorld β κ} {keyID : KeyIdentifier}
    (noDerivation : call.derivation = none) (notSet : ∀ keyID key, call ≠ .setKey keyID key)
    (asked : call.keyID = some keyID) (derived : KeysDerived state)
    (keyed : Keyed keyID call.AsksUnlisted state.world status final) :
    let next : SeState β κ :=
      { world := final
        derived := recordDerivation atecc state.world status state.derived call
        answer := some status }
    KeysDerived next ∧ CallIsolated call state next := by
  have unrecorded :
      recordDerivation atecc state.world status state.derived call = state.derived := by
    cases call <;> first
      | rfl
      | simp [SeCall.derivation] at noDerivation
  refine ⟨?_, ?_⟩
  · intro other keyItem key found own is_derived
    simp only [unrecorded] at is_derived
    simp only [keyed.keys]
    exact derived other keyItem key found own is_derived
  · constructor
    · intro _
      simp only [keyed.keys]
    · intro _
      exact keyed.keys
    · intro rootKeyID targetKeyID _ derives
      simp [noDerivation] at derives
    · intro other keyItem key other_asked found own is_derived
      rw [asked] at other_asked
      cases other_asked
      have uses := (keyed.uses keyItem found).used
      rwa [derived keyID keyItem key found own is_derived] at uses
    · intro asks
      simp only [keyed.unlisted asks]
    · intro other key is_set
      exact absurd is_set (notSet other key)

/-- A derivation changes its target only. -/
theorem derive_isolated (atecc : Atecc608 κ) {input : Option (Pointer β)}
    {rootKeyID targetKeyID : KeyIdentifier} {state : SeState β κ} {status : SecureElementStatus}
    {final : SeWorld β κ} (derived : KeysDerived state)
    (result : DeriveResult atecc input rootKeyID targetKeyID state.world status final) :
    let call : SeCall β := .deriveAndStoreKey input rootKeyID targetKeyID
    let next : SeState β κ :=
      { world := final
        derived := recordDerivation atecc state.world status state.derived call
        answer := some status }
    KeysDerived next ∧ CallIsolated call state next := by
  cases result with
  | kept keys used quiet unlisted =>
      have unrecorded : recordDerivation atecc state.world status state.derived
          (.deriveAndStoreKey input rootKeyID targetKeyID) = state.derived := by
        have silent : ¬ (status = .success ∧ ¬ SkippedRoot rootKeyID) :=
          fun both => both.2 (quiet both.1)
        cases input with
        | none => rfl
        | some input =>
            simp only [recordDerivation, silent, ↓reduceIte]
            cases getKeyByID rootKeyID <;> rfl
      refine ⟨?_, ?_⟩
      · intro other keyItem key found own is_derived
        simp only [unrecorded] at is_derived
        simp only [keys]
        exact derived other keyItem key found own is_derived
      · constructor
        · intro _
          simp only [keys]
        · intro _
          exact keys
        · intro _ _ _ _ _ _ _ slot _
          simp only [keys]
        · intro _ _ _ asked
          simp [SeCall.keyID] at asked
        · rintro ⟨given, live, missing⟩
          simp only [unlisted given live missing]
        · intro _ _ is_set
          cases is_set
  | derived pointer sourceKey targetKey given live source target keys used =>
      subst given
      have recorded : recordDerivation atecc state.world .success state.derived
          (.deriveAndStoreKey (some pointer) rootKeyID targetKeyID) = fun keyID =>
            if keyID = targetKeyID then some (state.world.derivedKey atecc sourceKey pointer)
            else state.derived keyID := by
        simp [recordDerivation, source, live]
      refine ⟨?_, ?_⟩
      · intro other keyItem key found own is_derived
        simp only [recorded] at is_derived
        simp only [keys]
        by_cases same : other = targetKeyID
        · subst same
          rw [target] at found
          cases found
          simp only [↓reduceIte, Option.some.injEq] at is_derived
          simp only [↓reduceIte, keyBlockIndex_eq_zero target own, atecc.store_zero, is_derived]
        · have apart : keyItem.keySlotNumber ≠ targetKey.keySlotNumber :=
            fun equal => same (keyID_eq_of_keySlotNumber_eq found target equal own)
          simp only [same, ↓reduceIte] at is_derived
          simp only [apart, ↓reduceIte]
          exact derived other keyItem key found own is_derived
      · constructor
        · intro outside
          have apart : tngloraAppKeySlot ≠ targetKey.keySlotNumber := by
            intro equal
            exact outside ⟨rootKeyID, targetKeyID, targetKey, rfl, live, target, equal.symm⟩
          simp only [keys, apart, ↓reduceIte]
        · intro none_derived
          simp [SeCall.derivation] at none_derived
        · intro _ _ otherKey derives _ _ found slot slot_ne
          simp only [SeCall.derivation, Option.some.injEq, Prod.mk.injEq] at derives
          obtain ⟨-, rfl⟩ := derives
          rw [target] at found
          cases found
          simp only [keys, slot_ne, ↓reduceIte]
        · intro _ _ _ asked
          simp [SeCall.keyID] at asked
        · rintro ⟨-, -, missing⟩
          simp [source, target] at missing
        · intro _ _ is_set
          cases is_set

theorem seMachine_step_isolated [DecidableEq β] (atecc : Atecc608 κ) (call : SeCall β)
    {state : SeState β κ} (derived : KeysDerived state)
    (enabled : (seMachine atecc).enabled state call) :
    wp ((seMachine atecc).step call)
      (fun _ next => KeysDerived next ∧ CallIsolated call state next) state := by
  cases call with
  | setKey keyID key =>
      have ran : wp ((SeCall.setKey keyID key).run atecc)
          (fun status final => status = .success ∧ final = state.world) state.world := by
        simp [SeCall.run, secureElementSetKey]
      refine wp_seMachine_step atecc _ state ran ?_
      rintro status final ⟨rfl, rfl⟩
      refine ⟨derived, ?_⟩
      constructor <;> simp [SeCall.AsksUnlisted, SeCall.derivation, SeCall.keyID]
  | computeAesCmac micBxBuffer buffer size keyID cmac =>
      exact wp_seMachine_step atecc _ state
        (secureElementComputeAesCmac_keyed atecc micBxBuffer buffer size keyID cmac state.world)
        fun _ _ keyed => keyed_isolated atecc rfl (by simp) rfl derived keyed
  | verifyAesCmac buffer size expectedCmac keyID =>
      exact wp_seMachine_step atecc _ state
        (secureElementVerifyAesCmac_keyed atecc buffer size expectedCmac keyID state.world)
        fun _ _ keyed => keyed_isolated atecc rfl (by simp) rfl derived keyed
  | aesEncrypt buffer size keyID encBuffer =>
      exact wp_seMachine_step atecc _ state
        (secureElementAesEncrypt_keyed atecc buffer size keyID encBuffer state.world)
        fun _ _ keyed => keyed_isolated atecc rfl (by simp) rfl derived keyed
  | deriveAndStoreKey input rootKeyID targetKeyID =>
      exact wp_seMachine_step atecc _ state
        (secureElementDeriveAndStoreKey_result atecc input rootKeyID targetKeyID state.world)
        fun _ _ result => derive_isolated atecc derived result
  | processJoinAccept encJoinAccept size decJoinAccept versionMinor =>
      exact wp_seMachine_step atecc _ state
        (secureElementProcessJoinAccept_keyed atecc encJoinAccept enabled decJoinAccept
          versionMinor state.world)
        fun _ _ keyed => keyed_isolated atecc rfl (by simp) rfl derived keyed

/-- Before any call. -/
def seBoot (world : SeWorld β κ) : SeState β κ where
  world := world
  derived _ := none
  answer := none

theorem keysDerived_boot (world : SeWorld β κ) : KeysDerived (seBoot world) := by
  intro _ _ _ _ _ is_derived
  simp [seBoot] at is_derived

/-- In every run of the interface, every call keeps to its law. -/
theorem keySlots_isolated [DecidableEq β] (atecc : Atecc608 κ) (world : SeWorld β κ)
    {state : SeState β κ}
    (reached : (seMachine atecc).Reaches (fun _ _ => True) (seBoot world) state)
    (call : SeCall β) (enabled : (seMachine atecc).enabled state call) :
    wp ((seMachine atecc).step call) (fun _ next => CallIsolated call state next) state := by
  have derived : KeysDerived state :=
    reached.invariant (keysDerived_boot world) fun before event inv allowed _ =>
      wp_mono (seMachine_step_isolated atecc event inv allowed) fun _ _ both => both.1
  exact wp_mono (seMachine_step_isolated atecc call derived enabled) fun _ _ both => both.2

/-- A device whose keys are bits, and whose derivation flips them. -/
def flipAtecc : Atecc608 Bool where
  cmac key _ _ := if key then 1 else 0
  aes _ block := block
  kdf key _ := !key
  store key _ _ := key
  store_zero _ _ := rfl

/-- A world in which every key is clear and every command succeeds. -/
def flipWorld : SeWorld Unit Bool where
  keys _ _ := false
  used := []
  memory _ _ := 0
  touched := []
  succeeds _ := true
  issued := 0

/-- A session key is derived; a code under it is then asked for. -/
theorem keySlots_isolated_session :
    ∃ state, (seMachine flipAtecc).Reaches (fun _ _ => True) (seBoot flipWorld) state ∧
      state.derived .nwkSKey = some true ∧
      wp ((seMachine flipAtecc).step (.computeAesCmac none (some ⟨(), 0⟩) 16 .nwkSKey (some 0)))
        (fun _ next => CallIsolated
          (.computeAesCmac none (some ⟨(), 0⟩) 16 .nwkSKey (some 0)) state next) state := by
  have reached : (seMachine flipAtecc).Reaches (fun _ _ => True) (seBoot flipWorld) _ :=
    .step (.deriveAndStoreKey (some ⟨(), 0⟩) .nwkKey .nwkSKey) .start trivial trivial rfl
  exact ⟨_, reached, rfl, keySlots_isolated flipAtecc flipWorld reached _ trivial⟩

/-- A derivation into `MC_KEY_0` overwrites the slot of the root keys, and
`SecureElementSetKey` accepts an identifier without an entry. -/
theorem rootSlot_overwritten :
    ∃ final,
      ((SeCall.deriveAndStoreKey (some ⟨(), 0⟩) .nwkKey .mcKey0).run flipAtecc).run flipWorld =
          (some .success, final) ∧
        final.keys tngloraAppKeySlot ≠ flipWorld.keys tngloraAppKeySlot ∧
        getKeyByID .noKey = none ∧
        ((SeCall.setKey .noKey none).run flipAtecc).run flipWorld = (some .success, flipWorld) := by
  refine ⟨_, rfl, ?_, rfl, rfl⟩
  intro equal
  have block := congrFun equal 0
  revert block
  decide

end GenericNode.SecureElement
