import GenericNode.SecureElement.Buffers

/-!
# Message integrity codes

`ComputeCmac` checks the status of `atcab_aes_cmac_init` and of no later
command.  This module says what the CMAC calls return under every pattern of
failures, and when their success can be trusted.
-/

namespace GenericNode.SecureElement

open GenericNode.Library
open GenericNode.Library.Prog

variable {β κ : Type}

/-- `Bx || buffer`. -/
def SeWorld.macMessage (world : SeWorld β κ) (micBxBuffer : Option (Pointer β))
    (buffer : Pointer β) (size : ℕ) : List UInt8 :=
  (match micBxBuffer with
    | some micBxBuffer => world.bytesAt micBxBuffer 16
    | none => []) ++ world.bytesAt buffer size

/-- The little-endian value of the first four bytes of a block. -/
def macWord (block : Block) : UInt32 :=
  packLe (byteOf block 0) (byteOf block 1) (byteOf block 2) (byteOf block 3)

/-- The integrity code of a message under the key of an entry. -/
def SeWorld.mac (world : SeWorld β κ) (atecc : Atecc608 κ) (keyItem : KeyItem)
    (message : List UInt8) : UInt32 :=
  macWord (atecc.cmac (world.keys keyItem.keySlotNumber keyItem.keyBlockIndex) message)

/-- The order in which `ComputeCmac` joins the bytes does not matter. -/
theorem macWord_eq (block : Block) :
    (byteOf block 3).toUInt32 <<< 24 ||| (byteOf block 2).toUInt32 <<< 16 |||
      (byteOf block 1).toUInt32 <<< 8 ||| (byteOf block 0).toUInt32 = macWord block := by
  have swap : ∀ word0 word1 word2 word3 : UInt32,
      word3 ||| word2 ||| word1 ||| word0 = word0 ||| word1 ||| word2 ||| word3 := by
    intro word0 word1 word2 word3
    ac_rfl
  exact swap _ _ _ _

/-- The commands after `atcab_aes_cmac_init`. -/
def commandsAfterInit (micBxBuffer : Option (Pointer β)) : ℕ :=
  match micBxBuffer with
  | some _ => 3
  | none => 2

/-- What `ComputeCmac` returns once its arguments and the key are found. -/
structure CmacResult (atecc : Atecc608 κ) (world : SeWorld β κ) (keyItem : KeyItem)
    (micBxBuffer : Option (Pointer β)) (buffer : Pointer β) (size : ℕ) (cmac : Option UInt32)
    (result : SecureElementStatus × Option UInt32) (final : SeWorld β κ) : Prop where
  same : SameBuffers world final
  touched : TouchedOnly (fun access =>
    (∃ bx, micBxBuffer = some bx ∧ InRegion bx 16 access) ∨ InRegion buffer size access)
    world final
  failed : world.succeeds world.issued = false →
    result = (.error, cmac) ∧ final.issued = world.issued + 1
  passed : world.succeeds world.issued = true →
    result.1 = .success ∧ final.issued = world.issued + 1 + commandsAfterInit micBxBuffer ∧
      ∃ word, result.2 = some word ∧
        (world.EveryCommandSucceeded final →
          word = world.mac atecc keyItem (world.macMessage micBxBuffer buffer size))

theorem computeCmac_result (atecc : Atecc608 κ) (world : SeWorld β κ) {keyItem : KeyItem}
    (micBxBuffer : Option (Pointer β)) (buffer : Pointer β) (size : ℕ) {keyID : KeyIdentifier}
    (found : getKeyByID keyID = some keyItem) (word : UInt32) :
    wp (computeCmac atecc micBxBuffer (some buffer) size keyID (some word))
      (CmacResult atecc world keyItem micBxBuffer buffer size (some word)) world := by
  cases init : world.succeeds world.issued with
  | false =>
      simp only [computeCmac, found, wp_bind, wp_atcabAesCmacInit, init, Bool.false_eq_true,
        ↓reduceIte, wp_pure]
      exact ⟨⟨⟨rfl, rfl⟩, rfl⟩, .refl, fun _ => ⟨rfl, rfl⟩,
        fun passed => by simp [init] at passed⟩
  | true =>
      simp only [computeCmac, found, wp_bind, wp_atcabAesCmacInit, init, ↓reduceIte]
      have not_failed : world.succeeds world.issued = false →
          ∀ result : SecureElementStatus × Option UInt32, ∀ final : SeWorld β κ,
            result = (.error, some word) ∧ final.issued = world.issued + 1 := by
        simp [init]
      cases micBxBuffer with
      | none =>
          simp only [wp_bind, wp_pure, wp_atcabAesCmacUpdate, wp_atcabAesCmacFinish, macWord_eq]
          refine ⟨⟨⟨rfl, rfl⟩, rfl⟩, TouchedOnly.refl.touchAll fun access inside => .inr inside,
            fun failed => not_failed failed _ _, fun _ => ⟨rfl, rfl, _, rfl, fun every => ?_⟩⟩
          have update : world.succeeds (world.issued + 1) = true :=
            every _ (by omega) (by simp)
          have finish : world.succeeds (world.issued + 1 + 1) = true :=
            every _ (by omega) (by simp)
          simp [update, finish, SeWorld.mac, SeWorld.macMessage]
      | some micBxBuffer =>
          simp only [wp_bind, wp_pure, wp_atcabAesCmacUpdate, wp_atcabAesCmacFinish, macWord_eq]
          refine ⟨⟨⟨rfl, rfl⟩, rfl⟩,
            (TouchedOnly.refl.touchAll fun access inside => .inl ⟨micBxBuffer, rfl, inside⟩).touchAll
              fun access inside => .inr inside,
            fun failed => not_failed failed _ _, fun _ => ⟨rfl, rfl, _, rfl, fun every => ?_⟩⟩
          have updateBx : world.succeeds (world.issued + 1) = true :=
            every _ (by omega) (by simp)
          have update : world.succeeds (world.issued + 1 + 1) = true :=
            every _ (by omega) (by simp)
          have finish : world.succeeds (world.issued + 1 + 1 + 1) = true :=
            every _ (by omega) (by simp)
          simp [updateBx, update, finish, SeWorld.mac, SeWorld.macMessage]

/-! ## When success can be trusted -/

/-- `SecureElementComputeAesCmac` reports success only if every command
succeeded and the word it stored is the integrity code. -/
def ComputeSound (atecc : Atecc608 κ) (world : SeWorld β κ)
    (micBxBuffer buffer : Option (Pointer β)) (size : ℕ) (keyID : KeyIdentifier)
    (cmac : Option UInt32) : Prop :=
  wp (secureElementComputeAesCmac atecc micBxBuffer buffer size keyID cmac)
    (fun result final => result.1 = .success →
      world.EveryCommandSucceeded final ∧
        ∃ pointer keyItem, buffer = some pointer ∧ getKeyByID keyID = some keyItem ∧
          result.2 = some (world.mac atecc keyItem (world.macMessage micBxBuffer pointer size)))
    world

/-- `SecureElementVerifyAesCmac` accepts a word only if every command
succeeded and the word is the integrity code. -/
def VerifySound (atecc : Atecc608 κ) (world : SeWorld β κ) (buffer : Option (Pointer β))
    (size : ℕ) (keyID : KeyIdentifier) : Prop :=
  ∀ expectedCmac, wp (secureElementVerifyAesCmac atecc buffer size expectedCmac keyID)
    (fun status final => status = .success →
      world.EveryCommandSucceeded final ∧
        ∃ pointer keyItem, buffer = some pointer ∧ getKeyByID keyID = some keyItem ∧
          expectedCmac = world.mac atecc keyItem (world.macMessage none pointer size))
    world

/-- The call stops before the unchecked commands, or they all succeed. -/
def CmacTrusted (world : SeWorld β κ) (micBxBuffer buffer : Option (Pointer β))
    (keyID : KeyIdentifier) : Prop :=
  buffer = none ∨ getKeyByID keyID = none ∨ world.succeeds world.issued = false ∨
    world.Succeed (1 + commandsAfterInit micBxBuffer)

/-- The condition of `SecureElementComputeAesCmac`. -/
def ComputeTrusted (world : SeWorld β κ) (micBxBuffer buffer : Option (Pointer β))
    (keyID : KeyIdentifier) (cmac : Option UInt32) : Prop :=
  cmac = none ∨ loramacCryptoMulticastKeys ≤ keyID.value ∨
    CmacTrusted world micBxBuffer buffer keyID

/-- The commands issued are those counted from the start of the call. -/
theorem everyCommandSucceeded_iff {world final : SeWorld β κ} {count : ℕ}
    (issued : final.issued = world.issued + 1 + count) :
    world.EveryCommandSucceeded final ↔ world.Succeed (1 + count) := by
  constructor
  · intro every index index_lt
    exact every _ (by omega) (by omega)
  · intro succeed index after before
    have outcome := succeed (index - world.issued) (by omega)
    rwa [Nat.add_sub_cancel' after] at outcome

section Result

variable {atecc : Atecc608 κ} {world final : SeWorld β κ} {keyItem : KeyItem}
  {micBxBuffer : Option (Pointer β)} {buffer : Pointer β} {size : ℕ} {cmac : Option UInt32}
  {result : SecureElementStatus × Option UInt32}

/-- Success says that the first command succeeded, and nothing more. -/
theorem CmacResult.success_iff
    (described : CmacResult atecc world keyItem micBxBuffer buffer size cmac result final) :
    result.1 = .success ↔ world.succeeds world.issued = true := by
  constructor
  · intro success
    by_contra failed
    have result_eq := (described.failed (by simpa using failed)).1
    simp [result_eq] at success
  · intro passed
    exact (described.passed passed).1

/-- A successful call that is trusted stored the integrity code. -/
theorem CmacResult.trusted
    (described : CmacResult atecc world keyItem micBxBuffer buffer size cmac result final)
    (success : result.1 = .success)
    (trusted : world.succeeds world.issued = false ∨
      world.Succeed (1 + commandsAfterInit micBxBuffer)) :
    world.EveryCommandSucceeded final ∧
      result.2 = some (world.mac atecc keyItem (world.macMessage micBxBuffer buffer size)) := by
  have passed := described.success_iff.mp success
  obtain ⟨-, issued, word, stored, honest⟩ := described.passed passed
  rcases trusted with failed | succeed
  · simp [passed] at failed
  · have every := (everyCommandSucceeded_iff issued).mpr succeed
    exact ⟨every, by rw [stored, honest every]⟩

/-- A call that is not trusted reports success over a failed command. -/
theorem CmacResult.untrusted
    (described : CmacResult atecc world keyItem micBxBuffer buffer size cmac result final)
    (untrusted : ¬ (world.succeeds world.issued = false ∨
      world.Succeed (1 + commandsAfterInit micBxBuffer))) :
    result.1 = .success ∧ (∃ word, result.2 = some word) ∧
      ¬ world.EveryCommandSucceeded final := by
  simp only [not_or, Bool.not_eq_false] at untrusted
  obtain ⟨passed, not_succeed⟩ := untrusted
  obtain ⟨success, issued, word, stored, -⟩ := described.passed passed
  exact ⟨success, ⟨word, stored⟩,
    fun every => not_succeed ((everyCommandSucceeded_iff issued).mp every)⟩

end Result

theorem computeSound_iff (atecc : Atecc608 κ) (world : SeWorld β κ)
    (micBxBuffer buffer : Option (Pointer β)) (size : ℕ) (keyID : KeyIdentifier)
    (cmac : Option UInt32) :
    ComputeSound atecc world micBxBuffer buffer size keyID cmac ↔
      ComputeTrusted world micBxBuffer buffer keyID cmac := by
  simp only [ComputeSound, ComputeTrusted, CmacTrusted, secureElementComputeAesCmac]
  by_cases multicast : loramacCryptoMulticastKeys ≤ keyID.value
  · simp [multicast]
  cases buffer with
  | none => simp [multicast, computeCmac]
  | some buffer =>
      cases cmac with
      | none => simp [multicast, computeCmac]
      | some word =>
          cases found : getKeyByID keyID with
          | none => simp [multicast, computeCmac, found]
          | some keyItem =>
              simp only [multicast, ↓reduceIte, reduceCtorEq, false_or]
              have call := computeCmac_result atecc world micBxBuffer buffer size found word
              constructor
              · intro sound
                by_contra untrusted
                obtain ⟨result, final, returned, holds⟩ := sound
                obtain ⟨success, -, failed⟩ := (wp_result call returned).untrusted untrusted
                exact failed (holds success).1
              · intro trusted
                refine wp_mono call fun result final described success => ?_
                obtain ⟨every, stored⟩ := described.trusted success trusted
                exact ⟨every, buffer, keyItem, rfl, rfl, stored⟩

theorem verifySound_iff (atecc : Atecc608 κ) (world : SeWorld β κ) (buffer : Option (Pointer β))
    (size : ℕ) (keyID : KeyIdentifier) :
    VerifySound atecc world buffer size keyID ↔ CmacTrusted world none buffer keyID := by
  simp only [VerifySound, CmacTrusted, secureElementVerifyAesCmac]
  cases buffer with
  | none => simp
  | some buffer =>
      cases found : getKeyByID keyID with
      | none => simp [computeCmac, found]
      | some keyItem =>
          simp only [reduceCtorEq, false_or, wp_bind]
          have call := computeCmac_result atecc world none buffer size found 0
          constructor
          · intro sound
            by_contra untrusted
            obtain ⟨result, final, returned, described⟩ := call
            obtain ⟨success, ⟨word, stored⟩, failed⟩ := described.untrusted untrusted
            -- The word that the failed commands left is the one that verifies.
            have accepted := wp_result (sound word) returned
            simp only [success, stored, ne_eq, not_true_eq_false, ↓reduceIte, wp_pure] at accepted
            exact failed (accepted trivial).1
          · intro trusted expectedCmac
            refine wp_mono call fun result final described => ?_
            by_cases success : result.1 = .success
            · obtain ⟨every, stored⟩ := described.trusted success trusted
              simp only [success, ne_eq, not_true_eq_false, ↓reduceIte]
              by_cases equal : some expectedCmac = result.2
              · simp only [equal, not_true_eq_false, ↓reduceIte, wp_pure]
                rw [stored] at equal
                exact fun _ => ⟨every, buffer, keyItem, rfl, rfl, Option.some.inj equal⟩
              · simp [equal]
            · simp [success]

/-- On a device that does not fail, verification decides the integrity code. -/
theorem secureElementVerifyAesCmac_succeed (atecc : Atecc608 κ) (buffer : Pointer β) (size : ℕ)
    (expectedCmac : UInt32) {keyID : KeyIdentifier} {keyItem : KeyItem}
    (found : getKeyByID keyID = some keyItem) {world : SeWorld β κ}
    (succeed : ∀ index, world.succeeds index = true) :
    wp (secureElementVerifyAesCmac atecc (some buffer) size expectedCmac keyID)
      (fun status final =>
        (status = .success ↔
            expectedCmac = world.mac atecc keyItem (world.bytesAt buffer size)) ∧
          SameBuffers world final ∧ TouchedOnly (InRegion buffer size) world final) world := by
  simp only [secureElementVerifyAesCmac, wp_bind]
  refine wp_mono (computeCmac_result atecc world none buffer size found 0)
    fun result final described => ?_
  have success := described.success_iff.mpr (succeed _)
  obtain ⟨-, stored⟩ := described.trusted success (.inr fun index _ => succeed _)
  have touched : TouchedOnly (InRegion buffer size) world final :=
    described.touched.mono (by simp)
  simp only [success, ne_eq, not_true_eq_false, ↓reduceIte, stored, Option.some.injEq]
  by_cases equal : expectedCmac = world.mac atecc keyItem (world.macMessage none buffer size)
  · simp only [equal, not_true_eq_false, ↓reduceIte, wp_pure]
    exact ⟨by simp [SeWorld.macMessage], described.same, touched⟩
  · simp only [equal, not_false_eq_true, ↓reduceIte, wp_pure]
    exact ⟨by simpa [SeWorld.macMessage] using equal, described.same, touched⟩

/-- The CMAC calls are sound under a pattern of failures exactly when each of
them stops before its unchecked commands or all of its commands succeed. -/
theorem aesCmac_sound_iff (atecc : Atecc608 κ) (world : SeWorld β κ)
    (micBxBuffer buffer : Option (Pointer β)) (size : ℕ) (keyID : KeyIdentifier)
    (cmac : Option UInt32) :
    (ComputeSound atecc world micBxBuffer buffer size keyID cmac ∧
        VerifySound atecc world buffer size keyID) ↔
      ComputeTrusted world micBxBuffer buffer keyID cmac ∧
        CmacTrusted world none buffer keyID := by
  rw [computeSound_iff, verifySound_iff]

/-! ## A failing device -/

/-- A device whose integrity codes are all `0x01010101`. -/
def onesAtecc : Atecc608 Unit where
  cmac _ _ _ := 1
  aes _ block := block
  kdf _ _ := ()
  store _ slot := slot
  store_zero _ _ := rfl

/-- The first two commands succeed and the others fail. -/
def failingFinish : SeWorld Unit Unit where
  keys _ _ := ()
  used := []
  memory _ _ := 0
  touched := []
  succeeds index := index < 2
  issued := 0

/-- When `atcab_aes_cmac_finish` fails, a frame with a zero MIC verifies. -/
theorem zeroMic_verifies :
    ((secureElementVerifyAesCmac onesAtecc (some ⟨(), 0⟩) 16 0 .nwkKey).run failingFinish).1 =
        some .success ∧
      ¬ VerifySound onesAtecc failingFinish (some ⟨(), 0⟩) 16 .nwkKey := by
  refine ⟨by decide, ?_⟩
  rw [verifySound_iff]
  rintro (absent | missing | failed | succeed)
  · cases absent
  · revert missing
    decide
  · revert failed
    decide
  · exact absurd (succeed 2 (by decide)) (by decide)

end GenericNode.SecureElement
