import GenericNode.SoftSe.Cmac
import GenericNode.SecureElement.Interface
import GenericNode.SecureElement.JoinAccept

/-!
# The secure element in software

`soft-se.c` with its key list in memory.  The block encryption of
`lorawan_aes.c` under a key is a parameter.
-/

namespace GenericNode.SoftSe

open GenericNode.Library
open GenericNode.Library.Prog
open GenericNode.SecureElement

/-! ## The key list -/

/-- `Key_t`. -/
structure Key where
  keyID : KeyIdentifier
  keyValue : Block

/-- The identifiers of `SOFT_SE_KEY_LIST`, in its order. -/
def softSeKeyList : List KeyIdentifier :=
  [.appKey, .nwkKey, .nwkSKey, .appSKey, .mcRootKey, .mcKeKey, .mcKey0, .mcAppSKey0, .mcNwkSKey0,
    .slotRandZeroKey]

/-- The first key with an identifier, `GetKeyByID`. -/
def getKeyByID (keyList : List Key) (keyID : KeyIdentifier) : Option Block :=
  match keyList with
  | [] => none
  | item :: keyList => if item.keyID = keyID then some item.keyValue else getKeyByID keyList keyID

/-- The list with the value of the first key with an identifier replaced. -/
def replaceKey (keyList : List Key) (keyID : KeyIdentifier) (keyValue : Block) : List Key :=
  match keyList with
  | [] => []
  | item :: keyList =>
      if item.keyID = keyID then { item with keyValue := keyValue } :: keyList
      else item :: replaceKey keyList keyID keyValue

theorem map_replaceKey (keyList : List Key) (keyID : KeyIdentifier) (keyValue : Block) :
    (replaceKey keyList keyID keyValue).map Key.keyID = keyList.map Key.keyID := by
  induction keyList with
  | nil => rfl
  | cons item keyList ih =>
      rw [replaceKey]
      split
      · rfl
      · rw [List.map_cons, List.map_cons, ih]

theorem getKeyByID_replaceKey (keyList : List Key) (keyID other : KeyIdentifier)
    (keyValue : Block) (present : keyID ∈ keyList.map Key.keyID) :
    getKeyByID (replaceKey keyList keyID keyValue) other =
      if other = keyID then some keyValue else getKeyByID keyList other := by
  induction keyList with
  | nil => cases present
  | cons item keyList ih =>
      rw [replaceKey]
      by_cases found : item.keyID = keyID
      · rw [if_pos found, getKeyByID, getKeyByID, found]
        by_cases same : other = keyID
        · rw [if_pos same.symm, if_pos same]
        · rw [if_neg (Ne.symm same), if_neg same, if_neg (Ne.symm same)]
      · have later : keyID ∈ keyList.map Key.keyID := by
          rw [List.map_cons, List.mem_cons] at present
          exact present.resolve_left (Ne.symm found)
        rw [if_neg found, getKeyByID, ih later, getKeyByID]
        by_cases here : item.keyID = other
        · rw [if_pos here, if_pos here, if_neg (here ▸ found)]
        · rw [if_neg here, if_neg here]

theorem getKeyByID_isSome {keyList : List Key} {keyID : KeyIdentifier}
    (present : keyID ∈ keyList.map Key.keyID) : ∃ keyValue, getKeyByID keyList keyID = some keyValue := by
  induction keyList with
  | nil => cases present
  | cons item keyList ih =>
      rw [getKeyByID]
      split
      · exact ⟨_, rfl⟩
      · rename_i other
        rw [List.map_cons, List.mem_cons] at present
        exact ih (present.resolve_left (Ne.symm other))

/-- `SecureElementNvCtx_t`: a list with every identifier, and the number of
times its change was announced. -/
structure SeNvmCtx where
  keyList : List Key
  seNvmCtxChanged : ℕ
  complete : keyList.map Key.keyID = softSeKeyList

namespace SeNvmCtx

/-- The context with the value of a key replaced. -/
def setKey (ctx : SeNvmCtx) (keyID : KeyIdentifier) (keyValue : Block) : SeNvmCtx where
  keyList := replaceKey ctx.keyList keyID keyValue
  seNvmCtxChanged := ctx.seNvmCtxChanged + 1
  complete := (map_replaceKey _ _ _).trans ctx.complete

/-- The keys of the context. -/
def keys (ctx : SeNvmCtx) (keyID : KeyIdentifier) : Block :=
  (getKeyByID ctx.keyList keyID).getD zeroBlock

theorem mem_keyList (ctx : SeNvmCtx) {keyID : KeyIdentifier} (known : keyID ≠ .noKey) :
    keyID ∈ ctx.keyList.map Key.keyID := by
  rw [ctx.complete]
  cases keyID <;> first
    | exact absurd rfl known
    | decide

theorem getKeyByID_eq (ctx : SeNvmCtx) {keyID : KeyIdentifier} (known : keyID ≠ .noKey) :
    getKeyByID ctx.keyList keyID = some (ctx.keys keyID) := by
  obtain ⟨keyValue, found⟩ := getKeyByID_isSome (ctx.mem_keyList known)
  rw [keys, found, Option.getD_some]

theorem keys_setKey (ctx : SeNvmCtx) {keyID : KeyIdentifier} (keyValue : Block)
    (known : keyID ≠ .noKey) :
    (ctx.setKey keyID keyValue).keys = Function.update ctx.keys keyID keyValue := by
  funext other
  rw [keys, setKey, getKeyByID_replaceKey _ _ _ _ (ctx.mem_keyList known), Function.update_apply]
  split
  · rfl
  · rfl

end SeNvmCtx

/-! ## The calls -/

-- `aes` is the block encryption under a key, `lorawan_aes_set_key` and
-- `lorawan_aes_encrypt`; `stack` is what lies where `AES_CMAC_CTX` is allocated.
variable (aes : Block → Block → Block) (stack : Block)

/-- `ComputeCmac`. -/
def computeCmac (micBxBuffer : Option Block) (buffer : List UInt8) (keyID : KeyIdentifier) :
    Prog SeNvmCtx (SecureElementStatus × Option UInt32) := do
  let keyItem ← gets fun ctx => getKeyByID ctx.keyList keyID
  match keyItem with
  | none => pure (.errorInvalidKeyId, none)
  | some keyValue =>
      let ctx := aesCmacInit stack
      let ctx := match micBxBuffer with
        | some block => aesCmacUpdate (aes keyValue) ctx (blockBytes block)
        | none => ctx
      let cmac := aesCmacFinal (aes keyValue) (aesCmacUpdate (aes keyValue) ctx buffer)
      pure (.success, some ((byteOf cmac 3).toUInt32 <<< 24 ||| (byteOf cmac 2).toUInt32 <<< 16 |||
        (byteOf cmac 1).toUInt32 <<< 8 ||| (byteOf cmac 0).toUInt32))

/-- `SecureElementComputeAesCmac`. -/
def secureElementComputeAesCmac (micBxBuffer : Option Block) (buffer : List UInt8)
    (keyID : KeyIdentifier) : Prog SeNvmCtx (SecureElementStatus × Option UInt32) :=
  if loramacCryptoMulticastKeys ≤ keyID.value then
    pure (.errorInvalidKeyId, none)
  else
    computeCmac aes stack micBxBuffer buffer keyID

/-- `SecureElementVerifyAesCmac`. -/
def secureElementVerifyAesCmac (buffer : List UInt8) (expectedCmac : UInt32)
    (keyID : KeyIdentifier) : Prog SeNvmCtx SecureElementStatus := do
  let (retval, compCmac) ← computeCmac aes stack none buffer keyID
  if retval ≠ .success then
    pure retval
  else if some expectedCmac ≠ compCmac then
    pure .failCmac
  else
    pure retval

/-- `SecureElementAesEncrypt`.  The block counter is an 8-bit word. -/
def secureElementAesEncrypt (buffer : List UInt8) (keyID : KeyIdentifier)
    (encBuffer : List UInt8) : Prog SeNvmCtx (SecureElementStatus × List UInt8) :=
  if buffer.length % 16 ≠ 0 then
    pure (.errorBufSize, encBuffer)
  else do
    let pItem ← gets fun ctx => getKeyByID ctx.keyList keyID
    match pItem with
    | none => pure (.errorInvalidKeyId, encBuffer)
    | some keyValue =>
        loop (fun (encBuffer, block, size) => do
          if size ≠ 0 then
            let bytes ← lift (slice buffer block 16)
            let encBuffer ← lift (overwrite encBuffer block (blockBytes (aes keyValue (blockOf bytes))))
            pure (.inl (encBuffer, (block + 16) % 2 ^ 8, size - 16))
          else
            pure (.inr (.success, encBuffer))) (buffer.length + 1) (encBuffer, 0, buffer.length)

/-- `SecureElementSetKey`. -/
def secureElementSetKey (keyID : KeyIdentifier) (key : Block) :
    Prog SeNvmCtx SecureElementStatus := do
  let found ← gets fun ctx => (getKeyByID ctx.keyList keyID).isSome
  if ! found then
    pure .errorInvalidKeyId
  else if keyID = .mcKey0 then
    let (retval, decryptedKey) ← secureElementAesEncrypt aes (blockBytes key) .mcKeKey
      (List.replicate 16 0)
    modify fun ctx => ctx.setKey keyID (blockOf decryptedKey)
    pure retval
  else
    modify fun ctx => ctx.setKey keyID key
    pure .success

/-- `SecureElementDeriveAndStoreKey`. -/
def secureElementDeriveAndStoreKey (input : Block) (rootKeyID targetKeyID : KeyIdentifier) :
    Prog SeNvmCtx SecureElementStatus :=
  if targetKeyID = .mcKeKey ∧ rootKeyID ≠ .mcRootKey then
    pure .errorInvalidKeyId
  else do
    let (retval, key) ← secureElementAesEncrypt aes (blockBytes input) rootKeyID
      (List.replicate 16 0)
    if retval ≠ .success then
      pure retval
    else
      secureElementSetKey aes targetKeyID (blockOf key)

/-- `SecureElementProcessJoinAccept` without LoRaWAN 1.1 crypto.  The decrypted
frame and the minor version are returned beside the status. -/
def secureElementProcessJoinAccept (encJoinAccept : List UInt8) :
    Prog SeNvmCtx (SecureElementStatus × List UInt8 × ℕ) :=
  if loramacJoinAcceptFrameMaxSize < encJoinAccept.length then
    pure (.errorBufSize, [], 0)
  else do
    let mhdr ← lift (slice encJoinAccept 0 loramacMhdrFieldSize)
    let (encrypted, body) ← secureElementAesEncrypt aes (encJoinAccept.drop loramacMhdrFieldSize)
      .nwkKey (encJoinAccept.drop loramacMhdrFieldSize)
    let decJoinAccept := mhdr ++ body
    if encrypted ≠ .success then
      pure (.failEncrypt, decJoinAccept, 0)
    else
      let byte11 ← lift decJoinAccept[11]?
      let versionMinor := if byte11 &&& 0x80 = 0x80 then 1 else 0
      let size := decJoinAccept.length - loramacMicFieldSize
      let mic ← lift (slice decJoinAccept size loramacMicFieldSize)
      if versionMinor = 0 then
        let verified ← secureElementVerifyAesCmac aes stack (decJoinAccept.take size)
          (UInt32.ofNat (leNat mic)) .nwkKey
        if verified ≠ .success then
          pure (.failCmac, decJoinAccept, versionMinor)
        else
          pure (.success, decJoinAccept, versionMinor)
      else
        pure (.errorInvalidLorawamSpecVersion, decJoinAccept, versionMinor)

/-- `soft-se.c` as the secure element of the MAC. -/
def softSe : SecureElementApi SeNvmCtx where
  computeAesCmac := secureElementComputeAesCmac aes stack
  verifyAesCmac := secureElementVerifyAesCmac aes stack
  aesEncrypt block keyID := do
    let (status, bytes) ← secureElementAesEncrypt aes (blockBytes block) keyID
      (List.replicate 16 0)
    pure (status, blockOf bytes)
  deriveAndStoreKey := secureElementDeriveAndStoreKey aes
  processJoinAccept := secureElementProcessJoinAccept aes stack

/-- What it computes. -/
def softCipher : KeyedCipher Block where
  aes := aes
  cmac key := cmac (aes key)
  derive := aes

/-! ## What they compute -/

variable {aes stack}

theorem wp_computeCmac (micBxBuffer : Option Block) (buffer : List UInt8) {keyID : KeyIdentifier}
    (ctx : SeNvmCtx) (known : keyID ≠ .noKey) :
    wp (computeCmac aes stack micBxBuffer buffer keyID) (fun result final =>
      result = (.success,
        some ((softCipher aes).mic (ctx.keys keyID) (bxBytes micBxBuffer ++ buffer))) ∧
        final = ctx) ctx := by
  simp only [computeCmac, wp_bind, wp_gets, ctx.getKeyByID_eq known, wp_pure, and_true]
  cases micBxBuffer with
  | none =>
      have pieces : aesCmacFinal (aes (ctx.keys keyID))
          (aesCmacUpdate (aes (ctx.keys keyID)) (aesCmacInit stack) buffer) =
            cmac (aes (ctx.keys keyID)) [buffer].flatten := aesCmac_pieces stack [buffer]
      rw [List.flatten_singleton] at pieces
      rw [macWord_eq, pieces]
      rfl
  | some block =>
      have pieces : aesCmacFinal (aes (ctx.keys keyID))
          (aesCmacUpdate (aes (ctx.keys keyID)) (aesCmacUpdate (aes (ctx.keys keyID))
            (aesCmacInit stack) (blockBytes block)) buffer) =
              cmac (aes (ctx.keys keyID)) [blockBytes block, buffer].flatten :=
        aesCmac_pieces stack [blockBytes block, buffer]
      rw [List.flatten_cons, List.flatten_singleton] at pieces
      rw [macWord_eq, pieces]
      rfl

theorem wp_secureElementVerifyAesCmac (buffer : List UInt8) (expectedCmac : UInt32)
    {keyID : KeyIdentifier} (ctx : SeNvmCtx) (known : keyID ≠ .noKey) :
    wp (secureElementVerifyAesCmac aes stack buffer expectedCmac keyID) (fun result final =>
      result = (if expectedCmac ≠ (softCipher aes).mic (ctx.keys keyID) buffer then .failCmac
        else .success) ∧ final = ctx) ctx := by
  rw [secureElementVerifyAesCmac, wp_bind]
  refine wp_mono (wp_computeCmac none buffer ctx known) ?_
  rintro _ ctx ⟨rfl, rfl⟩
  simp only [ne_eq, not_true_eq_false, ↓reduceIte, Option.some.injEq, bxBytes, List.nil_append]
  split
  · simp only [wp_pure, and_self]
  · simp only [wp_pure, and_self]

/-- `SecureElementAesEncrypt` encrypts the blocks of a buffer in order. -/
theorem wp_secureElementAesEncrypt {buffer encBuffer : List UInt8} {keyID : KeyIdentifier}
    (ctx : SeNvmCtx) (known : keyID ≠ .noKey) (whole : buffer.length % 16 = 0)
    (small : buffer.length < 256) (room : encBuffer.length = buffer.length) :
    wp (secureElementAesEncrypt aes buffer keyID encBuffer) (fun result final =>
      result = (.success, ecbBytes (aes (ctx.keys keyID)) buffer) ∧ final = ctx) ctx := by
  rw [secureElementAesEncrypt, if_neg (not_not.mpr whole)]
  simp only [wp_bind, wp_gets, ctx.getKeyByID_eq known]
  -- After `done` turns the first `done` blocks are encrypted.
  let inv : List UInt8 × ℕ × ℕ → SeNvmCtx → Prop := fun value final =>
    ∃ done, 16 * done ≤ buffer.length ∧ ctx = final ∧
      value = (ecbBlocks (aes (ctx.keys keyID)) done buffer ++ encBuffer.drop (16 * done), 16 * done % 2 ^ 8,
        buffer.length - 16 * done)
  apply wp_loop inv (fun value _ => value.2.2)
  · rintro _ _ ⟨done, bounded, rfl, rfl⟩
    by_cases more : buffer.length - 16 * done = 0
    · simp only [more, ne_eq, not_true_eq_false, ↓reduceIte, wp_pure, and_true]
      have all : buffer.length / 16 = done := by omega
      rw [List.drop_eq_nil_of_le (by omega), List.append_nil, ecbBytes, all]
    · have place : 16 * done % 2 ^ 8 = 16 * done := by omega
      have read : slice buffer (16 * done) 16 = some ((buffer.drop (16 * done)).take 16) :=
        slice_eq_some (by omega)
      have piece_length : ((buffer.drop (16 * done)).take 16).length = 16 := by
        rw [List.length_take, List.length_drop]
        omega
      have piece_eq : blockOf ((buffer.drop (16 * done)).take 16) =
          blockOf (buffer.drop (16 * done)) := by
        conv_rhs => rw [← List.take_append_drop 16 (buffer.drop (16 * done))]
        exact (blockOf_append piece_length.ge _).symm
      have write : overwrite (ecbBlocks (aes (ctx.keys keyID)) done buffer ++ encBuffer.drop (16 * done))
          (16 * done) (blockBytes (aes (ctx.keys keyID) (blockOf ((buffer.drop (16 * done)).take 16)))) =
            some (ecbBlocks (aes (ctx.keys keyID)) (done + 1) buffer ++ encBuffer.drop (16 * (done + 1))) := by
        have done_length := length_ecbBlocks (aes (ctx.keys keyID)) done buffer
        have fits : 16 * done + (blockBytes (aes (ctx.keys keyID) (blockOf
            ((buffer.drop (16 * done)).take 16)))).length ≤
              (ecbBlocks (aes (ctx.keys keyID)) done buffer ++ encBuffer.drop (16 * done)).length := by
          simp only [List.length_append, done_length, length_blockBytes, List.length_drop]
          omega
        rw [overwrite, if_pos fits, List.take_left' done_length, ecbBlocks_succ, piece_eq, length_blockBytes,
          ← done_length, List.drop_length_add_append, List.drop_drop, done_length]
        rfl
      simp only [more, ne_eq, not_false_eq_true, ↓reduceIte, place, wp_bind, wp_lift, read,
        Option.some.injEq, exists_eq_left', write, wp_pure]
      constructor
      · refine ⟨done + 1, by omega, rfl, ?_⟩
        rw [show 16 * done + 16 = 16 * (done + 1) by ring, Nat.sub_sub,
          show 16 * done + 16 = 16 * (done + 1) by ring]
      · omega
  · simp
  · exact ⟨0, by omega, rfl, by simp [ecbBlocks]⟩

/-- One block is encrypted under its key. -/
theorem wp_aesEncrypt_block (block : Block) {keyID : KeyIdentifier} (ctx : SeNvmCtx)
    (known : keyID ≠ .noKey) :
    wp (secureElementAesEncrypt aes (blockBytes block) keyID (List.replicate 16 0))
      (fun result final =>
        result = (.success, blockBytes (aes (ctx.keys keyID) block)) ∧ final = ctx) ctx := by
  have length_eq := length_blockBytes block
  refine wp_mono (wp_secureElementAesEncrypt ctx known (by omega) (by omega) (by simp)) ?_
  rintro _ ctx ⟨rfl, rfl⟩
  have bytes_eq : ecbBytes (aes (ctx.keys keyID)) (blockBytes block) =
      blockBytes (aes (ctx.keys keyID) block) := by
    rw [ecbBytes, length_eq, ecbBlocks, ecbBlocks, List.append_nil, blockOf_blockBytes]
  rw [bytes_eq]
  exact ⟨rfl, rfl⟩

/-- A derived key that is not `MC_KEY_0` is stored as it is. -/
theorem wp_secureElementDeriveAndStoreKey (input : Block) {rootKeyID targetKeyID : KeyIdentifier}
    (ctx : SeNvmCtx) (root_known : rootKeyID ≠ .noKey) (target_known : targetKeyID ≠ .noKey)
    (plain : targetKeyID ≠ .mcKey0) (allowed : targetKeyID = .mcKeKey → rootKeyID = .mcRootKey) :
    wp (secureElementDeriveAndStoreKey aes input rootKeyID targetKeyID) (fun status final =>
      status = .success ∧ final.keys =
        Function.update ctx.keys targetKeyID (aes (ctx.keys rootKeyID) input)) ctx := by
  have not_refused : ¬ (targetKeyID = .mcKeKey ∧ rootKeyID ≠ .mcRootKey) := by
    rintro ⟨target, other⟩
    exact other (allowed target)
  rw [secureElementDeriveAndStoreKey, if_neg not_refused, wp_bind]
  refine wp_mono (wp_aesEncrypt_block input ctx root_known) ?_
  rintro _ ctx ⟨rfl, rfl⟩
  simp only [ne_eq, not_true_eq_false, ↓reduceIte, secureElementSetKey, wp_bind, wp_gets,
    ctx.getKeyByID_eq target_known, Option.isSome_some, Bool.not_true, Bool.false_eq_true, plain,
    wp_modify, wp_pure, blockOf_blockBytes, ctx.keys_setKey _ target_known, and_self]

/-- `MC_KEY_0` is stored encrypted under the key of `MC_KE_KEY`. -/
theorem wp_secureElementSetKey_mcKey0 (key : Block) (ctx : SeNvmCtx) :
    wp (secureElementSetKey aes .mcKey0 key) (fun status final =>
      status = .success ∧ final.keys =
        Function.update ctx.keys .mcKey0 (aes (ctx.keys .mcKeKey) key)) ctx := by
  have known : KeyIdentifier.mcKey0 ≠ .noKey := by decide
  simp only [secureElementSetKey, wp_bind, wp_gets, ctx.getKeyByID_eq known, Option.isSome_some,
    Bool.not_true, Bool.false_eq_true, ↓reduceIte]
  refine wp_mono (wp_aesEncrypt_block key ctx (by decide)) ?_
  rintro _ ctx ⟨rfl, rfl⟩
  simp only [wp_modify, wp_pure, blockOf_blockBytes, ctx.keys_setKey _ known, and_self]

/-- The join accepts that it takes are those of the network. -/
theorem wp_secureElementProcessJoinAccept {encJoinAccept : List UInt8} (ctx : SeNvmCtx)
    (least : 17 ≤ encJoinAccept.length) :
    wp (secureElementProcessJoinAccept aes stack encJoinAccept) (fun result final =>
      (result.1 = .success ↔ (softCipher aes).JoinAccept (ctx.keys .nwkKey) encJoinAccept) ∧
        (result.1 = .success → result.2 =
          ((softCipher aes).decryptedFrame (ctx.keys .nwkKey) encJoinAccept, 0)) ∧
        final.keys = ctx.keys) ctx := by
  have known : KeyIdentifier.nwkKey ≠ .noKey := by decide
  rw [secureElementProcessJoinAccept]
  split
  · rename_i long
    rw [loramacJoinAcceptFrameMaxSize] at long
    simp only [wp_pure]
    refine ⟨⟨by simp, ?_⟩, by simp, trivial⟩
    rintro ⟨size, -, -⟩
    omega
  · rename_i short
    rw [loramacJoinAcceptFrameMaxSize] at short
    have read : slice encJoinAccept 0 loramacMhdrFieldSize = some (encJoinAccept.take 1) :=
      slice_eq_some (by rw [loramacMhdrFieldSize]; omega)
    have body_length : (encJoinAccept.drop loramacMhdrFieldSize).length =
        encJoinAccept.length - 1 := List.length_drop
    simp only [wp_bind, wp_lift, read, Option.some.injEq, exists_eq_left']
    by_cases whole : (encJoinAccept.length - 1) % 16 = 0
    · have all : (encJoinAccept.drop loramacMhdrFieldSize).length % 16 = 0 := by
        rwa [body_length]
      refine wp_mono (wp_secureElementAesEncrypt ctx known all (by omega) rfl) ?_
      rintro _ ctx ⟨rfl, rfl⟩
      let frame := (softCipher aes).decryptedFrame (ctx.keys .nwkKey) encJoinAccept
      have frame_eq : encJoinAccept.take 1 ++ ecbBytes (aes (ctx.keys .nwkKey))
          (encJoinAccept.drop loramacMhdrFieldSize) = frame := rfl
      have frame_length : frame.length = encJoinAccept.length := by
        rw [← frame_eq, List.length_append, length_ecbBytes _ all, body_length,
          List.length_take_of_le (by omega)]
        omega
      have byte11 : frame[11]? = some (frame.getD 11 0) := by
        rw [List.getD_eq_getElem?_getD, List.getElem?_eq_getElem (by omega), Option.getD_some]
      have mic : slice frame (frame.length - loramacMicFieldSize) loramacMicFieldSize =
          some (frame.drop (frame.length - 4)) := by
        rw [loramacMicFieldSize, slice_eq_some (by omega), List.take_of_length_le]
        rw [List.length_drop]
        omega
      have size_cases : encJoinAccept.length = 17 ∨ encJoinAccept.length = 33 := by omega
      simp only [frame_eq, ne_eq, not_true_eq_false, ↓reduceIte, wp_bind, wp_lift, byte11, mic,
        Option.some.injEq, exists_eq_left', versionBit]
      by_cases version : (frame.getD 11 0).toNat.testBit 7 = true
      · simp only [version, ↓reduceIte, one_ne_zero, wp_pure]
        refine ⟨⟨by simp, ?_⟩, by simp, trivial⟩
        rintro ⟨-, plain, -⟩
        rw [show (frame.getD 11 0).toNat.testBit 7 = false from plain] at version
        cases version
      · have plain : (frame.getD 11 0).toNat.testBit 7 = false := by simpa using version
        simp only [version, Bool.false_eq_true, ↓reduceIte, wp_bind]
        refine wp_mono (wp_secureElementVerifyAesCmac _ _ ctx known) ?_
        rintro _ ctx ⟨rfl, rfl⟩
        have join_iff : (softCipher aes).JoinAccept (ctx.keys .nwkKey) encJoinAccept ↔
            UInt32.ofNat (leNat (frame.drop (frame.length - 4))) =
              (softCipher aes).mic (ctx.keys .nwkKey) (frame.take (frame.length - 4)) := by
          constructor
          · exact fun accepted => accepted.2.2
          · exact fun mic_eq => ⟨size_cases, plain, mic_eq⟩
        rw [join_iff, loramacMicFieldSize]
        by_cases verified : UInt32.ofNat (leNat (frame.drop (frame.length - 4))) =
            (softCipher aes).mic (ctx.keys .nwkKey) (frame.take (frame.length - 4))
        · simp [verified, frame]
        · simp [verified]
    · have refused : (encJoinAccept.drop loramacMhdrFieldSize).length % 16 ≠ 0 := by
        rwa [body_length]
      rw [secureElementAesEncrypt, if_pos refused]
      simp only [wp_pure, ne_eq, reduceCtorEq, not_false_eq_true, ↓reduceIte]
      refine ⟨⟨by simp, ?_⟩, by simp, trivial⟩
      rintro ⟨size, -, -⟩
      omega

/-- The secure element in software computes with the keys in its list. -/
theorem softSe_lawful : (softSe aes stack).Lawful (softCipher aes) SeNvmCtx.keys where
  computeAesCmac ctx micBx buffer keyID single := by
    have known : keyID ≠ .noKey := by
      rintro rfl
      exact absurd single (by decide)
    have accepted : ¬ loramacCryptoMulticastKeys ≤ keyID.value := by omega
    simp only [softSe, secureElementComputeAesCmac, if_neg accepted]
    refine wp_mono (wp_computeCmac micBx buffer ctx known) ?_
    rintro _ ctx ⟨rfl, rfl⟩
    exact ⟨rfl, rfl⟩
  verifyAesCmac ctx buffer expectedCmac keyID known := by
    refine wp_mono (wp_secureElementVerifyAesCmac buffer expectedCmac ctx known) ?_
    rintro _ ctx ⟨rfl, rfl⟩
    exact ⟨rfl, rfl⟩
  aesEncrypt ctx block keyID known := by
    simp only [softSe, wp_bind]
    refine wp_mono (wp_aesEncrypt_block block ctx known) ?_
    rintro _ ctx ⟨rfl, rfl⟩
    simp only [wp_pure, blockOf_blockBytes, and_true]
    rfl
  deriveSessionKey ctx input rootKeyID targetKeyID session := by
    have stored : rootKeyID ≠ .noKey ∧ targetKeyID ≠ .noKey ∧ targetKeyID ≠ .mcKey0 ∧
        targetKeyID ≠ .mcKeKey := by
      rcases session with ⟨rfl, rfl | rfl⟩ | ⟨rfl, rfl | rfl⟩ <;> decide
    rcases stored with ⟨root_known, target_known, plain, other⟩
    exact wp_secureElementDeriveAndStoreKey input ctx root_known target_known plain
      fun target => absurd target other
  deriveMulticastRoot ctx input rootKeyID targetKeyID root := by
    have stored : rootKeyID ≠ .noKey ∧ targetKeyID ≠ .noKey ∧ targetKeyID ≠ .mcKey0 ∧
        (targetKeyID = .mcKeKey → rootKeyID = .mcRootKey) := by
      rcases root with ⟨rfl, rfl⟩ | ⟨rfl, rfl⟩ <;> decide
    rcases stored with ⟨root_known, target_known, plain, allowed⟩
    refine wp_mono (wp_secureElementDeriveAndStoreKey input ctx root_known target_known plain
      allowed : wp (secureElementDeriveAndStoreKey aes input rootKeyID targetKeyID) _ ctx) ?_
    rintro _ final ⟨rfl, keys_eq⟩
    refine ⟨rfl, ?_⟩
    intro keyID different
    rw [keys_eq, Function.update_of_ne different]
  processJoinAccept ctx _ least := wp_secureElementProcessJoinAccept ctx least

/-! ## An instance -/

/-- A block encryption that is its own inverse. -/
def maskAes (key block : Block) : Block :=
  xorBlock key block

theorem maskAes_maskAes (key block : Block) : maskAes key (maskAes key block) = block := by
  funext index
  rw [maskAes, maskAes, xorBlock, xorBlock, ← UInt8.xor_assoc, UInt8.xor_self, UInt8.zero_xor]

/-- A context with different keys. -/
def sampleKeys : SeNvmCtx where
  keyList := softSeKeyList.map fun keyID => ⟨keyID, fun index => UInt8.ofNat (keyID.value + index)⟩
  seNvmCtxChanged := 0
  complete := by
    rw [List.map_map]
    exact List.map_id _

end GenericNode.SoftSe
