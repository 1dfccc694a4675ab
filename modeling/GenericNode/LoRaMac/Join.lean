import GenericNode.LoRaMac.Counters
import GenericNode.SoftSe.Element

/-!
# Joining a network

The join request and the join accept in `LoRaMacCrypto.c`,
`LoRaMacSerializer.c` and `LoRaMacParser.c`.  The device and the server derive
the session keys from the nonces in the two messages.
-/

namespace GenericNode.LoRaMac

open GenericNode.Library
open GenericNode.Library.Prog
open GenericNode.SecureElement

variable {σ κ : Type}

/-! ## Messages -/

/-- `LoRaMacMessageJoinRequest_t`. -/
structure LoRaMacMessageJoinRequest where
  buffer : List UInt8
  bufSize : ℕ
  mhdr : UInt8
  joinEUI : List UInt8
  devEUI : List UInt8
  devNonce : UInt16
  mic : UInt32
deriving DecidableEq, Repr

/-- `LORAMAC_JOIN_REQ_MSG_SIZE`. -/
def loramacJoinReqMsgSize : ℕ :=
  23

/-- `LoRaMacSerializerJoinRequest`. -/
def loRaMacSerializerJoinRequest (macMsg : LoRaMacMessageJoinRequest) :
    Option (LoRaMacSerializerStatus × LoRaMacMessageJoinRequest) :=
  if macMsg.bufSize < loramacJoinReqMsgSize then
    some (.errorBufSize, macMsg)
  else do
    let joinEUI ← slice macMsg.joinEUI 0 8
    let devEUI ← slice macMsg.devEUI 0 8
    let bytes := [macMsg.mhdr] ++ (joinEUI.reverse ++ (devEUI.reverse ++
      (leBytes 2 macMsg.devNonce.toNat ++ leBytes 4 macMsg.mic.toNat)))
    let buffer ← overwrite macMsg.buffer 0 bytes
    pure (.success, { macMsg with buffer := buffer, bufSize := bytes.length })

/-- `LoRaMacMessageJoinAccept_t`. -/
structure LoRaMacMessageJoinAccept where
  buffer : List UInt8
  bufSize : ℕ
  mhdr : UInt8
  joinNonce : List UInt8
  netID : List UInt8
  devAddr : UInt32
  dlSettings : UInt8
  rxDelay : UInt8
  cfList : List UInt8
  mic : UInt32
deriving DecidableEq, Repr

/-- `LORAMAC_CF_LIST_FIELD_SIZE`. -/
def loramacCfListFieldSize : ℕ :=
  16

/-- `LoRaMacParserJoinAccept`. -/
def loRaMacParserJoinAccept (macMsg : LoRaMacMessageJoinAccept) :
    Option (LoRaMacParserStatus × LoRaMacMessageJoinAccept) := do
  let mhdr ← macMsg.buffer[0]?
  let joinNonce ← slice macMsg.buffer 1 3
  let netID ← slice macMsg.buffer 4 3
  let devAddr ← slice macMsg.buffer 7 4
  let dlSettings ← macMsg.buffer[11]?
  let rxDelay ← macMsg.buffer[12]?
  let macMsg := { macMsg with
    mhdr := mhdr, joinNonce := joinNonce, netID := netID,
    devAddr := UInt32.ofNat (leNat devAddr), dlSettings := dlSettings, rxDelay := rxDelay }
  let rest : ℤ := macMsg.bufSize - loramacMicFieldSize - 13
  if rest = loramacCfListFieldSize then do
    let cfList ← slice macMsg.buffer 13 16
    let mic ← slice macMsg.buffer 29 4
    pure (.success, { macMsg with cfList := cfList, mic := UInt32.ofNat (leNat mic) })
  else if 0 < rest then
    pure (.fail, macMsg)
  else do
    let mic ← slice macMsg.buffer 13 4
    pure (.success, { macMsg with mic := UInt32.ofNat (leNat mic) })

/-! ## Calls -/

variable (api : SecureElementApi σ)

/-- `LoRaMacCryptoPrepareJoinRequest`; `randomNum` is the random number of the
secure element. -/
def loRaMacCryptoPrepareJoinRequest (randomNum : UInt32) (macMsg : LoRaMacMessageJoinRequest) :
    Prog (LoRaMacCryptoCtx σ) (LoRaMacCryptoStatus × LoRaMacMessageJoinRequest) := do
  modify fun ctx => { ctx with devNonce := low16 randomNum }
  eventCryptoNvmCtxChanged
  let devNonce ← gets LoRaMacCryptoCtx.devNonce
  let macMsg := { macMsg with devNonce := devNonce }
  let (serialised, macMsg) ← lift (loRaMacSerializerJoinRequest macMsg)
  if serialised ≠ .success then
    pure (.errorSerializer, macMsg)
  else
    let bytes ← lift (slice macMsg.buffer 0 (loramacJoinReqMsgSize - loramacMicFieldSize))
    let (status, cmac) ← seCall (api.computeAesCmac none bytes .nwkKey)
    let macMsg := { macMsg with mic := cmac.getD macMsg.mic }
    if status ≠ .success then
      pure (.errorSecureElementFunc, macMsg)
    else
      let (serialised, macMsg) ← lift (loRaMacSerializerJoinRequest macMsg)
      if serialised ≠ .success then
        pure (.errorSerializer, macMsg)
      else
        pure (.success, macMsg)

/-- `compBase`: its first bytes, then zeros. -/
def compBase (bytes : List UInt8) : Block :=
  fun index => bytes.getD index 0

/-- A call of `SecureElementDeriveAndStoreKey`. -/
def deriveKey (input : Block) (rootKeyID targetKeyID : KeyIdentifier) :
    Prog (LoRaMacCryptoCtx σ) LoRaMacCryptoStatus := do
  let status ← seCall (api.deriveAndStoreKey input rootKeyID targetKeyID)
  if status ≠ .success then
    pure .errorSecureElementFunc
  else
    pure .success

/-- `LoRaMacCryptoDeriveMcRootKey`. -/
def loRaMacCryptoDeriveMcRootKey (keyID : KeyIdentifier) :
    Prog (LoRaMacCryptoCtx σ) LoRaMacCryptoStatus :=
  if keyID ≠ .appKey then
    pure .errorInvalidKeyId
  else
    deriveKey api (compBase []) keyID .mcRootKey

/-- `LoRaMacCryptoDeriveMcKEKey`. -/
def loRaMacCryptoDeriveMcKEKey (keyID : KeyIdentifier) :
    Prog (LoRaMacCryptoCtx σ) LoRaMacCryptoStatus :=
  if keyID ≠ .mcRootKey then
    pure .errorInvalidKeyId
  else
    deriveKey api (compBase []) keyID .mcKeKey

/-- The first byte from which a session key is derived. -/
def sessionKeyType : KeyIdentifier → Option UInt8
  | .nwkSKey => some 0x01
  | .appSKey => some 0x02
  | _ => none

/-- `DeriveSessionKey10x`. -/
def deriveSessionKey10x (keyID : KeyIdentifier) (joinNonce netID devNonce : List UInt8) :
    Prog (LoRaMacCryptoCtx σ) LoRaMacCryptoStatus :=
  match sessionKeyType keyID with
  | none => pure .errorInvalidKeyId
  | some first =>
      deriveKey api (compBase (first :: (joinNonce ++ (netID ++ devNonce)))) .nwkKey keyID

/-- The keys that `LoRaMacCryptoHandleJoinAccept` derives, until one fails. -/
def deriveJoinKeys (macMsg : LoRaMacMessageJoinAccept) :
    Prog (LoRaMacCryptoCtx σ) LoRaMacCryptoStatus := do
  let retval ← loRaMacCryptoDeriveMcRootKey api .appKey
  if retval ≠ .success then
    pure retval
  else
    let retval ← loRaMacCryptoDeriveMcKEKey api .mcRootKey
    if retval ≠ .success then
      pure retval
    else
      let devNonce ← gets LoRaMacCryptoCtx.devNonce
      let retval ← deriveSessionKey10x api .appSKey macMsg.joinNonce macMsg.netID
        (leBytes 2 devNonce.toNat)
      if retval ≠ .success then
        pure retval
      else
        deriveSessionKey10x api .nwkSKey macMsg.joinNonce macMsg.netID
          (leBytes 2 devNonce.toNat)

/-- The counters that a join resets. -/
def FCntList.joined (fCntList : FCntList) : FCntList :=
  { fCntList with
    fCntUp := 0
    fCntDown := fcntDownInitalValue
    nFCntDown := fcntDownInitalValue
    aFCntDown := fcntDownInitalValue }

/-- `LoRaMacCryptoHandleJoinAccept` for a join request.  Without LoRaWAN 1.1
crypto the join EUI and the nonce are not read. -/
def loRaMacCryptoHandleJoinAccept (macMsg : LoRaMacMessageJoinAccept) :
    Prog (LoRaMacCryptoCtx σ) (LoRaMacCryptoStatus × LoRaMacMessageJoinAccept) := do
  let encJoinAccept ← lift (slice macMsg.buffer 0 macMsg.bufSize)
  let (status, decJoinAccept, versionMinor) ← seCall (api.processJoinAccept encJoinAccept)
  if status ≠ .success then
    pure (.errorSecureElementFunc, macMsg)
  else
    let buffer ← lift (overwrite macMsg.buffer 0 decJoinAccept)
    let (parsed, macMsg) ← lift (loRaMacParserJoinAccept { macMsg with buffer := buffer })
    if parsed ≠ .success then
      pure (.errorParser, macMsg)
    else
      let retval ← deriveJoinKeys api macMsg
      if retval ≠ .success then
        pure (retval, macMsg)
      else
        modify fun ctx => { ctx with minor := versionMinor, fCntList := ctx.fCntList.joined }
        eventCryptoNvmCtxChanged
        pure (.success, macMsg)

/-! ## Frames -/

/-- What a join accept carries. -/
structure JoinAcceptFrame where
  mhdr : UInt8
  joinNonce : List UInt8
  netID : List UInt8
  devAddr : UInt32
  dlSettings : UInt8
  rxDelay : UInt8
  cfList : List UInt8
  joinNonce_length : joinNonce.length = 3
  netID_length : netID.length = 3
  cfList_length : cfList.length = 0 ∨ cfList.length = loramacCfListFieldSize

namespace JoinAcceptFrame

variable (frame : JoinAcceptFrame)

/-- The bytes under the encryption and before the MIC. -/
def rest : List UInt8 :=
  frame.joinNonce ++ (frame.netID ++ (leBytes 4 frame.devAddr.toNat ++
    ([frame.dlSettings] ++ ([frame.rxDelay] ++ frame.cfList))))

/-- The bytes before the MIC. -/
def body : List UInt8 :=
  [frame.mhdr] ++ frame.rest

/-- The bytes that the server sends: it decrypts, so that the device only needs
to encrypt. -/
def encrypted (cipher : KeyedCipher κ) (decrypt : κ → Block → Block) (key : κ) : List UInt8 :=
  [frame.mhdr] ++ ecbBytes (decrypt key)
    (frame.rest ++ leBytes 4 (cipher.mic key frame.body).toNat)

theorem length_rest : frame.rest.length = 12 + frame.cfList.length := by
  simp only [rest, List.length_append, List.length_cons, List.length_nil, length_leBytes,
    frame.joinNonce_length, frame.netID_length]
  omega

theorem length_body : frame.body.length = 13 + frame.cfList.length := by
  rw [body, List.length_append, length_rest, List.length_singleton]
  omega

theorem cfList_length_cases :
    frame.cfList.length = 0 ∨ frame.cfList.length = 16 :=
  frame.cfList_length

theorem length_encrypted (cipher : KeyedCipher κ) (decrypt : κ → Block → Block) (key : κ) :
    (frame.encrypted cipher decrypt key).length = 17 + frame.cfList.length := by
  have length_eq : (frame.rest ++ leBytes 4 (cipher.mic key frame.body).toNat).length =
      16 + frame.cfList.length := by
    rw [List.length_append, length_rest, length_leBytes]
    omega
  have whole : (frame.rest ++ leBytes 4 (cipher.mic key frame.body).toNat).length % 16 = 0 := by
    rcases frame.cfList_length_cases with short | long <;> omega
  rw [encrypted, List.length_append, length_ecbBytes _ whole, length_eq, List.length_singleton]
  omega

/-- A byte of the body is that of the frame. -/
theorem getD_body_append (tail : List UInt8) : (frame.body ++ tail).getD 11 0 = frame.dlSettings := by
  have place : (frame.body ++ tail)[11]? = some frame.dlSettings := getElem?_of_eq
    ([frame.mhdr] ++ (frame.joinNonce ++ (frame.netID ++ leBytes 4 frame.devAddr.toNat)))
    (by simp only [body, rest, List.append_assoc, List.nil_append, List.cons_append]; rfl)
    (by simp [frame.joinNonce_length, frame.netID_length, length_leBytes])
  rw [List.getD_eq_getElem?_getD, place, Option.getD_some]

theorem body_injective : Function.Injective body := by
  rintro ⟨mhdr, joinNonce, netID, devAddr, dlSettings, rxDelay, cfList, joinNonce_length,
    netID_length, cfList_length⟩ ⟨mhdr', joinNonce', netID', devAddr', dlSettings', rxDelay',
    cfList', joinNonce_length', netID_length', cfList_length'⟩ same
  simp only [body, rest, List.cons_append, List.nil_append, List.cons.injEq] at same
  rcases same with ⟨rfl, same⟩
  rcases List.append_inj same (joinNonce_length.trans joinNonce_length'.symm) with ⟨rfl, tail⟩
  rcases List.append_inj tail (netID_length.trans netID_length'.symm) with ⟨rfl, tail'⟩
  rcases List.append_inj tail' (by simp only [length_leBytes]) with ⟨address, last⟩
  simp only [List.cons.injEq] at last
  rcases last with ⟨rfl, rfl, rfl⟩
  have address_eq : devAddr = devAddr' := by
    rw [← ofNat_leNat_leBytes32 devAddr, address, ofNat_leNat_leBytes32]
  subst address_eq
  rfl

/-- Bytes of the size of a join accept are a frame and a word. -/
theorem exists_body {bytes : List UInt8} (size : bytes.length = 17 ∨ bytes.length = 33) :
    ∃ (frame : JoinAcceptFrame) (mic : UInt32), bytes = frame.body ++ leBytes 4 mic.toNat := by
  obtain ⟨first, bytes1, rfl, first_length⟩ :=
    exists_piece (by omega : 1 ≤ bytes.length)
  simp only [List.length_append, first_length] at size
  obtain ⟨joinNonce, bytes2, rfl, joinNonce_length⟩ :=
    exists_piece (by omega : 3 ≤ bytes1.length)
  simp only [List.length_append, joinNonce_length] at size
  obtain ⟨netID, bytes3, rfl, netID_length⟩ :=
    exists_piece (by omega : 3 ≤ bytes2.length)
  simp only [List.length_append, netID_length] at size
  obtain ⟨address, bytes4, rfl, address_length⟩ :=
    exists_piece (by omega : 4 ≤ bytes3.length)
  simp only [List.length_append, address_length] at size
  obtain ⟨settings, bytes5, rfl, settings_length⟩ :=
    exists_piece (by omega : 1 ≤ bytes4.length)
  simp only [List.length_append, settings_length] at size
  obtain ⟨delay, bytes6, rfl, delay_length⟩ :=
    exists_piece (by omega : 1 ≤ bytes5.length)
  simp only [List.length_append, delay_length] at size
  obtain ⟨cfList, word, rfl, cfList_length⟩ :=
    exists_piece (by omega : bytes6.length - 4 ≤ bytes6.length)
  rw [List.length_append] at size cfList_length
  have word_length : word.length = 4 := by omega
  rcases List.length_eq_one_iff.mp first_length with ⟨mhdr, rfl⟩
  rcases List.length_eq_one_iff.mp settings_length with ⟨dlSettings, rfl⟩
  rcases List.length_eq_one_iff.mp delay_length with ⟨rxDelay, rfl⟩
  have cfList_cases : cfList.length = 0 ∨ cfList.length = loramacCfListFieldSize := by
    rw [loramacCfListFieldSize]
    omega
  refine ⟨⟨mhdr, joinNonce, netID, UInt32.ofNat (leNat address), dlSettings, rxDelay, cfList,
    joinNonce_length, netID_length, cfList_cases⟩, UInt32.ofNat (leNat word), ?_⟩
  simp only [body, rest, leBytes_toNat_ofNat32 address_length, leBytes_toNat_ofNat32 word_length,
    List.append_assoc]

section Encryption

variable {cipher : KeyedCipher κ} {decrypt : κ → Block → Block}

/-- What the device decrypts is what the server encrypted. -/
theorem decryptedFrame_encrypted
    (inverse : ∀ key block, cipher.aes key (decrypt key block) = block) (key : κ) :
    cipher.decryptedFrame key (frame.encrypted cipher decrypt key) =
      frame.body ++ leBytes 4 (cipher.mic key frame.body).toNat := by
  have whole : (frame.rest ++ leBytes 4 (cipher.mic key frame.body).toNat).length % 16 = 0 := by
    rw [List.length_append, length_rest, length_leBytes]
    rcases frame.cfList_length_cases with short | long <;> omega
  rw [KeyedCipher.decryptedFrame, encrypted]
  simp only [List.cons_append, List.nil_append, List.take_succ_cons, List.take_zero,
    List.drop_succ_cons, List.drop_zero]
  rw [ecbBytes_ecbBytes (inverse key) whole, body, List.append_assoc]
  rfl

theorem encrypted_injective
    (inverse : ∀ key block, cipher.aes key (decrypt key block) = block) (key : κ) :
    Function.Injective fun frame : JoinAcceptFrame => frame.encrypted cipher decrypt key := by
  intro frame other same
  have decrypted := congrArg (cipher.decryptedFrame key) same
  simp only [decryptedFrame_encrypted _ inverse] at decrypted
  have lengths := congrArg List.length decrypted
  simp only [List.length_append, length_leBytes, Nat.add_right_cancel_iff] at lengths
  exact body_injective (List.append_inj decrypted lengths).1

/-- The device accepts it, if it is for LoRaWAN 1.0. -/
theorem joinAccept_encrypted
    (inverse : ∀ key block, cipher.aes key (decrypt key block) = block) (key : κ) :
    cipher.JoinAccept key (frame.encrypted cipher decrypt key) ↔
      frame.dlSettings.toNat.testBit 7 = false := by
  have size : (frame.body ++ leBytes 4 (cipher.mic key frame.body).toNat).length - 4 =
      frame.body.length := by
    rw [List.length_append, length_leBytes]
    omega
  have length_cases : (frame.encrypted cipher decrypt key).length = 17 ∨
      (frame.encrypted cipher decrypt key).length = 33 := by
    rw [length_encrypted]
    rcases frame.cfList_length_cases with short | long <;> omega
  simp only [KeyedCipher.JoinAccept, frame.decryptedFrame_encrypted inverse, getD_body_append, size,
    List.drop_left, List.take_left, ofNat_leNat_leBytes32, and_true]
  exact and_iff_right length_cases

/-- Every join accept is one that the server could have sent. -/
theorem exists_encrypted (inverse : ∀ key block, decrypt key (cipher.aes key block) = block)
    {key : κ} {encJoinAccept : List UInt8} (accepted : cipher.JoinAccept key encJoinAccept) :
    ∃ frame : JoinAcceptFrame, encJoinAccept = frame.encrypted cipher decrypt key ∧
      frame.dlSettings.toNat.testBit 7 = false := by
  rcases accepted with ⟨size, version, mic_eq⟩
  have one_le : 1 ≤ encJoinAccept.length := by omega
  have whole : (encJoinAccept.drop 1).length % 16 = 0 := by
    rw [List.length_drop]
    omega
  have frame_length : (cipher.decryptedFrame key encJoinAccept).length = encJoinAccept.length := by
    rw [KeyedCipher.decryptedFrame, List.length_append, length_ecbBytes _ whole,
      ← List.length_append, List.take_append_drop]
  obtain ⟨frame, mic, frame_eq⟩ := exists_body (frame_length ▸ size)
  have body_size : (frame.body ++ leBytes 4 mic.toNat).length - 4 = frame.body.length := by
    rw [List.length_append, length_leBytes]
    omega
  rw [frame_eq, body_size, List.drop_left, List.take_left, ofNat_leNat_leBytes32] at mic_eq
  rw [frame_eq, getD_body_append] at version
  constructor
  · constructor
    · have parts : encJoinAccept.take 1 ++ ecbBytes (cipher.aes key) (encJoinAccept.drop 1) =
          [frame.mhdr] ++ (frame.rest ++ leBytes 4 (cipher.mic key frame.body).toNat) := by
        rw [← mic_eq, ← List.append_assoc]
        exact frame_eq
      rcases List.append_inj parts (List.length_take_of_le one_le) with ⟨first, tail⟩
      rw [encrypted, ← tail, ecbBytes_ecbBytes (inverse key) whole, ← first,
        List.take_append_drop]
    · exact version

end Encryption

end JoinAcceptFrame

/-- A parsed join accept carries what its frame does. -/
structure LoRaMacMessageJoinAccept.Holds (macMsg : LoRaMacMessageJoinAccept)
    (frame : JoinAcceptFrame) : Prop where
  mhdr : macMsg.mhdr = frame.mhdr
  joinNonce : macMsg.joinNonce = frame.joinNonce
  netID : macMsg.netID = frame.netID
  devAddr : macMsg.devAddr = frame.devAddr
  dlSettings : macMsg.dlSettings = frame.dlSettings
  rxDelay : macMsg.rxDelay = frame.rxDelay
  cfList : frame.cfList.length = loramacCfListFieldSize → macMsg.cfList = frame.cfList

theorem loRaMacParserJoinAccept_eq {macMsg : LoRaMacMessageJoinAccept} {frame : JoinAcceptFrame}
    (mic : UInt32) (stale : List UInt8)
    (received : macMsg.buffer = frame.body ++ leBytes 4 mic.toNat ++ stale)
    (size : macMsg.bufSize = frame.body.length + 4) :
    ∃ parsed, loRaMacParserJoinAccept macMsg = some (.success, parsed) ∧ parsed.Holds frame := by
  have nonce_length := frame.joinNonce_length
  have netID_length := frame.netID_length
  have spread : macMsg.buffer = frame.mhdr :: (frame.joinNonce ++ (frame.netID ++
      (leBytes 4 frame.devAddr.toNat ++ (frame.dlSettings :: frame.rxDelay :: (frame.cfList ++
        (leBytes 4 mic.toNat ++ stale)))))) := by
    rw [received]
    simp only [JoinAcceptFrame.body, JoinAcceptFrame.rest, List.append_assoc, List.cons_append,
      List.nil_append]
  have mhdr : macMsg.buffer[0]? = some frame.mhdr := getElem?_of_eq [] spread rfl
  have joinNonce : slice macMsg.buffer 1 3 = some frame.joinNonce :=
    slice_of_eq [frame.mhdr] spread rfl nonce_length.symm
  have netID : slice macMsg.buffer 4 3 = some frame.netID :=
    slice_of_eq (frame.mhdr :: frame.joinNonce) (by rw [spread]; rfl)
      (by simp [nonce_length]) netID_length.symm
  have devAddr : slice macMsg.buffer 7 4 = some (leBytes 4 frame.devAddr.toNat) :=
    slice_of_eq (frame.mhdr :: (frame.joinNonce ++ frame.netID)) (by simp [spread]; rfl)
      (by simp [nonce_length, netID_length]) (length_leBytes _ _).symm
  have dlSettings : macMsg.buffer[11]? = some frame.dlSettings :=
    getElem?_of_eq (frame.mhdr :: (frame.joinNonce ++ (frame.netID ++
      leBytes 4 frame.devAddr.toNat))) (by simp [spread]; rfl)
      (by simp [nonce_length, netID_length, length_leBytes])
  have rxDelay : macMsg.buffer[12]? = some frame.rxDelay :=
    getElem?_of_eq (frame.mhdr :: (frame.joinNonce ++ (frame.netID ++
      (leBytes 4 frame.devAddr.toNat ++ [frame.dlSettings])))) (by simp [spread]; rfl)
      (by simp [nonce_length, netID_length, length_leBytes])
  let front := frame.mhdr :: (frame.joinNonce ++ (frame.netID ++
    (leBytes 4 frame.devAddr.toNat ++ [frame.dlSettings, frame.rxDelay])))
  have front_length : front.length = 13 := by
    simp [front, nonce_length, netID_length, length_leBytes]
  have rest_eq : (macMsg.bufSize : ℤ) - (loramacMicFieldSize : ℕ) - 13 = frame.cfList.length := by
    rw [size, frame.length_body, loramacMicFieldSize]
    push_cast
    ring
  simp only [loRaMacParserJoinAccept, mhdr, joinNonce, netID, devAddr, dlSettings, rxDelay,
    Option.bind_eq_bind, Option.bind_some, Option.pure_def, rest_eq, ofNat_leNat_leBytes32]
  rcases frame.cfList_length with short | long
  · have word : slice macMsg.buffer 13 4 = some (leBytes 4 mic.toNat) := by
      have nil := List.length_eq_zero_iff.mp short
      exact slice_of_eq front (by simp [front, spread, nil]; rfl) front_length.symm
        (length_leBytes _ _).symm
    have not_long : ¬ ((0 : ℕ) : ℤ) = (loramacCfListFieldSize : ℕ) := by decide
    rw [short, if_neg not_long, if_neg (by decide)]
    simp only [word, Option.bind_some]
    refine ⟨_, rfl, rfl, rfl, rfl, rfl, rfl, rfl, ?_⟩
    intro long
    rw [short] at long
    cases long
  · have cfList : slice macMsg.buffer 13 16 = some frame.cfList :=
      slice_of_eq front (by simp [front, spread]; rfl) front_length.symm long.symm
    have word : slice macMsg.buffer 29 4 = some (leBytes 4 mic.toNat) := by
      refine slice_of_eq (front ++ frame.cfList) (by simp [front, spread]; rfl) ?_
        (length_leBytes _ _).symm
      rw [List.length_append, front_length, long, loramacCfListFieldSize]
    rw [long, if_pos rfl]
    simp only [cfList, word, Option.bind_some]
    exact ⟨_, rfl, rfl, rfl, rfl, rfl, rfl, rfl, fun _ => rfl⟩

/-! ## Keys -/

/-- The key for a type of session key. -/
def sessionKey (cipher : KeyedCipher κ) (key : κ) (first : UInt8)
    (joinNonce netID devNonce : List UInt8) : κ :=
  cipher.derive key (compBase (first :: (joinNonce ++ (netID ++ devNonce))))

section Lawful

variable {api : SecureElementApi σ} {cipher : KeyedCipher κ} {keys : σ → KeyIdentifier → κ}

theorem wp_deriveKey_session (lawful : api.Lawful cipher keys) (input : Block)
    {rootKeyID targetKeyID : KeyIdentifier} (ctx : LoRaMacCryptoCtx σ)
    (session : SessionKey rootKeyID targetKeyID) :
    wp (deriveKey api input rootKeyID targetKeyID) (fun status final =>
      status = .success ∧ final = { ctx with se := final.se } ∧
        keys final.se = Function.update (keys ctx.se) targetKeyID
          (cipher.derive (keys ctx.se rootKeyID) input)) ctx := by
  simp only [deriveKey, seCall, wp_bind, wp_zoom]
  refine wp_mono (lawful.deriveSessionKey ctx.se input _ _ session) ?_
  rintro _ final ⟨rfl, derived⟩
  simp only [ne_eq, not_true_eq_false, ↓reduceIte, wp_pure]
  exact ⟨trivial, trivial, derived⟩

theorem wp_deriveKey_root (lawful : api.Lawful cipher keys) (input : Block)
    {rootKeyID targetKeyID : KeyIdentifier} (ctx : LoRaMacCryptoCtx σ)
    (root : MulticastRoot rootKeyID targetKeyID) :
    wp (deriveKey api input rootKeyID targetKeyID) (fun status final =>
      status = .success ∧ final = { ctx with se := final.se } ∧
        ∀ keyID ≠ targetKeyID, keys final.se keyID = keys ctx.se keyID) ctx := by
  simp only [deriveKey, seCall, wp_bind, wp_zoom]
  refine wp_mono (lawful.deriveMulticastRoot ctx.se input _ _ root) ?_
  rintro _ final ⟨rfl, others⟩
  simp only [ne_eq, not_true_eq_false, ↓reduceIte, wp_pure]
  exact ⟨trivial, trivial, others⟩

/-- The session keys that follow from a join accept. -/
structure SessionKeys (cipher : KeyedCipher κ) (key : κ) (joinNonce netID devNonce : List UInt8)
    (sessionKeys : KeyIdentifier → κ) : Prop where
  root : sessionKeys .nwkKey = key
  appSKey : sessionKeys .appSKey = sessionKey cipher key 0x02 joinNonce netID devNonce
  nwkSKey : sessionKeys .nwkSKey = sessionKey cipher key 0x01 joinNonce netID devNonce

theorem wp_deriveJoinKeys (lawful : api.Lawful cipher keys) (macMsg : LoRaMacMessageJoinAccept)
    (ctx : LoRaMacCryptoCtx σ) :
    wp (deriveJoinKeys api macMsg) (fun status final =>
      status = .success ∧ final = { ctx with se := final.se } ∧
        SessionKeys cipher (keys ctx.se .nwkKey) macMsg.joinNonce macMsg.netID
          (leBytes 2 ctx.devNonce.toNat) (keys final.se)) ctx := by
  simp only [deriveJoinKeys, loRaMacCryptoDeriveMcRootKey, loRaMacCryptoDeriveMcKEKey,
    deriveSessionKey10x, sessionKeyType, ne_eq, not_true_eq_false, ↓reduceIte, wp_bind]
  refine wp_mono (wp_deriveKey_root lawful _ ctx (.inl ⟨rfl, rfl⟩)) ?_
  rintro _ first ⟨rfl, first_eq, first_keys⟩
  simp only [not_true_eq_false, ↓reduceIte, wp_bind]
  refine wp_mono (wp_deriveKey_root lawful _ first (.inr ⟨rfl, rfl⟩)) ?_
  rintro _ second ⟨rfl, second_eq, second_keys⟩
  have devNonce : second.devNonce = ctx.devNonce := by
    rw [second_eq, first_eq]
  have root : keys second.se .nwkKey = keys ctx.se .nwkKey :=
    (second_keys _ (by decide)).trans (first_keys _ (by decide))
  simp only [not_true_eq_false, ↓reduceIte, wp_bind, wp_gets, devNonce]
  refine wp_mono (wp_deriveKey_session lawful _ second (.inl ⟨rfl, .inl rfl⟩)) ?_
  rintro _ third ⟨rfl, third_eq, third_keys⟩
  have third_root : keys third.se .nwkKey = keys ctx.se .nwkKey := by
    rw [third_keys, Function.update_of_ne (by decide), root]
  simp only [not_true_eq_false, ↓reduceIte]
  refine wp_mono (wp_deriveKey_session lawful _ third (.inl ⟨rfl, .inr rfl⟩)) ?_
  rintro _ final ⟨rfl, final_eq, final_keys⟩
  constructor
  · rfl
  · constructor
    · rw [final_eq, third_eq, second_eq, first_eq]
    · constructor
      · rw [final_keys, Function.update_of_ne (by decide), third_root]
      · rw [final_keys, Function.update_of_ne (by decide), third_keys, Function.update_self, root]
        rfl
      · rw [final_keys, Function.update_self, third_root]
        rfl

/-! ## Join accepts -/

/-- The state of a device that has joined with a frame. -/
structure Joined (cipher : KeyedCipher κ) (keys : σ → KeyIdentifier → κ) (frame : JoinAcceptFrame)
    (ctx final : LoRaMacCryptoCtx σ) : Prop where
  sessionKeys : SessionKeys cipher (keys ctx.se .nwkKey) frame.joinNonce frame.netID
    (leBytes 2 ctx.devNonce.toNat) (keys final.se)
  minor : final.minor = 0
  fCntList : final.fCntList = ctx.fCntList.joined

/-- What `LoRaMacCryptoHandleJoinAccept` does with the bytes that are received:
it accepts what the server could have sent and joins with it, and of anything
else only the bytes of the message may change. -/
structure JoinAcceptHandled (cipher : KeyedCipher κ) (decrypt : κ → Block → Block)
    (keys : σ → KeyIdentifier → κ) (encJoinAccept : List UInt8) (ctx : LoRaMacCryptoCtx σ)
    (result : LoRaMacCryptoStatus × LoRaMacMessageJoinAccept) (final : LoRaMacCryptoCtx σ) :
    Prop where
  success_iff : result.1 = .success ↔ ∃ frame : JoinAcceptFrame,
    frame.dlSettings.toNat.testBit 7 = false ∧
      encJoinAccept = frame.encrypted cipher decrypt (keys ctx.se .nwkKey)
  joined : ∀ frame : JoinAcceptFrame, frame.dlSettings.toNat.testBit 7 = false →
    encJoinAccept = frame.encrypted cipher decrypt (keys ctx.se .nwkKey) →
      result.2.Holds frame ∧ Joined cipher keys frame ctx final
  refused : result.1 ≠ .success →
    keys final.se = keys ctx.se ∧ final = { ctx with se := final.se }

theorem loRaMacCryptoHandleJoinAccept_spec {decrypt : κ → Block → Block}
    (lawful : api.Lawful cipher keys)
    (inverse : ∀ key block, cipher.aes key (decrypt key block) = block)
    (converse : ∀ key block, decrypt key (cipher.aes key block) = block)
    (macMsg : LoRaMacMessageJoinAccept) (ctx : LoRaMacCryptoCtx σ)
    (size : 17 ≤ macMsg.bufSize) (inside : macMsg.bufSize ≤ macMsg.buffer.length) :
    wp (loRaMacCryptoHandleJoinAccept api macMsg)
      (JoinAcceptHandled cipher decrypt keys (macMsg.buffer.take macMsg.bufSize) ctx) ctx := by
  have read : slice macMsg.buffer 0 macMsg.bufSize =
      some (macMsg.buffer.take macMsg.bufSize) := by
    rw [slice_eq_some (by omega), List.drop_zero]
  have length_eq : (macMsg.buffer.take macMsg.bufSize).length = macMsg.bufSize :=
    List.length_take_of_le inside
  have law := lawful.processJoinAccept ctx.se (macMsg.buffer.take macMsg.bufSize) (by omega)
  simp only [loRaMacCryptoHandleJoinAccept, seCall, wp_bind, wp_lift, wp_zoom, read,
    Option.some.injEq, exists_eq_left']
  refine wp_mono law ?_
  rintro ⟨status, output⟩ state ⟨accepts, decrypted, keys_eq⟩
  by_cases success : status = .success
  · subst success
    have accepted := accepts.mp rfl
    obtain ⟨frame, frame_eq, version⟩ := JoinAcceptFrame.exists_encrypted converse accepted
    have output_eq : output = (frame.body ++
        leBytes 4 (cipher.mic (keys ctx.se .nwkKey) frame.body).toNat, 0) := by
      have equal := decrypted rfl
      rw [frame_eq, frame.decryptedFrame_encrypted inverse] at equal
      exact equal
    subst output_eq
    have frame_length : (frame.body ++
        leBytes 4 (cipher.mic (keys ctx.se .nwkKey) frame.body).toNat).length = macMsg.bufSize := by
      rw [← length_eq, frame_eq, frame.length_encrypted, List.length_append, frame.length_body,
        length_leBytes]
      omega
    have written := overwrite_zero (frame_length.trans_le inside)
    have body_size : macMsg.bufSize = frame.body.length + 4 := by
      rw [← frame_length, List.length_append, length_leBytes]
    have parse : ∃ parsed, loRaMacParserJoinAccept { macMsg with
        buffer := frame.body ++ leBytes 4 (cipher.mic (keys ctx.se .nwkKey) frame.body).toNat ++
          macMsg.buffer.drop (frame.body ++
            leBytes 4 (cipher.mic (keys ctx.se .nwkKey) frame.body).toNat).length } =
        some (.success, parsed) ∧ parsed.Holds frame :=
      loRaMacParserJoinAccept_eq _ _ rfl body_size
    obtain ⟨parsed, parsed_eq, holds⟩ := parse
    simp only [ne_eq, not_true_eq_false, ↓reduceIte, wp_bind, wp_lift, written, parsed_eq,
      Option.some.injEq, exists_eq_left']
    refine wp_mono (wp_deriveJoinKeys lawful parsed { ctx with se := state }) ?_
    rintro _ final ⟨rfl, final_eq, session⟩
    simp only [not_true_eq_false, ↓reduceIte, wp_bind, wp_modify, eventCryptoNvmCtxChanged,
      wp_pure]
    constructor
    · simp only [true_iff]
      exact ⟨frame, version, frame_eq⟩
    · intro other _ other_eq
      have same : other = frame :=
        JoinAcceptFrame.encrypted_injective inverse _ (other_eq.symm.trans frame_eq)
      subst same
      constructor
      · exact holds
      · constructor
        · rw [← holds.joinNonce, ← holds.netID, ← keys_eq]
          exact session
        · rfl
        · have counters : final.fCntList = ctx.fCntList := by rw [final_eq]
          exact congrArg FCntList.joined counters
    · simp
  · have no_frame : ¬ cipher.JoinAccept (keys ctx.se .nwkKey)
        (macMsg.buffer.take macMsg.bufSize) := fun accepted => success (accepts.mpr accepted)
    have not_sent : ∀ frame : JoinAcceptFrame, frame.dlSettings.toNat.testBit 7 = false →
        macMsg.buffer.take macMsg.bufSize ≠
          frame.encrypted cipher decrypt (keys ctx.se .nwkKey) := by
      intro frame version equal
      rw [equal] at no_frame
      exact no_frame ((frame.joinAccept_encrypted inverse _).mpr version)
    simp only [success, ne_eq, not_false_eq_true, ↓reduceIte, wp_pure]
    constructor
    · simp only [reduceCtorEq, false_iff]
      rintro ⟨frame, version, equal⟩
      exact not_sent frame version equal
    · intro frame version equal
      exact absurd equal (not_sent frame version)
    · intro _
      exact ⟨keys_eq, rfl⟩

/-! ## Join requests -/

/-- The bytes of a join request before its MIC. -/
def LoRaMacMessageJoinRequest.body (macMsg : LoRaMacMessageJoinRequest) : List UInt8 :=
  [macMsg.mhdr] ++ ((macMsg.joinEUI.take 8).reverse ++ ((macMsg.devEUI.take 8).reverse ++
    leBytes 2 macMsg.devNonce.toNat))

/-- The identifiers of a join request are whole, and its buffer has room. -/
structure LoRaMacMessageJoinRequest.Whole (macMsg : LoRaMacMessageJoinRequest) : Prop where
  joinEUI : 8 ≤ macMsg.joinEUI.length
  devEUI : 8 ≤ macMsg.devEUI.length
  fits : loramacJoinReqMsgSize ≤ macMsg.bufSize
  inside : macMsg.bufSize ≤ macMsg.buffer.length

theorem LoRaMacMessageJoinRequest.Whole.length_body {macMsg : LoRaMacMessageJoinRequest}
    (whole : macMsg.Whole) : macMsg.body.length = 19 := by
  simp only [LoRaMacMessageJoinRequest.body, List.length_append, List.length_reverse,
    List.length_take_of_le whole.joinEUI, List.length_take_of_le whole.devEUI, length_leBytes,
    List.length_singleton]

/-- The nonce lies behind the two identifiers. -/
theorem LoRaMacMessageJoinRequest.Whole.drop_body {macMsg : LoRaMacMessageJoinRequest}
    (whole : macMsg.Whole) (tail : List UInt8) :
    (macMsg.body ++ tail).drop 17 = leBytes 2 macMsg.devNonce.toNat ++ tail := by
  have front_length : ([macMsg.mhdr] ++ ((macMsg.joinEUI.take 8).reverse ++
      (macMsg.devEUI.take 8).reverse)).length = 17 := by
    simp only [List.length_append, List.length_reverse, List.length_take_of_le whole.joinEUI,
      List.length_take_of_le whole.devEUI, List.length_singleton]
  have split : macMsg.body ++ tail = ([macMsg.mhdr] ++ ((macMsg.joinEUI.take 8).reverse ++
      (macMsg.devEUI.take 8).reverse)) ++ (leBytes 2 macMsg.devNonce.toNat ++ tail) := by
    simp only [body, List.append_assoc]
  rw [split, List.drop_left' front_length]

theorem loRaMacSerializerJoinRequest_eq {macMsg : LoRaMacMessageJoinRequest}
    (whole : macMsg.Whole) :
    loRaMacSerializerJoinRequest macMsg = some (.success, { macMsg with
      buffer := macMsg.body ++ leBytes 4 macMsg.mic.toNat ++ macMsg.buffer.drop 23
      bufSize := 23 }) := by
  have joinEUI : slice macMsg.joinEUI 0 8 = some (macMsg.joinEUI.take 8) :=
    slice_eq_some (by simpa using whole.joinEUI)
  have devEUI : slice macMsg.devEUI 0 8 = some (macMsg.devEUI.take 8) :=
    slice_eq_some (by simpa using whole.devEUI)
  have bytes_eq : [macMsg.mhdr] ++ ((macMsg.joinEUI.take 8).reverse ++
      ((macMsg.devEUI.take 8).reverse ++ (leBytes 2 macMsg.devNonce.toNat ++
        leBytes 4 macMsg.mic.toNat))) = macMsg.body ++ leBytes 4 macMsg.mic.toNat := by
    simp only [LoRaMacMessageJoinRequest.body, List.append_assoc]
  have bytes_length : (macMsg.body ++ leBytes 4 macMsg.mic.toNat).length = 23 := by
    rw [List.length_append, whole.length_body, length_leBytes]
  have room : (macMsg.body ++ leBytes 4 macMsg.mic.toNat).length ≤ macMsg.buffer.length := by
    have fits := whole.fits
    have inside := whole.inside
    rw [loramacJoinReqMsgSize] at fits
    omega
  rw [loRaMacSerializerJoinRequest, if_neg (not_lt.mpr whole.fits)]
  simp only [joinEUI, devEUI, Option.bind_eq_bind, Option.bind_some, bytes_eq,
    overwrite_zero room, bytes_length, Option.pure_def]

/-- `LoRaMacCryptoPrepareJoinRequest` signs the request with the root key and
keeps its nonce. -/
theorem wp_loRaMacCryptoPrepareJoinRequest (lawful : api.Lawful cipher keys) (randomNum : UInt32)
    {macMsg : LoRaMacMessageJoinRequest} (ctx : LoRaMacCryptoCtx σ) (whole : macMsg.Whole) :
    wp (loRaMacCryptoPrepareJoinRequest api randomNum macMsg) (fun result final =>
      let request := { macMsg with devNonce := low16 randomNum }
      result.1 = .success ∧
        result.2.buffer.take result.2.bufSize =
          request.body ++ leBytes 4 (cipher.mic (keys ctx.se .nwkKey) request.body).toNat ∧
        final.devNonce = low16 randomNum ∧ keys final.se = keys ctx.se ∧
        final.fCntList = ctx.fCntList) ctx := by
  have request_whole : ({ macMsg with devNonce := low16 randomNum } :
      LoRaMacMessageJoinRequest).Whole :=
    ⟨whole.joinEUI, whole.devEUI, whole.fits, whole.inside⟩
  have body_length := request_whole.length_body
  have size_eq : loramacJoinReqMsgSize - loramacMicFieldSize = 19 := rfl
  let request : LoRaMacMessageJoinRequest := { macMsg with devNonce := low16 randomNum }
  have read : slice (request.body ++ leBytes 4 macMsg.mic.toNat ++ macMsg.buffer.drop 23) 0 19 =
      some request.body := slice_of_eq [] (List.append_assoc _ _ _) rfl body_length.symm
  let signed := cipher.mic (keys ctx.se .nwkKey) request.body
  -- The buffer holds the request without its MIC before it is serialised again.
  have again_whole : ({ request with
      buffer := request.body ++ leBytes 4 macMsg.mic.toNat ++ macMsg.buffer.drop 23
      bufSize := 23
      mic := signed } : LoRaMacMessageJoinRequest).Whole := by
    constructor
    · exact whole.joinEUI
    · exact whole.devEUI
    · exact le_refl 23
    · simp only [List.length_append, request, body_length, length_leBytes]
      omega
  simp only [loRaMacCryptoPrepareJoinRequest, eventCryptoNvmCtxChanged, seCall, wp_bind, wp_modify,
    wp_gets, wp_lift, loRaMacSerializerJoinRequest_eq request_whole, Option.some.injEq,
    exists_eq_left', ne_eq, not_true_eq_false, ↓reduceIte, size_eq]
  refine ⟨request.body, read, ?_⟩
  rw [wp_zoom]
  refine wp_mono (lawful.computeAesCmac ctx.se none request.body .nwkKey (by decide)) ?_
  rintro _ state ⟨rfl, keys_eq⟩
  simp only [not_true_eq_false, ↓reduceIte, wp_bind, wp_lift, Option.getD_some, bxBytes,
    List.nil_append]
  refine ⟨_, loRaMacSerializerJoinRequest_eq again_whole, ?_⟩
  simp only [not_true_eq_false, ↓reduceIte, wp_pure]
  refine ⟨trivial, ?_, trivial, keys_eq, trivial⟩
  have whole_length : (request.body ++ leBytes 4 signed.toNat).length = 23 := by
    simp only [List.length_append, request, body_length, length_leBytes]
  exact List.take_left' whole_length

/-- The session key that a server derives for a request it received and the
frame it answers with. -/
def serverSessionKey (cipher : KeyedCipher κ) (key : κ) (first : UInt8) (frame : JoinAcceptFrame)
    (request : List UInt8) : κ :=
  sessionKey cipher key first frame.joinNonce frame.netID ((request.drop 17).take 2)

/-- A device whose request reaches the server, and which gets its answer, has
the session keys of the server and counters that start again. -/
theorem join_agreement {decrypt : κ → Block → Block} (lawful : api.Lawful cipher keys)
    (inverse : ∀ key block, cipher.aes key (decrypt key block) = block)
    (converse : ∀ key block, decrypt key (cipher.aes key block) = block)
    (randomNum : UInt32) {macMsg : LoRaMacMessageJoinRequest} (whole : macMsg.Whole)
    (frame : JoinAcceptFrame) (version : frame.dlSettings.toNat.testBit 7 = false)
    {received : LoRaMacMessageJoinAccept} {stale : List UInt8} (ctx : LoRaMacCryptoCtx σ)
    (received_eq : received.buffer = frame.encrypted cipher decrypt (keys ctx.se .nwkKey) ++ stale)
    (size : received.bufSize = (frame.encrypted cipher decrypt (keys ctx.se .nwkKey)).length) :
    wp (do
      let (prepared, request) ← loRaMacCryptoPrepareJoinRequest api randomNum macMsg
      let (handled, accepted) ← loRaMacCryptoHandleJoinAccept api received
      pure (prepared, request.buffer.take request.bufSize, handled, accepted))
      (fun (prepared, request, handled, accepted) final =>
        prepared = .success ∧ handled = .success ∧ accepted.Holds frame ∧
        UInt32.ofNat (leNat (request.drop 19)) =
          cipher.mic (keys ctx.se .nwkKey) (request.take 19) ∧
        keys final.se .appSKey =
          serverSessionKey cipher (keys ctx.se .nwkKey) 0x02 frame request ∧
        keys final.se .nwkSKey =
          serverSessionKey cipher (keys ctx.se .nwkKey) 0x01 frame request ∧
        final.fCntList = ctx.fCntList.joined ∧ final.minor = 0) ctx := by
  have request_whole : ({ macMsg with devNonce := low16 randomNum } :
      LoRaMacMessageJoinRequest).Whole :=
    ⟨whole.joinEUI, whole.devEUI, whole.fits, whole.inside⟩
  have body_length := request_whole.length_body
  have taken : received.buffer.take received.bufSize =
      frame.encrypted cipher decrypt (keys ctx.se .nwkKey) := by
    rw [received_eq, size, List.take_left]
  have size_ge : 17 ≤ received.bufSize := by
    rw [size, frame.length_encrypted]
    omega
  have inside : received.bufSize ≤ received.buffer.length := by
    rw [received_eq, size, List.length_append]
    omega
  rw [wp_bind]
  refine wp_mono (wp_loRaMacCryptoPrepareJoinRequest lawful randomNum ctx whole) ?_
  rintro ⟨prepared, request⟩ middle ⟨prepared_eq, bytes_eq, devNonce, keys_eq, counters⟩
  rw [wp_bind]
  refine wp_mono (loRaMacCryptoHandleJoinAccept_spec lawful inverse converse received middle
    size_ge inside) ?_
  rintro ⟨handled, accepted⟩ final handled_spec
  rw [taken] at handled_spec
  have success : handled = .success := handled_spec.success_iff.mpr ⟨frame, version, by rw [keys_eq]⟩
  rcases handled_spec.joined frame version (by rw [keys_eq]) with ⟨holds, joined⟩
  have session := joined.sessionKeys
  rw [keys_eq, devNonce] at session
  simp only at bytes_eq prepared_eq
  rw [wp_pure]
  simp only [bytes_eq]
  have nonce_eq := request_whole.drop_body (leBytes 4 (cipher.mic (keys ctx.se .nwkKey)
    ({ macMsg with devNonce := low16 randomNum } : LoRaMacMessageJoinRequest).body).toNat)
  refine ⟨prepared_eq, success, holds, ?_, ?_, ?_, ?_, joined.minor⟩
  · rw [List.drop_left' body_length, List.take_left' body_length, ofNat_leNat_leBytes32]
  · rw [serverSessionKey, nonce_eq, List.take_left' (length_leBytes _ _)]
    exact session.appSKey
  · rw [serverSessionKey, nonce_eq, List.take_left' (length_leBytes _ _)]
    exact session.nwkSKey
  · rw [joined.fCntList, counters]

end Lawful

/-- A device that has not joined, with its keys in software. -/
def sampleCrypto : LoRaMacCryptoCtx SoftSe.SeNvmCtx where
  minor := 0
  devNonce := 6
  fCntList := ⟨17, 3, 4, 5, 6⟩
  lastDownFCnt := .fCntDown
  announced := 0
  se := SoftSe.sampleKeys

/-- A request before it is prepared. -/
def sampleJoinRequest : LoRaMacMessageJoinRequest where
  buffer := List.replicate 255 0
  bufSize := 255
  mhdr := 0
  joinEUI := [0x70, 0xB3, 0xD5, 0x7E, 0xD0, 0, 0, 1]
  devEUI := [0x00, 0x04, 0xA3, 0x0B, 0, 0x1A, 0x2B, 0x3C]
  devNonce := 0
  mic := 0

/-- What a server answers, without a list of channels. -/
def sampleJoinFrame : JoinAcceptFrame where
  mhdr := 0x20
  joinNonce := [1, 0, 0]
  netID := [0x13, 0, 0]
  devAddr := 0x26011234
  dlSettings := 0x03
  rxDelay := 5
  cfList := []
  joinNonce_length := rfl
  netID_length := rfl
  cfList_length := .inl rfl

/-- Its bytes, in front of others. -/
def sampleJoinAccept : LoRaMacMessageJoinAccept where
  buffer := sampleJoinFrame.encrypted (SoftSe.softCipher SoftSe.maskAes) SoftSe.maskAes
    (SoftSe.sampleKeys.keys .nwkKey) ++ [0xFF, 0xFF]
  bufSize := 17
  mhdr := 0
  joinNonce := []
  netID := []
  devAddr := 0
  dlSettings := 0
  rxDelay := 0
  cfList := []
  mic := 0

/-- The device joins with that frame. -/
theorem join_agreement_sample :
    wp (do
      let (prepared, request) ←
        loRaMacCryptoPrepareJoinRequest (SoftSe.softSe SoftSe.maskAes zeroBlock) 7 sampleJoinRequest
      let (handled, accepted) ←
        loRaMacCryptoHandleJoinAccept (SoftSe.softSe SoftSe.maskAes zeroBlock) sampleJoinAccept
      pure (prepared, request.buffer.take request.bufSize, handled, accepted))
      (fun (prepared, request, handled, accepted) final =>
        prepared = .success ∧ handled = .success ∧ accepted.Holds sampleJoinFrame ∧
        UInt32.ofNat (leNat (request.drop 19)) =
          (SoftSe.softCipher SoftSe.maskAes).mic (SoftSe.sampleKeys.keys .nwkKey)
            (request.take 19) ∧
        final.se.keys .appSKey = serverSessionKey (SoftSe.softCipher SoftSe.maskAes)
          (SoftSe.sampleKeys.keys .nwkKey) 0x02 sampleJoinFrame request ∧
        final.se.keys .nwkSKey = serverSessionKey (SoftSe.softCipher SoftSe.maskAes)
          (SoftSe.sampleKeys.keys .nwkKey) 0x01 sampleJoinFrame request ∧
        final.fCntList = sampleCrypto.fCntList.joined ∧ final.minor = 0) sampleCrypto := by
  have lawful : (SoftSe.softSe SoftSe.maskAes zeroBlock).Lawful (SoftSe.softCipher SoftSe.maskAes)
      SoftSe.SeNvmCtx.keys := SoftSe.softSe_lawful
  have inverse : ∀ key block, (SoftSe.softCipher SoftSe.maskAes).aes key
      (SoftSe.maskAes key block) = block := SoftSe.maskAes_maskAes
  have converse : ∀ key block, SoftSe.maskAes key
      ((SoftSe.softCipher SoftSe.maskAes).aes key block) = block := SoftSe.maskAes_maskAes
  have whole : sampleJoinRequest.Whole :=
    ⟨by decide, by decide, by decide, List.length_replicate.ge⟩
  have received : sampleJoinAccept.buffer = sampleJoinFrame.encrypted
      (SoftSe.softCipher SoftSe.maskAes) SoftSe.maskAes
        (SoftSe.SeNvmCtx.keys sampleCrypto.se .nwkKey) ++ [0xFF, 0xFF] := by
    rw [sampleJoinAccept, sampleCrypto]
  have size : sampleJoinAccept.bufSize = (sampleJoinFrame.encrypted
      (SoftSe.softCipher SoftSe.maskAes) SoftSe.maskAes
        (SoftSe.SeNvmCtx.keys sampleCrypto.se .nwkKey)).length :=
    (sampleJoinFrame.length_encrypted _ _ _).symm
  have version : sampleJoinFrame.dlSettings.toNat.testBit 7 = false := by decide
  exact join_agreement lawful inverse converse 7 whole sampleJoinFrame version sampleCrypto
    received size

end GenericNode.LoRaMac
