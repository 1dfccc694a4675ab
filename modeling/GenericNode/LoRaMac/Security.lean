import GenericNode.LoRaMac.Crypto
import GenericNode.LoRaMac.RoundTrip

/-!
# What the security functions compute

With a lawful secure element the payload of a frame is added to a stream that
depends on the key, the address, the direction and the counter, and the MIC
authenticates the same and every byte before it.
-/

namespace GenericNode.LoRaMac

open GenericNode.Library
open GenericNode.Library.Prog
open GenericNode.SecureElement

variable {σ κ : Type}

/-! ## Streams and codes -/

/-- The blocks added to the payload of a frame. -/
def keystream (cipher : KeyedCipher κ) (key : κ) (address : UInt32) (dir : UInt8)
    (frameCounter : UInt32) (index : ℕ) : Block :=
  cipher.aes key (aBlock address dir frameCounter (index + 1))

/-- The MIC of a message. -/
def messageMic (cipher : KeyedCipher κ) (key : κ) (dir : UInt8) (devAddr fCnt : UInt32)
    (message : List UInt8) : UInt32 :=
  cipher.mic key (List.ofFn (prepareB0 message.length dir devAddr fCnt) ++ message)

namespace DataFrame

/-- The frame with a stream added to its payload. -/
def crypt (frame : DataFrame) (blocks : ℕ → Block) : DataFrame :=
  { frame with
    content := frame.content.map fun content => (content.1, xorStream blocks content.2)
    payload_ne := by
      intro port payload encrypted
      obtain ⟨⟨port', payload'⟩, content, equal⟩ := Option.map_eq_some_iff.mp encrypted
      cases equal
      intro nil
      have length_eq := length_xorStream blocks payload'
      rw [nil] at length_eq
      exact frame.payload_ne _ _ content (List.length_eq_zero_iff.mp length_eq.symm) }

/-- The frame with a MIC. -/
def signed (frame : DataFrame) (mic : UInt32) : DataFrame :=
  { frame with mic := mic }

/-- The identifier of the key for the payload, where `appSkey` is that of the
application. -/
def payloadKeyID (frame : DataFrame) (appSkey : KeyIdentifier) : KeyIdentifier :=
  if frame.portBytes = [0] then .nwkSKey else appSkey

variable (frame : DataFrame) (blocks : ℕ → Block)

theorem portBytes_crypt : (frame.crypt blocks).portBytes = frame.portBytes := by
  cases content : frame.content <;> simp [crypt, portBytes, content]

theorem payload_crypt : (frame.crypt blocks).payload = xorStream blocks frame.payload := by
  cases content : frame.content <;> simp [crypt, payload, content, xorStream]

/-- Adding the stream twice gives the frame back. -/
theorem crypt_crypt : (frame.crypt blocks).crypt blocks = frame := by
  cases content : frame.content <;> cases frame <;> simp_all [crypt]

theorem length_bytes_crypt : (frame.crypt blocks).bytes.length = frame.bytes.length := by
  rw [length_bytes, length_bytes, portBytes_crypt, payload_crypt, length_xorStream]
  rfl

theorem length_bytes_signed (mic : UInt32) :
    (frame.signed mic).bytes.length = frame.bytes.length := by
  rw [length_bytes, length_bytes]
  rfl

end DataFrame

/-- What a security function leaves of the context but for the counters. -/
structure SameKeys (keys : σ → KeyIdentifier → κ) (ctx final : LoRaMacCryptoCtx σ) : Prop where
  minor : final.minor = ctx.minor
  devNonce : final.devNonce = ctx.devNonce
  keys : keys final.se = keys ctx.se

/-- What the secure element leaves of the context. -/
structure SameCounters (keys : σ → KeyIdentifier → κ) (ctx final : LoRaMacCryptoCtx σ) : Prop
    extends SameKeys keys ctx final where
  fCntList : final.fCntList = ctx.fCntList

theorem SameKeys.refl {keys : σ → KeyIdentifier → κ} (ctx : LoRaMacCryptoCtx σ) :
    SameKeys keys ctx ctx :=
  ⟨rfl, rfl, rfl⟩

theorem SameKeys.trans {keys : σ → KeyIdentifier → κ} {first second third : LoRaMacCryptoCtx σ}
    (same : SameKeys keys first second) (also : SameKeys keys second third) :
    SameKeys keys first third :=
  ⟨also.minor.trans same.minor, also.devNonce.trans same.devNonce, also.keys.trans same.keys⟩

theorem SameKeys.symm {keys : σ → KeyIdentifier → κ} {ctx final : LoRaMacCryptoCtx σ}
    (same : SameKeys keys ctx final) : SameKeys keys final ctx :=
  ⟨same.minor.symm, same.devNonce.symm, same.keys.symm⟩

theorem SameCounters.refl {keys : σ → KeyIdentifier → κ} (ctx : LoRaMacCryptoCtx σ) :
    SameCounters keys ctx ctx :=
  ⟨.refl ctx, rfl⟩

theorem SameCounters.trans {keys : σ → KeyIdentifier → κ}
    {first second third : LoRaMacCryptoCtx σ} (same : SameCounters keys first second)
    (also : SameCounters keys second third) : SameCounters keys first third :=
  ⟨same.toSameKeys.trans also.toSameKeys, also.fCntList.trans same.fCntList⟩

section Lawful

variable {api : SecureElementApi σ} {cipher : KeyedCipher κ} {keys : σ → KeyIdentifier → κ}

/-- `PayloadEncrypt` adds the stream to the payload. -/
theorem wp_payloadEncrypt (lawful : api.Lawful cipher keys) {buffer : List UInt8} {size : ℕ}
    {keyID : KeyIdentifier} (address : UInt32) (dir : UInt8) (frameCounter : UInt32)
    (ctx : LoRaMacCryptoCtx σ) (inside : size ≤ buffer.length) (small : size < 256)
    (known : keyID ≠ .noKey) :
    wp (payloadEncrypt api buffer size keyID address dir frameCounter) (fun result final =>
      result = (.success, xorUpTo
        (keystream cipher (keys ctx.se keyID) address dir frameCounter) size buffer) ∧
        SameCounters keys ctx final) ctx := by
  let stream := keystream cipher (keys ctx.se keyID) address dir frameCounter
  -- After `block` turns the stream is added to the first `16 * block` bytes.
  let inv : List UInt8 × ℕ × ℕ × ℕ → LoRaMacCryptoCtx σ → Prop := fun value final =>
    ∃ block, 16 * block < size + 16 ∧
      value = (xorUpTo stream (min (16 * block) size) buffer, 16 * block % 2 ^ 8, block + 1,
        size - 16 * block) ∧ SameCounters keys ctx final
  apply wp_loop inv (fun value _ => value.2.2.2)
  · rintro _ state ⟨block, bounded, rfl, same⟩
    by_cases more : 0 < size - 16 * block
    · have law := lawful.aesEncrypt state.se (aBlock address dir frameCounter (block + 1)) keyID known
      simp only [more, ↓reduceIte, seCall, wp_bind, wp_zoom]
      refine wp_mono law ?_
      rintro _ final ⟨rfl, keys_eq⟩
      have index_eq : 16 * block % 2 ^ 8 = 16 * block := by omega
      have done_eq : min (16 * block) size = 16 * block := by omega
      have room : 16 * block + min 16 (size - 16 * block) ≤ buffer.length := by omega
      simp only [ne_eq, not_true_eq_false, ↓reduceIte, wp_bind, wp_lift, xorAt, index_eq, done_eq,
        length_xorUpTo, room, Option.some.injEq, exists_eq_left', wp_pure]
      have block_eq : cipher.aes (keys state.se keyID) (aBlock address dir frameCounter (block + 1)) =
          stream block := by
        rw [same.keys]
        rfl
      rw [block_eq, xorUpTo_block stream buffer (by omega)]
      refine ⟨⟨block + 1, by omega, ?_, same.trans ⟨⟨rfl, rfl, keys_eq⟩, rfl⟩⟩, by omega⟩
      have reached : 16 * block + min 16 (size - 16 * block) = min (16 * (block + 1)) size := by omega
      have index_next : (16 * block + 16) % 2 ^ 8 = 16 * (block + 1) % 2 ^ 8 := by omega
      have ctr_next : (block + 1 + 1) % 2 ^ 16 = block + 1 + 1 := by omega
      have rest : size - 16 * block - 16 = size - 16 * (block + 1) := by omega
      rw [reached, index_next, ctr_next, rest]
    · simp only [more, ↓reduceIte, wp_pure]
      have all : min (16 * block) size = size := by omega
      rw [all]
      exact ⟨rfl, same⟩
  · simp
  · refine ⟨0, by omega, ?_, .refl ctx⟩
    simp [xorUpTo_zero]

/-- `ComputeCmacB0` computes the MIC of the message. -/
theorem wp_computeCmacB0 (lawful : api.Lawful cipher keys) {msg bytes : List UInt8} {len : ℕ}
    {keyID : KeyIdentifier} (dir : UInt8) (devAddr fCnt : UInt32) (ctx : LoRaMacCryptoCtx σ)
    (read : slice msg 0 len = some bytes) (small : len ≤ cryptoMaxmessageSize)
    (single : keyID.value < loramacCryptoMulticastKeys) :
    wp (computeCmacB0 api msg len keyID dir devAddr fCnt) (fun result final =>
      result = (.success, some (messageMic cipher (keys ctx.se keyID) dir devAddr fCnt bytes)) ∧
        SameCounters keys ctx final) ctx := by
  have length_eq := length_of_slice read
  have law := lawful.computeAesCmac ctx.se (some (prepareB0 len dir devAddr fCnt)) bytes keyID single
  rw [computeCmacB0, if_neg (by omega)]
  simp only [seCall, wp_bind, wp_lift, wp_zoom, read, Option.some.injEq, exists_eq_left']
  refine wp_mono law ?_
  rintro _ final ⟨rfl, keys_eq⟩
  simp only [ne_eq, not_true_eq_false, ↓reduceIte, wp_pure]
  exact ⟨by rw [messageMic, length_eq]; rfl, ⟨rfl, rfl, keys_eq⟩, rfl⟩

/-- `VerifyCmacB0` accepts exactly the MIC of the message. -/
theorem wp_verifyCmacB0 (lawful : api.Lawful cipher keys) {msg bytes : List UInt8} {len : ℕ}
    {keyID : KeyIdentifier} (dir : UInt8) (devAddr fCnt expectedCmac : UInt32)
    (ctx : LoRaMacCryptoCtx σ) (read : slice msg 0 len = some bytes)
    (small : len ≤ cryptoMaxmessageSize) (known : keyID ≠ .noKey) :
    wp (verifyCmacB0 api msg len keyID dir devAddr fCnt expectedCmac) (fun result final =>
      result = (if expectedCmac = messageMic cipher (keys ctx.se keyID) dir devAddr fCnt bytes
        then .success else .failMic) ∧ SameCounters keys ctx final) ctx := by
  have length_eq := length_of_slice read
  have law := lawful.verifyAesCmac ctx.se
    (List.ofFn (prepareB0 len dir devAddr fCnt) ++ bytes) expectedCmac keyID known
  rw [verifyCmacB0, if_neg (by omega)]
  simp only [seCall, wp_bind, wp_lift, wp_zoom, read, Option.some.injEq, exists_eq_left']
  refine wp_mono law ?_
  rintro _ final ⟨rfl, keys_eq⟩
  have mic_eq : cipher.mic (keys ctx.se keyID)
      (List.ofFn (prepareB0 len dir devAddr fCnt) ++ bytes) =
        messageMic cipher (keys ctx.se keyID) dir devAddr fCnt bytes := by
    rw [messageMic, length_eq]
  by_cases verified : expectedCmac = messageMic cipher (keys ctx.se keyID) dir devAddr fCnt bytes
  · simp only [mic_eq, verified, ne_eq, not_true_eq_false, ↓reduceIte, wp_pure]
    exact ⟨trivial, ⟨rfl, rfl, keys_eq⟩, rfl⟩
  · simp only [mic_eq, verified, ne_eq, not_false_eq_true, ↓reduceIte, reduceCtorEq, wp_pure]
    exact ⟨trivial, ⟨rfl, rfl, keys_eq⟩, rfl⟩

/-! ## Sending -/

/-- A message whose payload area has the stream added describes the frame with
the stream added. -/
theorem LoRaMacMessageData.Holds.crypt {macMsg : LoRaMacMessageData} {frame : DataFrame}
    (holds : macMsg.Holds frame) (blocks : ℕ → Block) :
    ({ macMsg with frmPayload := xorUpTo blocks macMsg.frmPayloadSize macMsg.frmPayload } :
      LoRaMacMessageData).Holds (frame.crypt blocks) := by
  have payload_eq := frame.payload_crypt blocks
  refine ⟨holds.mhdr, holds.devAddr, holds.fCtrl, holds.fCnt, holds.fOpts, ?_, ?_, ?_, holds.mic⟩
  · rw [payload_eq, length_xorStream, holds.frmPayloadSize]
    conv_lhs => rw [eq_append_of_slice holds.payload]
    rw [xorUpTo_length]
    exact slice_of_eq [] rfl rfl (length_xorStream blocks _).symm
  · rw [payload_eq, length_xorStream]
    exact holds.frmPayloadSize
  · intro port payload encrypted
    obtain ⟨⟨port', payload'⟩, content, equal⟩ := Option.map_eq_some_iff.mp encrypted
    cases equal
    exact holds.fPort _ _ content

/-- The buffers of a message are large enough for a frame that fits a radio
packet. -/
structure LoRaMacMessageData.Room (macMsg : LoRaMacMessageData) (frame : DataFrame) : Prop where
  fits : frame.bytes.length ≤ macMsg.bufSize
  small : macMsg.bufSize ≤ loramacPhyMaxpayload
  inside : macMsg.bufSize ≤ macMsg.buffer.length

/-- What a message becomes when it is serialised with its MIC. -/
def LoRaMacMessageData.signedAs (macMsg : LoRaMacMessageData) (frame : DataFrame) :
    LoRaMacMessageData :=
  { macMsg with
    buffer := frame.bytes ++ macMsg.buffer.drop frame.bytes.length
    bufSize := frame.bytes.length
    mic := frame.mic }

theorem LoRaMacMessageData.Holds.signedAs {macMsg : LoRaMacMessageData} {frame : DataFrame}
    (holds : macMsg.Holds frame) (mic : UInt32) :
    (macMsg.signedAs (frame.signed mic)).Holds (frame.signed mic) :=
  ⟨holds.mhdr, holds.devAddr, holds.fCtrl, holds.fCnt, holds.fOpts, holds.payload,
    holds.frmPayloadSize, holds.fPort, rfl⟩

/-- The end of `LoRaMacCryptoSecureMessage` signs the frame. -/
theorem wp_signMessage (lawful : api.Lawful cipher keys) {macMsg : LoRaMacMessageData}
    {frame : DataFrame} (fCntUp : UInt32) (ctx : LoRaMacCryptoCtx σ) (holds : macMsg.Holds frame)
    (room : macMsg.Room frame) :
    let mic := messageMic cipher (keys ctx.se .nwkSKey) uplink frame.devAddr fCntUp frame.body
    wp (signMessage api fCntUp macMsg) (fun result final =>
      result = (.success, macMsg.signedAs (frame.signed mic)) ∧ SameKeys keys ctx final ∧
        final.fCntList = { ctx.fCntList with fCntUp := fCntUp }) ctx := by
  intro mic
  have min_size := frame.length_bytes
  have body_size : frame.bytes.length = frame.body.length + 4 := by
    rw [DataFrame.bytes, List.length_append, length_leBytes]
  have fits := room.fits
  have small := room.small
  have inside := room.inside
  rw [loramacPhyMaxpayload] at small
  have len_eq : (frame.bytes.length + 2 ^ 16 - loramacMicFieldSize) % 2 ^ 16 =
      frame.body.length := by
    rw [loramacMicFieldSize]
    omega
  have read : slice (frame.bytes ++ macMsg.buffer.drop frame.bytes.length) 0 frame.body.length =
      some frame.body := slice_of_eq [] (List.append_assoc _ _ _) rfl rfl
  have law := wp_computeCmacB0 lawful uplink macMsg.fhdr.devAddr fCntUp ctx read
    (by rw [cryptoMaxmessageSize]; omega)
    (by decide : KeyIdentifier.nwkSKey.value < loramacCryptoMulticastKeys)
  simp only [signMessage, wp_bind, wp_lift, loRaMacSerializerData_eq holds fits inside,
    Option.some.injEq, exists_eq_left', ne_eq, not_true_eq_false, ↓reduceIte, len_eq]
  refine wp_mono law ?_
  rintro _ final ⟨rfl, same⟩
  -- The message with the MIC describes the signed frame.
  have holds_signed : ({ macMsg with
      buffer := frame.bytes ++ macMsg.buffer.drop frame.bytes.length
      bufSize := frame.bytes.length
      mic := mic } : LoRaMacMessageData).Holds (frame.signed mic) :=
    ⟨holds.mhdr, holds.devAddr, holds.fCtrl, holds.fCnt, holds.fOpts, holds.payload,
      holds.frmPayloadSize, holds.fPort, rfl⟩
  have mic_eq : messageMic cipher (keys ctx.se .nwkSKey) uplink macMsg.fhdr.devAddr fCntUp
      frame.body = mic := by
    rw [holds.devAddr]
  have again := loRaMacSerializerData_eq holds_signed
    (by rw [frame.length_bytes_signed]) (by simp)
  simp only [not_true_eq_false, ↓reduceIte, wp_bind, wp_lift, Option.getD_some, mic_eq, again,
    Option.some.injEq, exists_eq_left', wp_modify, eventCryptoNvmCtxChanged, wp_pure]
  refine ⟨?_, ⟨same.minor, same.devNonce, same.keys⟩, by rw [same.fCntList]⟩
  simp only [LoRaMacMessageData.signedAs, DataFrame.length_bytes_signed, List.drop_left', Prod.mk.injEq,
    true_and]
  rfl

/-- A frame under its counter: encrypted, then signed. -/
def DataFrame.secured (cipher : KeyedCipher κ) (keyOf : KeyIdentifier → κ)
    (appSkey nwkSkey : KeyIdentifier) (dir : UInt8) (fCnt : UInt32) (frame : DataFrame) :
    DataFrame :=
  let key := keyOf (frame.payloadKeyID appSkey)
  let encrypted := frame.crypt (keystream cipher key frame.devAddr dir fCnt)
  encrypted.signed (messageMic cipher (keyOf nwkSkey) dir frame.devAddr fCnt encrypted.body)

/-- The port in a message decides on the key like the port in its frame. -/
theorem LoRaMacMessageData.Holds.crypt_key {macMsg : LoRaMacMessageData} {frame : DataFrame}
    (holds : macMsg.Holds frame) (appSkey : KeyIdentifier) (stream : KeyIdentifier → ℕ → Block) :
    frame.crypt (stream (if macMsg.fPort = 0 then .nwkSKey else appSkey)) =
      frame.crypt (stream (frame.payloadKeyID appSkey)) := by
  cases content : frame.content with
  | none => simp [DataFrame.crypt, content]
  | some pair =>
      have port_eq : frame.portBytes = [0] ↔ macMsg.fPort = 0 := by
        rw [frame.portBytes_of_content content, holds.fPort _ _ content]
        simp
      simp only [DataFrame.payloadKeyID, port_eq]

/-- The first time a counter is used, `LoRaMacCryptoSecureMessage` encrypts and
signs the frame. -/
theorem wp_secureMessage_first (lawful : api.Lawful cipher keys) {macMsg : LoRaMacMessageData}
    {frame : DataFrame} {fCntUp : UInt32} (ctx : LoRaMacCryptoCtx σ) (holds : macMsg.Holds frame)
    (room : macMsg.Room frame) (fresh : ctx.fCntList.fCntUp < fCntUp) :
    wp (loRaMacCryptoSecureMessage api fCntUp macMsg) (fun result final =>
      result.1 = .success ∧
        (∃ frmPayload, frmPayload.length = macMsg.frmPayload.length ∧
          result.2 = ({ macMsg with frmPayload := frmPayload } : LoRaMacMessageData).signedAs
            (frame.secured cipher (keys ctx.se) .appSKey .nwkSKey uplink fCntUp)) ∧
        result.2.Holds (frame.secured cipher (keys ctx.se) .appSKey .nwkSKey uplink fCntUp) ∧
        SameKeys keys ctx final ∧
        final.fCntList = { ctx.fCntList with fCntUp := fCntUp }) ctx := by
  have not_lt : ¬ fCntUp < ctx.fCntList.fCntUp := UInt32.not_lt.mpr (UInt32.le_of_lt fresh)
  have payload_le := length_of_slice holds.payload
  have payload_inside : frame.payload.length ≤ macMsg.frmPayload.length := by
    have read := eq_append_of_slice holds.payload
    have lengths := congrArg List.length read
    rw [List.length_append] at lengths
    omega
  have payload_small : frame.payload.length < 256 := by
    have fits := room.fits
    have small := room.small
    rw [frame.length_bytes] at fits
    rw [loramacPhyMaxpayload] at small
    omega
  have known : (if macMsg.fPort = 0 then KeyIdentifier.nwkSKey else .appSKey) ≠ .noKey := by
    split <;> decide
  have encrypt := wp_payloadEncrypt lawful macMsg.fhdr.devAddr uplink fCntUp ctx payload_inside
    payload_small known
  rw [← holds.frmPayloadSize] at encrypt
  simp only [loRaMacCryptoSecureMessage, wp_bind, wp_gets]
  rw [if_neg not_lt, if_pos fresh, wp_bind]
  refine wp_mono encrypt ?_
  rintro _ middle ⟨rfl, same⟩
  let key := if macMsg.fPort = 0 then KeyIdentifier.nwkSKey else .appSKey
  let blocks := keystream cipher (keys ctx.se key) macMsg.fhdr.devAddr uplink fCntUp
  have encrypted := holds.crypt blocks
  have encrypted_room : ({ macMsg with
      frmPayload := xorUpTo blocks macMsg.frmPayloadSize macMsg.frmPayload } :
        LoRaMacMessageData).Room (frame.crypt blocks) :=
    ⟨by rw [frame.length_bytes_crypt]; exact room.fits, room.small, room.inside⟩
  have secured_eq : (frame.crypt blocks).signed (messageMic cipher (keys middle.se .nwkSKey) uplink
      frame.devAddr fCntUp (frame.crypt blocks).body) =
        frame.secured cipher (keys ctx.se) .appSKey .nwkSKey uplink fCntUp := by
    have crypt_eq := holds.crypt_key .appSKey fun keyID =>
      keystream cipher (keys ctx.se keyID) macMsg.fhdr.devAddr uplink fCntUp
    rw [same.keys, show frame.crypt blocks = _ from crypt_eq, holds.devAddr]
    rfl
  have sign := wp_signMessage lawful fCntUp middle encrypted encrypted_room
  simp only [ne_eq, not_true_eq_false, ↓reduceIte]
  refine wp_mono sign ?_
  rintro _ final ⟨rfl, signed_same, counters⟩
  have result_holds := encrypted.signedAs (messageMic cipher (keys middle.se .nwkSKey) uplink
    frame.devAddr fCntUp (frame.crypt blocks).body)
  refine ⟨rfl, ⟨xorUpTo blocks macMsg.frmPayloadSize macMsg.frmPayload, length_xorUpTo _ _ _, ?_⟩,
    ?_, same.toSameKeys.trans signed_same, by rw [counters, same.fCntList]⟩
  · rw [← secured_eq]
    rfl
  · rw [← secured_eq]
    exact result_holds

/-- When the counter is used again, the frame is signed as it was. -/
theorem wp_secureMessage_again (lawful : api.Lawful cipher keys) {macMsg : LoRaMacMessageData}
    {frame : DataFrame} (ctx : LoRaMacCryptoCtx σ) (holds : macMsg.Holds frame)
    (room : macMsg.Room frame) :
    let fCntUp := ctx.fCntList.fCntUp
    let mic := messageMic cipher (keys ctx.se .nwkSKey) uplink frame.devAddr fCntUp frame.body
    wp (loRaMacCryptoSecureMessage api fCntUp macMsg) (fun result final =>
      result = (.success, macMsg.signedAs (frame.signed mic)) ∧ SameKeys keys ctx final ∧
        final.fCntList = ctx.fCntList) ctx := by
  intro fCntUp mic
  have not_lt : ¬ fCntUp < fCntUp := UInt32.lt_irrefl fCntUp
  simp only [loRaMacCryptoSecureMessage, wp_bind, wp_gets]
  rw [if_neg not_lt, if_neg not_lt]
  refine wp_mono (wp_signMessage lawful fCntUp ctx holds room) ?_
  rintro result final ⟨result_eq, same, counters⟩
  exact ⟨result_eq, same, counters⟩

/-! ## Receiving -/

/-- A counter that `CheckFCntDown` accepts. -/
def FCntList.Fresh (fCntList : FCntList) (fCntID : FCntIdentifier) (fCntDown : UInt32) : Prop :=
  ∃ last, fCntList.down fCntID = some last ∧ (last < fCntDown ∨ last = fcntDownInitalValue)

variable (keys) in
theorem wp_getLastFcntDown (fCntID : FCntIdentifier) (ctx : LoRaMacCryptoCtx σ) :
    wp (getLastFcntDown fCntID) (fun result final =>
      result = ctx.fCntList.down fCntID ∧ SameCounters keys ctx final) ctx := by
  cases fCntID <;>
    simp only [getLastFcntDown, wp_bind, wp_gets, wp_modify, wp_pure, true_and] <;>
    exact ⟨⟨rfl, rfl, rfl⟩, rfl⟩

variable (keys) in
theorem wp_checkFCntDown (fCntID : FCntIdentifier) (fCntDown : UInt32)
    (ctx : LoRaMacCryptoCtx σ) :
    wp (checkFCntDown fCntID fCntDown) (fun result final =>
      (result = true ↔ ctx.fCntList.Fresh fCntID fCntDown) ∧ SameCounters keys ctx final) ctx := by
  rw [checkFCntDown, wp_bind]
  refine wp_mono (wp_getLastFcntDown keys fCntID ctx) ?_
  rintro _ final ⟨rfl, same⟩
  cases last : ctx.fCntList.down fCntID with
  | none =>
      simp only [wp_pure]
      exact ⟨by simp [FCntList.Fresh, last], same⟩
  | some last =>
      simp only [wp_pure, decide_eq_true_eq]
      exact ⟨by simp [FCntList.Fresh, *], same⟩

/-- A parsed message carries the MIC of the bytes before it. -/
def LoRaMacMessageData.Authentic (macMsg : LoRaMacMessageData) (cipher : KeyedCipher κ) (key : κ)
    (address fCntDown : UInt32) : Prop :=
  macMsg.mic = messageMic cipher key downlink address fCntDown
    (macMsg.buffer.take (macMsg.bufSize - loramacMicFieldSize))

/-- A parsed message lies inside its buffers. -/
structure LoRaMacMessageData.Inside (macMsg : LoRaMacMessageData) : Prop where
  least : loramacMicFieldSize ≤ macMsg.bufSize
  small : macMsg.bufSize ≤ loramacPhyMaxpayload
  buffer : macMsg.bufSize ≤ macMsg.buffer.length
  payload : macMsg.frmPayloadSize ≤ macMsg.frmPayload.length
  payload_small : macMsg.frmPayloadSize ≤ loramacPhyMaxpayload

/-- A message whose payload area has the stream added. -/
def LoRaMacMessageData.crypt (macMsg : LoRaMacMessageData) (blocks : ℕ → Block) :
    LoRaMacMessageData :=
  { macMsg with frmPayload := xorUpTo blocks macMsg.frmPayloadSize macMsg.frmPayload }

/-- The identifier of the key for the payload of a message. -/
def LoRaMacMessageData.payloadKeyID (macMsg : LoRaMacMessageData) (appSkey : KeyIdentifier) :
    KeyIdentifier :=
  if macMsg.fPort = 0 then .nwkSKey else appSkey

/-- What `LoRaMacCryptoUnsecureMessage` does with a message that is parsed. -/
structure Unsecured (cipher : KeyedCipher κ) (keys : σ → KeyIdentifier → κ) (item : KeyAddr)
    (address : UInt32) (fCntID : FCntIdentifier) (fCntDown : UInt32)
    (macMsg parsed : LoRaMacMessageData) (ctx : LoRaMacCryptoCtx σ)
    (result : LoRaMacCryptoStatus × LoRaMacMessageData) (final : LoRaMacCryptoCtx σ) : Prop where
  same : SameKeys keys ctx final
  success_iff : result.1 = .success ↔ ctx.fCntList.Fresh fCntID fCntDown ∧
    parsed.fhdr.devAddr = address ∧
      parsed.Authentic cipher (keys ctx.se item.nwkSkey) address fCntDown
  message : result.1 = .success → result.2 = parsed.crypt (keystream cipher
    (keys ctx.se (parsed.payloadKeyID item.appSkey)) address downlink fCntDown)
  refused : result.1 ≠ .success → result.2 = macMsg ∨ result.2 = parsed
  counters : final.fCntList =
    if result.1 = .success then ctx.fCntList.setDown fCntID fCntDown else ctx.fCntList

theorem getKeyAddrItem_ne {addrID : AddressIdentifier} {item : KeyAddr}
    (found : getKeyAddrItem addrID = some item) :
    item.appSkey ≠ .noKey ∧ item.nwkSkey ≠ .noKey := by
  cases addrID <;> cases found <;> decide

theorem wp_unsecureMessage (lawful : api.Lawful cipher keys) {macMsg parsed : LoRaMacMessageData}
    {addrID : AddressIdentifier} {item : KeyAddr} (address : UInt32) (fCntID : FCntIdentifier)
    (fCntDown : UInt32) (ctx : LoRaMacCryptoCtx σ)
    (parse : loRaMacParserData macMsg = some (.success, parsed))
    (found : getKeyAddrItem addrID = some item) (inside : parsed.Inside) :
    wp (loRaMacCryptoUnsecureMessage api addrID address fCntID fCntDown macMsg)
      (Unsecured cipher keys item address fCntID fCntDown macMsg parsed ctx) ctx := by
  have least := inside.least
  have small := inside.small
  have buffer := inside.buffer
  have payload_small := inside.payload_small
  simp only [loramacPhyMaxpayload, loramacMicFieldSize] at least small payload_small
  obtain ⟨appSkey_ne, nwkSkey_ne⟩ := getKeyAddrItem_ne found
  have len_eq : (parsed.bufSize + 2 ^ 16 - loramacMicFieldSize) % 2 ^ 16 =
      parsed.bufSize - loramacMicFieldSize := by
    rw [loramacMicFieldSize]
    omega
  have read : slice parsed.buffer 0 (parsed.bufSize - loramacMicFieldSize) =
      some (parsed.buffer.take (parsed.bufSize - loramacMicFieldSize)) := by
    rw [slice_eq_some (by omega), List.drop_zero]
  rw [loRaMacCryptoUnsecureMessage, wp_bind]
  refine wp_mono (wp_checkFCntDown keys fCntID fCntDown ctx) ?_
  rintro fresh first ⟨fresh_iff, same⟩
  cases fresh with
  | false =>
      have stale : ¬ ctx.fCntList.Fresh fCntID fCntDown := by simpa using fresh_iff
      simp only [Bool.not_false, ↓reduceIte, wp_pure]
      exact ⟨same.toSameKeys, by simp [stale], by simp, fun _ => .inl rfl, by simp [same.fCntList]⟩
  | true =>
      have fresh : ctx.fCntList.Fresh fCntID fCntDown := fresh_iff.mp rfl
      simp only [Bool.not_true, Bool.false_eq_true, ↓reduceIte, wp_bind, wp_lift, parse,
        Option.some.injEq, exists_eq_left', ne_eq, not_true_eq_false, found]
      by_cases own : address = parsed.fhdr.devAddr
      · have verify := wp_verifyCmacB0 lawful downlink address fCntDown parsed.mic first read
          (by rw [cryptoMaxmessageSize, loramacMicFieldSize]; omega) nwkSkey_ne
        simp only [own, not_true_eq_false, ↓reduceIte, wp_bind, len_eq]
        rw [own] at verify
        refine wp_mono verify ?_
        rintro _ second ⟨rfl, verified⟩
        rw [same.keys]
        by_cases authentic : parsed.Authentic cipher (keys ctx.se item.nwkSkey)
            parsed.fhdr.devAddr fCntDown
        · have accepted : parsed.mic = messageMic cipher (keys ctx.se item.nwkSkey) downlink
              parsed.fhdr.devAddr fCntDown
                (parsed.buffer.take (parsed.bufSize - loramacMicFieldSize)) := authentic
          have known : parsed.payloadKeyID item.appSkey ≠ .noKey := by
            rw [LoRaMacMessageData.payloadKeyID]
            split
            · decide
            · exact appSkey_ne
          have decrypt := wp_payloadEncrypt lawful parsed.fhdr.devAddr downlink fCntDown second
            inside.payload (by omega) known
          rw [verified.keys, same.keys] at decrypt
          rw [if_pos accepted]
          simp only [not_true_eq_false, ↓reduceIte, wp_bind]
          refine wp_mono decrypt ?_
          rintro _ third ⟨rfl, decrypted⟩
          simp only [not_true_eq_false, ↓reduceIte, updateFCntDown, eventCryptoNvmCtxChanged,
            wp_bind, wp_modify, wp_pure]
          have all := same.toSameKeys.trans (verified.toSameKeys.trans decrypted.toSameKeys)
          refine ⟨⟨all.minor, all.devNonce, all.keys⟩, by simp [fresh, authentic], fun _ => rfl,
            by simp, ?_⟩
          simp [decrypted.fCntList, verified.fCntList, same.fCntList]
        · have refused : ¬ parsed.mic = messageMic cipher (keys ctx.se item.nwkSkey) downlink
              parsed.fhdr.devAddr fCntDown
                (parsed.buffer.take (parsed.bufSize - loramacMicFieldSize)) := authentic
          simp only [refused, ↓reduceIte, reduceCtorEq, not_false_eq_true, wp_pure]
          refine ⟨same.toSameKeys.trans verified.toSameKeys, ?_, by simp, fun _ => .inr rfl,
            by simp [verified.fCntList, same.fCntList]⟩
          simp [authentic]
      · simp only [own, not_false_eq_true, ↓reduceIte, wp_pure]
        refine ⟨same.toSameKeys, ?_, by simp, fun _ => .inr rfl, by simp [same.fCntList]⟩
        simp only [reduceCtorEq, false_iff, not_and]
        exact fun _ equal => absurd equal.symm own

end Lawful

end GenericNode.LoRaMac
