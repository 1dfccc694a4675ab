import GenericNode.SecureElement.Mic

/-!
# Join accept

What `SecureElementProcessJoinAccept` accepts, on a device whose commands
succeed.
-/

namespace GenericNode.SecureElement

open GenericNode.Library
open GenericNode.Library.Prog

variable {β κ : Type}

/-- The entry of the network root key. -/
def nwkKeyItem : KeyItem :=
  ⟨.nwkKey, 0, 1⟩

theorem getKeyByID_nwkKey : getKeyByID .nwkKey = some nwkKeyItem :=
  rfl

/-- The network root key. -/
def SeWorld.nwkRootKey (world : SeWorld β κ) : κ :=
  world.keys nwkKeyItem.keySlotNumber nwkKeyItem.keyBlockIndex

/-- The decrypted frame: the MHDR byte, then the ECB encryption of the rest. -/
def SeWorld.decryptedFrame (world : SeWorld β κ) (atecc : Atecc608 κ)
    (encJoinAccept : Pointer β) : ℕ → UInt8
  | 0 => world.byteAt encJoinAccept 0
  | index + 1 =>
      ecb (atecc.aes world.nwkRootKey) (fun place => world.byteAt encJoinAccept (place + 1)) index

/-- The frame is a join accept of the network: its size is one of the two, it
is a LoRaWAN 1.0 frame, and its last four bytes are its integrity code. -/
def JoinAcceptAuthentic (atecc : Atecc608 κ) (world : SeWorld β κ) (encJoinAccept : Pointer β)
    (size : ℕ) : Prop :=
  let frame := world.decryptedFrame atecc encJoinAccept
  (size = 17 ∨ size = 33) ∧ (frame 11).toNat.testBit 7 = false ∧
    packLe (frame (size - 4)) (frame (size - 3)) (frame (size - 2)) (frame (size - 1)) =
      macWord (atecc.cmac world.nwkRootKey ((List.range (size - 4)).map frame))

/-- The places that processing a join accept may access. -/
def JoinAcceptAccess (encJoinAccept decJoinAccept : Pointer β) (size : ℕ)
    (access : β × ℕ) : Prop :=
  InRegion encJoinAccept (min size loramacJoinAcceptFrameMaxSize) access ∨
    InRegion decJoinAccept (min size loramacJoinAcceptFrameMaxSize) access

/-- The version bit is bit 7. -/
theorem versionBit (byte : UInt8) : byte &&& 0x80 = 0x80 ↔ byte.toNat.testBit 7 = true := by
  rw [← UInt8.toNat_inj, UInt8.toNat_and]
  have mask := Nat.and_two_pow byte.toNat 7
  change byte.toNat &&& 2 ^ 7 = 2 ^ 7 ↔ _
  rw [mask]
  cases byte.toNat.testBit 7 <;> simp

/-- The two calls that fill `decJoinAccept`. -/
structure Decrypted [DecidableEq β] (atecc : Atecc608 κ) (encJoinAccept decJoinAccept : Pointer β)
    (size : ℕ) (world final : SeWorld β κ) : Prop extends SameDevice world final where
  frame : ∀ index < size,
    final.byteAt decJoinAccept index = world.decryptedFrame atecc encJoinAccept index
  touched : TouchedOnly
    (fun access => InRegion encJoinAccept size access ∨ InRegion decJoinAccept size access)
    world final

/-- A copied frame whose body is then encrypted is decrypted. -/
theorem Decrypted.of_transferred [DecidableEq β] {atecc : Atecc608 κ}
    {encJoinAccept decJoinAccept : Pointer β}
    (distinct : encJoinAccept.object ≠ decJoinAccept.object) {size : ℕ}
    {world middle final : SeWorld β κ}
    (copied : Transferred encJoinAccept decJoinAccept (world.byteAt encJoinAccept) (size + 1)
      (size + 1) world middle)
    (encrypted : Transferred (encJoinAccept.add loramacMhdrFieldSize)
      (decJoinAccept.add loramacMhdrFieldSize)
      (ecb (atecc.aes middle.nwkRootKey)
        (middle.byteAt (encJoinAccept.add loramacMhdrFieldSize))) size size middle final) :
    Decrypted atecc encJoinAccept decJoinAccept (size + 1) world final where
  keys := encrypted.filled.keys.trans copied.filled.keys
  succeeds := encrypted.filled.succeeds.trans copied.filled.succeeds
  frame index index_lt := by
    have body : middle.byteAt (encJoinAccept.add loramacMhdrFieldSize) =
        fun place => world.byteAt encJoinAccept (place + 1) := by
      funext place
      rw [byteAt_add, copied.filled.byteAt_of_ne distinct, Nat.add_comm]
      rfl
    cases index with
    | zero =>
        have outside : ¬ InRegion (decJoinAccept.add loramacMhdrFieldSize) size
            (decJoinAccept.object, decJoinAccept.offset + 0) := by
          rintro ⟨-, after, -⟩
          simp only [Pointer.add, loramacMhdrFieldSize] at after
          omega
        have kept : final.byteAt decJoinAccept 0 = middle.byteAt decJoinAccept 0 := by
          simp only [SeWorld.byteAt, encrypted.filled.memory, outside, ↓reduceIte]
        rw [kept, copied.filled.byteAt index_lt]
        rfl
    | succ index =>
        have moved : final.byteAt decJoinAccept (index + 1) =
            final.byteAt (decJoinAccept.add loramacMhdrFieldSize) index := by
          rw [byteAt_add, Nat.add_comm]
          rfl
        have key : middle.nwkRootKey = world.nwkRootKey := by
          simp only [SeWorld.nwkRootKey, copied.filled.keys]
        rw [moved, encrypted.filled.byteAt (by omega), body, key]
        rfl
  touched := by
    refine copied.touched.trans (encrypted.touched.mono ?_)
    rintro access (inside | inside)
    · exact .inl (inside.of_add.mono (by simp only [loramacMhdrFieldSize]; omega))
    · exact .inr (inside.of_add.mono (by simp only [loramacMhdrFieldSize]; omega))

/-- What the call establishes: it accepts the authentic frames, leaves the
frame it accepts in `decJoinAccept`, and stays inside the frame. -/
structure JoinAcceptResult (atecc : Atecc608 κ) (encJoinAccept decJoinAccept : Pointer β)
    (size : ℕ) (world : SeWorld β κ) (status : SecureElementStatus) (final : SeWorld β κ) :
    Prop where
  accepts : status = .success ↔ JoinAcceptAuthentic atecc world encJoinAccept size
  frame : status = .success → ∀ index < size,
    final.byteAt decJoinAccept index = world.decryptedFrame atecc encJoinAccept index
  touched : TouchedOnly (JoinAcceptAccess encJoinAccept decJoinAccept size) world final

/-- A frame of another size is refused. -/
theorem JoinAcceptResult.refused {atecc : Atecc608 κ} {encJoinAccept decJoinAccept : Pointer β}
    {size : ℕ} {world final : SeWorld β κ} {status : SecureElementStatus}
    (failed : status ≠ .success) (not17 : size ≠ 17) (not33 : size ≠ 33)
    (touched : TouchedOnly (JoinAcceptAccess encJoinAccept decJoinAccept size) world final) :
    JoinAcceptResult atecc encJoinAccept decJoinAccept size world status final where
  accepts := by
    constructor
    · intro success
      exact absurd success failed
    · rintro ⟨rfl | rfl, -⟩
      · exact absurd rfl not17
      · exact absurd rfl not33
  frame success := absurd success failed
  touched := touched

theorem processJoinAccept_other_size [DecidableEq β] (atecc : Atecc608 κ)
    {encJoinAccept decJoinAccept : Pointer β}
    (distinct : encJoinAccept.object ≠ decJoinAccept.object) {size : ℕ} (enough : 17 ≤ size)
    (fits : size ≤ 255) (not17 : size ≠ 17) (not33 : size ≠ 33) (versionMinor : ℕ)
    (world : SeWorld β κ) :
    wp (secureElementProcessJoinAccept atecc (some encJoinAccept) size (some decJoinAccept)
        (some versionMinor))
      (fun result final =>
        JoinAcceptResult atecc encJoinAccept decJoinAccept size world result.1 final) world := by
  by_cases large : loramacJoinAcceptFrameMaxSize < size
  · simp only [secureElementProcessJoinAccept, large, ↓reduceIte, wp_pure]
    exact .refused (by simp) not17 not33 .refl
  · simp only [secureElementProcessJoinAccept, large, ↓reduceIte, wp_bind]
    simp only [loramacJoinAcceptFrameMaxSize, not_lt] at large
    refine wp_mono (memcpy1_transferred distinct size world) fun _ middle copied => ?_
    have partial_block : (size + 2 ^ 16 - loramacMhdrFieldSize) % 2 ^ 16 % 16 ≠ 0 := by
      simp only [loramacMhdrFieldSize]
      omega
    simp only [secureElementAesEncrypt, partial_block, ne_eq, not_false_eq_true, ↓reduceIte,
      wp_pure, reduceCtorEq]
    refine .refused (by simp) not17 not33 (copied.1.touched.mono ?_)
    rintro access (inside | inside)
    · exact .inl (inside.mono (by simp only [loramacJoinAcceptFrameMaxSize]; omega))
    · exact .inr (inside.mono (by simp only [loramacJoinAcceptFrameMaxSize]; omega))

/-- The check of a decrypted frame decides the version and the MIC. -/
theorem checkJoinAccept_result (atecc : Atecc608 κ) {decJoinAccept : Pointer β} {size : ℕ}
    (size_eq : size = 17 ∨ size = 33) {world : SeWorld β κ}
    (succeed : ∀ index, world.succeeds index = true) :
    wp (checkJoinAccept atecc size decJoinAccept)
      (fun result final =>
        (result.1 = .success ↔
          (world.byteAt decJoinAccept 11).toNat.testBit 7 = false ∧
            packLe (world.byteAt decJoinAccept (size - 4)) (world.byteAt decJoinAccept (size - 3))
                (world.byteAt decJoinAccept (size - 2)) (world.byteAt decJoinAccept (size - 1)) =
              world.mac atecc nwkKeyItem (world.bytesAt decJoinAccept (size - 4))) ∧
          (∀ index, final.byteAt decJoinAccept index = world.byteAt decJoinAccept index) ∧
          TouchedOnly (InRegion decJoinAccept size) world final) world := by
  have long : ¬ size < loramacMicFieldSize := by
    simp only [loramacMicFieldSize]
    omega
  have mic_at : ∀ index < 4, size - loramacMicFieldSize + index = size - (4 - index) := by
    simp only [loramacMicFieldSize]
    omega
  simp only [checkJoinAccept, wp_bind, wp_load, long, ↓reduceIte, byteAt_touch,
    mic_at 1 (by omega), mic_at 2 (by omega), mic_at 3 (by omega)]
  generalize loaded_eq : SeWorld.touch _ _ _ = loaded
  have same : SameBuffers world loaded := by
    subst loaded_eq
    exact ⟨⟨rfl, rfl⟩, rfl⟩
  have touched : TouchedOnly (InRegion decJoinAccept size) world loaded := by
    have inside : ∀ index < size, InRegion decJoinAccept size
        (decJoinAccept.object, decJoinAccept.offset + index) :=
      fun index index_lt => ⟨rfl, by omega, by omega⟩
    subst loaded_eq
    exact ((((TouchedOnly.refl.touch (inside _ (by omega))).touch
      (inside _ (by simp only [loramacMicFieldSize]; omega))).touch
      (inside _ (by omega))).touch (inside _ (by omega))).touch (inside _ (by omega))
  have loaded_succeed : ∀ index, loaded.succeeds index = true := by
    rw [same.succeeds]
    exact succeed
  by_cases version : world.byteAt decJoinAccept 11 &&& 0x80 = 0x80
  · have bit := (versionBit _).mp version
    simp only [version, ↓reduceIte, one_ne_zero, wp_pure, reduceCtorEq, bit,
      Bool.true_eq_false, false_and, true_and]
    exact ⟨fun index => by rw [same.byteAt], touched⟩
  · have bit : (world.byteAt decJoinAccept 11).toNat.testBit 7 = false := by
      simpa using mt (versionBit _).mpr version
    simp only [version, ↓reduceIte, wp_bind, bit, true_and]
    refine wp_mono (secureElementVerifyAesCmac_succeed atecc decJoinAccept _ _
      getKeyByID_nwkKey loaded_succeed) fun status final verified => ?_
    obtain ⟨decides, kept, checked⟩ := verified
    have code : loaded.mac atecc nwkKeyItem
          (loaded.bytesAt decJoinAccept (size - loramacMicFieldSize)) =
        world.mac atecc nwkKeyItem (world.bytesAt decJoinAccept (size - 4)) := by
      simp only [SeWorld.mac, same.keys, same.bytesAt, loramacMicFieldSize]
    have unshifted : ∀ word : UInt32, word <<< 0 = word := by simp
    simp only [code, unshifted] at decides
    have bytes_kept : ∀ index,
        final.byteAt decJoinAccept index = world.byteAt decJoinAccept index :=
      fun index => by rw [kept.byteAt, same.byteAt]
    have all_touched : TouchedOnly (InRegion decJoinAccept size) world final :=
      touched.trans (checked.mono fun access inside => inside.mono (Nat.sub_le _ _))
    by_cases success : status = .success
    · simp only [success, ne_eq, not_true_eq_false, ↓reduceIte, wp_pure, true_iff]
      exact ⟨decides.mp success, bytes_kept, all_touched⟩
    · simp only [success, ne_eq, not_false_eq_true, ↓reduceIte, wp_pure, reduceCtorEq, false_iff]
      exact ⟨mt decides.mpr success, bytes_kept, all_touched⟩

/-- A frame of one of the two sizes is decrypted and checked. -/
theorem processJoinAccept_frame_size [DecidableEq β] (atecc : Atecc608 κ)
    {encJoinAccept decJoinAccept : Pointer β}
    (distinct : encJoinAccept.object ≠ decJoinAccept.object) {size : ℕ}
    (size_eq : size = 17 ∨ size = 33) (versionMinor : ℕ) {world : SeWorld β κ}
    (succeed : ∀ index, world.succeeds index = true) :
    wp (secureElementProcessJoinAccept atecc (some encJoinAccept) size (some decJoinAccept)
        (some versionMinor))
      (fun result final =>
        JoinAcceptResult atecc encJoinAccept decJoinAccept size world result.1 final) world := by
  have small : ¬ loramacJoinAcceptFrameMaxSize < size := by
    simp only [loramacJoinAcceptFrameMaxSize]
    omega
  have body : (size + 2 ^ 16 - loramacMhdrFieldSize) % 2 ^ 16 = size - 1 := by
    simp only [loramacMhdrFieldSize]
    omega
  have size_split : size - 1 + 1 = size := by omega
  have whole : (size - 1) % 16 = 0 := by omega
  have fits : size - 1 ≤ 2 ^ 8 := by omega
  simp only [secureElementProcessJoinAccept, small, ↓reduceIte, wp_bind, body]
  refine wp_mono (memcpy1_transferred distinct size world) fun _ middle copied => ?_
  have middle_succeed : ∀ index, middle.succeeds index = true := by
    rw [copied.1.filled.succeeds]
    exact succeed
  have body_distinct : (encJoinAccept.add loramacMhdrFieldSize).object ≠
      (decJoinAccept.add loramacMhdrFieldSize).object := distinct
  refine wp_mono (secureElementAesEncrypt_transferred atecc body_distinct whole fits
    getKeyByID_nwkKey middle_succeed) fun status decrypted encrypted => ?_
  obtain ⟨rfl, transferred⟩ := encrypted
  have described : Decrypted atecc encJoinAccept decJoinAccept (size - 1 + 1) world decrypted :=
    .of_transferred distinct (by rw [size_split]; exact copied.1) transferred
  rw [size_split] at described
  have decrypted_succeed : ∀ index, decrypted.succeeds index = true := by
    rw [described.succeeds]
    exact succeed
  simp only [ne_eq, not_true_eq_false, ↓reduceIte]
  refine wp_mono (checkJoinAccept_result atecc size_eq decrypted_succeed)
    fun result final checked => ?_
  obtain ⟨decides, kept, touched⟩ := checked
  have message : decrypted.bytesAt decJoinAccept (size - 4) =
      (List.range (size - 4)).map (world.decryptedFrame atecc encJoinAccept) := by
    refine List.map_congr_left fun index member => described.frame index ?_
    have index_lt := List.mem_range.mp member
    omega
  have code : decrypted.mac atecc nwkKeyItem (decrypted.bytesAt decJoinAccept (size - 4)) =
      macWord (atecc.cmac world.nwkRootKey
        ((List.range (size - 4)).map (world.decryptedFrame atecc encJoinAccept))) := by
    rw [message]
    simp only [SeWorld.mac, SeWorld.nwkRootKey, described.keys]
  rw [code, described.frame 11 (by omega), described.frame (size - 4) (by omega),
    described.frame (size - 3) (by omega), described.frame (size - 2) (by omega),
    described.frame (size - 1) (by omega)] at decides
  constructor
  · rw [decides]
    simp only [JoinAcceptAuthentic, size_eq, true_and]
  · intro _ index index_lt
    rw [kept index, described.frame index index_lt]
  · have limit : size ≤ min size loramacJoinAcceptFrameMaxSize := by
      simp only [loramacJoinAcceptFrameMaxSize]
      omega
    refine (described.touched.mono ?_).trans (touched.mono ?_)
    · rintro access (inside | inside)
      · exact .inl (inside.mono limit)
      · exact .inr (inside.mono limit)
    · exact fun access inside => .inr (inside.mono limit)

/-- On a device whose commands succeed, and for every size the MAC hands over,
`SecureElementProcessJoinAccept` accepts exactly the authentic frames, leaves
the frame it accepts in `decJoinAccept`, and stays inside the frame. -/
theorem secureElementProcessJoinAccept_result [DecidableEq β] (atecc : Atecc608 κ)
    (encJoinAccept decJoinAccept : Pointer β)
    (distinct : encJoinAccept.object ≠ decJoinAccept.object) (size : ℕ) (enough : 17 ≤ size)
    (fits : size ≤ 255) (versionMinor : ℕ) (world : SeWorld β κ)
    (succeed : ∀ index, world.succeeds index = true) :
    wp (secureElementProcessJoinAccept atecc (some encJoinAccept) size (some decJoinAccept)
        (some versionMinor))
      (fun result final =>
        JoinAcceptResult atecc encJoinAccept decJoinAccept size world result.1 final) world := by
  by_cases size_eq : size = 17 ∨ size = 33
  · exact processJoinAccept_frame_size atecc distinct size_eq versionMinor succeed
  · obtain ⟨not17, not33⟩ := not_or.mp size_eq
    exact processJoinAccept_other_size atecc distinct enough fits not17 not33 versionMinor world

/-- Two buffers whose frame ends with the integrity code of `onesAtecc`. -/
def joinWorld : SeWorld Bool Unit where
  keys _ _ := ()
  used := []
  memory _ place := if 13 ≤ place then 1 else 0
  touched := []
  succeeds _ := true
  issued := 0

theorem secureElementProcessJoinAccept_accepts :
    JoinAcceptAuthentic onesAtecc joinWorld ⟨false, 0⟩ 17 ∧
      wp (secureElementProcessJoinAccept onesAtecc (some ⟨false, 0⟩) 17 (some ⟨true, 0⟩) (some 0))
        (fun result final =>
          JoinAcceptResult onesAtecc ⟨false, 0⟩ ⟨true, 0⟩ 17 joinWorld result.1 final)
        joinWorld := by
  refine ⟨⟨.inl rfl, by decide, by decide⟩, ?_⟩
  exact secureElementProcessJoinAccept_result onesAtecc ⟨false, 0⟩ ⟨true, 0⟩ (by decide) 17
    (by decide) (by decide) 0 joinWorld fun _ => rfl

end GenericNode.SecureElement
