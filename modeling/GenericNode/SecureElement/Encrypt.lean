import GenericNode.SecureElement.Buffers

/-!
# Block-wise encryption

`SecureElementAesEncrypt` for buffers of any size and commands that may fail.
-/

namespace GenericNode.SecureElement

open GenericNode.Library
open GenericNode.Library.Prog

variable {β κ : Type}

/-- The key that an entry of the key list names. -/
def SeWorld.keyOf (world : SeWorld β κ) (keyItem : KeyItem) : κ :=
  world.keys keyItem.keySlotNumber keyItem.keyBlockIndex

/-- The world while `SecureElementAesEncrypt` runs: `done` commands were
issued, and the block counter has 8 bits. -/
structure Encrypting (encrypt : Block → Block) (buffer encBuffer : Pointer β) (done : ℕ)
    (world state : SeWorld β κ) : Prop extends SameDevice world state where
  issued : state.issued = world.issued + done
  frame : ∀ object place, ¬ InRegion encBuffer (min (16 * done) (2 ^ 8)) (object, place) →
    state.memory object place = world.memory object place
  touched : TouchedOnly (fun access => InRegion buffer (min (16 * done) (2 ^ 8)) access ∨
    InRegion encBuffer (min (16 * done) (2 ^ 8)) access) world state
  blocks : world.Succeed done → ∀ index < min (16 * done) (2 ^ 8),
    state.byteAt encBuffer index = ecb encrypt (world.byteAt buffer) index

section Steps

variable {atecc : Atecc608 κ} {keyItem : KeyItem} {encrypt : Block → Block}
  {buffer encBuffer : Pointer β} {done : ℕ} {world state final : SeWorld β κ}

theorem Encrypting.refl : Encrypting encrypt buffer encBuffer 0 world world where
  keys := rfl
  succeeds := rfl
  issued := rfl
  frame _ _ _ := rfl
  touched := .refl
  blocks _ _ index_lt := absurd index_lt (Nat.not_lt_zero _)

/-- What a command reads and writes lies among the blocks done. -/
theorem InRegion.block {pointer : Pointer β} {access : β × ℕ}
    (inside : InRegion (pointer.add (16 * done % 2 ^ 8)) 16 access) :
    InRegion pointer (min (16 * (done + 1)) (2 ^ 8)) access :=
  inside.of_add.mono (by omega)

theorem InRegion.earlier {pointer : Pointer β} {access : β × ℕ}
    (inside : InRegion pointer (min (16 * done) (2 ^ 8)) access) :
    InRegion pointer (min (16 * (done + 1)) (2 ^ 8)) access :=
  inside.mono (by omega)

/-- The next command fails: it reads its block and writes nothing. -/
theorem Encrypting.failed (encrypting : Encrypting encrypt buffer encBuffer done world state)
    (same : SameBuffers state final) (issued : final.issued = state.issued + 1)
    (touched : TouchedOnly (InRegion (buffer.add (16 * done % 2 ^ 8)) 16) state final)
    (failed : state.succeeds state.issued = false) :
    Encrypting encrypt buffer encBuffer (done + 1) world final where
  keys := same.keys.trans encrypting.keys
  succeeds := same.succeeds.trans encrypting.succeeds
  issued := by rw [issued, encrypting.issued, Nat.add_assoc]
  frame object place outside := by
    rw [same.memory]
    exact encrypting.frame object place fun inside => outside inside.earlier
  touched := by
    apply TouchedOnly.trans
    · apply encrypting.touched.mono
      rintro access (inside | inside)
      · exact .inl inside.earlier
      · exact .inr inside.earlier
    · exact touched.mono fun access inside => .inl inside.block
  blocks succeed := by
    rw [encrypting.succeeds, encrypting.issued] at failed
    have passed := succeed done (Nat.lt_succ_self done)
    rw [failed] at passed
    cases passed

variable [DecidableEq β]

/-- The next command succeeds: its block is filled in. -/
theorem Encrypting.passed (encrypting : Encrypting encrypt buffer encBuffer done world state)
    (distinct : buffer.object ≠ encBuffer.object)
    (transferred : Transferred (buffer.add (16 * done % 2 ^ 8)) (encBuffer.add (16 * done % 2 ^ 8))
      (byteOf (encrypt (blockAt (state.byteAt buffer) (16 * done % 2 ^ 8)))) 16 16 state final)
    (issued : final.issued = state.issued + 1) :
    Encrypting encrypt buffer encBuffer (done + 1) world final where
  keys := transferred.filled.keys.trans encrypting.keys
  succeeds := transferred.filled.succeeds.trans encrypting.succeeds
  issued := by rw [issued, encrypting.issued, Nat.add_assoc]
  frame object place outside := by
    rw [transferred.filled.memory, if_neg fun inside => outside inside.block]
    exact encrypting.frame object place fun inside => outside inside.earlier
  touched := by
    apply TouchedOnly.trans
    · apply encrypting.touched.mono
      rintro access (inside | inside)
      · exact .inl inside.earlier
      · exact .inr inside.earlier
    · apply transferred.touched.mono
      rintro access (inside | inside)
      · exact .inl inside.block
      · exact .inr inside.block
  blocks succeed index index_lt := by
    have source : state.byteAt buffer = world.byteAt buffer := by
      funext place
      exact encrypting.frame _ _ fun inside => distinct inside.1
    by_cases here : 16 * done % 2 ^ 8 ≤ index ∧ index < 16 * done % 2 ^ 8 + 16
    · obtain ⟨offset, rfl⟩ := Nat.exists_eq_add_of_le here.1
      have offset_lt : offset < 16 := Nat.lt_of_add_lt_add_left here.2
      obtain ⟨block, block_eq⟩ : ∃ block, 16 * done % 2 ^ 8 = 16 * block :=
        ⟨done % 16, by omega⟩
      have filled := transferred.filled.byteAt offset_lt
      rw [byteAt_add, source] at filled
      rw [filled, block_eq, ecb_block _ _ _ offset_lt]
    · have before : index < min (16 * done) (2 ^ 8) := by omega
      have outside : ¬ InRegion (encBuffer.add (16 * done % 2 ^ 8)) 16
          (encBuffer.object, encBuffer.offset + index) := by
        rintro ⟨-, after, within⟩
        simp only [Pointer.add] at after within
        omega
      have kept : final.byteAt encBuffer index = state.byteAt encBuffer index := by
        simp only [SeWorld.byteAt]
        rw [transferred.filled.memory, if_neg outside]
      rw [kept]
      exact encrypting.blocks (fun earlier earlier_lt => succeed earlier (by omega)) index before

/-- A command of the loop. -/
theorem Encrypting.next (encrypting : Encrypting (atecc.aes (world.keyOf keyItem)) buffer
      encBuffer done world state) (distinct : buffer.object ≠ encBuffer.object) :
    wp (atcabAesEncrypt atecc keyItem.keySlotNumber keyItem.keyBlockIndex
        (buffer.add (16 * done % 2 ^ 8)) (encBuffer.add (16 * done % 2 ^ 8)))
      (fun _ final => Encrypting (atecc.aes (world.keyOf keyItem)) buffer encBuffer (done + 1)
        world final) state := by
  have key : state.keys keyItem.keySlotNumber keyItem.keyBlockIndex = world.keyOf keyItem := by
    rw [encrypting.keys]
    rfl
  cases outcome : state.succeeds state.issued with
  | true =>
      refine wp_mono (atcabAesEncrypt_transferred atecc _ _ _ _ outcome) fun _ final encrypted => ?_
      obtain ⟨transferred, issued⟩ := encrypted
      rw [key] at transferred
      have source : (fun place : Fin 16 => state.byteAt (buffer.add (16 * done % 2 ^ 8)) place) =
          blockAt (state.byteAt buffer) (16 * done % 2 ^ 8) := by
        funext place
        rw [byteAt_add]
        rfl
      rw [source] at transferred
      exact encrypting.passed distinct transferred issued
  | false =>
      simp only [atcabAesEncrypt, wp_bind, wp_gets, wp_loadBytes, wp_keyCommand,
        succeeds_touchAll, issued_touchAll, outcome, Bool.false_eq_true, ↓reduceIte, wp_pure]
      refine encrypting.failed ⟨⟨rfl, rfl⟩, rfl⟩ rfl ?_ outcome
      exact TouchedOnly.refl.touchAll fun access inside => inside

end Steps

/-- The call issues a command for each block and reports success. -/
theorem wp_secureElementAesEncrypt [DecidableEq β] (atecc : Atecc608 κ) {buffer encBuffer : Pointer β}
    (distinct : buffer.object ≠ encBuffer.object) {size : ℕ} (whole : size % 16 = 0)
    {keyID : KeyIdentifier} {keyItem : KeyItem} (found : getKeyByID keyID = some keyItem)
    (world : SeWorld β κ) :
    wp (secureElementAesEncrypt atecc (some buffer) size keyID (some encBuffer))
      (fun status final => status = .success ∧
        Encrypting (atecc.aes (world.keyOf keyItem)) buffer encBuffer (size / 16) world final)
      world := by
  simp only [secureElementAesEncrypt, whole, ne_eq, not_true_eq_false, ↓reduceIte, found]
  -- `done` blocks are behind the position, where `16 * done` bytes are not left.
  refine wp_loop (fun position state => ∃ done, 16 * done + position.2 = size ∧
      position.1 = 16 * done % 2 ^ 8 ∧
      Encrypting (atecc.aes (world.keyOf keyItem)) buffer encBuffer done world state)
    (fun position _ => position.2) ?_ _ _ _ (Nat.lt_succ_self _) ⟨0, by simp, rfl, .refl⟩
  rintro ⟨block, rest⟩ state ⟨done, split, block_eq, encrypting⟩
  simp only at split block_eq
  by_cases finished : rest = 0
  · subst rest
    have count : size / 16 = done := by omega
    rw [count]
    simpa using encrypting
  · simp only [finished, not_false_eq_true, ↓reduceIte, wp_bind, wp_pure, block_eq]
    refine wp_mono (encrypting.next distinct) fun _ final encrypted => ⟨⟨done + 1, ?_, ?_, ?_⟩, ?_⟩
    · omega
    · omega
    · exact encrypted
    · omega

/-! ## When the encryption is block-wise -/

/-- A call that reports success has encrypted every block and has written
nothing else, and none of its commands has failed. -/
structure BlockwiseEcb (atecc : Atecc608 κ) (keyItem : KeyItem) (buffer encBuffer : Pointer β)
    (size : ℕ) (world : SeWorld β κ) (status : SecureElementStatus) (final : SeWorld β κ) :
    Prop where
  blocks : status = .success → ∀ block < size / 16,
    blockAt (final.byteAt encBuffer) (16 * block) =
      atecc.aes (world.keyOf keyItem) (blockAt (world.byteAt buffer) (16 * block))
  written : status = .success → ∀ object place, ¬ InRegion encBuffer size (object, place) →
    final.memory object place = world.memory object place
  touched : status = .success →
    TouchedOnly (fun access => InRegion buffer size access ∨ InRegion encBuffer size access)
      world final
  failed : ¬ world.EveryCommandSucceeded final → status ≠ .success

/-- Every command of the call succeeds, and the blocks that its counter does
not reach, from the 17th on, hold their encryption already. -/
def EcbTrusted (atecc : Atecc608 κ) (keyItem : KeyItem) (buffer encBuffer : Pointer β)
    (size : ℕ) (world : SeWorld β κ) : Prop :=
  world.Succeed (size / 16) ∧ ∀ block, 16 ≤ block → block < size / 16 →
    blockAt (world.byteAt encBuffer) (16 * block) =
      atecc.aes (world.keyOf keyItem) (blockAt (world.byteAt buffer) (16 * block))

section Result

variable {atecc : Atecc608 κ} {keyItem : KeyItem} {buffer encBuffer : Pointer β} {size : ℕ}
  {world final : SeWorld β κ}

theorem Encrypting.succeed_iff {encrypt : Block → Block} {done : ℕ}
    (encrypting : Encrypting encrypt buffer encBuffer done world final) :
    world.EveryCommandSucceeded final ↔ world.Succeed done := by
  constructor
  · intro every index index_lt
    apply every _ (Nat.le_add_right _ _)
    rw [encrypting.issued]
    exact Nat.add_lt_add_left index_lt _
  · intro succeed index after before
    obtain ⟨offset, rfl⟩ := Nat.exists_eq_add_of_le after
    rw [encrypting.issued] at before
    exact succeed offset (Nat.lt_of_add_lt_add_left before)

/-- The blocks beyond the counter are as before. -/
theorem Encrypting.beyond {encrypt : Block → Block} {done block : ℕ}
    (encrypting : Encrypting encrypt buffer encBuffer done world final) (late : 16 ≤ block) :
    blockAt (final.byteAt encBuffer) (16 * block) =
      blockAt (world.byteAt encBuffer) (16 * block) := by
  funext index
  apply encrypting.frame
  rintro ⟨-, -, within⟩
  simp only at within
  omega

/-- The blocks of the counter are encrypted. -/
theorem Encrypting.within {encrypt : Block → Block} {done block : ℕ}
    (encrypting : Encrypting encrypt buffer encBuffer done world final)
    (succeed : world.Succeed done) (early : block < 16) (block_lt : block < done) :
    blockAt (final.byteAt encBuffer) (16 * block) =
      encrypt (blockAt (world.byteAt buffer) (16 * block)) := by
  funext index
  have index_lt := index.isLt
  have place : 16 * block + index.val < min (16 * done) (2 ^ 8) := by omega
  rw [blockAt, encrypting.blocks succeed _ place, ecb_block _ _ _ index_lt, byteOf]
  congr 1
  exact Fin.ext (Nat.mod_eq_of_lt index_lt)

/-- What the call leaves is block-wise exactly when it is trusted. -/
theorem Encrypting.blockwise_iff
    (encrypting : Encrypting (atecc.aes (world.keyOf keyItem)) buffer encBuffer (size / 16)
      world final) (whole : size % 16 = 0) :
    BlockwiseEcb atecc keyItem buffer encBuffer size world .success final ↔
      EcbTrusted atecc keyItem buffer encBuffer size world := by
  constructor
  · intro blockwise
    have every : world.EveryCommandSucceeded final := by
      by_contra failed
      exact blockwise.failed failed rfl
    refine ⟨encrypting.succeed_iff.mp every, fun block late block_lt => ?_⟩
    rw [← encrypting.beyond late]
    exact blockwise.blocks rfl block block_lt
  · rintro ⟨succeed, already⟩
    have fits : min (16 * (size / 16)) (2 ^ 8) ≤ size := by omega
    refine ⟨fun _ block block_lt => ?_, fun _ object place outside => ?_, fun _ => ?_,
      fun failed => absurd (encrypting.succeed_iff.mpr succeed) failed⟩
    · rcases Nat.lt_or_ge block 16 with early | late
      · exact encrypting.within succeed early block_lt
      · rw [encrypting.beyond late]
        exact already block late block_lt
    · exact encrypting.frame object place fun inside => outside (inside.mono fits)
    · apply encrypting.touched.mono
      rintro access (inside | inside)
      · exact .inl (inside.mono fits)
      · exact .inr (inside.mono fits)

end Result

/-- A block-wise call was trusted. -/
theorem ecbTrusted_of_blockwise [DecidableEq β] {atecc : Atecc608 κ}
    {buffer encBuffer : Pointer β} (distinct : buffer.object ≠ encBuffer.object) {size : ℕ}
    (whole : size % 16 = 0) {keyID : KeyIdentifier} {keyItem : KeyItem}
    (found : getKeyByID keyID = some keyItem) {world : SeWorld β κ}
    (holds : wp (secureElementAesEncrypt atecc (some buffer) size keyID (some encBuffer))
      (BlockwiseEcb atecc keyItem buffer encBuffer size world) world) :
    EcbTrusted atecc keyItem buffer encBuffer size world := by
  have described := wp_secureElementAesEncrypt atecc distinct whole found world
  obtain ⟨status, final, -, ⟨rfl, encrypting⟩, blockwise⟩ := wp_and described holds
  exact (encrypting.blockwise_iff whole).mp blockwise

/-- `SecureElementAesEncrypt` is block-wise ECB exactly when none of its
commands fails and the blocks from the 17th on are encrypted already. -/
theorem secureElementAesEncrypt_ecb_iff [DecidableEq β] (atecc : Atecc608 κ)
    {buffer encBuffer : Pointer β} (distinct : buffer.object ≠ encBuffer.object) {size : ℕ}
    (whole : size % 16 = 0) {keyID : KeyIdentifier} {keyItem : KeyItem}
    (found : getKeyByID keyID = some keyItem) (world : SeWorld β κ) :
    wp (secureElementAesEncrypt atecc (some buffer) size keyID (some encBuffer))
        (BlockwiseEcb atecc keyItem buffer encBuffer size world) world ↔
      EcbTrusted atecc keyItem buffer encBuffer size world := by
  constructor
  · exact ecbTrusted_of_blockwise distinct whole found
  · intro trusted
    refine wp_mono (wp_secureElementAesEncrypt atecc distinct whole found world) ?_
    rintro status final ⟨rfl, encrypting⟩
    exact (encrypting.blockwise_iff whole).mpr trusted

/-- A device whose cipher returns ones. -/
def onesCipher : Atecc608 Unit where
  cmac _ _ := fun _ => 0
  aes _ _ := fun _ => 1
  kdf _ _ := ()
  store key _ _ := key
  store_zero _ _ := rfl

/-- Two zeroed buffers, with the outcome of every command. -/
def twoBuffers (succeeds : Bool) : SeWorld Bool Unit where
  keys _ _ := ()
  used := []
  memory _ _ := 0
  touched := []
  succeeds _ := succeeds
  issued := 0

/-- Up to 16 blocks, the commands decide. -/
theorem secureElementAesEncrypt_sixteen :
    wp (secureElementAesEncrypt onesCipher (some ⟨false, 0⟩) 256 .nwkKey (some ⟨true, 0⟩))
      (BlockwiseEcb onesCipher ⟨.nwkKey, 0, 1⟩ ⟨false, 0⟩ ⟨true, 0⟩ 256 (twoBuffers true))
      (twoBuffers true) := by
  have distinct : (⟨false, 0⟩ : Pointer Bool).object ≠ (⟨true, 0⟩ : Pointer Bool).object := by
    decide
  apply (secureElementAesEncrypt_ecb_iff onesCipher distinct rfl rfl (twoBuffers true)).mpr
  refine ⟨fun _ _ => rfl, fun block late early => ?_⟩
  exact absurd late (Nat.not_le_of_lt early)

/-- The 17th block is not encrypted; and a failed command is not reported. -/
theorem secureElementAesEncrypt_not_blockwise :
    ¬ wp (secureElementAesEncrypt onesCipher (some ⟨false, 0⟩) 272 .nwkKey (some ⟨true, 0⟩))
        (BlockwiseEcb onesCipher ⟨.nwkKey, 0, 1⟩ ⟨false, 0⟩ ⟨true, 0⟩ 272 (twoBuffers true))
        (twoBuffers true) ∧
      ¬ wp (secureElementAesEncrypt onesCipher (some ⟨false, 0⟩) 16 .nwkKey (some ⟨true, 0⟩))
        (BlockwiseEcb onesCipher ⟨.nwkKey, 0, 1⟩ ⟨false, 0⟩ ⟨true, 0⟩ 16 (twoBuffers false))
        (twoBuffers false) := by
  have distinct : (⟨false, 0⟩ : Pointer Bool).object ≠ (⟨true, 0⟩ : Pointer Bool).object := by
    decide
  constructor
  · intro holds
    have trusted := ecbTrusted_of_blockwise distinct rfl rfl holds
    have block := congrFun (trusted.2 16 (Nat.le_refl 16) (by decide)) 0
    exact absurd block (by decide)
  · intro holds
    have trusted := ecbTrusted_of_blockwise distinct rfl rfl holds
    have outcome := trusted.1 0 (by decide)
    cases outcome

end GenericNode.SecureElement
