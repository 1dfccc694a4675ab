import GenericNode.Library.Hex
import GenericNode.SecureElement.Receive

/-!
# Reading the device EUI

The provisioned slot holds the EUI as sixteen ASCII characters.  Both copies
of the routine that decodes them are followed: the secure element driver's and
that of the read helper.
-/

namespace GenericNode.SecureElement

open GenericNode.Library
open GenericNode.Library.Prog

/-- `SE_EUI_SIZE`. -/
def seEuiSize : ℕ :=
  8

/-- `DEV_EUI_ASCII_SIZE_BYTE`. -/
def devEuiAsciiSizeByte : ℕ :=
  16

/-- `TNGLORA_JOIN_EUI_SLOT`. -/
def tngloraJoinEuiSlot : ℕ :=
  9

/-- `TNGLORA_DEV_EUI_SLOT`. -/
def tngloraDevEuiSlot : ℕ :=
  10

/-- What `atcab_read_zone` returns for each slot: a status and a block. -/
abbrev ReadZone :=
  ℕ → AtcaStatus × (ℕ → UInt8)

/-- `memcpy1`, of `size` bytes to the start of the destination. -/
def copyBytes (src : ℕ → UInt8) (size : ℕ) : Prog (ℕ → UInt8) Unit :=
  modify fun dst index => if index < size then src index else dst index

/-- `atcab_read_joinEUI`, to a destination that is not null. -/
def atcabReadJoinEui (readZone : ReadZone) : Prog (ℕ → UInt8) AtcaStatus := do
  let (status, readBuf) := readZone tngloraJoinEuiSlot
  if status ≠ .success then
    pure status
  else do
    copyBytes readBuf seEuiSize
    pure status

/-- The first test of a pair: the high nibble, or no digit. -/
def highNibble (character : UInt8) : Option UInt8 :=
  if (0x30 : UInt8) ≤ character ∧ character ≤ (0x39 : UInt8) then
    some ((character - 0x30) <<< 4)
  else if (0x41 : UInt8) ≤ character ∧ character ≤ (0x46 : UInt8) then
    some ((character - 0x41 + 10) <<< 4)
  else
    none

/-- The second test of a pair: the low nibble joined, or no digit. -/
def joinNibble (temp character : UInt8) : Option UInt8 :=
  if (0x30 : UInt8) ≤ character ∧ character ≤ (0x39 : UInt8) then
    some (temp ||| (character - 0x30))
  else if (0x41 : UInt8) ≤ character ∧ character ≤ (0x46 : UInt8) then
    some (temp ||| (character - 0x41 + 10))
  else
    none

/-- One iteration of `convert_ascii_devEUI`. -/
def convertPair (devEuiAscii : ℕ → UInt8) (pos : ℕ) :
    Prog (ℕ → UInt8) (ℕ ⊕ AtcaStatus) :=
  if pos < devEuiAsciiSizeByte then
    match highNibble (devEuiAscii pos) with
    | none => pure (.inr .badParam)
    | some temp =>
        match joinNibble temp (devEuiAscii (pos + 1)) with
        | none => pure (.inr .badParam)
        | some temp => do
            modify fun devEui => Function.update devEui (pos / 2) temp
            pure (.inl (pos + 2))
  else
    pure (.inr .success)

/-- `convert_ascii_devEUI`. -/
def convertAsciiDevEui (devEuiAscii : ℕ → UInt8) : Prog (ℕ → UInt8) AtcaStatus :=
  loop (convertPair devEuiAscii) (devEuiAsciiSizeByte + 1) 0

/-- `atcab_read_devEUI`. -/
def atcabReadDevEui (readZone : ReadZone) : Prog (ℕ → UInt8) AtcaStatus :=
  let (status, devEuiAscii) := readZone tngloraDevEuiSlot
  if status ≠ .success then
    pure status
  else
    convertAsciiDevEui devEuiAscii

namespace ReadHelper

/-- `DEV_EUI_SLOT` of the read helper. -/
def devEuiSlot : ℕ :=
  10

/-- `DEV_EUI_ASCII_SIZE_BYTE` of the read helper. -/
def devEuiAsciiSizeByte : ℕ :=
  16

/-- `convert_ascii_devEUI` of the read helper. -/
def convertAsciiDevEui (devEuiAscii : ℕ → UInt8) : Prog (ℕ → UInt8) AtcaStatus :=
  loop (fun pos =>
    if pos < devEuiAsciiSizeByte then do
      let first := devEuiAscii pos
      let second := devEuiAscii (pos + 1)
      let low (temp : UInt8) : Prog (ℕ → UInt8) (ℕ ⊕ AtcaStatus) :=
        if (0x30 : UInt8) ≤ second ∧ second ≤ (0x39 : UInt8) then do
          modify fun devEui => Function.update devEui (pos / 2) (temp ||| (second - 0x30))
          pure (.inl (pos + 2))
        else if (0x41 : UInt8) ≤ second ∧ second ≤ (0x46 : UInt8) then do
          modify fun devEui => Function.update devEui (pos / 2) (temp ||| (second - 0x41 + 10))
          pure (.inl (pos + 2))
        else
          pure (.inr .badParam)
      if (0x30 : UInt8) ≤ first ∧ first ≤ (0x39 : UInt8) then
        low ((first - 0x30) <<< 4)
      else if (0x41 : UInt8) ≤ first ∧ first ≤ (0x46 : UInt8) then
        low ((first - 0x41 + 10) <<< 4)
      else
        pure (.inr .badParam)
    else
      pure (.inr .success)) (devEuiAsciiSizeByte + 1) 0

/-- `atcab_read_devEUI` of the read helper. -/
def atcabReadDevEui (readZone : ReadZone) : Prog (ℕ → UInt8) AtcaStatus :=
  let (status, devEuiAscii) := readZone devEuiSlot
  if status ≠ .success then
    pure status
  else
    convertAsciiDevEui devEuiAscii

end ReadHelper

/-! ## One pair -/

/-- A digit gives its nibble, shifted up. -/
theorem highNibble_hexDigit {nibble : ℕ} (nibble_lt : nibble < 16) :
    highNibble (hexDigit nibble) = some (UInt8.ofNat (16 * nibble)) := by
  have all : ∀ nibble : Fin 16,
      highNibble (hexDigit nibble) = some (UInt8.ofNat (16 * nibble)) := by decide +kernel
  exact all ⟨nibble, nibble_lt⟩

/-- A digit joins its nibble below. -/
theorem joinNibble_hexDigit {high low : ℕ} (high_lt : high < 16) (low_lt : low < 16) :
    joinNibble (UInt8.ofNat (16 * high)) (hexDigit low) =
      some (UInt8.ofNat (16 * high + low)) := by
  have all : ∀ high low : Fin 16, joinNibble (UInt8.ofNat (16 * high)) (hexDigit low) =
      some (UInt8.ofNat (16 * high + low)) := by decide +kernel
  exact all ⟨high, high_lt⟩ ⟨low, low_lt⟩

theorem highNibble_eq_none {character : UInt8} (bad : ¬IsHexDigit character) :
    highNibble character = none := by
  rw [IsHexDigit, not_or] at bad
  rw [highNibble, if_neg bad.1, if_neg bad.2]

theorem joinNibble_eq_none {temp character : UInt8} (bad : ¬IsHexDigit character) :
    joinNibble temp character = none := by
  rw [IsHexDigit, not_or] at bad
  rw [joinNibble, if_neg bad.1, if_neg bad.2]

/-- The destination after the pairs before a position: the bytes written have
those pairs as their text, the others are the old ones. -/
structure Decoded (devEuiAscii dst : ℕ → UInt8) (pos : ℕ) (devEui : ℕ → UInt8) : Prop where
  text : ∀ index < pos, hexText devEui index = devEuiAscii index
  frame : ∀ index, pos / 2 ≤ index → devEui index = dst index

namespace Decoded

variable {devEuiAscii dst devEui : ℕ → UInt8} {pos : ℕ}

theorem start (devEuiAscii dst : ℕ → UInt8) : Decoded devEuiAscii dst 0 dst where
  text := fun _ impossible => absurd impossible (Nat.not_lt_zero _)
  frame := fun _ _ => rfl

/-- What was decoded are digits. -/
theorem isHexDigit (decoded : Decoded devEuiAscii dst pos devEui) {index : ℕ}
    (index_lt : index < pos) : IsHexDigit (devEuiAscii index) := by
  rw [← decoded.text index index_lt]
  exact isHexDigit_hexText devEui index

/-- A pair of digits extends the part that is decoded. -/
theorem pair {half high low : ℕ} (decoded : Decoded devEuiAscii dst (2 * half) devEui)
    (high_lt : high < 16) (low_lt : low < 16)
    (first : hexDigit high = devEuiAscii (2 * half))
    (second : hexDigit low = devEuiAscii (2 * half + 1)) :
    Decoded devEuiAscii dst (2 * half + 2)
      (Function.update devEui half (UInt8.ofNat (16 * high + low))) := by
  have value : (UInt8.ofNat (16 * high + low)).toNat = 16 * high + low := by
    rw [UInt8.toNat_ofNat']
    omega
  constructor
  · intro index index_lt
    rcases Nat.lt_trichotomy index (2 * half) with before | rfl | after
    · rw [← decoded.text index before]
      apply hexText_congr
      exact Function.update_of_ne (by omega) _ _
    · rw [hexText, nibbleAt_even, Function.update_self, value, ← first]
      congr 1
      omega
    · obtain rfl : index = 2 * half + 1 := by omega
      rw [hexText, nibbleAt_odd, Function.update_self, value, ← second]
      congr 1
      omega
  · intro index index_ge
    rw [Function.update_of_ne (by omega)]
    exact decoded.frame index (by omega)

/-- The decoded bytes are the only ones with that text. -/
theorem unique (decoded : Decoded devEuiAscii dst pos devEui) {eui : ℕ → UInt8}
    (text : ∀ index < pos, hexText eui index = devEuiAscii index) {index : ℕ}
    (index_lt : 2 * index + 1 < pos) : devEui index = eui index := by
  apply eq_of_hexText_eq
  · rw [decoded.text _ (by omega), text _ (by omega)]
  · rw [decoded.text _ index_lt, text _ index_lt]

end Decoded

/-- How a conversion ends: every pair is decoded, or the first character that
is no digit stops it. -/
inductive Ends (devEuiAscii dst : ℕ → UInt8) : AtcaStatus → (ℕ → UInt8) → Prop
  | success {devEui : ℕ → UInt8} (decoded : Decoded devEuiAscii dst 16 devEui) :
      Ends devEuiAscii dst .success devEui
  | badParam {devEui : ℕ → UInt8} {position : ℕ} (position_lt : position < 16)
      (bad : ¬IsHexDigit (devEuiAscii position))
      (before : ∀ index < position, IsHexDigit (devEuiAscii index))
      (decoded : Decoded devEuiAscii dst (2 * (position / 2)) devEui) :
      Ends devEuiAscii dst .badParam devEui

theorem wp_convertAsciiDevEui (devEuiAscii dst : ℕ → UInt8) :
    wp (convertAsciiDevEui devEuiAscii) (Ends devEuiAscii dst) dst := by
  refine wp_loop
    (fun pos devEui => ∃ half, pos = 2 * half ∧ pos ≤ 16 ∧ Decoded devEuiAscii dst pos devEui)
    (fun pos _ => 16 - pos) ?_ _ _ _ (by decide) ⟨0, rfl, by decide, Decoded.start _ _⟩
  rintro _ devEui ⟨half, rfl, le, decoded⟩
  unfold convertPair
  split
  · rename_i lt
    have half_lt : 2 * half < 16 := lt
    by_cases first : IsHexDigit (devEuiAscii (2 * half))
    · obtain ⟨high, high_lt, high_eq⟩ := first.exists_nibble
      rw [← high_eq, highNibble_hexDigit high_lt]
      by_cases second : IsHexDigit (devEuiAscii (2 * half + 1))
      · obtain ⟨low, low_lt, low_eq⟩ := second.exists_nibble
        simp only [← low_eq, joinNibble_hexDigit high_lt low_lt, wp_bind, wp_modify, wp_pure,
          Nat.mul_div_cancel_left half Nat.zero_lt_two]
        exact ⟨⟨half + 1, by omega, by omega, decoded.pair high_lt low_lt high_eq low_eq⟩,
          by omega⟩
      · simp only [joinNibble_eq_none second, wp_pure]
        refine Ends.badParam (show 2 * half + 1 < 16 by omega) second ?_ ?_
        · intro index index_lt
          rcases Nat.lt_succ_iff_lt_or_eq.mp index_lt with before | rfl
          · exact decoded.isHexDigit before
          · exact first
        · rwa [show (2 * half + 1) / 2 = half by omega]
    · simp only [highNibble_eq_none first, wp_pure]
      refine Ends.badParam half_lt first (fun index => decoded.isHexDigit) ?_
      rwa [Nat.mul_div_cancel_left half Nat.zero_lt_two]
  · rename_i le'
    obtain rfl : half = 8 := by
      have : ¬2 * half < 16 := le'
      omega
    rw [wp_pure]
    exact Ends.success decoded

/-- The two copies of the conversion are one program. -/
theorem readHelper_convertAsciiDevEui (devEuiAscii : ℕ → UInt8) :
    ReadHelper.convertAsciiDevEui devEuiAscii = convertAsciiDevEui devEuiAscii := by
  unfold ReadHelper.convertAsciiDevEui convertAsciiDevEui
  congr 1
  funext pos
  unfold convertPair
  by_cases lt : pos < 16
  · rw [if_pos (show pos < ReadHelper.devEuiAsciiSizeByte from lt),
      if_pos (show pos < devEuiAsciiSizeByte from lt)]
    unfold highNibble joinNibble
    by_cases decimal : (0x30 : UInt8) ≤ devEuiAscii pos ∧ devEuiAscii pos ≤ (0x39 : UInt8)
    · simp only [if_pos decimal]
      split_ifs <;> rfl
    · by_cases letter : (0x41 : UInt8) ≤ devEuiAscii pos ∧ devEuiAscii pos ≤ (0x46 : UInt8)
      · simp only [if_neg decimal, if_pos letter]
        split_ifs <;> rfl
      · simp only [if_neg decimal, if_neg letter]
  · rw [if_neg (show ¬pos < ReadHelper.devEuiAsciiSizeByte from lt),
      if_neg (show ¬pos < devEuiAsciiSizeByte from lt)]

/-- What a conversion does to its destination, by its status. -/
structure DecodesDevEui (devEuiAscii dst : ℕ → UInt8) (status : AtcaStatus)
    (devEui : ℕ → UInt8) : Prop where
  accepts : status = .success ↔ ∀ index < 16, IsHexDigit (devEuiAscii index)
  encodeDecode : status = .success → ∀ index < 16, hexText devEui index = devEuiAscii index
  unique : status = .success → ∀ eui, (∀ index < 16, hexText eui index = devEuiAscii index) →
    ∀ index < 8, eui index = devEui index
  decodeEncode : ∀ eui, (∀ index < 16, devEuiAscii index = hexText eui index) →
    status = .success ∧ ∀ index < 8, devEui index = eui index
  rejects : status ≠ .success → status = .badParam ∧
    ∃ position < 16, ¬IsHexDigit (devEuiAscii position) ∧
      (∀ index < position, IsHexDigit (devEuiAscii index)) ∧
      (∀ index < 2 * (position / 2), hexText devEui index = devEuiAscii index) ∧
      ∀ index ≥ position / 2, devEui index = dst index
  frame : ∀ index ≥ 8, devEui index = dst index

theorem Ends.decodesDevEui {devEuiAscii dst devEui : ℕ → UInt8} {status : AtcaStatus}
    (ends : Ends devEuiAscii dst status devEui) :
    DecodesDevEui devEuiAscii dst status devEui := by
  cases ends with
  | success decoded =>
      have unique : ∀ eui, (∀ index < 16, hexText eui index = devEuiAscii index) →
          ∀ index < 8, devEui index = eui index :=
        fun eui text index index_lt => decoded.unique text (by omega)
      constructor
      · exact iff_of_true rfl fun index => decoded.isHexDigit
      · exact fun _ => decoded.text
      · exact fun _ eui text index index_lt => (unique eui text index index_lt).symm
      · exact fun eui text => ⟨rfl, unique eui fun index index_lt => (text index index_lt).symm⟩
      · exact fun failed => absurd rfl failed
      · exact decoded.frame
  | @badParam _ position position_lt bad before decoded =>
      have frame : ∀ index ≥ position / 2, devEui index = dst index :=
        fun index index_ge => decoded.frame index (by omega)
      constructor
      · exact iff_of_false (by decide) fun all => bad (all position position_lt)
      · exact fun impossible => absurd impossible (by decide)
      · exact fun impossible => absurd impossible (by decide)
      · intro eui text
        rw [text position position_lt] at bad
        exact absurd (isHexDigit_hexText eui position) bad
      · exact fun _ => ⟨rfl, position, position_lt, bad, before, decoded.text, frame⟩
      · exact fun index index_ge => frame index (by omega)

/-- The conversion accepts the upper-case texts and inverts them, stops at the
first other character, and is the same in both copies. -/
theorem convertAsciiDevEui_decodesDevEui (devEuiAscii dst : ℕ → UInt8) :
    (∃ status devEui,
      (convertAsciiDevEui devEuiAscii).run dst = (some status, devEui) ∧
      (ReadHelper.convertAsciiDevEui devEuiAscii).run dst = (some status, devEui) ∧
      DecodesDevEui devEuiAscii dst status devEui) ∧
    ∀ readZone, (ReadHelper.atcabReadDevEui readZone).run dst =
      (atcabReadDevEui readZone).run dst := by
  constructor
  · obtain ⟨status, devEui, returned, ends⟩ := wp_convertAsciiDevEui devEuiAscii dst
    refine ⟨status, devEui, returned, ?_, ends.decodesDevEui⟩
    rw [readHelper_convertAsciiDevEui, returned]
  · intro readZone
    simp only [ReadHelper.atcabReadDevEui, atcabReadDevEui, readHelper_convertAsciiDevEui,
      ReadHelper.devEuiSlot, tngloraDevEuiSlot]
    rfl

end GenericNode.SecureElement
