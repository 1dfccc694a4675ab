import GenericNode.Library.Program
import Mathlib.Logic.Function.Iterate

/-!
# The storage of the data block

The callbacks of `basic_fuota` that the fragmentation decoder stores the data
block with, and its CRC.  Memory goes on behind `UnfragmentedData`.
-/

namespace GenericNode.Fuota

open GenericNode.Library
open GenericNode.Library.Prog

/-- `FRAG_MAX_NB`. -/
def fragMaxNb : ℕ := 21

/-- `FRAG_MAX_SIZE`. -/
def fragMaxSize : ℕ := 50

/-- `FRAG_MAX_REDUNDANCY`. -/
def fragMaxRedundancy : ℕ := 5

/-- `UNFRAGMENTED_DATA_SIZE`. -/
def unfragmentedDataSize : ℕ := fragMaxNb * fragMaxSize

/-- The bytes from a pointer on. -/
abbrev Row :=
  ℕ → UInt8

/-- A call of the decoder to the application. -/
inductive FragRequest where
  | erase (addr size : ℕ)
  | write (addr : ℕ) (data : Row) (size : ℕ)
  | read (addr : ℕ) (data : Row) (size : ℕ)

/-- A call that returned: its status, the memory before and after it, and the
bytes of its data buffer after it. -/
structure FragCall where
  request : FragRequest
  status : UInt8
  before : Row
  after : Row
  data : Row

/-- The memory from `UnfragmentedData` on; for the record, the first index that
was never touched, nor any after it, and the calls of the decoder. -/
structure Storage where
  unfragmentedData : Row
  touched : ℕ
  calls : List FragCall

/-! ## The callbacks -/

/-- Access a byte. -/
def Storage.touch (storage : Storage) (index : ℕ) : Storage :=
  { storage with touched := max storage.touched (index + 1) }

/-- Read a byte of `UnfragmentedData`. -/
def load (index : ℕ) : Prog Storage UInt8 := do
  modify fun storage => storage.touch index
  gets fun storage => storage.unfragmentedData index

/-- Write a byte of `UnfragmentedData`. -/
def store (index : ℕ) (byte : UInt8) : Prog Storage Unit := do
  modify fun storage => storage.touch index
  modify fun storage =>
    { storage with unfragmentedData := Function.update storage.unfragmentedData index byte }

/-- `FragDecoderErase`. -/
def fragDecoderErase (addr size : ℕ) : Prog Storage UInt8 :=
  if size ≥ unfragmentedDataSize then return 0xFF
  else do
    forRange 0 size () fun i _ => store ((addr + i) % 2 ^ 32) 0xFF
    return 0

/-- `FragDecoderWrite`. -/
def fragDecoderWrite (addr : ℕ) (data : Row) (size : ℕ) : Prog Storage UInt8 :=
  if size ≥ unfragmentedDataSize then return 0xFF
  else do
    forRange 0 size () fun i _ => store ((addr + i) % 2 ^ 32) (data i)
    return 0

/-- The status, and the data buffer. -/
def fragDecoderRead (addr : ℕ) (data : Row) (size : ℕ) : Prog Storage (UInt8 × Row) :=
  if size ≥ unfragmentedDataSize then return (0xFF, data)
  else do
    let data ← forRange 0 size data fun i data => do
      let byte ← load ((addr + i) % 2 ^ 32)
      return Function.update data i byte
    return (0, data)

/-- Run a callback: its status, and the data buffer after it. -/
def FragRequest.run : FragRequest → Prog Storage (UInt8 × Row)
  | .erase addr size => do
      let status ← fragDecoderErase addr size
      return (status, fun _ => 0xFF)
  | .write addr data size => do
      let status ← fragDecoderWrite addr data size
      return (status, data)
  | .read addr data size => fragDecoderRead addr data size

/-- The decoder calls back: the data buffer after the call. -/
def callback (request : FragRequest) : Prog Storage Row := do
  let before ← gets Storage.unfragmentedData
  let (status, data) ← request.run
  modify fun storage =>
    { storage with
      calls := storage.calls ++ [⟨request, status, before, storage.unfragmentedData, data⟩] }
  return data

/-! ## The CRC -/

/-- One bit of `Crc32`. -/
def crc32Bit (crc : UInt32) : UInt32 :=
  (crc >>> 1) ^^^ (0xEDB88320 &&& ~~~((crc &&& 0x01) - 1))

/-- One byte of `Crc32`. -/
def crc32Byte (crc : UInt32) (byte : UInt8) : UInt32 :=
  crc32Bit^[8] (crc ^^^ byte.toUInt32)

/-- One turn of `Crc32`: its index, and the register. -/
def crc32Body (length : UInt16) (place : UInt16 × UInt32) :
    Prog Storage ((UInt16 × UInt32) ⊕ UInt32) :=
  if place.1 < length then do
    let byte ← load place.1.toNat
    return .inl (place.1 + 1, crc32Byte place.2 byte)
  else
    return .inr place.2

/-- `Crc32` of `UnfragmentedData`. -/
def crc32 (length : UInt16) : Prog Storage UInt32 := do
  let crc ← loop (crc32Body length) (2 ^ 16) (0, 0xFFFFFFFF)
  return ~~~crc

/-- The CRC of some bytes. -/
def crc32Of (bytes : List UInt8) : UInt32 :=
  ~~~(bytes.foldl crc32Byte 0xFFFFFFFF)

/-- The first bytes of a memory. -/
def Row.take (row : Row) (length : ℕ) : List UInt8 :=
  (List.range length).map row

/-- Bytes stored from an address on. -/
def Row.overwrite (row : Row) (addr : ℕ) (data : Row) (size : ℕ) : Row :=
  fun index => if addr ≤ index ∧ index < addr + size then data (index - addr) else row index

/-! ## What the callbacks do -/

section Callbacks

variable {storage : Storage} {addr size : ℕ} {data : Row}

@[simp]
theorem wp_load (index : ℕ) (post : UInt8 → Storage → Prop) :
    wp (load index) post storage ↔ post (storage.unfragmentedData index) (storage.touch index) := by
  rw [load, wp_bind, wp_modify, wp_gets]
  rfl

@[simp]
theorem wp_store (index : ℕ) (byte : UInt8) (post : Unit → Storage → Prop) :
    wp (store index byte) post storage ↔
      post () { storage.touch index with
        unfragmentedData := Function.update storage.unfragmentedData index byte } := by
  rw [store, wp_bind, wp_modify, wp_modify]
  rfl

theorem overwrite_zero (row : Row) (addr : ℕ) (data : Row) : row.overwrite addr data 0 = row := by
  funext index
  rw [Row.overwrite, if_neg (by omega)]

theorem overwrite_succ (row : Row) (addr : ℕ) (data : Row) (size : ℕ) :
    Function.update (row.overwrite addr data size) (addr + size) (data size) =
      row.overwrite addr data (size + 1) := by
  funext index
  by_cases here : index = addr + size
  · subst here
    rw [Function.update_self, Row.overwrite, if_pos (by omega), Nat.add_sub_cancel_left]
  · rw [Function.update_of_ne here]
    unfold Row.overwrite
    have same : (addr ≤ index ∧ index < addr + size) ↔
        (addr ≤ index ∧ index < addr + (size + 1)) := by omega
    simp only [same]

/-- Bytes were stored; nothing behind them was touched. -/
structure Stored (storage : Storage) (addr : ℕ) (data : Row) (size : ℕ) (final : Storage) :
    Prop where
  unfragmentedData : final.unfragmentedData = storage.unfragmentedData.overwrite addr data size
  touched : final.touched ≤ max storage.touched (addr + size)
  calls : final.calls = storage.calls

/-- The loop of a callback that stores bytes. -/
theorem wp_store_loop (fits : addr + size ≤ 2 ^ 32) (data : Row) :
    wp (forRange 0 size () fun i _ => store ((addr + i) % 2 ^ 32) (data i))
      (fun _ final => Stored storage addr data size final) storage := by
  apply wp_forRange (fun count (_ : Unit) final => Stored storage addr data count final)
  · exact ⟨(overwrite_zero ..).symm, le_max_left _ _, rfl⟩
  · intro count _ middle _ below stored
    rw [wp_store, Nat.mod_eq_of_lt (by omega)]
    refine ⟨?_, ?_, stored.calls⟩
    · rw [stored.unfragmentedData]
      exact overwrite_succ ..
    · have touched := stored.touched
      change max middle.touched (addr + count + 1) ≤ max storage.touched (addr + (count + 1))
      omega
  · intro _ final stored
    rwa [Nat.max_eq_right (Nat.zero_le size)] at stored

/-- Bytes were read. -/
structure Loaded (storage : Storage) (addr size : ℕ) (final : Storage) : Prop where
  unfragmentedData : final.unfragmentedData = storage.unfragmentedData
  touched : final.touched ≤ max storage.touched (addr + size)
  calls : final.calls = storage.calls

theorem Loaded.refl : Loaded storage addr 0 storage :=
  ⟨rfl, le_max_left _ _, rfl⟩

/-- One byte more. -/
theorem Loaded.touch {final : Storage} (loaded : Loaded storage addr size final) :
    Loaded storage addr (size + 1) (final.touch (addr + size)) := by
  refine ⟨loaded.unfragmentedData, ?_, loaded.calls⟩
  have touched := loaded.touched
  change max final.touched (addr + size + 1) ≤ max storage.touched (addr + (size + 1))
  omega

/-- The loop of the callback that reads bytes. -/
theorem wp_load_loop (fits : addr + size ≤ 2 ^ 32) (data : Row) :
    wp (forRange 0 size data fun i data => do
        let byte ← load ((addr + i) % 2 ^ 32)
        return Function.update data i byte)
      (fun result final =>
        result = data.overwrite 0 (fun i => storage.unfragmentedData (addr + i)) size ∧
          Loaded storage addr size final) storage := by
  apply wp_forRange fun count result final =>
    result = data.overwrite 0 (fun i => storage.unfragmentedData (addr + i)) count ∧
      Loaded storage addr count final
  · exact ⟨(overwrite_zero ..).symm, .refl⟩
  · rintro count _ middle _ below ⟨rfl, loaded⟩
    rw [Nat.mod_eq_of_lt (by omega), wp_bind, wp_load, wp_pure]
    refine ⟨?_, loaded.touch⟩
    rw [loaded.unfragmentedData]
    have grown := overwrite_succ data 0 (fun i => storage.unfragmentedData (addr + i)) count
    rwa [Nat.zero_add] at grown
  · intro result final loaded
    rwa [Nat.max_eq_right (Nat.zero_le size)] at loaded

theorem take_succ (row : Row) (length : ℕ) : row.take (length + 1) = row.take length ++ [row length] := by
  rw [Row.take, List.range_succ, List.map_append]
  rfl

/-- The register after the first bytes. -/
def registerAt (row : Row) (count : ℕ) : UInt32 :=
  (row.take count).foldl crc32Byte 0xFFFFFFFF

theorem registerAt_succ (row : Row) (count : ℕ) :
    registerAt row (count + 1) = crc32Byte (registerAt row count) (row count) := by
  rw [registerAt, take_succ, List.foldl_append]
  rfl

/-- The loop ends for every length: its index does not wrap. -/
theorem wp_crc32_loop (length : UInt16) :
    wp (loop (crc32Body length) (2 ^ 16) (0, 0xFFFFFFFF))
      (fun crc final => crc = registerAt storage.unfragmentedData length.toNat ∧
        Loaded storage 0 length.toNat final) storage := by
  have short : length.toNat < 2 ^ 16 := length.toNat_lt
  apply wp_loop
    (fun place final => place.1.toNat ≤ length.toNat ∧
      place.2 = registerAt storage.unfragmentedData place.1.toNat ∧
      Loaded storage 0 place.1.toNat final)
    (fun place _ => length.toNat - place.1.toNat)
  · rintro ⟨index, crc⟩ final ⟨below, register, loaded⟩
    change index.toNat ≤ length.toNat at below
    change crc = registerAt storage.unfragmentedData index.toNat at register
    change Loaded storage 0 index.toNat final at loaded
    subst register
    rw [crc32Body]
    by_cases more : index < length
    · have above : index.toNat < length.toNat := UInt16.lt_iff_toNat_lt.mp more
      have next : (index + 1).toNat = index.toNat + 1 := by
        rw [UInt16.toNat_add]
        exact Nat.mod_eq_of_lt (by change index.toNat + 1 < 2 ^ 16; omega)
      have touched := loaded.touch
      rw [Nat.zero_add] at touched
      rw [if_pos more, wp_bind, wp_load, wp_pure]
      refine ⟨⟨?_, ?_, ?_⟩, ?_⟩
      · rw [next]
        exact above
      · rw [next, registerAt_succ, loaded.unfragmentedData]
      · rw [next]
        exact touched
      · change length.toNat - (index + 1).toNat < length.toNat - index.toNat
        rw [next]
        omega
    · have last : index.toNat = length.toNat :=
        Nat.le_antisymm below (not_lt.mp (mt UInt16.lt_iff_toNat_lt.mpr more))
      rw [if_neg more, wp_pure, ← last]
      exact ⟨rfl, loaded⟩
  · exact lt_of_le_of_lt (Nat.sub_le _ _) short
  · exact ⟨Nat.zero_le _, rfl, .refl⟩

/-- `Crc32` is the CRC of the first bytes of the block. -/
theorem wp_crc32 (length : UInt16) :
    wp (crc32 length) (fun crc final =>
      crc = crc32Of (storage.unfragmentedData.take length.toNat) ∧
        Loaded storage 0 length.toNat final) storage := by
  rw [crc32, wp_bind]
  refine wp_mono (wp_crc32_loop length) ?_
  rintro _ final ⟨rfl, loaded⟩
  rw [wp_pure]
  exact ⟨rfl, loaded⟩

end Callbacks

end GenericNode.Fuota
