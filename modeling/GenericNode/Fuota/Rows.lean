import GenericNode.Fuota.Decoder

/-!
# Rows of the storage

The decoder stores a fragment as a row of the data block.  What its calls to
the application have to do, and that they do it for the rows of the block.
-/

namespace GenericNode.Fuota

open GenericNode.Library
open GenericNode.Library.Prog

/-! ## Lawful calls -/

/-- Where the range of a request begins. -/
def FragRequest.addr : FragRequest → ℕ
  | .erase addr _ | .write addr _ _ | .read addr _ _ => addr

/-- The length of that range. -/
def FragRequest.size : FragRequest → ℕ
  | .erase _ size | .write _ _ size | .read _ _ size => size

/-- A request lies in the data block. -/
def FragRequest.Inside (request : FragRequest) : Prop :=
  request.addr + request.size ≤ unfragmentedDataSize

/-- The call did what was requested. -/
def FragCall.Performed (call : FragCall) : Prop :=
  match call.request with
  | .erase addr size => call.after = call.before.overwrite addr (fun _ => 0xFF) size
  | .write addr data size => call.after = call.before.overwrite addr data size
  | .read addr data size =>
      call.after = call.before ∧
        call.data = data.overwrite 0 (fun i => call.before (addr + i)) size

/-- A request in the data block is accepted and performed, any other is refused
and changes nothing. -/
structure FragCall.Lawful (call : FragCall) : Prop where
  accepted : call.request.Inside → call.status = 0 ∧ call.Performed
  refused : ¬ call.request.Inside → call.status ≠ 0 ∧ call.after = call.before

/-- Nothing but the data block was touched, and every call was lawful. -/
structure Storage.Safe (storage : Storage) : Prop where
  touched : storage.touched ≤ unfragmentedDataSize
  calls : ∀ call ∈ storage.calls, call.Lawful

/-- What happened to a storage meanwhile was safe. -/
structure Continues (storage final : Storage) : Prop where
  touched : final.touched ≤ max storage.touched unfragmentedDataSize
  calls : ∃ more, final.calls = storage.calls ++ more ∧ ∀ call ∈ more, call.Lawful

variable {storage final : Storage} {addr size : ℕ}

theorem Continues.refl (storage : Storage) : Continues storage storage := by
  refine ⟨le_max_left _ _, [], (List.append_nil _).symm, ?_⟩
  rintro call ⟨⟩

theorem Continues.trans {middle : Storage} (first : Continues storage middle)
    (second : Continues middle final) : Continues storage final := by
  obtain ⟨calls, first_calls, first_lawful⟩ := first.calls
  obtain ⟨more, second_calls, second_lawful⟩ := second.calls
  have touched := first.touched
  have touched' := second.touched
  refine ⟨by omega, calls ++ more, ?_, fun call mem => ?_⟩
  · rw [second_calls, first_calls, List.append_assoc]
  · rcases List.mem_append.mp mem with before | after
    · exact first_lawful call before
    · exact second_lawful call after

theorem Storage.Safe.continues (safe : storage.Safe) (continues : Continues storage final) :
    final.Safe := by
  obtain ⟨more, calls, lawful⟩ := continues.calls
  have touched := continues.touched
  rw [Nat.max_eq_right safe.touched] at touched
  refine ⟨touched, fun call mem => ?_⟩
  rw [calls] at mem
  rcases List.mem_append.mp mem with before | after
  · exact safe.calls call before
  · exact lawful call after

/-- One lawful call more, behind accesses to the data block. -/
theorem Continues.record (touched : final.touched ≤ max storage.touched (addr + size))
    (inside : addr + size ≤ unfragmentedDataSize) (calls : final.calls = storage.calls)
    {call : FragCall} (lawful : call.Lawful) :
    Continues storage { final with calls := final.calls ++ [call] } := by
  refine ⟨?_, [call], by rw [calls], fun other mem => ?_⟩
  · change final.touched ≤ max storage.touched unfragmentedDataSize
    omega
  · obtain rfl := List.mem_singleton.mp mem
    exact lawful

/-- A request in the data block that was performed. -/
theorem FragCall.Lawful.of_performed {call : FragCall} (inside : call.request.Inside)
    (status : call.status = 0) (performed : call.Performed) : call.Lawful :=
  ⟨fun _ => ⟨status, performed⟩, fun outside => absurd inside outside⟩

theorem fits_of_inside (inside : addr + size ≤ unfragmentedDataSize) : addr + size ≤ 2 ^ 32 := by
  have bounded : unfragmentedDataSize = 1050 := rfl
  omega

theorem wp_callback_write (inside : addr + size ≤ unfragmentedDataSize)
    (small : size < unfragmentedDataSize) (data : Row) :
    wp (callback (.write addr data size))
      (fun _ final => final.unfragmentedData = storage.unfragmentedData.overwrite addr data size ∧
        Continues storage final) storage := by
  rw [callback, wp_bind, wp_gets, wp_bind, FragRequest.run, wp_bind, fragDecoderWrite,
    if_neg (not_le.mpr small), wp_bind]
  refine wp_mono (wp_store_loop (fits_of_inside inside) data) fun _ final stored => ?_
  rw [wp_pure, wp_pure, wp_bind, wp_modify, wp_pure]
  refine ⟨stored.unfragmentedData, .record stored.touched inside stored.calls ?_⟩
  exact .of_performed inside rfl stored.unfragmentedData

theorem wp_callback_read (inside : addr + size ≤ unfragmentedDataSize)
    (small : size < unfragmentedDataSize) (data : Row) :
    wp (callback (.read addr data size))
      (fun result final =>
        result = data.overwrite 0 (fun i => storage.unfragmentedData (addr + i)) size ∧
          final.unfragmentedData = storage.unfragmentedData ∧ Continues storage final)
      storage := by
  rw [callback, wp_bind, wp_gets, wp_bind, FragRequest.run, fragDecoderRead,
    if_neg (not_le.mpr small), wp_bind]
  refine wp_mono (wp_load_loop (fits_of_inside inside) data) ?_
  rintro _ final ⟨rfl, loaded⟩
  rw [wp_pure, wp_bind, wp_modify, wp_pure]
  refine ⟨rfl, loaded.unfragmentedData, .record loaded.touched inside loaded.calls ?_⟩
  exact .of_performed inside rfl ⟨loaded.unfragmentedData, rfl⟩

/-- The erasure of a whole block that fills the storage is refused. -/
theorem wp_callback_erase (inside : size ≤ unfragmentedDataSize) :
    wp (callback (.erase 0 size))
      (fun _ final => size ≠ unfragmentedDataSize → Continues storage final) storage := by
  rw [callback, wp_bind, wp_gets, wp_bind, FragRequest.run, wp_bind, fragDecoderErase]
  by_cases small : size ≥ unfragmentedDataSize
  · rw [if_pos small, wp_pure, wp_pure, wp_bind, wp_modify, wp_pure]
    exact fun other => absurd (Nat.le_antisymm inside small) other
  · have inside' : 0 + size ≤ unfragmentedDataSize := by rwa [Nat.zero_add]
    rw [if_neg small, wp_bind]
    refine wp_mono (wp_store_loop (fits_of_inside inside') fun _ => 0xFF) fun _ final stored => ?_
    rw [wp_pure, wp_pure, wp_bind, wp_modify, wp_pure]
    intro _
    apply Continues.record stored.touched inside' stored.calls
    exact .of_performed inside' rfl stored.unfragmentedData

/-! ## Rows -/

/-- A row of the data block. -/
def Storage.row (storage : Storage) (size i : ℕ) : Row :=
  fun b => storage.unfragmentedData (i * size + b)

/-- The decoder has read the storage. -/
structure Reads (start final : Decoding) : Prop where
  decoder : final.decoder = start.decoder
  unfragmentedData : final.storage.unfragmentedData = start.storage.unfragmentedData
  continues : Continues start.storage final.storage

theorem Reads.refl (start : Decoding) : Reads start start :=
  ⟨rfl, rfl, .refl _⟩

theorem Reads.trans {start middle final : Decoding} (first : Reads start middle)
    (second : Reads middle final) : Reads start final :=
  ⟨second.decoder.trans first.decoder, second.unfragmentedData.trans first.unfragmentedData,
    first.continues.trans second.continues⟩

theorem Reads.row {start final : Decoding} (reads : Reads start final) (size i : ℕ) :
    final.storage.row size i = start.storage.row size i := by
  funext b
  rw [Storage.row, Storage.row, reads.unfragmentedData]

/-- The decoder has written a row. -/
structure Writes (start : Decoding) (src : Row) (i size : ℕ) (final : Decoding) : Prop where
  decoder : final.decoder = start.decoder
  row : ∀ b < size, final.storage.row size i b = src b
  others : ∀ k ≠ i, ∀ b < size, final.storage.row size k b = start.storage.row size k b
  continues : Continues start.storage final.storage

variable {start : Decoding} {rows i : ℕ}

/-- A row of the block lies in it. -/
theorem row_inside (block : rows * size ≤ unfragmentedDataSize) (below : i < rows) :
    i * size + size ≤ unfragmentedDataSize := by
  have upTo := Nat.mul_le_mul_right size below
  rw [Nat.succ_mul] at upTo
  exact upTo.trans block

/-- Rows do not overlap. -/
theorem row_apart {k b : ℕ} (other : k ≠ i) (below : b < size) :
    ¬ (i * size ≤ k * size + b ∧ k * size + b < i * size + size) := by
  rintro ⟨low, high⟩
  rcases Nat.lt_or_gt_of_ne other with before | after
  · have upTo := Nat.mul_le_mul_right size before
    rw [Nat.succ_mul] at upTo
    omega
  · have upTo := Nat.mul_le_mul_right size after
    rw [Nat.succ_mul] at upTo
    omega

theorem wp_setRow (block : rows * size ≤ unfragmentedDataSize)
    (small : size < unfragmentedDataSize) (below : i < rows) (src : Row) :
    wp (setRow src i size) (fun _ final => Writes start src i size final) start := by
  rw [setRow, wp_bind, onStorage, wp_zoom]
  refine wp_mono (wp_callback_write (row_inside block below) small src) ?_
  rintro _ storage ⟨written, continues⟩
  rw [wp_pure]
  refine ⟨rfl, fun b inside => ?_, fun k other b inside => ?_, continues⟩
  · rw [Storage.row, written, Row.overwrite, if_pos (by omega), Nat.add_sub_cancel_left]
  · rw [Storage.row, written, Row.overwrite, if_neg (row_apart other inside)]
    rfl

theorem wp_getRow (block : rows * size ≤ unfragmentedDataSize)
    (small : size < unfragmentedDataSize) (below : i < rows) (dst : Row) :
    wp (getRow dst i size)
      (fun result final => (∀ b < size, result b = start.storage.row size i b) ∧
        Reads start final) start := by
  rw [getRow, onStorage, wp_zoom]
  refine wp_mono (wp_callback_read (row_inside block below) small dst) ?_
  rintro _ storage ⟨rfl, same, continues⟩
  refine ⟨fun b inside => ?_, rfl, same, continues⟩
  rw [Row.overwrite, if_pos (by omega)]
  rfl

theorem wp_getTempRow (block : rows * size ≤ unfragmentedDataSize)
    (short : size ≤ fragMaxSize) (below : i < rows) :
    wp (getTempRow i size)
      (fun result final => (∀ b < size, result b = start.storage.row size i b) ∧
        Reads start final) start := by
  have room : fragMaxSize < unfragmentedDataSize := by decide
  rw [getTempRow, if_pos short]
  exact wp_getRow block (short.trans_lt room) below _

end GenericNode.Fuota
