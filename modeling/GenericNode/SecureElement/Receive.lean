import GenericNode.Library.Program

/-!
# Receiving from the secure element

`hal_i2c_receive` over a bus that may fail.  The places of `rxdata` that are
written are recorded, also those beyond the caller's buffer.
-/

namespace GenericNode.SecureElement

open GenericNode.Library
open GenericNode.Library.Prog

/-- One transfer of the bus: its status, the bytes of the device, and how many
of them arrive when it fails. -/
structure Transfer where
  ok : Bool
  received : ℕ
  bytes : ℕ → UInt8

/-- The bytes of a transfer that arrive. -/
def Transfer.arrived (transfer : Transfer) (size : ℕ) : List UInt8 :=
  (List.range (if transfer.ok then size else min transfer.received size)).map transfer.bytes

/-- The local `lengthPackage`, the memory at `rxdata` with the places written,
and the bus with the number of transfers so far. -/
structure I2cWorld where
  lengthPackage : UInt8
  rxdata : ℕ → UInt8
  written : List ℕ
  bus : ℕ → Transfer
  transfers : ℕ

/-- `ATCA_STATUS`; the statuses that no function here returns by name are
told apart by their code. -/
inductive AtcaStatus where
  | success | genFail | badParam | rxTimeout | smallBuffer
  | other (code : ℕ)
deriving DecidableEq, Repr

/-- Bytes are stored at a place of `rxdata`. -/
def I2cWorld.write (world : I2cWorld) (offset : ℕ) (bytes : List UInt8) : I2cWorld :=
  { world with
    rxdata := fun place =>
      if offset ≤ place ∧ place < offset + bytes.length then bytes.getD (place - offset) 0
      else world.rxdata place
    written := (List.range bytes.length).map (offset + ·) ++ world.written }

/-- Bytes are stored in `lengthPackage`. -/
def I2cWorld.writeLength (world : I2cWorld) (bytes : List UInt8) : I2cWorld :=
  { world with lengthPackage := bytes.headD world.lengthPackage }

/-- Bytes are stored behind the length. -/
def I2cWorld.writeRest (world : I2cWorld) (bytes : List UInt8) : I2cWorld :=
  world.write 1 bytes

/-- The world after a transfer. -/
def I2cWorld.transferred (world : I2cWorld) : I2cWorld :=
  { world with transfers := world.transfers + 1 }

/-- `HAL_I2C_Master_Receive`: `true` stands for `HAL_OK`. -/
def halI2cMasterReceive (target : I2cWorld → List UInt8 → I2cWorld) (size : ℕ) :
    Prog I2cWorld Bool := do
  let transfer ← gets fun world => world.bus world.transfers
  modify I2cWorld.transferred
  modify fun world => target world (transfer.arrived size)
  return transfer.ok

/-- `while (--retries > 0 && r != HAL_OK)`: receive until a transfer succeeds. -/
def receiveRetrying (target : I2cWorld → List UInt8 → I2cWorld) (size : ℕ) (rxRetries : ℤ) :
    Prog I2cWorld Bool :=
  loop (fun (retries, r) => do
    if retries - 1 > 0 ∧ r = false then
      let r ← halI2cMasterReceive target size
      return .inl (retries - 1, r)
    else
      return .inr r) (rxRetries.toNat + 1) (rxRetries, false)

/-- `bytesToRead`: the length without its own byte, in 8 bits. -/
def bytesToRead (length : ℕ) : ℕ :=
  (length + 2 ^ 8 - 1) % 2 ^ 8

/-- `hal_i2c_receive`: the status and the value left in `*rxlength`. -/
def halI2cReceive (rxRetries : ℤ) (rxlength : ℕ) : Prog I2cWorld (AtcaStatus × ℕ) := do
  modify fun world => { world with lengthPackage := 0 }
  let r ← receiveRetrying I2cWorld.writeLength 1 rxRetries
  if r = false then
    return (.rxTimeout, rxlength)
  else
    let length ← gets fun world => world.lengthPackage.toNat
    if bytesToRead length > rxlength then
      return (.smallBuffer, rxlength)
    else
      modify fun world => world.write 0 (List.replicate rxlength 0)
      modify fun world => world.write 0 [world.lengthPackage]
      let r ← receiveRetrying I2cWorld.writeRest (bytesToRead length) rxRetries
      if r = false then
        return (.rxTimeout, rxlength)
      else
        return (.success, length)

/-! ## Retries -/

section Retries

variable {target : I2cWorld → List UInt8 → I2cWorld} {size count : ℕ} {world : I2cWorld}

/-- The first of `count` transfers that succeeds. -/
def answered (bus : ℕ → Transfer) (start : ℕ) : ℕ → Option ℕ
  | 0 => none
  | count + 1 => if (bus start).ok then some start else answered bus (start + 1) count

/-- The world after one more transfer. -/
def I2cWorld.receive (world : I2cWorld) (target : I2cWorld → List UInt8 → I2cWorld)
    (size : ℕ) : I2cWorld :=
  target world.transferred ((world.bus world.transfers).arrived size)

/-- What retrying does, transfer by transfer. -/
def retried (target : I2cWorld → List UInt8 → I2cWorld) (size : ℕ) :
    ℕ → I2cWorld → Bool × I2cWorld
  | 0, world => (false, world)
  | count + 1, world =>
      if (world.bus world.transfers).ok then (true, world.receive target size)
      else retried target size count (world.receive target size)

/-- The transfers that `rx_retries` allows. -/
def transfersOf (rxRetries : ℤ) : ℕ :=
  (rxRetries - 1).toNat

@[simp]
theorem wp_halI2cMasterReceive (post : Bool → I2cWorld → Prop) :
    wp (halI2cMasterReceive target size) post world ↔
      post (world.bus world.transfers).ok (world.receive target size) := by
  simp only [halI2cMasterReceive, wp_bind, wp_gets, wp_modify, wp_pure]
  exact Iff.rfl

theorem wp_receiveRetrying (rxRetries : ℤ) (post : Bool → I2cWorld → Prop)
    (holds : post (retried target size (transfersOf rxRetries) world).1
      (retried target size (transfersOf rxRetries) world).2) :
    wp (receiveRetrying target size rxRetries) post world := by
  rw [receiveRetrying]
  generalize fuel_eq : rxRetries.toNat + 1 = fuel
  have enough : rxRetries.toNat < fuel := by omega
  clear fuel_eq
  induction fuel generalizing rxRetries world with
  | zero => exact absurd enough (Nat.not_lt_zero _)
  | succ fuel ih =>
      rw [wp_loop_succ]
      by_cases again : rxRetries - 1 > 0
      · have count : transfersOf rxRetries = transfersOf (rxRetries - 1) + 1 := by
          simp only [transfersOf]
          omega
        rw [count, retried] at holds
        simp only [again, and_self, ↓reduceIte, wp_bind, wp_halI2cMasterReceive, wp_pure]
        cases outcome : (world.bus world.transfers).ok with
        | true =>
            rw [if_pos outcome] at holds
            obtain ⟨more, rfl⟩ : ∃ more, fuel = more + 1 := ⟨fuel - 1, by omega⟩
            rw [wp_loop_succ]
            simp only [Bool.true_eq_false, and_false, ↓reduceIte, wp_pure]
            exact holds
        | false =>
            rw [if_neg (by simp [outcome])] at holds
            exact ih _ holds (by omega)
      · have count : transfersOf rxRetries = 0 := by
          simp only [transfersOf]
          omega
        rw [count] at holds
        simp only [again, false_and, ↓reduceIte, wp_pure]
        exact holds

/-- Retrying succeeds when one of the transfers does. -/
theorem retried_answered (bus : ∀ world bytes, (target world bytes).bus = world.bus)
    (transfers : ∀ world bytes, (target world bytes).transfers = world.transfers) :
    (retried target size count world).1 = (answered world.bus world.transfers count).isSome := by
  induction count generalizing world with
  | zero => rfl
  | succ count ih =>
      rw [retried, answered]
      by_cases outcome : (world.bus world.transfers).ok = true
      · rw [if_pos outcome, if_pos outcome]
        rfl
      · rw [if_neg outcome, if_neg outcome, ih, I2cWorld.receive, bus, transfers]
        rfl

/-- What retrying preserves, transfer by transfer. -/
theorem retried_invariant (inv : I2cWorld → Prop) (holds : inv world)
    (keeps : ∀ world, inv world → inv (world.receive target size)) :
    inv (retried target size count world).2 := by
  induction count generalizing world with
  | zero => exact holds
  | succ count ih =>
      rw [retried]
      split_ifs
      · exact keeps world holds
      · exact ih (keeps world holds)

end Retries

/-! ## The two phases -/

section Phases

variable {world : I2cWorld} {size count last index : ℕ}

theorem Transfer.length_arrived (transfer : Transfer) (size : ℕ) :
    (transfer.arrived size).length =
      if transfer.ok then size else min transfer.received size := by
  simp [Transfer.arrived]

theorem Transfer.length_arrived_le (transfer : Transfer) (size : ℕ) :
    (transfer.arrived size).length ≤ size := by
  rw [Transfer.length_arrived]
  split_ifs <;> omega

theorem Transfer.arrived_ok {transfer : Transfer} (ok : transfer.ok = true) (size : ℕ) :
    transfer.arrived size = (List.range size).map transfer.bytes := by
  rw [Transfer.arrived, if_pos ok]

/-- The length is the byte of the transfer that succeeds; nothing else is
written. -/
theorem retried_writeLength (found : answered world.bus world.transfers count = some last) :
    (retried I2cWorld.writeLength 1 count world).2 =
      { world with lengthPackage := (world.bus last).bytes 0, transfers := last + 1 } := by
  induction count generalizing world with
  | zero => cases found
  | succ count ih =>
      rw [answered] at found
      rw [retried]
      by_cases outcome : (world.bus world.transfers).ok = true
      · rw [if_pos outcome] at found
        rw [if_pos outcome, I2cWorld.receive, Transfer.arrived_ok outcome]
        cases found
        rfl
      · rw [if_neg outcome] at found
        rw [if_neg outcome, ih found]
        rfl

/-- A place that is written holds its byte. -/
theorem write_rxdata (offset : ℕ) (bytes : List UInt8) (inside : index < bytes.length) :
    (world.write offset bytes).rxdata (offset + index) = bytes[index] := by
  have within : offset ≤ offset + index ∧ offset + index < offset + bytes.length := by omega
  rw [I2cWorld.write]
  simp only [within, and_self, ↓reduceIte, Nat.add_sub_cancel_left]
  rw [List.getD_eq_getElem?_getD, List.getElem?_eq_getElem inside, Option.getD_some]

theorem write_rxdata_before (offset : ℕ) (bytes : List UInt8) (before : index < offset) :
    (world.write offset bytes).rxdata index = world.rxdata index := by
  rw [I2cWorld.write]
  exact if_neg fun within => absurd within.1 (Nat.not_le_of_lt before)

theorem mem_write_written (offset : ℕ) (bytes : List UInt8) :
    index ∈ (world.write offset bytes).written ↔
      (offset ≤ index ∧ index < offset + bytes.length) ∨ index ∈ world.written := by
  simp only [I2cWorld.write, List.mem_append, List.mem_map, List.mem_range]
  constructor
  · rintro (⟨place, place_lt, rfl⟩ | earlier)
    · exact .inl ⟨Nat.le_add_right _ _, Nat.add_lt_add_left place_lt _⟩
    · exact .inr earlier
  · rintro (⟨after, before⟩ | earlier)
    · exact .inl ⟨index - offset, by omega, by omega⟩
    · exact .inr earlier

/-- The rest of the package is that of the transfer that succeeds. -/
theorem retried_writeRest (found : answered world.bus world.transfers count = some last)
    (inside : index < size) :
    (retried I2cWorld.writeRest size count world).2.rxdata (1 + index) =
      (world.bus last).bytes index := by
  induction count generalizing world with
  | zero => cases found
  | succ count ih =>
      rw [answered] at found
      rw [retried]
      by_cases outcome : (world.bus world.transfers).ok = true
      · rw [if_pos outcome] at found
        rw [if_pos outcome, I2cWorld.receive, Transfer.arrived_ok outcome, I2cWorld.writeRest,
          write_rxdata 1 _ (by simpa using inside)]
        cases found
        simp
      · rw [if_neg outcome] at found
        rw [if_neg outcome, ih found]
        rfl

/-- The length stays where it is. -/
theorem retried_writeRest_zero :
    (retried I2cWorld.writeRest size count world).2.rxdata 0 = world.rxdata 0 := by
  apply retried_invariant fun final => final.rxdata 0 = world.rxdata 0
  · rfl
  · intro middle same
    rw [I2cWorld.receive, I2cWorld.writeRest, write_rxdata_before 1 _ Nat.one_pos]
    exact same

/-- The rest is written behind the length. -/
theorem retried_writeRest_written :
    ∀ index ∈ (retried I2cWorld.writeRest size count world).2.written,
      index ∈ world.written ∨ (1 ≤ index ∧ index ≤ size) := by
  apply retried_invariant fun final => ∀ index ∈ final.written,
    index ∈ world.written ∨ (1 ≤ index ∧ index ≤ size)
  · exact fun index mem => .inl mem
  · intro middle inside index mem
    rw [I2cWorld.receive, I2cWorld.writeRest, mem_write_written] at mem
    rcases mem with ⟨after, before⟩ | earlier
    · have length := Transfer.length_arrived_le (middle.bus middle.transfers) size
      exact .inr ⟨after, by omega⟩
    · exact inside index earlier

/-- Without a transfer that succeeds, the bytes that arrived are written. -/
theorem retried_writeRest_none (missing : answered world.bus world.transfers count = none)
    (index : ℕ) :
    index ∈ (retried I2cWorld.writeRest size count world).2.written ↔
      index ∈ world.written ∨ ∃ later < count, 1 ≤ index ∧
        index ≤ min (world.bus (world.transfers + later)).received size := by
  induction count generalizing world with
  | zero => simp [retried]
  | succ count ih =>
      rw [answered] at missing
      rw [retried]
      by_cases outcome : (world.bus world.transfers).ok = true
      · rw [if_pos outcome] at missing
        cases missing
      · rw [if_neg outcome] at missing
        have first : index ∈ (world.receive I2cWorld.writeRest size).written ↔
            (1 ≤ index ∧ index ≤ min (world.bus world.transfers).received size) ∨
              index ∈ world.written := by
          rw [I2cWorld.receive, I2cWorld.writeRest, mem_write_written, Transfer.length_arrived,
            if_neg outcome, Nat.add_comm 1, Nat.lt_succ_iff]
          exact Iff.rfl
        have next : ∀ later, world.transfers + 1 + later = world.transfers + (later + 1) := by
          intro later
          omega
        rw [if_neg outcome, ih missing, first]
        simp only [I2cWorld.receive, I2cWorld.writeRest, I2cWorld.write, I2cWorld.transferred, next]
        constructor
        · rintro ((arrived | earlier) | ⟨later, later_lt, arrived⟩)
          · exact .inr ⟨0, Nat.succ_pos _, arrived⟩
          · exact .inl earlier
          · exact .inr ⟨later + 1, Nat.succ_lt_succ later_lt, arrived⟩
        · rintro (earlier | ⟨later, later_lt, arrived⟩)
          · exact .inl (.inr earlier)
          · cases later with
            | zero => exact .inl (.inl arrived)
            | succ later => exact .inr ⟨later, Nat.lt_of_succ_lt_succ later_lt, arrived⟩

end Phases

/-! ## The buffer of the caller -/

/-- A call with its buffer, before the first transfer. -/
def i2cCall (rxdata : ℕ → UInt8) (bus : ℕ → Transfer) : I2cWorld where
  lengthPackage := 0
  rxdata := rxdata
  written := []
  bus := bus
  transfers := 0

/-- The call writes inside the buffer, succeeds with a whole package only, and
otherwise leaves the length of the buffer. -/
structure Contained (rxRetries : ℤ) (rxlength : ℕ) (bus : ℕ → Transfer)
    (result : AtcaStatus × ℕ) (final : I2cWorld) : Prop where
  inside : ∀ index ∈ final.written, index < rxlength
  success : result.1 = .success → ∃ first second,
    answered bus 0 (transfersOf rxRetries) = some first ∧
    answered bus (first + 1) (transfersOf rxRetries) = some second ∧
    1 ≤ ((bus first).bytes 0).toNat ∧ ((bus first).bytes 0).toNat ≤ rxlength ∧
    result.2 = ((bus first).bytes 0).toNat ∧ final.rxdata 0 = (bus first).bytes 0 ∧
    ∀ index, index + 1 < ((bus first).bytes 0).toNat →
      final.rxdata (1 + index) = (bus second).bytes index
  failure : result.1 ≠ .success → result.2 = rxlength

/-- The length of the device fits in the buffer or is refused; or the rest
never arrives, and never reaches the end of the buffer. -/
def Harmless (rxRetries : ℤ) (rxlength : ℕ) (bus : ℕ → Transfer) : Prop :=
  ∀ first, answered bus 0 (transfersOf rxRetries) = some first →
    let length := ((bus first).bytes 0).toNat
    (1 ≤ length ∧ length ≤ rxlength) ∨ rxlength < bytesToRead length ∨
      (0 < rxlength ∧ answered bus (first + 1) (transfersOf rxRetries) = none ∧
        ∀ later < transfersOf rxRetries,
          min (bus (first + 1 + later)).received (bytesToRead length) < rxlength)

/-- The world when the length has arrived. -/
def lengthWorld (rxdata : ℕ → UInt8) (bus : ℕ → Transfer) (first : ℕ) : I2cWorld :=
  { i2cCall rxdata bus with lengthPackage := (bus first).bytes 0, transfers := first + 1 }

/-- The world when the rest is asked for. -/
def restWorld (rxlength : ℕ) (world : I2cWorld) : I2cWorld :=
  (world.write 0 (List.replicate rxlength 0)).write 0 [world.lengthPackage]

section Call

variable {rxRetries : ℤ} {rxlength : ℕ} {rxdata : ℕ → UInt8} {bus : ℕ → Transfer} {first : ℕ}

/-- The length is asked for first. -/
theorem retried_length (rxRetries : ℤ) (rxdata : ℕ → UInt8) (bus : ℕ → Transfer) :
    (retried I2cWorld.writeLength 1 (transfersOf rxRetries) (i2cCall rxdata bus)).1 =
      (answered bus 0 (transfersOf rxRetries)).isSome :=
  retried_answered (fun _ _ => rfl) fun _ _ => rfl

/-- No length arrives. -/
theorem wp_halI2cReceive_none (missing : answered bus 0 (transfersOf rxRetries) = none) :
    wp (halI2cReceive rxRetries rxlength)
      (fun result final => result = (.rxTimeout, rxlength) ∧ final.written = [])
      (i2cCall rxdata bus) := by
  have status := retried_length rxRetries rxdata bus
  rw [missing] at status
  rw [halI2cReceive, wp_bind, wp_modify, wp_bind]
  apply wp_receiveRetrying
  have start : ({ i2cCall rxdata bus with lengthPackage := 0 } : I2cWorld) =
      i2cCall rxdata bus := rfl
  rw [start, status]
  simp only [Option.isSome_none, ↓reduceIte, wp_pure, true_and]
  apply retried_invariant fun final => final.written = []
  · rfl
  · exact fun world empty => empty

/-- A length arrives: the rest is refused, or asked for. -/
theorem wp_halI2cReceive_some (found : answered bus 0 (transfersOf rxRetries) = some first)
    (post : AtcaStatus × ℕ → I2cWorld → Prop)
    (refused : rxlength < bytesToRead ((bus first).bytes 0).toNat →
      post (.smallBuffer, rxlength) (lengthWorld rxdata bus first))
    (asked : bytesToRead ((bus first).bytes 0).toNat ≤ rxlength →
      ∀ rest, rest = retried I2cWorld.writeRest (bytesToRead ((bus first).bytes 0).toNat)
        (transfersOf rxRetries) (restWorld rxlength (lengthWorld rxdata bus first)) →
      post (if rest.1 then (.success, ((bus first).bytes 0).toNat) else (.rxTimeout, rxlength))
        rest.2) :
    wp (halI2cReceive rxRetries rxlength) post (i2cCall rxdata bus) := by
  have status := retried_length rxRetries rxdata bus
  rw [found] at status
  have start : ({ i2cCall rxdata bus with lengthPackage := 0 } : I2cWorld) =
      i2cCall rxdata bus := rfl
  have length : (retried I2cWorld.writeLength 1 (transfersOf rxRetries) (i2cCall rxdata bus)).2 =
      lengthWorld rxdata bus first := retried_writeLength found
  rw [halI2cReceive, wp_bind, wp_modify, wp_bind]
  apply wp_receiveRetrying
  rw [start, status, length]
  have package : (lengthWorld rxdata bus first).lengthPackage.toNat =
      ((bus first).bytes 0).toNat := rfl
  simp only [Option.isSome_some, Bool.true_eq_false, ↓reduceIte]
  rw [wp_bind, wp_gets, package, wp_ite]
  by_cases small : bytesToRead ((bus first).bytes 0).toNat > rxlength
  · rw [if_pos small, wp_pure]
    exact refused small
  · rw [if_neg small, wp_bind, wp_modify, wp_bind, wp_modify, wp_bind]
    apply wp_receiveRetrying
    have restart : ((lengthWorld rxdata bus first).write 0 (List.replicate rxlength 0)).write 0
        [((lengthWorld rxdata bus first).write 0 (List.replicate rxlength 0)).lengthPackage] =
          restWorld rxlength (lengthWorld rxdata bus first) := rfl
    rw [restart]
    have holds := asked (Nat.le_of_not_lt small) _ rfl
    rw [wp_ite]
    split_ifs at holds with outcome
    · rw [if_neg (by rw [outcome]; decide)]
      exact (wp_pure ..).mpr holds
    · rw [if_pos (by simpa using outcome)]
      exact (wp_pure ..).mpr holds

/-- The places written before the rest is asked for. -/
theorem restWorld_written (index : ℕ) :
    index ∈ (restWorld rxlength (lengthWorld rxdata bus first)).written ↔
      index < max 1 rxlength := by
  have empty : (lengthWorld rxdata bus first).written = [] := rfl
  rw [restWorld, mem_write_written, mem_write_written, empty, lt_max_iff]
  simp

/-- The length is stored in front. -/
theorem restWorld_zero :
    (restWorld rxlength (lengthWorld rxdata bus first)).rxdata 0 = (bus first).bytes 0 := by
  rw [restWorld]
  exact write_rxdata 0 [(lengthWorld rxdata bus first).lengthPackage] Nat.one_pos

variable {rest : Bool × I2cWorld}

/-- A package whose length fits in the buffer. -/
theorem Contained.of_fits (found : answered bus 0 (transfersOf rxRetries) = some first)
    (positive : 1 ≤ ((bus first).bytes 0).toNat) (fits : ((bus first).bytes 0).toNat ≤ rxlength)
    (rest_eq : rest = retried I2cWorld.writeRest (bytesToRead ((bus first).bytes 0).toNat)
      (transfersOf rxRetries) (restWorld rxlength (lengthWorld rxdata bus first))) :
    Contained rxRetries rxlength bus
      (if rest.1 then (.success, ((bus first).bytes 0).toNat) else (.rxTimeout, rxlength))
      rest.2 := by
  have small := ((bus first).bytes 0).toNat_lt
  have body : bytesToRead ((bus first).bytes 0).toNat + 1 = ((bus first).bytes 0).toNat := by
    rw [bytesToRead]
    omega
  have status : rest.1 = (answered bus (first + 1) (transfersOf rxRetries)).isSome := by
    rw [rest_eq]
    exact retried_answered (fun _ _ => rfl) fun _ _ => rfl
  have inside : ∀ index ∈ rest.2.written, index < rxlength := by
    intro index mem
    rw [rest_eq] at mem
    rcases retried_writeRest_written index mem with before | ⟨-, within⟩
    · have bound := (restWorld_written index).mp before
      omega
    · omega
  rw [status]
  cases answer : answered bus (first + 1) (transfersOf rxRetries) with
  | none =>
      refine ⟨inside, fun success => ?_, fun _ => rfl⟩
      cases success
  | some second =>
      refine ⟨inside, fun _ => ?_, fun failed => absurd rfl failed⟩
      refine ⟨first, second, found, answer, positive, fits, rfl, ?_, fun index within => ?_⟩
      · rw [rest_eq, retried_writeRest_zero, restWorld_zero]
      · rw [rest_eq]
        exact retried_writeRest answer (by omega)

/-- A rest that never arrives, and never reaches the end of the buffer. -/
theorem Contained.of_missing (room : 0 < rxlength)
    (missing : answered bus (first + 1) (transfersOf rxRetries) = none)
    (short : ∀ later < transfersOf rxRetries, min (bus (first + 1 + later)).received
      (bytesToRead ((bus first).bytes 0).toNat) < rxlength)
    (rest_eq : rest = retried I2cWorld.writeRest (bytesToRead ((bus first).bytes 0).toNat)
      (transfersOf rxRetries) (restWorld rxlength (lengthWorld rxdata bus first))) :
    rest.1 = false ∧ Contained rxRetries rxlength bus (.rxTimeout, rxlength) rest.2 := by
  have status : rest.1 = (answered bus (first + 1) (transfersOf rxRetries)).isSome := by
    rw [rest_eq]
    exact retried_answered (fun _ _ => rfl) fun _ _ => rfl
  refine ⟨by rw [status, missing]; rfl, fun index mem => ?_, fun success => ?_, fun _ => rfl⟩
  · rw [rest_eq, retried_writeRest_none missing, restWorld_written] at mem
    rcases mem with before | ⟨later, later_lt, -, within⟩
    · omega
    · exact Nat.lt_of_le_of_lt within (short later later_lt)
  · cases success

/-- When the rest is asked for although the length does not fit, it must not
arrive. -/
theorem Contained.missing
    (wrong : ¬ (1 ≤ ((bus first).bytes 0).toNat ∧ ((bus first).bytes 0).toNat ≤ rxlength))
    (found : answered bus 0 (transfersOf rxRetries) = some first)
    (rest_eq : rest = retried I2cWorld.writeRest (bytesToRead ((bus first).bytes 0).toNat)
      (transfersOf rxRetries) (restWorld rxlength (lengthWorld rxdata bus first)))
    (contained : Contained rxRetries rxlength bus
      (if rest.1 then (.success, ((bus first).bytes 0).toNat) else (.rxTimeout, rxlength))
      rest.2) :
    0 < rxlength ∧ answered bus (first + 1) (transfersOf rxRetries) = none ∧
      ∀ later < transfersOf rxRetries, min (bus (first + 1 + later)).received
        (bytesToRead ((bus first).bytes 0).toNat) < rxlength := by
  have status : rest.1 = (answered bus (first + 1) (transfersOf rxRetries)).isSome := by
    rw [rest_eq]
    exact retried_answered (fun _ _ => rfl) fun _ _ => rfl
  have missing : answered bus (first + 1) (transfersOf rxRetries) = none := by
    by_contra answer
    rw [← ne_eq, ← Option.isSome_iff_ne_none, ← status] at answer
    rw [if_pos answer] at contained
    obtain ⟨first', -, found', -, positive, fits, -⟩ := contained.success rfl
    rw [found] at found'
    cases found'
    exact wrong ⟨positive, fits⟩
  have written : ∀ index, (index < max 1 rxlength ∨ ∃ later < transfersOf rxRetries, 1 ≤ index ∧
      index ≤ min (bus (first + 1 + later)).received
        (bytesToRead ((bus first).bytes 0).toNat)) → index < rxlength := by
    intro index reached
    apply contained.inside
    rw [rest_eq, retried_writeRest_none missing, restWorld_written]
    exact reached
  have room : 0 < rxlength := written 0 (.inl (by omega))
  refine ⟨room, missing, fun later later_lt => ?_⟩
  rcases Nat.eq_zero_or_pos (min (bus (first + 1 + later)).received
    (bytesToRead ((bus first).bytes 0).toNat)) with none | some
  · rw [none]
    exact room
  · exact written _ (.inr ⟨later, later_lt, some, Nat.le_refl _⟩)

/-- Without a length the call leaves the buffer alone. -/
theorem Contained.of_none {final : I2cWorld} {status : AtcaStatus} (failed : status ≠ .success)
    (untouched : final.written = []) :
    Contained rxRetries rxlength bus (status, rxlength) final := by
  refine ⟨fun index mem => ?_, fun success => absurd success failed, fun _ => rfl⟩
  rw [untouched] at mem
  cases mem

end Call

/-- A call that stays inside its buffer has a harmless device. -/
theorem harmless_of_contained {rxRetries : ℤ} {rxlength : ℕ} {rxdata : ℕ → UInt8}
    {bus : ℕ → Transfer}
    (holds : wp (halI2cReceive rxRetries rxlength) (Contained rxRetries rxlength bus)
      (i2cCall rxdata bus)) : Harmless rxRetries rxlength bus := by
  intro first found
  by_cases fits : 1 ≤ ((bus first).bytes 0).toNat ∧ ((bus first).bytes 0).toNat ≤ rxlength
  · exact .inl fits
  by_cases refused : rxlength < bytesToRead ((bus first).bytes 0).toNat
  · exact .inr (.inl refused)
  right
  right
  have asked : wp (halI2cReceive rxRetries rxlength)
      (fun result final => ∃ rest : Bool × I2cWorld,
        rest = retried I2cWorld.writeRest (bytesToRead ((bus first).bytes 0).toNat)
          (transfersOf rxRetries) (restWorld rxlength (lengthWorld rxdata bus first)) ∧
        result = (if rest.1 then (.success, ((bus first).bytes 0).toNat)
          else (.rxTimeout, rxlength)) ∧ final = rest.2) (i2cCall rxdata bus) := by
    apply wp_halI2cReceive_some found
    · exact fun small => absurd small refused
    · exact fun _ rest rest_eq => ⟨rest, rest_eq, rfl, rfl⟩
  obtain ⟨result, final, -, ⟨rest, rest_eq, rfl, rfl⟩, contained⟩ := wp_and asked holds
  exact contained.missing fits found rest_eq

/-- `hal_i2c_receive` stays inside the buffer of its caller, and tells the
truth, exactly when the device is harmless. -/
theorem halI2cReceive_contained_iff (rxRetries : ℤ) (rxlength : ℕ) (rxdata : ℕ → UInt8)
    (bus : ℕ → Transfer) :
    wp (halI2cReceive rxRetries rxlength) (Contained rxRetries rxlength bus) (i2cCall rxdata bus) ↔
      Harmless rxRetries rxlength bus := by
  constructor
  · exact harmless_of_contained
  · intro harmless
    cases found : answered bus 0 (transfersOf rxRetries) with
    | none =>
        refine wp_mono (wp_halI2cReceive_none found) ?_
        rintro result final ⟨rfl, untouched⟩
        exact .of_none (by decide) untouched
    | some first =>
        apply wp_halI2cReceive_some found
        · intro refused
          exact .of_none (by decide) rfl
        · intro asked rest rest_eq
          rcases harmless first found with ⟨positive, fits⟩ | refused | ⟨room, missing, short⟩
          · exact .of_fits found positive fits rest_eq
          · exact absurd asked (Nat.not_le_of_lt refused)
          · obtain ⟨failed, contained⟩ := Contained.of_missing room missing short rest_eq
            rw [failed]
            exact contained

/-- A bus without faults, of a device that sends one byte value. -/
def steadyBus (byte : UInt8) : ℕ → Transfer :=
  fun _ => ⟨true, 0, fun _ => byte⟩

/-- A length of one more than the buffer, and a length of zero. -/
theorem halI2cReceive_not_contained :
    ¬ wp (halI2cReceive 2 4) (Contained 2 4 (steadyBus 5)) (i2cCall (fun _ => 0) (steadyBus 5)) ∧
      ¬ wp (halI2cReceive 2 300) (Contained 2 300 (steadyBus 0))
        (i2cCall (fun _ => 0) (steadyBus 0)) := by
  constructor
  · intro holds
    rcases harmless_of_contained holds 0 rfl with ⟨-, fits⟩ | refused | ⟨-, missing, -⟩
    · exact absurd fits (by decide)
    · exact absurd refused (by decide)
    · cases missing
  · intro holds
    rcases harmless_of_contained holds 0 rfl with ⟨positive, -⟩ | refused | ⟨-, missing, -⟩
    · exact absurd positive (by decide)
    · exact absurd refused (by decide)
    · cases missing

end GenericNode.SecureElement
