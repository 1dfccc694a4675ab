import GenericNode.SecureElement.DevEui
import GenericNode.SecureElement.Isolation

/-!
# The context of the secure element

`SecureElementInit` fills the context on its way and installs the callback of
the MAC at its end, so what the setters may do depends on how the earlier
initialisations went.
-/

namespace GenericNode.SecureElement

open GenericNode.Library
open GenericNode.Library.Prog

/-- `SE_PIN_SIZE`. -/
def sePinSize : ℕ :=
  4

/-- `SecureElementNvCtx_t`. -/
structure SeNvmCtx where
  devEui : ℕ → UInt8
  joinEui : ℕ → UInt8
  pin : ℕ → UInt8
  keyList : List KeyItem

/-- What `SeNvmCtxChanged` may point to. -/
inductive NvmEvent where
  | dummyCB
  | user (callback : ℕ)
deriving DecidableEq, Repr

/-- An initialisation that has returned. -/
structure InitRecord where
  before : SeNvmCtx
  after : SeNvmCtx
  status : SecureElementStatus

/-- The statics of the driver, the calls of the callback, and the device; the
initialisations are recorded. -/
structure SeDriver (β κ : Type) where
  seNvmCtx : SeNvmCtx
  seNvmCtxChanged : Option NvmEvent
  notified : List NvmEvent
  world : SeWorld β κ
  inits : List InitRecord

variable {β κ : Type}

namespace SeDriver

/-- The driver with another device identifier. -/
def withDevEui (devEui : ℕ → UInt8) (driver : SeDriver β κ) : SeDriver β κ :=
  { driver with seNvmCtx := { driver.seNvmCtx with devEui } }

/-- The driver with another join identifier. -/
def withJoinEui (joinEui : ℕ → UInt8) (driver : SeDriver β κ) : SeDriver β κ :=
  { driver with seNvmCtx := { driver.seNvmCtx with joinEui } }

/-- The driver with another pin. -/
def withPin (pin : ℕ → UInt8) (driver : SeDriver β κ) : SeDriver β κ :=
  { driver with seNvmCtx := { driver.seNvmCtx with pin } }

/-- An initialisation has succeeded. -/
def Initialised (driver : SeDriver β κ) : Prop :=
  ∃ init ∈ driver.inits, init.status = .success

/-- Every initialisation that failed left the context as it was. -/
def ContextKept (driver : SeDriver β κ) : Prop :=
  ∀ init ∈ driver.inits, init.status ≠ .success → init.after = init.before

end SeDriver

/-- `SeNvmCtxChanged( )`: the call of a null pointer is undefined. -/
def callSeNvmCtxChanged : Prog (SeDriver β κ) Unit := do
  match ← gets SeDriver.seNvmCtxChanged with
  | some event => modify fun driver => { driver with notified := event :: driver.notified }
  | none => undefined

/-- `SecureElementInit`, by the status of `atcab_init` and what the slots
hold. -/
def secureElementInit (seNvmCtxChanged : Option ℕ) (atcabInit : AtcaStatus)
    (readZone : ReadZone) : Prog (SeDriver β κ) SecureElementStatus := do
  if atcabInit ≠ .success then
    pure .error
  else do
    let status ← zoom (fun driver => driver.seNvmCtx.devEui) SeDriver.withDevEui
      (atcabReadDevEui readZone)
    if status ≠ .success then
      pure .error
    else do
      let status ← zoom (fun driver => driver.seNvmCtx.joinEui) SeDriver.withJoinEui
        (atcabReadJoinEui readZone)
      if status ≠ .success then
        pure .error
      else do
        modify fun driver =>
          { driver with
            seNvmCtxChanged :=
              match seNvmCtxChanged with
              | some callback => some (.user callback)
              | none => some .dummyCB }
        pure .success

/-- `SecureElementRestoreNvmCtx`. -/
def secureElementRestoreNvmCtx (seNvmCtx : Option SeNvmCtx) :
    Prog (SeDriver β κ) SecureElementStatus :=
  match seNvmCtx with
  | some seNvmCtx => do
      modify fun driver => { driver with seNvmCtx }
      pure .success
  | none => pure .errorNpe

/-- The body of the setters: a copy to a field, then the callback. -/
def setField (view : SeDriver β κ → ℕ → UInt8)
    (put : (ℕ → UInt8) → SeDriver β κ → SeDriver β κ) (size : ℕ)
    (bytes : Option (ℕ → UInt8)) : Prog (SeDriver β κ) SecureElementStatus :=
  match bytes with
  | none => pure .errorNpe
  | some bytes => do
      zoom view put (copyBytes bytes size)
      callSeNvmCtxChanged
      pure .success

/-- `SecureElementSetDevEui`. -/
def secureElementSetDevEui (devEui : Option (ℕ → UInt8)) :
    Prog (SeDriver β κ) SecureElementStatus :=
  setField (fun driver => driver.seNvmCtx.devEui) SeDriver.withDevEui seEuiSize devEui

/-- `SecureElementSetJoinEui`. -/
def secureElementSetJoinEui (joinEui : Option (ℕ → UInt8)) :
    Prog (SeDriver β κ) SecureElementStatus :=
  setField (fun driver => driver.seNvmCtx.joinEui) SeDriver.withJoinEui seEuiSize joinEui

/-- `SecureElementSetPin`. -/
def secureElementSetPin (pin : Option (ℕ → UInt8)) : Prog (SeDriver β κ) SecureElementStatus :=
  setField (fun driver => driver.seNvmCtx.pin) SeDriver.withPin sePinSize pin

/-! ## Sequences of calls -/

/-- A call with its arguments, an initialisation also with what the device
answers to it.  The calls that use keys, `SeCall.run` among them, read the
context and work on the device and the buffers. -/
inductive ContextCall (β κ : Type) where
  | init (seNvmCtxChanged : Option ℕ) (atcabInit : AtcaStatus) (readZone : ReadZone)
  | restoreNvmCtx (seNvmCtx : Option SeNvmCtx)
  | setDevEui (devEui : Option (ℕ → UInt8))
  | setJoinEui (joinEui : Option (ℕ → UInt8))
  | setPin (pin : Option (ℕ → UInt8))
  | useKey (call : SeNvmCtx → Prog (SeWorld β κ) SecureElementStatus)

/-- Run a call, for its status. -/
def ContextCall.run : ContextCall β κ → Prog (SeDriver β κ) SecureElementStatus
  | .init seNvmCtxChanged atcabInit readZone =>
      secureElementInit seNvmCtxChanged atcabInit readZone
  | .restoreNvmCtx seNvmCtx => secureElementRestoreNvmCtx seNvmCtx
  | .setDevEui devEui => secureElementSetDevEui devEui
  | .setJoinEui joinEui => secureElementSetJoinEui joinEui
  | .setPin pin => secureElementSetPin pin
  | .useKey call => do
      let seNvmCtx ← gets SeDriver.seNvmCtx
      zoom SeDriver.world (fun world driver => { driver with world }) (call seNvmCtx)

/-- The initialisations after a call. -/
def recordInit (before : SeNvmCtx) (status : SecureElementStatus) (call : ContextCall β κ)
    (driver : SeDriver β κ) : SeDriver β κ :=
  match call with
  | .init .. => { driver with inits := ⟨before, driver.seNvmCtx, status⟩ :: driver.inits }
  | _ => driver

/-- The driver under the calls of the MAC; those that use keys return. -/
def contextMachine : Machine (SeDriver β κ) (ContextCall β κ) where
  enabled driver call :=
    match call with
    | .useKey call => ((call driver.seNvmCtx).run driver.world).1.isSome
    | _ => True
  step call := do
    let before ← gets SeDriver.seNvmCtx
    let status ← call.run
    modify (recordInit before status call)

/-- The driver after reset. -/
def contextBoot (world : SeWorld β κ) : SeDriver β κ where
  seNvmCtx := ⟨fun _ => 0, fun _ => 0, fun _ => 0, keyList⟩
  seNvmCtxChanged := none
  notified := []
  world := world
  inits := []

/-- The pairs of a text up to its first bad character decode to the bytes that
are held. -/
def WritesBack (devEui devEuiAscii : ℕ → UInt8) : Prop :=
  ∀ byte < 8, (∀ index < 2 * byte + 2, IsHexDigit (devEuiAscii index)) →
    hexText devEui (2 * byte) = devEuiAscii (2 * byte) ∧
      hexText devEui (2 * byte + 1) = devEuiAscii (2 * byte + 1)

instance (devEui devEuiAscii : ℕ → UInt8) : Decidable (WritesBack devEui devEuiAscii) :=
  inferInstanceAs (Decidable (∀ byte < 8, _ → _ ∧ _))

/-- The device answers an initialisation: every step will succeed. -/
def Answers (atcabInit : AtcaStatus) (readZone : ReadZone) : Prop :=
  atcabInit = .success ∧ (readZone tngloraDevEuiSlot).1 = .success ∧
    (∀ index < 16, IsHexDigit ((readZone tngloraDevEuiSlot).2 index)) ∧
    (readZone tngloraJoinEuiSlot).1 = .success

/-- A setter is given bytes only after an initialisation that succeeded, and
an initialisation that is to fail after it has read the device EUI writes back
the bytes that are held. -/
def CallInOrder (driver : SeDriver β κ) (call : ContextCall β κ) : Prop :=
  match call with
  | .init _ atcabInit readZone =>
      Answers atcabInit readZone ∨ atcabInit ≠ .success ∨
        (readZone tngloraDevEuiSlot).1 ≠ .success ∨
        WritesBack driver.seNvmCtx.devEui (readZone tngloraDevEuiSlot).2
  | .setDevEui bytes => bytes = none ∨ driver.Initialised
  | .setJoinEui bytes => bytes = none ∨ driver.Initialised
  | .setPin bytes => bytes = none ∨ driver.Initialised
  | .restoreNvmCtx _ => True
  | .useKey _ => True

/-! ## The initialisation -/

/-- A conversion leaves its destination as it was exactly when it writes back. -/
theorem Ends.eq_iff {devEuiAscii dst devEui : ℕ → UInt8} {status : AtcaStatus}
    (ends : Ends devEuiAscii dst status devEui) :
    devEui = dst ↔ WritesBack dst devEuiAscii := by
  constructor
  · rintro rfl byte byte_lt digits
    cases ends with
    | success decoded => exact ⟨decoded.text _ (by omega), decoded.text _ (by omega)⟩
    | @badParam _ position _ bad _ decoded =>
        have after : 2 * byte + 2 ≤ position := by
          by_contra before
          exact bad (digits position (by omega))
        exact ⟨decoded.text _ (by omega), decoded.text _ (by omega)⟩
  · intro back
    have same : ∀ pos ≤ 16, 2 ∣ pos → (∀ index < pos, IsHexDigit (devEuiAscii index)) →
        Decoded devEuiAscii dst pos devEui → devEui = dst := by
      intro pos pos_le even digits decoded
      funext index
      rcases Nat.lt_or_ge (2 * index + 1) pos with inside | outside
      · have pair := back index (by omega) fun earlier earlier_lt =>
          digits earlier (by omega)
        apply eq_of_hexText_eq
        · rw [decoded.text _ (by omega), pair.1]
        · rw [decoded.text _ inside, pair.2]
      · exact decoded.frame index (by omega)
    cases ends with
    | success decoded =>
        exact same 16 le_rfl (by decide) (fun index => decoded.isHexDigit) decoded
    | @badParam _ position position_lt _ before decoded =>
        exact same _ (by omega) (Nat.dvd_mul_right 2 _)
          (fun index index_lt => before index (by omega)) decoded

theorem Ends.success_iff {devEuiAscii dst devEui : ℕ → UInt8} {status : AtcaStatus}
    (ends : Ends devEuiAscii dst status devEui) :
    status = .success ↔ ∀ index < 16, IsHexDigit (devEuiAscii index) :=
  ends.decodesDevEui.accepts

/-- How an initialisation ends. -/
inductive InitEnds (atcabInit : AtcaStatus) (readZone : ReadZone) (driver : SeDriver β κ) :
    SecureElementStatus → SeDriver β κ → Prop
  | success {final : SeDriver β κ} (answers : Answers atcabInit readZone)
      (inits : final.inits = driver.inits) (installed : final.seNvmCtxChanged ≠ none) :
      InitEnds atcabInit readZone driver .success final
  | error {final : SeDriver β κ} (silent : ¬Answers atcabInit readZone)
      (inits : final.inits = driver.inits)
      (callback : final.seNvmCtxChanged = driver.seNvmCtxChanged)
      (kept : final.seNvmCtx = driver.seNvmCtx ↔
        atcabInit ≠ .success ∨ (readZone tngloraDevEuiSlot).1 ≠ .success ∨
          WritesBack driver.seNvmCtx.devEui (readZone tngloraDevEuiSlot).2) :
      InitEnds atcabInit readZone driver .error final

theorem withDevEui_seNvmCtx_eq_iff (driver : SeDriver β κ) (devEui : ℕ → UInt8) :
    (driver.withDevEui devEui).seNvmCtx = driver.seNvmCtx ↔
      devEui = driver.seNvmCtx.devEui := by
  constructor
  · exact fun same => congrArg SeNvmCtx.devEui same
  · rintro rfl
    rfl

theorem wp_secureElementInit (seNvmCtxChanged : Option ℕ) (atcabInit : AtcaStatus)
    (readZone : ReadZone) (driver : SeDriver β κ) :
    wp (secureElementInit seNvmCtxChanged atcabInit readZone)
      (InitEnds atcabInit readZone driver) driver := by
  unfold secureElementInit
  by_cases init : atcabInit = .success
  · rw [if_neg (not_not.mpr init), wp_bind, wp_zoom]
    unfold atcabReadDevEui
    by_cases read : (readZone tngloraDevEuiSlot).1 = .success
    · simp only [read, ne_eq, not_true_eq_false, if_false]
      refine wp_mono (wp_convertAsciiDevEui _ _) fun status devEui ends => ?_
      have kept := (withDevEui_seNvmCtx_eq_iff driver devEui).trans ends.eq_iff
      by_cases converted : status = .success
      · rw [if_neg (not_not.mpr converted), wp_bind, wp_zoom]
        unfold atcabReadJoinEui
        by_cases join : (readZone tngloraJoinEuiSlot).1 = .success
        · simp only [join, ne_eq, not_true_eq_false, if_false, wp_bind, copyBytes, wp_modify,
            wp_pure]
          refine .success ⟨init, read, ends.success_iff.mp converted, join⟩ rfl ?_
          cases seNvmCtxChanged <;> exact Option.some_ne_none _
        · simp only [join, ne_eq, not_false_eq_true, if_true, wp_pure]
          refine .error (fun answers => join answers.2.2.2) rfl rfl ?_
          simp only [init, read, ne_eq, not_true_eq_false, false_or]
          exact kept
      · rw [if_pos converted, wp_pure]
        refine .error (fun answers => converted (ends.success_iff.mpr answers.2.2.1)) rfl rfl ?_
        simp only [init, read, ne_eq, not_true_eq_false, false_or]
        exact kept
    · simp only [read, ne_eq, not_false_eq_true, if_true, wp_pure]
      refine .error (fun answers => read answers.2.1) rfl rfl ?_
      exact iff_of_true rfl (.inr (.inl read))
  · rw [if_pos init, wp_pure]
    exact .error (fun answers => init answers.1) rfl rfl (iff_of_true rfl (.inl init))

/-! ## The setters -/

/-- The callback and the record of the initialisations are as before. -/
structure SameInits (driver final : SeDriver β κ) : Prop where
  inits : final.inits = driver.inits
  callback : final.seNvmCtxChanged = driver.seNvmCtxChanged

section Setter

variable {view : SeDriver β κ → ℕ → UInt8} {put : (ℕ → UInt8) → SeDriver β κ → SeDriver β κ}
  {size : ℕ} {bytes : Option (ℕ → UInt8)} {driver : SeDriver β κ}

theorem wp_setField (frame : ∀ field, SameInits driver (put field driver))
    (allowed : bytes = none ∨ driver.seNvmCtxChanged ≠ none) :
    wp (setField view put size bytes) (fun _ final => SameInits driver final) driver := by
  cases bytes with
  | none =>
      rw [setField, wp_pure]
      exact ⟨rfl, rfl⟩
  | some bytes =>
      obtain ⟨event, installed⟩ :=
        Option.ne_none_iff_exists'.mp (allowed.resolve_left (Option.some_ne_none bytes))
      simp only [setField, callSeNvmCtxChanged, copyBytes, wp_bind, wp_zoom, wp_modify, wp_gets]
      have same := frame fun index => if index < size then bytes index else view driver index
      rw [same.callback, installed]
      simp only [wp_modify, wp_pure]
      exact ⟨same.inits, same.callback⟩

/-- A setter that is given bytes faults without a callback. -/
theorem not_wp_setField (frame : ∀ field, SameInits driver (put field driver))
    {post : SecureElementStatus → SeDriver β κ → Prop} (given : bytes ≠ none)
    (missing : driver.seNvmCtxChanged = none) :
    ¬wp (setField view put size bytes) post driver := by
  obtain ⟨bytes, rfl⟩ := Option.ne_none_iff_exists'.mp given
  simp only [setField, callSeNvmCtxChanged, copyBytes, wp_bind, wp_zoom, wp_modify, wp_gets]
  have same := frame fun index => if index < size then bytes index else view driver index
  rw [same.callback, missing]
  simp only [wp_undefined, not_false_eq_true]

end Setter

/-! ## One call -/

/-- The callback is installed exactly when an initialisation has succeeded. -/
def Installed (driver : SeDriver β κ) : Prop :=
  driver.seNvmCtxChanged ≠ none ↔ driver.Initialised

theorem Installed.of_same {driver final : SeDriver β κ} (installed : Installed driver)
    (same : SameInits driver final) : Installed final := by
  rw [Installed, SeDriver.Initialised, same.inits, same.callback]
  exact installed

theorem SeDriver.ContextKept.of_same {driver final : SeDriver β κ} (kept : driver.ContextKept)
    (same : SameInits driver final) : final.ContextKept := by
  rw [ContextKept, same.inits]
  exact kept

/-- The arguments a setter is given. -/
def ContextCall.setter : ContextCall β κ → Option (Option (ℕ → UInt8))
  | .setDevEui bytes => some bytes
  | .setJoinEui bytes => some bytes
  | .setPin bytes => some bytes
  | _ => none

/-- A call that is not an initialisation keeps the callback and the record; a
setter needs the callback for it. -/
theorem wp_run_same {call : ContextCall β κ} {driver : SeDriver β κ}
    (enabled : contextMachine.enabled driver call)
    (other : ∀ seNvmCtxChanged atcabInit readZone,
      call ≠ .init seNvmCtxChanged atcabInit readZone)
    (allowed : ∀ bytes, call.setter = some bytes →
      bytes = none ∨ driver.seNvmCtxChanged ≠ none) :
    wp call.run (fun _ final => SameInits driver final) driver := by
  cases call with
  | init seNvmCtxChanged atcabInit readZone => exact absurd rfl (other _ _ _)
  | restoreNvmCtx seNvmCtx =>
      cases seNvmCtx <;>
        simp only [ContextCall.run, secureElementRestoreNvmCtx, wp_bind, wp_modify, wp_pure] <;>
        exact ⟨rfl, rfl⟩
  | setDevEui bytes => exact wp_setField (fun _ => ⟨rfl, rfl⟩) (allowed bytes rfl)
  | setJoinEui bytes => exact wp_setField (fun _ => ⟨rfl, rfl⟩) (allowed bytes rfl)
  | setPin bytes => exact wp_setField (fun _ => ⟨rfl, rfl⟩) (allowed bytes rfl)
  | useKey call =>
      obtain ⟨status, returned⟩ := Option.isSome_iff_exists.mp enabled
      simp only [ContextCall.run, wp_bind, wp_gets, wp_zoom]
      exact ⟨status, _, Prod.ext returned rfl, ⟨rfl, rfl⟩⟩

/-- A setter that is given bytes faults before the callback is installed. -/
theorem not_wp_run {call : ContextCall β κ} {driver : SeDriver β κ}
    {post : SecureElementStatus → SeDriver β κ → Prop} {bytes : Option (ℕ → UInt8)}
    (setter : call.setter = some bytes) (given : bytes ≠ none)
    (missing : driver.seNvmCtxChanged = none) : ¬wp call.run post driver := by
  cases call with
  | init seNvmCtxChanged atcabInit readZone => cases setter
  | restoreNvmCtx seNvmCtx => cases setter
  | setDevEui bytes =>
      cases setter
      exact not_wp_setField (fun _ => ⟨rfl, rfl⟩) given missing
  | setJoinEui bytes =>
      cases setter
      exact not_wp_setField (fun _ => ⟨rfl, rfl⟩) given missing
  | setPin bytes =>
      cases setter
      exact not_wp_setField (fun _ => ⟨rfl, rfl⟩) given missing
  | useKey call => cases setter

theorem recordInit_of_other {call : ContextCall β κ} {before : SeNvmCtx}
    {status : SecureElementStatus} {driver : SeDriver β κ}
    (other : ∀ seNvmCtxChanged atcabInit readZone,
      call ≠ .init seNvmCtxChanged atcabInit readZone) :
    recordInit before status call driver = driver := by
  cases call with
  | init seNvmCtxChanged atcabInit readZone => exact absurd rfl (other _ _ _)
  | _ => rfl

/-- A call in order is a setter with a callback, or without bytes. -/
theorem callInOrder_iff {call : ContextCall β κ} {driver : SeDriver β κ}
    (other : ∀ seNvmCtxChanged atcabInit readZone,
      call ≠ .init seNvmCtxChanged atcabInit readZone) :
    CallInOrder driver call ↔
      ∀ bytes, call.setter = some bytes → bytes = none ∨ driver.Initialised := by
  cases call with
  | init seNvmCtxChanged atcabInit readZone => exact absurd rfl (other _ _ _)
  | restoreNvmCtx seNvmCtx => simp [CallInOrder, ContextCall.setter]
  | setDevEui bytes => simp [CallInOrder, ContextCall.setter]
  | setJoinEui bytes => simp [CallInOrder, ContextCall.setter]
  | setPin bytes => simp [CallInOrder, ContextCall.setter]
  | useKey call => simp [CallInOrder, ContextCall.setter]

/-- An initialisation installs the callback exactly when it succeeds, and
keeps the context when it fails exactly when it is in order. -/
theorem wp_step_init {driver : SeDriver β κ} (installed : Installed driver)
    (kept : driver.ContextKept) (seNvmCtxChanged : Option ℕ) (atcabInit : AtcaStatus)
    (readZone : ReadZone) :
    wp (contextMachine.step (.init seNvmCtxChanged atcabInit readZone))
      (fun _ final => Installed final ∧
        (final.ContextKept ↔
          CallInOrder driver (.init seNvmCtxChanged atcabInit readZone))) driver := by
  simp only [contextMachine, wp_bind, wp_gets, wp_modify]
  refine wp_mono (wp_secureElementInit seNvmCtxChanged atcabInit readZone driver)
    fun status final ends => ?_
  cases ends with
  | success answers inits callback =>
      constructor
      · exact iff_of_true callback ⟨_, List.mem_cons_self, rfl⟩
      · refine iff_of_true ?_ (.inl answers)
        intro init member failed
        rcases List.mem_cons.mp member with rfl | earlier
        · exact absurd rfl failed
        · exact kept init (inits ▸ earlier) failed
  | error silent inits callback same =>
      constructor
      · rw [Installed, recordInit, callback]
        refine installed.trans ⟨?_, ?_⟩
        · rintro ⟨init, member, succeeded⟩
          exact ⟨init, List.mem_cons_of_mem _ (inits ▸ member), succeeded⟩
        · rintro ⟨init, member, succeeded⟩
          rcases List.mem_cons.mp member with rfl | earlier
          · cases succeeded
          · exact ⟨init, inits ▸ earlier, succeeded⟩
      · constructor
        · intro finalKept
          have last := finalKept _ List.mem_cons_self fun impossible => by cases impossible
          exact .inr (same.mp last)
        · intro order init member failed
          rcases List.mem_cons.mp member with rfl | earlier
          · exact same.mpr (order.resolve_left silent)
          · exact kept init (inits ▸ earlier) failed

/-- What holds between calls in order. -/
structure ContextLaw (driver : SeDriver β κ) : Prop where
  installed : Installed driver
  kept : driver.ContextKept

/-- A call in order returns and keeps the law. -/
theorem wp_step_of_order {driver : SeDriver β κ} (law : ContextLaw driver)
    (call : ContextCall β κ) (enabled : contextMachine.enabled driver call)
    (order : CallInOrder driver call) :
    wp (contextMachine.step call) (fun _ final => ContextLaw final) driver := by
  by_cases init : ∃ seNvmCtxChanged atcabInit readZone,
      call = .init seNvmCtxChanged atcabInit readZone
  · obtain ⟨seNvmCtxChanged, atcabInit, readZone, rfl⟩ := init
    refine wp_mono (wp_step_init law.installed law.kept seNvmCtxChanged atcabInit readZone)
      fun _ _ ends => ?_
    exact ⟨ends.1, ends.2.mpr order⟩
  · have other : ∀ seNvmCtxChanged atcabInit readZone,
        call ≠ .init seNvmCtxChanged atcabInit readZone :=
      fun _ _ _ same => init ⟨_, _, _, same⟩
    rw [callInOrder_iff other] at order
    simp only [contextMachine, wp_bind, wp_gets, wp_modify, recordInit_of_other other]
    refine wp_mono (wp_run_same enabled other fun bytes setter =>
      (order bytes setter).imp_right law.installed.mpr) fun _ _ same => ?_
    exact ⟨law.installed.of_same same, law.kept.of_same same⟩

/-- A call that returns and keeps the context was in order. -/
theorem order_of_wp_step {driver : SeDriver β κ} (law : ContextLaw driver)
    (call : ContextCall β κ)
    (holds : wp (contextMachine.step call) (fun _ final => final.ContextKept) driver) :
    CallInOrder driver call := by
  by_cases init : ∃ seNvmCtxChanged atcabInit readZone,
      call = .init seNvmCtxChanged atcabInit readZone
  · obtain ⟨seNvmCtxChanged, atcabInit, readZone, rfl⟩ := init
    obtain ⟨_, _, _, both⟩ :=
      wp_and (wp_step_init law.installed law.kept seNvmCtxChanged atcabInit readZone) holds
    exact both.1.2.mp both.2
  · have other : ∀ seNvmCtxChanged atcabInit readZone,
        call ≠ .init seNvmCtxChanged atcabInit readZone :=
      fun _ _ _ same => init ⟨_, _, _, same⟩
    rw [callInOrder_iff other]
    intro bytes setter
    by_contra out
    rw [not_or] at out
    have missing : driver.seNvmCtxChanged = none :=
      not_not.mp fun given => out.2 (law.installed.mp given)
    simp only [contextMachine, wp_bind, wp_gets] at holds
    exact not_wp_run setter out.1 missing holds

/-! ## Runs -/

theorem contextLaw_boot (world : SeWorld β κ) : ContextLaw (contextBoot world) := by
  constructor
  · constructor
    · exact fun given => absurd rfl given
    · rintro ⟨_, member, _⟩
      cases member
  · intro _ member
    cases member

/-- While every call is in order, no null callback is invoked and every failed
initialisation leaves the context as it was; the next call keeps to this
exactly when it is in order. -/
theorem secureElementContext_kept (world : SeWorld β κ) {driver : SeDriver β κ}
    (reached : contextMachine.Reaches CallInOrder (contextBoot world) driver) :
    driver.ContextKept ∧ ∀ call, contextMachine.enabled driver call →
      (wp (contextMachine.step call) (fun _ final => final.ContextKept) driver ↔
        CallInOrder driver call) := by
  have law : ContextLaw driver := reached.invariant (contextLaw_boot world)
    fun before call law enabled order => wp_step_of_order law call enabled order
  refine ⟨law.kept, fun call enabled => ?_⟩
  constructor
  · exact order_of_wp_step law call
  · intro order
    exact wp_mono (wp_step_of_order law call enabled order) fun _ _ law => law.kept

/-- A device that holds one text as its EUI. -/
def heldZone (text : UInt8) (join : AtcaStatus) : ReadZone := fun slot =>
  if slot = tngloraDevEuiSlot then (.success, fun _ => text) else (join, fun _ => 0)

/-- The device is initialised, a pin is set, and a second initialisation finds
the EUI it has, but no join EUI. -/
theorem secureElementContext_kept_example :
    ∃ driver, contextMachine.Reaches CallInOrder (contextBoot flipWorld) driver ∧
      driver.inits.length = 2 ∧ driver.seNvmCtx.pin 0 = 7 ∧ driver.ContextKept := by
  have first : contextMachine.Reaches CallInOrder (contextBoot flipWorld) _ :=
    .step (.init none .success (heldZone 0x41 .success)) .start trivial
      (.inl ⟨rfl, rfl, by decide, rfl⟩) rfl
  have second : contextMachine.Reaches CallInOrder (contextBoot flipWorld) _ :=
    .step (.setPin (some fun _ => 7)) first trivial
      (.inr ⟨_, List.mem_cons_self, rfl⟩) rfl
  have third : contextMachine.Reaches CallInOrder (contextBoot flipWorld) _ :=
    .step (.init none .success (heldZone 0x41 .genFail)) second trivial
      (.inr (.inr (.inr (by decide)))) rfl
  exact ⟨_, third, rfl, rfl, (secureElementContext_kept flipWorld third).1⟩

/-- A pin set after reset calls the null callback, and an initialisation that
fails at the join EUI has replaced the device EUI. -/
theorem secureElementContext_not_kept :
    ¬wp (contextMachine.step (.setPin (some fun _ => 7)))
        (fun _ _ => True) (contextBoot flipWorld) ∧
      ∃ driver, contextMachine.Reaches (fun _ _ => True) (contextBoot flipWorld) driver ∧
        ¬driver.ContextKept := by
  constructor
  · rintro ⟨_, _, returned, _⟩
    cases returned
  · refine ⟨_, .step (.init none .success (heldZone 0x41 .genFail)) .start trivial trivial rfl,
      ?_⟩
    intro kept
    have same := congrFun (congrArg SeNvmCtx.devEui (kept _ List.mem_cons_self (by decide))) 0
    revert same
    decide

end GenericNode.SecureElement
