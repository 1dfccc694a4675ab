import GenericNode.Sensors.Uplink

/-!
# Sampling

`sensors_sample` over an SHTC3 that may fail, and the runs of `SendTxData`.
-/

namespace GenericNode.SensorsLorawan

/-- `sensors_op_result_t`. -/
inductive SensorsOpResult where
  | success | fail
deriving DecidableEq, Repr

/-- What the hardware answers to one sampling: the battery, the status of the
measure command, and the status and the words of the read. -/
structure Hardware where
  batteryVoltage : ℕ
  measure : ℤ
  read : ℤ
  words : ℕ × ℕ

/-- What memory holds that is not written: the local `sensors_t` of
`SendTxData`, and the words of `SHTC3_read` when its read fails. -/
structure Uninitialised where
  sensorData : Sensors
  words : ℕ × ℕ

/-- The temperature of `SHTC3_read`. -/
def shtc3Temperature (word : ℕ) : ℤ :=
  ((21875 * word) >>> 13 : ℕ) - 45000

/-- The humidity of `SHTC3_read`. -/
def shtc3Humidity (word : ℕ) : ℤ :=
  ((12500 * word) >>> 13 : ℕ)

/-- `SHTC3_read`: the values are written whatever the status.  The first word is
stored before the CRC of the second one is checked, so the words of a failing
read are arbitrary. -/
def shtc3Read (hardware : Hardware) (garbage : Uninitialised) (sensorData : Sensors) :
    ℤ × Sensors :=
  let words := if hardware.read = 0 then hardware.words else garbage.words
  (hardware.read,
    { sensorData with
      temperature := shtc3Temperature words.1
      humidity := shtc3Humidity words.2 })

/-- `SHTC3_measure_blocking_read`. -/
def shtc3MeasureBlockingRead (hardware : Hardware) (garbage : Uninitialised)
    (sensorData : Sensors) : ℤ × Sensors :=
  if hardware.measure ≠ 0 then (hardware.measure, sensorData)
  else shtc3Read hardware garbage sensorData

/-- `sensors_sample`. -/
def sensorsSample (hardware : Hardware) (garbage : Uninitialised) :
    SensorsOpResult × Sensors :=
  let sensorData := { garbage.sensorData with batteryVoltage := hardware.batteryVoltage }
  let (status, sensorData) := shtc3MeasureBlockingRead hardware garbage sensorData
  if status ≠ 0 then (.fail, sensorData) else (.success, sensorData)

/-- `temp_fallback` and `humid_fallback`. -/
structure Fallback where
  temperature : ℤ
  humidity : ℤ
deriving DecidableEq, Repr

/-- The initial values of `temp_fallback` and `humid_fallback`. -/
def initialFallback : Fallback where
  temperature := 0
  humidity := 0

/-- `sensorData` after the failure of a sampling is handled, in
`sensors_lorawan_se`. -/
def withFallback (rc : SensorsOpResult) (fallback : Fallback) (sensorData : Sensors) : Sensors :=
  if rc ≠ .success then
    { sensorData with temperature := fallback.temperature, humidity := fallback.humidity }
  else sensorData

/-- The fallback values that are kept of a sample. -/
def Sensors.fallback (sensorData : Sensors) : Fallback where
  temperature := sensorData.temperature
  humidity := sensorData.humidity

/-- `SendTxData` up to `LmHandlerSend`, without interrupts: the fallback values
it leaves and the uplink it builds. -/
def sendTxData (application : Application) (fallback : Fallback) (hardware : Hardware)
    (garbage : Uninitialised) (buttonPress : ℕ) : Fallback × LmHandlerAppData :=
  let (rc, sensorData) := sensorsSample hardware garbage
  match application with
  | .sensorsLorawan => (fallback, sensorsLorawanAppData sensorData)
  | .sensorsLorawanSe =>
      let sensorData := withFallback rc fallback sensorData
      (sensorData.fallback, sensorsLorawanSeAppData sensorData buttonPress)

/-- What the environment decides at one run of `SendTxData`. -/
structure Attempt where
  hardware : Hardware
  buttonPress : ℕ

/-- The uplinks of the runs of `SendTxData`, one after the other, with the
contents of memory at each. -/
def uplinks (application : Application) (garbage : ℕ → Uninitialised) :
    Fallback → List Attempt → List LmHandlerAppData
  | _, [] => []
  | fallback, attempt :: attempts =>
      let (fallback, uplink) :=
        sendTxData application fallback attempt.hardware (garbage 0) attempt.buttonPress
      uplink :: uplinks application (fun index => garbage (index + 1)) fallback attempts

/-! ## Fresh uplinks -/

/-- The sampling succeeds. -/
def Attempt.Succeeds (attempt : Attempt) : Prop :=
  attempt.hardware.measure = 0 ∧ attempt.hardware.read = 0

instance (attempt : Attempt) : Decidable attempt.Succeeds :=
  inferInstanceAs (Decidable (_ ∧ _))

/-- The pair that a successful sampling measures. -/
def Attempt.measured (attempt : Attempt) : Fallback where
  temperature := shtc3Temperature attempt.hardware.words.1
  humidity := shtc3Humidity attempt.hardware.words.2

/-- The pair of the most recent successful sampling. -/
def mostRecent (fallback : Fallback) (attempts : List Attempt) : Fallback :=
  attempts.foldl (fun last attempt => if attempt.Succeeds then attempt.measured else last) fallback

/-- The sample an uplink is due to report. -/
def Attempt.report (attempt : Attempt) (pair : Fallback) : Sensors where
  batteryVoltage := attempt.hardware.batteryVoltage
  temperature := pair.temperature
  humidity := pair.humidity

/-- Whatever memory holds, each uplink reports the pair of the most recent
successful sampling, or the initial one. -/
def Fresh (application : Application) (attempts : List Attempt) : Prop :=
  ∀ (garbage : ℕ → Uninitialised) (index : ℕ) (within : index < attempts.length),
    (uplinks application garbage initialFallback attempts)[index]? =
      some (appData application
        (attempts[index].report (mostRecent initialFallback (attempts.take (index + 1))))
        attempts[index].buttonPress)

section Runs

variable {fallback : Fallback} {attempt : Attempt} {attempts : List Attempt}
  {garbage : Uninitialised}

/-- The sample of a sampling that succeeds. -/
theorem sensorsSample_success (succeeds : attempt.Succeeds) :
    sensorsSample attempt.hardware garbage = (.success, attempt.report attempt.measured) := by
  obtain ⟨measure, read⟩ := succeeds
  simp [sensorsSample, shtc3MeasureBlockingRead, shtc3Read, measure, read, Attempt.report,
    Attempt.measured]

/-- A sampling that fails says so, and reads the battery. -/
theorem sensorsSample_fail (garbage : Uninitialised) (fails : ¬ attempt.Succeeds) :
    (sensorsSample attempt.hardware garbage).1 = .fail ∧
      (sensorsSample attempt.hardware garbage).2.batteryVoltage =
        attempt.hardware.batteryVoltage := by
  rw [Attempt.Succeeds, not_and] at fails
  by_cases measure : attempt.hardware.measure = 0
  · simp [sensorsSample, shtc3MeasureBlockingRead, shtc3Read, measure, fails measure]
  · simp [sensorsSample, shtc3MeasureBlockingRead, measure]

/-- `SendTxData` of `sensors_lorawan_se` reports the most recent pair and
keeps it. -/
theorem sendTxData_sensorsLorawanSe (fallback : Fallback) (attempt : Attempt)
    (garbage : Uninitialised) (buttonPress : ℕ) :
    sendTxData .sensorsLorawanSe fallback attempt.hardware garbage buttonPress =
      (mostRecent fallback [attempt],
        appData .sensorsLorawanSe (attempt.report (mostRecent fallback [attempt])) buttonPress) := by
  by_cases succeeds : attempt.Succeeds
  · simp only [sendTxData, sensorsSample_success succeeds, mostRecent, List.foldl_cons,
      List.foldl_nil, succeeds, ↓reduceIte]
    rfl
  · obtain ⟨rc, battery⟩ := sensorsSample_fail garbage succeeds
    have kept : withFallback .fail fallback (sensorsSample attempt.hardware garbage).2 =
        attempt.report fallback := by
      rw [withFallback, if_pos (by decide), battery]
      rfl
    simp only [sendTxData, mostRecent, List.foldl_cons, List.foldl_nil, succeeds, ↓reduceIte, rc,
      kept]
    rfl

theorem mostRecent_cons (fallback : Fallback) (attempt : Attempt) (attempts : List Attempt) :
    mostRecent fallback (attempt :: attempts) =
      mostRecent (mostRecent fallback [attempt]) attempts :=
  rfl

/-- The runs of `sensors_lorawan_se`, from any fallback values on. -/
theorem uplinks_sensorsLorawanSe (garbage : ℕ → Uninitialised) (index : ℕ)
    (within : index < attempts.length) :
    (uplinks .sensorsLorawanSe garbage fallback attempts)[index]? =
      some (appData .sensorsLorawanSe
        (attempts[index].report (mostRecent fallback (attempts.take (index + 1))))
        attempts[index].buttonPress) := by
  induction attempts generalizing fallback garbage index with
  | nil => exact absurd within (Nat.not_lt_zero _)
  | cons attempt attempts ih =>
      rw [uplinks, sendTxData_sensorsLorawanSe]
      cases index with
      | zero => simp
      | succ index =>
          rw [List.getElem?_cons_succ, List.take_succ_cons, mostRecent_cons]
          exact ih _ index (Nat.lt_of_succ_lt_succ within)

/-- The runs of `sensors_lorawan` send whatever the sampling leaves. -/
theorem uplinks_sensorsLorawan (garbage : ℕ → Uninitialised) (index : ℕ)
    (within : index < attempts.length) :
    (uplinks .sensorsLorawan garbage fallback attempts)[index]? =
      some (sensorsLorawanAppData
        (sensorsSample attempts[index].hardware (garbage index)).2) := by
  induction attempts generalizing garbage index with
  | nil => exact absurd within (Nat.not_lt_zero _)
  | cons attempt attempts ih =>
      rw [uplinks]
      cases index with
      | zero => rfl
      | succ index =>
          simp only [List.getElem?_cons_succ, List.getElem_cons_succ]
          exact ih _ index (Nat.lt_of_succ_lt_succ within)

/-- A successful sampling is the most recent one. -/
theorem mostRecent_take_succ (index : ℕ) (within : index < attempts.length)
    (succeeds : attempts[index].Succeeds) :
    mostRecent fallback (attempts.take (index + 1)) = attempts[index].measured := by
  rw [List.take_succ_eq_append_getElem within, mostRecent, List.foldl_append]
  simp only [List.foldl_cons, List.foldl_nil, succeeds, ↓reduceIte]

end Runs

/-! ## When the uplinks are fresh -/

/-- Zeroed memory. -/
def zeroed : Uninitialised where
  sensorData := ⟨0, 0, 0⟩
  words := (0, 0)

/-- Memory where each temperature is another one. -/
def warmer : Uninitialised where
  sensorData := ⟨0, 100, 0⟩
  words := (8192, 0)

/-- After a failure, `sensors_lorawan` sends what was in memory. -/
theorem sensorsSample_garbage {attempt : Attempt} (fails : ¬ attempt.Succeeds) :
    sensorsLorawanAppData (sensorsSample attempt.hardware zeroed).2 ≠
      sensorsLorawanAppData (sensorsSample attempt.hardware warmer).2 := by
  intro same
  have low : ∀ sensorData : Sensors, (sensorsLorawanAppData sensorData).buffer[2]? =
      some (uint8 (sensorData.temperature.tdiv 100)) := fun _ => rfl
  have bytes := congrArg (fun uplink => uplink.buffer[2]?) same
  simp only [low] at bytes
  rw [Attempt.Succeeds, not_and] at fails
  by_cases measure : attempt.hardware.measure = 0
  · simp only [sensorsSample, shtc3MeasureBlockingRead, shtc3Read, measure, fails measure, ne_eq,
      not_true_eq_false, not_false_eq_true, ↓reduceIte] at bytes
    exact absurd bytes (by decide)
  · simp only [sensorsSample, shtc3MeasureBlockingRead, measure, ne_eq, not_false_eq_true,
      ↓reduceIte] at bytes
    exact absurd bytes (by decide)

/-- The uplinks of `sensors_lorawan_se` are fresh in every run, those of
`sensors_lorawan` in the runs where no sampling fails. -/
theorem uplinks_fresh_iff (application : Application) (attempts : List Attempt) :
    Fresh application attempts ↔
      application = .sensorsLorawanSe ∨ ∀ attempt ∈ attempts, attempt.Succeeds := by
  cases application with
  | sensorsLorawanSe =>
      refine ⟨fun _ => .inl rfl, fun _ garbage index within => ?_⟩
      exact uplinks_sensorsLorawanSe garbage index within
  | sensorsLorawan =>
      constructor
      · intro fresh
        right
        intro attempt mem
        obtain ⟨index, within, rfl⟩ := List.getElem_of_mem mem
        by_contra fails
        have cold := fresh (fun _ => zeroed) index within
        have warm := fresh (fun _ => warmer) index within
        rw [uplinks_sensorsLorawan _ _ within] at cold warm
        exact sensorsSample_garbage fails (Option.some.inj (cold.trans warm.symm))
      · rintro (se | succeed) garbage index within
        · cases se
        · have succeeds := succeed _ (List.getElem_mem within)
          rw [uplinks_sensorsLorawan _ _ within, sensorsSample_success succeeds,
            mostRecent_take_succ index within succeeds]
          rfl

/-- One failing sampling, and `sensors_lorawan` sends what was in memory. -/
theorem sensorsLorawan_not_fresh :
    ¬ Fresh .sensorsLorawan [⟨⟨3600, -1, 0, (0, 0)⟩, 0⟩] := by
  intro fresh
  have sent := fresh (fun _ => warmer) 0 (by decide)
  revert sent
  decide

end GenericNode.SensorsLorawan
