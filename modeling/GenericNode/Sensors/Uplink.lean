import Mathlib.Data.Fintype.Card
import Mathlib.Tactic.Linarith
import Mathlib.Tactic.FieldSimp
import Mathlib.Tactic.Ring
import Mathlib.Data.Rat.Floor

/-!
# The sensor uplink

What `SendTxData` of the two sensor applications builds from a sample, and the
payload formatter that both READMEs print.
-/

namespace GenericNode.SensorsLorawan

/-- `sensors_t`: millivolts, thousandths of a degree and of a percent. -/
structure Sensors where
  batteryVoltage : ℕ
  temperature : ℤ
  humidity : ℤ
deriving DecidableEq, Repr

/-- The applications that send the sensor uplink. -/
inductive Application where
  | sensorsLorawan | sensorsLorawanSe
deriving DecidableEq, Repr

/-- `LmHandlerAppData_t`: the port and the bytes that are transmitted. -/
structure LmHandlerAppData where
  port : ℕ
  buffer : List ℕ
deriving DecidableEq, Repr

/-- `SENSORS_PAYLOAD_APP_PORT`. -/
def sensorsPayloadAppPort : ℕ :=
  2

/-- `(uint8_t)`. -/
def uint8 (value : ℤ) : ℕ :=
  (value % 2 ^ 8).toNat

/-- `(uint16_t)`. -/
def uint16 (value : ℤ) : ℕ :=
  (value % 2 ^ 16).toNat

/-- `AppData` in `sensors_lorawan`. -/
def sensorsLorawanAppData (sensorData : Sensors) : LmHandlerAppData where
  port := sensorsPayloadAppPort
  buffer :=
    [uint8 (sensorData.batteryVoltage / 100 : ℕ),
      uint8 (sensorData.temperature.tdiv 100 >>> (8 : ℕ)),
      uint8 (sensorData.temperature.tdiv 100),
      uint8 (sensorData.humidity.tdiv 100 >>> (8 : ℕ)),
      uint8 (sensorData.humidity.tdiv 100)]

/-- `AppData` in `sensors_lorawan_se`. -/
def sensorsLorawanSeAppData (sensorData : Sensors) (buttonPress : ℕ) : LmHandlerAppData where
  port := sensorsPayloadAppPort
  buffer :=
    let vbatUint := uint8 (sensorData.batteryVoltage / 100 : ℕ)
    let tempUint := uint16 (sensorData.temperature.tdiv 100 + 500)
    let humidityUint := uint16 (sensorData.humidity.tdiv 100)
    [vbatUint, uint8 (tempUint >>> 8 : ℕ), uint8 tempUint, uint8 (humidityUint >>> 8 : ℕ),
      uint8 humidityUint, buttonPress]

/-- What an application builds from a sample and the button flag. -/
def appData (application : Application) (sensorData : Sensors) (buttonPress : ℕ) :
    LmHandlerAppData :=
  match application with
  | .sensorsLorawan => sensorsLorawanAppData sensorData
  | .sensorsLorawanSe => sensorsLorawanSeAppData sensorData buttonPress

/-! ## The payload formatter -/

/-- The data of the payload formatter; a field computed from a byte beyond the
payload has no value. -/
structure UplinkData where
  battVolt : Option ℚ
  temperature : Option ℚ
  humidity : Option ℚ
  button : Option ℕ
deriving DecidableEq

/-- `decodeUplink`, the same in both READMEs. -/
def decodeUplink (bytes : List ℕ) : UplinkData where
  battVolt := bytes[0]?.map fun byte0 : ℕ => (byte0 : ℚ) / 10
  temperature := bytes[1]?.bind fun byte1 => bytes[2]?.map fun byte2 =>
    ((((byte1 <<< 8) + byte2 : ℕ) : ℚ) - 500) / 10
  humidity := bytes[3]?.bind fun byte3 => bytes[4]?.map fun byte4 =>
    (((byte3 <<< 8) + byte4 : ℕ) : ℚ) / 10
  button := bytes[5]?

/-! ## Truncation -/

/-- A value truncated toward zero to one decimal. -/
def truncated (value : ℚ) : ℚ :=
  ((if 0 ≤ value then ⌊10 * value⌋ else ⌈10 * value⌉ : ℤ) : ℚ) / 10

/-- The division of C truncates toward zero. -/
theorem tdiv_hundred (value : ℤ) :
    value.tdiv 100 = if 0 ≤ value then value / 100 else -((-value) / 100) := by
  by_cases nonneg : 0 ≤ value
  · rw [if_pos nonneg, Int.tdiv_eq_ediv_of_nonneg nonneg]
  · rw [if_neg nonneg, ← Int.tdiv_eq_ediv_of_nonneg (by omega), Int.neg_tdiv, neg_neg]

theorem truncated_thousandths (value : ℤ) :
    truncated (value / 1000) = (value.tdiv 100 : ℤ) / 10 := by
  have scaled : (10 : ℚ) * (value / 1000) = value / (100 : ℕ) := by
    push_cast
    ring
  have sign : (0 : ℚ) ≤ value / 1000 ↔ 0 ≤ value := by
    rw [le_div_iff₀ (by norm_num), zero_mul]
    exact_mod_cast Iff.rfl
  rw [truncated, scaled, tdiv_hundred]
  by_cases nonneg : 0 ≤ value
  · rw [if_pos (sign.mpr nonneg), if_pos nonneg, Rat.floor_intCast_div_natCast]
    rfl
  · have opposite : (value : ℚ) / (100 : ℕ) = -(((-value : ℤ) : ℚ) / (100 : ℕ)) := by
      push_cast
      ring
    rw [if_neg fun positive => nonneg (sign.mp positive), if_neg nonneg, opposite, Int.ceil_neg,
      Rat.floor_intCast_div_natCast]
    rfl

/-! ## The round trip -/

/-- The ranges of the sensors. -/
structure Sensors.InRange (sensorData : Sensors) : Prop where
  batteryVoltage : sensorData.batteryVoltage < 25600
  temperature : -45000 ≤ sensorData.temperature ∧ sensorData.temperature ≤ 130000
  humidity : 0 ≤ sensorData.humidity ∧ sensorData.humidity ≤ 100000

/-- The formatter shows the sample truncated to one decimal, and reads bytes
of the payload only. -/
structure Decodes (application : Application) (sensorData : Sensors) (buttonPress : ℕ) :
    Prop where
  battVolt : (decodeUplink (appData application sensorData buttonPress).buffer).battVolt =
    some (truncated (sensorData.batteryVoltage / 1000))
  temperature : (decodeUplink (appData application sensorData buttonPress).buffer).temperature =
    some (truncated (sensorData.temperature / 1000))
  humidity : (decodeUplink (appData application sensorData buttonPress).buffer).humidity =
    some (truncated (sensorData.humidity / 1000))
  button : (decodeUplink (appData application sensorData buttonPress).buffer).button.isSome = true

/-- Two bytes of a word, put together again. -/
theorem uint8_pair (word : ℕ) (fits : word < 2 ^ 16) :
    (uint8 (word >>> 8 : ℕ) <<< 8) + uint8 word = word := by
  simp only [uint8, Nat.shiftLeft_eq, Nat.shiftRight_eq_div_pow]
  omega

theorem uint16_lt (value : ℤ) : uint16 value < 2 ^ 16 := by
  rw [uint16]
  omega

/-- A quotient that fits in 16 bits is kept by the narrowing. -/
theorem uint16_eq {value : ℤ} (nonneg : 0 ≤ value) (fits : value < 2 ^ 16) :
    ((uint16 value : ℕ) : ℚ) = value := by
  have kept : ((uint16 value : ℕ) : ℤ) = value := by
    rw [uint16]
    omega
  exact_mod_cast congrArg (fun word : ℤ => (word : ℚ)) kept

theorem uint8_eq {value : ℤ} (nonneg : 0 ≤ value) (fits : value < 2 ^ 8) :
    ((uint8 value : ℕ) : ℚ) = value := by
  have kept : ((uint8 value : ℕ) : ℤ) = value := by
    rw [uint8]
    omega
  exact_mod_cast congrArg (fun word : ℤ => (word : ℚ)) kept

/-- What the formatter shows of a payload of six bytes. -/
theorem decodes_sensorsLorawanSe {sensorData : Sensors} (inRange : sensorData.InRange)
    (buttonPress : ℕ) : Decodes .sensorsLorawanSe sensorData buttonPress := by
  obtain ⟨battery, ⟨cold, warm⟩, dry, wet⟩ := inRange
  have quotient := tdiv_hundred sensorData.temperature
  have share := tdiv_hundred sensorData.humidity
  refine ⟨?_, ?_, ?_, rfl⟩
  · have volts : (sensorData.batteryVoltage : ℤ).tdiv 100 = (sensorData.batteryVoltage / 100 : ℕ) := by
      rw [tdiv_hundred, if_pos (by omega)]
      rfl
    have byte : ((uint8 (sensorData.batteryVoltage / 100 : ℕ) : ℕ) : ℚ) =
        ((sensorData.batteryVoltage / 100 : ℕ) : ℤ) := by
      apply uint8_eq <;> omega
    have shown := truncated_thousandths sensorData.batteryVoltage
    rw [volts, ← byte] at shown
    exact congrArg some shown.symm
  · have temp : ((uint16 (sensorData.temperature.tdiv 100 + 500) : ℕ) : ℚ) =
        (sensorData.temperature.tdiv 100 + 500 : ℤ) := by
      apply uint16_eq <;> split_ifs at quotient <;> omega
    simp only [decodeUplink, appData, sensorsLorawanSeAppData, List.getElem?_cons_zero,
      List.getElem?_cons_succ, Option.bind_some, Option.map_some, uint8_pair _ (uint16_lt _)]
    rw [truncated_thousandths, temp]
    congr 2
    push_cast
    ring
  · have hum : ((uint16 (sensorData.humidity.tdiv 100) : ℕ) : ℚ) =
        (sensorData.humidity.tdiv 100 : ℤ) := by
      apply uint16_eq <;> split_ifs at share <;> omega
    simp only [decodeUplink, appData, sensorsLorawanSeAppData, List.getElem?_cons_zero,
      List.getElem?_cons_succ, Option.bind_some, Option.map_some, uint8_pair _ (uint16_lt _)]
    rw [truncated_thousandths, hum]

/-- The bytes of `sensors_lorawan` lack the offset that the formatter takes
off: it shows 50 degrees less. -/
theorem temperature_sensorsLorawan {sensorData : Sensors} (inRange : sensorData.InRange)
    (warm : 0 ≤ sensorData.temperature) (buttonPress : ℕ) :
    (decodeUplink (appData .sensorsLorawan sensorData buttonPress).buffer).temperature =
      some (truncated (sensorData.temperature / 1000) - 50) := by
  have quotient := tdiv_hundred sensorData.temperature
  have hot := inRange.temperature.2
  have word : (uint8 (sensorData.temperature.tdiv 100 >>> (8 : ℕ)) <<< 8) +
      uint8 (sensorData.temperature.tdiv 100) = uint16 (sensorData.temperature.tdiv 100) := by
    simp only [uint8, uint16, Nat.shiftLeft_eq, Int.shiftRight_eq_div_pow]
    omega
  have kept : ((uint16 (sensorData.temperature.tdiv 100) : ℕ) : ℚ) =
      (sensorData.temperature.tdiv 100 : ℤ) := by
    apply uint16_eq <;> split_ifs at quotient <;> omega
  simp only [decodeUplink, appData, sensorsLorawanAppData, List.getElem?_cons_zero,
    List.getElem?_cons_succ, Option.bind_some, Option.map_some, word]
  rw [truncated_thousandths, kept]
  congr 1
  ring

/-- They also lack the byte of the button. -/
theorem not_decodes_sensorsLorawan (sensorData : Sensors) (buttonPress : ℕ) :
    ¬ Decodes .sensorsLorawan sensorData buttonPress := by
  intro decodes
  have button := decodes.button
  simp [decodeUplink, appData, sensorsLorawanAppData] at button

/-- The formatter shows the sample of an uplink of `sensors_lorawan_se`. -/
theorem decodeUplink_iff (application : Application) (sensorData : Sensors)
    (inRange : sensorData.InRange) (buttonPress : ℕ) :
    Decodes application sensorData buttonPress ↔ application = .sensorsLorawanSe := by
  cases application with
  | sensorsLorawan =>
      constructor
      · intro decodes
        exact absurd decodes (not_decodes_sensorsLorawan sensorData buttonPress)
      · intro se
        cases se
  | sensorsLorawanSe =>
      exact ⟨fun _ => rfl, fun _ => decodes_sensorsLorawanSe inRange buttonPress⟩

/-- A frosty sample. -/
theorem decodeUplink_frost :
    (Sensors.InRange ⟨3600, -12345, 50000⟩) ∧
      (Decodes .sensorsLorawanSe ⟨3600, -12345, 50000⟩ 1 ↔
        Application.sensorsLorawanSe = .sensorsLorawanSe) :=
  have inRange : Sensors.InRange ⟨3600, -12345, 50000⟩ :=
    ⟨by decide, by decide, by decide⟩
  ⟨inRange, decodeUplink_iff .sensorsLorawanSe ⟨3600, -12345, 50000⟩ inRange 1⟩

/-- At 21 degrees the formatter shows 29 degrees of frost. -/
theorem decodeUplink_wrong :
    (decodeUplink (appData .sensorsLorawan ⟨3600, 21000, 50000⟩ 0).buffer).temperature =
        some (-29) ∧
      ¬ Decodes .sensorsLorawan ⟨3600, 21000, 50000⟩ 0 := by
  have inRange : Sensors.InRange ⟨3600, 21000, 50000⟩ :=
    ⟨by decide, by decide, by decide⟩
  refine ⟨?_, not_decodes_sensorsLorawan _ _⟩
  have quotient : Int.tdiv 21000 100 = 210 := rfl
  rw [temperature_sensorsLorawan inRange (by decide), truncated_thousandths, quotient]
  norm_num

end GenericNode.SensorsLorawan
