import ZigbeeGateway.EndDevice
import ZigbeeGateway.ReportPipeline
import ZigbeeGateway.Bmp180History
import ZigbeeGateway.Compensation
import ZigbeeGateway.Coordinator

namespace ZigbeeGateway.Coordinator
open CStrings MachineWords

def ZB_ZCL_CLUSTER_ID_BASIC : UInt16 := 0x0000
def ZB_ZCL_CLUSTER_ID_ON_OFF : UInt16 := 0x0006
def ZB_ZCL_CLUSTER_ID_TEMP_MEASUREMENT : UInt16 := 0x0402
def ZB_ZCL_ATTR_BASIC_LOCATION_DESCRIPTION_ID : UInt16 := 0x0010
def ZB_ZCL_ATTR_ON_OFF_ON_OFF_ID : UInt16 := 0x0000
def ZB_ZCL_ATTR_TEMP_MEASUREMENT_VALUE_ID : UInt16 := 0x0000

/-- The parameter of a set-attribute callback; `data8` is the low byte of the
same union. -/
structure SetAttrValueParam where
  clusterId : UInt16
  attrId : UInt16
  data16 : UInt16

def decimal (n : ℤ) : List UInt8 := text (toString n)

def temperatureLine (caller : List UInt8) (temperatureRaw : Int16) : List UInt8 :=
  let t := temperatureRaw.toInt
  caller ++ text " - Temperature: " ++ decimal (t.tdiv 10) ++ text "." ++
    decimal (if t.tmod 10 < 0 then -t.tmod 10 else t.tmod 10) ++ text " C (Raw value: " ++
      decimal t ++ text ")"

def zclTemperatureRaw (data16 : UInt16) : Int16 := data16.toInt16

def modifyTemperatureRaw (value : Buffer) : Int16 :=
  -- *(zb_int16_t *)value, little-endian
  (beWord (value.getD 1 0) (value.getD 0 0)).toInt16

/-- `zcl_device_cb`: the lines it logs and the status it returns; `none` is a
callback other than `ZB_ZCL_SET_ATTR_VALUE_CB_ID`. -/
def zclDeviceCb (param : Option SetAttrValueParam) : List (List UInt8) × ℤ :=
  match param with
  | none => ([], RET_OK)
  | some p =>
    if p.clusterId = ZB_ZCL_CLUSTER_ID_ON_OFF ∧ p.attrId = ZB_ZCL_ATTR_ON_OFF_ON_OFF_ID then
      let value := p.data16.toUInt8
      ([text "Data packet received via attribute update! Value: " ++ decimal value.toNat,
        if value = 1 then text "Command parsed: Turn ON" else text "Command parsed: Turn OFF"],
        RET_OK)
    else if p.clusterId = ZB_ZCL_CLUSTER_ID_TEMP_MEASUREMENT ∧
        p.attrId = ZB_ZCL_ATTR_TEMP_MEASUREMENT_VALUE_ID then
      ([temperatureLine (text "zcl_device_cb") (zclTemperatureRaw p.data16)], RET_OK)
    else ([], RET_OK)

def modifyAttrValueCallback (clusterId attrId : UInt16) (value : Buffer) : List (List UInt8) :=
  -- the endpoint is not used
  if clusterId = ZB_ZCL_CLUSTER_ID_BASIC ∧ attrId = ZB_ZCL_ATTR_BASIC_LOCATION_DESCRIPTION_ID then
    let len := if 32 < value.getD 0 0 then 32 else value.getD 0 0
    [text "Received custom random string payload: " ++ cstr ((value.drop 1).take len.toNat) ++
      text " (length: " ++ decimal len.toNat ++ text ")"]
  else if clusterId = ZB_ZCL_CLUSTER_ID_TEMP_MEASUREMENT ∧
      attrId = ZB_ZCL_ATTR_TEMP_MEASUREMENT_VALUE_ID then
    [temperatureLine (text "modify_attr_value_callback") (modifyTemperatureRaw value)]
  else []

end ZigbeeGateway.Coordinator

namespace ZigbeeGateway.TemperaturePath
open CStrings MachineWords Bmp180

theorem toInt_ofInt (t : ℤ) : (Int16.ofInt t).toInt = int16 t := by
  have hsize : Int16.size = 65536 := rfl
  rw [Int16.toInt_ofInt, hsize, Int.bmod_def, int16]
  omega

def valueBytes (value : Int16) : List UInt8 :=
  [value.toUInt16.toUInt8, (value.toUInt16 >>> 8).toUInt8]

theorem modifyTemperatureRaw_valueBytes (value : Int16) (rest : List UInt8) :
    Coordinator.modifyTemperatureRaw (valueBytes value ++ rest) = value :=
  congrArg UInt16.toInt16 (beWord_bytes value.toUInt16)

theorem natAbs_X2_le {UT : ℤ} {cal : Calib} (h : 147 ≤ (divisor UT cal).natAbs) :
    (X2 UT cal).natAbs ≤ 456522 := by
  have hmc := short_range cal.mc
  rw [X2_eq, Int.natAbs_tdiv]
  calc (cal.mc.toInt * 2048).natAbs / (divisor UT cal).natAbs
      ≤ (cal.mc.toInt * 2048).natAbs / 147 := Nat.div_le_div_left h (by omega)
    _ ≤ 456522 := by omega

/-- Away from the pole of the formula the temperature fits the attribute type. -/
theorem temperature_inInt16 {UT : ℤ} {cal : Calib} (h : 147 ≤ (divisor UT cal).natAbs) :
    InInt16 (temperature UT cal) := by
  have h1 := X1_range UT cal
  have h2 := natAbs_X2_le h
  have hnat : (temperature UT cal).natAbs ≤ 32629 := by
    rw [temperature_eq, Int.natAbs_tdiv]
    show (X1 UT cal + X2 UT cal + 8).natAbs / 16 ≤ 32629
    omega
  unfold InInt16
  omega

/-- What both callbacks of the coordinator read from a request of value `value`. -/
structure ReadBack (value : Int16) (raw : ℤ) : Prop where
  zcl : ∀ bufid, let req := EndDevice.temperatureRequest bufid value
    ∃ seen : Int16, seen.toInt = raw ∧
      Coordinator.zclDeviceCb (some ⟨req.clusterId, req.attrId, req.value.toUInt16⟩) =
        ([Coordinator.temperatureLine (text "zcl_device_cb") seen], Coordinator.RET_OK)
  modify : ∀ bufid rest, let req := EndDevice.temperatureRequest bufid value
    ∃ seen : Int16, seen.toInt = raw ∧
      Coordinator.modifyAttrValueCallback req.clusterId req.attrId (valueBytes req.value ++ rest) =
        [Coordinator.temperatureLine (text "modify_attr_value_callback") seen]

theorem readBack_ofInt (t : ℤ) : ReadBack (Int16.ofInt t) (int16 t) := by
  constructor
  · intro bufid
    exact ⟨Int16.ofInt t, toInt_ofInt t, rfl⟩
  · intro bufid rest
    refine ⟨Int16.ofInt t, toInt_ofInt t, ?_⟩
    have hraw := modifyTemperatureRaw_valueBytes (Int16.ofInt t) rest
    exact congrArg (fun raw => [Coordinator.temperatureLine _ raw]) hraw

/-- A successful reading of driver `d` with its word and its calibration: the two bytes
that it read itself, and what the driver held or loaded in this very reading. -/
structure ReadWith (d : Driver) (r : Reading) (UT : ℤ) (cal : Calib) : Prop where
  word : ∃ hi lo, (r.bus.trace.filterMap (blockRead BMP180_REG_DATA)).getLast? = some [hi, lo] ∧
    UT = beUnsigned hi lo
  calib : (d.isCalibrated = true ∧ cal = d.calibData) ∨
    ∃ raw, calibReads r.bus.trace = [List.ofFn raw] ∧ cal = loadCalib raw

theorem readWith_of_read {d : Driver} {answers : ℕ → Answer} {out : ℤ}
    (hread : (bmp180ReadTemperature false d ⟨answers, []⟩ (some out)).ret = 0) :
    let r := bmp180ReadTemperature false d ⟨answers, []⟩ (some out)
    ∃ UT cal t, ReadWith d r UT cal ∧
      bmp180ComputeTemperature UT (some cal) (some out) = (0, some t) ∧ r.tempOut = some t := by
  intro r
  have hcases := read_cases d answers out
  change r.ret = 0 at hread
  obtain ⟨hneg, -⟩ | ⟨hon, hload, ⟨hneg, -⟩ | ⟨-, hi, lo, t, hbytes, hcomp, ht⟩⟩ := hcases
  · exact absurd hread hneg.ne
  · exact absurd hread hneg.ne
  · refine ⟨_, _, t, ⟨⟨hi, lo, hbytes, rfl⟩, ?_⟩, hcomp, ht⟩
    rcases hload with ⟨hd, -⟩ | ⟨raw, hdata, hblock⟩
    · exact .inl ⟨hd ▸ hon, congrArg Driver.calibData hd⟩
    · exact .inr ⟨raw, hblock, hdata⟩

/-- What `send_temperature_cb` requests for a reading: the compensated value of its word,
cast to the attribute type. -/
def Requests (cfg : EndDevice.Config) (s : EndDevice.State) (env : EndDevice.Env) (tempRaw : ℤ)
    (bufid : ℕ) : Prop :=
  ∃ UT cal t, ReadWith s.sensor (EndDevice.readFor cfg s tempRaw env) UT cal ∧
    bmp180ComputeTemperature UT (some cal) (some tempRaw) = (0, some t) ∧
    (EndDevice.sendTemperatureCb cfg s env tempRaw bufid).log =
      s.log ++ [.writeAttr (EndDevice.temperatureRequest bufid (Int16.ofInt t))]

theorem sendTemperatureCb_requests {cfg : EndDevice.Config} {s : EndDevice.State}
    {env : EndDevice.Env} {tempRaw : ℤ} (htest : cfg.testMode = false)
    (hread : (EndDevice.readFor cfg s tempRaw env).ret = 0) (bufid : ℕ) :
    Requests cfg s env tempRaw bufid := by
  unfold Requests
  simp only [EndDevice.readFor, htest] at hread ⊢
  obtain ⟨UT, cal, t, hwith, hcomp, ht⟩ := readWith_of_read hread
  refine ⟨UT, cal, t, hwith, hcomp, ?_⟩
  unfold EndDevice.sendTemperatureCb
  simp [htest, hread, ht, EndDevice.State.emit]

/-- For every calibration and raw word on which the formula succeeds with `t`:
both callbacks of the coordinator read `int16 t`, the number of the attribute's
range that agrees with `t` modulo 2^16; it is `t` exactly when `t` is in that
range, and it is whenever the divisor is at least 147 in absolute value.  And
each request of the end device carries the `t` of its own reading. -/
theorem temperature_read_back :
    (∀ (UT out t : ℤ) (cal : Calib),
      bmp180ComputeTemperature UT (some cal) (some out) = (0, some t) →
        ReadBack (Int16.ofInt t) (int16 t) ∧ int16 t % 65536 = t % 65536 ∧
          (int16 t = t ↔ InInt16 t) ∧ (147 ≤ (divisor UT cal).natAbs → int16 t = t)) ∧
    ∀ (cfg : EndDevice.Config) (s : EndDevice.State) (env : EndDevice.Env) (tempRaw : ℤ)
        (bufid : ℕ), cfg.testMode = false → (EndDevice.readFor cfg s tempRaw env).ret = 0 →
      Requests cfg s env tempRaw bufid := by
  refine ⟨fun UT out t cal hcomp => ⟨readBack_ofInt t, int16_emod t, int16_eq_self_iff, ?_⟩,
    fun cfg s env tempRaw bufid htest hread => sendTemperatureCb_requests htest hread bufid⟩
  intro hd
  obtain ⟨-, rfl⟩ := compute_eq_zero_iff.mp hcomp
  exact int16_eq_self_iff.mpr (temperature_inInt16 hd)

theorem temperature_read_back_datasheet :
    ReadBack (Int16.ofInt 150) (int16 150) ∧ int16 150 = 150 ∧
      ∃ UT cal t, ReadWith (EndDevice.boot .production EndDevice.Env.working.answers []).sensor
          (EndDevice.readFor .production
            (EndDevice.boot .production EndDevice.Env.working.answers []) 0 .working) UT cal ∧
        bmp180ComputeTemperature UT (some cal) (some 0) = (0, some t) ∧
        (EndDevice.sendTemperatureCb .production
          (EndDevice.boot .production EndDevice.Env.working.answers []) .working 0 7).log =
            [.powerUp, .writeAttr (EndDevice.temperatureRequest 7 (Int16.ofInt t))] := by
  obtain ⟨hread, -, hiff, -⟩ := temperature_read_back.1 27898 0 150 dsCalib (by decide)
  exact ⟨hread, hiff.mpr (by decide), temperature_read_back.2 .production
    (EndDevice.boot .production EndDevice.Env.working.answers []) .working 0 7 rfl (by decide)⟩

def poleCalib : Calib := ⟨0, 0, 0, 0, 0, 0, 0, 0, 0, 32767, 1⟩

/-- 419417.6 degrees are read as -12.8 degrees. -/
theorem pole_temperature_altered :
    ¬∀ (UT out t : ℤ) (cal : Calib), 0 ≤ UT → UT ≤ 65535 → NoOverflow UT cal →
      bmp180ComputeTemperature UT (some cal) (some out) = (0, some t) →
        ReadBack (Int16.ofInt t) t := by
  intro h
  have hread := h 0 0 4194176 poleCalib (by decide) (by decide) (by decide) (by decide)
  obtain ⟨seen, hseen, hline⟩ := hread.zcl 7
  have hlt := Int16.toInt_lt seen
  omega

end ZigbeeGateway.TemperaturePath
