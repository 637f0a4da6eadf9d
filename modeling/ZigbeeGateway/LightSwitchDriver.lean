import ZigbeeGateway.Bmp180History
import ZigbeeGateway.TruncatedDivision

namespace ZigbeeGateway.LightSwitchDriver
open MachineWords Bmp180

/-- The file-level statics of the light switch's `bmp_180.c`. -/
structure Statics where
  calibData : Calib
  isCalibrated : Bool

def Statics.initial : Statics := ⟨.zero, false⟩

def storeCalib (calibRead : List UInt8) : Calib :=
  let at' := fun i => calibRead.getD i 0
  { ac1 := (beWord (at' 0) (at' 1)).toInt16
    ac2 := (beWord (at' 2) (at' 3)).toInt16
    ac3 := (beWord (at' 4) (at' 5)).toInt16
    ac4 := beWord (at' 6) (at' 7)
    ac5 := beWord (at' 8) (at' 9)
    ac6 := beWord (at' 10) (at' 11)
    b1 := (beWord (at' 12) (at' 13)).toInt16
    b2 := (beWord (at' 14) (at' 15)).toInt16
    mb := (beWord (at' 16) (at' 17)).toInt16
    mc := (beWord (at' 18) (at' 19)).toInt16
    md := (beWord (at' 20) (at' 21)).toInt16 }

def bmp180Init (d : Statics) (bus : Bus) : ℤ × Statics × Bus :=
  let (ready, bus) := deviceIsReady bus
  if !ready then (-ENODEV, d, bus)
  else
    let calibReg : UInt8 := 0xAA
    let (ret, calibRead, bus) := i2cWriteRead bus 0x77 [calibReg] 22
    if ret < 0 then (ret, d, bus)
    else (0, ⟨storeCalib (List.ofFn calibRead), true⟩, bus)

/-- The return code of `bmp180_read_temperature`, what the caller's pointer
points to afterwards (`none` for NULL), the statics and the bus. -/
abbrev Outcome := ℤ × Option ℤ × Statics × Bus

/-- From `UT` on: the formula inside the driver, the store to `*temp_out` last. -/
def finish (d : Statics) (bus : Bus) (UT out : ℤ) : Outcome :=
  let cal := d.calibData
  let X1 := int32 ((int32 (int32 (UT - cal.ac6.toNat) * cal.ac5.toNat)).tdiv (2 ^ 15))
  let divisor := int32 (X1 + cal.md.toInt)
  if divisor = 0 then (-EDOM, some out, d, bus)
  else
    let X2 := int32 ((int32 (cal.mc.toInt * 2 ^ 11)).tdiv divisor)
    let B5 := int32 (X1 + X2)
    let T := int32 ((int32 (B5 + 8)).tdiv (2 ^ 4))
    (0, some T, d, bus)

def readSensor (d : Statics) (bus : Bus) (out : ℤ) : Outcome :=
  -- from the second ready check on
  let (ready, bus) := deviceIsReady bus
  if !ready then (-ENODEV, some out, d, bus)
  else
    let regAddr : UInt8 := 0xF4
    let command : UInt8 := 0x2E
    let (ret, bus) := i2cWrite bus 0x77 [regAddr, command]
    if ret < 0 then (ret, some out, d, bus)
    else
      let utReg : UInt8 := 0xF6
      let (ret, received, bus) := i2cWriteRead bus 0x77 [utReg] 2
      let utBuffer := List.ofFn received
      if ret < 0 then (ret, some out, d, bus)
      else finish d bus (beWord (utBuffer.getD 0 0) (utBuffer.getD 1 0)).toNat out

def bmp180ReadTemperature (d : Statics) (bus : Bus) (tempOut : Option ℤ) : Outcome :=
  match tempOut with
  | none => (-EINVAL, none, d, bus)
  | some out =>
    if !d.isCalibrated then
      let (initRet, d, bus) := bmp180Init d bus
      if initRet < 0 then (initRet, some out, d, bus) else readSensor d bus out
    else readSensor d bus out

structure Session where
  statics : Statics
  answers : ℕ → Answer
  history : List Record

def Session.start (answers : ℕ → Answer) : Session := ⟨.initial, answers, []⟩

def Session.call (s : Session) : Call → Session
  | .init =>
    let (ret, d, bus) := bmp180Init s.statics ⟨s.answers, []⟩
    ⟨d, bus.answers, s.history ++ [.init ret bus.trace]⟩
  | .read tempOut =>
    let (ret, out, d, bus) := bmp180ReadTemperature s.statics ⟨s.answers, []⟩ tempOut
    ⟨d, bus.answers, s.history ++ [.read ret tempOut out bus.trace]⟩

/-- What the light switch's driver keeps of the other one's statics. -/
def statics (d : Driver) : Statics := ⟨d.calibData, d.isCalibrated⟩

def session (s : Bmp180.Session) : Session := ⟨statics s.driver, s.answers, s.history⟩

theorem storeCalib_eq (raw : Fin 22 → UInt8) : storeCalib (List.ofFn raw) = loadCalib raw := rfl

theorem init_eq (d : Driver) (bus : Bus) :
    bmp180Init (statics d) bus =
      let r := Bmp180.bmp180Init false d bus
      (r.1, statics r.2.1, r.2.2) := by
  by_cases hready : (deviceIsReady bus).1 = true
  · by_cases hret : (i2cWriteRead (deviceIsReady bus).2 0x77 [0xAA] 22).1 < 0
    · simp [bmp180Init, Bmp180.bmp180Init, BMP180_I2C_ADDR, BMP180_REG_CALIB, hready, hret]
    · simp only [bmp180Init, Bmp180.bmp180Init, BMP180_I2C_ADDR, BMP180_REG_CALIB, hready, hret,
        storeCalib_eq, Bool.not_true, Bool.false_eq_true, if_false]
      rfl
  · simp [bmp180Init, Bmp180.bmp180Init, hready]

theorem int32_tdiv (x : ℤ) {k : ℤ} (hk : 0 < k) : int32 ((int32 x).tdiv k) = (int32 x).tdiv k := by
  apply int32_of_mem
  exact TruncatedDivision.tdiv_mem hk (by decide) (by decide) (int32_mem x)

/-- The formula in place computes what the extracted function computes. -/
theorem finish_eq (d : Driver) (bus : Bus) (UT out : ℤ) :
    finish (statics d) bus UT out =
      let c := bmp180ComputeTemperature UT (some d.calibData) (some out)
      (if c.1 < 0 then c.1 else 0, c.2, statics d, bus) := by
  have hX1 : int32 ((int32 (int32 (UT - d.calibData.ac6.toNat) * d.calibData.ac5.toNat)).tdiv
      (2 ^ 15)) = X1 UT d.calibData := int32_tdiv _ (by decide)
  by_cases hdiv : divisor UT d.calibData = 0
  · have hzero : int32 (X1 UT d.calibData + d.calibData.md.toInt) = 0 := hdiv
    simp only [finish, statics, hX1, hzero, bmp180ComputeTemperature, hdiv, if_true]
    rfl
  · have hne : int32 (X1 UT d.calibData + d.calibData.md.toInt) ≠ 0 := hdiv
    have hT : int32 ((int32 (B5 UT d.calibData + 8)).tdiv (2 ^ 4)) = temperature UT d.calibData :=
      int32_tdiv _ (by decide)
    rw [compute_ok hdiv, ← hT]
    simp only [finish, statics, hX1, hne, if_false]
    rfl

theorem readSensor_eq (d : Driver) (bus : Bus) (out : ℤ) :
    readSensor (statics d) bus out =
      let r := Bmp180.measure d bus out
      (r.ret, r.tempOut, statics r.driver, r.bus) := by
  by_cases hready : (deviceIsReady bus).1 = true
  · obtain ⟨bus', hbus⟩ : ∃ bus', (deviceIsReady bus).2 = bus' := ⟨_, rfl⟩
    by_cases hcmd : (i2cWrite bus' 0x77 [0xF4, 0x2E]).1 < 0
    · simp [readSensor, Bmp180.measure, BMP180_I2C_ADDR, BMP180_REG_CTRL, BMP180_CMD_TEMP,
        hready, hbus, hcmd]
    · obtain ⟨bus'', hbus''⟩ : ∃ bus'', (i2cWrite bus' 0x77 [0xF4, 0x2E]).2 = bus'' := ⟨_, rfl⟩
      have hword : ∀ raw : Fin 2 → UInt8, beWord ((List.ofFn raw).getD 0 0)
          ((List.ofFn raw).getD 1 0) = beWord (raw 0) (raw 1) := fun _ => rfl
      by_cases hdata : (i2cWriteRead bus'' 0x77 [0xF6] 2).1 < 0
      · simp [readSensor, Bmp180.measure, BMP180_I2C_ADDR, BMP180_REG_CTRL, BMP180_CMD_TEMP,
          BMP180_REG_DATA, hready, hbus, hcmd, hbus'', hdata]
      · simp only [readSensor, Bmp180.measure, BMP180_I2C_ADDR, BMP180_REG_CTRL, BMP180_CMD_TEMP,
          BMP180_REG_DATA, hready, hbus, hcmd, hbus'', hdata, hword, finish_eq, Bool.not_true,
          Bool.false_eq_true, if_false]
        -- the extracted function's code is passed on, whichever it is
        split_ifs <;> rfl
  · simp [readSensor, Bmp180.measure, hready]

theorem read_eq (d : Driver) (bus : Bus) (tempOut : Option ℤ) :
    bmp180ReadTemperature (statics d) bus tempOut =
      let r := Bmp180.bmp180ReadTemperature false d bus tempOut
      (r.ret, r.tempOut, statics r.driver, r.bus) := by
  cases tempOut with
  | none => rfl
  | some out =>
    by_cases hcal : d.isCalibrated = true
    · have hcal' : (statics d).isCalibrated = true := hcal
      simp [bmp180ReadTemperature, Bmp180.bmp180ReadTemperature, hcal, hcal', readSensor_eq]
    · have hcal' : (statics d).isCalibrated = false := by simpa [statics] using hcal
      by_cases hinit : (Bmp180.bmp180Init false d bus).1 < 0
      · simp [bmp180ReadTemperature, Bmp180.bmp180ReadTemperature, hcal, hcal', init_eq, hinit]
      · simp [bmp180ReadTemperature, Bmp180.bmp180ReadTemperature, hcal, hcal', init_eq, hinit,
          readSensor_eq]

theorem call_session (s : Bmp180.Session) (c : Call) :
    (session s).call c = session (s.call c) := by
  cases c with
  | init => simp [Session.call, Bmp180.Session.call, session, init_eq]
  | read tempOut => simp [Session.call, Bmp180.Session.call, session, read_eq]

/-- Under every script of bus outcomes, every sequence of calls leaves the same
records with both drivers: per call the return code, what `*temp_out` holds
afterwards and the bus transactions. -/
theorem drivers_equivalent (answers : ℕ → Answer) (calls : List Call) :
    (calls.foldl Session.call (.start answers)).history =
      (calls.foldl Bmp180.Session.call (.start answers)).history := by
  have hview : calls.foldl Session.call (session (.start answers)) =
      session (calls.foldl Bmp180.Session.call (.start answers)) :=
    List.foldl_hom session call_session
  exact congrArg Session.history hview

end ZigbeeGateway.LightSwitchDriver
