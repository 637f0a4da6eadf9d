import ZigbeeGateway.LightSwitchDriver
import ZigbeeGateway.TemperatureText

namespace ZigbeeGateway.StandaloneSensor
open CStrings MachineWords Bmp180 TemperatureText LightSwitchDriver

/-- The static `calib_data`, the bus, and what was printed. -/
structure State where
  calibData : Calib
  bus : Bus
  console : List (List UInt8)

def State.printk (s : State) (out : List UInt8) : State := { s with console := s.console ++ [out] }

def temperatureLine (T : ℤ) : List UInt8 :=
  text "Temperature: " ++ temperatureText T ++ text " C\n"

def address : UInt8 := 0x77

def bmpInit (s : State) : State :=
  -- what a failed read leaves in the buffer is decoded as well
  let calibReg : UInt8 := 0xAA
  let (_, calibRead, bus) := i2cWriteRead s.bus address [calibReg] 22
  { s with calibData := storeCalib (List.ofFn calibRead), bus := bus }.printk
    (text "BMP180 Calibration Data Loaded Successfully.\n")

def readTemperature (s : State) : Option State :=
  -- none is the division by zero
  let regAddr : UInt8 := 0xF4
  let command : UInt8 := 0x2E
  let (_, bus) := i2cWrite s.bus address [regAddr, command]
  let utReg : UInt8 := 0xF6
  let (_, received, bus) := i2cWriteRead bus address [utReg] 2
  let utBuffer := List.ofFn received
  let s := { s with bus := bus }
  let UT : ℤ := (beWord (utBuffer.getD 0 0) (utBuffer.getD 1 0)).toNat
  let X1 := int32 ((int32 (int32 (UT - s.calibData.ac6.toNat) * s.calibData.ac5.toNat)).tdiv
    (2 ^ 15))
  let divisor := int32 (X1 + s.calibData.md.toInt)
  if divisor = 0 then none
  else
    let X2 := int32 ((int32 (s.calibData.mc.toInt * 2 ^ 11)).tdiv divisor)
    let B5 := int32 (X1 + X2)
    let T := int32 ((int32 (B5 + 8)).tdiv (2 ^ 4))
    some (s.printk (temperatureLine T))

def main (answers : ℕ → Answer) : Option State :=
  -- returns 0 on every path
  let (ready, bus) := deviceIsReady ⟨answers, []⟩
  let s : State := ⟨.zero, bus, []⟩
  if !ready then some (s.printk (text "Cannot init I2C\n"))
  else
    -- the ping
    let (ret, bus) := i2cWrite s.bus address []
    let s := { s with bus := bus }
    let s := if ret = 0 then s.printk (text "Device found at : 0x77\n") else s
    readTemperature (bmpInit s)

theorem readTemperature_eq (s : State) :
    readTemperature s =
      let bus := (i2cWrite s.bus address [0xF4, 0x2E]).2
      let (_, raw, bus') := i2cWriteRead bus address [0xF6] 2
      let UT := beUnsigned (raw 0) (raw 1)
      if divisor UT s.calibData = 0 then none
      else some ({ s with bus := bus' }.printk (temperatureLine (temperature UT s.calibData))) := by
  obtain ⟨cal, bus, console⟩ := s
  have hX1 : ∀ UT : ℤ, int32 ((int32 (int32 (UT - cal.ac6.toNat) * cal.ac5.toNat)).tdiv
      (2 ^ 15)) = X1 UT cal := fun UT => int32_tdiv _ (by decide)
  have hdiv : ∀ UT, int32 (X1 UT cal + cal.md.toInt) = divisor UT cal := fun _ => rfl
  have hT : ∀ UT, int32 ((int32 (B5 UT cal + 8)).tdiv (2 ^ 4)) = temperature UT cal :=
    fun UT => int32_tdiv _ (by decide)
  have hB5 : ∀ UT, int32 (X1 UT cal + int32 ((int32 (cal.mc.toInt * 2 ^ 11)).tdiv
      (divisor UT cal))) = B5 UT cal := fun _ => rfl
  have hword : ∀ raw : Fin 2 → UInt8, ((beWord ((List.ofFn raw).getD 0 0)
      ((List.ofFn raw).getD 1 0)).toNat : ℤ) = beUnsigned (raw 0) (raw 1) :=
    fun raw => toNat_beWord_int _ _
  simp only [readTemperature, hX1, hdiv, hB5, hT, hword]

section Comparison

variable (answers : ℕ → Answer)

/-- The answers in the order in which the driver asks: without the ping, and
with a second question whether the bus is ready. -/
def driverAnswers : ℕ → Answer
  | 0 => answers 0
  | 1 => answers 2
  | 2 => answers 0
  | n + 3 => answers (n + 3)

def firstReading (out : ℤ) : Reading :=
  Bmp180.bmp180ReadTemperature false .initial ⟨driverAnswers answers, []⟩ (some out)

def TransfersWork : Prop := ∀ i, 2 ≤ i → i ≤ 4 → ¬(answers i).ret < 0

def calibRead : Calib := loadCalib fun i => (answers 2).bytes i

def rawRead : ℤ := beUnsigned ((answers 4).bytes 0) ((answers 4).bytes 1)

def transfers (bus : Bus) : List Transaction :=
  bus.trace.filter fun
    | .ready _ => false
    | _ => true

def readingTransfers : List Transaction :=
  [.writeRead address [0xAA] (answers 2).ret (List.ofFn fun i : Fin 22 => (answers 2).bytes i),
    .write address [0xF4, 0x2E] (answers 3).ret,
    .writeRead address [0xF6] (answers 4).ret (List.ofFn fun i : Fin 2 => (answers 4).bytes i)]

theorem main_of_not_ready (h : (answers 0).ready = false) :
    (main answers).map State.console = some [text "Cannot init I2C\n"] := by
  simp [main, deviceIsReady, h, State.printk]

/-- On a bus that is ready the results of the transfers make no difference. -/
theorem main_of_ready (h : (answers 0).ready = true) :
    (divisor (rawRead answers) (calibRead answers) = 0 ∧ main answers = none) ∨
      (divisor (rawRead answers) (calibRead answers) ≠ 0 ∧ ∃ s, main answers = some s ∧
        s.console.getLast? =
          some (temperatureLine (temperature (rawRead answers) (calibRead answers))) ∧
        transfers s.bus = .write address [] (answers 1).ret :: readingTransfers answers) := by
  have hmain : ∃ console, main answers =
      if divisor (rawRead answers) (calibRead answers) = 0 then none
      else some ⟨calibRead answers, ⟨fun n => answers (n + 5), .ready true ::
          .write address [] (answers 1).ret :: readingTransfers answers⟩,
        console ++ [temperatureLine (temperature (rawRead answers) (calibRead answers))]⟩ := by
    by_cases hping : (answers 1).ret = 0
    · refine ⟨[text "Device found at : 0x77\n",
        text "BMP180 Calibration Data Loaded Successfully.\n"], ?_⟩
      simp only [main, deviceIsReady, h, readTemperature_eq, i2cWrite, Bus.log, hping]
      rfl
    · refine ⟨[text "BMP180 Calibration Data Loaded Successfully.\n"], ?_⟩
      simp only [main, deviceIsReady, h, readTemperature_eq, i2cWrite, Bus.log, hping]
      rfl
  obtain ⟨console, hmain⟩ := hmain
  rw [hmain]
  split
  · exact .inl ⟨by assumption, rfl⟩
  · refine .inr ⟨by assumption, _, rfl, by simp, ?_⟩
    simp [transfers, readingTransfers]

theorem firstReading_of_not_ready (h : (answers 0).ready = false) (out : ℤ) :
    (firstReading answers out).ret < 0 := by
  simp [firstReading, Bmp180.bmp180ReadTemperature, Bmp180.bmp180Init, Driver.initial,
    deviceIsReady, driverAnswers, h, ENODEV]

theorem firstReading_of_calibrated (h : (answers 0).ready = true) (hcal : ¬(answers 2).ret < 0)
    (out : ℤ) :
    firstReading answers out = measure ⟨calibRead answers, true, 200⟩
      ⟨fun n => driverAnswers answers (n + 2), [.ready true, .writeRead address [0xAA]
        (answers 2).ret (List.ofFn fun i : Fin 22 => (answers 2).bytes i)]⟩ out := by
  simp [firstReading, Bmp180.bmp180ReadTemperature, Bmp180.bmp180Init, Driver.initial,
    deviceIsReady, driverAnswers, i2cWriteRead, Bus.log, h, hcal, BMP180_I2C_ADDR,
    BMP180_REG_CALIB, address]
  rfl

theorem firstReading_of_failed (h : ¬TransfersWork answers) (out : ℤ) :
    (firstReading answers out).ret < 0 := by
  cases hready : (answers 0).ready with
  | false => exact firstReading_of_not_ready answers hready out
  | true =>
    by_cases hcal : (answers 2).ret < 0
    · simp [firstReading, Bmp180.bmp180ReadTemperature, Bmp180.bmp180Init, Driver.initial,
        deviceIsReady, driverAnswers, i2cWriteRead, Bus.log, hready, hcal]
    rw [firstReading_of_calibrated answers hready hcal]
    by_cases hcmd : (answers 3).ret < 0
    · rw [measure_of_write_failed _ _ hready hcmd]
      exact hcmd
    by_cases hdata : (answers 4).ret < 0
    · rw [measure_of_read_failed _ _ hready hcmd hdata]
      exact hdata
    · -- none of the three has failed
      refine absurd (fun i h2 h4 => ?_) h
      obtain rfl | rfl | rfl : i = 2 ∨ i = 3 ∨ i = 4 := by omega
      · exact hcal
      · exact hcmd
      · exact hdata

theorem firstReading_of_work (h : (answers 0).ready = true) (hwork : TransfersWork answers)
    (out : ℤ) :
    (divisor (rawRead answers) (calibRead answers) = 0 ∧ (firstReading answers out).ret < 0) ∨
      (divisor (rawRead answers) (calibRead answers) ≠ 0 ∧ (firstReading answers out).ret = 0 ∧
        (firstReading answers out).tempOut =
          some (temperature (rawRead answers) (calibRead answers)) ∧
        transfers (firstReading answers out).bus = readingTransfers answers) := by
  have hreading : ∃ bus, transfers bus = readingTransfers answers ∧ firstReading answers out =
      let c := bmp180ComputeTemperature (rawRead answers) (some (calibRead answers)) (some out)
      ⟨if c.1 < 0 then c.1 else 0, c.2, ⟨calibRead answers, true, 200⟩, bus⟩ := by
    rw [firstReading_of_calibrated answers h (hwork 2 le_rfl (by decide)),
      measure_of_read _ _ h (hwork 3 (by decide) (by decide)) (hwork 4 (by decide) (by decide))]
    exact ⟨_, rfl, rfl⟩
  obtain ⟨bus, hbus, hreading⟩ := hreading
  rw [hreading]
  by_cases hdiv : divisor (rawRead answers) (calibRead answers) = 0
  · left
    simp [bmp180ComputeTemperature, hdiv, EDOM]
  · right
    simp [compute_ok hdiv, hdiv, hbus]

/-- Where the driver's first reading succeeds, the program prints the temperature
that the driver reports, over the same transfers.  Where the driver returns an
error, the program says that the bus is not ready, or divides by zero, or a
transfer has failed and it prints what the formula makes of its buffers. -/
theorem standalone_first_reading (out : ℤ) :
    ((firstReading answers out).ret = 0 ∧ ∃ t s, (firstReading answers out).tempOut = some t ∧
        main answers = some s ∧ s.console.getLast? = some (temperatureLine t) ∧
        transfers s.bus = .write address [] (answers 1).ret ::
          transfers (firstReading answers out).bus) ∨
      ((firstReading answers out).ret < 0 ∧
        (((answers 0).ready = false ∧
            (main answers).map State.console = some [text "Cannot init I2C\n"]) ∨
          ((answers 0).ready = true ∧ divisor (rawRead answers) (calibRead answers) = 0 ∧
            main answers = none) ∨
          ((answers 0).ready = true ∧ ¬TransfersWork answers ∧ ∃ s, main answers = some s ∧
            s.console.getLast? =
              some (temperatureLine (temperature (rawRead answers) (calibRead answers)))))) := by
  cases hready : (answers 0).ready with
  | false =>
    exact .inr ⟨firstReading_of_not_ready answers hready out,
      .inl ⟨rfl, main_of_not_ready answers hready⟩⟩
  | true =>
    by_cases hwork : TransfersWork answers
    · obtain ⟨hdiv, hret⟩ | ⟨hdiv, hret, ht, hbus⟩ :=
        firstReading_of_work answers hready hwork out
      · obtain ⟨-, hmain⟩ | ⟨hne, -⟩ := main_of_ready answers hready
        · exact .inr ⟨hret, .inr (.inl ⟨rfl, hdiv, hmain⟩)⟩
        · exact absurd hdiv hne
      · obtain ⟨hzero, -⟩ | ⟨-, s, hmain, hlast, htrans⟩ := main_of_ready answers hready
        · exact absurd hzero hdiv
        · exact .inl ⟨hret, _, s, ht, hmain, hlast, hbus ▸ htrans⟩
    · have hret := firstReading_of_failed answers hwork out
      obtain ⟨hdiv, hmain⟩ | ⟨-, s, hmain, hlast, -⟩ := main_of_ready answers hready
      · exact .inr ⟨hret, .inr (.inl ⟨rfl, hdiv, hmain⟩)⟩
      · exact .inr ⟨hret, .inr (.inr ⟨rfl, hwork, s, hmain, hlast⟩)⟩

end Comparison

end ZigbeeGateway.StandaloneSensor
