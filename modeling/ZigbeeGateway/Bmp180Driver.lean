import ZigbeeGateway.Bmp180Math
import Mathlib.Data.List.OfFn

namespace ZigbeeGateway.Bmp180
open MachineWords

/-- What the environment answers to the next question. -/
structure Answer where
  ready : Bool
  ret : ℤ
  bytes : ℕ → UInt8

inductive Transaction
  | ready (ok : Bool)
  | write (addr : UInt8) (sent : List UInt8) (ret : ℤ)
  | writeRead (addr : UInt8) (sent : List UInt8) (ret : ℤ) (received : List UInt8)
  deriving DecidableEq

/-- A script of answers, one for each question, and the questions so far with theirs. -/
structure Bus where
  answers : ℕ → Answer
  trace : List Transaction

def Bus.log (bus : Bus) (t : Transaction) : Bus :=
  -- each question takes the next answer of the script
  { answers := fun n => bus.answers (n + 1), trace := bus.trace ++ [t] }

def deviceIsReady (bus : Bus) : Bool × Bus :=
  let ok := (bus.answers 0).ready
  (ok, bus.log (.ready ok))

def i2cWrite (bus : Bus) (addr : UInt8) (sent : List UInt8) : ℤ × Bus :=
  let ret := (bus.answers 0).ret
  (ret, bus.log (.write addr sent ret))

def i2cWriteRead (bus : Bus) (addr : UInt8) (sent : List UInt8) (n : ℕ) :
    ℤ × (Fin n → UInt8) × Bus :=
  let ret := (bus.answers 0).ret
  let raw : Fin n → UInt8 := fun i => (bus.answers 0).bytes i
  (ret, raw, bus.log (.writeRead addr sent ret (List.ofFn raw)))

def BMP180_I2C_ADDR : UInt8 := 0x77
def BMP180_REG_CALIB : UInt8 := 0xAA
def BMP180_REG_CTRL : UInt8 := 0xF4
def BMP180_CMD_TEMP : UInt8 := 0x2E
def BMP180_REG_DATA : UInt8 := 0xF6

/-- The file-level statics of `bmp_180.c`. -/
structure Driver where
  calibData : Calib
  isCalibrated : Bool
  mockTemp : ℤ

def Driver.initial : Driver := ⟨.zero, false, 200⟩

def loadCalib (raw : Fin 22 → UInt8) : Calib where
  ac1 := (beWord (raw 0) (raw 1)).toInt16
  ac2 := (beWord (raw 2) (raw 3)).toInt16
  ac3 := (beWord (raw 4) (raw 5)).toInt16
  ac4 := beWord (raw 6) (raw 7)
  ac5 := beWord (raw 8) (raw 9)
  ac6 := beWord (raw 10) (raw 11)
  b1 := (beWord (raw 12) (raw 13)).toInt16
  b2 := (beWord (raw 14) (raw 15)).toInt16
  mb := (beWord (raw 16) (raw 17)).toInt16
  mc := (beWord (raw 18) (raw 19)).toInt16
  md := (beWord (raw 20) (raw 21)).toInt16

def bmp180Init (testMode : Bool) (d : Driver) (bus : Bus) : ℤ × Driver × Bus :=
  -- testMode is CONFIG_BMP180_DEVICE_TEST_MODE
  if testMode then (0, { d with isCalibrated := true }, bus)
  else
    let ready := deviceIsReady bus
    if !ready.1 then (-ENODEV, d, ready.2)
    else
      let (ret, raw, bus) := i2cWriteRead ready.2 BMP180_I2C_ADDR [BMP180_REG_CALIB] 22
      if ret < 0 then (ret, d, bus)
      else (0, { d with calibData := loadCalib raw, isCalibrated := true }, bus)

/-- What a call of `bmp180_read_temperature` leaves behind. -/
structure Reading where
  ret : ℤ
  tempOut : Option ℤ
  driver : Driver
  bus : Bus

def measure (d : Driver) (bus : Bus) (out : ℤ) : Reading :=
  -- from the second ready check on
  let ready := deviceIsReady bus
  if !ready.1 then ⟨-ENODEV, some out, d, ready.2⟩
  else
    let (ret, bus) := i2cWrite ready.2 BMP180_I2C_ADDR [BMP180_REG_CTRL, BMP180_CMD_TEMP]
    if ret < 0 then ⟨ret, some out, d, bus⟩
    else
      let (ret, raw, bus) := i2cWriteRead bus BMP180_I2C_ADDR [BMP180_REG_DATA] 2
      if ret < 0 then ⟨ret, some out, d, bus⟩
      else
        let UT : ℤ := (beWord (raw 0) (raw 1)).toNat
        let (ret, out') := bmp180ComputeTemperature UT (some d.calibData) (some out)
        if ret < 0 then ⟨ret, out', d, bus⟩ else ⟨0, out', d, bus⟩

/-- `bmp180_read_temperature`; `tempOut` is what the caller's pointer points
to, `none` for NULL. -/
def bmp180ReadTemperature (testMode : Bool) (d : Driver) (bus : Bus) (tempOut : Option ℤ) :
    Reading :=
  match tempOut with
  | none => ⟨-EINVAL, none, d, bus⟩
  | some out =>
    if testMode then
      let next := d.mockTemp + 5
      ⟨0, some d.mockTemp, { d with mockTemp := if next > 300 then 200 else next }, bus⟩
    else if !d.isCalibrated then
      let (ret, d, bus) := bmp180Init testMode d bus
      if ret < 0 then ⟨ret, some out, d, bus⟩ else measure d bus out
    else measure d bus out

end ZigbeeGateway.Bmp180
