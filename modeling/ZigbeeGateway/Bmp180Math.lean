import ZigbeeGateway.MachineWords

namespace ZigbeeGateway.Bmp180
open MachineWords

def ENODEV : ℤ := 19
def EINVAL : ℤ := 22
def EDOM : ℤ := 33

structure Calib where
  ac1 : Int16
  ac2 : Int16
  ac3 : Int16
  ac4 : UInt16
  ac5 : UInt16
  ac6 : UInt16
  b1 : Int16
  b2 : Int16
  mb : Int16
  mc : Int16
  md : Int16
  deriving DecidableEq

def Calib.zero : Calib := ⟨0, 0, 0, 0, 0, 0, 0, 0, 0, 0, 0⟩

def X1 (UT : ℤ) (cal : Calib) : ℤ :=
  (int32 (int32 (UT - cal.ac6.toNat) * cal.ac5.toNat)).tdiv 32768

def divisor (UT : ℤ) (cal : Calib) : ℤ := int32 (X1 UT cal + cal.md.toInt)

def X2 (UT : ℤ) (cal : Calib) : ℤ := int32 ((int32 (cal.mc.toInt * 2048)).tdiv (divisor UT cal))

def B5 (UT : ℤ) (cal : Calib) : ℤ := int32 (X1 UT cal + X2 UT cal)

def temperature (UT : ℤ) (cal : Calib) : ℤ := (int32 (B5 UT cal + 8)).tdiv 16

/-- No operation of the formula leaves the range of `int32_t`. -/
def NoOverflow (UT : ℤ) (cal : Calib) : Prop :=
  InInt32 (UT - cal.ac6.toNat) ∧ InInt32 (int32 (UT - cal.ac6.toNat) * cal.ac5.toNat) ∧
    InInt32 (X1 UT cal + cal.md.toInt) ∧ InInt32 (cal.mc.toInt * 2048) ∧
    InInt32 (X1 UT cal + X2 UT cal) ∧ InInt32 (B5 UT cal + 8)

instance (UT : ℤ) (cal : Calib) : Decidable (NoOverflow UT cal) :=
  inferInstanceAs (Decidable (_ ∧ _))

/-- `bmp180_compute_temperature`: the return code and what `*temp_out` holds
afterwards; `none` is a NULL pointer. -/
def bmp180ComputeTemperature (UT : ℤ) (cal : Option Calib) (tempOut : Option ℤ) :
    ℤ × Option ℤ :=
  match cal, tempOut with
  | some cal, some out =>
    if divisor UT cal = 0 then (-EDOM, some out) else (0, some (temperature UT cal))
  | _, out => (-EINVAL, out)

def dsCalib : Calib :=
  ⟨408, -72, -14383, 32741, 32757, 23153, 6190, 4, -32768, -8711, 2868⟩

example : bmp180ComputeTemperature 27898 (some dsCalib) (some 0) = (0, some 150) := by decide

theorem compute_ok {UT out : ℤ} {cal : Calib} (h : divisor UT cal ≠ 0) :
    bmp180ComputeTemperature UT (some cal) (some out) = (0, some (temperature UT cal)) := by
  simp [bmp180ComputeTemperature, h]

/-- The function succeeds exactly when the divisor is not zero; the output
does not depend on what it held before. -/
theorem compute_eq_zero_iff {UT out t : ℤ} {cal : Calib} :
    bmp180ComputeTemperature UT (some cal) (some out) = (0, some t) ↔
      divisor UT cal ≠ 0 ∧ t = temperature UT cal := by
  by_cases h : divisor UT cal = 0
  · simp [bmp180ComputeTemperature, h, EDOM]
  · simp [bmp180ComputeTemperature, h, eq_comm]

theorem compute_cases (UT out : ℤ) (cal : Calib) :
    bmp180ComputeTemperature UT (some cal) (some out) = (0, some (temperature UT cal)) ∨
      bmp180ComputeTemperature UT (some cal) (some out) = (-EDOM, some out) := by
  by_cases h : divisor UT cal = 0
  · right
    simp [bmp180ComputeTemperature, h]
  · exact .inl (compute_ok h)

end ZigbeeGateway.Bmp180
