import ZigbeeGateway.Bmp180Driver
import ZigbeeGateway.Histories

namespace ZigbeeGateway.Bmp180
open MachineWords Histories

inductive Call
  | init
  | read (tempOut : Option ℤ)

/-- A finished call: its return code, what the caller's pointer pointed to
before and after, and the transactions of the call. -/
inductive Record
  | init (ret : ℤ) (io : List Transaction)
  | read (ret : ℤ) (before after : Option ℤ) (io : List Transaction)

structure Session where
  driver : Driver
  answers : ℕ → Answer
  history : List Record

def Session.start (answers : ℕ → Answer) : Session := ⟨.initial, answers, []⟩

def Session.call (s : Session) : Call → Session
  -- outside the test mode
  | .init =>
    let r := bmp180Init false s.driver ⟨s.answers, []⟩
    ⟨r.2.1, r.2.2.answers, s.history ++ [.init r.1 r.2.2.trace]⟩
  | .read tempOut =>
    let r := bmp180ReadTemperature false s.driver ⟨s.answers, []⟩ tempOut
    ⟨r.driver, r.bus.answers, s.history ++ [.read r.ret tempOut r.tempOut r.bus.trace]⟩

def Record.io : Record → List Transaction
  | .init _ io => io
  | .read _ _ _ io => io

/-- The bytes of a successful block read that started at register `reg`. -/
def blockRead (reg : UInt8) : Transaction → Option (List UInt8)
  | .writeRead _ sent ret received => if sent = [reg] ∧ 0 ≤ ret then some received else none
  | _ => none

def calibReads (io : List Transaction) : List (List UInt8) :=
  io.filterMap (blockRead BMP180_REG_CALIB)

/-- The calibration block of the last successful initialisation, explicit or
lazy. -/
def lastCalibration (history : List Record) : Option (List UInt8) :=
  (calibReads (history.flatMap Record.io)).getLast?

/-- The eleven words of the block, big-endian, `ac4`, `ac5` and `ac6` unsigned. -/
structure Decodes (raw : Fin 22 → UInt8) (cal : Calib) : Prop where
  ac1 : cal.ac1.toInt = beSigned (raw 0) (raw 1)
  ac2 : cal.ac2.toInt = beSigned (raw 2) (raw 3)
  ac3 : cal.ac3.toInt = beSigned (raw 4) (raw 5)
  ac4 : cal.ac4.toNat = beUnsigned (raw 6) (raw 7)
  ac5 : cal.ac5.toNat = beUnsigned (raw 8) (raw 9)
  ac6 : cal.ac6.toNat = beUnsigned (raw 10) (raw 11)
  b1 : cal.b1.toInt = beSigned (raw 12) (raw 13)
  b2 : cal.b2.toInt = beSigned (raw 14) (raw 15)
  mb : cal.mb.toInt = beSigned (raw 16) (raw 17)
  mc : cal.mc.toInt = beSigned (raw 18) (raw 19)
  md : cal.md.toInt = beSigned (raw 20) (raw 21)

/-- A reading was compensated with the decoded calibration block `raw`, from
the two bytes that its own call read. -/
def Compensated (raw : Fin 22 → UInt8) (before after : Option ℤ) (io : List Transaction) : Prop :=
  ∃ cal hi lo t, Decodes raw cal ∧
    (io.filterMap (blockRead BMP180_REG_DATA)).getLast? = some [hi, lo] ∧
    bmp180ComputeTemperature (beUnsigned hi lo) (some cal) before = (0, some t) ∧ after = some t

/-- What a record promises, given the records before it: an initialisation
succeeds with one calibration block or fails without any. -/
def Record.Sound : Record → List Record → Prop
  | .init ret io, _ =>
    (ret = 0 ∧ ∃ raw : Fin 22 → UInt8, calibReads io = [List.ofFn raw]) ∨
      (ret < 0 ∧ calibReads io = [])
  | .read ret before after io, pre =>
    (ret = 0 → ∃ raw : Fin 22 → UInt8,
      lastCalibration (pre ++ [.read ret before after io]) = some (List.ofFn raw) ∧
        Compensated raw before after io) ∧
    (ret < 0 → after = before)

theorem decodes_loadCalib (raw : Fin 22 → UInt8) : Decodes raw (loadCalib raw) := by
  constructor <;> simp only [loadCalib, toInt_beWord, toNat_beWord_int]

/-- An initialisation fails without touching the driver and without a
calibration block, or it reads a block and loads exactly its words. -/
theorem init_cases (d : Driver) (bus : Bus) :
    ((bmp180Init false d bus).1 < 0 ∧ (bmp180Init false d bus).2.1 = d ∧
      ∃ io, (bmp180Init false d bus).2.2.trace = bus.trace ++ io ∧
        io.filterMap (blockRead BMP180_REG_CALIB) = []) ∨
    ∃ raw ret, (bmp180Init false d bus).1 = 0 ∧ 0 ≤ ret ∧
      (bmp180Init false d bus).2.1 = { d with calibData := loadCalib raw, isCalibrated := true } ∧
      (bmp180Init false d bus).2.2.trace = bus.trace ++
        [.ready true, .writeRead BMP180_I2C_ADDR [BMP180_REG_CALIB] ret (List.ofFn raw)] := by
  by_cases hready : (bus.answers 0).ready = true
  · by_cases hret : (bus.answers 1).ret < 0
    · left
      have hinit : bmp180Init false d bus = ((bus.answers 1).ret, d,
          (bus.log (.ready true)).log (.writeRead BMP180_I2C_ADDR [BMP180_REG_CALIB]
            (bus.answers 1).ret (List.ofFn fun i : Fin 22 => (bus.answers 1).bytes i))) := by
        simp [bmp180Init, deviceIsReady, i2cWriteRead, Bus.log, hready, hret]
      rw [hinit]
      refine ⟨hret, rfl, _, List.append_assoc _ _ _, ?_⟩
      simp [blockRead, hret]
    · right
      refine ⟨fun i => (bus.answers 1).bytes i, (bus.answers 1).ret, ?_⟩
      simp [bmp180Init, deviceIsReady, i2cWriteRead, Bus.log, hready, hret]
      omega
  · left
    simp [bmp180Init, deviceIsReady, Bus.log, hready, ENODEV, blockRead]

def Bus.commanded (bus : Bus) : Bus :=
  (bus.log (.ready true)).log
    (.write BMP180_I2C_ADDR [BMP180_REG_CTRL, BMP180_CMD_TEMP] (bus.answers 1).ret)

def Bus.measured (bus : Bus) : Bus :=
  bus.commanded.log (.writeRead BMP180_I2C_ADDR [BMP180_REG_DATA] (bus.answers 2).ret
    [(bus.answers 2).bytes 0, (bus.answers 2).bytes 1])

section Measurement

variable (d : Driver) {bus : Bus} (out : ℤ)

theorem measure_of_not_ready (hready : ¬(bus.answers 0).ready = true) :
    measure d bus out = ⟨-ENODEV, some out, d, bus.log (.ready false)⟩ := by
  simp [measure, deviceIsReady, hready]

theorem measure_of_write_failed (hready : (bus.answers 0).ready = true)
    (hcmd : (bus.answers 1).ret < 0) :
    measure d bus out = ⟨(bus.answers 1).ret, some out, d, bus.commanded⟩ := by
  simp [measure, deviceIsReady, i2cWrite, Bus.log, Bus.commanded, hready, hcmd]

theorem measure_of_read_failed (hready : (bus.answers 0).ready = true)
    (hcmd : ¬(bus.answers 1).ret < 0) (hdata : (bus.answers 2).ret < 0) :
    measure d bus out = ⟨(bus.answers 2).ret, some out, d, bus.measured⟩ := by
  simp [measure, deviceIsReady, i2cWrite, i2cWriteRead, Bus.log, Bus.commanded, Bus.measured,
    hready, hcmd, hdata]

theorem measure_of_read (hready : (bus.answers 0).ready = true)
    (hcmd : ¬(bus.answers 1).ret < 0) (hdata : ¬(bus.answers 2).ret < 0) :
    measure d bus out =
      (let c := bmp180ComputeTemperature
        (beUnsigned ((bus.answers 2).bytes 0) ((bus.answers 2).bytes 1)) (some d.calibData)
        (some out)
      ⟨if c.1 < 0 then c.1 else 0, c.2, d, bus.measured⟩) := by
  simp only [measure, deviceIsReady, i2cWrite, i2cWriteRead, Bus.log, Bus.commanded, Bus.measured,
    hready, hcmd, hdata, ← toNat_beWord_int]
  simp only [Bool.not_true, Bool.false_eq_true, if_false, Nat.zero_add, Nat.reduceAdd,
    Fin.val_zero, Fin.val_one]
  split_ifs <;> rfl

end Measurement

theorem Bus.measured_trace (bus : Bus) :
    bus.measured.trace = bus.trace ++ [.ready true, .write BMP180_I2C_ADDR
      [BMP180_REG_CTRL, BMP180_CMD_TEMP] (bus.answers 1).ret,
      .writeRead BMP180_I2C_ADDR [BMP180_REG_DATA] (bus.answers 2).ret
        [(bus.answers 2).bytes 0, (bus.answers 2).bytes 1]] := by
  simp [Bus.measured, Bus.commanded, Bus.log]

/-- A measurement keeps the driver and reads no calibration; it fails without
an output, or it compensates the two bytes it read. -/
theorem measure_cases (d : Driver) (bus : Bus) (out : ℤ) :
    (measure d bus out).driver = d ∧ ∃ io, (measure d bus out).bus.trace = bus.trace ++ io ∧
      io.filterMap (blockRead BMP180_REG_CALIB) = [] ∧
      (((measure d bus out).ret < 0 ∧ (measure d bus out).tempOut = some out) ∨
        ((measure d bus out).ret = 0 ∧ ∃ hi lo t,
          (io.filterMap (blockRead BMP180_REG_DATA)).getLast? = some [hi, lo] ∧
          bmp180ComputeTemperature (beUnsigned hi lo) (some d.calibData) (some out) = (0, some t) ∧
          (measure d bus out).tempOut = some t)) := by
  by_cases hready : (bus.answers 0).ready = true
  · by_cases hcmd : (bus.answers 1).ret < 0
    · rw [measure_of_write_failed d out hready hcmd]
      exact ⟨rfl, _, List.append_assoc _ _ _, by simp [blockRead], .inl ⟨hcmd, rfl⟩⟩
    · by_cases hdata : (bus.answers 2).ret < 0
      · rw [measure_of_read_failed d out hready hcmd hdata]
        exact ⟨rfl, _, bus.measured_trace, by simp [blockRead, BMP180_REG_DATA, BMP180_REG_CALIB],
          .inl ⟨hdata, rfl⟩⟩
      · rw [measure_of_read d out hready hcmd hdata]
        refine ⟨rfl, _, bus.measured_trace,
          by simp [blockRead, BMP180_REG_DATA, BMP180_REG_CALIB], ?_⟩
        -- both bytes are there, and only the division can still fail
        rcases compute_cases (beUnsigned ((bus.answers 2).bytes 0) ((bus.answers 2).bytes 1)) out
          d.calibData with hc | hc
        · right
          refine ⟨by simp [hc], _, _, _, ?_, hc, by simp [hc]⟩
          have hnn : 0 ≤ (bus.answers 2).ret := by omega
          simp [blockRead, hnn]
        · left
          simp [hc, EDOM]
  · rw [measure_of_not_ready d out hready]
    exact ⟨rfl, _, rfl, by simp [blockRead], .inl ⟨by simp [ENODEV], rfl⟩⟩

theorem calibReads_append (io io' : List Transaction) :
    calibReads (io ++ io') = calibReads io ++ calibReads io' := List.filterMap_append

theorem calibReads_loaded {ret : ℤ} (hret : 0 ≤ ret) (bytes : List UInt8) :
    calibReads [.ready true, .writeRead BMP180_I2C_ADDR [BMP180_REG_CALIB] ret bytes] =
      [bytes] := by
  simp [calibReads, List.filterMap_cons, blockRead, hret]

/-- A reading ends with an error before it measures, with the driver as it was;
or it measures with a calibrated driver, which is the old one or one that this
very call has loaded. -/
theorem read_cases (d : Driver) (answers : ℕ → Answer) (out : ℤ) :
    let r := bmp180ReadTemperature false d ⟨answers, []⟩ (some out)
    (r.ret < 0 ∧ r.tempOut = some out ∧ r.driver = d ∧ calibReads r.bus.trace = []) ∨
      (r.driver.isCalibrated = true ∧
        ((r.driver = d ∧ calibReads r.bus.trace = []) ∨
          ∃ raw, r.driver.calibData = loadCalib raw ∧
            calibReads r.bus.trace = [List.ofFn raw]) ∧
        ((r.ret < 0 ∧ r.tempOut = some out) ∨
          (r.ret = 0 ∧ ∃ hi lo t,
            (r.bus.trace.filterMap (blockRead BMP180_REG_DATA)).getLast? = some [hi, lo] ∧
            bmp180ComputeTemperature (beUnsigned hi lo) (some r.driver.calibData) (some out) =
              (0, some t) ∧ r.tempOut = some t))) := by
  intro r
  by_cases hcal : d.isCalibrated = true
  · have hr : r = measure d ⟨answers, []⟩ out := by
      simp [r, bmp180ReadTemperature, hcal]
    obtain ⟨hd, io, htrace, hnone, hout⟩ := measure_cases d ⟨answers, []⟩ out
    rw [List.nil_append] at htrace
    right
    rw [hr, hd, htrace]
    exact ⟨hcal, .inl ⟨rfl, hnone⟩, hout⟩
  · -- the lazy initialisation decides
    rcases init_cases d ⟨answers, []⟩ with ⟨hneg, hd, io, htrace, hnone⟩ |
      ⟨raw, ret, hzero, hret, hd, htrace⟩
    · left
      have hr : r = ⟨(bmp180Init false d ⟨answers, []⟩).1, some out,
          (bmp180Init false d ⟨answers, []⟩).2.1, (bmp180Init false d ⟨answers, []⟩).2.2⟩ := by
        simp [r, bmp180ReadTemperature, hcal, hneg]
      rw [List.nil_append] at htrace
      rw [hr]
      exact ⟨hneg, rfl, hd, by rw [htrace]; exact hnone⟩
    · right
      have hr : r = measure (bmp180Init false d ⟨answers, []⟩).2.1
          (bmp180Init false d ⟨answers, []⟩).2.2 out := by
        simp [r, bmp180ReadTemperature, hcal, hzero]
      obtain ⟨hd', io, htrace', hnone, hout⟩ := measure_cases
        (bmp180Init false d ⟨answers, []⟩).2.1 (bmp180Init false d ⟨answers, []⟩).2.2 out
      rw [htrace, List.nil_append] at htrace'
      rw [hr, hd', htrace', hd]
      rw [hd] at hout
      refine ⟨rfl, .inr ⟨raw, rfl, ?_⟩, ?_⟩
      · rw [calibReads_append, calibReads_loaded hret, calibReads, hnone, List.append_nil]
      · rcases hout with hneg | ⟨h0, hi, lo, t, hread, hcomp, ht⟩
        · exact .inl hneg
        · right
          refine ⟨h0, hi, lo, t, ?_, hcomp, ht⟩
          rw [List.filterMap_append, List.getLast?_append, hread]
          rfl

/-- The driver holds the decoded calibration block of the last successful
initialisation, and none while there was no such initialisation. -/
def Session.Inv (s : Session) : Prop :=
  if s.driver.isCalibrated then
    ∃ raw, lastCalibration s.history = some (List.ofFn raw) ∧ s.driver.calibData = loadCalib raw
  else lastCalibration s.history = none

theorem lastCalibration_concat (pre : List Record) (r : Record) :
    lastCalibration (pre ++ [r]) = (calibReads r.io).getLast?.or (lastCalibration pre) := by
  simp [lastCalibration, calibReads, List.getLast?_append]

theorem call_init_inv (s : Session) (hs : s.Inv) :
    (s.call .init).Inv ∧
      ∃ r, (s.call .init).history = s.history ++ [r] ∧ r.Sound s.history := by
  unfold Session.Inv at hs ⊢
  simp only [Session.call, lastCalibration_concat, Record.io]
  rcases init_cases s.driver ⟨s.answers, []⟩ with ⟨hneg, hd, io, htrace, hnone⟩ |
    ⟨raw, ret, hzero, hret, hd, htrace⟩
  · rw [hd, htrace, List.nil_append, calibReads, hnone]
    exact ⟨by simpa using hs, _, rfl, .inr ⟨hneg, hnone⟩⟩
  · rw [hd, htrace, List.nil_append, calibReads_loaded hret]
    exact ⟨⟨raw, rfl, rfl⟩, _, rfl, .inl ⟨hzero, raw, calibReads_loaded hret _⟩⟩

theorem call_read_inv (s : Session) (hs : s.Inv) (tempOut : Option ℤ) :
    (s.call (.read tempOut)).Inv ∧
      ∃ r, (s.call (.read tempOut)).history = s.history ++ [r] ∧ r.Sound s.history := by
  cases tempOut with
  | none =>
    refine ⟨?_, _, rfl, ?_⟩
    · unfold Session.Inv at hs ⊢
      simpa [Session.call, bmp180ReadTemperature, lastCalibration_concat, Record.io, calibReads]
        using hs
    · simp [Record.Sound, bmp180ReadTemperature, EINVAL]
  | some out =>
    have hcases := read_cases s.driver s.answers out
    simp only [Session.call]
    generalize bmp180ReadTemperature false s.driver ⟨s.answers, []⟩ (some out) = r at hcases ⊢
    unfold Session.Inv at hs ⊢
    simp only [lastCalibration_concat, Record.io]
    rcases hcases with ⟨hret, hout, hd, hnone⟩ | ⟨hcal, hload, hout⟩
    · refine ⟨by simpa [hd, hnone] using hs, _, rfl, fun h0 => absurd h0 (by omega), fun _ => hout⟩
    · obtain ⟨raw, hlast, hdata⟩ : ∃ raw : Fin 22 → UInt8,
          (calibReads r.bus.trace).getLast?.or (lastCalibration s.history) =
            some (List.ofFn raw) ∧ r.driver.calibData = loadCalib raw := by
        rcases hload with ⟨hd, hnone⟩ | ⟨raw, hdata, hread⟩
        · rw [← hd, if_pos hcal] at hs
          -- the driver is calibrated, in this call or in an earlier one
          obtain ⟨raw, hlast, hdata⟩ := hs
          exact ⟨raw, by simpa [hnone] using hlast, hdata⟩
        · exact ⟨raw, by simp [hread], hdata⟩
      refine ⟨by rw [if_pos hcal]; exact ⟨raw, hlast, hdata⟩, _, rfl, fun h0 => ?_, fun hneg => ?_⟩
      · rcases hout with ⟨hneg, -⟩ | ⟨-, hi, lo, t, hread, hcomp, ht⟩
        · omega
        · refine ⟨raw, ?_, loadCalib raw, hi, lo, t, decodes_loadCalib raw, hread, ?_, ht⟩
          · rw [lastCalibration_concat]
            exact hlast
          · rw [← hdata]
            exact hcomp
      · rcases hout with ⟨-, hsame⟩ | ⟨h0, -⟩
        · exact hsame
        · omega

theorem call_inv (s : Session) (hs : s.Inv) (c : Call) :
    (s.call c).Inv ∧ ∃ r, (s.call c).history = s.history ++ [r] ∧ r.Sound s.history := by
  cases c with
  | init => exact call_init_inv s hs
  | read tempOut => exact call_read_inv s hs tempOut

theorem session_inv (answers : ℕ → Answer) (calls : List Call) :
    (calls.foldl Session.call (.start answers)).Inv ∧
      Whenever Record.Sound (calls.foldl Session.call (.start answers)).history := by
  refine Run.invariant (P := fun s => s.Inv ∧ Whenever Record.Sound s.history)
    (run_foldl Session.call (.start answers) calls) ?_ ?_
  · exact ⟨by simp [Session.Inv, Session.start, Driver.initial, lastCalibration, calibReads],
      by simp [Session.start]⟩
  · rintro s c s' ⟨hs, hw⟩ rfl
    obtain ⟨hinv, r, hr, hsound⟩ := call_inv s hs c
    refine ⟨hinv, ?_⟩
    rw [hr]
    exact (whenever_concat _ _).mpr ⟨hw, hsound⟩

/-- In every call sequence, under every script of bus outcomes: a reading that
returns 0 is the compensated value of the two bytes read in that call, with the
calibration decoded from the last successful initialisation (one whose block was
read); a reading that returns a negative code leaves the output alone; and an
initialisation that fails leaves the driver alone. -/
theorem readings_compensated (answers : ℕ → Answer) (calls : List Call) :
    Whenever Record.Sound (calls.foldl Session.call (.start answers)).history ∧
      ∀ (d : Driver) (bus : Bus), (bmp180Init false d bus).1 < 0 →
        (bmp180Init false d bus).2.1.calibData = d.calibData ∧
          (bmp180Init false d bus).2.1.isCalibrated = d.isCalibrated := by
  refine ⟨(session_inv answers calls).2, fun d bus hneg => ?_⟩
  rcases init_cases d bus with ⟨-, hd, -⟩ | ⟨raw, ret, hzero, -⟩
  · rw [hd]
    exact ⟨rfl, rfl⟩
  · omega

end ZigbeeGateway.Bmp180
