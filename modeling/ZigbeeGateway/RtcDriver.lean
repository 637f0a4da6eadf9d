import ZigbeeGateway.Bmp180Math
import Mathlib.Data.Fintype.Basic
import Mathlib.Logic.Function.Basic

namespace ZigbeeGateway.MyRtc
open Bmp180

inductive Register
  | tasksStart
  | tasksStop
  | tasksClear
  | eventsCompare (channel : Fin 4)
  | intenset
  | intenclr
  | evtenset
  | prescaler
  | cc (channel : Fin 4)
  deriving DecidableEq

/-- Of the interrupt sources only the compare events: nothing enables the others. -/
structure Rtc where
  running : Bool
  prescaler : BitVec 12
  /-- the clock cycles since the last tick of the counter -/
  cycles : ℕ
  counter : BitVec 24
  cc : Fin 4 → BitVec 24
  eventsCompare : Fin 4 → Bool
  evten : BitVec 32
  inten : BitVec 32

namespace Rtc

def reset : Rtc := ⟨false, 0, 0, 0, fun _ => 0, fun _ => false, 0, 0⟩

/-- A write to a register; a task is triggered by any number but zero, and the
prescaler can be written while the counter is stopped. -/
def write (r : Rtc) (reg : Register) (value : BitVec 32) : Rtc :=
  match reg with
  | .tasksStart => if value = 0 then r else { r with running := true }
  | .tasksStop => if value = 0 then r else { r with running := false }
  | .tasksClear => if value = 0 then r else { r with counter := 0, cycles := 0 }
  | .eventsCompare channel =>
    { r with eventsCompare := Function.update r.eventsCompare channel (decide (value ≠ 0)) }
  | .intenset => { r with inten := r.inten ||| value }
  | .intenclr => { r with inten := r.inten &&& ~~~value }
  | .evtenset => { r with evten := r.evten ||| value }
  | .prescaler => if r.running then r else { r with prescaler := value.setWidth 12 }
  | .cc channel => { r with cc := Function.update r.cc channel (value.setWidth 24) }

def tick (r : Rtc) : Rtc :=
  let counter := r.counter + 1
  { r with
    counter := counter
    cycles := 0
    eventsCompare := fun i =>
      r.eventsCompare i ||
        (decide (counter = r.cc i) && (r.evten ||| r.inten).getLsbD (16 + i)) }

def cycle (r : Rtc) : Rtc :=
  if r.running then
    if r.cycles = r.prescaler.toNat then r.tick else { r with cycles := r.cycles + 1 }
  else r

def irq (r : Rtc) : Bool :=
  (List.finRange 4).any fun i => r.eventsCompare i && r.inten.getLsbD (16 + i)

abbrev compare1 (r : Rtc) : Bool := r.eventsCompare 1

end Rtc

/-- The three counters.  RTC0 of the chip lacks the fourth channel; it plays no
part: both firmwares use channel 1 of RTC2. -/
abbrev Chip := Fin 3 → Rtc

abbrev Chip.rtc2 (chip : Chip) : Rtc := chip 2

def Chip.reset : Chip := fun _ => .reset

def Chip.cycle (chip : Chip) : Chip := fun i => (chip i).cycle

def Chip.write (chip : Chip) (i : Fin 3) (reg : Register) (value : BitVec 32) : Chip :=
  Function.update chip i ((chip i).write reg value)

def getRtcPointer : ℕ → Option (Fin 3)
  | 0 => some 0
  | 1 => some 1
  | 2 => some 2
  | _ => none

section Driver

variable (chip : Chip) (rtcIdx : ℕ)

/-- The functions that check the instance only and write one register. -/
def writeTo (reg : Register) (value : BitVec 32) : ℤ × Chip :=
  match getRtcPointer rtcIdx with
  | none => (-EINVAL, chip)
  | some rtc => (0, chip.write rtc reg value)

def myRtcInit (prescaler : UInt16) : ℤ × Chip :=
  match getRtcPointer rtcIdx with
  | none => (-EINVAL, chip)
  | some rtc =>
    (0, (chip.write rtc .prescaler (prescaler.toBitVec.setWidth 32)).write rtc .tasksClear 1)

def myRtcStart : ℤ × Chip := writeTo chip rtcIdx .tasksStart 1

def myRtcStop : ℤ × Chip := writeTo chip rtcIdx .tasksStop 1

def myRtcClear : ℤ × Chip := writeTo chip rtcIdx .tasksClear 1

/-- `outValue` is what the pointer points to, `none` for NULL. -/
def myRtcGetValue (outValue : Option UInt32) : ℤ × Option UInt32 :=
  match getRtcPointer rtcIdx, outValue with
  | some rtc, some _ => (0, some ⟨(chip rtc).counter.setWidth 32⟩)
  | _, _ => (-EINVAL, outValue)

def myRtcStartCompare (channel : UInt8) (compareValue : UInt32) : ℤ × Chip :=
  match getRtcPointer rtcIdx with
  | none => (-EINVAL, chip)
  | some rtc =>
    if 3 < channel ∨ 0x00FFFFFF < compareValue then (-EINVAL, chip)
    else
      (0, (chip.write rtc (.cc (Fin.ofNat 4 channel.toNat)) compareValue.toBitVec).write rtc
        .evtenset (1 <<< (16 + channel.toNat)))

def myRtcGetCompareEvent (channel : UInt8) (outEvent : Option Bool) : ℤ × Option Bool :=
  match getRtcPointer rtcIdx, outEvent with
  | some rtc, some _ =>
    if 3 < channel then (-EINVAL, outEvent)
    else (0, some ((chip rtc).eventsCompare (Fin.ofNat 4 channel.toNat)))
  | _, _ => (-EINVAL, outEvent)

def myRtcClearCompareEvent (channel : UInt8) : ℤ × Chip :=
  match getRtcPointer rtcIdx with
  | none => (-EINVAL, chip)
  | some rtc =>
    if 3 < channel then (-EINVAL, chip)
    else (0, chip.write rtc (.eventsCompare (Fin.ofNat 4 channel.toNat)) 0)

def myRtcEnableInterrupt (mask : UInt32) : ℤ × Chip := writeTo chip rtcIdx .intenset mask.toBitVec

def myRtcDisableInterrupt (mask : UInt32) : ℤ × Chip := writeTo chip rtcIdx .intenclr mask.toBitVec

end Driver

def MY_RTC_INT_COMPARE1_MASK : UInt32 := (1 : UInt32) <<< 17

inductive Call
  | init (rtcIdx : ℕ) (prescaler : UInt16)
  | start (rtcIdx : ℕ)
  | stop (rtcIdx : ℕ)
  | clear (rtcIdx : ℕ)
  | getValue (rtcIdx : ℕ) (outValue : Option UInt32)
  | startCompare (rtcIdx : ℕ) (channel : UInt8) (compareValue : UInt32)
  | getCompareEvent (rtcIdx : ℕ) (channel : UInt8) (outEvent : Option Bool)
  | clearCompareEvent (rtcIdx : ℕ) (channel : UInt8)
  | enableInterrupt (rtcIdx : ℕ) (mask : UInt32)
  | disableInterrupt (rtcIdx : ℕ) (mask : UInt32)
  deriving DecidableEq

structure Outcome where
  ret : ℤ
  value : Option UInt32
  event : Option Bool
  deriving DecidableEq

namespace Call

def rtcIdx : Call → ℕ
  | init i _ | start i | stop i | clear i | getValue i _ | startCompare i _ _
  | getCompareEvent i _ _ | clearCompareEvent i _ | enableInterrupt i _ | disableInterrupt i _ => i

def before : Call → Option UInt32 × Option Bool
  | getValue _ outValue => (outValue, none)
  | getCompareEvent _ _ outEvent => (none, outEvent)
  | _ => (none, none)

/-- The arguments that the driver takes: what a function asserts and checks again. -/
def valid (c : Call) : Bool :=
  decide (c.rtcIdx < 3) &&
    match c with
    | getValue _ outValue => outValue.isSome
    | startCompare _ channel compareValue =>
      decide (channel ≤ 3) && decide (compareValue ≤ 0x00FFFFFF)
    | getCompareEvent _ channel outEvent => decide (channel ≤ 3) && outEvent.isSome
    | clearCompareEvent _ channel => decide (channel ≤ 3)
    | _ => true

def run (chip : Chip) (c : Call) : Outcome × Chip :=
  let silent (r : ℤ × Chip) : Outcome × Chip := (⟨r.1, none, none⟩, r.2)
  match c with
  | init i prescaler => silent (myRtcInit chip i prescaler)
  | start i => silent (myRtcStart chip i)
  | stop i => silent (myRtcStop chip i)
  | clear i => silent (myRtcClear chip i)
  | getValue i outValue =>
    let r := myRtcGetValue chip i outValue
    (⟨r.1, r.2, none⟩, chip)
  | startCompare i channel compareValue => silent (myRtcStartCompare chip i channel compareValue)
  | getCompareEvent i channel outEvent =>
    let r := myRtcGetCompareEvent chip i channel outEvent
    (⟨r.1, none, r.2⟩, chip)
  | clearCompareEvent i channel => silent (myRtcClearCompareEvent chip i channel)
  | enableInterrupt i mask => silent (myRtcEnableInterrupt chip i mask)
  | disableInterrupt i mask => silent (myRtcDisableInterrupt chip i mask)

end Call

inductive Action
  | call (c : Call)
  | cycle

def Action.valid : Action → Bool
  | .call c => c.valid
  | .cycle => true

/-- The calls in order with their outcomes, and the counters after the last.
With `asserts` (`CONFIG_ASSERT`) the firmware ends at the first call that is not valid. -/
def trace (asserts : Bool) (chip : Chip) : List Action → List (Call × Outcome) × Chip
  | [] => ([], chip)
  | .cycle :: acts => trace asserts chip.cycle acts
  | .call c :: acts =>
    if asserts && !c.valid then ([], chip)
    else
      let r := c.run chip
      let rest := trace asserts r.2 acts
      ((c, r.1) :: rest.1, rest.2)

/-- A valid call on counter `i`. -/
def Call.drives (i : Fin 3) (c : Call) : Bool :=
  c.valid && decide (getRtcPointer c.rtcIdx = some i)

def Action.drives (i : Fin 3) : Action → Bool
  | .call c => c.drives i
  | .cycle => true

theorem getRtcPointer_eq_none {rtcIdx : ℕ} (h : ¬rtcIdx < 3) : getRtcPointer rtcIdx = none := by
  match rtcIdx, h with
  | n + 3, _ => rfl

theorem getRtcPointer_of_lt {rtcIdx : ℕ} (h : rtcIdx < 3) :
    ∃ rtc, getRtcPointer rtcIdx = some rtc := by
  match rtcIdx, h with
  | 0, _ => exact ⟨0, rfl⟩
  | 1, _ => exact ⟨1, rfl⟩
  | 2, _ => exact ⟨2, rfl⟩

/-- A call with an argument out of range is refused with everything as it was. -/
theorem run_of_not_valid (chip : Chip) {c : Call} (h : c.valid = false) :
    c.run chip = (⟨-EINVAL, c.before.1, c.before.2⟩, chip) := by
  by_cases hidx : c.rtcIdx < 3
  · obtain ⟨rtc, hrtc⟩ := getRtcPointer_of_lt hidx
    have hargs := h
    simp only [Call.valid, hidx, decide_true, Bool.true_and] at hargs
    cases c with
    | init | start | stop | clear | enableInterrupt | disableInterrupt => simp at hargs
    | getValue i outValue =>
      cases outValue with
      | none => simp [Call.run, myRtcGetValue, Call.before]
      | some v => simp at hargs
    | startCompare i channel compareValue =>
      have hbad : 3 < channel ∨ 0x00FFFFFF < compareValue := by
        simpa only [Bool.and_eq_false_iff, decide_eq_false_iff_not, UInt8.not_le,
          UInt32.not_le] using hargs
      simp only [Call.rtcIdx] at hrtc
      simp [Call.run, myRtcStartCompare, hrtc, hbad, Call.before]
    | getCompareEvent i channel outEvent =>
      simp only [Call.rtcIdx] at hrtc
      cases outEvent with
      | none => simp [Call.run, myRtcGetCompareEvent, Call.before]
      | some v =>
        have hbad : 3 < channel := by simpa using hargs
        simp [Call.run, myRtcGetCompareEvent, hrtc, hbad, Call.before]
    | clearCompareEvent i channel =>
      simp only [Call.rtcIdx] at hrtc
      have hbad : 3 < channel := by simpa using hargs
      simp [Call.run, myRtcClearCompareEvent, hrtc, hbad, Call.before]
  · -- no such counter, so every function returns at its first check
    have hnone := getRtcPointer_eq_none hidx
    cases c <;> simp only [Call.rtcIdx] at hnone <;>
      simp [Call.run, myRtcInit, myRtcStart, myRtcStop, myRtcClear, myRtcGetValue,
        myRtcStartCompare, myRtcGetCompareEvent, myRtcClearCompareEvent, myRtcEnableInterrupt,
        myRtcDisableInterrupt, writeTo, hnone, Call.before]

@[simp] theorem Chip.write_same (chip : Chip) (i : Fin 3) (reg : Register) (value : BitVec 32) :
    chip.write i reg value i = (chip i).write reg value := Function.update_self ..

@[simp] theorem Chip.write_other (chip : Chip) {i j : Fin 3} (h : j ≠ i) (reg : Register)
    (value : BitVec 32) : chip.write i reg value j = chip j := Function.update_of_ne h ..

/-- A valid call succeeds, depends on its own counter and touches no other. -/
theorem run_of_valid (chip : Chip) {c : Call} (h : c.valid = true) :
    ∃ rtc, getRtcPointer c.rtcIdx = some rtc ∧ (c.run chip).1.ret = 0 ∧
      (∀ i ≠ rtc, (c.run chip).2 i = chip i) ∧
      ∀ chip' : Chip, chip' rtc = chip rtc →
        (c.run chip').1 = (c.run chip).1 ∧ (c.run chip').2 rtc = (c.run chip).2 rtc := by
  have hidx : c.rtcIdx < 3 := by
    unfold Call.valid at h
    exact of_decide_eq_true (Bool.and_eq_true_iff.mp h).1
  have hargs := h
  simp only [Call.valid, hidx, decide_true, Bool.true_and] at hargs
  obtain ⟨rtc, hrtc⟩ := getRtcPointer_of_lt hidx
  refine ⟨rtc, hrtc, ?_⟩
  -- the registers of the counter decide, and the others are not looked at
  cases c with
  | init i prescaler =>
    simp only [Call.rtcIdx] at hrtc
    simp +contextual [Call.run, myRtcInit, hrtc]
  | start | stop | clear | enableInterrupt | disableInterrupt =>
    simp only [Call.rtcIdx] at hrtc
    simp +contextual [Call.run, myRtcStart, myRtcStop, myRtcClear, myRtcEnableInterrupt,
      myRtcDisableInterrupt, writeTo, hrtc]
  | getValue i outValue =>
    simp only [Call.rtcIdx] at hrtc
    obtain ⟨v, rfl⟩ := Option.isSome_iff_exists.mp hargs
    simp +contextual [Call.run, myRtcGetValue, hrtc]
  | startCompare i channel compareValue =>
    simp only [Call.rtcIdx] at hrtc
    have hgood : ¬(3 < channel ∨ 0x00FFFFFF < compareValue) := by
      simpa only [Bool.and_eq_true, decide_eq_true_iff, not_or, UInt8.not_lt,
        UInt32.not_lt] using hargs
    simp +contextual [Call.run, myRtcStartCompare, hrtc, hgood]
  | getCompareEvent i channel outEvent =>
    simp only [Call.rtcIdx] at hrtc
    rw [Bool.and_eq_true, decide_eq_true_iff] at hargs
    obtain ⟨v, rfl⟩ := Option.isSome_iff_exists.mp hargs.2
    simp +contextual [Call.run, myRtcGetCompareEvent, hrtc, UInt8.not_lt.mpr hargs.1]
  | clearCompareEvent i channel =>
    simp only [Call.rtcIdx] at hrtc
    have hgood : ¬3 < channel := by simpa using hargs
    simp +contextual [Call.run, myRtcClearCompareEvent, hrtc, hgood]

theorem Call.drives_iff {i : Fin 3} {c : Call} :
    c.drives i = true ↔ c.valid = true ∧ getRtcPointer c.rtcIdx = some i := by
  simp [Call.drives]

theorem run_of_not_drives {i : Fin 3} {c : Call} (h : ¬c.drives i = true) (chip : Chip) :
    (c.run chip).2 i = chip i := by
  rw [Call.drives_iff] at h
  by_cases hvalid : c.valid = true
  · obtain ⟨rtc, hrtc, -, hother, -⟩ := run_of_valid chip hvalid
    apply hother
    rintro rfl
    exact h ⟨hvalid, hrtc⟩
  · rw [run_of_not_valid chip (Bool.eq_false_iff.mpr hvalid)]

/-- What does not drive a counter can be left out. -/
theorem trace_filter_drives {chip own : Chip} {i : Fin 3} (h : own i = chip i)
    (acts : List Action) :
    (trace false own (acts.filter (·.drives i))).2 i = (trace false chip acts).2 i ∧
      (trace false own (acts.filter (·.drives i))).1 =
        (trace false chip acts).1.filter fun p => p.1.drives i := by
  induction acts generalizing chip own with
  | nil => exact ⟨h, rfl⟩
  | cons act acts ih =>
    cases act with
    | cycle =>
      have hcycle : own.cycle i = chip.cycle i := congrArg Rtc.cycle h
      simpa [Action.drives, trace] using ih hcycle
    | call c =>
      -- a call that does not drive the counter is left out on one side
      by_cases hc : c.drives i = true
      · obtain ⟨hvalid, hi⟩ := Call.drives_iff.mp hc
        obtain ⟨rtc, hrtc, -, -, hsame⟩ := run_of_valid chip hvalid
        obtain rfl : rtc = i := Option.some.inj (hrtc.symm.trans hi)
        obtain ⟨hout, hnext⟩ := hsame own h
        simpa [Action.drives, hc, trace, hout] using ih hnext
      · have hnext : own i = (c.run chip).2 i := by rw [run_of_not_drives hc, h]
        simpa [Action.drives, hc, trace] using ih hnext

/-- A valid call returns 0, any other returns `-EINVAL` and leaves its output as
it was. -/
theorem trace_outcome {chip : Chip} {acts : List Action} {p : Call × Outcome}
    (hp : p ∈ (trace false chip acts).1) :
    if p.1.valid then p.2.ret = 0 else p.2 = ⟨-EINVAL, p.1.before.1, p.1.before.2⟩ := by
  induction acts generalizing chip with
  | nil => simp [trace] at hp
  | cons act acts ih =>
    cases act with
    | cycle => exact ih hp
    | call c =>
      rcases List.mem_cons.mp hp with rfl | hp
      · by_cases hvalid : c.valid = true
        · obtain ⟨-, -, hret, -⟩ := run_of_valid chip hvalid
          simpa [hvalid] using hret
        · simp [hvalid, run_of_not_valid chip (Bool.eq_false_iff.mpr hvalid)]
      · exact ih hp

/-- Up to its first call that is not valid, a build with assertions does what the
other does. -/
theorem trace_asserts (chip : Chip) (acts : List Action) :
    trace true chip acts = trace false chip (acts.takeWhile Action.valid) := by
  induction acts generalizing chip with
  | nil => rfl
  | cons act acts ih =>
    cases act with
    | cycle => exact ih chip.cycle
    | call c =>
      by_cases hvalid : c.valid = true
      · simp [trace, Action.valid, hvalid, ih]
      · simp [trace, Action.valid, hvalid]

/-- The counters are independent, and refused calls do not count: after any
calls and clock cycles, counter `i` and the outcomes of the valid calls on it
are those of these calls and cycles alone.  A valid call returns 0; any other
returns `-EINVAL` and leaves its output as it was, or ends a build with
assertions, which until then does the same. -/
theorem rtc_driver (chip : Chip) (acts : List Action) (i : Fin 3) :
    ((trace false chip (acts.filter (·.drives i))).2 i = (trace false chip acts).2 i ∧
      (trace false chip (acts.filter (·.drives i))).1 =
        (trace false chip acts).1.filter fun p => p.1.drives i) ∧
    (∀ p ∈ (trace false chip acts).1,
      if p.1.valid then p.2.ret = 0 else p.2 = ⟨-EINVAL, p.1.before.1, p.1.before.2⟩) ∧
    trace true chip acts = trace false chip (acts.takeWhile Action.valid) :=
  ⟨trace_filter_drives rfl acts, fun _ => trace_outcome, trace_asserts chip acts⟩

end ZigbeeGateway.MyRtc
