import ZigbeeGateway.PeriodicService
import ZigbeeGateway.RtcDriver
import ZigbeeGateway.ReportBuffers
import ZigbeeGateway.LightSwitch

namespace ZigbeeGateway.SamplingClock
open MyRtc Histories PeriodicService

/-- What a board has to know of its program. -/
structure Firmware (S E : Type) where
  step : S → E → Option S
  /-- the event that runs `rtc2_isr` with this answer of the driver -/
  rtcInterrupt : ℤ → Bool → E
  isRtcInterrupt : E → Bool
  /-- whether a step was a power-up -/
  rebooted : S → S → Bool

structure Board (S : Type) where
  app : S
  chip : Chip

inductive BoardEvent (E : Type)
  | cycle
  | interrupt
  | app (e : E)

/-- The calls of the driver in `main`; a failure would only be logged. -/
def setUp (chip : Chip) : Chip :=
  let chip := (myRtcInit chip 2 4095).2
  let chip := (myRtcStartCompare chip 2 1 32).2
  let chip := (myRtcEnableInterrupt chip 2 MY_RTC_INT_COMPARE1_MASK).2
  (myRtcStart chip 2).2

def rearm (chip : Chip) : Chip :=
  let chip := (myRtcClearCompareEvent chip 2 1).2
  let chip := (myRtcClear chip 2).2
  (myRtcStartCompare chip 2 1 32).2

section Step

variable {S E : Type} (F : Firmware S E)

def powerUp (app : S) : Board S := ⟨app, setUp .reset⟩

def rtc2Isr (b : Board S) : Option (Board S) :=
  let (err, event) := myRtcGetCompareEvent b.chip 2 1 (some false)
  let isCompareEvent := event.getD false
  let chip := if err = 0 ∧ isCompareEvent = true then rearm b.chip else b.chip
  (F.step b.app (F.rtcInterrupt err isCompareEvent)).map (⟨·, chip⟩)

/-- A cycle of the clock, the interrupt of RTC2 if it is asked for, or another
event of the firmware. -/
def step (b : Board S) : BoardEvent E → Option (Board S)
  | .cycle => some ⟨b.app, b.chip.cycle⟩
  | .interrupt => if b.chip.rtc2.irq then rtc2Isr F b else none
  | .app e =>
    if F.isRtcInterrupt e then none
    else
      (F.step b.app e).map fun s => ⟨s, if F.rebooted b.app s then setUp .reset else b.chip⟩

end Step

def BoardEvent.isCycle {E : Type} : BoardEvent E → Bool
  | .cycle => true
  | _ => false

def BoardEvent.isInterrupt {E : Type} : BoardEvent E → Bool
  | .interrupt => true
  | _ => false

def period : ℕ := 32 * 4096

/-- Set up for a compare event at 32, with the count not beyond it yet or the
event there. -/
structure Armed (r : Rtc) : Prop where
  running : r.running = true
  prescaler : r.prescaler = 4095
  cc : r.cc 1 = 32
  inten : r.inten = 1 <<< 17
  cycles : r.cycles ≤ 4095
  counter : r.eventsCompare 1 = false → r.counter.toNat < 32

def elapsed (r : Rtc) : ℕ :=
  if r.compare1 then period else 4096 * r.counter.toNat + r.cycles

theorem elapsed_eq (r : Rtc) :
    elapsed r = if r.eventsCompare 1 then period else 4096 * r.counter.toNat + r.cycles := rfl

theorem Armed.elapsed_le {r : Rtc} (h : Armed r) : elapsed r ≤ period := by
  unfold elapsed
  split
  · exact le_rfl
  · rename_i hevent
    have hcounter := h.counter (Bool.eq_false_iff.mpr hevent)
    have hcycles := h.cycles
    unfold period
    omega

theorem Armed.irq_iff {r : Rtc} (h : Armed r) : r.irq = true ↔ elapsed r = period := by
  have hirq : r.irq = r.eventsCompare 1 := by
    have hchannels : List.finRange 4 = [0, 1, 2, 3] := rfl
    simp [Rtc.irq, hchannels, h.inten]
  rw [hirq, elapsed]
  split
  · rename_i hevent
    exact iff_of_true hevent rfl
  · rename_i hevent
    refine iff_of_false hevent ?_
    have hcounter := h.counter (Bool.eq_false_iff.mpr hevent)
    have hcycles := h.cycles
    unfold period
    omega

theorem Armed.tick {r : Rtc} (h : Armed r) (hlast : r.cycles = 4095) :
    Armed r.tick ∧ elapsed r.tick = min period (elapsed r + 1) := by
  have hevent : r.tick.eventsCompare 1 = (r.eventsCompare 1 || decide (r.counter + 1 = 32)) := by
    simp [Rtc.tick, h.cc, h.inten]
  have hcount : r.eventsCompare 1 = false → (r.counter + 1).toNat = r.counter.toNat + 1 := by
    intro hno
    have hlt := h.counter hno
    rw [BitVec.toNat_add]
    simp
    omega
  constructor
  · refine ⟨h.running, h.prescaler, h.cc, h.inten, Nat.zero_le _, fun hno => ?_⟩
    rw [hevent, Bool.or_eq_false_iff, decide_eq_false_iff_not] at hno
    have hlt := h.counter hno.1
    have hnext := hcount hno.1
    have hne : (r.counter + 1).toNat ≠ 32 := fun he => hno.2 (BitVec.eq_of_toNat_eq he)
    show (r.counter + 1).toNat < 32
    omega
  · rw [elapsed_eq, elapsed_eq, hevent]
    cases hno : r.eventsCompare 1 with
    | true => simp
    | false =>
      have hlt := h.counter hno
      have hnext := hcount hno
      -- the tick to 32 raises the event and ends the period
      by_cases hdue : r.counter + 1 = 32
      · have h32 : (r.counter + 1).toNat = 32 := by rw [hdue]; rfl
        simp only [hdue, decide_true, Bool.or_true, Bool.false_eq_true, if_true, if_false]
        unfold period
        omega
      · have hcycles : r.tick.cycles = 0 := rfl
        have hcounter : r.tick.counter = r.counter + 1 := rfl
        simp only [hdue, decide_false, Bool.or_false, Bool.false_eq_true, if_false, hcycles,
          hcounter, hnext]
        unfold period
        omega

theorem Armed.cycle {r : Rtc} (h : Armed r) :
    Armed r.cycle ∧ elapsed r.cycle = min period (elapsed r + 1) := by
  have hprescaler : r.prescaler.toNat = 4095 := by rw [h.prescaler]; rfl
  unfold Rtc.cycle
  rw [if_pos h.running, hprescaler]
  split
  · rename_i hlast
    exact h.tick hlast
  · -- the tick is not full yet
    rename_i hmore
    have hcycles := h.cycles
    refine ⟨⟨h.running, h.prescaler, h.cc, h.inten, ?_, h.counter⟩, ?_⟩
    · show r.cycles + 1 ≤ 4095
      omega
    · unfold elapsed
      dsimp only
      split
      · simp
      · rename_i hevent
        have hcounter := h.counter (Bool.eq_false_iff.mpr hevent)
        unfold period
        omega

theorem setUp_armed : Armed (setUp .reset 2) ∧ elapsed (setUp .reset 2) = 0 :=
  ⟨⟨rfl, rfl, rfl, rfl, by decide, fun _ => by decide⟩, rfl⟩

/-- Serving the interrupt arms the counter anew, from zero. -/
theorem rearm_armed {chip : Chip} (h : Armed (chip 2)) :
    Armed (rearm chip 2) ∧ elapsed (rearm chip 2) = 0 := by
  have hrearm : rearm chip 2 = ((((chip 2).write (.eventsCompare 1) 0).write .tasksClear 1).write
      (.cc 1) 32).write .evtenset (1 <<< 17) := by
    simp [rearm, myRtcClearCompareEvent, myRtcClear, myRtcStartCompare, writeTo, getRtcPointer]
    rfl
  rw [hrearm]
  refine ⟨⟨h.running, h.prescaler, ?_, h.inten, ?_, fun _ => ?_⟩, ?_⟩
  · simp [Rtc.write]
  · simp [Rtc.write]
  · simp [Rtc.write]
  · simp [Rtc.write, elapsed_eq]

section Board

variable {S E : Type} {F : Firmware S E}

/-- While the counter asks for an interrupt, the driver reports the event. -/
theorem rtc2Isr_of_irq {b : Board S} (h : Armed (b.chip 2)) (hirq : (b.chip 2).irq = true) :
    rtc2Isr F b = (F.step b.app (F.rtcInterrupt 0 true)).map (⟨·, rearm b.chip⟩) := by
  have hevent : (b.chip 2).eventsCompare 1 = true := by
    have hchannels : List.finRange 4 = [0, 1, 2, 3] := rfl
    simpa [Rtc.irq, hchannels, h.inten] using hirq
  have hget : myRtcGetCompareEvent b.chip 2 1 (some false) = (0, some true) := by
    show (0, some ((b.chip 2).eventsCompare 1)) = _
    rw [hevent]
  simp [rtc2Isr, hget]

def act (F : Firmware S E) (b : Board S) : BoardEvent E → Act
  | .cycle => .tick
  | .interrupt => .serve
  | .app e => if (F.step b.app e).any (F.rebooted b.app) then .restart else .idle

theorem step_app {b b' : Board S} {e : E} (h : step F b (.app e) = some b') :
    F.isRtcInterrupt e = false ∧ F.step b.app e = some b'.app ∧
      b'.chip = if F.rebooted b.app b'.app then setUp .reset else b.chip := by
  obtain ⟨hrtc, h⟩ := Option.ite_none_left_eq_some.mp h
  obtain ⟨s, hs, rfl⟩ := Option.map_eq_some_iff.mp h
  exact ⟨Bool.eq_false_iff.mpr hrtc, hs, rfl⟩

theorem step_interrupt {b b' : Board S} (hb : Armed (b.chip 2))
    (h : step F b .interrupt = some b') :
    (b.chip 2).irq = true ∧ F.step b.app (F.rtcInterrupt 0 true) = some b'.app ∧
      b'.chip = rearm b.chip := by
  obtain ⟨hirq, h⟩ := Option.ite_none_right_eq_some.mp h
  rw [rtc2Isr_of_irq hb hirq] at h
  obtain ⟨s, hs, rfl⟩ := Option.map_eq_some_iff.mp h
  exact ⟨hirq, hs, rfl⟩

theorem step_armed {b b' : Board S} {e : BoardEvent E} (hb : Armed b.chip.rtc2)
    (h : step F b e = some b') :
    Armed b'.chip.rtc2 ∧
      elapsed b'.chip.rtc2 = (act F b e).apply period (elapsed b.chip.rtc2) := by
  cases e with
  | cycle =>
    obtain rfl := Option.some.inj h
    exact hb.cycle
  | interrupt =>
    obtain ⟨-, -, hchip⟩ := step_interrupt hb h
    rw [hchip]
    exact rearm_armed hb
  | app e =>
    obtain ⟨-, hs, hchip⟩ := step_app h
    rw [hchip]
    simp only [act, hs, Option.any_some]
    split
    · exact setUp_armed
    · exact ⟨hb, rfl⟩

theorem elapsed_of_serve {b b' : Board S} {e : BoardEvent E} (hb : Armed b.chip.rtc2)
    (h : step F b e = some b') (hserve : act F b e = .serve) : elapsed b.chip.rtc2 = period := by
  cases e with
  | cycle => exact absurd hserve (by simp [act])
  | interrupt => exact hb.irq_iff.mp (step_interrupt hb h).1
  | app e =>
    simp only [act] at hserve
    split at hserve
    · exact absurd hserve (by simp)
    · exact absurd hserve (by simp)

def sampler (F : Firmware S E) : Device (Fires (step F)) period where
  Inv b := Armed b.chip.rtc2
  elapsed b := elapsed b.chip.rtc2
  act := act F
  inv hb h := (step_armed hb h).1
  law hb h := (step_armed hb h).2
  due hb h hserve := elapsed_of_serve hb h hserve

section Runs

variable {app : S} {es : List (BoardEvent E)} {b : Board S} {t : Tally}

theorem run_armed (h : Run (Fires (step F)) (powerUp app) es b) : Armed (b.chip 2) :=
  (sampler F).run_inv h setUp_armed.1

def Firmware.project (F : Firmware S E) : BoardEvent E → Option E
  | .cycle => none
  | .interrupt => some (F.rtcInterrupt 0 true)
  | .app e => some e

/-- On the board the firmware runs as it does on its own, with every interrupt
one that the driver confirms. -/
theorem run_app (h : Run (Fires (step F)) (powerUp app) es b) :
    Run (Fires F.step) app (es.filterMap F.project) b.app := by
  refine Run.history (P := fun es b => Run (Fires F.step) app (es.filterMap F.project) b.app) h
    .nil ?_
  intro es b e b' hr ih hs
  rw [List.filterMap_append]
  cases e with
  | cycle =>
    obtain rfl := Option.some.inj hs
    have hnone : [BoardEvent.cycle].filterMap F.project = [] := rfl
    rw [hnone, List.append_nil]
    exact ih
  | interrupt => exact .concat ih (step_interrupt (run_armed hr) hs).2.1
  | app e => exact .concat ih (step_app hs).2.1

theorem run_ticks (h : Run (sampler F).Tallied (powerUp app, .zero) es (b, t)) :
    t.ticks = es.countP BoardEvent.isCycle ∧ t.served = es.countP BoardEvent.isInterrupt := by
  refine Run.history (P := fun es q => q.2.ticks = es.countP BoardEvent.isCycle ∧
    q.2.served = es.countP BoardEvent.isInterrupt) h ⟨rfl, rfl⟩ ?_
  rintro es ⟨b, t⟩ e ⟨b', t'⟩ - ⟨hticks, hserved⟩ ⟨-, ht⟩
  obtain rfl : t' = t.add period (elapsed (b.chip 2)) (act F b e) := ht
  simp only [List.countP_append, ← hticks, ← hserved]
  cases e with
  | cycle | interrupt => exact ⟨rfl, rfl⟩
  | app e =>
    unfold act
    dsimp only
    split <;> exact ⟨rfl, rfl⟩

theorem run_schedule (h : Run (sampler F).Tallied (powerUp app, .zero) es (b, t)) :
    es.countP BoardEvent.isCycle =
      period * es.countP BoardEvent.isInterrupt + t.waited + t.lost + elapsed (b.chip 2) := by
  have hinv : (sampler F).Inv (powerUp app) := setUp_armed.1
  have hbalance := Device.run_balanced hinv setUp_armed.2 h
  obtain ⟨hticks, hserved⟩ := run_ticks h
  rw [← hticks, ← hserved]
  exact hbalance.ticks

/-- In every run of a board, with reboots at any time and interrupts served with
any delay: every clock cycle belongs to one of the served periods of four
seconds, passed while an interrupt was waiting, was lost in a reboot, or is one
of those since the counter was last armed; and an interrupt is asked for exactly
when these are a whole period. -/
theorem sampling_schedule (h : Run (sampler F).Tallied (powerUp app, .zero) es (b, t)) :
    es.countP BoardEvent.isCycle =
        period * es.countP BoardEvent.isInterrupt + t.waited + t.lost + elapsed (b.chip 2) ∧
      elapsed (b.chip 2) ≤ period ∧ ((b.chip 2).irq = true ↔ elapsed (b.chip 2) = period) := by
  have harmed := run_armed (Device.run_of_tallied h)
  exact ⟨run_schedule h, harmed.elapsed_le, harmed.irq_iff⟩

/-- Where only the interrupt adds to a count, and at most one, the count grows by
one in four seconds at most. -/
theorem run_rate (count : S → ℕ) (h0 : count app = 0)
    (hstep : ∀ s e s', F.step s e = some s' →
      count s' ≤ count s + if F.isRtcInterrupt e then 1 else 0)
    (h : Run (Fires (step F)) (powerUp app) es b) :
    period * count b.app ≤ es.countP BoardEvent.isCycle := by
  have hcount : count b.app ≤ es.countP BoardEvent.isInterrupt := by
    refine Run.history (P := fun es b => count b.app ≤ es.countP BoardEvent.isInterrupt) h
      h0.le ?_
    intro es b e b' hr ih hs
    rw [List.countP_append]
    cases e with
    | cycle =>
      obtain rfl := Option.some.inj hs
      exact ih
    | interrupt =>
      refine (hstep _ _ _ (step_interrupt (run_armed hr) hs).2.1).trans (Nat.add_le_add ih ?_)
      split
      · exact le_rfl
      · exact Nat.zero_le _
    | app e =>
      obtain ⟨hrtc, happ, -⟩ := step_app hs
      have hle := hstep _ _ _ happ
      rw [hrtc] at hle
      exact hle.trans ih
  -- each interrupt has a period of its own
  obtain ⟨t, ht⟩ := Device.tallied_of_run (D := sampler F) h .zero
  have hschedule := run_schedule ht
  calc period * count b.app
      ≤ period * es.countP BoardEvent.isInterrupt := Nat.mul_le_mul_left _ hcount
    _ ≤ es.countP BoardEvent.isCycle := by omega

theorem run_of_app {s₀ s : S} {es : List E} (hkeep : ∀ s s', F.rebooted s s' = false)
    (h : Run (Fires F.step) s₀ es s) (hrtc : ∀ e ∈ es, F.isRtcInterrupt e = false) (chip : Chip) :
    Run (Fires (step F)) ⟨s₀, chip⟩ (es.map .app) ⟨s, chip⟩ := by
  induction h with
  | nil => exact .nil
  | @concat es s s' e _ hs ih =>
    rw [List.map_append]
    refine .concat (ih fun e he => hrtc e (List.mem_append_left _ he)) ?_
    have he := hrtc e (by simp)
    have hs' : F.step s e = some s' := hs
    simp [Fires, step, he, hs', hkeep]

/-- Cycles alone: the count goes on to the period and stays there. -/
theorem run_cycles (b : Board S) (n : ℕ) (hb : Armed (b.chip 2)) :
    ∃ b', Run (Fires (step F)) b (List.replicate n .cycle) b' ∧ b'.app = b.app ∧
      Armed (b'.chip 2) ∧ elapsed (b'.chip 2) = min period (elapsed (b.chip 2) + n) := by
  induction n with
  | zero => exact ⟨b, .nil, rfl, hb, (min_eq_right hb.elapsed_le).symm⟩
  | succ n ih =>
    obtain ⟨b', hr, happ, harmed, hn⟩ := ih
    refine ⟨⟨b'.app, b'.chip.cycle⟩, ?_, happ, harmed.cycle.1, ?_⟩
    · rw [List.replicate_succ']
      exact .concat hr rfl
    · show elapsed (b'.chip 2).cycle = _
      rw [harmed.cycle.2, hn]
      omega

/-- Sampling never stops: from every state that a board can reach, `n` clock
cycles with nothing between them lead to an interrupt exactly when they fill the
period up, and its service hands the firmware a confirmed compare event and
starts the next period. -/
theorem next_interrupt (h : Run (Fires (step F)) (powerUp app) es b) (n : ℕ) :
    ∃ b', Run (Fires (step F)) b (List.replicate n .cycle) b' ∧ b'.app = b.app ∧
      ((b'.chip 2).irq = true ↔ period ≤ elapsed (b.chip 2) + n) ∧
      (period ≤ elapsed (b.chip 2) + n →
        step F b' .interrupt =
            (F.step b.app (F.rtcInterrupt 0 true)).map (⟨·, rearm b'.chip⟩) ∧
          elapsed (rearm b'.chip 2) = 0) := by
  obtain ⟨b', hr, happ, harmed, hn⟩ := run_cycles (F := F) b n (run_armed h)
  have hirq : (b'.chip 2).irq = true ↔ period ≤ elapsed (b.chip 2) + n := by
    rw [harmed.irq_iff, hn]
    omega
  refine ⟨b', hr, happ, hirq, fun hdue => ⟨?_, (rearm_armed harmed).2⟩⟩
  rw [← happ, ← rtc2Isr_of_irq harmed (hirq.mpr hdue)]
  exact if_pos (hirq.mpr hdue)

end Runs

end Board

def endDevice (cfg : EndDevice.Config) : Firmware EndDevice.State EndDevice.Event where
  step := EndDevice.step cfg
  rtcInterrupt := .rtcInterrupt
  isRtcInterrupt
    | .rtcInterrupt _ _ => true
    | _ => false
  rebooted s s' :=
    decide (s.log.countP EndDevice.Entry.isPowerUp < s'.log.countP EndDevice.Entry.isPowerUp)

def lightSwitch : Firmware LightSwitch.State LightSwitch.Event where
  step := LightSwitch.step
  rtcInterrupt := .rtcInterrupt
  isRtcInterrupt
    | .rtcInterrupt _ _ => true
    | _ => false
  rebooted _ _ := false

section Reports

variable {cfg : EndDevice.Config} {answers : ℕ → Bmp180.Answer}

theorem compares_step {s s' : EndDevice.State} {e : EndDevice.Event}
    (h : EndDevice.step cfg s e = some s') :
    s'.log.count .rtcCompare ≤
      s.log.count .rtcCompare + if (endDevice cfg).isRtcInterrupt e then 1 else 0 := by
  cases EndDevice.step_effect h with
  | idle _ hidle =>
    have hcount := (EndDevice.counts_idle hidle.log).2
    omega
  | reboot answers _ => simp [EndDevice.boot]
  | compare hlog => simp [hlog, endDevice, List.count_append]
  | signal _ hl hlog =>
    have hcount := (EndDevice.counts_idle hl).2
    obtain hlog | ⟨-, hlog⟩ := hlog
    all_goals
      rw [hlog]
      simp [List.count_append] at hcount ⊢
      omega
  | readFailed _ _ hlog => simp [hlog, List.count_append]
  | write _ _ _ hlog => simp [hlog, List.count_append]
  | confirm _ hlog => simp [hlog, List.count_append]

/-- The end device sends at most one report in four seconds: in every run of its
board, reboots included, there are at most as many write requests as whole
periods have passed. -/
theorem report_rate {es : List (BoardEvent EndDevice.Event)} {b : Board EndDevice.State}
    (h : Run (Fires (step (endDevice cfg))) (powerUp (EndDevice.boot cfg answers [])) es b) :
    period * b.app.log.countP EndDevice.Entry.isWrite ≤ es.countP BoardEvent.isCycle := by
  have hwrites := (EndDevice.run_accounted (run_app h)).writes
  have hrate := run_rate (fun s => s.log.count .rtcCompare) rfl
    (fun _ _ _ => compares_step) h
  exact (Nat.mul_le_mul_left _ (by omega)).trans hrate

end Reports

def productionBoard : Board EndDevice.State :=
  powerUp (EndDevice.boot .production EndDevice.Env.working.answers [])

def fourSeconds : List (BoardEvent EndDevice.Event) :=
  List.replicate period .cycle ++ [.interrupt]

theorem run_fourSeconds {b : Board EndDevice.State} (hb : Armed (b.chip 2)) :
    ∃ chip, Run (Fires (step (endDevice .production))) b fourSeconds
      ⟨EndDevice.rtc2Isr b.app 0 true, chip⟩ := by
  obtain ⟨b', hr, happ, harmed, hn⟩ := run_cycles (F := endDevice .production) b period hb
  have hirq : (b'.chip 2).irq = true := by
    rw [harmed.irq_iff, hn]
    omega
  refine ⟨rearm b'.chip, .concat hr ?_⟩
  rw [Fires, step, if_pos hirq, rtc2Isr_of_irq harmed hirq, happ]
  rfl

theorem sampling_schedule_fourSeconds :
    ∃ b t, Run (sampler (endDevice .production)).Tallied (productionBoard, .zero) fourSeconds
        (b, t) ∧
      fourSeconds.countP BoardEvent.isCycle =
        period * fourSeconds.countP BoardEvent.isInterrupt + t.waited + t.lost +
          elapsed (b.chip 2) ∧
      elapsed (b.chip 2) ≤ period ∧ ((b.chip 2).irq = true ↔ elapsed (b.chip 2) = period) := by
  obtain ⟨chip, hr⟩ := run_fourSeconds (b := productionBoard) setUp_armed.1
  obtain ⟨t, ht⟩ := Device.tallied_of_run (D := sampler (endDevice .production)) hr .zero
  exact ⟨_, t, ht, sampling_schedule ht⟩

theorem next_interrupt_powerUp :
    ∃ b', Run (Fires (step (endDevice .production))) productionBoard
        (List.replicate period .cycle) b' ∧ b'.app = productionBoard.app ∧
      ((b'.chip 2).irq = true ↔ period ≤ elapsed (productionBoard.chip 2) + period) ∧
      (period ≤ elapsed (productionBoard.chip 2) + period →
        step (endDevice .production) b' .interrupt =
            ((endDevice .production).step productionBoard.app
              ((endDevice .production).rtcInterrupt 0 true)).map (⟨·, rearm b'.chip⟩) ∧
          elapsed (rearm b'.chip 2) = 0) :=
  next_interrupt (F := endDevice .production) (.nil : Run _ productionBoard [] _) period

def joinedBoard : Board EndDevice.State :=
  ⟨EndDevice.zbossSignalHandler .production (productionBoard.app.emit (.signal .steering 0 5))
    .working .steering 0 5, productionBoard.chip⟩

def oneReport : List (BoardEvent EndDevice.Event) :=
  [.app (.signal .steering 0 5 .working)] ++ fourSeconds ++
    [.app .work, .app (.callback .working), .app (.grant 7 0 .working)]

theorem step_of_endDevice {cfg : EndDevice.Config} {s s' : EndDevice.State} {e : EndDevice.Event}
    (hrtc : (endDevice cfg).isRtcInterrupt e = false) (h : EndDevice.step cfg s e = some s')
    (hlog : s'.log.countP EndDevice.Entry.isPowerUp = s.log.countP EndDevice.Entry.isPowerUp)
    (chip : Chip) : Fires (step (endDevice cfg)) ⟨s, chip⟩ (.app e) ⟨s', chip⟩ := by
  have hkeep : (endDevice cfg).rebooted s s' = false := by
    simp [endDevice, hlog]
  have hstep : (endDevice cfg).step s e = some s' := h
  simp [Fires, step, hrtc, hstep, hkeep]

theorem run_oneReport :
    ∃ b, Run (Fires (step (endDevice .production))) productionBoard oneReport b ∧
      b.app.log.countP EndDevice.Entry.isWrite = 1 := by
  have hjoin : Run (Fires (step (endDevice .production))) productionBoard
      [.app (.signal .steering 0 5 .working)] joinedBoard := .concat .nil rfl
  obtain ⟨chip, hperiod⟩ := run_fourSeconds (b := joinedBoard) setUp_armed.1
  obtain ⟨s₁, hwork, s₂, hcallback, s₃, hgrant, h₁, h₂, h₃, hcount⟩ : ∃ s₁,
      EndDevice.step .production (EndDevice.rtc2Isr joinedBoard.app 0 true) .work = some s₁ ∧ ∃ s₂,
      EndDevice.step .production s₁ (.callback .working) = some s₂ ∧ ∃ s₃,
      EndDevice.step .production s₂ (.grant 7 0 .working) = some s₃ ∧
      s₁.log.countP EndDevice.Entry.isPowerUp = 1 ∧ s₂.log.countP EndDevice.Entry.isPowerUp = 1 ∧
      s₃.log.countP EndDevice.Entry.isPowerUp = 1 ∧ s₃.log.countP EndDevice.Entry.isWrite = 1 :=
    ⟨_, rfl, _, rfl, _, rfl, by decide, by decide, by decide, by decide⟩
  have hr := hjoin.append hperiod
  have hr₁ := hr.concat (step_of_endDevice rfl hwork (h₁.trans (by decide)) chip)
  have hr₂ := hr₁.concat (step_of_endDevice rfl hcallback (h₂.trans h₁.symm) chip)
  have hr₃ := hr₂.concat (step_of_endDevice rfl hgrant (h₃.trans h₂.symm) chip)
  have hes : oneReport = [.app (.signal .steering 0 5 .working)] ++ fourSeconds ++
      [.app .work] ++ [.app (.callback .working)] ++ [.app (.grant 7 0 .working)] := by
    simp [oneReport]
  rw [← hes] at hr₃
  exact ⟨_, hr₃, hcount⟩

theorem report_rate_oneReport :
    ∃ b, Run (Fires (step (endDevice .production))) productionBoard oneReport b ∧
      b.app.log.countP EndDevice.Entry.isWrite = 1 ∧
      period * b.app.log.countP EndDevice.Entry.isWrite ≤
        oneReport.countP BoardEvent.isCycle := by
  obtain ⟨b, hr, hcount⟩ := run_oneReport
  exact ⟨b, hr, hcount, report_rate hr⟩

end ZigbeeGateway.SamplingClock
