import ZigbeeGateway.Bmp180Math
import Mathlib.Data.Fintype.Basic
import Mathlib.Logic.Function.Basic

namespace ZigbeeGateway.MyTimer
open Bmp180

structure Timer where
  running : Bool
  bitmode : ℕ
  prescaler : ℕ
  /-- the cycles of the 16 MHz clock since the counter went up -/
  cycles : ℕ
  counter : ℕ
  cc : ℕ → ℕ

namespace Timer

/-- The reset value of `PRESCALER` is 4. -/
def reset : Timer := ⟨false, 0, 4, 0, 0, fun _ => 0⟩

def width (t : Timer) : ℕ :=
  if t.bitmode = 0 then 16 else if t.bitmode = 1 then 8 else if t.bitmode = 2 then 24 else 32

def cycle (t : Timer) : Timer :=
  if t.running then
    if t.cycles + 1 = 2 ^ t.prescaler then
      { t with counter := (t.counter + 1) % 2 ^ t.width, cycles := 0 }
    else { t with cycles := t.cycles + 1 }
  else t

def capture (t : Timer) (channel : ℕ) : Timer :=
  { t with cc := Function.update t.cc channel t.counter }

end Timer

abbrev Chip := Fin 5 → Timer

def Chip.reset : Chip := fun _ => .reset

def Chip.cycle (chip : Chip) : Chip := fun i => (chip i).cycle

/-- TIMER3 and TIMER4 have six capture registers, the others four. -/
def channels (i : Fin 5) : ℕ := if i.val < 3 then 4 else 6

def getTimerPointer : ℕ → Option (Fin 5)
  | 0 => some 0
  | 1 => some 1
  | 2 => some 2
  | 3 => some 3
  | 4 => some 4
  | _ => none

section Driver

variable (chip : Chip) (timerIdx : ℕ)

/-- The functions that check the instance only and write its registers.  A failing
`__ASSERT` stops a build with assertions; here the check behind it decides. -/
def onTimer (f : Timer → Timer) : ℤ × Chip :=
  match getTimerPointer timerIdx with
  | none => (-EINVAL, chip)
  | some i => (0, Function.update chip i (f (chip i)))

def myTimerInit (prescaler : UInt8) : ℤ × Chip :=
  -- the prescaler register has four bits
  onTimer chip timerIdx fun t => { t with bitmode := 3, prescaler := prescaler.toNat % 16 }

def myTimerStart : ℤ × Chip := onTimer chip timerIdx fun t => { t with running := true }

def myTimerStop : ℤ × Chip := onTimer chip timerIdx fun t => { t with running := false }

/-- `outValue` is what the pointer points to, `none` for NULL.  On a channel that
the timer does not have, the capture is without effect. -/
def myTimerGetValue (channel : UInt8) (outValue : Option UInt32) : ℤ × Option UInt32 × Chip :=
  match getTimerPointer timerIdx, outValue with
  | some i, some _ =>
    if 5 < channel then (-EINVAL, outValue, chip)
    else
      let t := if channel.toNat < channels i then (chip i).capture channel.toNat else chip i
      (0, some (UInt32.ofNat (t.cc channel.toNat)), Function.update chip i t)
  | _, _ => (-EINVAL, outValue, chip)

end Driver

inductive Action
  | init (timerIdx : ℕ) (prescaler : UInt8)
  | start (timerIdx : ℕ)
  | stop (timerIdx : ℕ)
  | getValue (timerIdx : ℕ) (channel : UInt8) (outValue : Option UInt32)
  | cycle

def Chip.next (chip : Chip) : Action → Chip
  | .init i prescaler => (myTimerInit chip i prescaler).2
  | .start i => (myTimerStart chip i).2
  | .stop i => (myTimerStop chip i).2
  | .getValue i channel outValue => (myTimerGetValue chip i channel outValue).2.2
  | .cycle => chip.cycle

structure Stopwatch where
  on : Bool
  /-- the cycles during which it was on -/
  elapsed : ℕ

def Stopwatch.zero : Stopwatch := ⟨false, 0⟩

def Stopwatch.next (i : ℕ) (w : Stopwatch) : Action → Stopwatch
  | .start j => if j = i then { w with on := true } else w
  | .stop j => if j = i then { w with on := false } else w
  | .cycle => if w.on then { w with elapsed := w.elapsed + 1 } else w
  | _ => w

/-- The timer counts the cycles of the stopwatch in units of `2 ^ p`, with 32 bits. -/
structure Shows (p : ℕ) (w : Stopwatch) (t : Timer) : Prop where
  running : t.running = w.on
  bitmode : t.bitmode = 3
  prescaler : t.prescaler = p
  cycles : t.cycles = w.elapsed % 2 ^ p
  counter : t.counter = w.elapsed / 2 ^ p % 2 ^ 32

/-- One more than a number, in units of `q`. -/
theorem succ_divMod {q : ℕ} (hq : 0 < q) (n : ℕ) :
    if n % q + 1 = q then (n + 1) / q = n / q + 1 ∧ (n + 1) % q = 0
    else (n + 1) / q = n / q ∧ (n + 1) % q = n % q + 1 := by
  have hn := Nat.mod_add_div n q
  have hlt := Nat.mod_lt n hq
  split <;> rw [Nat.div_mod_unique hq]
  · rw [Nat.mul_succ]
    omega
  · omega

theorem getTimerPointer_cases (j : ℕ) :
    getTimerPointer j = none ∧ 5 ≤ j ∨ ∃ i, getTimerPointer j = some i ∧ i.val = j := by
  match j with
  | 0 => exact .inr ⟨0, rfl, rfl⟩
  | 1 => exact .inr ⟨1, rfl, rfl⟩
  | 2 => exact .inr ⟨2, rfl, rfl⟩
  | 3 => exact .inr ⟨3, rfl, rfl⟩
  | 4 => exact .inr ⟨4, rfl, rfl⟩
  | n + 5 => exact .inl ⟨rfl, Nat.le_add_left 5 n⟩

theorem getTimerPointer_val (i : Fin 5) : getTimerPointer i.val = some i := by
  obtain ⟨-, h⟩ | ⟨j, hj, hval⟩ := getTimerPointer_cases i.val
  · omega
  · rw [hj, Fin.ext hval]

section Step

variable {chip : Chip} {i : Fin 5}

theorem onTimer_self (chip : Chip) (i : Fin 5) (f : Timer → Timer) :
    onTimer chip i.val f = (0, Function.update chip i (f (chip i))) := by
  rw [onTimer, getTimerPointer_val]

theorem onTimer_other {j : ℕ} (hj : j ≠ i.val) (f : Timer → Timer) :
    (onTimer chip j f).2 i = chip i := by
  unfold onTimer
  obtain ⟨h, -⟩ | ⟨k, h, hk⟩ := getTimerPointer_cases j
  · rw [h]
  · rw [h]
    apply Function.update_of_ne
    rintro rfl
    exact hj hk.symm

theorem getValue_eq (chip : Chip) (i : Fin 5) {channel : UInt8} (h : channel.toNat < channels i)
    (v : UInt32) :
    myTimerGetValue chip i.val channel (some v) =
      (0, some (UInt32.ofNat (chip i).counter),
        Function.update chip i ((chip i).capture channel.toNat)) := by
  have hle : ¬5 < channel := by
    have hmax : channels i ≤ 6 := by
      unfold channels
      split <;> omega
    rw [UInt8.lt_iff_toNat_lt]
    show ¬5 < channel.toNat
    omega
  simp [myTimerGetValue, getTimerPointer_val, hle, h, Timer.capture]

theorem getValue_next (chip : Chip) (i : Fin 5) (j : ℕ) (channel : UInt8)
    (outValue : Option UInt32) :
    ∃ cc, chip.next (.getValue j channel outValue) i = { chip i with cc := cc } := by
  simp only [Chip.next, myTimerGetValue]
  obtain ⟨h, -⟩ | ⟨k, h, -⟩ := getTimerPointer_cases j
  · rw [h]
    exact ⟨_, rfl⟩
  · rw [h]
    cases outValue with
    | none => exact ⟨_, rfl⟩
    | some v =>
      dsimp only
      split
      · exact ⟨_, rfl⟩
      · -- a capture writes its own timer only, and there only a capture register
        by_cases hk : i = k
        · subst hk
          simp only [Function.update_self]
          split <;> exact ⟨_, rfl⟩
        · simp only [Function.update_of_ne hk]
          exact ⟨_, rfl⟩

theorem Shows.cycle {p : ℕ} {w : Stopwatch} {t : Timer} (h : Shows p w t) :
    Shows p (w.next i .cycle) t.cycle := by
  have hwidth : t.width = 32 := by simp [Timer.width, h.bitmode]
  unfold Timer.cycle Stopwatch.next
  rw [h.running, h.cycles, h.prescaler]
  cases hon : w.on with
  | false => exact h
  | true =>
    -- one cycle more, in units of the prescaler
    have hsucc := succ_divMod (Nat.two_pow_pos p) w.elapsed
    split at hsucc
    · rename_i hfull
      rw [if_pos rfl, if_pos rfl, if_pos hfull]
      refine ⟨rfl, h.bitmode, rfl, hsucc.2.symm, ?_⟩
      show (t.counter + 1) % 2 ^ t.width = (w.elapsed + 1) / 2 ^ p % 2 ^ 32
      rw [hsucc.1, h.counter, hwidth, Nat.mod_add_mod]
    · rename_i hpartial
      rw [if_pos rfl, if_pos rfl, if_neg hpartial]
      refine ⟨rfl, h.bitmode, rfl, hsucc.2.symm, ?_⟩
      show t.counter = (w.elapsed + 1) / 2 ^ p % 2 ^ 32
      rw [hsucc.1, h.counter]

/-- Each action but a further initialisation of the timer does to it what the
stopwatch says. -/
theorem Shows.next {p : ℕ} {w : Stopwatch} (h : Shows p w (chip i)) {act : Action}
    (hact : ∀ prescaler, act ≠ .init i prescaler) :
    Shows p (w.next i act) (chip.next act i) := by
  cases act with
  | init j prescaler =>
    have hj : j ≠ i.val := fun hj => hact prescaler (hj ▸ rfl)
    simp only [Chip.next, myTimerInit, onTimer_other hj]
    exact h
  | start j =>
    by_cases hj : j = i.val
    · subst hj
      simp only [Chip.next, myTimerStart, onTimer_self, Function.update_self, Stopwatch.next]
      exact ⟨rfl, h.bitmode, h.prescaler, h.cycles, h.counter⟩
    · simp only [Chip.next, myTimerStart, onTimer_other hj, Stopwatch.next, if_neg hj]
      exact h
  | stop j =>
    by_cases hj : j = i.val
    · subst hj
      simp only [Chip.next, myTimerStop, onTimer_self, Function.update_self, Stopwatch.next]
      exact ⟨rfl, h.bitmode, h.prescaler, h.cycles, h.counter⟩
    · simp only [Chip.next, myTimerStop, onTimer_other hj, Stopwatch.next, if_neg hj]
      exact h
  | getValue j channel outValue =>
    obtain ⟨cc, hcc⟩ := getValue_next chip i j channel outValue
    rw [hcc]
    exact ⟨h.running, h.bitmode, h.prescaler, h.cycles, h.counter⟩
  | cycle => exact h.cycle

theorem Shows.run {p : ℕ} {w : Stopwatch} (h : Shows p w (chip i)) {acts : List Action}
    (hacts : ∀ prescaler, .init i prescaler ∉ acts) :
    Shows p (acts.foldl (Stopwatch.next i) w) (acts.foldl Chip.next chip i) := by
  induction acts generalizing chip w with
  | nil => exact h
  | cons act acts ih =>
    apply ih
    · exact h.next fun prescaler hact => hacts prescaler (hact ▸ List.mem_cons_self)
    · exact fun prescaler hmem => hacts prescaler (List.mem_cons_of_mem act hmem)

end Step

/-- A timer fresh from its reset and initialised with prescaler `p`: after any
calls and clock cycles that do not initialise it again, a reading gives the
cycles during which it was on, in units of `2 ^ p` and with 32 bits, whatever is
done to the other timers and however often it was read before. -/
theorem stopwatch (chip : Chip) (i : Fin 5) (p : UInt8) {acts : List Action} (channel : UInt8)
    (hreset : chip i = .reset) (hp : p.toNat ≤ 9)
    (hacts : ∀ prescaler, .init i prescaler ∉ acts) (hchannel : channel.toNat < channels i)
    (v : UInt32) :
    let chip' := acts.foldl Chip.next (chip.next (.init i p))
    let w := acts.foldl (Stopwatch.next i) .zero
    (myTimerGetValue chip' i channel (some v)).1 = 0 ∧
      (myTimerGetValue chip' i channel (some v)).2.1 =
        some (UInt32.ofNat (w.elapsed / 2 ^ p.toNat)) := by
  intro chip' w
  have hinit : Shows p.toNat .zero (chip.next (.init i p) i) := by
    have hp' : p.toNat % 16 = p.toNat := Nat.mod_eq_of_lt (by omega)
    simp only [Chip.next, myTimerInit, onTimer_self, Function.update_self, hreset, hp']
    exact ⟨rfl, rfl, rfl, (Nat.zero_mod _).symm, by simp [Timer.reset, Stopwatch.zero]⟩
  have hshows : Shows p.toNat w (chip' i) := hinit.run hacts
  rw [getValue_eq chip' i hchannel v, hshows.counter]
  refine ⟨rfl, congrArg some ?_⟩
  apply UInt32.toNat_inj.mp
  simp

/-- TIMER1 with a count each microsecond, stopped after 40 cycles, next to other calls. -/
theorem stopwatch_timer1 :
    let chip' := ([.start 1, .start 2] ++ List.replicate 40 .cycle ++
      [.stop 1, .getValue 1 0 (some 7), .cycle, .stop 9] : List Action).foldl Chip.next
        (Chip.reset.next (.init 1 4))
    (myTimerGetValue chip' 1 3 (some 0)).1 = 0 ∧
      (myTimerGetValue chip' 1 3 (some 0)).2.1 = some 2 :=
  stopwatch .reset 1 4 3 rfl (by decide) (by simp) (by decide) 0

end ZigbeeGateway.MyTimer
