import ZigbeeGateway.Histories

namespace ZigbeeGateway.OneShotTimer
open Histories

/-- What can be told of a timer: the ticks it has left (`none` while it is
stopped), how often the device has been powered up, and how often the timer has
been initialised while it was running. -/
structure Timing where
  left : Option ℕ
  powerUps : ℕ
  faults : ℕ

/-- What an event means for the timer; a `reboot` is one that the timer has no
part in. -/
inductive Act
  | idle
  | start
  | tick
  | reboot
  deriving DecidableEq

def Timing.act (d : ℕ) (t : Timing) : Act → Timing
  | .idle => t
  | .start => ⟨some d, t.powerUps, t.faults + if t.left.isSome then 1 else 0⟩
  | .tick =>
    match t.left with
    | none => t
    | some n => if n ≤ 1 then ⟨none, t.powerUps + 1, t.faults⟩ else { t with left := some (n - 1) }
  | .reboot => ⟨none, t.powerUps + 1, t.faults⟩

def Timing.safe (t : Timing) : Act → Bool
  | .start | .reboot => t.left.isNone
  | _ => true

/-- The ticks since the first start after the last power-up, once an event has
led from `t` to `t'`. -/
def stopwatch (t t' : Timing) (a : Act) (elapsed : Option ℕ) : Option ℕ :=
  if t.powerUps < t'.powerUps then none
  else
    match a with
    | .start => some (elapsed.getD 0)
    | .tick => elapsed.map (· + 1)
    | _ => elapsed

/-- No running timer has been initialised, and after a start the device reboots
with the `d`-th tick and with nothing else. -/
structure OnTime (d : ℕ) (t t' : Timing) (a : Act) (elapsed : Option ℕ) : Prop where
  faults : t'.faults = 0
  reboot : ∀ n, elapsed = some n → (t.powerUps < t'.powerUps ↔ a = .tick ∧ n + 1 = d)

structure InStep (d : ℕ) (t : Timing) (elapsed : Option ℕ) : Prop where
  left : t.left = elapsed.map (d - ·)
  faults : t.faults = 0
  lt : ∀ n, elapsed = some n → n < d

variable {d : ℕ} {t : Timing} {a : Act} {elapsed : Option ℕ}

/-- The last tick of the delay reboots the device, the others count down. -/
theorem act_tick_of_some {n : ℕ} (hi : InStep d t (some n)) :
    t.act d .tick = if n + 1 = d then ⟨none, t.powerUps + 1, 0⟩
      else ⟨some (d - (n + 1)), t.powerUps, 0⟩ := by
  have hlt := hi.lt n rfl
  have hleft : t.left = some (d - n) := hi.left
  simp only [Timing.act, hleft, hi.faults]
  by_cases hlast : n + 1 = d
  · rw [if_pos hlast, if_pos (by omega)]
  · rw [if_neg hlast, if_neg (by omega), Nat.sub_sub]

theorem act_tick_of_none (hi : InStep d t none) : t.act d .tick = t := by
  have hleft : t.left = none := hi.left
  simp only [Timing.act, hleft]

theorem onTime_iff (hi : InStep d t elapsed) (a : Act) :
    OnTime d t (t.act d a) a elapsed ↔ t.safe a = true := by
  cases a with
  | idle => exact iff_of_true ⟨hi.faults, by simp [Timing.act]⟩ rfl
  | tick =>
    refine iff_of_true ?_ rfl
    cases elapsed with
    | none => exact ⟨by rw [act_tick_of_none hi, hi.faults], by simp⟩
    | some n =>
      rw [act_tick_of_some hi]
      split
      · rename_i hlast
        exact ⟨rfl, by simp [hlast]⟩
      · rename_i hlast
        exact ⟨rfl, by simp [hlast]⟩
  | start =>
    constructor
    · intro h
      -- a running timer would have been initialised
      have hfaults : t.faults + (if t.left.isSome then 1 else 0) = 0 := h.faults
      simpa [Timing.safe, hi.faults] using hfaults
    · intro h
      have hnone : t.left = none := by simpa [Timing.safe] using h
      exact ⟨by simp [Timing.act, hnone, hi.faults], by simp [Timing.act]⟩
  | reboot =>
    cases elapsed with
    | none =>
      have hnone : t.left = none := hi.left
      exact iff_of_true ⟨hi.faults, by simp⟩ (by simp [Timing.safe, hnone])
    | some n =>
      have hsome : t.left = some (d - n) := hi.left
      refine iff_of_false ?_ (by simp [Timing.safe, hsome])
      intro h
      have htick := ((h.reboot n rfl).mp (Nat.lt_succ_self _)).1
      exact absurd htick (by decide)

/-- A safe event keeps the timer and the stopwatch in step. -/
theorem InStep.act (hi : InStep d t elapsed) (hd : 0 < d) (hsafe : t.safe a = true) :
    InStep d (t.act d a) (stopwatch t (t.act d a) a elapsed) := by
  cases a with
  | idle => simpa [Timing.act, stopwatch] using hi
  | tick =>
    cases elapsed with
    | none => simpa [act_tick_of_none hi, stopwatch] using hi
    | some n =>
      have hlt := hi.lt n rfl
      rw [act_tick_of_some hi]
      split
      · exact ⟨by simp [stopwatch], rfl, by simp [stopwatch]⟩
      · refine ⟨by simp [stopwatch], rfl, ?_⟩
        simp only [stopwatch, lt_irrefl, if_false, Option.map_some, Option.some.injEq]
        omega
  | start =>
    -- a safe start finds the timer stopped
    have hnone : t.left = none := by simpa [Timing.safe] using hsafe
    obtain rfl : elapsed = none := Option.map_eq_none_iff.mp (hi.left.symm.trans hnone)
    exact ⟨by simp [Timing.act, stopwatch], by simp [Timing.act, hnone, hi.faults],
      by simpa [Timing.act, stopwatch] using hd⟩
  | reboot => exact ⟨by simp [Timing.act, stopwatch], hi.faults, by simp [Timing.act, stopwatch]⟩

structure Device {S E : Type*} (R : S → E → S → Prop) (d : ℕ) where
  timing : S → Timing
  act : S → E → Act
  law : ∀ {s e s'}, R s e s' → timing s' = (timing s).act d (act s e)

namespace Device

variable {S E : Type*} {R : S → E → S → Prop} (D : Device R d)

def Clocked (p : S × Option ℕ) (e : E) (p' : S × Option ℕ) : Prop :=
  R p.1 e p'.1 ∧ p'.2 = stopwatch (D.timing p.1) (D.timing p'.1) (D.act p.1 e) p.2

def StepOnTime (p : S × Option ℕ) (e : E) (p' : S × Option ℕ) : Prop :=
  OnTime d (D.timing p.1) (D.timing p'.1) (D.act p.1 e) p.2

def safe (p : S × Option ℕ) (e : E) : Bool := (D.timing p.1).safe (D.act p.1 e)

def OnTimeRun (s₀ : S) (es : List E) (p : S × Option ℕ) : Prop :=
  Run (fun p e p' => D.Clocked p e p' ∧ D.StepOnTime p e p') (s₀, none) es p

def SafeRun (s₀ : S) (es : List E) (p : S × Option ℕ) : Prop :=
  Run (When (fun p e => D.safe p e = true) D.Clocked) (s₀, none) es p

variable {D} {s₀ s : S} {es : List E}

theorem clocked_of_run (h : Run R s₀ es s) (elapsed : Option ℕ) :
    ∃ elapsed', Run D.Clocked (s₀, elapsed) es (s, elapsed') := by
  induction h with
  | nil => exact ⟨elapsed, .nil⟩
  | @concat es s s' e _ hs ih =>
    obtain ⟨elapsed', hr⟩ := ih
    exact ⟨stopwatch (D.timing s) (D.timing s') (D.act s e) elapsed', .concat hr ⟨hs, rfl⟩⟩

theorem exists_not_onTime {s' : S} {e : E} (h : Run R s₀ es s) (hs : R s e s')
    (hfault : (D.timing s').faults ≠ 0) :
    ∃ p p', Run D.Clocked (s₀, none) es p ∧ D.Clocked p e p' ∧ ¬ D.StepOnTime p e p' := by
  obtain ⟨elapsed, hrun⟩ := clocked_of_run h none
  exact ⟨(s, elapsed), (s', stopwatch (D.timing s) (D.timing s') (D.act s e) elapsed), hrun,
    ⟨hs, rfl⟩, fun hon => hfault hon.faults⟩

/-- The runs of a device that start with the timer stopped are on time at every
step exactly when the timer is not started again, and the device not rebooted by
other means, while it runs. -/
theorem onTimeRun_iff (hd : 0 < d) (hfaults : (D.timing s₀).faults = 0)
    (hleft : (D.timing s₀).left = none) (p : S × Option ℕ) :
    D.OnTimeRun s₀ es p ↔ D.SafeRun s₀ es p := by
  apply Run.steps_iff_of_invariant (I := fun p => InStep d (D.timing p.1) p.2)
  · exact ⟨hleft, hfaults, by simp⟩
  · intro p e p' hi hs
    rw [StepOnTime, hs.2, D.law hs.1]
    exact ⟨onTime_iff hi _, hi.act hd⟩

end Device

end ZigbeeGateway.OneShotTimer
