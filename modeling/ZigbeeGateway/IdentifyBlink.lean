import ZigbeeGateway.Histories

namespace ZigbeeGateway.Identify
open Histories

inductive Board
  | coordinator
  | lightSwitch
  deriving DecidableEq

structure State where
  /-- the static of `toggle_identify_led`, of which only the parity matters -/
  blinkStatus : ℕ
  /-- the toggles in the callback queue -/
  queued : ℕ
  /-- the toggles that wait for their alarm -/
  alarms : ℕ
  /-- `IDENTIFY_LED`, on the light switch the network LED as well -/
  led : Bool

def start : State := ⟨0, 0, 0, false⟩

section Code

variable (board : Board) (s : State)

def toggleIdentifyLed : State :=
  -- the parameter is only handed on to the next toggle
  { s with
    blinkStatus := s.blinkStatus + 1
    led := decide ((s.blinkStatus + 1) % 2 ≠ 0)
    alarms := s.alarms + 1 }

/-- What `identify_cb` leaves on the LED at the end; `joined` is `ZB_JOINED()`. -/
def ledAfter (joined : Bool) : Bool :=
  match board with
  | .coordinator => false
  | .lightSwitch => joined

def identifyCb (bufid : ℕ) (joined : Bool) : State :=
  -- ZB_ALARM_ANY_PARAM cancels one alarm, and no toggle that is queued
  if bufid ≠ 0 then { s with queued := s.queued + 1 }
  else { s with alarms := s.alarms - 1, led := ledAfter board joined }

end Code

/-- The start of an identification (with a buffer) or its end, the stack running
a toggle from its queue, an alarm, or the light switch showing the state of the
network on the LED. -/
inductive Event
  | identify (bufid : ℕ) (joined : Bool)
  | callback
  | alarm
  | ledStatusUpdate (on : Bool)

def step (board : Board) (s : State) : Event → Option State
  | .identify bufid joined => some (identifyCb board s bufid joined)
  | .callback =>
    if 0 < s.queued then some (toggleIdentifyLed { s with queued := s.queued - 1 }) else none
  | .alarm =>
    if 0 < s.alarms then some (toggleIdentifyLed { s with alarms := s.alarms - 1 }) else none
  | .ledStatusUpdate on => if board = .lightSwitch then some { s with led := on } else none

def Event.isStart : Event → Bool
  | .identify bufid _ => decide (bufid ≠ 0)
  | _ => false

def shown (board : Board) (led : Bool) : Event → Bool
  | .identify bufid joined => if bufid ≠ 0 then led else ledAfter board joined
  | .ledStatusUpdate on => on
  | _ => led

section Stop

variable {board : Board} {s s' : State} {es : List Event}

/-- A toggle that is left comes sooner or later. -/
theorem exists_toggled (board : Board) (h : 0 < s.queued + s.alarms) :
    ∃ e s', Fires (step board) s e s' ∧ e.isStart = false ∧ (∀ v, shown board v e = v) ∧
      s'.led = decide ((s.blinkStatus + 1) % 2 ≠ 0) ∧ s'.blinkStatus = s.blinkStatus + 1 ∧
      0 < s'.alarms := by
  by_cases hq : 0 < s.queued
  · exact ⟨.callback, _, if_pos hq, rfl, fun _ => rfl, rfl, rfl, Nat.succ_pos _⟩
  · have ha : 0 < s.alarms := by omega
    exact ⟨.alarm, _, if_pos ha, rfl, fun _ => rfl, rfl, rfl, Nat.succ_pos _⟩

/-- Without one the LED stays as it is shown. -/
theorem run_dark (hq : s.queued = 0) (ha : s.alarms = 0) (h : Run (Fires (step board)) s es s')
    (hes : ∀ e ∈ es, e.isStart = false) : s'.led = es.foldl (shown board) s.led := by
  have hrun : (∀ e ∈ es, e.isStart = false) →
      s'.queued = 0 ∧ s'.alarms = 0 ∧ s'.led = es.foldl (shown board) s.led := by
    apply Run.history (P := fun es s' => (∀ e ∈ es, e.isStart = false) →
      s'.queued = 0 ∧ s'.alarms = 0 ∧ s'.led = es.foldl (shown board) s.led) h
    · exact fun _ => ⟨hq, ha, rfl⟩
    · intro es t e t' _ ih hstep hes
      obtain ⟨hq, ha, hled⟩ := ih fun e he => hes e (List.mem_append_left _ he)
      have he : e.isStart = false := hes e (by simp)
      rw [List.foldl_append, List.foldl_cons, List.foldl_nil, ← hled]
      -- with no toggle left there is neither a callback nor an alarm to come
      cases e with
      | identify bufid joined =>
        obtain rfl := Option.some.inj hstep
        have hbufid : ¬bufid ≠ 0 := of_decide_eq_false he
        simp [identifyCb, shown, hbufid, hq, ha]
      | callback => exact absurd hstep (by simp [Fires, step, hq])
      | alarm => exact absurd hstep (by simp [Fires, step, ha])
      | ledStatusUpdate on =>
        obtain ⟨-, h⟩ := Option.ite_none_right_eq_some.mp hstep
        obtain rfl := Option.some.inj h
        exact ⟨hq, ha, rfl⟩
  exact (hrun hes).2.2

/-- The end of an identification ends the blinking, in every run until the next
start, exactly if no toggle was in the queue and at most one waited for its
alarm. -/
theorem stop_final_iff (board : Board) (s : State) (joined : Bool) :
    (∀ es s', Run (Fires (step board)) (identifyCb board s 0 joined) es s' →
        (∀ e ∈ es, e.isStart = false) →
        s'.led = es.foldl (shown board) (ledAfter board joined)) ↔
      s.queued = 0 ∧ s.alarms ≤ 1 := by
  have hstop : identifyCb board s 0 joined =
      { s with alarms := s.alarms - 1, led := ledAfter board joined } := if_neg (by simp)
  rw [hstop]
  constructor
  · intro hdark
    by_contra hleft
    -- of two toggles in a row one shows the wrong value
    obtain ⟨e₁, s₁, h₁, hs₁, hv₁, hled₁, hblink₁, ha₁⟩ :=
      exists_toggled (s := { s with alarms := s.alarms - 1, led := ledAfter board joined }) board
        (by dsimp only; omega)
    obtain ⟨e₂, s₂, h₂, hs₂, hv₂, hled₂, -, -⟩ := exists_toggled (s := s₁) board (by omega)
    have hdark₁ := hdark _ s₁ (.concat .nil h₁) (by simpa using hs₁)
    have hdark₂ := hdark _ s₂ (.concat (.concat .nil h₁) h₂) (by simpa using ⟨hs₁, hs₂⟩)
    simp only [List.nil_append, List.foldl_append, List.foldl_cons, List.foldl_nil, hv₁, hv₂]
      at hdark₁ hdark₂
    have hsame := (hled₁.symm.trans hdark₁).trans (hled₂.symm.trans hdark₂).symm
    rw [hblink₁, decide_eq_decide] at hsame
    dsimp only at hsame
    omega
  · rintro ⟨hq, ha⟩ es s' hr hes
    have hnone : s.alarms - 1 = 0 := Nat.sub_eq_zero_of_le ha
    exact run_dark (s := { s with alarms := s.alarms - 1, led := ledAfter board joined })
      hq hnone hr hes

end Stop

def identifyingAfter (on : Bool) : Event → Bool
  | .identify bufid _ => decide (bufid ≠ 0)
  | _ => on

def identifying (es : List Event) : Bool := es.foldl identifyingAfter false

/-- A start finds no toggle left, an end finds none in the queue. -/
def orderly (s : State) : Event → Bool
  | .identify bufid _ => if bufid ≠ 0 then s.queued + s.alarms = 0 else s.queued = 0
  | _ => true

/-- Then at most one toggle is under way, none outside an identification, and
outside the LED is what was shown last. -/
theorem orderly_blinking {board : Board} {es : List Event} {s : State}
    (h : Run (When (fun s e => orderly s e = true) (Fires (step board))) start es s) :
    s.queued + s.alarms ≤ 1 ∧
      (identifying es = false →
        s.queued + s.alarms = 0 ∧ s.led = es.foldl (shown board) false) := by
  apply Run.history (P := fun es s => s.queued + s.alarms ≤ 1 ∧ (identifying es = false →
    s.queued + s.alarms = 0 ∧ s.led = es.foldl (shown board) false)) h
  · exact ⟨Nat.zero_le 1, fun _ => ⟨rfl, rfl⟩⟩
  · rintro es s e s' - ⟨hone, hdark⟩ ⟨horderly, hstep⟩
    have hon : identifying (es ++ [e]) = identifyingAfter (identifying es) e := by
      rw [identifying, List.foldl_append]
      rfl
    rw [hon, List.foldl_append, List.foldl_cons, List.foldl_nil]
    -- a toggle goes from the queue to its alarm and back, one for one
    cases e with
    | identify bufid joined =>
      obtain rfl := Option.some.inj hstep
      by_cases hbufid : bufid ≠ 0
      · simp only [orderly, if_pos hbufid, decide_eq_true_eq] at horderly
        simp only [identifyCb, if_pos hbufid, identifyingAfter]
        exact ⟨by omega, fun h => absurd hbufid (of_decide_eq_false h)⟩
      · simp only [orderly, if_neg hbufid, decide_eq_true_eq] at horderly
        simp only [identifyCb, if_neg hbufid, shown]
        exact ⟨by omega, fun _ => ⟨by omega, trivial⟩⟩
    | callback =>
      obtain ⟨hq, h⟩ := Option.ite_none_right_eq_some.mp hstep
      obtain rfl := Option.some.inj h
      refine ⟨?_, fun hoff => absurd (hdark hoff).1 (by omega)⟩
      simp only [toggleIdentifyLed]
      omega
    | alarm =>
      obtain ⟨ha, h⟩ := Option.ite_none_right_eq_some.mp hstep
      obtain rfl := Option.some.inj h
      refine ⟨?_, fun hoff => absurd (hdark hoff).1 (by omega)⟩
      simp only [toggleIdentifyLed]
      omega
    | ledStatusUpdate on =>
      obtain ⟨-, h⟩ := Option.ite_none_right_eq_some.mp hstep
      obtain rfl := Option.some.inj h
      exact ⟨hone, fun hoff => ⟨(hdark hoff).1, rfl⟩⟩

def twoIdentifications : List Event :=
  [.identify 4 true, .callback, .alarm, .alarm, .identify 0 true, .identify 6 true, .callback,
    .identify 0 true]

theorem orderly_blinking_twoIdentifications :
    ∃ s, exec (restrict orderly (step .coordinator)) start twoIdentifications = some s ∧
      s.queued + s.alarms ≤ 1 ∧ (identifying twoIdentifications = false →
        s.queued + s.alarms = 0 ∧
          s.led = twoIdentifications.foldl (shown .coordinator) false) := by
  obtain ⟨s, hs⟩ : ∃ s, exec (restrict orderly (step .coordinator)) start twoIdentifications =
      some s := ⟨_, rfl⟩
  exact ⟨s, hs, orderly_blinking (run_of_exec_restrict hs)⟩

end ZigbeeGateway.Identify
