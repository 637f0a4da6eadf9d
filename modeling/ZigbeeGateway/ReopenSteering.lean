import ZigbeeGateway.Coordinator

namespace ZigbeeGateway.Coordinator
open CStrings PairingCommand Histories

def reopens (s : State) : Event → Option Zboss
  | .buttons buttonState hasChanged z =>
    if buttonState &&& hasChanged &&& KEY_ZIGBEE_NETWORK_REOPEN ≠ 0 then some z else none
  | .callback z => if s.queue.head? = some .reopenSteeringCb then some z else none
  | _ => none

/-- If the request of a reopen is refused, the pending alarms and the LED are
what they were. -/
def RefusedKept (s : State) (e : Event) (s' : State) : Prop :=
  ∀ z, reopens s e = some z → (s.alarmCancel.2.bdbStart z .steering).1 = false →
    s'.alarms = s.alarms ∧ s'.networkLed = s.networkLed

/-- No alarm is pending at a reopen, or the stack takes the request. -/
def reopenSafe (s : State) (e : Event) : Bool :=
  match reopens s e with
  | none => true
  | some z => s.alarms = 0 ∨ z.permit = true ∧ s.bdb = none

theorem reopenSteeringCb_alarms (s : State) (z : Zboss) :
    (reopenSteeringCb s z).alarms = s.alarms - 1 ∧
      (reopenSteeringCb s z).networkLed = s.networkLed := by
  rw [reopenSteeringCb, replySteering_eq]
  exact ⟨rfl, rfl⟩

theorem buttonChanged_alarms (s : State) (z : Zboss) {buttonState hasChanged : BitVec 32}
    (h : buttonState &&& hasChanged &&& KEY_ZIGBEE_NETWORK_REOPEN ≠ 0) :
    (buttonChanged s z buttonState hasChanged).alarms = s.alarms - 1 ∧
      (buttonChanged s z buttonState hasChanged).networkLed = s.networkLed := by
  unfold buttonChanged
  dsimp only
  rw [if_pos h]
  split <;> exact ⟨rfl, rfl⟩

/-- Both triggers take one alarm away and leave the LED alone, whatever the
stack answers. -/
theorem step_reopen {dev : Bool} {s s' : State} {e : Event} {z : Zboss}
    (hstep : step dev s e = some s') (h : reopens s e = some z) :
    s'.alarms = s.alarms - 1 ∧ s'.networkLed = s.networkLed := by
  cases e with
  | buttons buttonState hasChanged z' =>
    obtain rfl := Option.some.inj hstep
    exact buttonChanged_alarms s z' (Option.ite_none_right_eq_some.mp h).1
  | callback z' =>
    obtain ⟨cb, rest, hq, rfl⟩ := step_callback hstep
    have hcb : s.queue.head? = some .reopenSteeringCb := (Option.ite_none_right_eq_some.mp h).1
    obtain rfl : cb = .reopenSteeringCb := by simpa [hq] using hcb
    exact reopenSteeringCb_alarms { s with queue := rest } z'
  | signal | uartLine | alarm | tick => exact absurd h (by simp [reopens])

theorem refusedKept_iff {dev : Bool} {s s' : State} {e : Event} (hstep : step dev s e = some s') :
    RefusedKept s e s' ↔ reopenSafe s e = true := by
  unfold RefusedKept reopenSafe
  cases hz : reopens s e with
  | none => simp
  | some z =>
    obtain ⟨halarms, hled⟩ := step_reopen hstep hz
    have hrefused : (s.alarmCancel.2.bdbStart z .steering).1 = false ↔
        ¬(z.permit = true ∧ s.bdb = none) := by
      cases hp : z.permit <;> cases hb : s.bdb <;>
        simp [State.bdbStart, State.alarmCancel, hp, hb]
    have hkept : s.alarms - 1 = s.alarms ↔ s.alarms = 0 := by omega
    simp only [Option.some.injEq, forall_eq', hrefused, halarms, hled, hkept, and_true,
      decide_eq_true_eq]
    tauto

/-- The runs in which every refused reopen keeps the alarms and the LED are those
in which a reopen comes without a pending alarm or is taken by the stack. -/
theorem refused_reopen_iff {dev : Bool} {es : List Event} {s : State} :
    Run (fun s e s' => Fires (step dev) s e s' ∧ RefusedKept s e s') (boot dev []) es s ↔
      Run (When (fun s e => reopenSafe s e = true) (Fires (step dev))) (boot dev []) es s :=
  Run.steps_iff_when fun _ _ _ _ _ hstep => refusedKept_iff hstep

/-- An `ic_add` during the open window starts steering, so the `reopen` behind it
is refused, and it takes the alarm of the window away. -/
theorem reopen_loses_alarm :
    ¬∀ es s e s', Run (When (fun s e => solicited s e = true) (Fires (step false)))
        (boot false []) es s → step false s e = some s' → RefusedKept s e s' := by
  intro h
  obtain ⟨s, hs, s', hs', hkept⟩ : ∃ s, exec (restrict solicited (step false)) (boot false [])
      [.signal .deviceFirstStart 0 7 .willing, .signal .formation 0 8 .willing,
        .signal .steering 0 9 .willing, .uartLine (repeatedLine (text "ic_add ") 48),
        .callback .willing, .uartLine (text "reopen")] = some s ∧
      ∃ s', step false s (.callback .willing) = some s' ∧ s'.alarms ≠ s.alarms ∧
        reopens s (.callback .willing) = some .willing ∧
        (s.alarmCancel.2.bdbStart .willing .steering).1 = false :=
    ⟨_, rfl, _, rfl, by decide, rfl, rfl⟩
  exact hkept.1 (h _ s _ s' (run_of_exec_restrict hs) hs' _ hkept.2.1 hkept.2.2).1

end ZigbeeGateway.Coordinator
