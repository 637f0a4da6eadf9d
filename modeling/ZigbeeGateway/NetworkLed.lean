import ZigbeeGateway.ReopenSteering

namespace ZigbeeGateway.Coordinator
open CStrings PairingCommand Histories

/-- The LED is lit only while an alarm is pending that will turn it off. -/
def State.LedBacked (s : State) : Prop := s.networkLed = true → 0 < s.alarms

/-- No reopen takes the last alarm away while the LED is lit. -/
def ledSafe (s : State) (e : Event) : Bool :=
  match reopens s e with
  | none => true
  | some _ => !s.networkLed || decide (s.alarms ≠ 1)

theorem State.LedBacked.congr {s s' : State} (hs : s.LedBacked)
    (hled : s'.networkLed = s.networkLed) (halarms : s'.alarms = s.alarms) : s'.LedBacked := by
  rw [State.LedBacked, hled, halarms]
  exact hs

theorem ledBacked_off {s : State} (h : s.networkLed = false) : s.LedBacked :=
  fun hon => absurd hon (by simp [h])

/-- Every signal brings the LED up to date. -/
theorem zbossSignalHandler_ledBacked (dev : Bool) (s : State) (z : Zboss) (sig : Signal)
    (status : ℤ) (bufid : ℕ) : (zbossSignalHandler dev s z sig status bufid).LedBacked := by
  have hupdated : (updateLed (dispatchSignal dev s z sig status) z).LedBacked :=
    fun hon => of_decide_eq_true (Bool.and_eq_true_iff.mp hon).2
  unfold zbossSignalHandler
  dsimp only
  split
  · exact hupdated.congr rfl rfl
  · exact hupdated

theorem parseUartCommand_ledBacked {s : State} (hs : s.LedBacked) (line : Buffer) :
    (parseUartCommand s line).LedBacked := by
  unfold parseUartCommand
  split
  · exact hs.congr rfl rfl
  · exact hs.congr rfl rfl
  · split_ifs <;> exact hs.congr rfl rfl

theorem buttonChanged_ledBacked {s : State} (hs : s.LedBacked) (z : Zboss)
    {buttonState hasChanged : BitVec 32}
    (h : ¬buttonState &&& hasChanged &&& KEY_ZIGBEE_NETWORK_REOPEN ≠ 0) :
    (buttonChanged s z buttonState hasChanged).LedBacked := by
  unfold buttonChanged
  dsimp only
  rw [if_neg h]
  split <;> exact hs.congr rfl rfl

theorem runCallback_ledBacked {s : State} (hs : s.LedBacked) (z : Zboss) {cb : Callback}
    (h : cb ≠ .reopenSteeringCb) : (runCallback s z cb).LedBacked := by
  cases cb with
  | startIdentifying =>
    show (startIdentifying s z).LedBacked
    unfold startIdentifying
    split_ifs <;> exact hs.congr rfl rfl
  | icAddCallback =>
    show (icAddCallback s z).LedBacked
    apply hs.congr
    · simp [icAddCallback, replySteering_eq, printAddr_eq, State.printk, State.emit, State.bdbStart]
    · simp [icAddCallback, replySteering_eq, printAddr_eq, State.printk]
  | factoryResetHandler => exact hs.congr rfl rfl
  | reopenSteeringCb => exact absurd rfl h

theorem boot_ledBacked (dev : Bool) (log : List Entry) : (boot dev log).LedBacked := by
  apply ledBacked_off
  cases dev <;> rfl

theorem step_ledBacked {dev : Bool} {s s' : State} {e : Event} (hs : s.LedBacked)
    (hstep : step dev s e = some s') (h : reopens s e = none) : s'.LedBacked := by
  cases e with
  | signal sig status bufid z =>
    obtain ⟨t, -, rfl⟩ := Option.map_eq_some_iff.mp hstep
    exact zbossSignalHandler_ledBacked dev t z sig status bufid
  | uartLine line =>
    obtain rfl := Option.some.inj hstep
    exact parseUartCommand_ledBacked hs line
  | buttons buttonState hasChanged z =>
    obtain rfl := Option.some.inj hstep
    exact buttonChanged_ledBacked hs z fun hreopen => hreopen (by simpa [reopens] using h)
  | callback z =>
    obtain ⟨cb, rest, hq, rfl⟩ := step_callback hstep
    apply runCallback_ledBacked (s := { s with queue := rest }) (hs.congr rfl rfl)
    rintro rfl
    simp [reopens, hq] at h
  | alarm =>
    obtain ⟨-, rfl⟩ := step_alarm hstep
    exact ledBacked_off rfl
  | tick =>
    obtain rfl | ⟨t, rfl⟩ := step_tick hstep
    · exact boot_ledBacked dev s.log
    · exact hs.congr rfl rfl

theorem ledBacked_iff {dev : Bool} {s s' : State} {e : Event} (hs : s.LedBacked)
    (hstep : step dev s e = some s') : s'.LedBacked ↔ ledSafe s e = true := by
  unfold ledSafe
  cases hz : reopens s e with
  | none => simpa using step_ledBacked hs hstep hz
  | some z =>
    obtain ⟨halarms, hled⟩ := step_reopen hstep hz
    rw [State.LedBacked, hled, halarms]
    cases hon : s.networkLed with
    | false => simp
    | true =>
      have hpos : 0 < s.alarms := hs hon
      have hleft : 0 < s.alarms - 1 ↔ s.alarms ≠ 1 := by omega
      simp [hleft]

/-- The runs in which the LED is never lit without an alarm that will turn it off
are those in which no reopen comes while it is lit with one alarm pending. -/
theorem led_backed_iff {dev : Bool} {es : List Event} {s : State} :
    Run (fun s e s' => Fires (step dev) s e s' ∧ s'.LedBacked) (boot dev []) es s ↔
      Run (When (fun s e => ledSafe s e = true) (Fires (step dev))) (boot dev []) es s :=
  Run.through_iff_when (boot_ledBacked dev []) fun _ _ _ _ _ hs hstep => ledBacked_iff hs hstep

end ZigbeeGateway.Coordinator
