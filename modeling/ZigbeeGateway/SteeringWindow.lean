import ZigbeeGateway.Coordinator

namespace ZigbeeGateway.Coordinator
open CStrings InstallCode PairingCommand Histories

/-- The windows whose end is still to come: the pending alarms, and the steering
in progress that will become one. -/
def State.windows (s : State) : ℕ := s.alarms + if s.bdb = some .steering then 1 else 0

/-- No window is pending where steering is requested without cancelling its
alarm first, or the stack will refuse the request. -/
def windowSafe (s : State) : Event → Bool
  | .signal .deviceReboot status _ z =>
    status ≠ RET_OK ∨ s.alarms = 0 ∨ z.permit = false ∨ s.bdb ≠ none
  | .signal .formation status _ z =>
    status ≠ RET_OK ∨ s.alarms = 0 ∨ z.permit = false ∨ s.bdb = some .steering
  | .callback z =>
    s.queue.head? ≠ some .icAddCallback ∨ s.alarms = 0 ∨ z.permit = false ∨ s.bdb ≠ none
  | _ => true

theorem windows_congr {s s' : State} (ha : s'.alarms = s.alarms) (hb : s'.bdb = s.bdb) :
    s'.windows = s.windows := by
  rw [State.windows, ha, hb, State.windows]

theorem windows_bdbStart_formation (s : State) (z : Zboss) :
    (s.bdbStart z .formation).2.windows = s.windows := by
  cases hb : s.bdb <;> cases hp : z.permit <;> simp [State.windows, State.bdbStart, hb, hp]

/-- A steering request keeps to one window exactly when no alarm is pending or
the stack refuses it. -/
theorem windows_bdbStart_steering_iff {s : State} {z : Zboss} (hs : s.windows ≤ 1) :
    (s.bdbStart z .steering).2.windows ≤ 1 ↔
      s.alarms = 0 ∨ z.permit = false ∨ s.bdb ≠ none := by
  by_cases hok : z.permit = true ∧ s.bdb = none
  · -- the request is taken and adds a window
    obtain ⟨hp, hb⟩ := hok
    simp [State.windows, State.bdbStart, hp, hb]
  · have hbdb : (s.bdbStart z .steering).2.bdb = s.bdb := by
      cases hb : s.bdb <;> cases hp : z.permit <;> simp_all [State.bdbStart]
    have hw : (s.bdbStart z .steering).2.windows = s.windows := windows_congr rfl hbdb
    refine iff_of_true (hw.trans_le hs) (.inr ?_)
    simpa [imp_iff_not_or] using hok

/-- Cancelling leaves no alarm, so steering may be requested after it. -/
theorem windows_cancel_bdbStart {s : State} (hs : s.windows ≤ 1) (z : Zboss) :
    (s.alarmCancel.2.bdbStart z .steering).2.windows ≤ 1 := by
  have ha : s.alarms - 1 = 0 := by unfold State.windows at hs; omega
  have hw : s.alarmCancel.2.windows = if s.bdb = some .steering then 1 else 0 := by
    simp [State.windows, State.alarmCancel, ha]
  refine (windows_bdbStart_steering_iff ?_).mpr (.inl ha)
  rw [hw]
  split <;> omega

theorem windows_replySteering (r : Bool × State) : (replySteering r).windows = r.2.windows := by
  rw [replySteering_eq]
  exact windows_congr rfl rfl

theorem windows_buttonChanged {s : State} (hs : s.windows ≤ 1) (z : Zboss)
    (buttonState hasChanged : BitVec 32) :
    (buttonChanged s z buttonState hasChanged).windows ≤ 1 := by
  have hreopen : (reopenButton s z).windows ≤ 1 := windows_cancel_bdbStart hs z
  unfold buttonChanged
  dsimp only
  split_ifs
  all_goals
    rw [windows_congr (s := _) rfl rfl]
    first
      | exact hreopen
      | exact hs

theorem windows_putOff (s : State) :
    (if s.alarmCancel.1 then s.alarmCancel.2.alarmSchedule else s.alarmCancel.2).windows =
      s.windows := by
  split
  · rename_i hok
    have hpos : 0 < s.alarms := by simpa [State.alarmCancel] using hok
    have hback : s.alarmCancel.2.alarmSchedule.alarms = s.alarms := by
      show s.alarms - 1 + 1 = s.alarms
      omega
    exact windows_congr hback rfl
  · rename_i hempty
    have hzero : s.alarms = 0 := by simpa [State.alarmCancel] using hempty
    have hsame : s.alarmCancel.2.alarms = s.alarms := by
      show s.alarms - 1 = s.alarms
      omega
    exact windows_congr hsame rfl

theorem windows_dispatchSignal_iff {dev : Bool} {s : State} {z : Zboss} {sig : Signal}
    {status : ℤ} (hs : s.windows ≤ 1)
    (hsteering : sig = .steering → s.alarms = 0 ∧ s.bdb = none) :
    (dispatchSignal dev s z sig status).windows ≤ 1 ↔
      (sig = .deviceReboot ∨ sig = .formation → status = RET_OK →
        s.alarms = 0 ∨ z.permit = false ∨ s.bdb ≠ none) := by
  have hkeys : (if dev then registerStaticDevelopmentKeys s else s).alarms = s.alarms ∧
      (if dev then registerStaticDevelopmentKeys s else s).bdb = s.bdb := by
    cases dev <;> exact ⟨rfl, rfl⟩
  generalize hs' : (if dev then registerStaticDevelopmentKeys s else s) = s' at hkeys
  obtain ⟨ha, hb⟩ := hkeys
  have hw' : s'.windows ≤ 1 := (windows_congr ha hb).trans_le hs
  have hstart := windows_bdbStart_steering_iff (z := z) hw'
  rw [ha, hb] at hstart
  cases sig <;> simp only [dispatchSignal, hs']
  case deviceFirstStart =>
    refine iff_of_true ?_ (by simp)
    split
    · exact (windows_bdbStart_formation s z).trans_le hs
    · exact hs
  case deviceReboot =>
    by_cases hok : status = RET_OK
    · simpa [hok] using hstart
    · rw [if_neg hok]
      exact iff_of_true ((windows_bdbStart_formation s z).trans_le hs) fun _ h => absurd h hok
  case formation =>
    by_cases hok : status = RET_OK
    · simpa [hok] using hstart
    · rw [if_neg hok]
      exact iff_of_true hs fun _ h => absurd h hok
  case steering =>
    -- the steering in progress becomes the one alarm
    obtain ⟨h0, hnone⟩ := hsteering rfl
    refine iff_of_true ?_ (by simp)
    split
    · simp [State.windows, State.alarmSchedule, h0, hnone]
    · exact hs
  case deviceAnnce =>
    refine iff_of_true ?_ (by simp)
    exact (windows_putOff s).trans_le hs
  case other => exact iff_of_true hs (by simp)

theorem windows_zbossSignalHandler (dev : Bool) (s : State) (z : Zboss) (sig : Signal)
    (status : ℤ) (bufid : ℕ) : (zbossSignalHandler dev s z sig status bufid).windows =
      (dispatchSignal dev s z sig status).windows := by
  unfold zbossSignalHandler
  dsimp only
  split <;> exact windows_congr rfl rfl

theorem windows_runCallback_iff {s : State} {z : Zboss} {cb : Callback} (hs : s.windows ≤ 1) :
    (runCallback s z cb).windows ≤ 1 ↔
      (cb = .icAddCallback → s.alarms = 0 ∨ z.permit = false ∨ s.bdb ≠ none) := by
  cases cb with
  | startIdentifying =>
    refine iff_of_true ?_ (by simp)
    show (startIdentifying s z).windows ≤ 1
    unfold startIdentifying
    split_ifs <;> exact hs
  | icAddCallback =>
    simp only [runCallback, icAddCallback, windows_replySteering, printAddr_eq, forall_const]
    exact windows_bdbStart_steering_iff hs
  | factoryResetHandler => exact iff_of_true hs (by simp)
  | reopenSteeringCb =>
    refine iff_of_true ?_ (by simp)
    show (reopenSteeringCb s z).windows ≤ 1
    rw [reopenSteeringCb, windows_replySteering]
    exact windows_cancel_bdbStart hs z

theorem step_signal_windows_iff {dev : Bool} {s s' : State} {sig : Signal} {status : ℤ}
    {bufid : ℕ} {z : Zboss} (h : step dev s (.signal sig status bufid z) = some s')
    (hs : s.windows ≤ 1) :
    s'.windows ≤ 1 ↔ windowSafe s (.signal sig status bufid z) = true := by
  obtain ⟨t, ht, rfl⟩ := Option.map_eq_some_iff.mp h
  rw [windows_zbossSignalHandler]
  cases sig <;> simp only [deliver] at ht
  case steering =>
    split at ht
    · rename_i hb
      obtain rfl := Option.some.inj ht
      -- a steering in progress is the one window, so no alarm is pending
      have h0 : s.alarms = 0 := by
        simp only [State.emit_bdb] at hb
        simp only [State.windows, hb, if_true] at hs
        omega
      refine (windows_dispatchSignal_iff ?_ ?_).trans ?_
      · simp [State.windows, h0]
      · exact fun _ => ⟨h0, rfl⟩
      · simp [windowSafe]
    · exact absurd ht (by simp)
  case formation =>
    obtain rfl := Option.some.inj ht
    refine (windows_dispatchSignal_iff ?_ (by simp)).trans ?_
    · unfold State.windows at hs ⊢
      cases hb : s.bdb with
      | none => simpa [hb] using hs
      | some m => cases m <;> simpa [hb] using hs
    · have hbdb : (if s.bdb = some .formation then none else s.bdb) ≠ none ↔
          s.bdb = some .steering := by
        cases s.bdb with
        | none => simp
        | some m => cases m <;> simp
      show (_ → _ → s.alarms = 0 ∨ z.permit = false ∨
        (if s.bdb = some .formation then none else s.bdb) ≠ none) ↔ _
      rw [hbdb]
      simp [windowSafe, imp_iff_not_or]
  case deviceReboot =>
    obtain rfl := Option.some.inj ht
    refine (windows_dispatchSignal_iff (s := s.emit _) hs (by simp)).trans ?_
    simp [windowSafe, imp_iff_not_or]
  case deviceFirstStart | deviceAnnce | other =>
    obtain rfl := Option.some.inj ht
    refine (windows_dispatchSignal_iff (s := s.emit _) hs (by simp)).trans ?_
    simp [windowSafe]

/-- From at most one window an event leads to at most one exactly when it is
safe. -/
theorem step_windows_iff {dev : Bool} {s s' : State} {e : Event} (h : step dev s e = some s')
    (hs : s.windows ≤ 1) : s'.windows ≤ 1 ↔ windowSafe s e = true := by
  cases e with
  | signal sig status bufid z => exact step_signal_windows_iff h hs
  | uartLine line =>
    obtain rfl := Option.some.inj h
    refine iff_of_true ?_ rfl
    unfold parseUartCommand
    split
    · exact hs
    · exact hs
    · split_ifs <;> exact hs
  | buttons buttonState hasChanged z =>
    obtain rfl := Option.some.inj h
    exact iff_of_true (windows_buttonChanged hs z buttonState hasChanged) rfl
  | callback z =>
    obtain ⟨cb, rest, hq, rfl⟩ := step_callback h
    refine (windows_runCallback_iff (s := { s with queue := rest }) hs).trans ?_
    simp [windowSafe, hq, imp_iff_not_or]
  | alarm =>
    obtain ⟨-, rfl⟩ := step_alarm h
    exact iff_of_true (le_trans (Nat.add_le_add_right (Nat.sub_le _ _) _) hs) rfl
  | tick =>
    refine iff_of_true ?_ rfl
    obtain rfl | ⟨t, rfl⟩ := step_tick h
    · cases dev <;> simp [boot, State.windows, State.emit]
    · exact hs

/-- At most one alarm is pending, and its expiry leaves neither an alarm nor a
steering in progress. -/
structure OneWindow (dev : Bool) (s : State) : Prop where
  alarms : s.alarms ≤ 1
  expiry : ∀ s', step dev s .alarm = some s' → s'.alarms = 0 ∧ s'.bdb ≠ some .steering

theorem oneWindow_iff {dev : Bool} {s : State} : OneWindow dev s ↔ s.windows ≤ 1 := by
  unfold State.windows
  constructor
  · rintro ⟨hle, hexpiry⟩
    by_cases h0 : s.alarms = 0
    · rw [h0]
      split <;> omega
    · -- with an alarm pending, its expiry shows that no steering is in progress
      have hstep : step dev s .alarm = some (steeringFinished { s with alarms := s.alarms - 1 }) :=
        if_pos (by omega)
      have hb : s.bdb ≠ some .steering := (hexpiry _ hstep).2
      rw [if_neg hb]
      omega
  · intro hw
    refine ⟨by omega, ?_⟩
    intro s' hs'
    obtain ⟨hpos, rfl⟩ := step_alarm hs'
    constructor
    · show s.alarms - 1 = 0
      omega
    · show s.bdb ≠ some .steering
      intro hb
      rw [if_pos hb] at hw
      omega

/-- The runs through states with one window at most are those in which steering
is requested without cancelling the alarm only while no alarm is pending, or in
vain. -/
theorem steering_windows_iff {dev : Bool} {es : List Event} {s : State} :
    Run (fun s e s' => Fires (step dev) s e s' ∧ OneWindow dev s') (boot dev []) es s ↔
      Run (When (fun s e => windowSafe s e = true) (Fires (step dev))) (boot dev []) es s := by
  apply Run.through_iff_when (P := OneWindow dev)
  · rw [oneWindow_iff]
    cases dev <;> simp [boot, State.windows, State.emit]
  · intro es s e s' _ hs hstep
    rw [oneWindow_iff] at hs ⊢
    exact step_windows_iff hstep hs

/-- An `ic_add` during the window of the formation leaves two alarms pending. -/
theorem ic_add_during_window_two_alarms :
    ¬∀ es s, Run (When (fun s e => solicited s e = true) (Fires (step false)))
        (boot false []) es s →
      s.alarms ≤ 1 := by
  intro h
  obtain ⟨s, hs, htwo⟩ : ∃ s, exec (restrict solicited (step false)) (boot false [])
      [.signal .deviceFirstStart 0 7 .willing, .signal .formation 0 8 .willing,
        .signal .steering 0 9 .willing, .uartLine (repeatedLine (text "ic_add ") 48),
        .callback .willing, .signal .steering 0 10 .willing] = some s ∧ s.alarms = 2 :=
    ⟨_, rfl, rfl⟩
  have hone := h _ s (run_of_exec_restrict hs)
  omega

end ZigbeeGateway.Coordinator
