import ZigbeeGateway.StaticAddress

namespace ZigbeeGateway.LightSwitch
open Histories

/-- What the user and the timer do with the two command buttons; `taken` is
whether the stack takes a request for a buffer then. -/
inductive Gesture
  | press (button : BitVec 32)
  /-- the timer finds the button held -/
  | hold (button : BitVec 32) (taken : Bool)
  /-- the timer finds it not held -/
  | lapse
  | release (button : BitVec 32) (taken : Bool)
  deriving DecidableEq

namespace Gesture

def asks (long : Bool) : Gesture → Option Request
  | hold button taken =>
    if taken then
      some (.lightSwitchSendStep (if button = BUTTON_ON then ZB_ZCL_LEVEL_CONTROL_STEP_MODE_UP
        else ZB_ZCL_LEVEL_CONTROL_STEP_MODE_DOWN))
    else none
  | release button taken =>
    if taken && !long then
      some (.lightSwitchSendOnOff (if button = BUTTON_ON then ZB_ZCL_CMD_ON_OFF_ON_ID
        else ZB_ZCL_CMD_ON_OFF_OFF_ID))
    else none
  | press _ | lapse => none

def longMark : Gesture → Option Bool
  | hold _ _ => some true
  | lapse | release _ _ => some false
  | press _ => none

def pressed : Gesture → Option (BitVec 32)
  | press button => some button
  | _ => none

end Gesture

/-- The timer has found the button held, and neither a release nor a button let
go has come after that. -/
def longPress (gestures : List Gesture) : Bool :=
  (latest Gesture.longMark gestures).getD false

/-- The commands that some gestures ask for, in order. -/
def commands (gestures : List Gesture) : List Request :=
  (gestures.foldl (fun p g => (p.1 ++ [g], p.2 ++ (g.asks (longPress p.1)).toList)) ([], [])).2

theorem commands_concat (gestures : List Gesture) (g : Gesture) :
    commands (gestures ++ [g]) = commands gestures ++ (g.asks (longPress gestures)).toList := by
  have hpre : ∀ l : List Gesture, (l.foldl (fun p g =>
      (p.1 ++ [g], p.2 ++ (Gesture.asks (longPress p.1) g).toList))
        (([], []) : List Gesture × List Request)).1 = l := by
    intro l
    induction l using List.reverseRecOn with
    | nil => rfl
    | append_singleton l a ih => rw [List.foldl_concat, ih]
  rw [commands, List.foldl_concat, hpre, commands]

theorem longPress_concat (gestures : List Gesture) (g : Gesture) :
    longPress (gestures ++ [g]) = g.longMark.getD (longPress gestures) := by
  rw [longPress, latest_concat, longPress]
  cases g <;> rfl

def cycle (button : BitVec 32) (holds : List Bool) (released : BitVec 32) (taken : Bool) :
    List Gesture :=
  .press button :: holds.map (.hold button) ++ [.release released taken]

theorem longPress_holds (gestures : List Gesture) (button : BitVec 32) (holds : List Bool) :
    longPress (gestures ++ .press button :: holds.map (.hold button)) =
      (longPress gestures || !holds.isEmpty) := by
  induction holds using List.reverseRecOn with
  | nil =>
    rw [List.map_nil, longPress_concat]
    simp [Gesture.longMark]
  | append_singleton holds taken _ =>
    rw [List.map_append, List.map_singleton, ← List.cons_append, ← List.append_assoc,
      longPress_concat]
    simp [Gesture.longMark]

/-- What a press asks for from its beginning to its end: one step command each
time that the button is found held, and an on/off command only if it never is. -/
theorem commands_cycle (gestures : List Gesture) (button released : BitVec 32)
    (holds : List Bool) (taken : Bool) :
    commands (gestures ++ cycle button holds released taken) =
      commands gestures ++ holds.flatMap (fun t => ((Gesture.hold button t).asks false).toList) ++
        ((Gesture.release released taken).asks (longPress gestures || !holds.isEmpty)).toList := by
  have hholds : commands (gestures ++ .press button :: holds.map (.hold button)) =
      commands gestures ++
        holds.flatMap (fun t => ((Gesture.hold button t).asks false).toList) := by
    induction holds using List.reverseRecOn with
    | nil =>
      rw [List.map_nil, commands_concat]
      rfl
    | append_singleton holds t ih =>
      rw [List.map_append, List.map_singleton, ← List.cons_append, ← List.append_assoc,
        commands_concat, ih, List.flatMap_append, List.append_assoc, List.flatMap_singleton]
      rfl
  rw [cycle, ← List.append_assoc, commands_concat, hholds, longPress_holds]

/-- The gesture in an event.  While the target is unknown the handler of the
buttons returns early. -/
def gestureOf (s : State) : Event → Option Gesture
  | .buttons buttonState hasChanged env =>
    if s.bulbCtx.shortAddr = 0xFFFF then none
    else if hasChanged = BUTTON_ON ∨ hasChanged = BUTTON_OFF then
      if buttonState = BUTTON_ON ∨ buttonState = BUTTON_OFF then some (.press buttonState)
      else if buttonState = 0 then
        some (.release hasChanged (decide (env.getOutDelayedExt = RET_OK)))
      else none
    else none
  | .alarm env =>
    if env.buttons &&& s.buttonsCtx.state ≠ 0 then
      some (.hold s.buttonsCtx.state (decide (env.getOutDelayedExt = RET_OK)))
    else some .lapse
  | _ => none

def Watched (p : State × List Gesture) (e : Event) (p' : State × List Gesture) : Prop :=
  step p.1 e = some p'.1 ∧ p'.2 = p.2 ++ (gestureOf p.1 e).toList

theorem watched_of_run {es : List Event} {s₀ s : State} (h : Run (Fires step) s₀ es s) :
    ∃ gestures, Run Watched (s₀, []) es (s, gestures) :=
  h.beside (fun s gestures e => gestures ++ (gestureOf s e).toList) []

theorem run_of_watched {es : List Event} {p₀ p : State × List Gesture}
    (h : Run Watched p₀ es p) : Run (Fires step) p₀.1 es p.1 :=
  h.of_beside fun _ _ _ hs => hs.1

def Request.isCommand : Request → Bool
  | .lightSwitchSendOnOff _ | .lightSwitchSendStep _ => true
  | _ => false

def sentCommand : Entry → Option Request
  | .onOffReq _ cmdId => some (.lightSwitchSendOnOff cmdId)
  | .stepReq _ cmdId _ _ => some (.lightSwitchSendStep cmdId)
  | _ => none

def sent (log : List Entry) : List Request := log.filterMap sentCommand

def waiting (requests : List Request) : List Request := requests.filter Request.isCommand

def ButtonsContext.after (ctx : ButtonsContext) : Gesture → ButtonsContext
  | .press button => { ctx with state := button, alarm := true }
  | .hold _ _ => { ctx with longPoll := true, alarm := true }
  | .lapse | .release _ _ => { ctx with longPoll := false, alarm := false }

/-- A press is of one of the two buttons, and the timer has to run to expire. -/
def Gesture.Fits (ctx : ButtonsContext) : Gesture → Prop
  | .press button => button = BUTTON_ON ∨ button = BUTTON_OFF
  | .hold button _ => ctx.alarm = true ∧ button = ctx.state
  | .lapse => ctx.alarm = true
  | .release button _ => button = BUTTON_ON ∨ button = BUTTON_OFF

structure Quiet (s s' : State) : Prop where
  buttons : s'.buttonsCtx = s.buttonsCtx
  sent : sent s'.log = sent s.log
  waiting : waiting s'.requests = waiting s.requests

inductive Does (s : State) (e : Event) : State → Prop
  | quiet {s' : State} : gestureOf s e = none → Quiet s s' → Does s e s'
  | gesture {s' : State} (g : Gesture) : gestureOf s e = some g → g.Fits s.buttonsCtx →
      s'.buttonsCtx = s.buttonsCtx.after g → sent s'.log = sent s.log →
      waiting s'.requests = waiting s.requests ++ (g.asks s.buttonsCtx.longPoll).toList →
      Does s e s'
  | send {s' : State} (c : Request) : gestureOf s e = none → c ∈ s.requests →
      s'.buttonsCtx = s.buttonsCtx → sent s'.log = sent s.log ++ [c] →
      s'.requests = s.requests.erase c → c.isCommand = true → Does s e s'

namespace Quiet

variable {s s' s'' : State}

theorem refl (s : State) : Quiet s s := ⟨rfl, rfl, rfl⟩

theorem trans (h : Quiet s s') (h' : Quiet s' s'') : Quiet s s'' :=
  ⟨h'.buttons.trans h.buttons, h'.sent.trans h.sent, h'.waiting.trans h.waiting⟩

theorem emit (h : Quiet s s') {e : Entry} (he : sentCommand e = none) : Quiet s (s'.emit e) := by
  refine ⟨h.buttons, ?_, h.waiting⟩
  rw [← h.sent, LightSwitch.sent, State.emit, List.filterMap_append]
  simp [he, LightSwitch.sent]

theorem release (h : Quiet s s') (bufid : ℕ) : Quiet s (s'.release bufid) := by
  unfold State.release
  split
  · exact h.emit rfl
  · exact h

theorem getOut (h : Quiet s s') (ret : ℤ) {r : Request} (hr : r.isCommand = false) :
    Quiet s (s'.getOut ret r) := by
  unfold State.getOut
  split
  · refine ⟨h.buttons, h.sent, ?_⟩
    rw [← h.waiting, LightSwitch.waiting, List.filter_append]
    simp [hr, LightSwitch.waiting]
  · exact h

theorem errorCheck (h : Quiet s s') (ret : ℤ) {k : State → State} (hk : Quiet s (k s')) :
    Quiet s (s'.errorCheck ret k) := by
  unfold State.errorCheck
  split
  · exact hk
  · exact ⟨h.buttons, h.sent, h.waiting⟩

end Quiet

section Handlers

variable (s : State) (env : Env)

theorem startIdentifying_quiet : Quiet s (startIdentifying s env) := by
  unfold startIdentifying
  have h := (Quiet.refl s).emit (e := .findingBindingTarget LIGHT_SWITCH_ENDPOINT) rfl
  split_ifs
  · exact .refl s
  · dsimp only
    split
    · exact h
    · exact h
    · exact ⟨h.buttons, h.sent, h.waiting⟩
  · exact (Quiet.refl s).emit rfl

theorem sendTemperatureCb_quiet (bufid : ℕ) : Quiet s (sendTemperatureCb s env bufid) := by
  unfold sendTemperatureCb
  split_ifs
  · exact (Quiet.refl s).emit rfl
  · have h : Quiet s { s with requestsInFlight := s.requestsInFlight ++ [bufid] } := ⟨rfl, rfl, rfl⟩
    exact h.emit rfl

theorem zbossSignalHandler_quiet (sig : Signal) (status : ℤ) (bufid : ℕ) :
    Quiet s (zbossSignalHandler s env sig status bufid) := by
  have hled : ∀ t : State, Quiet s t →
      Quiet s ((t.emit (.ledStatusUpdate bufid)).emit (.defaultSignalHandler bufid)) :=
    fun t h => (h.emit rfl).emit rfl
  have h := hled s (.refl s)
  unfold zbossSignalHandler
  cases sig with
  | deviceReboot | steering =>
    apply h.errorCheck
    apply Quiet.release
    split
    · exact ⟨h.buttons, h.sent, h.waiting⟩
    · exact h
  | leave leaveType =>
    dsimp only
    split
    · have h' := hled { s with bulbCtx := { s.bulbCtx with shortAddr := 0xFFFF } }
        ⟨rfl, rfl, rfl⟩
      exact h'.errorCheck _ (h'.release bufid)
    · exact h.errorCheck _ (h.release bufid)
  | other => exact h.errorCheck _ (h.release bufid)

theorem getOut_log (ret : ℤ) (r : Request) : (s.getOut ret r).log = s.log := by
  unfold State.getOut
  split <;> rfl

theorem getOut_buttonsCtx (ret : ℤ) (r : Request) : (s.getOut ret r).buttonsCtx = s.buttonsCtx := by
  unfold State.getOut
  split <;> rfl

theorem getOut_requests (ret : ℤ) (r : Request) :
    (s.getOut ret r).requests = s.requests ++ (if ret = RET_OK then some r else none).toList := by
  unfold State.getOut
  split
  · rfl
  · exact (List.append_nil _).symm

/-- A release of a button that was not held for long asks for its command, and
the stack takes it or the firmware stops. -/
theorem switchButtonState_release (cmdId : UInt16) :
    (switchButtonState s env 0 cmdId).buttonsCtx =
        { s.buttonsCtx with longPoll := false, alarm := false } ∧
      sent (switchButtonState s env 0 cmdId).log = sent s.log ∧
      waiting (switchButtonState s env 0 cmdId).requests = waiting s.requests ++
        (if env.getOutDelayedExt = RET_OK ∧ s.buttonsCtx.longPoll = false then
          some (Request.lightSwitchSendOnOff cmdId) else none).toList := by
  have heq : switchButtonState s env 0 cmdId =
      let s' := { s with buttonsCtx := { s.buttonsCtx with alarm := false, longPoll := false } }
      if s.buttonsCtx.longPoll = false then
        (s'.getOut env.getOutDelayedExt (.lightSwitchSendOnOff cmdId)).errorCheck
          env.getOutDelayedExt (·.getOut env.getOutDelayed .sendTemperatureCb)
      else s' := rfl
  rw [heq]
  dsimp only
  split
  case isFalse hlong =>
    exact ⟨rfl, rfl, by simp [hlong]⟩
  case isTrue hshort =>
    unfold State.errorCheck
    split
    case isTrue htaken =>
      -- the temperature report that follows is no command
      have hq := (Quiet.refl (State.getOut { s with buttonsCtx := { s.buttonsCtx with
        alarm := false, longPoll := false } } env.getOutDelayedExt
          (.lightSwitchSendOnOff cmdId))).getOut env.getOutDelayed
            (r := .sendTemperatureCb) rfl
      refine ⟨hq.buttons.trans (getOut_buttonsCtx _ _ _), ?_, ?_⟩
      · rw [hq.sent, getOut_log]
      · rw [hq.waiting, getOut_requests]
        simp [waiting, hshort, htaken, Request.isCommand]
    case isFalse hfull =>
      refine ⟨getOut_buttonsCtx _ _ _, by simp only [getOut_log], ?_⟩
      dsimp only
      rw [getOut_requests]
      simp [hfull]

end Handlers

theorem switchButtonState_does {s t : State} (env : Env) (buttonState : BitVec 32)
    {hasChanged : BitVec 32} (hq : Quiet s t) (haddr : s.bulbCtx.shortAddr ≠ 0xFFFF)
    (hbutton : hasChanged = BUTTON_ON ∨ hasChanged = BUTTON_OFF) :
    Does s (.buttons buttonState hasChanged env) (switchButtonState t env buttonState
      (if hasChanged = BUTTON_ON then ZB_ZCL_CMD_ON_OFF_ON_ID else ZB_ZCL_CMD_ON_OFF_OFF_ID)) := by
  by_cases hpress : buttonState = BUTTON_ON ∨ buttonState = BUTTON_OFF
  · refine .gesture (.press buttonState)
      (by rw [gestureOf, if_neg haddr, if_pos hbutton, if_pos hpress]) hpress ?_ ?_ ?_
    all_goals unfold switchButtonState; rw [if_pos hpress]
    · simp [State.startAlarm, hq.buttons, ButtonsContext.after]
    · exact hq.sent
    · exact hq.waiting.trans (List.append_nil _).symm
  by_cases hzero : buttonState = 0
  · subst hzero
    obtain ⟨hctx, hsent, hreq⟩ := switchButtonState_release t env
      (if hasChanged = BUTTON_ON then ZB_ZCL_CMD_ON_OFF_ON_ID else ZB_ZCL_CMD_ON_OFF_OFF_ID)
    refine .gesture (.release hasChanged (decide (env.getOutDelayedExt = RET_OK)))
      (by rw [gestureOf, if_neg haddr, if_pos hbutton, if_neg hpress, if_pos rfl])
      hbutton ?_ (hsent.trans hq.sent) ?_
    · rw [hctx, hq.buttons]
      rfl
    · rw [hreq, hq.waiting, hq.buttons]
      simp [Gesture.asks]
  · refine .quiet (by rw [gestureOf, if_neg haddr, if_pos hbutton, if_neg hpress, if_neg hzero]) ?_
    unfold switchButtonState
    rw [if_neg hpress, if_neg hzero]
    exact hq

theorem buttonHandler_does (s : State) (buttonState hasChanged : BitVec 32) (env : Env) :
    Does s (.buttons buttonState hasChanged env) (buttonHandler s env buttonState hasChanged) := by
  have hq : Quiet s ((s.emit .userInputIndicate).emit
      (.checkFactoryResetButton buttonState hasChanged)) :=
    ((Quiet.refl s).emit rfl).emit rfl
  have hother : hasChanged ≠ BUTTON_ON → hasChanged ≠ BUTTON_OFF →
      gestureOf s (.buttons buttonState hasChanged env) = none := by
    intro hon hoff
    simp [gestureOf, hon, hoff]
  unfold buttonHandler
  dsimp only
  split_ifs with haddr hon hoff
  · refine .quiet ?_ (hq.emit rfl)
    have haddr' : s.bulbCtx.shortAddr = 0xFFFF := haddr
    simp [gestureOf, haddr']
  · have h := switchButtonState_does env buttonState hq haddr (.inl hon)
    rwa [if_pos hon] at h
  · have h := switchButtonState_does env buttonState hq haddr (.inr hoff)
    rwa [if_neg hon] at h
  · exact .quiet (hother hon hoff) hq
  · exact .quiet (hother hon hoff) hq
  · exact .quiet (hother hon hoff) ⟨hq.buttons, hq.sent, hq.waiting⟩
  · exact .quiet (hother hon hoff) hq

theorem lightSwitchButtonHandler_does {s : State} (halarm : s.buttonsCtx.alarm = true)
    (env : Env) :
    Does s (.alarm env) (lightSwitchButtonHandler
      { s with buttonsCtx := { s.buttonsCtx with alarm := false } } env) := by
  unfold lightSwitchButtonHandler
  dsimp only
  split
  case isTrue hheld =>
    refine .gesture (.hold s.buttonsCtx.state (decide (env.getOutDelayedExt = RET_OK)))
      (by rw [gestureOf, if_pos hheld]) ⟨halarm, rfl⟩ ?_ ?_ ?_
    · simp [State.startAlarm, getOut_buttonsCtx, ButtonsContext.after]
    · simp [State.startAlarm, getOut_log]
    · simp only [State.startAlarm, getOut_requests]
      by_cases htaken : env.getOutDelayedExt = RET_OK
      all_goals simp [waiting, Gesture.asks, htaken, Request.isCommand]
  case isFalse hfree =>
    exact .gesture .lapse (by rw [gestureOf, if_neg hfree]) halarm rfl rfl
      (List.append_nil _).symm

/-- An event is one gesture, sends one command, or touches neither the buttons
nor the commands. -/
theorem step_does {s s' : State} {e : Event} (hs : s.Static) (h : step s e = some s') :
    Does s e s' := by
  obtain ⟨-, h⟩ := step_live h
  cases e with
  | signal sig status bufid env =>
    obtain ⟨-, h⟩ := Option.ite_none_left_eq_some.mp h
    obtain rfl := Option.some.inj h
    have hq := (Quiet.refl s).emit (e := .signal sig status bufid) rfl
    exact .quiet rfl (hq.trans (zbossSignalHandler_quiet _ env sig status bufid))
  | buttons buttonState hasChanged env =>
    obtain rfl := Option.some.inj h
    exact buttonHandler_does s buttonState hasChanged env
  | alarm env =>
    obtain ⟨halarm, h⟩ := Option.ite_none_right_eq_some.mp h
    obtain rfl := Option.some.inj h
    exact lightSwitchButtonHandler_does halarm env
  | findAlarm env =>
    rw [hs.dispatch_findAlarm] at h
    exact absurd h (by simp)
  | rtcInterrupt err isCompareEvent =>
    obtain rfl := Option.some.inj h
    refine .quiet rfl ?_
    unfold rtc2Isr
    split
    · have hq : Quiet s { s with rtcWorkPending := true } := ⟨rfl, rfl, rfl⟩
      exact hq.emit rfl
    · exact .refl s
  | work =>
    obtain ⟨-, h⟩ := Option.ite_none_right_eq_some.mp h
    obtain rfl := Option.some.inj h
    exact .quiet rfl ⟨rfl, rfl, rfl⟩
  | callback env =>
    obtain ⟨cb, rest, -, rfl⟩ := dispatch_callback h
    have hq : Quiet s { s with queue := rest } := ⟨rfl, rfl, rfl⟩
    cases cb with
    | startIdentifying => exact .quiet rfl (hq.trans (startIdentifying_quiet _ env))
    | zbTriggerTempReport => exact .quiet rfl (hq.getOut _ rfl)
  | grant req bufid env =>
    obtain ⟨⟨hreq, -⟩, h⟩ := Option.ite_none_right_eq_some.mp h
    obtain rfl := Option.some.inj h
    cases req with
    | lightSwitchSendOnOff | lightSwitchSendStep =>
      refine .send _ rfl hreq rfl ?_ rfl rfl
      simp [runRequest, lightSwitchSendOnOff, lightSwitchSendStep, State.emit, sent, sentCommand]
    | sendTemperatureCb =>
      have hq : Quiet s { s with requests := s.requests.erase .sendTemperatureCb } := by
        refine ⟨rfl, rfl, ?_⟩
        -- a report is no command, so no command leaves the list
        have hnot : Request.sendTemperatureCb ∉ waiting s.requests := by
          simp [waiting, Request.isCommand]
        rw [waiting, ← List.erase_filter]
        exact List.erase_of_not_mem hnot
      exact .quiet rfl (hq.trans (sendTemperatureCb_quiet _ env bufid))
    | findLightBulb => exact absurd hreq hs.requests
  | confirm bufid status =>
    obtain ⟨-, h⟩ := Option.ite_none_right_eq_some.mp h
    obtain rfl := Option.some.inj h
    have hq : Quiet s { s with requestsInFlight := s.requestsInFlight.erase bufid } :=
      ⟨rfl, rfl, rfl⟩
    have hconfirmed := hq.emit (e := .confirmed bufid status) rfl
    exact .quiet rfl (hconfirmed.emit (e := .bufFree bufid) rfl)
  | matchDescResp bufid resp =>
    rw [hs.dispatch_matchDescResp] at h
    exact absurd h (by simp)

def timing (gestures : List Gesture) : Bool :=
  match gestures.getLast? with
  | some (.press _) | some (.hold _ _) => true
  | _ => false

/-- The timer finds something only after a press, or after it has found a button
held; and the button that it finds held is the one pressed last. -/
def Gesture.Timely (g : Gesture) (pre : List Gesture) : Prop :=
  match g with
  | .press button | .release button _ => button = BUTTON_ON ∨ button = BUTTON_OFF
  | .hold button _ => timing pre = true ∧ latest Gesture.pressed pre = some button
  | .lapse => timing pre = true

theorem pressed_of_timing {gestures : List Gesture} (h : Whenever Gesture.Timely gestures)
    (ht : timing gestures = true) : ∃ button, latest Gesture.pressed gestures = some button := by
  rcases List.eq_nil_or_concat gestures with rfl | ⟨pre, g, rfl⟩
  · exact absurd ht (by decide)
  rw [List.concat_eq_append] at h ht ⊢
  have hg := ((whenever_concat _ _).mp h).2
  rw [latest_concat]
  cases g with
  | press button => exact ⟨button, rfl⟩
  | hold button taken => exact ⟨button, hg.2⟩
  | lapse | release => simp [timing] at ht

def remembered (gestures : List Gesture) : ButtonsContext :=
  ⟨(latest Gesture.pressed gestures).getD 0, longPress gestures, timing gestures⟩

theorem remembered_concat (gestures : List Gesture) (g : Gesture) :
    remembered (gestures ++ [g]) = (remembered gestures).after g := by
  unfold remembered
  rw [longPress_concat, latest_concat, timing, List.getLast?_concat]
  cases g <;> rfl

section Runs

variable {es : List Event} {s : State} {gestures : List Gesture}

theorem run_remembered (h : Run Watched (start, []) es (s, gestures)) :
    s.buttonsCtx = remembered gestures ∧ Whenever Gesture.Timely gestures := by
  refine Run.history (P := fun _ p => p.1.buttonsCtx = remembered p.2 ∧
    Whenever Gesture.Timely p.2) h ⟨rfl, whenever_nil⟩ ?_
  rintro es ⟨s, gestures⟩ e ⟨s', gestures'⟩ hr ⟨hctx, hw⟩ ⟨hstep, rfl⟩
  dsimp only at hctx hw hstep ⊢
  cases step_does (run_static (run_of_watched hr)) hstep with
  | quiet hnone hq =>
    rw [hnone, Option.toList_none, List.append_nil]
    exact ⟨hq.buttons.trans hctx, hw⟩
  | send c hnone _ hkeep _ _ _ =>
    rw [hnone, Option.toList_none, List.append_nil]
    exact ⟨hkeep.trans hctx, hw⟩
  | gesture g hg hfits hafter _ _ =>
    dsimp only at hg hfits hafter
    rw [hg, Option.toList_some, remembered_concat, whenever_concat, hafter, hctx]
    refine ⟨rfl, hw, ?_⟩
    rw [hctx] at hfits
    cases g with
    | press | release => exact hfits
    | lapse => exact hfits
    | hold button taken =>
      obtain ⟨halarm, hbutton⟩ := hfits
      -- the timer was started for a press, whose button the statics still hold
      obtain ⟨pressed, hp⟩ := pressed_of_timing hw halarm
      refine ⟨halarm, hp.trans ?_⟩
      simp [hbutton, remembered, hp]

theorem run_commands (h : Run Watched (start, []) es (s, gestures)) :
    (sent s.log ++ waiting s.requests).Perm (commands gestures) := by
  refine Run.history (P := fun _ p => (sent p.1.log ++ waiting p.1.requests).Perm
    (commands p.2)) h (.refl _) ?_
  rintro es ⟨s, gestures⟩ e ⟨s', gestures'⟩ hr ih ⟨hstep, rfl⟩
  dsimp only at ih hstep ⊢
  cases step_does (run_static (run_of_watched hr)) hstep with
  | quiet hnone hq =>
    rw [hnone, hq.sent, hq.waiting]
    simpa using ih
  | gesture g hg _ _ hsent hwait =>
    have hctx : s.buttonsCtx = remembered gestures := (run_remembered hr).1
    rw [hg, Option.toList_some, commands_concat, hsent, hwait, hctx, ← List.append_assoc]
    exact ih.append_right _
  | send c hnone hmem _ hsent hreq hcommand =>
    rw [hnone, Option.toList_none, List.append_nil]
    refine List.Perm.trans ?_ ih
    have hwait : waiting s'.requests = (waiting s.requests).erase c := by
      rw [hreq, waiting, waiting, List.erase_filter]
    rw [hsent, hwait, List.append_assoc]
    refine List.Perm.append_left _ (List.perm_cons_erase ?_).symm
    exact List.mem_filter.mpr ⟨hmem, hcommand⟩

/-- In every run, whatever the order in which presses, expiries, releases and
buffers come: the commands sent and the commands waiting are together what the
gestures asked for and the stack took, so none is lost, doubled or made up. -/
theorem commands_once (h : Run (Fires step) start es s) :
    ∃ gestures, Run Watched (start, []) es (s, gestures) ∧
      (sent s.log ++ waiting s.requests).Perm (commands gestures) := by
  obtain ⟨gestures, hw⟩ := watched_of_run h
  exact ⟨gestures, hw, run_commands hw⟩

/-- The ON button held for two expiries, then the OFF button for none; two of the
three commands are granted a buffer, the last first. -/
def dimThenOff : List Event :=
  let held : Env := { Env.working with buttons := BUTTON_ON }
  [.buttons BUTTON_ON BUTTON_ON held, .alarm held, .alarm held, .buttons 0 BUTTON_ON .working,
    .buttons BUTTON_OFF BUTTON_OFF .working, .buttons 0 BUTTON_OFF .working,
    .grant (.lightSwitchSendOnOff ZB_ZCL_CMD_ON_OFF_OFF_ID) 7 .working,
    .grant (.lightSwitchSendStep ZB_ZCL_LEVEL_CONTROL_STEP_MODE_UP) 8 .working]

theorem commands_once_dimThenOff :
    ∃ s, exec step start dimThenOff = some s ∧
      sent s.log = [.lightSwitchSendOnOff 0, .lightSwitchSendStep 0] ∧
      waiting s.requests = [.lightSwitchSendStep 0] ∧
      ∃ gestures, Run Watched (start, []) dimThenOff (s, gestures) ∧
        (sent s.log ++ waiting s.requests).Perm (commands gestures) := by
  obtain ⟨s, hs, hsent, hwait⟩ : ∃ s, exec step start dimThenOff = some s ∧
      sent s.log = [.lightSwitchSendOnOff 0, .lightSwitchSendStep 0] ∧
      waiting s.requests = [.lightSwitchSendStep 0] := ⟨_, rfl, by decide, by decide⟩
  exact ⟨s, hs, hsent, hwait, commands_once (run_of_exec hs)⟩

/-- In every run the statics of the buttons say what the gestures were, the timer
expires only for a press without a release after it, and the button that it
finds held, which decides the direction of the step, is the one pressed last. -/
theorem held_buttons (h : Run (Fires step) start es s) :
    ∃ gestures, Run Watched (start, []) es (s, gestures) ∧
      s.buttonsCtx = remembered gestures ∧ Whenever Gesture.Timely gestures := by
  obtain ⟨gestures, hw⟩ := watched_of_run h
  exact ⟨gestures, hw, run_remembered hw⟩

theorem held_buttons_dimThenOff :
    ∃ s, exec step start dimThenOff = some s ∧ s.buttonsCtx = ⟨BUTTON_OFF, false, false⟩ ∧
      ∃ gestures, Run Watched (start, []) dimThenOff (s, gestures) ∧
        s.buttonsCtx = remembered gestures ∧ Whenever Gesture.Timely gestures := by
  obtain ⟨s, hs, hctx⟩ : ∃ s, exec step start dimThenOff = some s ∧
      s.buttonsCtx = ⟨BUTTON_OFF, false, false⟩ := ⟨_, rfl, rfl⟩
  exact ⟨s, hs, hctx, held_buttons (run_of_exec hs)⟩

end Runs

end ZigbeeGateway.LightSwitch
