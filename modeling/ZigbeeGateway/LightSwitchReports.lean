import ZigbeeGateway.LightSwitchGestures
import ZigbeeGateway.SamplingClock

namespace ZigbeeGateway.LightSwitch
open Histories

def Entry.isWrite : Entry → Bool
  | .writeAttrReq _ _ => true
  | _ => false

def Entry.isOnOff : Entry → Bool
  | .onOffReq _ _ => true
  | _ => false

def Request.isOnOff : Request → Bool
  | .lightSwitchSendOnOff _ => true
  | _ => false

namespace State

def onOffs (s : State) : ℕ := s.log.countP Entry.isOnOff + s.requests.countP Request.isOnOff

/-- The reports, sent or on their way from the interrupt to the stack. -/
def reports (s : State) : ℕ :=
  s.log.countP Entry.isWrite + s.requests.count .sendTemperatureCb +
    s.queue.count .zbTriggerTempReport + s.rtcWorkPending.toNat

/-- The commands that have no report of their own, less the reports that the
clock asked for. -/
def spare (s : State) : ℤ := s.onOffs - s.reports

variable (s : State)

theorem spare_emit {e : Entry} (h : e.isWrite = false) : s.spare ≤ (s.emit e).spare := by
  simp only [spare, reports, onOffs, emit, List.countP_append, List.countP_singleton, h]
  simp only [Bool.false_eq_true, if_false]
  omega

theorem spare_release (bufid : ℕ) : s.spare ≤ (s.release bufid).spare := by
  unfold release
  split
  · exact s.spare_emit rfl
  · exact le_rfl

theorem spare_errorCheck (ret : ℤ) {k : State → State} {n : ℤ} (hs : n ≤ s.spare)
    (hk : ret = RET_OK → n ≤ (k s).spare) : n ≤ (s.errorCheck ret k).spare := by
  unfold errorCheck
  split
  · exact hk (by assumption)
  · exact hs

theorem spare_getOut (ret : ℤ) {r : Request} (h : r ≠ .sendTemperatureCb) :
    s.spare ≤ (s.getOut ret r).spare := by
  unfold getOut
  split
  · have hcount : [r].count .sendTemperatureCb = 0 := List.count_eq_zero.mpr (by simpa using h.symm)
    simp only [spare, reports, onOffs, List.countP_append, List.count_append, hcount]
    omega
  · exact le_rfl

/-- An on/off command in place of the report that is asked for with it. -/
theorem spare_getOut_onOff {ret : ℤ} (h : ret = RET_OK) (cmdId : UInt16) :
    (s.getOut ret (.lightSwitchSendOnOff cmdId)).spare = s.spare + 1 := by
  have hreport : [Request.lightSwitchSendOnOff cmdId].count .sendTemperatureCb = 0 := rfl
  have hcommand : [Request.lightSwitchSendOnOff cmdId].countP Request.isOnOff = 1 := rfl
  simp only [getOut, if_pos h, spare, reports, onOffs, List.countP_append,
    List.count_append, hreport, hcommand]
  omega

theorem spare_getOut_report (ret : ℤ) :
    s.spare ≤ (s.getOut ret .sendTemperatureCb).spare + 1 := by
  unfold getOut
  split
  · have hreport : [Request.sendTemperatureCb].count .sendTemperatureCb = 1 := rfl
    have hcommand : [Request.sendTemperatureCb].countP Request.isOnOff = 0 := rfl
    simp only [spare, reports, onOffs, List.countP_append, List.count_append, hreport,
      hcommand]
    omega
  · exact Int.le_add_one le_rfl

/-- The report after a short press is paid for by its command. -/
theorem spare_shortPress (env : Env) (cmdId : UInt16) :
    s.spare ≤ ((s.getOut env.getOutDelayedExt (.lightSwitchSendOnOff cmdId)).errorCheck
      env.getOutDelayedExt (·.getOut env.getOutDelayed .sendTemperatureCb)).spare := by
  by_cases hret : env.getOutDelayedExt = RET_OK
  · have hcommand := s.spare_getOut_onOff hret cmdId
    refine spare_errorCheck _ _ (by omega) fun _ => ?_
    have hreport :=
      (s.getOut env.getOutDelayedExt (.lightSwitchSendOnOff cmdId)).spare_getOut_report
      env.getOutDelayed
    omega
  · refine spare_errorCheck _ _ ?_ fun h => absurd h hret
    rw [getOut, if_neg hret]

end State

section Handlers

variable (s : State) (env : Env)

theorem startIdentifying_spare : s.spare ≤ (startIdentifying s env).spare := by
  unfold startIdentifying
  have h := s.spare_emit (e := .findingBindingTarget LIGHT_SWITCH_ENDPOINT) rfl
  split_ifs
  · exact le_rfl
  · dsimp only
    split <;> exact h
  · exact s.spare_emit rfl

theorem sendTemperatureCb_spare (bufid : ℕ) :
    s.spare ≤ (sendTemperatureCb s env bufid).spare + 1 := by
  unfold sendTemperatureCb
  split_ifs
  · have h := s.spare_emit (e := .bufFree bufid) rfl
    omega
  · simp only [State.spare, State.reports, State.onOffs, State.emit,
      List.countP_append, List.countP_singleton, Entry.isWrite]
    simp only [if_true]
    omega

theorem switchButtonState_spare (buttonState : BitVec 32) (cmdId : UInt16) :
    s.spare ≤ (switchButtonState s env buttonState cmdId).spare := by
  unfold switchButtonState
  dsimp only
  split_ifs with hpress hzero hshort
  · exact le_rfl
  · exact State.spare_shortPress { s with buttonsCtx :=
      { s.buttonsCtx with alarm := false, longPoll := false } } env cmdId
  · exact le_rfl
  · exact le_rfl

theorem buttonHandler_spare (buttonState hasChanged : BitVec 32) :
    s.spare ≤ (buttonHandler s env buttonState hasChanged).spare := by
  have h : s.spare ≤ ((s.emit .userInputIndicate).emit
      (.checkFactoryResetButton buttonState hasChanged)).spare :=
    (s.spare_emit rfl).trans (State.spare_emit _ rfl)
  unfold buttonHandler
  dsimp only
  split_ifs
  · exact h.trans (State.spare_emit _ rfl)
  · exact h.trans (switchButtonState_spare _ env _ _)
  · exact h.trans (switchButtonState_spare _ env _ _)
  · exact h
  · exact h
  · refine h.trans (le_of_eq ?_)
    simp [State.spare, State.reports, State.onOffs, State.schedule]
  · exact h

theorem lightSwitchButtonHandler_spare : s.spare ≤ (lightSwitchButtonHandler s env).spare := by
  unfold lightSwitchButtonHandler
  split
  · exact State.spare_getOut { s with buttonsCtx := { s.buttonsCtx with longPoll := true } } _
      (by simp)
  · exact le_rfl

theorem zbossSignalHandler_spare (sig : Signal) (status : ℤ) (bufid : ℕ) :
    s.spare ≤ (zbossSignalHandler s env sig status bufid).spare := by
  have hled : ∀ t : State, t.spare ≤
      ((t.emit (.ledStatusUpdate bufid)).emit (.defaultSignalHandler bufid)).spare :=
    fun t => (t.spare_emit rfl).trans (State.spare_emit _ rfl)
  -- a signal asks for nothing, whether the firmware stops in it or not
  have hexit : ∀ t : State, t.spare ≤ (((t.emit (.ledStatusUpdate bufid)).emit
      (.defaultSignalHandler bufid)).errorCheck env.defaultHandler (·.release bufid)).spare :=
    fun t => State.spare_errorCheck _ _ (hled t) fun _ => (hled t).trans (State.spare_release _ _)
  unfold zbossSignalHandler
  cases sig with
  | deviceReboot | steering =>
    refine State.spare_errorCheck _ _ (hled s) fun _ => ?_
    refine le_trans ?_ (State.spare_release _ _)
    split <;> exact hled s
  | leave leaveType =>
    dsimp only
    split
    · exact hexit { s with bulbCtx := { s.bulbCtx with shortAddr := 0xFFFF } }
    · exact hexit s
  | other => exact hexit s

theorem rtc2Isr_spare (err : ℤ) (isCompareEvent : Bool) :
    s.spare ≤ (rtc2Isr s err isCompareEvent).spare + 1 := by
  unfold rtc2Isr
  split
  · have hpending := Bool.toNat_le s.rtcWorkPending
    have h := State.spare_emit { s with rtcWorkPending := true } (e := .rtcRestart 32) rfl
    simp only [State.spare, State.reports, State.onOffs, Bool.toNat_true] at h ⊢
    omega
  · omega

theorem findLightBulbCb_spare (bufid : ℕ) (resp : MatchDescResp) :
    s.spare ≤ (findLightBulbCb s bufid resp).spare := by
  unfold findLightBulbCb
  refine le_trans ?_ (State.spare_release _ _)
  split
  · split <;> exact le_rfl
  · exact le_rfl

theorem findLightBulb_spare (bufid : ℕ) : s.spare ≤ (findLightBulb s env bufid).spare := by
  have h := State.spare_emit { s with bulbCtx := { s.bulbCtx with shortAddr := 0xFFFF } }
    (e := .matchDescReq bufid) rfl
  unfold findLightBulb
  dsimp only
  split
  · exact h
  · exact h.trans (State.spare_emit _ rfl)

end Handlers

theorem spare_erase {s : State} {req : Request} (h : req ∈ s.requests) :
    State.spare { s with requests := s.requests.erase req } =
      s.spare + [req].count .sendTemperatureCb - [req].countP Request.isOnOff := by
  have hperm := List.perm_cons_erase h
  have hreports := hperm.count_eq .sendTemperatureCb
  have honOffs := hperm.countP_eq Request.isOnOff
  rw [← List.singleton_append, List.count_append] at hreports
  rw [← List.singleton_append, List.countP_append] at honOffs
  simp only [State.spare, State.reports, State.onOffs]
  omega

theorem spare_emit_onOff (s : State) (req : ZclReq) (cmdId : UInt16) :
    s.spare + 1 = (s.emit (.onOffReq req cmdId)).spare := by
  have hwrite : [Entry.onOffReq req cmdId].countP Entry.isWrite = 0 := rfl
  have honOff : [Entry.onOffReq req cmdId].countP Entry.isOnOff = 1 := rfl
  simp only [State.spare, State.reports, State.onOffs, State.emit,
    List.countP_append, hwrite, honOff]
  omega

/-- An on/off command stays one when it is sent, and so does a report. -/
theorem runRequest_spare (s : State) (env : Env) (bufid : ℕ) (req : Request) :
    s.spare + [req].countP Request.isOnOff ≤
      (runRequest s env bufid req).spare + [req].count .sendTemperatureCb := by
  cases req with
  | lightSwitchSendOnOff cmdId =>
    simpa [runRequest, lightSwitchSendOnOff, Request.isOnOff] using
      (spare_emit_onOff s (commandReq s bufid) cmdId).le
  | lightSwitchSendStep cmdId =>
    have hstep : s.spare ≤ (lightSwitchSendStep s bufid cmdId).spare := s.spare_emit rfl
    simpa [runRequest, Request.isOnOff] using hstep
  | sendTemperatureCb =>
    simpa [runRequest, Request.isOnOff] using sendTemperatureCb_spare s env bufid
  | findLightBulb => simpa [runRequest, Request.isOnOff] using findLightBulb_spare s env bufid

theorem step_spare {s s' : State} {e : Event} (h : step s e = some s') :
    s.spare ≤ s'.spare + if SamplingClock.lightSwitch.isRtcInterrupt e then 1 else 0 := by
  have hle : ∀ {n : ℤ}, s.spare ≤ n → s.spare ≤ n + 0 := fun h => by omega
  obtain ⟨-, h⟩ := step_live h
  cases e with
  | signal sig status bufid env =>
    obtain ⟨-, h⟩ := Option.ite_none_left_eq_some.mp h
    obtain rfl := Option.some.inj h
    exact hle <| (s.spare_emit rfl).trans (zbossSignalHandler_spare _ env sig status bufid)
  | buttons buttonState hasChanged env =>
    obtain rfl := Option.some.inj h
    exact hle <| buttonHandler_spare s env buttonState hasChanged
  | alarm env =>
    obtain ⟨-, h⟩ := Option.ite_none_right_eq_some.mp h
    obtain rfl := Option.some.inj h
    exact hle <| lightSwitchButtonHandler_spare
      { s with buttonsCtx := { s.buttonsCtx with alarm := false } } env
  | findAlarm env =>
    obtain ⟨-, h⟩ := Option.ite_none_right_eq_some.mp h
    obtain rfl := Option.some.inj h
    have hget := s.spare_getOut env.getOutDelayed (r := .findLightBulb) (by simp)
    exact hle <| State.spare_errorCheck _ _ hget fun _ => hget
  | rtcInterrupt err isCompareEvent =>
    obtain rfl := Option.some.inj h
    exact rtc2Isr_spare s err isCompareEvent
  | work =>
    obtain ⟨hpending, h⟩ := Option.ite_none_right_eq_some.mp h
    obtain rfl := Option.some.inj h
    -- the work item becomes a callback
    refine hle <| le_of_eq ?_
    simp [State.spare, State.reports, State.onOffs, rtcWorkHandler, State.schedule,
      hpending]
    omega
  | callback env =>
    obtain ⟨cb, rest, hqueue, rfl⟩ := dispatch_callback h
    cases cb with
    | startIdentifying =>
      refine hle <| le_trans (le_of_eq ?_) (startIdentifying_spare { s with queue := rest } env)
      simp [State.spare, State.reports, State.onOffs, hqueue]
    | zbTriggerTempReport =>
      -- the callback becomes a request, or is dropped
      have hget := State.spare_getOut_report { s with queue := rest } env.getOutDelayed
      have htake : State.spare { s with queue := rest } = s.spare + 1 := by
        simp [State.spare, State.reports, State.onOffs, hqueue]
        omega
      exact hle (show s.spare ≤ (State.getOut { s with queue := rest } env.getOutDelayed
        .sendTemperatureCb).spare by omega)
  | grant req bufid env =>
    obtain ⟨⟨hreq, -⟩, h⟩ := Option.ite_none_right_eq_some.mp h
    obtain rfl := Option.some.inj h
    have htake := spare_erase hreq
    have hsent : State.spare { s with requests := s.requests.erase req } +
        [req].countP Request.isOnOff ≤ (runRequest { s with requests := s.requests.erase req }
          env bufid req).spare + [req].count .sendTemperatureCb := runRequest_spare _ env bufid req
    exact hle (show s.spare ≤ (runRequest { s with requests := s.requests.erase req } env bufid
      req).spare by omega)
  | confirm bufid status =>
    obtain ⟨-, h⟩ := Option.ite_none_right_eq_some.mp h
    obtain rfl := Option.some.inj h
    let taken : State := { s with requestsInFlight := s.requestsInFlight.erase bufid }
    have hconfirmed : s.spare ≤ (taken.emit (.confirmed bufid status)).spare := taken.spare_emit rfl
    exact hle <| hconfirmed.trans (State.spare_emit _ rfl)
  | matchDescResp bufid resp =>
    unfold dispatch at h
    dsimp only at h
    split at h
    · exact absurd h (by simp)
    · rename_i n _
      obtain ⟨-, h⟩ := Option.ite_none_left_eq_some.mp h
      obtain rfl := Option.some.inj h
      exact hle <| findLightBulbCb_spare { s with matchDescs := n } bufid resp

end ZigbeeGateway.LightSwitch

namespace ZigbeeGateway.SamplingClock
open Histories LightSwitch

/-- In every run of its board the light switch sends at most one report in four
seconds and one more for each on/off command. -/
theorem report_rate_lightSwitch {es : List (BoardEvent LightSwitch.Event)}
    {b : Board LightSwitch.State}
    (h : Run (Fires (step lightSwitch)) (powerUp LightSwitch.start) es b) :
    period * b.app.log.countP LightSwitch.Entry.isWrite ≤
      es.countP BoardEvent.isCycle + period * b.app.onOffs := by
  have hrate := run_rate (fun s => s.reports - s.onOffs) rfl (fun s e s' hs => ?_) h
  case refine_1 =>
    have hspare := step_spare hs
    unfold State.spare at hspare
    split at hspare
    case isTrue hrtc =>
      rw [if_pos hrtc]
      omega
    case isFalse hrtc =>
      rw [if_neg hrtc]
      omega
  have hle : b.app.log.countP LightSwitch.Entry.isWrite ≤
      b.app.reports - b.app.onOffs + b.app.onOffs := by
    unfold State.reports
    omega
  calc period * b.app.log.countP LightSwitch.Entry.isWrite
      ≤ period * (b.app.reports - b.app.onOffs + b.app.onOffs) := Nat.mul_le_mul_left _ hle
    _ ≤ es.countP BoardEvent.isCycle + period * b.app.onOffs := by
        rw [Nat.mul_add]
        exact Nat.add_le_add_right hrate _

def shortPress : List LightSwitch.Event :=
  [.buttons BUTTON_ON BUTTON_ON .working, .buttons 0 BUTTON_ON .working,
    .grant (.lightSwitchSendOnOff ZB_ZCL_CMD_ON_OFF_ON_ID) 7 .working,
    .grant .sendTemperatureCb 8 .working]

theorem report_rate_lightSwitch_shortPress :
    ∃ b, Run (Fires (step lightSwitch)) (powerUp LightSwitch.start)
        (shortPress.map .app) b ∧
      b.app.log.countP LightSwitch.Entry.isWrite = 1 ∧ b.app.onOffs = 1 ∧
      period * b.app.log.countP LightSwitch.Entry.isWrite ≤
        (shortPress.map BoardEvent.app).countP BoardEvent.isCycle + period * b.app.onOffs := by
  obtain ⟨s, hs, hwrites, honOffs⟩ : ∃ s, exec LightSwitch.step LightSwitch.start shortPress =
      some s ∧ s.log.countP LightSwitch.Entry.isWrite = 1 ∧ s.onOffs = 1 :=
    ⟨_, rfl, by decide, by decide⟩
  have hr := run_of_app (F := lightSwitch) (fun _ _ => rfl) (run_of_exec hs) (by decide)
    (setUp .reset)
  exact ⟨_, hr, hwrites, honOffs, report_rate_lightSwitch hr⟩

end ZigbeeGateway.SamplingClock
