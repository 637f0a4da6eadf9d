import ZigbeeGateway.LightSwitch

namespace ZigbeeGateway.LightSwitch
open Histories

def networkEvent : Entry → Option Bool
  | .signal .steering status _ | .signal .deviceReboot status _ =>
    if status = RET_OK then some true else none
  | .signal (.leave _) _ _ => some false
  | _ => none

def OnNetwork (log : List Entry) : Prop := latest networkEvent log = some true

def ZclReq.ToCoordinator (req : ZclReq) : Prop := req.dstAddr = 0x0000 ∧ req.dstEndpoint = 10

/-- On the network a command goes to the coordinator, and no press is dropped. -/
def CommandAddressed (e : Entry) (pre : List Entry) : Prop :=
  OnNetwork pre →
    match e with
    | .onOffReq req _ | .stepReq req _ _ _ => req.ToCoordinator
    | .noBulbFoundYet => False
    | _ => True

def State.Targeted (s : State) : Prop :=
  OnNetwork s.log → s.bulbCtx.shortAddr = 0x0000 ∧ s.bulbCtx.endpoint = 10

structure State.Addressed (s : State) : Prop where
  targeted : s.Targeted
  commands : Whenever CommandAddressed s.log

def isResetLeave : Entry → Bool
  | .signal (.leave leaveType) status _ =>
    decide (status = RET_OK) && decide (leaveType = ZB_NWK_LEAVE_TYPE_RESET)
  | _ => false

/-- A successful join signal finds no successful leave of type reset before it. -/
def rejoinSafe (s : State) : Event → Bool
  | .signal .steering status _ _ | .signal .deviceReboot status _ _ =>
    decide (status ≠ RET_OK) || !s.log.any isResetLeave
  | _ => true

/-- Entries that a handler makes whose commands take their target from `bulb`. -/
def Entry.From (bulb : BulbContext) : Entry → Prop
  | .signal .. => False
  | .onOffReq req _ | .stepReq req _ _ _ =>
    req.dstAddr = bulb.shortAddr ∧ req.dstEndpoint = bulb.endpoint
  | .noBulbFoundYet => bulb.shortAddr = 0xFFFF
  | _ => True

/-- From `s` to `s'` the target stays, and no discovery is asked for. -/
structure Keeps (s s' : State) : Prop where
  bulb : s'.bulbCtx = s.bulbCtx
  log : Extends (Entry.From s.bulbCtx) s.log s'.log
  requests : .findLightBulb ∈ s'.requests → .findLightBulb ∈ s.requests
  matchDescs : s'.matchDescs = s.matchDescs

namespace Keeps

variable {s s' s'' : State}

theorem refl (s : State) : Keeps s s := ⟨rfl, .refl _, id, rfl⟩

theorem trans (h : Keeps s s') (h' : Keeps s' s'') : Keeps s s'' where
  bulb := h'.bulb.trans h.bulb
  log := h.log.trans (h.bulb ▸ h'.log)
  requests hr := h.requests (h'.requests hr)
  matchDescs := h'.matchDescs.trans h.matchDescs

theorem emit (h : Keeps s s') (e : Entry) (he : e.From s.bulbCtx) : Keeps s (s'.emit e) where
  bulb := h.bulb
  log := h.log.concat he
  requests := h.requests
  matchDescs := h.matchDescs

theorem release (h : Keeps s s') (bufid : ℕ) : Keeps s (s'.release bufid) := by
  unfold State.release
  split
  · exact h.emit _ trivial
  · exact h

theorem getOut (h : Keeps s s') (ret : ℤ) {r : Request} (hr : r ≠ .findLightBulb) :
    Keeps s (s'.getOut ret r) := by
  unfold State.getOut
  split
  · refine ⟨h.bulb, h.log, ?_, h.matchDescs⟩
    intro hm
    rcases List.mem_append.mp hm with hm | hm
    · exact h.requests hm
    · exact absurd (List.mem_singleton.mp hm).symm hr
  · exact h

theorem errorCheck (h : Keeps s s') (ret : ℤ) {k : State → State} (hk : Keeps s (k s')) :
    Keeps s (s'.errorCheck ret k) := by
  unfold State.errorCheck
  split
  · exact hk
  · exact ⟨h.bulb, h.log, h.requests, h.matchDescs⟩

end Keeps

section Handlers

variable (s : State) (env : Env)

theorem startIdentifying_keeps : Keeps s (startIdentifying s env) := by
  unfold startIdentifying
  split_ifs
  · exact .refl s
  · have h : Keeps s (s.emit (.findingBindingTarget LIGHT_SWITCH_ENDPOINT)) :=
      (Keeps.refl s).emit _ trivial
    cases env.bindingTarget with
    | ok | invalidState => exact h
    | error => exact ⟨h.bulb, h.log, h.requests, h.matchDescs⟩
  · exact (Keeps.refl s).emit .findingBindingTargetCancel trivial

theorem sendTemperatureCb_keeps (bufid : ℕ) : Keeps s (sendTemperatureCb s env bufid) := by
  unfold sendTemperatureCb
  split_ifs
  · exact (Keeps.refl s).emit (.bufFree bufid) trivial
  · have h : Keeps s { s with requestsInFlight := s.requestsInFlight ++ [bufid] } :=
      ⟨rfl, .refl _, id, rfl⟩
    exact h.emit _ trivial

theorem switchButtonState_keeps (buttonState : BitVec 32) (cmdId : UInt16) :
    Keeps s (switchButtonState s env buttonState cmdId) := by
  unfold switchButtonState
  split_ifs
  · exact ⟨rfl, .refl _, id, rfl⟩
  · have h : Keeps s
        { s with buttonsCtx := { s.buttonsCtx with alarm := false, longPoll := false } } :=
      ⟨rfl, .refl _, id, rfl⟩
    dsimp only
    split
    · have h' := h.getOut env.getOutDelayedExt (r := .lightSwitchSendOnOff cmdId) (by simp)
      exact h'.errorCheck _ (h'.getOut _ (by simp))
    · exact h
  · exact .refl s

theorem buttonHandler_keeps (buttonState hasChanged : BitVec 32) :
    Keeps s (buttonHandler s env buttonState hasChanged) := by
  have h : Keeps s ((s.emit .userInputIndicate).emit
      (.checkFactoryResetButton buttonState hasChanged)) :=
    ((Keeps.refl s).emit .userInputIndicate trivial).emit _ trivial
  unfold buttonHandler
  dsimp only
  split_ifs with haddr
  · exact h.emit .noBulbFoundYet haddr
  · exact h.trans (switchButtonState_keeps _ env _ _)
  · exact h.trans (switchButtonState_keeps _ env _ _)
  · exact h
  · exact h
  · exact ⟨h.bulb, h.log, h.requests, h.matchDescs⟩
  · exact h

theorem lightSwitchButtonHandler_keeps : Keeps s (lightSwitchButtonHandler s env) := by
  unfold lightSwitchButtonHandler
  split_ifs
  · have h : Keeps s { s with buttonsCtx := { s.buttonsCtx with longPoll := true } } :=
      ⟨rfl, .refl _, id, rfl⟩
    have h' := h.getOut env.getOutDelayedExt (r := .lightSwitchSendStep
      (if s.buttonsCtx.state = BUTTON_ON then ZB_ZCL_LEVEL_CONTROL_STEP_MODE_UP
      else ZB_ZCL_LEVEL_CONTROL_STEP_MODE_DOWN)) (by simp)
    exact ⟨h'.bulb, h'.log, h'.requests, h'.matchDescs⟩
  · exact ⟨rfl, .refl _, id, rfl⟩

theorem rtc2Isr_keeps (err : ℤ) (isCompareEvent : Bool) :
    Keeps s (rtc2Isr s err isCompareEvent) := by
  unfold rtc2Isr
  split
  · exact ⟨rfl, (Extends.refl _).concat (a := Entry.rtcRestart 32) trivial, id, rfl⟩
  · exact .refl s

theorem runCallback_keeps (cb : Callback) : Keeps s (runCallback s env cb) := by
  cases cb with
  | startIdentifying => exact startIdentifying_keeps s env
  | zbTriggerTempReport => exact (Keeps.refl s).getOut _ (by simp)

theorem runRequest_keeps (bufid : ℕ) {req : Request} (hreq : req ≠ .findLightBulb) :
    Keeps s (runRequest s env bufid req) := by
  cases req with
  | lightSwitchSendOnOff | lightSwitchSendStep => exact (Keeps.refl s).emit _ ⟨rfl, rfl⟩
  | sendTemperatureCb => exact sendTemperatureCb_keeps s env bufid
  | findLightBulb => exact absurd rfl hreq

/-- Only a successful leave of type reset changes the target. -/
def clearTarget (sig : Signal) (status : ℤ) : State :=
  if isResetLeave (.signal sig status 0) then
    { s with bulbCtx := { s.bulbCtx with shortAddr := 0xFFFF } }
  else s

@[simp] theorem clearTarget_log (sig : Signal) (status : ℤ) :
    (clearTarget s sig status).log = s.log := by
  unfold clearTarget
  split <;> rfl

theorem zbossSignalHandler_keeps (sig : Signal) (status : ℤ) (bufid : ℕ) :
    Keeps (clearTarget s sig status) (zbossSignalHandler s env sig status bufid) := by
  have hdefault : ∀ t : State,
      Keeps t ((t.emit (.ledStatusUpdate bufid)).emit (.defaultSignalHandler bufid)) := by
    intro t
    exact ((Keeps.refl t).emit (.ledStatusUpdate bufid) trivial).emit _ trivial
  -- the common exit, from the state after the `switch`
  have hexit : ∀ t : State, Keeps t ((((t.emit (.ledStatusUpdate bufid)).emit
      (.defaultSignalHandler bufid)).errorCheck env.defaultHandler (·.release bufid))) := by
    intro t
    exact (hdefault t).errorCheck _ ((hdefault t).release bufid)
  cases sig with
  | deviceReboot | steering =>
    have h := hdefault s
    unfold zbossSignalHandler
    dsimp only
    apply h.errorCheck
    apply Keeps.release
    split
    · exact ⟨h.bulb, h.log, h.requests, h.matchDescs⟩
    · exact h
  | leave leaveType =>
    have heq : zbossSignalHandler s env (.leave leaveType) status bufid =
        (((clearTarget s (.leave leaveType) status).emit (.ledStatusUpdate bufid)).emit
          (.defaultSignalHandler bufid)).errorCheck env.defaultHandler (·.release bufid) := by
      unfold zbossSignalHandler clearTarget
      by_cases hl : status = RET_OK ∧ leaveType = ZB_NWK_LEAVE_TYPE_RESET
      · simp [isResetLeave, hl, State.emit]
      · rw [not_and] at hl
        by_cases hs : status = RET_OK
        · simp [isResetLeave, hs, hl hs]
        · simp [isResetLeave, hs]
    rw [heq]
    exact hexit _
  | other => exact hexit s

end Handlers

/-- The target is as `main` set it unless a leave of type reset cleared it, and
no discovery runs. -/
structure State.Static (s : State) : Prop where
  bulb : s.bulbCtx = ⟨10, if s.log.any isResetLeave then 0xFFFF else 0x0000, false⟩
  requests : .findLightBulb ∉ s.requests
  matchDescs : s.matchDescs = 0

theorem State.Static.dispatch_findAlarm {s : State} (hs : s.Static) (env : Env) :
    dispatch s (.findAlarm env) = none := by
  -- nothing starts the timer of the discovery
  simp [dispatch, hs.bulb]

theorem State.Static.dispatch_matchDescResp {s : State} (hs : s.Static) (bufid : ℕ)
    (resp : MatchDescResp) : dispatch s (.matchDescResp bufid resp) = none := by
  -- and so it has asked nobody
  simp [dispatch, hs.matchDescs]

/-- An event is a signal, whose handler runs on the target that the signal
leaves, or it keeps the target. -/
theorem step_keeps {s s' : State} {e : Event} (hs : s.Static) (h : step s e = some s') :
    (∃ sig status bufid env, e = .signal sig status bufid env ∧
      Keeps (clearTarget (s.emit (.signal sig status bufid)) sig status) s') ∨
    ((∀ sig status bufid env, e ≠ .signal sig status bufid env) ∧ Keeps s s') := by
  obtain ⟨-, h⟩ := step_live h
  cases e with
  | signal sig status bufid env =>
    obtain ⟨-, h⟩ := Option.ite_none_left_eq_some.mp h
    obtain rfl := Option.some.inj h
    exact .inl ⟨sig, status, bufid, env, rfl, zbossSignalHandler_keeps _ env sig status bufid⟩
  | buttons buttonState hasChanged env =>
    obtain rfl := Option.some.inj h
    exact .inr ⟨by simp, buttonHandler_keeps s env buttonState hasChanged⟩
  | alarm env =>
    obtain ⟨-, h⟩ := Option.ite_none_right_eq_some.mp h
    obtain rfl := Option.some.inj h
    have hk : Keeps s { s with buttonsCtx := { s.buttonsCtx with alarm := false } } :=
      ⟨rfl, .refl _, id, rfl⟩
    exact .inr ⟨by simp, hk.trans (lightSwitchButtonHandler_keeps _ env)⟩
  | findAlarm env =>
    rw [hs.dispatch_findAlarm] at h
    exact absurd h (by simp)
  | rtcInterrupt err isCompareEvent =>
    obtain rfl := Option.some.inj h
    exact .inr ⟨by simp, rtc2Isr_keeps s err isCompareEvent⟩
  | work =>
    obtain ⟨-, h⟩ := Option.ite_none_right_eq_some.mp h
    obtain rfl := Option.some.inj h
    exact .inr ⟨by simp, ⟨rfl, .refl _, id, rfl⟩⟩
  | callback env =>
    obtain ⟨cb, rest, -, rfl⟩ := dispatch_callback h
    have hk : Keeps s { s with queue := rest } := ⟨rfl, .refl _, id, rfl⟩
    exact .inr ⟨by simp, hk.trans (runCallback_keeps _ env cb)⟩
  | grant req bufid env =>
    obtain ⟨⟨hreq, -⟩, h⟩ := Option.ite_none_right_eq_some.mp h
    obtain rfl := Option.some.inj h
    have hne : req ≠ .findLightBulb := by
      rintro rfl
      exact hs.requests hreq
    have hk : Keeps s { s with requests := s.requests.erase req } :=
      ⟨rfl, .refl _, List.mem_of_mem_erase, rfl⟩
    exact .inr ⟨by simp, hk.trans (runRequest_keeps _ env bufid hne)⟩
  | confirm bufid status =>
    obtain ⟨-, h⟩ := Option.ite_none_right_eq_some.mp h
    obtain rfl := Option.some.inj h
    have hk : Keeps s { s with requestsInFlight := s.requestsInFlight.erase bufid } :=
      ⟨rfl, .refl _, id, rfl⟩
    have hconfirmed := hk.emit (.confirmed bufid status) trivial
    exact .inr ⟨by simp, hconfirmed.emit (.bufFree bufid) trivial⟩
  | matchDescResp bufid resp =>
    rw [hs.dispatch_matchDescResp] at h
    exact absurd h (by simp)

section Kept

variable {s s' : State}

theorem Entry.From.networkEvent {bulb : BulbContext} {e : Entry} (he : e.From bulb) :
    networkEvent e = none := by
  cases e <;> first | rfl | exact he.elim

theorem Entry.From.isResetLeave {bulb : BulbContext} {e : Entry} (he : e.From bulb) :
    isResetLeave e = false := by
  cases e <;> first | rfl | exact he.elim

theorem onNetwork_concat (log : List Entry) (e : Entry) :
    OnNetwork (log ++ [e]) ↔ (networkEvent e).or (latest networkEvent log) = some true := by
  rw [OnNetwork, latest_concat]

theorem Keeps.onNetwork (h : Keeps s s') : OnNetwork s'.log ↔ OnNetwork s.log := by
  have hnone := h.log.mono fun _ he => he.networkEvent
  rw [OnNetwork, latest, hnone.filterMap_eq, OnNetwork, latest]

theorem Keeps.any_isResetLeave (h : Keeps s s') :
    s'.log.any isResetLeave = s.log.any isResetLeave := by
  apply h.log.induction (I := fun l => l.any isResetLeave = s.log.any isResetLeave) rfl
  intro l e hl he
  rw [List.any_append, hl]
  simp [he.isResetLeave]

theorem Keeps.static (h : Keeps s s') (hs : s.Static) : s'.Static where
  bulb := by rw [h.bulb, h.any_isResetLeave, hs.bulb]
  requests hr := hs.requests (h.requests hr)
  matchDescs := h.matchDescs.trans hs.matchDescs

theorem Keeps.targeted_iff (h : Keeps s s') : s'.Targeted ↔ s.Targeted := by
  rw [State.Targeted, h.onNetwork, h.bulb, State.Targeted]

theorem from_addressed {bulb : BulbContext} {e : Entry} (he : e.From bulb) {pre : List Entry}
    (hb : OnNetwork pre → bulb.shortAddr = 0x0000 ∧ bulb.endpoint = 10) :
    CommandAddressed e pre := by
  intro hon
  obtain ⟨haddr, hep⟩ := hb hon
  cases e with
  | onOffReq req | stepReq req => exact ⟨he.1.trans haddr, he.2.trans hep⟩
  | noBulbFoundYet =>
    have hff : bulb.shortAddr = 0xFFFF := he
    exact absurd (haddr.symm.trans hff) (by decide)
  | _ => exact trivial

theorem Keeps.addressed (h : Keeps s s') (hs : s.Addressed) : s'.Addressed := by
  refine ⟨h.targeted_iff.mpr hs.targeted, ?_⟩
  suffices hc : (OnNetwork s'.log ↔ OnNetwork s.log) ∧ Whenever CommandAddressed s'.log from hc.2
  apply h.log.induction (I := fun l => (OnNetwork l ↔ OnNetwork s.log) ∧
    Whenever CommandAddressed l) ⟨.rfl, hs.commands⟩
  rintro l e ⟨hon, hw⟩ he
  constructor
  · rw [onNetwork_concat, he.networkEvent, Option.none_or]
    exact hon
  · exact (whenever_concat l e).mpr ⟨hw, from_addressed he fun h => hs.targeted (hon.mp h)⟩

end Kept

section Signals

variable {s : State} (sig : Signal) (status : ℤ) (bufid : ℕ)

theorem clearTarget_static (hs : s.Static) :
    (clearTarget (s.emit (.signal sig status bufid)) sig status).Static := by
  have hlog : isResetLeave (.signal sig status bufid) = isResetLeave (.signal sig status 0) := by
    cases sig <;> rfl
  unfold clearTarget
  split
  case isTrue hreset =>
    exact ⟨by simp [State.emit, hs.bulb, hlog, hreset], hs.requests, hs.matchDescs⟩
  case isFalse hkeep =>
    exact ⟨by simp [State.emit, hs.bulb, hlog, hkeep], hs.requests, hs.matchDescs⟩

theorem emit_targeted_iff (hs : s.Static) (ht : s.Targeted) {e : Entry} (ok : Prop)
    [Decidable ok] (he : networkEvent e = if ok then some true else none) :
    (s.emit e).Targeted ↔ (ok → s.log.any isResetLeave = false) := by
  unfold State.Targeted at ht ⊢
  change (OnNetwork (s.log ++ [e]) → s.bulbCtx.shortAddr = 0x0000 ∧ s.bulbCtx.endpoint = 10) ↔ _
  rw [onNetwork_concat, he]
  by_cases hok : ok
  · rw [if_pos hok, hs.bulb]
    cases s.log.any isResetLeave <;> simp [hok]
  · rw [if_neg hok, Option.none_or]
    exact ⟨fun _ h => absurd h hok, fun _ => ht⟩

/-- A join signal leaves the right target exactly when no leave of type reset
came before it; every other signal does. -/
theorem clearTarget_targeted_iff (hs : s.Static) (ht : s.Targeted) (env : Env) :
    (clearTarget (s.emit (.signal sig status bufid)) sig status).Targeted ↔
      rejoinSafe s (.signal sig status bufid env) = true := by
  cases sig with
  | deviceReboot | steering =>
    refine (emit_targeted_iff hs ht (status = RET_OK) rfl).trans ?_
    by_cases hok : status = RET_OK <;> simp [rejoinSafe, hok]
  | leave leaveType =>
    -- the device has left, so nothing is asked of the target
    refine iff_of_true ?_ rfl
    unfold State.Targeted
    rw [clearTarget_log, State.emit, onNetwork_concat]
    intro h
    exact absurd h (by simp [networkEvent])
  | other =>
    refine (emit_targeted_iff hs ht False rfl).trans ?_
    simp [rejoinSafe]

theorem clearTarget_addressed (ha : s.Addressed)
    (ht : (clearTarget (s.emit (.signal sig status bufid)) sig status).Targeted) :
    (clearTarget (s.emit (.signal sig status bufid)) sig status).Addressed := by
  refine ⟨ht, ?_⟩
  rw [clearTarget_log, State.emit, whenever_concat]
  exact ⟨ha.commands, fun _ => trivial⟩

end Signals

section Runs

variable {es : List Event} {s : State}

theorem start_static : start.Static := ⟨rfl, by simp [start], rfl⟩

theorem start_addressed : start.Addressed :=
  ⟨fun h => absurd h (by simp [start, OnNetwork, latest]), whenever_nil⟩

theorem step_static {s s' : State} {e : Event} (hs : s.Static) (h : step s e = some s') :
    s'.Static := by
  rcases step_keeps hs h with ⟨sig, status, bufid, env, rfl, hk⟩ | ⟨-, hk⟩
  · exact hk.static (clearTarget_static sig status bufid hs)
  · exact hk.static hs

theorem run_static (h : Run (Fires step) start es s) : s.Static :=
  h.invariant start_static fun _ _ _ hs hstep => step_static hs hstep

/-- The discovery that could change the target never gets a buffer. -/
theorem run_no_discovery (h : Run (Fires step) start es s) (bufid : ℕ) (env : Env) :
    step s (.grant .findLightBulb bufid env) = none := by
  have hr := (run_static h).requests
  simp [step, dispatch, hr]

/-- The runs in whose states the device is aimed at the coordinator whenever it
is on the network are those in which no successful join signal comes after a
successful leave of type reset. -/
theorem static_addressing_iff :
    Run (fun s e s' => Fires step s e s' ∧ s'.Addressed) start es s ↔
      Run (When (fun s e => rejoinSafe s e = true) (Fires step)) start es s := by
  apply Run.through_iff_when start_addressed
  intro es s e s' hr hs hstep
  have hstatic := run_static hr
  rcases step_keeps hstatic hstep with ⟨sig, status, bufid, env, rfl, hk⟩ | ⟨hne, hk⟩
  · rw [← clearTarget_targeted_iff sig status bufid hstatic hs.targeted env, ← hk.targeted_iff]
    constructor
    · exact fun h => h.targeted
    · intro ht
      exact hk.addressed (clearTarget_addressed sig status bufid hs (hk.targeted_iff.mp ht))
  · refine iff_of_true (hk.addressed hs) ?_
    cases e with
    | signal sig status bufid env => exact absurd rfl (hne sig status bufid env)
    | _ => rfl

end Runs

def Env.working : Env := ⟨0, 0, 0, false, 0, true, 0, .ok, true, 0, 0⟩

-- after a join, a press and a release of the ON button reach the coordinator
example : (exec step start [.signal .steering 0 5 .working, .buttons BUTTON_ON BUTTON_ON .working,
    .buttons 0 BUTTON_ON .working, .grant (.lightSwitchSendOnOff ZB_ZCL_CMD_ON_OFF_ON_ID) 7
    .working]).bind (·.log.getLast?) =
      some (.onOffReq ⟨7, 0x0000, 10, 1, 0x0104⟩ ZB_ZCL_CMD_ON_OFF_ON_ID) := by decide

def rejoinRun : List Event :=
  [.signal .steering 0 5 .working, .signal (.leave ZB_NWK_LEAVE_TYPE_RESET) 0 6 .working,
    .signal .steering 0 7 .working, .buttons BUTTON_ON BUTTON_ON .working]

theorem rejoin_drops_press :
    ¬∀ es s, Run (Fires step) start es s → s.Addressed := by
  intro h
  obtain ⟨s, hs, hlog⟩ : ∃ s, exec step start rejoinRun = some s ∧
      s.log = [.signal .steering 0 5, .ledStatusUpdate 5, .defaultSignalHandler 5, .bufFree 5,
        .signal (.leave ZB_NWK_LEAVE_TYPE_RESET) 0 6, .ledStatusUpdate 6, .defaultSignalHandler 6,
        .bufFree 6, .signal .steering 0 7, .ledStatusUpdate 7, .defaultSignalHandler 7, .bufFree 7,
        .userInputIndicate, .checkFactoryResetButton BUTTON_ON BUTTON_ON] ++ [.noBulbFoundYet] :=
    ⟨_, rfl, by decide⟩
  have hw := (h rejoinRun s (run_of_exec hs)).commands
  rw [hlog, whenever_concat] at hw
  exact hw.2 (by unfold OnNetwork; decide)

end ZigbeeGateway.LightSwitch
