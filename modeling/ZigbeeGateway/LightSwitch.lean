import ZigbeeGateway.Histories

namespace ZigbeeGateway.LightSwitch
open Histories

def RET_OK : ℤ := 0

/-- `ZB_NWK_LEAVE_TYPE_RESET`; a leave with rejoin has type 0x01. -/
def ZB_NWK_LEAVE_TYPE_RESET : UInt8 := 0x00

def BUTTON_ON : BitVec 32 := 1
def BUTTON_OFF : BitVec 32 := 2
def IDENTIFY_MODE_BUTTON : BitVec 32 := 8
def LIGHT_SWITCH_ENDPOINT : UInt8 := 1
def ZB_AF_HA_PROFILE_ID : UInt16 := 0x0104
def ZB_ZCL_CMD_ON_OFF_OFF_ID : UInt16 := 0
def ZB_ZCL_CMD_ON_OFF_ON_ID : UInt16 := 1
def ZB_ZCL_LEVEL_CONTROL_STEP_MODE_UP : UInt16 := 0
def ZB_ZCL_LEVEL_CONTROL_STEP_MODE_DOWN : UInt16 := 1
def DIMM_STEP : UInt8 := 15
def DIMM_TRANSACTION_TIME : UInt16 := 2

inductive Signal
  | deviceReboot
  | steering
  | leave (leaveType : UInt8)
  | other
  deriving DecidableEq

inductive Callback
  | startIdentifying
  | zbTriggerTempReport
  deriving DecidableEq

/-- The functions that wait for a buffer, with the parameter of the `_ext` form. -/
inductive Request
  | lightSwitchSendOnOff (cmdId : UInt16)
  | lightSwitchSendStep (cmdId : UInt16)
  | sendTemperatureCb
  | findLightBulb
  deriving DecidableEq

structure ZclReq where
  bufid : ℕ
  dstAddr : UInt16
  dstEndpoint : UInt8
  srcEndpoint : UInt8
  profileId : UInt16
  deriving DecidableEq

inductive Entry
  | signal (sig : Signal) (status : ℤ) (bufid : ℕ)
  | confirmed (bufid : ℕ) (status : ℤ)
  | ledStatusUpdate (bufid : ℕ)
  | defaultSignalHandler (bufid : ℕ)
  | userInputIndicate
  | checkFactoryResetButton (buttonState hasChanged : BitVec 32)
  /-- `LOG_DBG("No bulb found yet.")`, with which a press is dropped -/
  | noBulbFoundYet
  | onOffReq (req : ZclReq) (cmdId : UInt16)
  | stepReq (req : ZclReq) (cmdId : UInt16) (stepSize : UInt8) (transitionTime : UInt16)
  | writeAttrReq (req : ZclReq) (value : Int16)
  | matchDescReq (bufid : ℕ)
  | findingBindingTarget (endpoint : UInt8)
  | findingBindingTargetCancel
  | rtcRestart (ticks : ℕ)
  | bufFree (bufid : ℕ)
  deriving DecidableEq

structure MatchDescResp where
  success : Bool
  matchEp : List UInt8
  srcAddr : UInt16

inductive TargetStatus
  | ok
  | invalidState
  | error

/-- What the stack and the board answer during one event. -/
structure Env where
  /-- the status of `zigbee_default_signal_handler` -/
  defaultHandler : ℤ
  /-- the status of `zb_buf_get_out_delayed_ext` -/
  getOutDelayedExt : ℤ
  /-- the status of `zb_buf_get_out_delayed` -/
  getOutDelayed : ℤ
  /-- `was_factory_reset_done` -/
  factoryResetDone : Bool
  /-- `dk_get_buttons` -/
  buttons : BitVec 32
  /-- `ZB_JOINED` -/
  joined : Bool
  /-- `identify_time`, which the Identify cluster counts down -/
  identifyTime : UInt16
  /-- the status of `zb_bdb_finding_binding_target` -/
  bindingTarget : TargetStatus
  /-- whether `zb_zdo_match_desc_req` sends the request -/
  matchDescSent : Bool
  /-- what `bmp180_read_temperature` returns -/
  readRet : ℤ
  /-- what `bmp180_read_temperature` leaves in `temp_raw` -/
  tempRaw : ℤ

structure BulbContext where
  endpoint : UInt8
  shortAddr : UInt16
  /-- whether the timer runs -/
  findAlarm : Bool
  deriving DecidableEq

structure ButtonsContext where
  state : BitVec 32
  longPoll : Bool
  /-- whether the timer runs -/
  alarm : Bool

structure State where
  bulbCtx : BulbContext
  buttonsCtx : ButtonsContext
  dkLed4 : Bool
  rtcWorkPending : Bool
  queue : List Callback
  requests : List Request
  /-- the buffers of the write requests without a confirmation yet -/
  requestsInFlight : List ℕ
  /-- match descriptor requests without an answer yet -/
  matchDescs : ℕ
  /-- `ZB_ERROR_CHECK` has stopped the firmware -/
  halted : Bool
  log : List Entry

namespace State

def emit (s : State) (e : Entry) : State := { s with log := s.log ++ [e] }

def schedule (s : State) (cb : Callback) : State :=
  -- ZB_SCHEDULE_APP_CALLBACK
  { s with queue := s.queue ++ [cb] }

/-- `zb_buf_get_out_delayed`, which takes the request if it returns `RET_OK`. -/
def getOut (s : State) (ret : ℤ) (r : Request) : State :=
  if ret = RET_OK then { s with requests := s.requests ++ [r] } else s

def release (s : State) (bufid : ℕ) : State :=
  -- if (bufid) zb_buf_free(bufid);
  if bufid ≠ 0 then s.emit (.bufFree bufid) else s

/-- `ZB_ERROR_CHECK(ret)` in front of the code `k`. -/
def errorCheck (s : State) (ret : ℤ) (k : State → State) : State :=
  if ret = RET_OK then k s else { s with halted := true }

def startAlarm (s : State) : State := { s with buttonsCtx := { s.buttonsCtx with alarm := true } }

end State

def start : State where
  -- main has set the target to the coordinator
  bulbCtx := ⟨10, 0x0000, false⟩
  buttonsCtx := ⟨0, false, false⟩
  dkLed4 := false
  rtcWorkPending := false
  queue := []
  requests := []
  requestsInFlight := []
  matchDescs := 0
  halted := false
  log := []

section Code

variable (s : State) (env : Env)

def startIdentifying : State :=
  if !env.joined then s
  else if env.identifyTime = 0 then
    let s := s.emit (.findingBindingTarget LIGHT_SWITCH_ENDPOINT)
    match env.bindingTarget with
    | .ok | .invalidState => s
    | .error => { s with halted := true }
  else s.emit .findingBindingTargetCancel

def writeAttrCallback (bufid : ℕ) : State :=
  -- the send status is only logged
  s.emit (.bufFree bufid)

def sendTemperatureCb (bufid : ℕ) : State :=
  if env.readRet ≠ 0 then s.emit (.bufFree bufid)
  else
    { s with requestsInFlight := s.requestsInFlight ++ [bufid] }.emit
      (.writeAttrReq ⟨bufid, 0x0000, 10, LIGHT_SWITCH_ENDPOINT, ZB_AF_HA_PROFILE_ID⟩
        (Int16.ofInt env.tempRaw))

def switchButtonState (buttonState : BitVec 32) (cmdId : UInt16) : State :=
  -- the second switch of button_handler
  if buttonState = BUTTON_ON ∨ buttonState = BUTTON_OFF then
    { s with buttonsCtx := { s.buttonsCtx with state := buttonState } }.startAlarm
  else if buttonState = 0 then
    let longPoll := s.buttonsCtx.longPoll
    let s := { s with buttonsCtx := { s.buttonsCtx with alarm := false, longPoll := false } }
    if longPoll = false then
      (s.getOut env.getOutDelayedExt (.lightSwitchSendOnOff cmdId)).errorCheck
        env.getOutDelayedExt (·.getOut env.getOutDelayed .sendTemperatureCb)
    else s
  else s

def buttonHandler (buttonState hasChanged : BitVec 32) : State :=
  let s := (s.emit .userInputIndicate).emit (.checkFactoryResetButton buttonState hasChanged)
  if s.bulbCtx.shortAddr = 0xFFFF then s.emit .noBulbFoundYet
  else if hasChanged = BUTTON_ON then switchButtonState s env buttonState ZB_ZCL_CMD_ON_OFF_ON_ID
  else if hasChanged = BUTTON_OFF then switchButtonState s env buttonState ZB_ZCL_CMD_ON_OFF_OFF_ID
  else if hasChanged = IDENTIFY_MODE_BUTTON then
    if IDENTIFY_MODE_BUTTON &&& buttonState ≠ 0 then s
    else if env.factoryResetDone then s
    else s.schedule .startIdentifying
  else s

def commandReq (bufid : ℕ) : ZclReq :=
  ⟨bufid, s.bulbCtx.shortAddr, s.bulbCtx.endpoint, LIGHT_SWITCH_ENDPOINT, ZB_AF_HA_PROFILE_ID⟩

def lightSwitchSendOnOff (bufid : ℕ) (cmdId : UInt16) : State :=
  s.emit (.onOffReq (commandReq s bufid) cmdId)

def lightSwitchSendStep (bufid : ℕ) (cmdId : UInt16) : State :=
  s.emit (.stepReq (commandReq s bufid) cmdId DIMM_STEP DIMM_TRANSACTION_TIME)

def findLightBulbCb (bufid : ℕ) (resp : MatchDescResp) : State :=
  let s := match resp.success, resp.matchEp with
    | true, matchEp :: _ =>
      if s.bulbCtx.shortAddr = 0xFFFF then
        { s with bulbCtx := ⟨matchEp, resp.srcAddr, false⟩, dkLed4 := true }
      else s
    | _, _ => s
  s.release bufid

def findLightBulbAlarm : State :=
  (s.getOut env.getOutDelayed .findLightBulb).errorCheck env.getOutDelayed id

def findLightBulb (bufid : ℕ) : State :=
  let s := { s with bulbCtx := { s.bulbCtx with shortAddr := 0xFFFF } }.emit (.matchDescReq bufid)
  if env.matchDescSent then { s with matchDescs := s.matchDescs + 1 } else s.emit (.bufFree bufid)

def lightSwitchButtonHandler : State :=
  if env.buttons &&& s.buttonsCtx.state ≠ 0 then
    let s := { s with buttonsCtx := { s.buttonsCtx with longPoll := true } }
    let cmdId :=
      if s.buttonsCtx.state = BUTTON_ON then ZB_ZCL_LEVEL_CONTROL_STEP_MODE_UP
      else ZB_ZCL_LEVEL_CONTROL_STEP_MODE_DOWN
    -- the status is only logged, and the wrong way round
    (s.getOut env.getOutDelayedExt (.lightSwitchSendStep cmdId)).startAlarm
  else { s with buttonsCtx := { s.buttonsCtx with longPoll := false } }

def zbossSignalHandler (sig : Signal) (status : ℤ) (bufid : ℕ) : State :=
  let s := s.emit (.ledStatusUpdate bufid)
  match sig with
  | .deviceReboot | .steering =>
    (s.emit (.defaultSignalHandler bufid)).errorCheck env.defaultHandler fun s =>
      -- the block that restarted the discovery is commented out
      (if status = RET_OK then { s with dkLed4 := true } else s).release bufid
  | .leave leaveType =>
    let s :=
      if status = RET_OK ∧ leaveType = ZB_NWK_LEAVE_TYPE_RESET then
        { s with bulbCtx := { s.bulbCtx with shortAddr := 0xFFFF } }
      else s
    (s.emit (.defaultSignalHandler bufid)).errorCheck env.defaultHandler (·.release bufid)
  | .other =>
    (s.emit (.defaultSignalHandler bufid)).errorCheck env.defaultHandler (·.release bufid)

def zbTriggerTempReport : State := s.getOut env.getOutDelayed .sendTemperatureCb

def rtcWorkHandler : State := s.schedule .zbTriggerTempReport

def rtc2Isr (err : ℤ) (isCompareEvent : Bool) : State :=
  if err = 0 ∧ isCompareEvent = true then
    { s with rtcWorkPending := true }.emit (.rtcRestart 32)
  else s

def runCallback : Callback → State
  | .startIdentifying => startIdentifying s env
  | .zbTriggerTempReport => zbTriggerTempReport s env

def runRequest (bufid : ℕ) : Request → State
  | .lightSwitchSendOnOff cmdId => lightSwitchSendOnOff s bufid cmdId
  | .lightSwitchSendStep cmdId => lightSwitchSendStep s bufid cmdId
  | .sendTemperatureCb => sendTemperatureCb s env bufid
  | .findLightBulb => findLightBulb s env bufid

end Code

/-- What can happen next: a stack signal, a button event, one of the two timers
running out, the RTC interrupt and its work item, the stack running a callback,
granting a buffer, confirming a write request or handing over an answer to the
discovery. -/
inductive Event
  | signal (sig : Signal) (status : ℤ) (bufid : ℕ) (env : Env)
  | buttons (buttonState hasChanged : BitVec 32) (env : Env)
  | alarm (env : Env)
  | findAlarm (env : Env)
  | rtcInterrupt (err : ℤ) (isCompareEvent : Bool)
  | work
  | callback (env : Env)
  | grant (req : Request) (bufid : ℕ) (env : Env)
  | confirm (bufid : ℕ) (status : ℤ)
  | matchDescResp (bufid : ℕ) (resp : MatchDescResp)

/-- The event, in a firmware that runs.  The stack hands out no buffer that a write
request still holds. -/
def dispatch (s : State) : Event → Option State
  | .signal sig status bufid env =>
    if bufid ∈ s.requestsInFlight then none
    else some (zbossSignalHandler (s.emit (.signal sig status bufid)) env sig status bufid)
  | .buttons buttonState hasChanged env => some (buttonHandler s env buttonState hasChanged)
  | .alarm env =>
    if s.buttonsCtx.alarm then
      some (lightSwitchButtonHandler
        { s with buttonsCtx := { s.buttonsCtx with alarm := false } } env)
    else none
  | .findAlarm env => if s.bulbCtx.findAlarm then some (findLightBulbAlarm s env) else none
  | .rtcInterrupt err isCompareEvent => some (rtc2Isr s err isCompareEvent)
  | .work =>
    if s.rtcWorkPending then some (rtcWorkHandler { s with rtcWorkPending := false }) else none
  | .callback env =>
    match s.queue with
    | [] => none
    | cb :: rest => some (runCallback { s with queue := rest } env cb)
  | .grant req bufid env =>
    if req ∈ s.requests ∧ bufid ≠ 0 ∧ bufid ∉ s.requestsInFlight then
      some (runRequest { s with requests := s.requests.erase req } env bufid req)
    else none
  | .confirm bufid status =>
    if bufid ∈ s.requestsInFlight then
      some (writeAttrCallback ({ s with requestsInFlight := s.requestsInFlight.erase bufid }.emit
        (.confirmed bufid status)) bufid)
    else none
  | .matchDescResp bufid resp =>
    match s.matchDescs with
    | 0 => none
    | n + 1 =>
      if bufid ∈ s.requestsInFlight then none
      else some (findLightBulbCb { s with matchDescs := n } bufid resp)

/-- `none` if the event cannot happen in the state. -/
def step (s : State) (e : Event) : Option State := if s.halted then none else dispatch s e

theorem step_live {s s' : State} {e : Event} (h : step s e = some s') :
    s.halted = false ∧ dispatch s e = some s' := by
  obtain ⟨hlive, h⟩ := Option.ite_none_left_eq_some.mp h
  exact ⟨Bool.eq_false_iff.mpr hlive, h⟩

theorem dispatch_callback {s s' : State} {env : Env} (h : dispatch s (.callback env) = some s') :
    ∃ cb rest, s.queue = cb :: rest ∧ s' = runCallback { s with queue := rest } env cb := by
  simp only [dispatch] at h
  split at h
  · exact absurd h (by simp)
  · exact ⟨_, _, by assumption, (Option.some.inj h).symm⟩

end ZigbeeGateway.LightSwitch
