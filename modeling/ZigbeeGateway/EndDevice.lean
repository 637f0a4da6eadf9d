import ZigbeeGateway.Bmp180Driver
import ZigbeeGateway.PairingCommand
import ZigbeeGateway.Histories
import Mathlib.Data.Fin.VecNotation

namespace ZigbeeGateway.EndDevice
open CStrings HexText InstallCode PairingCommand Histories Bmp180

/-- The build and the board. -/
structure Config where
  /-- `CONFIG_ZIGBEE_DEVELOPMENT_SECURITY` -/
  developmentSecurity : Bool
  /-- `CONFIG_BMP180_DEVICE_TEST_MODE` -/
  testMode : Bool
  /-- `zb_get_long_address` -/
  selfIeee : IeeeAddr

inductive Signal
  | deviceFirstStart
  | deviceReboot
  | steering
  | leave
  | other
  deriving DecidableEq

inductive Callback
  | zbTriggerTempReport
  | icSetCallback
  | joinCallback
  | factoryResetHandler
  | rebootHandler
  deriving DecidableEq

/-- A write-attribute request, in the order of the macro arguments that fill it. -/
structure WriteAttrReq where
  bufid : ℕ
  attrId : UInt16
  attrType : UInt8
  value : Int16
  dstAddr : UInt16
  dstEndpoint : UInt8
  srcEndpoint : UInt8
  profileId : UInt16
  clusterId : UInt16
  deriving DecidableEq

inductive Entry
  | powerUp
  | signal (sig : Signal) (status : ℤ) (bufid : ℕ)
  | rtcCompare
  | granted (bufid : ℕ)
  | confirmed (bufid : ℕ) (status : ℤ)
  | printk (text : List UInt8)
  | ledStatusUpdate (bufid : ℕ)
  | defaultSignalHandler (bufid : ℕ)
  | icSet (ic : Code)
  | commissioning (accepted : Bool)
  | writeAttr (req : WriteAttrReq)
  | bufFree (bufid : ℕ)
  | rtcRestart (ticks : ℕ)
  | resetViaLocalAction
  | timerInit (running : Bool)
  | timerStart (ms : ℕ)
  deriving DecidableEq

def Entry.isPowerUp : Entry → Bool
  | .powerUp => true
  | _ => false

/-- What the stack and the board answer during one event. -/
structure Env where
  /-- whether a commissioning request is taken -/
  permit : Bool
  /-- the status of `zb_secur_ic_set` -/
  icSetStatus : ℤ
  /-- the status of `zb_buf_get_out_delayed` -/
  getOutStatus : ℤ
  /-- the bytes of `sys_rand_get` -/
  randomKey : Key
  /-- the I2C bus -/
  answers : ℕ → Answer

def RET_OK : ℤ := 0

/-- The statics of the firmware with what it keeps in ZBOSS and in the kernel.  `log` is what
crossed the boundary of `main.c`, oldest first. -/
structure State where
  gNetworkJoined : Bool
  dkLed4 : Bool
  rtcWorkPending : Bool
  queue : List Callback
  delayedGrants : ℕ
  requestsInFlight : List ℕ
  gIcSetParams : IcParams
  sensor : Driver
  rebootTimer : Option ℕ
  log : List Entry

namespace State

def emit (s : State) (e : Entry) : State := { s with log := s.log ++ [e] }

def printk (s : State) (out : List UInt8) : State := s.emit (.printk out)

def schedule (s : State) (cb : Callback) : State :=
  -- ZB_SCHEDULE_APP_CALLBACK
  { s with queue := s.queue ++ [cb] }

def release (s : State) (bufid : ℕ) : State :=
  -- if (bufid) zb_buf_free(bufid);
  if bufid ≠ 0 then s.emit (.bufFree bufid) else s

end State

/-- A power-up with `main` up to the start of the RTC, after the given history.
The result of `bmp180_init` is not looked at. -/
def boot (cfg : Config) (answers : ℕ → Answer) (log : List Entry) : State where
  gNetworkJoined := false
  dkLed4 := false
  rtcWorkPending := false
  queue := []
  delayedGrants := 0
  requestsInFlight := []
  gIcSetParams := .zero
  sensor := (bmp180Init cfg.testMode .initial ⟨answers, []⟩).2.1
  rebootTimer := none
  log := log ++ [.powerUp]

section Code

variable (cfg : Config) (s : State) (env : Env)

def writeAttrCallback (bufid : ℕ) : State :=
  -- the send status is only logged
  s.emit (.bufFree bufid)

/-- Attribute 0x0000 of cluster 0x0402, type 0x29, in the home automation
profile 0x0104, from endpoint 1 to endpoint 10 of the coordinator. -/
def temperatureRequest (bufid : ℕ) (tempZigbee : Int16) : WriteAttrReq :=
  ⟨bufid, 0x0000, 0x29, tempZigbee, 0x0000, 10, 1, 0x0104, 0x0402⟩

/-- `tempRaw` is what the uninitialised local holds. -/
def sendTemperatureCb (tempRaw : ℤ) (bufid : ℕ) : State :=
  -- g_network_joined is not tested again here
  let r := bmp180ReadTemperature cfg.testMode s.sensor ⟨env.answers, []⟩ (some tempRaw)
  let s := { s with sensor := r.driver }
  if r.ret ≠ 0 then s.emit (.bufFree bufid)
  else
    { s with requestsInFlight := s.requestsInFlight ++ [bufid] }.emit
      (.writeAttr (temperatureRequest bufid (Int16.ofInt (r.tempOut.getD tempRaw))))

def devInstallCode : Code :=
  ![0xff, 0xee, 0xdd, 0xcc, 0xbb, 0xaa, 0x99, 0x88, 0x77, 0x66, 0x55, 0x44, 0x33, 0x22, 0x11, 0x00,
    0x52, 0x0d]

def setupStaticInstallCode : State := s.emit (.icSet devInstallCode)

def networkJoined : State := { s with gNetworkJoined := true, dkLed4 := true }

/-- Assumed of the stack: the default handler succeeds.  If it failed, its
`ZB_ERROR_CHECK` would stop the firmware and the run would end there, with the
signal's buffer still held. -/
def zbossSignalHandler (sig : Signal) (status : ℤ) (bufid : ℕ) : State :=
  let s := s.emit (.ledStatusUpdate bufid)
  match sig with
  | .deviceFirstStart =>
    if cfg.developmentSecurity then
      ((setupStaticInstallCode s).emit (.defaultSignalHandler bufid)).release bufid
    else
      -- this branch returns early, past the common exit
      ((printProductionPairingCommands cfg.selfIeee env.randomKey).foldl State.printk s).emit
        (.bufFree bufid)
  | .deviceReboot =>
    let s := if cfg.developmentSecurity then setupStaticInstallCode s else s
    let s := if status = RET_OK then networkJoined s else s
    (s.emit (.defaultSignalHandler bufid)).release bufid
  | .steering =>
    let s := s.emit (.defaultSignalHandler bufid)
    (if status = RET_OK then networkJoined s else s).release bufid
  | .leave =>
    ({ s with gNetworkJoined := false, dkLed4 := false }.emit
      (.defaultSignalHandler bufid)).release bufid
  | .other => (s.emit (.defaultSignalHandler bufid)).release bufid

def zbTriggerTempReport : State :=
  -- not on the network yet
  if !s.gNetworkJoined then s
  else if env.getOutStatus ≠ RET_OK then s
  else { s with delayedGrants := s.delayedGrants + 1 }

def rtcWorkHandler : State := s.schedule .zbTriggerTempReport

/-- `err` and `isCompareEvent` are what `my_rtc_get_compare_event` gives;
`k_work_submit` of a pending item changes nothing. -/
def rtc2Isr (err : ℤ) (isCompareEvent : Bool) : State :=
  if err = 0 ∧ isCompareEvent = true then
    { s with rtcWorkPending := true, log := s.log ++ [.rtcCompare, .rtcRestart 32] }
  else s

def factoryResetHandler : State :=
  let s := s.emit .resetViaLocalAction
  let s := s.emit (.timerInit s.rebootTimer.isSome)
  { s with rebootTimer := some 1000 }.emit (.timerStart 1000)

def icSetCallback : State :=
  let s := s.emit (.icSet s.gIcSetParams.ic)
  if env.icSetStatus = RET_OK then s.printk (text "ic_set_success\n")
  else s.printk (text "ic_set_failed: " ++ text (toString env.icSetStatus) ++ text "\n")

def joinCallback : State :=
  let s := s.emit (.commissioning env.permit)
  if env.permit then s.printk (text "join_started\n") else s.printk (text "join_failed_busy\n")

def rebootHandler : State :=
  -- sys_reboot(SYS_REBOOT_COLD)
  boot cfg env.answers s.log

def parseUartCommand (line : Buffer) : State :=
  let s := s.printk (text "Parsed UART Command: '" ++ cstr line ++ text "'\n")
  match icCommand (text "ic_set ") s.gIcSetParams line with
  | .invalid => s.printk (text "ic_set_failed: invalid format\n")
  | .accepted p => { s with gIcSetParams := p }.schedule .icSetCallback
  | .other =>
    if strcmp line (text "join") = 0 then s.schedule .joinCallback
    else if strcmp line (text "factory_reset") = 0 then
      (s.printk (text "factory_reset_started\n")).schedule .factoryResetHandler
    else if strcmp line (text "reboot") = 0 then
      (s.printk (text "reboot_started\n")).schedule .rebootHandler
    else if strcmp line (text "ieee") = 0 then
      s.printk (text "Device IEEE Address: " ++
        hexText (List.ofFn fun i : Fin 8 => cfg.selfIeee i.rev) ++ text "\n")
    else s

def runCallback : Callback → State
  | .zbTriggerTempReport => zbTriggerTempReport s env
  | .icSetCallback => icSetCallback s env
  | .joinCallback => joinCallback s env
  | .factoryResetHandler => factoryResetHandler s
  | .rebootHandler => rebootHandler cfg s env

end Code

/-- What can happen next: a stack signal, the RTC interrupt, the work queue
running its item, the stack running the callback at the head of its queue, the
stack granting a buffer to `send_temperature_cb`, the confirmation of a write
request, a console line, or a millisecond passing. -/
inductive Event
  | signal (sig : Signal) (status : ℤ) (bufid : ℕ) (env : Env)
  | rtcInterrupt (err : ℤ) (isCompareEvent : Bool)
  | work
  | callback (env : Env)
  | grant (bufid : ℕ) (tempRaw : ℤ) (env : Env)
  | confirm (bufid : ℕ) (status : ℤ)
  | uartLine (line : Buffer)
  | tick (env : Env)

def tick (cfg : Config) (s : State) (env : Env) : State :=
  -- on expiry reboot_timer_handler does a cold reboot
  match s.rebootTimer with
  | none => s
  | some ms => if ms ≤ 1 then rebootHandler cfg s env else { s with rebootTimer := some (ms - 1) }

/-- `none` if the event cannot happen in the state.  The stack hands out no
buffer that a request still holds. -/
def step (cfg : Config) (s : State) : Event → Option State
  | .signal sig status bufid env =>
    if bufid ∈ s.requestsInFlight then none
    else some (zbossSignalHandler cfg (s.emit (.signal sig status bufid)) env sig status bufid)
  | .rtcInterrupt err isCompareEvent => some (rtc2Isr s err isCompareEvent)
  | .work =>
    if s.rtcWorkPending then some (rtcWorkHandler { s with rtcWorkPending := false }) else none
  | .callback env =>
    match s.queue with
    | [] => none
    | cb :: rest => some (runCallback cfg { s with queue := rest } env cb)
  | .grant bufid tempRaw env =>
    if 0 < s.delayedGrants ∧ bufid ≠ 0 ∧ bufid ∉ s.requestsInFlight then
      some (sendTemperatureCb cfg
        ({ s with delayedGrants := s.delayedGrants - 1 }.emit (.granted bufid)) env tempRaw bufid)
    else none
  | .confirm bufid status =>
    if bufid ∈ s.requestsInFlight then
      some (writeAttrCallback ({ s with requestsInFlight := s.requestsInFlight.erase bufid }.emit
        (.confirmed bufid status)) bufid)
    else none
  | .uartLine line => some (parseUartCommand cfg s line)
  | .tick env => some (tick cfg s env)

theorem step_callback {cfg : Config} {s s' : State} {env : Env}
    (h : step cfg s (.callback env) = some s') :
    ∃ cb rest, s.queue = cb :: rest ∧ s' = runCallback cfg { s with queue := rest } env cb := by
  simp only [step] at h
  split at h
  · exact absurd h (by simp)
  · exact ⟨_, _, by assumption, (Option.some.inj h).symm⟩

theorem step_tick {cfg : Config} {s s' : State} {env : Env}
    (h : step cfg s (.tick env) = some s') :
    s' = boot cfg env.answers s.log ∨ ∃ t, s' = { s with rebootTimer := t } := by
  obtain rfl := Option.some.inj h
  unfold tick
  split
  · exact .inr ⟨_, rfl⟩
  · split
    · exact .inl rfl
    · exact .inr ⟨_, rfl⟩

theorem parseUartCommand_accepted {s : State} {line : Buffer} {p : IcParams}
    (h : icCommand (text "ic_set ") s.gIcSetParams line = .accepted p) (cfg : Config) :
    parseUartCommand cfg s line =
      { s.printk (text "Parsed UART Command: '" ++ cstr line ++ text "'\n") with
        gIcSetParams := p }.schedule .icSetCallback := by
  unfold parseUartCommand
  dsimp only
  have h' : icCommand (text "ic_set ") (s.printk (text "Parsed UART Command: '" ++ cstr line ++
      text "'\n")).gIcSetParams line = .accepted p := h
  rw [h']

/-- A line that is no accepted `ic_set` keeps the parameters and schedules no
setting of a code. -/
theorem parseUartCommand_refused {s : State} {line : Buffer}
    (h : ∀ p, icCommand (text "ic_set ") s.gIcSetParams line ≠ .accepted p) (cfg : Config) :
    (parseUartCommand cfg s line).gIcSetParams = s.gIcSetParams ∧
      ∃ cbs, (parseUartCommand cfg s line).queue = s.queue ++ cbs ∧ .icSetCallback ∉ cbs := by
  unfold parseUartCommand
  dsimp only
  split
  · exact ⟨rfl, [], (List.append_nil _).symm, List.not_mem_nil⟩
  · rename_i p hp
    exact absurd hp (h p)
  · split_ifs
    · exact ⟨rfl, _, rfl, by decide⟩
    · exact ⟨rfl, _, rfl, by decide⟩
    · exact ⟨rfl, _, rfl, by decide⟩
    · exact ⟨rfl, [], (List.append_nil _).symm, List.not_mem_nil⟩
    · exact ⟨rfl, [], (List.append_nil _).symm, List.not_mem_nil⟩

theorem parseUartCommand_not_scheduled {s : State} {line : Buffer}
    (h : ∀ p, icCommand (text "ic_set ") s.gIcSetParams line ≠ .accepted p) (cfg : Config) :
    (parseUartCommand cfg s line).queue ≠ s.queue ++ [.icSetCallback] := by
  obtain ⟨cbs, hcbs, hnot⟩ := (parseUartCommand_refused h cfg).2
  rw [hcbs, Ne, List.append_cancel_left_eq]
  intro hq
  exact hnot (by simp [hq])

def Env.working : Env := ⟨true, 0, 0, fun _ => 0, fun _ => ⟨true, 0, fun _ => 1⟩⟩

def Config.production : Config := ⟨false, false, fun _ => 0⟩

end ZigbeeGateway.EndDevice
