import ZigbeeGateway.PairingCommand
import ZigbeeGateway.MachineWords
import ZigbeeGateway.Histories
import Mathlib.Data.Fin.VecNotation

namespace ZigbeeGateway.Coordinator
open CStrings HexText InstallCode PairingCommand Histories

inductive Mode
  | formation
  | steering
  deriving DecidableEq

inductive Signal
  | deviceFirstStart
  | deviceReboot
  | formation
  | steering
  | deviceAnnce
  | other
  deriving DecidableEq

inductive Callback
  | startIdentifying
  | icAddCallback
  | factoryResetHandler
  | reopenSteeringCb
  deriving DecidableEq

inductive Entry
  | powerUp
  | signal (sig : Signal) (status : ℤ)
  | printk (text : List UInt8)
  | setInstallcodePolicy (on : Bool)
  | icAdd (addr : IeeeAddr) (ic : Code)
  | commissioning (mode : Mode) (accepted : Bool)
  | steeringFinished
  | resetViaLocalAction
  | timerInit (running : Bool)
  | timerStart (ms : ℕ)
  | findingBindingTarget
  | findingBindingTargetCancel
  | checkFactoryResetButton (buttonState hasChanged : BitVec 32)
  | defaultSignalHandler
  | bufFree (bufid : ℕ)
  deriving DecidableEq

def Entry.isPowerUp : Entry → Bool
  | .powerUp => true
  | _ => false

/-- What the stack answers during one event. -/
structure Zboss where
  /-- `ZB_JOINED()` -/
  joined : Bool
  /-- whether a commissioning request is taken while none is in progress -/
  permit : Bool
  /-- `was_factory_reset_done()` -/
  factoryResetDone : Bool
  /-- `identify_time` has its default value -/
  identifyIdle : Bool

def RET_OK : ℤ := 0

/-- The statics of the firmware with what it keeps in ZBOSS and in the kernel: the FIFO of
scheduled callbacks, the pending `steering_finished` alarms, the commissioning in progress
and the reboot timer.  `log` is what crossed the boundary of `main.c`, oldest first. -/
structure State where
  gIcAddParams : IcParams
  queue : List Callback
  alarms : ℕ
  networkLed : Bool
  bdb : Option Mode
  rebootTimer : Option ℕ
  log : List Entry

namespace State

def emit (s : State) (e : Entry) : State := { s with log := s.log ++ [e] }

def printk (s : State) (out : List UInt8) : State := s.emit (.printk out)

def schedule (s : State) (cb : Callback) : State :=
  -- ZB_SCHEDULE_APP_CALLBACK
  { s with queue := s.queue ++ [cb] }

/-- `bdb_start_top_level_commissioning`: refused while a request is in
progress, and the stack may refuse for reasons of its own. -/
def bdbStart (s : State) (z : Zboss) (mode : Mode) : Bool × State :=
  let ok := z.permit && s.bdb.isNone
  (ok, { s with bdb := if ok then some mode else s.bdb }.emit (.commissioning mode ok))

/-- `ZB_SCHEDULE_APP_ALARM(steering_finished, ..)`.  All these alarms have the
same callback and parameter, so the code can only tell how many there are. -/
def alarmSchedule (s : State) : State := { s with alarms := s.alarms + 1 }

def alarmCancel (s : State) : Bool × State :=
  -- any of them, by ZB_ALARM_ANY_PARAM, and whether RET_OK was returned
  (0 < s.alarms, { s with alarms := s.alarms - 1 })

end State

section Code

variable (dev : Bool) (s : State) (z : Zboss)

def steeringFinished : State := { s with networkLed := false }.emit .steeringFinished

def startIdentifying : State :=
  if z.joined then
    if z.identifyIdle then s.emit .findingBindingTarget else s.emit .findingBindingTargetCancel
  else s

def KEY_ZIGBEE_NETWORK_REOPEN : BitVec 32 := 1

def IDENTIFY_MODE_BUTTON : BitVec 32 := 8

def reopenButton : State :=
  -- the reopen branch of button_changed
  (s.alarmCancel.2.bdbStart z .steering).2

def buttonChanged (buttonState hasChanged : BitVec 32) : State :=
  let buttons := buttonState &&& hasChanged
  let s := if buttons &&& KEY_ZIGBEE_NETWORK_REOPEN ≠ 0 then reopenButton s z else s
  -- the release of the identify button, unless the press was a factory reset
  let s :=
    if IDENTIFY_MODE_BUTTON &&& hasChanged ≠ 0 ∧ IDENTIFY_MODE_BUTTON &&& buttonState = 0 ∧
        z.factoryResetDone = false then
      s.schedule .startIdentifying
    else s
  s.emit (.checkFactoryResetButton buttonState hasChanged)

/-- The hard-coded address and code of the development build. -/
def devIeeeAddr : IeeeAddr := ![0xec, 0xa7, 0x12, 0x33, 0x9e, 0x36, 0xce, 0xf4]

def devInstallCode : Code :=
  ![0xff, 0xee, 0xdd, 0xcc, 0xbb, 0xaa, 0x99, 0x88, 0x77, 0x66, 0x55, 0x44, 0x33, 0x22, 0x11, 0x00,
    0x52, 0x0d]

def registerStaticDevelopmentKeys : State :=
  (s.emit (.setInstallcodePolicy true)).emit (.icAdd devIeeeAddr devInstallCode)

/-- The `switch` of `zboss_signal_handler`.  `ZIGBEE_MANUAL_STEERING` and
`ZIGBEE_PERMIT_LEGACY_DEVICES` are both `ZB_FALSE`.  What `ZB_COMM_STATUS_CHECK`
does with a refused request belongs to the SDK; here the run goes on.  The calls
under `ZB_ERROR_CHECK` succeed. -/
def dispatchSignal (sig : Signal) (status : ℤ) : State :=
  match sig with
  | .deviceFirstStart => if status = RET_OK then (s.bdbStart z .formation).2 else s
  | .deviceReboot =>
    if status = RET_OK then
      ((if dev then registerStaticDevelopmentKeys s else s).bdbStart z .steering).2
    -- NVRAM empty or invalid
    else (s.bdbStart z .formation).2
  | .formation =>
    if status = RET_OK then
      ((if dev then registerStaticDevelopmentKeys s else s).bdbStart z .steering).2
    else s
  | .steering => if status = RET_OK then s.alarmSchedule else s
  -- a device has joined: the end of a pending window is put off
  | .deviceAnnce => if s.alarmCancel.1 then s.alarmCancel.2.alarmSchedule else s.alarmCancel.2
  | .other => s.emit .defaultSignalHandler

def updateLed : State := { s with networkLed := z.joined && decide (0 < s.alarms) }

def zbossSignalHandler (sig : Signal) (status : ℤ) (bufid : ℕ) : State :=
  let s := updateLed (dispatchSignal dev s z sig status) z
  if bufid ≠ 0 then s.emit (.bufFree bufid) else s

def factoryResetHandler : State :=
  -- k_timer_init and k_timer_start of the 1000 ms reboot timer
  let s := s.emit .resetViaLocalAction
  let s := s.emit (.timerInit s.rebootTimer.isSome)
  { s with rebootTimer := some 1000 }.emit (.timerStart 1000)

def replySteering (r : Bool × State) : State :=
  if r.1 then r.2.printk (text "steering_started\n")
  else r.2.printk (text "steering_already_active\n")

def reopenSteeringCb : State := replySteering (s.alarmCancel.2.bdbStart z .steering)

def printAddr (addr : IeeeAddr) : State :=
  -- most significant byte first
  (List.finRange 8).foldl (fun s i => s.printk (hexPair (addr i.rev))) s

def icAddCallback : State :=
  let p := s.gIcAddParams
  let s := s.emit (.setInstallcodePolicy true)
  -- the outcome goes to a NULL callback, so nothing below depends on it
  let s := s.emit (.icAdd p.addr p.ic)
  let s := s.printk (text "ic_add_success: ")
  let s := printAddr s p.addr
  let s := s.printk (text "\n")
  replySteering (s.bdbStart z .steering)

def parseUartCommand (line : Buffer) : State :=
  match icCommand (text "ic_add ") s.gIcAddParams line with
  | .invalid => s.printk (text "ic_add_failed: invalid format\n")
  | .accepted p => { s with gIcAddParams := p }.schedule .icAddCallback
  | .other =>
    if strcmp line (text "factory_reset") = 0 then
      (s.printk (text "factory_reset_started\n")).schedule .factoryResetHandler
    else if strcmp line (text "reopen") = 0 then s.schedule .reopenSteeringCb
    else s

def runCallback : Callback → State
  | .startIdentifying => startIdentifying s z
  | .icAddCallback => icAddCallback s z
  | .factoryResetHandler => factoryResetHandler s
  | .reopenSteeringCb => reopenSteeringCb s z

end Code

/-- A power-up with `main` up to `zigbee_enable`, after the given history. -/
def boot (dev : Bool) (log : List Entry) : State :=
  let s : State := ⟨.zero, [], 0, false, none, none, log ++ [.powerUp]⟩
  if dev then s.emit (.setInstallcodePolicy true) else s

/-- What can happen next: a stack signal, a console line, a change of the
buttons, the stack running the callback at the head of its queue, the expiry of
a `steering_finished` alarm, or a millisecond passing. -/
inductive Event
  | signal (sig : Signal) (status : ℤ) (bufid : ℕ) (z : Zboss)
  | uartLine (line : Buffer)
  | buttons (buttonState hasChanged : BitVec 32) (z : Zboss)
  | callback (z : Zboss)
  | alarm
  | tick

/-- The stack delivers a signal.  A steering signal is the outcome of a steering
that is in progress; it and a formation signal end their commissioning. -/
def deliver (s : State) (sig : Signal) (status : ℤ) : Option State :=
  let s := s.emit (.signal sig status)
  match sig with
  | .steering => if s.bdb = some .steering then some { s with bdb := none } else none
  | .formation => some { s with bdb := if s.bdb = some .formation then none else s.bdb }
  | _ => some s

/-- A millisecond of the reboot timer; on expiry `reboot_timer_handler` does a
cold reboot. -/
def tick (dev : Bool) (s : State) : State :=
  match s.rebootTimer with
  | none => s
  | some ms => if ms ≤ 1 then boot dev s.log else { s with rebootTimer := some (ms - 1) }

/-- `none` if the event cannot happen in the state. -/
def step (dev : Bool) (s : State) : Event → Option State
  | .signal sig status bufid z =>
    (deliver s sig status).map fun s => zbossSignalHandler dev s z sig status bufid
  | .uartLine line => some (parseUartCommand s line)
  | .buttons buttonState hasChanged z => some (buttonChanged s z buttonState hasChanged)
  | .callback z =>
    match s.queue with
    | [] => none
    | cb :: rest => some (runCallback { s with queue := rest } z cb)
  | .alarm =>
    if 0 < s.alarms then some (steeringFinished { s with alarms := s.alarms - 1 }) else none
  | .tick => some (tick dev s)

/-- A boot signal comes once after a power-up, and a formation signal when a
formation is in progress.  Not part of `step`, which allows more. -/
def solicited (s : State) : Event → Bool
  | .signal .formation _ _ _ => s.bdb = some .formation
  | .signal .deviceFirstStart _ _ _ | .signal .deviceReboot _ _ _ =>
    (since Entry.isPowerUp s.log).all fun
      | .signal _ _ => false
      | _ => true
  | _ => true

def Zboss.willing : Zboss := ⟨true, true, false, true⟩

namespace State

variable (s : State) (e : Entry) (z : Zboss) (mode : Mode)

@[simp] theorem emit_gIcAddParams : (s.emit e).gIcAddParams = s.gIcAddParams := rfl
@[simp] theorem emit_queue : (s.emit e).queue = s.queue := rfl
@[simp] theorem emit_alarms : (s.emit e).alarms = s.alarms := rfl
@[simp] theorem emit_bdb : (s.emit e).bdb = s.bdb := rfl
@[simp] theorem emit_rebootTimer : (s.emit e).rebootTimer = s.rebootTimer := rfl
@[simp] theorem emit_log : (s.emit e).log = s.log ++ [e] := rfl

@[simp] theorem bdbStart_gIcAddParams : (s.bdbStart z mode).2.gIcAddParams = s.gIcAddParams := rfl
@[simp] theorem bdbStart_queue : (s.bdbStart z mode).2.queue = s.queue := rfl
@[simp] theorem bdbStart_alarms : (s.bdbStart z mode).2.alarms = s.alarms := rfl
@[simp] theorem bdbStart_log : (s.bdbStart z mode).2.log =
    s.log ++ [.commissioning mode (s.bdbStart z mode).1] := rfl

end State

theorem printAddr_eq (s : State) (addr : IeeeAddr) :
    printAddr s addr =
      { s with log := s.log ++ (List.finRange 8).map fun i => .printk (hexPair (addr i.rev)) } := by
  unfold printAddr
  generalize List.finRange 8 = l
  induction l generalizing s with
  | nil => simp
  | cons i l ih =>
    rw [List.foldl_cons, ih]
    simp [State.printk]
    rfl

def steeringReply (started : Bool) : List UInt8 :=
  if started then text "steering_started\n" else text "steering_already_active\n"

theorem replySteering_eq (r : Bool × State) :
    replySteering r = r.2.emit (.printk (steeringReply r.1)) := by
  unfold replySteering steeringReply
  split <;> rfl

/-- What `ic_add_callback` does, in order. -/
def icAddEntries (p : IcParams) (started : Bool) : List Entry :=
  [.setInstallcodePolicy true, .icAdd p.addr p.ic, .printk (text "ic_add_success: ")] ++
    (List.finRange 8).map (fun i => .printk (hexPair (p.addr i.rev))) ++
    [.printk (text "\n"), .commissioning .steering started, .printk (steeringReply started)]

theorem icAddCallback_log (s : State) (z : Zboss) :
    (icAddCallback s z).log =
      s.log ++ icAddEntries s.gIcAddParams (z.permit && s.bdb.isNone) := by
  simp [icAddCallback, replySteering_eq, printAddr_eq, State.printk, icAddEntries,
    State.bdbStart]

def Entry.pair : Entry → Option IcParams
  | .icAdd addr ic => some ⟨addr, ic⟩
  | _ => none

/-- The pairs passed to `zb_secur_ic_add`, in order. -/
def registered (log : List Entry) : List IcParams := log.filterMap Entry.pair

theorem registered_icAddEntries (p : IcParams) (started : Bool) :
    registered (icAddEntries p started) = [p] := by
  unfold icAddEntries
  generalize List.finRange 8 = l
  simp [registered, List.filterMap_cons, List.filterMap_append, List.filterMap_map, Entry.pair,
    Function.comp_def]

section Inversion

variable {dev : Bool} {s s' : State}

theorem step_callback {z : Zboss} (h : step dev s (.callback z) = some s') :
    ∃ cb rest, s.queue = cb :: rest ∧ s' = runCallback { s with queue := rest } z cb := by
  simp only [step] at h
  split at h
  · exact absurd h (by simp)
  · exact ⟨_, _, by assumption, (Option.some.inj h).symm⟩

theorem step_alarm (h : step dev s .alarm = some s') :
    0 < s.alarms ∧ s' = steeringFinished { s with alarms := s.alarms - 1 } := by
  obtain ⟨hpos, h⟩ := Option.ite_none_right_eq_some.mp h
  exact ⟨hpos, (Option.some.inj h).symm⟩

theorem step_tick (h : step dev s .tick = some s') :
    s' = boot dev s.log ∨ ∃ t, s' = { s with rebootTimer := t } := by
  obtain rfl := Option.some.inj h
  unfold tick
  split
  · exact .inr ⟨_, rfl⟩
  · split
    · exact .inl rfl
    · exact .inr ⟨_, rfl⟩

end Inversion

theorem parseUartCommand_accepted {s : State} {line : Buffer} {p : IcParams}
    (h : icCommand (text "ic_add ") s.gIcAddParams line = .accepted p) :
    parseUartCommand s line = { s with gIcAddParams := p }.schedule .icAddCallback := by
  rw [parseUartCommand, h]

/-- A line that is no accepted `ic_add` keeps the parameters and schedules no
registration. -/
theorem parseUartCommand_refused {s : State} {line : Buffer}
    (h : ∀ p, icCommand (text "ic_add ") s.gIcAddParams line ≠ .accepted p) :
    (parseUartCommand s line).gIcAddParams = s.gIcAddParams ∧
      ∃ cbs, (parseUartCommand s line).queue = s.queue ++ cbs ∧ .icAddCallback ∉ cbs := by
  unfold parseUartCommand
  split
  · exact ⟨rfl, [], (List.append_nil _).symm, List.not_mem_nil⟩
  · rename_i p hp
    exact absurd hp (h p)
  · split_ifs
    · exact ⟨rfl, _, rfl, by decide⟩
    · exact ⟨rfl, _, rfl, by decide⟩
    · exact ⟨rfl, [], (List.append_nil _).symm, List.not_mem_nil⟩

theorem parseUartCommand_not_scheduled {s : State} {line : Buffer}
    (h : ∀ p, icCommand (text "ic_add ") s.gIcAddParams line ≠ .accepted p) :
    (parseUartCommand s line).queue ≠ s.queue ++ [.icAddCallback] := by
  obtain ⟨cbs, hcbs, hnot⟩ := (parseUartCommand_refused h).2
  rw [hcbs, Ne, List.append_cancel_left_eq]
  intro hq
  exact hnot (by simp [hq])

/-- An entry that is neither a power-up nor a change of policy or of keys. -/
def Entry.Quiet : Entry → Prop
  | .powerUp | .setInstallcodePolicy _ | .icAdd _ _ => False
  | _ => True

abbrev Grows (s s' : State) : Prop := Extends Entry.Quiet s.log s'.log

theorem Grows.registered_eq {s s' : State} (h : Grows s s') :
    registered s'.log = registered s.log := by
  apply Extends.filterMap_eq
  apply h.mono
  intro e he
  cases e <;> first | rfl | exact he.elim

theorem bdbStart_grows (s : State) (z : Zboss) (mode : Mode) : Grows s (s.bdbStart z mode).2 :=
  ⟨[_], rfl, by simp [Entry.Quiet]⟩

theorem printk_grows (s : State) (out : List UInt8) : Grows s (s.printk out) :=
  (Extends.refl s.log).concat trivial

theorem alarmCancel_grows (s : State) : Grows s s.alarmCancel.2 := .refl _

theorem replySteering_grows (r : Bool × State) : Grows r.2 (replySteering r) := by
  rw [replySteering_eq]
  exact (Extends.refl _).concat trivial

theorem reopenButton_grows (s : State) (z : Zboss) : Grows s (reopenButton s z) :=
  (alarmCancel_grows s).trans (bdbStart_grows _ z .steering)

theorem buttonChanged_grows (s : State) (z : Zboss) (st ch : BitVec 32) :
    Grows s (buttonChanged s z st ch) := by
  unfold buttonChanged
  have hreopen : Grows s (if st &&& ch &&& KEY_ZIGBEE_NETWORK_REOPEN ≠ 0 then reopenButton s z
      else s) := by
    split
    · exact reopenButton_grows s z
    · exact .refl _
  dsimp only
  refine Extends.concat ?_ trivial
  split
  · exact hreopen.trans (.refl _)
  · exact hreopen

theorem reopenSteeringCb_grows (s : State) (z : Zboss) : Grows s (reopenSteeringCb s z) :=
  ((alarmCancel_grows s).trans (bdbStart_grows _ z .steering)).trans (replySteering_grows _)

theorem startIdentifying_grows (s : State) (z : Zboss) : Grows s (startIdentifying s z) := by
  unfold startIdentifying
  split_ifs
  · exact (Extends.refl s.log).concat trivial
  · exact (Extends.refl s.log).concat trivial
  · exact .refl _

theorem factoryResetHandler_log (s : State) : (factoryResetHandler s).log =
    s.log ++ [.resetViaLocalAction, .timerInit s.rebootTimer.isSome, .timerStart 1000] := by
  simp [factoryResetHandler]

theorem factoryResetHandler_grows (s : State) : Grows s (factoryResetHandler s) :=
  ⟨_, factoryResetHandler_log s, by simp [Entry.Quiet]⟩

theorem parseUartCommand_grows (s : State) (line : Buffer) : Grows s (parseUartCommand s line) := by
  unfold parseUartCommand
  split
  · exact printk_grows s _
  · exact .refl _
  · split_ifs
    · exact (printk_grows s _).trans (.refl _)
    · exact .refl _
    · exact .refl _

/-- In the production build the signal cases change neither policy nor keys. -/
theorem dispatchSignal_grows (s : State) (z : Zboss) (sig : Signal) (status : ℤ) :
    Grows s (dispatchSignal false s z sig status) := by
  cases sig <;> simp only [dispatchSignal, Bool.false_eq_true, if_false]
  case other => exact (Extends.refl s.log).concat trivial
  all_goals
    split_ifs
    all_goals first
      | exact bdbStart_grows s z _
      | exact .refl _

theorem zbossSignalHandler_grows {s t : State} {dev : Bool} {z : Zboss} {sig : Signal}
    {status : ℤ} (bufid : ℕ) (h : Grows t (dispatchSignal dev s z sig status)) :
    Grows t (zbossSignalHandler dev s z sig status bufid) := by
  unfold zbossSignalHandler
  have hled : Grows t (updateLed (dispatchSignal dev s z sig status) z) := h.trans (.refl _)
  dsimp only
  split
  · exact hled.concat trivial
  · exact hled

theorem deliver_grows {s s' : State} {sig : Signal} {status : ℤ}
    (h : deliver s sig status = some s') : Grows s s' := by
  have hsig : Grows s (s.emit (.signal sig status)) := (Extends.refl s.log).concat trivial
  unfold deliver at h
  cases sig <;> simp only at h
  case steering =>
    split at h
    · obtain rfl := Option.some.inj h
      exact hsig.trans (.refl _)
    · exact absurd h (by simp)
  all_goals
    obtain rfl := Option.some.inj h
    exact hsig.trans (.refl _)

end ZigbeeGateway.Coordinator
