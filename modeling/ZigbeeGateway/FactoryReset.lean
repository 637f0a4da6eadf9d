import ZigbeeGateway.Coordinator
import ZigbeeGateway.EndDevice
import ZigbeeGateway.OneShotTimer

namespace ZigbeeGateway.Coordinator
open CStrings PairingCommand Histories OneShotTimer

def State.timing (s : State) : Timing :=
  ⟨s.rebootTimer, s.log.countP Entry.isPowerUp, s.log.count (.timerInit true)⟩

def timerAct (s : State) : Event → Act
  | .callback _ => if s.queue.head? = some .factoryResetHandler then .start else .idle
  | .tick => .tick
  | _ => .idle

theorem timing_emit (s : State) {e : Entry} (h : e.isPowerUp = false) (hi : e ≠ .timerInit true) :
    (s.emit e).timing = s.timing := by
  simp [State.timing, h, hi]

theorem timing_printk (s : State) (out : List UInt8) : (s.printk out).timing = s.timing :=
  timing_emit s rfl (by simp)

theorem timing_bdbStart (s : State) (z : Zboss) (mode : Mode) :
    (s.bdbStart z mode).2.timing = s.timing :=
  timing_emit _ rfl (by simp)

theorem timing_replySteering (r : Bool × State) : (replySteering r).timing = r.2.timing := by
  rw [replySteering_eq]
  exact timing_emit _ rfl (by simp)

theorem timing_parseUartCommand (s : State) (line : Buffer) :
    (parseUartCommand s line).timing = s.timing := by
  unfold parseUartCommand
  split
  · exact timing_printk s _
  · rfl
  · split_ifs
    · exact timing_printk s _
    · rfl
    · rfl

theorem timing_buttonChanged (s : State) (z : Zboss) (buttonState hasChanged : BitVec 32) :
    (buttonChanged s z buttonState hasChanged).timing = s.timing := by
  have hreopen : (reopenButton s z).timing = s.timing := timing_bdbStart _ z .steering
  unfold buttonChanged
  dsimp only
  split_ifs
  all_goals
    refine (timing_emit _ rfl (by simp)).trans ?_
    first
      | exact hreopen
      | rfl

theorem timing_startIdentifying (s : State) (z : Zboss) :
    (startIdentifying s z).timing = s.timing := by
  unfold startIdentifying
  split_ifs
  · exact timing_emit s rfl (by simp)
  · exact timing_emit s rfl (by simp)
  · rfl

theorem timing_icAddCallback (s : State) (z : Zboss) : (icAddCallback s z).timing = s.timing := by
  have hlog := icAddCallback_log s z
  have hleft : (icAddCallback s z).rebootTimer = s.rebootTimer := by
    simp [icAddCallback, replySteering_eq, printAddr_eq, State.printk, State.bdbStart]
  have hprints : ∀ l : List (Fin 8), (l.map fun i => Entry.printk
      (HexText.hexPair (s.gIcAddParams.addr i.rev))).count (.timerInit true) = 0 := by
    simp [List.count_eq_zero]
  rw [State.timing, hleft, hlog]
  simp [State.timing, icAddEntries, Entry.isPowerUp, hprints]

theorem timing_dispatchSignal (dev : Bool) (s : State) (z : Zboss) (sig : Signal) (status : ℤ) :
    (dispatchSignal dev s z sig status).timing = s.timing := by
  have hkeys : (if dev then registerStaticDevelopmentKeys s else s).timing = s.timing := by
    split
    · rw [registerStaticDevelopmentKeys, timing_emit _ rfl (by simp), timing_emit _ rfl (by simp)]
    · rfl
  cases sig <;> simp only [dispatchSignal]
  case deviceFirstStart =>
    split
    · exact timing_bdbStart s z _
    · rfl
  case deviceReboot =>
    split
    · exact (timing_bdbStart _ z _).trans hkeys
    · exact timing_bdbStart s z _
  case formation =>
    split
    · exact (timing_bdbStart _ z _).trans hkeys
    · rfl
  case steering => split <;> rfl
  case deviceAnnce => split <;> rfl
  case other => exact timing_emit s rfl (by simp)

theorem timing_zbossSignalHandler (dev : Bool) (s : State) (z : Zboss) (sig : Signal)
    (status : ℤ) (bufid : ℕ) : (zbossSignalHandler dev s z sig status bufid).timing = s.timing := by
  unfold zbossSignalHandler
  dsimp only
  split
  · rw [timing_emit _ rfl (by simp)]
    exact timing_dispatchSignal dev s z sig status
  · exact timing_dispatchSignal dev s z sig status

theorem timing_deliver {s s' : State} {sig : Signal} {status : ℤ}
    (h : deliver s sig status = some s') : s'.timing = s.timing := by
  rw [← timing_emit s (e := .signal sig status) rfl (by simp)]
  unfold deliver at h
  cases sig <;> simp only at h
  case steering =>
    obtain ⟨-, h⟩ := Option.ite_none_right_eq_some.mp h
    obtain rfl := Option.some.inj h
    rfl
  all_goals
    obtain rfl := Option.some.inj h
    rfl

theorem timing_factoryResetHandler (s : State) :
    (factoryResetHandler s).timing = s.timing.act 1000 .start := by
  cases h : s.rebootTimer <;>
    simp [State.timing, factoryResetHandler, Timing.act, Entry.isPowerUp, h]

theorem timing_boot (dev : Bool) (log : List Entry) : (boot dev log).timing =
    ⟨none, log.countP Entry.isPowerUp + 1, log.count (.timerInit true)⟩ := by
  cases dev <;> simp [boot, State.timing, Entry.isPowerUp, List.countP_cons]

theorem timing_tick (dev : Bool) (s : State) : (tick dev s).timing = s.timing.act 1000 .tick := by
  unfold tick
  split
  · rename_i h
    simp [Timing.act, State.timing, h]
  · rename_i ms h
    split
    · rename_i hlast
      rw [timing_boot]
      simp [Timing.act, State.timing, h, hlast]
    · rename_i hmore
      simp [Timing.act, State.timing, h, hmore]

theorem timing_step {dev : Bool} {s s' : State} {e : Event} (h : step dev s e = some s') :
    s'.timing = s.timing.act 1000 (timerAct s e) := by
  cases e with
  | signal sig status bufid z =>
    obtain ⟨t, ht, rfl⟩ := Option.map_eq_some_iff.mp h
    exact (timing_zbossSignalHandler dev t z sig status bufid).trans (timing_deliver ht)
  | uartLine line =>
    obtain rfl := Option.some.inj h
    exact timing_parseUartCommand s line
  | buttons buttonState hasChanged z =>
    obtain rfl := Option.some.inj h
    exact timing_buttonChanged s z buttonState hasChanged
  | callback z =>
    obtain ⟨cb, rest, hq, rfl⟩ := step_callback h
    have hact : timerAct s (.callback z) =
        if cb = .factoryResetHandler then .start else .idle := by simp [timerAct, hq]
    rw [hact]
    -- only the reset touches the timer
    cases cb with
    | factoryResetHandler => exact timing_factoryResetHandler { s with queue := rest }
    | startIdentifying => exact timing_startIdentifying { s with queue := rest } z
    | icAddCallback => exact timing_icAddCallback { s with queue := rest } z
    | reopenSteeringCb => exact (timing_replySteering _).trans (timing_bdbStart _ z .steering)
  | alarm =>
    obtain ⟨-, rfl⟩ := step_alarm h
    exact timing_emit _ rfl (by simp)
  | tick =>
    obtain rfl := Option.some.inj h
    exact timing_tick dev s

def resetTimer (dev : Bool) : Device (Fires (step dev)) 1000 where
  timing := State.timing
  act := timerAct
  law := timing_step

end ZigbeeGateway.Coordinator

namespace ZigbeeGateway.EndDevice
open CStrings PairingCommand Histories Bmp180 OneShotTimer

def State.timing (s : State) : Timing :=
  ⟨s.rebootTimer, s.log.countP Entry.isPowerUp, s.log.count (.timerInit true)⟩

def timerAct (s : State) : Event → Act
  | .callback _ =>
    match s.queue.head? with
    | some .factoryResetHandler => .start
    | some .rebootHandler => .reboot
    | _ => .idle
  | .tick _ => .tick
  | _ => .idle

theorem timing_emit (s : State) {e : Entry} (h : e.isPowerUp = false) (hi : e ≠ .timerInit true) :
    (s.emit e).timing = s.timing := by
  simp [State.timing, State.emit, h, hi]

theorem timing_printk (s : State) (out : List UInt8) : (s.printk out).timing = s.timing :=
  timing_emit s rfl (by simp)

theorem timing_foldl_printk (s : State) (out : List (List UInt8)) :
    (out.foldl State.printk s).timing = s.timing := by
  induction out generalizing s with
  | nil => rfl
  | cons line out ih => rw [List.foldl_cons, ih, timing_printk]

theorem timing_release (s : State) (bufid : ℕ) : (s.release bufid).timing = s.timing := by
  unfold State.release
  split
  · exact timing_emit s rfl (by simp)
  · rfl

theorem timing_parseUartCommand (cfg : Config) (s : State) (line : Buffer) :
    (parseUartCommand cfg s line).timing = s.timing := by
  unfold parseUartCommand
  rw [← timing_printk s (text "Parsed UART Command: '" ++ cstr line ++ text "'\n")]
  generalize s.printk (text "Parsed UART Command: '" ++ cstr line ++ text "'\n") = t
  dsimp only
  split
  · exact timing_printk t _
  · rfl
  · split_ifs
    · rfl
    · exact timing_printk t _
    · exact timing_printk t _
    · exact timing_printk t _
    · rfl

theorem timing_zbossSignalHandler (cfg : Config) (s : State) (env : Env) (sig : Signal)
    (status : ℤ) (bufid : ℕ) : (zbossSignalHandler cfg s env sig status bufid).timing =
      s.timing := by
  have hled : (s.emit (.ledStatusUpdate bufid)).timing = s.timing := timing_emit s rfl (by simp)
  -- the default handler and the common exit
  have hdefault : ∀ t : State, t.timing = s.timing →
      ((t.emit (.defaultSignalHandler bufid)).release bufid).timing = s.timing := by
    intro t ht
    rw [timing_release, timing_emit _ rfl (by simp), ht]
  have hset : (setupStaticInstallCode (s.emit (.ledStatusUpdate bufid))).timing = s.timing :=
    (timing_emit _ rfl (by simp)).trans hled
  cases sig <;> simp only [zbossSignalHandler]
  case deviceFirstStart =>
    split
    · exact hdefault _ hset
    · rw [timing_emit _ rfl (by simp), timing_foldl_printk, hled]
  case deviceReboot =>
    apply hdefault
    split_ifs <;> first | exact hset | exact hled
  case steering =>
    rw [timing_release]
    split <;> exact (timing_emit _ rfl (by simp)).trans hled
  case leave => exact hdefault _ hled
  case other => exact hdefault _ hled

theorem timing_rtc2Isr (s : State) (err : ℤ) (isCompareEvent : Bool) :
    (rtc2Isr s err isCompareEvent).timing = s.timing := by
  unfold rtc2Isr
  split
  · simp [State.timing, Entry.isPowerUp]
  · rfl

theorem timing_zbTriggerTempReport (s : State) (env : Env) :
    (zbTriggerTempReport s env).timing = s.timing := by
  unfold zbTriggerTempReport
  split_ifs <;> rfl

theorem timing_sendTemperatureCb (cfg : Config) (s : State) (env : Env) (tempRaw : ℤ) (bufid : ℕ) :
    (sendTemperatureCb cfg s env tempRaw bufid).timing = s.timing := by
  unfold sendTemperatureCb
  dsimp only
  split
  · exact timing_emit _ rfl (by simp)
  · exact timing_emit _ rfl (by simp)

theorem timing_icSetCallback (s : State) (env : Env) : (icSetCallback s env).timing = s.timing := by
  have hset : (s.emit (.icSet s.gIcSetParams.ic)).timing = s.timing := timing_emit s rfl (by simp)
  unfold icSetCallback
  dsimp only
  split
  · exact (timing_printk _ _).trans hset
  · exact (timing_printk _ _).trans hset

theorem timing_joinCallback (s : State) (env : Env) : (joinCallback s env).timing = s.timing := by
  have hcomm : (s.emit (.commissioning env.permit)).timing = s.timing := timing_emit s rfl (by simp)
  unfold joinCallback
  dsimp only
  split
  · exact (timing_printk _ _).trans hcomm
  · exact (timing_printk _ _).trans hcomm

theorem timing_factoryResetHandler (s : State) :
    (factoryResetHandler s).timing = s.timing.act 1000 .start := by
  cases h : s.rebootTimer <;>
    simp [State.timing, factoryResetHandler, State.emit, Timing.act, Entry.isPowerUp, h]

theorem timing_boot (cfg : Config) (answers : ℕ → Answer) (log : List Entry) :
    (boot cfg answers log).timing =
      ⟨none, log.countP Entry.isPowerUp + 1, log.count (.timerInit true)⟩ := by
  simp [boot, State.timing, Entry.isPowerUp]

theorem timing_tick (cfg : Config) (s : State) (env : Env) :
    (tick cfg s env).timing = s.timing.act 1000 .tick := by
  unfold tick
  split
  · rename_i h
    simp [Timing.act, State.timing, h]
  · rename_i ms h
    split
    · rename_i hlast
      rw [rebootHandler, timing_boot]
      simp [Timing.act, State.timing, h, hlast]
    · rename_i hmore
      simp [Timing.act, State.timing, h, hmore]

theorem timing_step {cfg : Config} {s s' : State} {e : Event} (h : step cfg s e = some s') :
    s'.timing = s.timing.act 1000 (timerAct s e) := by
  cases e with
  | signal sig status bufid env =>
    simp only [step] at h
    split at h
    · exact absurd h (by simp)
    · obtain rfl := Option.some.inj h
      exact (timing_zbossSignalHandler cfg _ env sig status bufid).trans
        (timing_emit s rfl (by simp))
  | rtcInterrupt err isCompareEvent =>
    obtain rfl := Option.some.inj h
    exact timing_rtc2Isr s err isCompareEvent
  | work =>
    obtain ⟨-, h⟩ := Option.ite_none_right_eq_some.mp h
    obtain rfl := Option.some.inj h
    rfl
  | callback env =>
    obtain ⟨cb, rest, hq, rfl⟩ := step_callback h
    have hhead : s.queue.head? = some cb := by rw [hq]; rfl
    simp only [timerAct, hhead]
    -- the reset starts the timer and the reboot drops it; the others leave it alone
    cases cb with
    | zbTriggerTempReport => exact timing_zbTriggerTempReport { s with queue := rest } env
    | icSetCallback => exact timing_icSetCallback { s with queue := rest } env
    | joinCallback => exact timing_joinCallback { s with queue := rest } env
    | factoryResetHandler => exact timing_factoryResetHandler { s with queue := rest }
    | rebootHandler => exact timing_boot cfg env.answers s.log
  | grant bufid tempRaw env =>
    obtain ⟨-, h⟩ := Option.ite_none_right_eq_some.mp h
    obtain rfl := Option.some.inj h
    exact (timing_sendTemperatureCb cfg _ env tempRaw bufid).trans (timing_emit _ rfl (by simp))
  | confirm bufid status =>
    obtain ⟨-, h⟩ := Option.ite_none_right_eq_some.mp h
    obtain rfl := Option.some.inj h
    exact (timing_emit _ rfl (by simp)).trans (timing_emit _ rfl (by simp))
  | uartLine line =>
    obtain rfl := Option.some.inj h
    exact timing_parseUartCommand cfg s line
  | tick env =>
    obtain rfl := Option.some.inj h
    exact timing_tick cfg s env

def resetTimer (cfg : Config) : Device (Fires (step cfg)) 1000 where
  timing := State.timing
  act := timerAct
  law := timing_step

end ZigbeeGateway.EndDevice

namespace ZigbeeGateway.FactoryReset
open CStrings Histories OneShotTimer

/-- On both devices, the runs in which the reboot timer is never initialised
while it runs, and in which the device reboots exactly 1000 ms after the first
factory reset is handled, are those in which no other factory reset (and on the
end device no `reboot`) is handled while the timer runs. -/
theorem factory_reset_on_time_iff (dev : Bool) (cfg : EndDevice.Config)
    (answers : ℕ → Bmp180.Answer) :
    (∀ es p, (Coordinator.resetTimer dev).OnTimeRun (Coordinator.boot dev []) es p ↔
      (Coordinator.resetTimer dev).SafeRun (Coordinator.boot dev []) es p) ∧
    ∀ es p, (EndDevice.resetTimer cfg).OnTimeRun (EndDevice.boot cfg answers []) es p ↔
      (EndDevice.resetTimer cfg).SafeRun (EndDevice.boot cfg answers []) es p := by
  constructor
  · intro es p
    apply Device.onTimeRun_iff (by decide)
    · cases dev <;> rfl
    · cases dev <;> rfl
  · intro es p
    exact Device.onTimeRun_iff (by decide) rfl rfl p

def resetLine : Buffer := text "factory_reset" ++ [0]

/-- Two `factory_reset` lines 20 ms apart: the second handling initialises the
running timer. -/
theorem second_reset_while_armed :
    (¬∀ es p e p', Run (Coordinator.resetTimer false).Clocked
          (Coordinator.boot false [], none) es p →
        (Coordinator.resetTimer false).Clocked p e p' →
          (Coordinator.resetTimer false).StepOnTime p e p') ∧
    ¬∀ es p e p', Run (EndDevice.resetTimer .production).Clocked
          (EndDevice.boot .production EndDevice.Env.working.answers [], none) es p →
        (EndDevice.resetTimer .production).Clocked p e p' →
          (EndDevice.resetTimer .production).StepOnTime p e p' := by
  constructor
  · intro h
    obtain ⟨s, hs, s', hs', hfault⟩ : ∃ s, exec (Coordinator.step false) (Coordinator.boot false [])
        ([.uartLine resetLine, .callback .willing] ++ List.replicate 20 .tick ++
          [.uartLine resetLine]) = some s ∧
        ∃ s', Coordinator.step false s (.callback .willing) = some s' ∧ s'.timing.faults ≠ 0 :=
      ⟨_, rfl, _, rfl, by decide⟩
    obtain ⟨p, p', hrun, hstep, hlate⟩ := Device.exists_not_onTime
      (D := Coordinator.resetTimer false) (run_of_exec hs) hs' hfault
    exact hlate (h _ p _ p' hrun hstep)
  · intro h
    obtain ⟨s, hs, s', hs', hfault⟩ : ∃ s, exec (EndDevice.step .production)
        (EndDevice.boot .production EndDevice.Env.working.answers [])
        ([.uartLine resetLine, .callback .working] ++ List.replicate 20 (.tick .working) ++
          [.uartLine resetLine]) = some s ∧
        ∃ s', EndDevice.step .production s (.callback .working) = some s' ∧
          s'.timing.faults ≠ 0 :=
      ⟨_, rfl, _, rfl, by decide⟩
    obtain ⟨p, p', hrun, hstep, hlate⟩ := Device.exists_not_onTime
      (D := EndDevice.resetTimer .production) (run_of_exec hs) hs' hfault
    exact hlate (h _ p _ p' hrun hstep)

end ZigbeeGateway.FactoryReset
