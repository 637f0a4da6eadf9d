import ZigbeeGateway.Compensation
import ZigbeeGateway.ReportBuffers
import ZigbeeGateway.ReportValues

namespace ZigbeeGateway.EndDevice
open CStrings PairingCommand Histories Bmp180 MachineWords

/-- The driver holds a calibration with which no raw word can be compensated. -/
def Stuck (cfg : Config) (d : Driver) : Prop :=
  cfg.testMode = false ∧ d.isCalibrated = true ∧ d.calibData.ac5 = 0 ∧ d.calibData.md = 0

instance (cfg : Config) (d : Driver) : Decidable (Stuck cfg d) :=
  inferInstanceAs (Decidable (_ ∧ _))

section Reading

variable {cfg : Config} {s : State}

theorem readFor_calibrated (htest : cfg.testMode = false) (hcal : s.sensor.isCalibrated = true)
    (tempRaw : ℤ) (env : Env) :
    readFor cfg s tempRaw env = measure s.sensor ⟨env.answers, []⟩ tempRaw := by
  simp [readFor, bmp180ReadTemperature, htest, hcal]

theorem Stuck.read (h : Stuck cfg s.sensor) (tempRaw : ℤ) (env : Env) :
    (readFor cfg s tempRaw env).ret ≠ 0 ∧ (readFor cfg s tempRaw env).driver = s.sensor := by
  obtain ⟨htest, hcal, hzero⟩ := h
  rw [readFor_calibrated htest hcal]
  obtain ⟨hd, io, -, -, ⟨hneg, -⟩ | ⟨-, hi, lo, t, -, hcomp, -⟩⟩ :=
    measure_cases s.sensor ⟨env.answers, []⟩ tempRaw
  · exact ⟨by omega, hd⟩
  · exact absurd ((divisor_zero_iff _).mpr hzero hi lo) (compute_eq_zero_iff.mp hcomp).1

/-- Otherwise the bus can answer so that the reading succeeds. -/
theorem exists_read {d : Driver} (h : ¬Stuck cfg d) :
    ∃ answers, ∀ (s : State) (tempRaw : ℤ) (env : Env), s.sensor = d → env.answers = answers →
      (readFor cfg s tempRaw env).ret = 0 := by
  by_cases htest : cfg.testMode = true
  · refine ⟨Env.working.answers, fun s tempRaw env _ _ => ?_⟩
    rw [readFor, htest]
    rfl
  rw [Bool.not_eq_true] at htest
  by_cases hcal : d.isCalibrated = true
  · obtain ⟨hi, lo, hne⟩ : ∃ hi lo : UInt8, divisor (beUnsigned hi lo) d.calibData ≠ 0 := by
      by_contra hall
      refine h ⟨htest, hcal, (divisor_zero_iff _).mp fun hi lo => ?_⟩
      by_contra hne
      exact hall ⟨hi, lo, hne⟩
    refine ⟨fun _ => ⟨true, 0, fun i => if i = 0 then hi else lo⟩, fun s tempRaw env hs henv => ?_⟩
    rw [readFor_calibrated htest (hs ▸ hcal), measure_of_read]
    · simp [henv, hs, compute_ok hne]
    · simp [henv]
    · simp [henv]
    · simp [henv]
  · -- the lazy initialisation loads a calibration of ones
    refine ⟨Env.working.answers, fun s tempRaw env hs henv => ?_⟩
    obtain ⟨calibData, isCalibrated, mockTemp⟩ := d
    obtain rfl : isCalibrated = false := by simpa using hcal
    have hread : readFor cfg s tempRaw env = measure ⟨loadCalib fun _ => 1, true, mockTemp⟩
        (((⟨Env.working.answers, []⟩ : Bus).log (.ready true)).log (.writeRead BMP180_I2C_ADDR
          [BMP180_REG_CALIB] 0 (List.ofFn fun _ : Fin 22 => 1))) tempRaw := by
      simp only [readFor, htest, hs, henv]
      simp [bmp180ReadTemperature, bmp180Init, deviceIsReady, i2cWriteRead, Bus.log, Env.working]
    have hne : divisor (beUnsigned 1 1) (loadCalib fun _ => 1) ≠ 0 := by decide
    rw [hread, measure_of_read]
    · simp [Bus.log, Env.working, compute_ok hne]
    · simp [Bus.log, Env.working]
    · simp [Bus.log, Env.working]
    · simp [Bus.log, Env.working]

end Reading

theorem unreported_counts {log l : List Entry} (h : Extends Entry.Unreported log l) :
    l.countP Entry.isWrite = log.countP Entry.isWrite ∧
      l.countP Entry.isPowerUp = log.countP Entry.isPowerUp := by
  obtain ⟨m, rfl, hm⟩ := h
  have hnone : ∀ e ∈ m, ¬e.isWrite = true ∧ ¬e.isPowerUp = true := by
    intro e he
    have h := hm e he
    cases e <;> first | exact h.elim | exact ⟨Bool.false_ne_true, Bool.false_ne_true⟩
  rw [List.countP_append, List.countP_append,
    List.countP_eq_zero.mpr fun e he => (hnone e he).1,
    List.countP_eq_zero.mpr fun e he => (hnone e he).2]
  exact ⟨rfl, rfl⟩

structure Undisturbed (s s' : State) : Prop where
  sensor : s'.sensor = s.sensor
  joined : s'.gNetworkJoined = s.gNetworkJoined
  requests : s'.requestsInFlight = s.requestsInFlight
  log : Extends Entry.Unreported s.log s'.log

section Queue

variable {cfg : Config} {s s' s'' : State}

theorem Undisturbed.refl (s : State) : Undisturbed s s := ⟨rfl, rfl, rfl, .refl _⟩

theorem Undisturbed.trans (h : Undisturbed s s') (h' : Undisturbed s' s'') : Undisturbed s s'' :=
  ⟨h'.sensor.trans h.sensor, h'.joined.trans h.joined, h'.requests.trans h.requests,
    h.log.trans h'.log⟩

/-- A callback that is no reboot leaves the rest of the queue as it is. -/
theorem runCallback_undisturbed (cfg : Config) (s : State) (env : Env) {cb : Callback}
    (hcb : cb ≠ .rebootHandler) (rest : List Callback) :
    (runCallback cfg { s with queue := rest } env cb).queue = rest ∧
      Undisturbed s (runCallback cfg { s with queue := rest } env cb) := by
  have hidle : ∀ {t : State}, Idles { s with queue := rest } t → t.sensor = s.sensor →
      Undisturbed s t := fun h hsensor =>
    ⟨hsensor, h.joined, h.requests, h.log.mono fun _ he => he.unreported⟩
  cases cb with
  | zbTriggerTempReport =>
    simp only [runCallback, zbTriggerTempReport]
    split_ifs <;> exact ⟨rfl, rfl, rfl, rfl, .refl _⟩
  | icSetCallback =>
    have h := icSetCallback_idles { s with queue := rest } env
    simp only [runCallback, icSetCallback] at h ⊢
    split_ifs at h ⊢ <;> exact ⟨rfl, hidle h rfl⟩
  | joinCallback =>
    have h := joinCallback_idles { s with queue := rest } env
    simp only [runCallback, joinCallback] at h ⊢
    split_ifs at h ⊢ <;> exact ⟨rfl, hidle h rfl⟩
  | factoryResetHandler =>
    exact ⟨rfl, hidle (factoryResetHandler_idles { s with queue := rest }) rfl⟩
  | rebootHandler => exact absurd rfl hcb

theorem step_pop {cb : Callback} {rest : List Callback} (hq : s.queue = cb :: rest) (env : Env) :
    Fires (step cfg) s (.callback env) (runCallback cfg { s with queue := rest } env cb) := by
  simp [Fires, step, hq]

/-- Without a reboot in it the queue can be emptied. -/
theorem exists_drained (cfg : Config) (env : Env) (hq : .rebootHandler ∉ s.queue) :
    ∃ es s', Run (Fires (step cfg)) s es s' ∧ s'.queue = [] ∧ Undisturbed s s' := by
  generalize hn : s.queue = queue at hq
  induction queue generalizing s with
  | nil => exact ⟨[], s, .nil, hn, .refl s⟩
  | cons cb rest ih =>
    have hcb : cb ≠ .rebootHandler := fun h => hq (h ▸ List.mem_cons_self)
    obtain ⟨hrest, hkeep⟩ := runCallback_undisturbed cfg s env hcb rest
    obtain ⟨es, s', hr, hempty, hkeep'⟩ := ih hrest fun h => hq (List.mem_cons_of_mem _ h)
    exact ⟨_, s', (Run.concat .nil (step_pop hn env)).append hr, hempty, hkeep.trans hkeep'⟩

theorem exists_rebooted (cfg : Config) (env : Env) (hq : .rebootHandler ∈ s.queue) :
    ∃ n l, Run (Fires (step cfg)) s (List.replicate n (.callback env)) (boot cfg env.answers l) ∧
      l.countP Entry.isWrite = s.log.countP Entry.isWrite ∧
      l.countP Entry.isPowerUp = s.log.countP Entry.isPowerUp := by
  generalize hn : s.queue = queue at hq
  induction queue generalizing s with
  | nil => exact absurd hq List.not_mem_nil
  | cons cb rest ih =>
    by_cases hcb : cb = .rebootHandler
    · subst hcb
      exact ⟨1, s.log, .concat .nil (step_pop hn env), rfl, rfl⟩
    · obtain ⟨hrest, hkeep⟩ := runCallback_undisturbed cfg s env hcb rest
      obtain ⟨n, l, hr, hw, hp⟩ := ih hrest ((List.mem_cons.mp hq).resolve_left (Ne.symm hcb))
      obtain ⟨hw', hp'⟩ := unreported_counts hkeep.log
      exact ⟨n + 1, l, (Run.concat .nil (step_pop hn env)).append hr, hw.trans hw', hp.trans hp'⟩

end Queue

section Progress

variable {cfg : Config} {s : State}

theorem exists_joined (cfg : Config) (s : State) {bufid : ℕ} (hb : bufid ≠ 0)
    (hfree : bufid ∉ s.requestsInFlight) :
    ∃ s', Run (Fires (step cfg)) s [.signal .steering 0 bufid .working] s' ∧
      s'.gNetworkJoined = true ∧ s'.queue = s.queue ∧ s'.sensor = s.sensor ∧
      s'.requestsInFlight = s.requestsInFlight ∧ Extends Entry.Unreported s.log s'.log := by
  refine ⟨_, .concat .nil (if_neg hfree), ?_⟩
  have hjoin : zbossSignalHandler cfg (s.emit (.signal .steering 0 bufid)) .working .steering 0
      bufid = { s with
        gNetworkJoined := true
        dkLed4 := true
        log := s.log ++ [.signal .steering 0 bufid, .ledStatusUpdate bufid,
          .defaultSignalHandler bufid, .bufFree bufid] } := by
    simp [zbossSignalHandler, networkJoined, State.release, State.emit, RET_OK, hb]
  rw [hjoin]
  exact ⟨rfl, rfl, rfl, rfl, _, rfl, by simp [Entry.Unreported]⟩

/-- On the network and with an empty queue, a compare event goes all the way. -/
theorem exists_report (cfg : Config) (env : Env) (hq : s.queue = [])
    (hjoined : s.gNetworkJoined = true) (hget : env.getOutStatus = RET_OK) {bufid : ℕ} (hb : bufid ≠ 0)
    (hfree : bufid ∉ s.requestsInFlight)
    (hread : ∀ t : State, t.sensor = s.sensor → (readFor cfg t 0 env).ret = 0) :
    ∃ s' req, Run (Fires (step cfg)) s
        [.rtcInterrupt 0 true, .work, .callback env, .grant bufid 0 env] s' ∧
      s'.log = s.log ++ [.rtcCompare, .rtcRestart 32, .granted bufid, .writeAttr req] := by
  obtain ⟨gNetworkJoined, dkLed4, rtcWorkPending, queue, delayedGrants, requestsInFlight,
    gIcSetParams, sensor, rebootTimer, log⟩ := s
  obtain rfl : queue = [] := hq
  obtain rfl : gNetworkJoined = true := hjoined
  let t : State := ⟨true, dkLed4, false, [], delayedGrants + 1, requestsInFlight, gIcSetParams,
    sensor, rebootTimer, log ++ [.rtcCompare, .rtcRestart 32]⟩
  have ht : Run (Fires (step cfg)) ⟨true, dkLed4, rtcWorkPending, [], delayedGrants,
      requestsInFlight, gIcSetParams, sensor, rebootTimer, log⟩
      [.rtcInterrupt 0 true, .work, .callback env] t := by
    refine .concat (.concat (.concat .nil rfl) rfl) ?_
    simp [Fires, step, rtc2Isr, rtcWorkHandler, State.schedule, runCallback, zbTriggerTempReport,
      hget, t]
  obtain ⟨s', hgrant⟩ : ∃ s', step cfg t (.grant bufid 0 env) = some s' :=
    ⟨_, if_pos ⟨Nat.succ_pos _, hb, hfree⟩⟩
  have hret := hread t rfl
  refine ⟨s', temperatureRequest bufid (Int16.ofInt ((readFor cfg t 0 env).tempOut.getD 0)),
    ht.concat hgrant, ?_⟩
  cases step_sensorStep hgrant with
  | reboot answers h => exact absurd h (by simp [rebootAnswers])
  | other _ h => exact absurd h (by simp [Event.isGrant])
  | readFailed hfail => exact absurd hret hfail
  | report _ _ hlog =>
    rw [hlog]
    exact List.append_assoc _ _ _

/-- With no reboot pending and a calibration that works, the next report needs
no power-up. -/
theorem next_report (s : State) (hstuck : ¬Stuck cfg s.sensor) (hq : .rebootHandler ∉ s.queue) :
    ∃ es s', Run (Fires (step cfg)) s es s' ∧
      s'.log.countP Entry.isPowerUp = s.log.countP Entry.isPowerUp ∧
      s'.log.countP Entry.isWrite = s.log.countP Entry.isWrite + 1 := by
  obtain ⟨answers, hread⟩ := exists_read hstuck
  obtain ⟨bufid, hfresh⟩ := Infinite.exists_notMem_finset (insert 0 s.requestsInFlight.toFinset)
  obtain ⟨hb, hfree⟩ : bufid ≠ 0 ∧ bufid ∉ s.requestsInFlight := by simpa using hfresh
  obtain ⟨es, s₁, hr₁, hempty, hkeep⟩ := exists_drained cfg .working hq
  -- drain the queue, then join, then one event goes the whole way
  obtain ⟨s₂, hr₂, hjoined, hqueue, hsensor, hreq, hlog⟩ :=
    exists_joined cfg s₁ hb (hkeep.requests ▸ hfree)
  let env : Env := { Env.working with answers := answers }
  obtain ⟨s₃, req, hr₃, hlog₃⟩ := exists_report cfg env (hqueue.trans hempty)
    hjoined rfl hb (hreq ▸ hkeep.requests ▸ hfree)
    fun t ht => hread t 0 env (ht.trans (hsensor.trans hkeep.sensor)) rfl
  obtain ⟨hw₁, hp₁⟩ := unreported_counts hkeep.log
  obtain ⟨hw₂, hp₂⟩ := unreported_counts hlog
  refine ⟨_, s₃, (hr₁.append hr₂).append hr₃, ?_, ?_⟩
  · rw [hlog₃, List.countP_append, hp₂, hp₁]
    rfl
  · rw [hlog₃, List.countP_append, hw₂, hw₁]
    rfl

theorem step_powerUps {s s' : State} {e : Event} (h : step cfg s e = some s') :
    s.log.countP Entry.isPowerUp ≤ s'.log.countP Entry.isPowerUp := by
  have hmono : ∀ l : List Entry, s'.log = s.log ++ l →
      s.log.countP Entry.isPowerUp ≤ s'.log.countP Entry.isPowerUp := by
    intro l hl
    rw [hl, List.countP_append]
    exact Nat.le_add_right _ _
  cases step_sensorStep h with
  | reboot answers => exact hmono _ rfl
  | other _ _ _ hlog => exact (unreported_counts hlog).2.ge
  | readFailed _ _ hlog => exact hmono _ hlog
  | report _ _ hlog => exact hmono _ hlog

/-- As long as there is no power-up, a driver that is stuck stays so, and nothing
is reported. -/
theorem run_stuck {es : List Event} {s' : State} (hstuck : Stuck cfg s.sensor)
    (h : Run (Fires (step cfg)) s es s') :
    s.log.countP Entry.isPowerUp ≤ s'.log.countP Entry.isPowerUp ∧
      (s'.log.countP Entry.isPowerUp = s.log.countP Entry.isPowerUp →
        s'.sensor = s.sensor ∧ s'.log.countP Entry.isWrite = s.log.countP Entry.isWrite) := by
  apply Run.invariant h ⟨le_rfl, fun _ => ⟨rfl, rfl⟩⟩
  rintro t e t' ⟨hle, hkeep⟩ hstep
  have hmono := step_powerUps hstep
  refine ⟨hle.trans hmono, fun heq => ?_⟩
  obtain ⟨hsensor, hwrites⟩ := hkeep (by omega)
  cases step_sensorStep hstep with
  | reboot answers =>
    -- the log of the reboot has one power-up more
    simp [boot, Entry.isPowerUp] at heq
    omega
  | other _ _ hs hlog => exact ⟨hs.trans hsensor, (unreported_counts hlog).1.trans hwrites⟩
  | @readFailed _ tempRaw env _ _ hs hlog =>
    have hread := Stuck.read (s := t) (hsensor.symm ▸ hstuck) tempRaw env
    refine ⟨hs.trans (hread.2.trans hsensor), ?_⟩
    rw [hlog, List.countP_append, hwrites]
    rfl
  | @report _ tempRaw env _ hret =>
    exact absurd hret (Stuck.read (s := t) (hsensor.symm ▸ hstuck) tempRaw env).1

/-- With no reboot pending: no report can come before the next power-up exactly
if the driver is stuck. -/
theorem stuck_iff (s : State) (hq : .rebootHandler ∉ s.queue) :
    (∀ es s', Run (Fires (step cfg)) s es s' →
        s'.log.countP Entry.isPowerUp = s.log.countP Entry.isPowerUp →
        s'.log.countP Entry.isWrite = s.log.countP Entry.isWrite) ↔
      Stuck cfg s.sensor := by
  constructor
  · intro hnone
    by_contra hstuck
    obtain ⟨es, s', hr, hp, hw⟩ := next_report s hstuck hq
    have := hnone es s' hr hp
    omega
  · intro hstuck es s' hr hp
    exact ((run_stuck hstuck hr).2 hp).2

/-- A sensor that answers with zero bytes sticks until the next power-up, one that
answers with ones does not. -/
theorem stuck_iff_zeros :
    (∀ es s', Run (Fires (step .production)) (boot .production (fun _ => ⟨true, 0, fun _ => 0⟩) [])
        es s' → s'.log.countP Entry.isPowerUp = 1 → s'.log.countP Entry.isWrite = 0) ∧
      ∃ es s', Run (Fires (step .production)) (boot .production Env.working.answers []) es s' ∧
        s'.log.countP Entry.isPowerUp = 1 ∧ s'.log.countP Entry.isWrite ≠ 0 := by
  refine ⟨(stuck_iff _ List.not_mem_nil).mpr (by decide), ?_⟩
  by_contra hnone
  have hstuck : Stuck .production (boot .production Env.working.answers []).sensor := by
    apply (stuck_iff _ List.not_mem_nil).mp
    intro es s' hr hp
    by_contra hw
    exact hnone ⟨es, s', hr, hp, hw⟩
  exact absurd hstuck (by decide)

def rebootLine : Buffer := text "reboot" ++ [0]

theorem exists_typed (cfg : Config) (s : State) :
    ∃ s', Run (Fires (step cfg)) s [.uartLine rebootLine] s' ∧ .rebootHandler ∈ s'.queue ∧
      Extends Entry.Unreported s.log s'.log := by
  refine ⟨_, .concat .nil rfl, ?_,
    (parseUartCommand_idles cfg s rebootLine).log.mono fun _ he => he.unreported⟩
  have hother : ∀ p, icCommand (text "ic_set ") p rebootLine = .other := fun _ => rfl
  have hjoin : ¬strcmp rebootLine (text "join") = 0 := by decide
  have hreset : ¬strcmp rebootLine (text "factory_reset") = 0 := by decide
  have hreboot : strcmp rebootLine (text "reboot") = 0 := by decide
  simp [parseUartCommand, hother, hjoin, hreset, hreboot, State.schedule]

/-- No state is a dead end: from every one there is a way to one more report, with
at most one more power-up. -/
theorem report_recoverable (cfg : Config) (s : State) :
    ∃ es s', Run (Fires (step cfg)) s es s' ∧
      s'.log.countP Entry.isPowerUp ≤ s.log.countP Entry.isPowerUp + 1 ∧
      s'.log.countP Entry.isWrite = s.log.countP Entry.isWrite + 1 := by
  obtain ⟨s₁, hr₁, hmem, hlog⟩ := exists_typed cfg s
  obtain ⟨n, l, hr₂, hw₂, hp₂⟩ := exists_rebooted cfg .working hmem
  have hstuck : ¬Stuck cfg (boot cfg Env.working.answers l).sensor := by
    rintro ⟨htest, -, hac5, -⟩
    simp only [boot, htest] at hac5
    exact absurd hac5 (by decide)
  obtain ⟨es₃, s₃, hr₃, hp₃, hw₃⟩ := next_report _ hstuck List.not_mem_nil
  obtain ⟨hw₁, hp₁⟩ := unreported_counts hlog
  refine ⟨_, s₃, (hr₁.append hr₂).append hr₃, ?_, ?_⟩
  · rw [hp₃, boot, List.countP_append, hp₂, hp₁]
    rfl
  · rw [hw₃, boot, List.countP_append, hw₂, hw₁]
    rfl

end Progress

end ZigbeeGateway.EndDevice
