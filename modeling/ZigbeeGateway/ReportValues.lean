import ZigbeeGateway.Bmp180History
import ZigbeeGateway.ReportPipeline
import ZigbeeGateway.TemperatureText

namespace ZigbeeGateway.EndDevice
open CStrings PairingCommand Histories Bmp180

def Entry.reportValue : Entry → Option Int16
  | .writeAttr req => some req.value
  | _ => none

def reported (log : List Entry) : List Int16 :=
  (since Entry.isPowerUp log).filterMap Entry.reportValue

def Entry.isGranted : Entry → Bool
  | .granted _ => true
  | _ => false

def grants (log : List Entry) : ℕ := (since Entry.isPowerUp log).countP Entry.isGranted

def measuredValue : Record → Option Int16
  | .read ret _ after _ => if ret = 0 then after.map Int16.ofInt else none
  | .init _ _ => none

def measured (calls : List Record) : List Int16 := calls.filterMap measuredValue

/-- The answers of the bus to the `bmp180_init` of a reboot, if the event is one. -/
def rebootAnswers (s : State) : Event → Option (ℕ → Answer)
  | .callback env => if s.queue.head? = some .rebootHandler then some env.answers else none
  | .tick env => if s.rebootTimer.any (· ≤ 1) then some env.answers else none
  | _ => none

def initRecord (cfg : Config) (answers : ℕ → Answer) : Record :=
  let r := bmp180Init cfg.testMode .initial ⟨answers, []⟩
  .init r.1 r.2.2.trace

def readRecord (cfg : Config) (s : State) (tempRaw : ℤ) (env : Env) : Record :=
  let r := readFor cfg s tempRaw env
  .read r.ret (some tempRaw) r.tempOut r.bus.trace

/-- The calls of the driver since the last power-up, after one more event. -/
def callsAfter (cfg : Config) (s : State) (calls : List Record) (e : Event) : List Record :=
  match rebootAnswers s e, e with
  | some answers, _ => [initRecord cfg answers]
  | none, .grant _ tempRaw env => calls ++ [readRecord cfg s tempRaw env]
  | none, _ => calls

def Recorded (cfg : Config) (p : State × List Record) (e : Event) (p' : State × List Record) :
    Prop :=
  step cfg p.1 e = some p'.1 ∧ p'.2 = callsAfter cfg p.1 p.2 e

theorem recorded_of_run {cfg : Config} {es : List Event} {s₀ s : State}
    (h : Run (Fires (step cfg)) s₀ es s) (calls₀ : List Record) :
    ∃ calls, Run (Recorded cfg) (s₀, calls₀) es (s, calls) :=
  h.beside (callsAfter cfg) calls₀

def Entry.Unreported : Entry → Prop
  | .powerUp | .granted _ | .writeAttr _ => False
  | _ => True

theorem Entry.Idle.unreported {e : Entry} (h : e.Idle) : e.Unreported := by
  cases e <;> trivial

inductive SensorStep (cfg : Config) (s : State) : Event → State → Prop
  | reboot {e : Event} (answers : ℕ → Answer) : rebootAnswers s e = some answers →
      SensorStep cfg s e (boot cfg answers s.log)
  | other {e : Event} {s' : State} : rebootAnswers s e = none → e.isGrant = false →
      s'.sensor = s.sensor → Extends Entry.Unreported s.log s'.log → SensorStep cfg s e s'
  | readFailed {bufid : ℕ} {tempRaw : ℤ} {env : Env} {s' : State} :
      (readFor cfg s tempRaw env).ret ≠ 0 → s'.sensor = (readFor cfg s tempRaw env).driver →
      s'.log = s.log ++ [.granted bufid, .bufFree bufid] →
      SensorStep cfg s (.grant bufid tempRaw env) s'
  | report {bufid : ℕ} {tempRaw : ℤ} {env : Env} {s' : State} :
      (readFor cfg s tempRaw env).ret = 0 → s'.sensor = (readFor cfg s tempRaw env).driver →
      s'.log = s.log ++ [.granted bufid, .writeAttr (temperatureRequest bufid
        (Int16.ofInt ((readFor cfg s tempRaw env).tempOut.getD tempRaw)))] →
      SensorStep cfg s (.grant bufid tempRaw env) s'

section Handlers

variable (cfg : Config) (s : State) (env : Env)

theorem release_sensor (bufid : ℕ) : (s.release bufid).sensor = s.sensor := by
  unfold State.release
  split <;> rfl

theorem parseUartCommand_sensor (line : Buffer) :
    (parseUartCommand cfg s line).sensor = s.sensor := by
  unfold parseUartCommand
  dsimp only
  split
  · rfl
  · rfl
  · split_ifs <;> rfl

theorem zbossSignalHandler_sensor (sig : Signal) (status : ℤ) (bufid : ℕ) :
    (zbossSignalHandler cfg s env sig status bufid).sensor = s.sensor := by
  cases sig <;> simp only [zbossSignalHandler]
  case deviceFirstStart =>
    split_ifs
    · exact release_sensor _ bufid
    · rw [foldl_printk]
      rfl
  case deviceReboot =>
    rw [release_sensor]
    split_ifs <;> rfl
  case steering =>
    rw [release_sensor]
    split_ifs <;> rfl
  case leave => exact release_sensor _ bufid
  case other => exact release_sensor _ bufid

theorem zbossSignalHandler_unreported (sig : Signal) (status : ℤ) (bufid : ℕ) :
    Extends Entry.Unreported s.log (zbossSignalHandler cfg s env sig status bufid).log := by
  obtain ⟨⟨l, hl, hlog⟩, -⟩ := zbossSignalHandler_signalled cfg s env sig status bufid
  have hl' := hl.mono fun _ he => he.unreported
  obtain hlog | ⟨-, hlog⟩ := hlog
  · rw [hlog]
    exact hl'.concat trivial
  · rwa [hlog]

theorem runCallback_sensorStep {cfg : Config} {s : State} {env : Env} {cb : Callback}
    {rest : List Callback} (hq : s.queue = cb :: rest) :
    SensorStep cfg s (.callback env) (runCallback cfg { s with queue := rest } env cb) := by
  have hnone : cb ≠ .rebootHandler → rebootAnswers s (.callback env) = none := by
    intro hcb
    simp [rebootAnswers, hq, hcb]
  cases cb with
  | zbTriggerTempReport =>
    refine .other (hnone (by decide)) rfl ?_ ((zbTriggerTempReport_idles hq env).log.mono
      fun _ he => he.unreported)
    simp only [runCallback, zbTriggerTempReport]
    split_ifs <;> rfl
  | icSetCallback =>
    refine .other (hnone (by decide)) rfl ?_ ((icSetCallback_idles { s with queue := rest }
      env).log.mono fun _ he => he.unreported)
    simp only [runCallback, icSetCallback]
    split_ifs <;> rfl
  | joinCallback =>
    refine .other (hnone (by decide)) rfl ?_ ((joinCallback_idles { s with queue := rest }
      env).log.mono fun _ he => he.unreported)
    simp only [runCallback, joinCallback]
    split_ifs <;> rfl
  | factoryResetHandler =>
    exact .other (hnone (by decide)) rfl rfl ((factoryResetHandler_idles
      { s with queue := rest }).log.mono fun _ he => he.unreported)
  | rebootHandler => exact .reboot env.answers (by simp [rebootAnswers, hq])

end Handlers

theorem step_sensorStep {cfg : Config} {s s' : State} {e : Event}
    (h : step cfg s e = some s') : SensorStep cfg s e s' := by
  cases e with
  | signal sig status bufid env =>
    obtain ⟨-, h⟩ := Option.ite_none_left_eq_some.mp h
    obtain rfl := Option.some.inj h
    refine .other rfl rfl (zbossSignalHandler_sensor cfg _ env sig status bufid) ?_
    have hsig : Extends Entry.Unreported s.log (s.emit (.signal sig status bufid)).log :=
      (Extends.refl _).concat trivial
    exact hsig.trans (zbossSignalHandler_unreported cfg _ env sig status bufid)
  | rtcInterrupt err isCompareEvent =>
    obtain rfl := Option.some.inj h
    unfold rtc2Isr
    split
    · exact .other rfl rfl rfl ⟨[.rtcCompare, .rtcRestart 32], rfl, by simp [Entry.Unreported]⟩
    · exact .other rfl rfl rfl (.refl _)
  | work =>
    obtain ⟨-, h⟩ := Option.ite_none_right_eq_some.mp h
    obtain rfl := Option.some.inj h
    exact .other rfl rfl rfl (.refl _)
  | callback env =>
    obtain ⟨cb, rest, hq, rfl⟩ := step_callback h
    exact runCallback_sensorStep hq
  | grant bufid tempRaw env =>
    obtain ⟨-, h⟩ := Option.ite_none_right_eq_some.mp h
    obtain rfl := Option.some.inj h
    unfold sendTemperatureCb
    dsimp only
    split
    · rename_i hfail
      exact .readFailed hfail rfl (List.append_assoc _ _ _)
    · rename_i hok
      exact .report (not_not.mp hok) rfl (List.append_assoc _ _ _)
  | confirm bufid status =>
    obtain ⟨-, h⟩ := Option.ite_none_right_eq_some.mp h
    obtain rfl := Option.some.inj h
    exact .other rfl rfl rfl ⟨[.confirmed bufid status, .bufFree bufid],
      List.append_assoc _ _ _, by simp [Entry.Unreported]⟩
  | uartLine line =>
    obtain rfl := Option.some.inj h
    exact .other rfl rfl (parseUartCommand_sensor cfg s line)
      ((parseUartCommand_idles cfg s line).log.mono fun _ he => he.unreported)
  | tick env =>
    obtain rfl := Option.some.inj h
    -- a millisecond touches the sensor only if it is the last one of the reboot timer
    unfold tick
    split
    · rename_i hstopped
      exact .other (by simp [rebootAnswers, hstopped]) rfl rfl (.refl _)
    · rename_i ms hms
      split
      · rename_i hdue
        exact .reboot env.answers (by simp [rebootAnswers, hms, hdue])
      · rename_i hrunning
        exact .other (by simp [rebootAnswers, hms, hrunning]) rfl rfl (.refl _)

theorem reported_append (log : List Entry) {l : List Entry} (h : ∀ e ∈ l, e.isPowerUp = false) :
    reported (log ++ l) = reported log ++ l.filterMap Entry.reportValue := by
  rw [reported, since_append log h, List.filterMap_append, reported]

theorem grants_append (log : List Entry) {l : List Entry} (h : ∀ e ∈ l, e.isPowerUp = false) :
    grants (log ++ l) = grants log + l.countP Entry.isGranted := by
  rw [grants, since_append log h, List.countP_append, grants]

theorem powerUp_reported (log : List Entry) :
    reported (log ++ [.powerUp]) = [] ∧ grants (log ++ [.powerUp]) = 0 := by
  unfold reported grants
  rw [since_concat]
  exact ⟨rfl, rfl⟩

theorem unreported_extends {log l : List Entry} (h : Extends Entry.Unreported log l) :
    reported l = reported log ∧ grants l = grants log := by
  obtain ⟨m, rfl, hm⟩ := h
  have hpower : ∀ e ∈ m, e.isPowerUp = false := by
    intro e he
    have h := hm e he
    cases e <;> first | rfl | exact h.elim
  have hvalue : m.filterMap Entry.reportValue = [] := by
    apply List.filterMap_eq_nil_iff.mpr
    intro e he
    have h := hm e he
    cases e <;> first | rfl | exact h.elim
  have hgrant : m.countP Entry.isGranted = 0 := by
    apply List.countP_eq_zero.mpr
    intro e he hg
    have h := hm e he
    cases e <;> first | exact h.elim | exact absurd hg (by simp [Entry.isGranted])
  rw [reported_append log hpower, grants_append log hpower, hvalue, hgrant]
  exact ⟨List.append_nil _, rfl⟩

section Sensor

variable {cfg : Config} {answers : ℕ → Answer} {es : List Event} {s : State}

/-- The driver is the one that its calls lead to, each of them sound, and their
values have been reported. -/
structure Provenance (s : State) (calls : List Record) : Prop where
  session : ∀ answers, Session.Inv ⟨s.sensor, answers, calls⟩
  sound : Whenever Record.Sound calls
  values : reported s.log = measured calls

theorem boot_provenance (htest : cfg.testMode = false) (answers : ℕ → Answer) (log : List Entry) :
    Provenance (boot cfg answers log) [initRecord cfg answers] := by
  obtain ⟨hinv, r, hr, hsound⟩ := call_inv (.start answers)
    (by simp [Session.Inv, Session.start, Driver.initial, lastCalibration, calibReads]) .init
  have hcall : (Session.start answers).call .init =
      ⟨(boot cfg answers log).sensor, ((Session.start answers).call .init).answers,
        [initRecord cfg answers]⟩ := by
    simp only [boot, initRecord, htest]
    rfl
  rw [hcall] at hinv hr
  refine ⟨fun _ => hinv, ?_, ?_⟩
  · obtain rfl : initRecord cfg answers = r := by simpa [Session.start] using hr
    exact (whenever_concat [] _).mpr ⟨whenever_nil, hsound⟩
  · exact (powerUp_reported log).1

theorem read_provenance {calls : List Record} (htest : cfg.testMode = false)
    (h : Provenance s calls) (tempRaw : ℤ) (env : Env) :
    (∀ answers, Session.Inv
        ⟨(readFor cfg s tempRaw env).driver, answers, calls ++ [readRecord cfg s tempRaw env]⟩) ∧
      Whenever Record.Sound (calls ++ [readRecord cfg s tempRaw env]) := by
  obtain ⟨hinv, r, hr, hsound⟩ := call_inv ⟨s.sensor, env.answers, calls⟩ (h.session env.answers)
    (.read (some tempRaw))
  have hcall : (Session.mk s.sensor env.answers calls).call (.read (some tempRaw)) =
      ⟨(readFor cfg s tempRaw env).driver, (readFor cfg s tempRaw env).bus.answers,
        calls ++ [readRecord cfg s tempRaw env]⟩ := by
    simp only [readFor, readRecord, htest]
    rfl
  rw [hcall] at hinv hr
  obtain rfl : readRecord cfg s tempRaw env = r := by simpa using hr
  exact ⟨fun _ => hinv, (whenever_concat _ _).mpr ⟨h.sound, hsound⟩⟩

theorem readFor_tempOut (htest : cfg.testMode = false) {tempRaw : ℤ} {env : Env}
    (hread : (readFor cfg s tempRaw env).ret = 0) :
    ∃ t, (readFor cfg s tempRaw env).tempOut = some t := by
  have hcases := read_cases s.sensor env.answers tempRaw
  simp only [readFor, htest] at hread ⊢
  obtain ⟨hneg, -⟩ | ⟨-, -, ⟨hneg, -⟩ | ⟨-, hi, lo, t, -, -, ht⟩⟩ := hcases
  · omega
  · omega
  · exact ⟨t, ht⟩

theorem step_provenance {calls calls' : List Record} {s' : State} {e : Event}
    (htest : cfg.testMode = false) (h : Provenance s calls)
    (hstep : Recorded cfg (s, calls) e (s', calls')) : Provenance s' calls' := by
  obtain ⟨hstep, hcalls⟩ := hstep
  dsimp only at hstep hcalls
  cases step_sensorStep hstep with
  | reboot answers hreboot =>
    simp only [callsAfter, hreboot] at hcalls
    rw [hcalls]
    exact boot_provenance htest answers s.log
  | other hnone hgrant hsensor hlog =>
    have hsame : calls' = calls := by
      rw [hcalls]
      cases e with
      | grant => exact absurd hgrant (by simp [Event.isGrant])
      | _ => simp only [callsAfter, hnone]
    rw [hsame]
    refine ⟨fun answers => ?_, h.sound, ?_⟩
    · rw [hsensor]
      exact h.session answers
    · rw [(unreported_extends hlog).1, h.values]
  | @readFailed bufid tempRaw env _ hfail hsensor hlog =>
    obtain rfl : calls' = calls ++ [readRecord cfg s tempRaw env] := hcalls
    obtain ⟨hinv, hsound⟩ := read_provenance htest h tempRaw env
    refine ⟨fun answers => hsensor ▸ hinv answers, hsound, ?_⟩
    rw [hlog, reported_append _ (by simp [Entry.isPowerUp]), measured, List.filterMap_append,
      h.values]
    simp [Entry.reportValue, measuredValue, readRecord, hfail, measured]
  | @report bufid tempRaw env _ hread hsensor hlog =>
    obtain rfl : calls' = calls ++ [readRecord cfg s tempRaw env] := hcalls
    obtain ⟨hinv, hsound⟩ := read_provenance htest h tempRaw env
    -- the same call for the record and for the request
    obtain ⟨t, ht⟩ := readFor_tempOut htest hread
    refine ⟨fun answers => hsensor ▸ hinv answers, hsound, ?_⟩
    rw [hlog, reported_append _ (by simp [Entry.isPowerUp]), measured, List.filterMap_append,
      h.values]
    simp [List.filterMap_cons, Entry.reportValue, measuredValue, readRecord, hread, ht, measured,
      temperatureRequest]

/-- In every run of a device with its sensor, reboots included: the values
reported since the last power-up are those of the successful readings since
then, in order and without a gap, and each reading is compensated from the two
bytes of its own call with the calibration block that was read last. -/
theorem reports_measured (htest : cfg.testMode = false)
    (h : Run (Fires (step cfg)) (boot cfg answers []) es s) :
    ∃ calls, Run (Recorded cfg) (boot cfg answers [], [initRecord cfg answers]) es (s, calls) ∧
      reported s.log = measured calls ∧ Whenever Record.Sound calls := by
  obtain ⟨calls, hr⟩ := recorded_of_run h [initRecord cfg answers]
  have hp : Provenance s calls := by
    refine Run.invariant (P := fun p => Provenance p.1 p.2) hr (boot_provenance htest answers []) ?_
    rintro ⟨s, calls⟩ e ⟨s', calls'⟩ hp hstep
    exact step_provenance htest hp hstep
  exact ⟨calls, hr, hp.values, hp.sound⟩

end Sensor

def failedRead : List Event :=
  [.signal .steering 0 5 .working, .rtcInterrupt 0 true, .work, .callback .working,
    .grant 7 0 { Env.working with answers := fun _ => ⟨false, -5, fun _ => 0⟩ },
    .rtcInterrupt 0 true, .work, .callback .working, .grant 8 0 .working]

theorem reports_measured_failedRead :
    ∃ s, exec (step .production) (boot .production Env.working.answers []) failedRead = some s ∧
      grants s.log = 2 ∧ (reported s.log).length = 1 ∧
      ∃ calls, Run (Recorded .production) (boot .production Env.working.answers [],
          [initRecord .production Env.working.answers]) failedRead (s, calls) ∧
        reported s.log = measured calls ∧ Whenever Record.Sound calls := by
  obtain ⟨s, hs, hgrants, hlen⟩ : ∃ s, exec (step .production)
      (boot .production Env.working.answers []) failedRead = some s ∧ grants s.log = 2 ∧
        (reported s.log).length = 1 := ⟨_, rfl, by decide, by decide⟩
  exact ⟨s, hs, hgrants, hlen, reports_measured rfl (run_of_exec hs)⟩

/-- The `n`-th temperature of the test mode: from 20 to 30 degrees in half
degrees, and again. -/
def mocked (n : ℕ) : ℤ := 200 + 5 * (n % 21 : ℕ)

theorem mocked_succ (n : ℕ) :
    mocked (n + 1) = if mocked n + 5 > 300 then 200 else mocked n + 5 := by
  unfold mocked
  split <;> omega

section Mocked

variable {cfg : Config} {answers : ℕ → Answer} {es : List Event} {s : State}

/-- The driver stands where the grants have brought it, and each grant has
reported its temperature. -/
structure State.Mocked (s : State) : Prop where
  next : s.sensor.mockTemp = mocked (grants s.log)
  values : reported s.log = (List.range (grants s.log)).map fun n => Int16.ofInt (mocked n)

theorem boot_mocked (htest : cfg.testMode = true) (answers : ℕ → Answer) (log : List Entry) :
    (boot cfg answers log).Mocked := by
  obtain ⟨hreported, hgrants⟩ := powerUp_reported log
  have hlog : (boot cfg answers log).log = log ++ [.powerUp] := rfl
  refine ⟨?_, ?_⟩
  · rw [hlog, hgrants]
    simp only [boot, htest]
    rfl
  · rw [hlog, hreported, hgrants]
    rfl

theorem step_mocked {s' : State} {e : Event} (htest : cfg.testMode = true) (h : s.Mocked)
    (hstep : step cfg s e = some s') : s'.Mocked := by
  have hread : ∀ tempRaw env, readFor cfg s tempRaw env =
      ⟨0, some (mocked (grants s.log)),
        { s.sensor with mockTemp := mocked (grants s.log + 1) }, ⟨env.answers, []⟩⟩ := by
    intro tempRaw env
    rw [mocked_succ, ← h.next, readFor, htest]
    rfl
  cases step_sensorStep hstep with
  | reboot answers _ => exact boot_mocked htest answers s.log
  | other _ _ hsensor hlog =>
    obtain ⟨hreported, hgrants⟩ := unreported_extends hlog
    exact ⟨by rw [hsensor, hgrants, h.next], by rw [hreported, hgrants, h.values]⟩
  | @readFailed bufid tempRaw env _ hfail _ _ => exact absurd (hread tempRaw env ▸ rfl) hfail
  | @report bufid tempRaw env _ _ hsensor hlog =>
    have hgrants : grants s'.log = grants s.log + 1 := by
      rw [hlog, grants_append _ (by simp [Entry.isPowerUp])]
      rfl
    refine ⟨by rw [hsensor, hgrants, hread], ?_⟩
    rw [hgrants, List.range_succ, List.map_append, ← h.values, hlog,
      reported_append _ (by simp [Entry.isPowerUp]), hread]
    rfl

theorem run_mocked (htest : cfg.testMode = true)
    (h : Run (Fires (step cfg)) (boot cfg answers []) es s) : s.Mocked :=
  h.invariant (boot_mocked htest answers []) fun _ _ _ hs hstep => step_mocked htest hs hstep

/-- In every run of a test build no reading fails, the requests since the last
power-up count through the mocked temperatures, and for each of them a callback
of the coordinator logs the text that the end device has logged. -/
theorem reports_mocked (htest : cfg.testMode = true)
    (h : Run (Fires (step cfg)) (boot cfg answers []) es s) :
    (reported s.log = (List.range (grants s.log)).map fun n => Int16.ofInt (mocked n)) ∧
      ∀ caller, (reported s.log).map (Coordinator.temperatureLine caller) =
        (List.range (grants s.log)).map
          fun n => TemperatureText.receivedLine caller (mocked n) := by
  have hvalues := (run_mocked htest h).values
  refine ⟨hvalues, fun caller => ?_⟩
  rw [hvalues, List.map_map]
  apply List.map_congr_left
  intro n _
  have hrange : 200 ≤ mocked n ∧ mocked n ≤ 300 := by
    unfold mocked
    omega
  exact TemperatureText.temperatureLine_eq (by unfold MachineWords.InInt16; omega) (.inl (by omega))
    caller

end Mocked

def Config.test : Config := { Config.production with testMode := true }

theorem reports_mocked_failedRead :
    ∃ s, exec (step .test) (boot .test Env.working.answers []) failedRead = some s ∧
      grants s.log = 2 ∧
      (reported s.log = (List.range (grants s.log)).map fun n => Int16.ofInt (mocked n)) ∧
      ∀ caller, (reported s.log).map (Coordinator.temperatureLine caller) =
        (List.range (grants s.log)).map
          fun n => TemperatureText.receivedLine caller (mocked n) := by
  obtain ⟨s, hs, hgrants⟩ : ∃ s, exec (step .test) (boot .test Env.working.answers [])
      failedRead = some s ∧ grants s.log = 2 := ⟨_, rfl, by decide⟩
  exact ⟨s, hs, hgrants, reports_mocked rfl (run_of_exec hs)⟩

end ZigbeeGateway.EndDevice
