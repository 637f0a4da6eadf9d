import ZigbeeGateway.ConsoleCommands
import ZigbeeGateway.SamplingClock

namespace ZigbeeGateway.EndDevice
open CStrings PairingCommand Histories Bmp180

/-- The reports that are lost at an event. -/
def loss (cfg : Config) (s : State) : Event → ℕ
  | .rtcInterrupt err isCompareEvent =>
    if err = 0 ∧ isCompareEvent = true ∧ s.rtcWorkPending = true then 1 else 0
  | .callback env =>
    match s.queue.head? with
    | some .zbTriggerTempReport =>
      if s.gNetworkJoined = true ∧ env.getOutStatus = RET_OK then 0 else 1
    | some .rebootHandler => s.pipeline
    | _ => 0
  | .grant _ tempRaw env => if (readFor cfg s tempRaw env).ret = 0 then 0 else 1
  | .tick _ => if s.rebootTimer.any (· ≤ 1) then s.pipeline else 0
  | _ => 0

def State.Missing (s : State) (n : ℕ) : Prop :=
  s.log.count .rtcCompare = s.log.countP Entry.isWrite + s.pipeline + n

variable {cfg : Config} {s s' : State} {n : ℕ}

theorem State.Missing.idle (h : s.Missing n) (hlog : Extends Entry.Idle s.log s'.log) {k : ℕ}
    (hpipeline : s'.pipeline + k = s.pipeline) : s'.Missing (n + k) := by
  obtain ⟨hwrites, hcompares⟩ := counts_idle hlog
  unfold State.Missing at h ⊢
  omega

theorem State.Missing.append (h : s.Missing n) {l : List Entry} (hlog : s'.log = s.log ++ l) {k : ℕ}
    (hl : l.count .rtcCompare + s.pipeline = l.countP Entry.isWrite + s'.pipeline + k) :
    s'.Missing (n + k) := by
  unfold State.Missing at h ⊢
  rw [hlog, List.countP_append, List.count_append]
  omega

theorem parseUartCommand_pipeline (cfg : Config) (s : State) (line : Buffer) :
    (parseUartCommand cfg s line).pipeline = s.pipeline := by
  have hkeep : (parseUartCommand cfg s line).rtcWorkPending = s.rtcWorkPending ∧
      (parseUartCommand cfg s line).delayedGrants = s.delayedGrants := by
    unfold parseUartCommand
    dsimp only
    split
    · exact ⟨rfl, rfl⟩
    · exact ⟨rfl, rfl⟩
    · split_ifs <;> exact ⟨rfl, rfl⟩
  have hcommand : (commandOf line).toList.count .zbTriggerTempReport = 0 := by
    unfold commandOf
    split
    · rfl
    · rfl
    · split_ifs <;> rfl
  rw [State.pipeline, parseUartCommand_queue, List.count_append, hcommand, hkeep.1, hkeep.2]
  rfl

theorem zbTriggerTempReport_missing {rest : List Callback} (hs : s.Missing n)
    (hq : s.queue = .zbTriggerTempReport :: rest) (env : Env) :
    (zbTriggerTempReport { s with queue := rest } env).Missing
      (n + if s.gNetworkJoined = true ∧ env.getOutStatus = RET_OK then 0 else 1) := by
  have hcount : s.queue.count .zbTriggerTempReport = rest.count .zbTriggerTempReport + 1 := by
    rw [hq, List.count_cons_self]
  have hdropped : ({ s with queue := rest } : State).Missing (n + 1) := by
    apply hs.idle
    · exact .refl _
    · simp only [State.pipeline]
      omega
  unfold zbTriggerTempReport
  dsimp only
  -- the report moves on to the buffer pool only on the network and with the request taken
  by_cases hjoined : s.gNetworkJoined = true
  · rw [if_neg (by simp [hjoined])]
    by_cases hout : env.getOutStatus = RET_OK
    · rw [if_neg (not_not.mpr hout), if_pos ⟨hjoined, hout⟩]
      apply hs.idle
      · exact .refl _
      · simp only [State.pipeline]
        omega
    · rw [if_pos hout, if_neg fun h => hout h.2]
      exact hdropped
  · rw [if_pos (by simp [hjoined]), if_neg fun h => hjoined h.1]
    exact hdropped

theorem runCallback_missing {cb : Callback} {rest : List Callback} (hs : s.Missing n)
    (hq : s.queue = cb :: rest) (env : Env) :
    (runCallback cfg { s with queue := rest } env cb).Missing
      (n + loss cfg s (.callback env)) := by
  have hpop : cb ≠ .zbTriggerTempReport → ({ s with queue := rest } : State).pipeline =
      s.pipeline := by
    intro hcb
    simp [State.pipeline, hq, hcb]
  have hhead : s.queue.head? = some cb := by rw [hq, List.head?_cons]
  unfold loss
  simp only [hhead]
  cases cb with
  | zbTriggerTempReport => exact zbTriggerTempReport_missing hs hq env
  | icSetCallback =>
    refine hs.idle (icSetCallback_idles { s with queue := rest } env).log ?_
    rw [← hpop (by decide)]
    simp only [icSetCallback]
    split <;> rfl
  | joinCallback =>
    refine hs.idle (joinCallback_idles { s with queue := rest } env).log ?_
    rw [← hpop (by decide)]
    simp only [joinCallback]
    split <;> rfl
  | factoryResetHandler =>
    refine hs.idle (factoryResetHandler_idles { s with queue := rest }).log ?_
    exact hpop (by decide)
  | rebootHandler =>
    apply hs.append (l := [.powerUp]) rfl
    simp [runCallback, rebootHandler, boot, State.pipeline, Entry.isWrite]

theorem step_missing {e : Event} (hs : s.Missing n) (h : step cfg s e = some s') :
    s'.Missing (n + loss cfg s e) := by
  cases e with
  | signal sig status bufid env =>
    obtain ⟨-, h⟩ := Option.ite_none_left_eq_some.mp h
    obtain rfl := Option.some.inj h
    obtain ⟨⟨l, hl, hlog⟩, -, -, hpipeline⟩ :=
      zbossSignalHandler_signalled cfg (s.emit (.signal sig status bufid)) env sig status bufid
    obtain ⟨hwrites, hcompares⟩ := counts_idle hl
    have hkeep : (s.emit (.signal sig status bufid)).pipeline = s.pipeline := rfl
    unfold State.Missing at hs ⊢
    rw [hpipeline, hkeep]
    obtain hlog | ⟨-, hlog⟩ := hlog
    all_goals
      rw [hlog]
      simp [State.emit, List.countP_append, List.count_append, Entry.isWrite, loss] at *
      omega
  | rtcInterrupt err isCompareEvent =>
    obtain rfl := Option.some.inj h
    unfold rtc2Isr
    simp only [loss]
    by_cases hcompare : err = 0 ∧ isCompareEvent = true
    · rw [if_pos hcompare]
      apply hs.append (l := [.rtcCompare, .rtcRestart 32]) rfl
      -- the work item takes the event, or is pending and swallows it
      cases hpending : s.rtcWorkPending with
      | false =>
        simp [hcompare, State.pipeline, hpending, Entry.isWrite]
        omega
      | true =>
        simp [hcompare, State.pipeline, hpending, Entry.isWrite]
        omega
    · rw [if_neg hcompare, if_neg fun h => hcompare ⟨h.1, h.2.1⟩]
      exact hs
  | work =>
    obtain ⟨hpending, h⟩ := Option.ite_none_right_eq_some.mp h
    obtain rfl := Option.some.inj h
    apply hs.idle
    · exact .refl _
    · simp [State.pipeline, rtcWorkHandler, State.schedule, hpending, List.count_append, loss]
      omega
  | callback env =>
    obtain ⟨cb, rest, hq, rfl⟩ := step_callback h
    exact runCallback_missing hs hq env
  | grant bufid tempRaw env =>
    obtain ⟨⟨hpos, -, -⟩, h⟩ := Option.ite_none_right_eq_some.mp h
    obtain rfl := Option.some.inj h
    unfold sendTemperatureCb
    dsimp only
    split
    · rename_i hfail
      have hloss : loss cfg s (.grant bufid tempRaw env) = 1 := if_neg hfail
      apply hs.append (l := [.granted bufid, .bufFree bufid]) (List.append_assoc _ _ _)
      simp [hloss, State.pipeline, State.emit, Entry.isWrite]
      omega
    · rename_i hok
      have hloss : loss cfg s (.grant bufid tempRaw env) = 0 := if_pos (not_not.mp hok)
      apply hs.append (l := [.granted bufid, .writeAttr _]) (List.append_assoc _ _ _)
      simp [hloss, State.pipeline, State.emit, Entry.isWrite]
      omega
  | confirm bufid status =>
    obtain ⟨-, h⟩ := Option.ite_none_right_eq_some.mp h
    obtain rfl := Option.some.inj h
    apply hs.append (l := [.confirmed bufid status, .bufFree bufid]) (List.append_assoc _ _ _)
    simp [State.pipeline, writeAttrCallback, State.emit, Entry.isWrite, loss]
  | uartLine line =>
    obtain rfl := Option.some.inj h
    exact hs.idle (parseUartCommand_idles cfg s line).log (parseUartCommand_pipeline cfg s line)
  | tick env =>
    obtain rfl := Option.some.inj h
    unfold tick loss
    cases htimer : s.rebootTimer with
    | none => exact hs
    | some ms =>
      dsimp only
      by_cases hexpired : ms ≤ 1
      · simp only [hexpired, if_true, Option.any_some, decide_true]
        apply hs.append (l := [.powerUp]) rfl
        simp [rebootHandler, boot, State.pipeline, Entry.isWrite]
      · simp only [hexpired, if_false, Option.any_some, decide_false, Bool.false_eq_true]
        exact hs

section Runs

variable {answers : ℕ → Answer} {es : List Event}

theorem run_missing
    (h : Run (Counted (loss cfg) (Fires (step cfg))) (boot cfg answers [], 0) es (s, n)) :
    s.Missing n := by
  refine Run.invariant (P := fun q : State × ℕ => q.1.Missing q.2) h rfl ?_
  rintro ⟨s, n⟩ e ⟨s', n'⟩ hs ⟨hstep, hn⟩
  obtain rfl : n' = n + loss cfg s e := hn
  exact step_missing hs hstep

def offline : List Event := [.rtcInterrupt 0 true, .work, .callback .working]

/-- In every run, reboots included, no report is lost without a reason: each
compare event has become one write request, is still on its way, or is one of
those that the steps of the run lost; and all of them are written or on their
way exactly if no step lost any. -/
theorem report_conservation (h : Run (Fires (step cfg)) (boot cfg answers []) es s) :
    ∃ n, Run (Counted (loss cfg) (Fires (step cfg))) (boot cfg answers [], 0) es (s, n) ∧
      s.log.count .rtcCompare = s.log.countP Entry.isWrite + s.pipeline + n ∧
      (n = 0 ↔ Run (When (fun s e => loss cfg s e = 0) (Fires (step cfg)))
        (boot cfg answers []) es s) := by
  obtain ⟨n, hn⟩ := h.counted (loss cfg)
  have hmissing := run_missing hn
  refine ⟨n, hn, hmissing, ?_⟩
  rw [← Run.counted_zero_iff]
  constructor
  · rintro rfl
    exact hn
  · intro hzero
    have hnone := run_missing hzero
    unfold State.Missing at hmissing hnone
    omega

theorem report_conservation_offline :
    ∃ s, exec (step .production) (boot .production Env.working.answers []) offline = some s ∧
      s.log.count .rtcCompare = 1 ∧ s.log.countP Entry.isWrite = 0 ∧ s.pipeline = 0 ∧
      ∃ n, Run (Counted (loss .production) (Fires (step .production)))
          (boot .production Env.working.answers [], 0) offline (s, n) ∧
        s.log.count .rtcCompare = s.log.countP Entry.isWrite + s.pipeline + n ∧
        (n = 0 ↔ Run (When (fun s e => loss .production s e = 0) (Fires (step .production)))
          (boot .production Env.working.answers []) offline s) := by
  obtain ⟨s, hs, hcompares, hwrites, hpipeline⟩ : ∃ s,
      exec (step .production) (boot .production Env.working.answers []) offline = some s ∧
      s.log.count .rtcCompare = 1 ∧ s.log.countP Entry.isWrite = 0 ∧ s.pipeline = 0 :=
    ⟨_, rfl, by decide, by decide, by decide⟩
  exact ⟨s, hs, hcompares, hwrites, hpipeline, report_conservation (run_of_exec hs)⟩

end Runs

end ZigbeeGateway.EndDevice

namespace ZigbeeGateway.SamplingClock
open MyRtc Histories PeriodicService

variable {cfg : EndDevice.Config} {answers : ℕ → Bmp180.Answer}
  {es : List (BoardEvent EndDevice.Event)} {b : Board EndDevice.State} {t : Tally}

theorem compares_kept {s s' : EndDevice.State} {e : EndDevice.Event}
    (hrtc : (endDevice cfg).isRtcInterrupt e = false) (h : EndDevice.step cfg s e = some s') :
    s'.log.count .rtcCompare = s.log.count .rtcCompare := by
  cases EndDevice.step_effect h with
  | idle _ hidle => exact (EndDevice.counts_idle hidle.log).2
  | reboot answers _ => simp [EndDevice.boot]
  | compare => exact absurd hrtc (by simp [endDevice])
  | signal _ hl hlog =>
    have hcount := (EndDevice.counts_idle hl).2
    obtain hlog | ⟨-, hlog⟩ := hlog
    all_goals
      rw [hlog]
      simpa [List.count_append] using hcount
  | readFailed _ _ hlog => simp [hlog, List.count_append]
  | write _ _ _ hlog => simp [hlog, List.count_append]
  | confirm _ hlog => simp [hlog, List.count_append]

theorem run_compares
    (h : Run (Fires (step (endDevice cfg))) (powerUp (EndDevice.boot cfg answers [])) es b) :
    b.app.log.count .rtcCompare = es.countP BoardEvent.isInterrupt := by
  refine Run.history
    (P := fun es b => b.app.log.count .rtcCompare = es.countP BoardEvent.isInterrupt) h rfl ?_
  intro es b e b' hr ih hs
  rw [List.countP_append, ← ih]
  cases e with
  | cycle =>
    obtain rfl := Option.some.inj hs
    rfl
  | interrupt =>
    have hstep := (step_interrupt (run_armed hr) hs).2.1
    rw [← Option.some.inj hstep]
    simp [EndDevice.rtc2Isr, List.count_append, BoardEvent.isInterrupt]
  | app e =>
    obtain ⟨hrtc, hstep, -⟩ := step_app hs
    exact compares_kept hrtc hstep

/-- In every run of the board of the end device each clock cycle belongs to the
four seconds of a report that was written, is on its way or was lost by a step
of the run, or it passed while an interrupt was waiting, was lost in a reboot or
is one of those since the counter was last armed. -/
theorem reports_on_schedule
    (h : Run (sampler (endDevice cfg)).Tallied (powerUp (EndDevice.boot cfg answers []), .zero) es
      (b, t)) :
    ∃ n, Run (Counted (EndDevice.loss cfg) (Fires (EndDevice.step cfg)))
        (EndDevice.boot cfg answers [], 0) (es.filterMap (endDevice cfg).project) (b.app, n) ∧
      es.countP BoardEvent.isCycle =
        period * (b.app.log.countP EndDevice.Entry.isWrite + b.app.pipeline + n) +
          t.waited + t.lost + elapsed (b.chip 2) := by
  have hrun := Device.run_of_tallied h
  obtain ⟨n, hn⟩ := (run_app hrun).counted (EndDevice.loss cfg)
  have hmissing : b.app.log.count .rtcCompare = _ := EndDevice.run_missing hn
  refine ⟨n, hn, ?_⟩
  rw [← hmissing, run_compares hrun]
  exact run_schedule h

theorem reports_on_schedule_oneReport :
    ∃ b t, Run (sampler (endDevice .production)).Tallied (productionBoard, .zero) oneReport (b, t) ∧
      b.app.log.countP EndDevice.Entry.isWrite = 1 ∧
      ∃ n, Run (Counted (EndDevice.loss .production) (Fires (EndDevice.step .production)))
          (productionBoard.app, 0) (oneReport.filterMap (endDevice .production).project)
            (b.app, n) ∧
        oneReport.countP BoardEvent.isCycle =
          period * (b.app.log.countP EndDevice.Entry.isWrite + b.app.pipeline + n) +
            t.waited + t.lost + elapsed (b.chip 2) := by
  obtain ⟨b, hr, hcount⟩ := run_oneReport
  obtain ⟨t, ht⟩ := Device.tallied_of_run (D := sampler (endDevice .production)) hr .zero
  exact ⟨b, t, ht, hcount, reports_on_schedule ht⟩

end ZigbeeGateway.SamplingClock
