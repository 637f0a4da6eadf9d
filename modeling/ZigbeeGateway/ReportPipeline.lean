import ZigbeeGateway.EndDevice

namespace ZigbeeGateway.EndDevice
open CStrings PairingCommand Histories Bmp180

/-- An entry that is about neither the network nor buffers nor the RTC. -/
def Entry.Idle : Entry → Prop
  | .powerUp | .signal _ _ _ | .rtcCompare | .granted _ | .confirmed _ _ | .writeAttr _
  | .bufFree _ => False
  | _ => True

/-- The reports on their way, in whichever stage. -/
def State.pipeline (s : State) : ℕ :=
  s.rtcWorkPending.toNat + s.queue.count .zbTriggerTempReport + s.delayedGrants

def joinedAfter (sig : Signal) (status : ℤ) (joined : Bool) : Bool :=
  match sig with
  | .deviceReboot | .steering => if status = RET_OK then true else joined
  | .leave => false
  | _ => joined

/-- Nothing happened to the flag or the buffers, no report was added, and only a
device that has joined asked for one more buffer. -/
structure Idles (s s' : State) : Prop where
  log : Extends Entry.Idle s.log s'.log
  joined : s'.gNetworkJoined = s.gNetworkJoined
  requests : s'.requestsInFlight = s.requestsInFlight
  pipeline : s'.pipeline ≤ s.pipeline
  grants : s'.delayedGrants ≤ s.delayedGrants ∨ s.gNetworkJoined = true

/-- The read of `send_temperature_cb` for a grant in this state. -/
def readFor (cfg : Config) (s : State) (tempRaw : ℤ) (env : Env) : Reading :=
  bmp180ReadTemperature cfg.testMode s.sensor ⟨env.answers, []⟩ (some tempRaw)

def Event.isGrant : Event → Bool
  | .grant _ _ _ => true
  | _ => false

def Event.isPlain : Event → Bool
  | .signal _ _ _ _ | .grant _ _ _ => false
  | _ => true

inductive Effect (cfg : Config) (s : State) : Event → State → Prop
  | idle {e : Event} {s' : State} : e.isPlain = true → Idles s s' → Effect cfg s e s'
  | reboot {e : Event} (answers : ℕ → Answer) : e.isPlain = true →
      Effect cfg s e (boot cfg answers s.log)
  | compare {s' : State} : s'.log = s.log ++ [.rtcCompare, .rtcRestart 32] →
      s'.gNetworkJoined = s.gNetworkJoined → s'.requestsInFlight = s.requestsInFlight →
      s'.pipeline ≤ s.pipeline + 1 → s'.delayedGrants = s.delayedGrants →
      Effect cfg s (.rtcInterrupt 0 true) s'
  | signal {sig : Signal} {status : ℤ} {bufid : ℕ} {env : Env} {s' : State} {l : List Entry} :
      bufid ∉ s.requestsInFlight → Extends Entry.Idle (s.log ++ [.signal sig status bufid]) l →
      (s'.log = l ++ [.bufFree bufid] ∨ bufid = 0 ∧ s'.log = l) →
      s'.gNetworkJoined = joinedAfter sig status s.gNetworkJoined →
      s'.requestsInFlight = s.requestsInFlight → s'.pipeline = s.pipeline →
      s'.delayedGrants = s.delayedGrants → Effect cfg s (.signal sig status bufid env) s'
  | readFailed {bufid : ℕ} {tempRaw : ℤ} {env : Env} {s' : State} :
      (readFor cfg s tempRaw env).ret ≠ 0 → bufid ∉ s.requestsInFlight →
      s'.log = s.log ++ [.granted bufid, .bufFree bufid] →
      s'.gNetworkJoined = s.gNetworkJoined → s'.requestsInFlight = s.requestsInFlight →
      s'.pipeline ≤ s.pipeline → s'.delayedGrants + 1 = s.delayedGrants →
      Effect cfg s (.grant bufid tempRaw env) s'
  | write {bufid : ℕ} {tempRaw : ℤ} {env : Env} {s' : State} {req : WriteAttrReq} :
      (readFor cfg s tempRaw env).ret = 0 → bufid ∉ s.requestsInFlight → req.bufid = bufid →
      s'.log = s.log ++ [.granted bufid, .writeAttr req] →
      s'.gNetworkJoined = s.gNetworkJoined →
      s'.requestsInFlight = s.requestsInFlight ++ [bufid] →
      s'.pipeline + 1 ≤ s.pipeline → s'.delayedGrants + 1 = s.delayedGrants →
      Effect cfg s (.grant bufid tempRaw env) s'
  | confirm {bufid : ℕ} {status : ℤ} {s' : State} : bufid ∈ s.requestsInFlight →
      s'.log = s.log ++ [.confirmed bufid status, .bufFree bufid] →
      s'.gNetworkJoined = s.gNetworkJoined →
      s'.requestsInFlight = s.requestsInFlight.erase bufid →
      s'.pipeline = s.pipeline → s'.delayedGrants = s.delayedGrants →
      Effect cfg s (.confirm bufid status) s'

theorem Idles.refl (s : State) : Idles s s := ⟨.refl _, rfl, rfl, le_rfl, .inl le_rfl⟩

theorem Idles.trans {s t u : State} (h : Idles s t) (h' : Idles t u) : Idles s u where
  log := h.log.trans h'.log
  joined := h'.joined.trans h.joined
  requests := h'.requests.trans h.requests
  pipeline := h'.pipeline.trans h.pipeline
  grants := by
    rcases h.grants with hg | hon
    · exact h'.grants.imp hg.trans' h.joined.symm.trans
    · exact .inr hon

theorem Idles.emit {s t : State} {e : Entry} (h : Idles s t) (he : e.Idle) : Idles s (t.emit e) :=
  ⟨h.log.concat he, h.joined, h.requests, h.pipeline, h.grants⟩

theorem Idles.printk {s t : State} (h : Idles s t) (out : List UInt8) : Idles s (t.printk out) :=
  h.emit trivial

theorem Idles.schedule {s t : State} {cb : Callback} (h : Idles s t)
    (hcb : cb ≠ .zbTriggerTempReport) : Idles s (t.schedule cb) := by
  have hq : (t.schedule cb).pipeline = t.pipeline := by
    have hcount : (t.queue ++ [cb]).count .zbTriggerTempReport =
        t.queue.count .zbTriggerTempReport := by simp [List.count_append, hcb]
    rw [State.pipeline, State.schedule, hcount, State.pipeline]
  exact ⟨h.log, h.joined, h.requests, hq.trans_le h.pipeline, h.grants⟩

theorem parseUartCommand_idles (cfg : Config) (s : State) (line : Buffer) :
    Idles s (parseUartCommand cfg s line) := by
  unfold parseUartCommand
  have hecho := (Idles.refl s).printk (text "Parsed UART Command: '" ++ cstr line ++ text "'\n")
  generalize s.printk (text "Parsed UART Command: '" ++ cstr line ++ text "'\n") = t at hecho
  dsimp only
  split
  · exact hecho.printk _
  · exact Idles.schedule ⟨hecho.log, hecho.joined, hecho.requests, hecho.pipeline, hecho.grants⟩
      (by decide)
  · split_ifs
    · exact hecho.schedule (by decide)
    · exact (hecho.printk _).schedule (by decide)
    · exact (hecho.printk _).schedule (by decide)
    · exact hecho.printk _
    · exact hecho

theorem icSetCallback_idles (s : State) (env : Env) : Idles s (icSetCallback s env) := by
  have hset : Idles s (s.emit (.icSet s.gIcSetParams.ic)) := (Idles.refl s).emit trivial
  unfold icSetCallback
  dsimp only
  split
  · exact hset.printk _
  · exact hset.printk _

theorem joinCallback_idles (s : State) (env : Env) : Idles s (joinCallback s env) := by
  have hcomm : Idles s (s.emit (.commissioning env.permit)) := (Idles.refl s).emit trivial
  unfold joinCallback
  dsimp only
  split
  · exact hcomm.printk _
  · exact hcomm.printk _

theorem factoryResetHandler_idles (s : State) : Idles s (factoryResetHandler s) := by
  have hreset : Idles s (s.emit .resetViaLocalAction) := (Idles.refl s).emit trivial
  have hinit := hreset.emit (e := .timerInit s.rebootTimer.isSome) trivial
  refine Idles.emit ?_ trivial
  exact ⟨hinit.log, hinit.joined, hinit.requests, hinit.pipeline, hinit.grants⟩

/-- A trigger leaves the queue for the buffer pool, or is dropped. -/
theorem zbTriggerTempReport_idles {s : State} {rest : List Callback}
    (hq : s.queue = .zbTriggerTempReport :: rest) (env : Env) :
    Idles s (zbTriggerTempReport { s with queue := rest } env) := by
  have hcount : s.queue.count .zbTriggerTempReport = rest.count .zbTriggerTempReport + 1 := by
    rw [hq, List.count_cons_self]
  have hpipe : ∀ n, n ≤ s.delayedGrants + 1 →
      s.rtcWorkPending.toNat + rest.count .zbTriggerTempReport + n ≤ s.pipeline := by
    intro n hn
    rw [State.pipeline]
    omega
  unfold zbTriggerTempReport
  split_ifs with hoff hrefused
  · exact ⟨.refl _, rfl, rfl, hpipe _ (Nat.le_succ _), .inl le_rfl⟩
  · exact ⟨.refl _, rfl, rfl, hpipe _ (Nat.le_succ _), .inl le_rfl⟩
  · exact ⟨.refl _, rfl, rfl, hpipe _ le_rfl, .inr (by simpa using hoff)⟩

theorem foldl_printk (s : State) (out : List (List UInt8)) :
    out.foldl State.printk s = { s with log := s.log ++ out.map .printk } := by
  induction out generalizing s with
  | nil => simp
  | cons line out ih =>
    rw [List.foldl_cons, ih]
    simp [State.printk, State.emit]

theorem foldl_printk_idles (s : State) (out : List (List UInt8)) :
    Idles s (out.foldl State.printk s) := by
  rw [foldl_printk]
  refine ⟨⟨_, rfl, ?_⟩, rfl, rfl, le_rfl, .inl le_rfl⟩
  intro e he
  obtain ⟨line, -, rfl⟩ := List.mem_map.mp he
  trivial

/-- What a signal leaves behind: the flag, and a log that ends with the free of
the signal's buffer. -/
structure Signalled (s s' : State) (bufid : ℕ) (joined : Bool) : Prop where
  log : ∃ l, Extends Entry.Idle s.log l ∧
    (s'.log = l ++ [.bufFree bufid] ∨ bufid = 0 ∧ s'.log = l)
  joined : s'.gNetworkJoined = joined
  requests : s'.requestsInFlight = s.requestsInFlight
  pipeline : s'.pipeline = s.pipeline
  grants : s'.delayedGrants = s.delayedGrants

theorem signalled_release {s t : State} {joined : Bool} (hlog : Extends Entry.Idle s.log t.log)
    (hjoined : t.gNetworkJoined = joined) (hrequests : t.requestsInFlight = s.requestsInFlight)
    (hpipeline : t.pipeline = s.pipeline) (hgrants : t.delayedGrants = s.delayedGrants)
    (bufid : ℕ) :
    Signalled s (t.release bufid) bufid joined := by
  unfold State.release
  split
  · exact ⟨⟨t.log, hlog, .inl rfl⟩, hjoined, hrequests, hpipeline, hgrants⟩
  · rename_i h0
    exact ⟨⟨t.log, hlog, .inr ⟨not_not.mp h0, rfl⟩⟩, hjoined, hrequests, hpipeline, hgrants⟩

theorem zbossSignalHandler_signalled (cfg : Config) (s : State) (env : Env) (sig : Signal)
    (status : ℤ) (bufid : ℕ) :
    Signalled s (zbossSignalHandler cfg s env sig status bufid) bufid
      (joinedAfter sig status s.gNetworkJoined) := by
  have hled : Extends Entry.Idle s.log (s.emit (.ledStatusUpdate bufid)).log :=
    (Extends.refl _).concat trivial
  have hdefault : ∀ {l}, Extends Entry.Idle s.log l →
      Extends Entry.Idle s.log (l ++ [.defaultSignalHandler bufid]) := fun h => h.concat trivial
  cases sig <;> simp only [zbossSignalHandler]
  case deviceFirstStart =>
    split
    · have hset := hled.concat (a := Entry.icSet devInstallCode) trivial
      exact signalled_release (hdefault hset) (by rfl) (by rfl) (by rfl) (by rfl) bufid
    · -- the only exit that hands the buffer past the default handler
      have hprint := (foldl_printk_idles (s.emit (.ledStatusUpdate bufid))
        (InstallCode.printProductionPairingCommands cfg.selfIeee env.randomKey)).log
      rw [foldl_printk] at hprint ⊢
      exact ⟨⟨_, hled.trans hprint, .inl rfl⟩, rfl, rfl, rfl, rfl⟩
  case deviceReboot =>
    have hset := hled.concat (a := Entry.icSet devInstallCode) trivial
    unfold joinedAfter
    split_ifs
    · exact signalled_release (hdefault hset) (by rfl) (by rfl) (by rfl) (by rfl) bufid
    · exact signalled_release (hdefault hled) (by rfl) (by rfl) (by rfl) (by rfl) bufid
    · exact signalled_release (hdefault hset) (by rfl) (by rfl) (by rfl) (by rfl) bufid
    · exact signalled_release (hdefault hled) (by rfl) (by rfl) (by rfl) (by rfl) bufid
  case steering =>
    unfold joinedAfter
    split_ifs
    · exact signalled_release (hdefault hled) (by rfl) (by rfl) (by rfl) (by rfl) bufid
    · exact signalled_release (hdefault hled) (by rfl) (by rfl) (by rfl) (by rfl) bufid
  case leave => exact signalled_release (hdefault hled) (by rfl) (by rfl) (by rfl) (by rfl) bufid
  case other => exact signalled_release (hdefault hled) (by rfl) (by rfl) (by rfl) (by rfl) bufid

theorem sendTemperatureCb_effect {cfg : Config} {s : State} {bufid : ℕ} {tempRaw : ℤ} {env : Env}
    (hpos : 0 < s.delayedGrants) (hb : bufid ∉ s.requestsInFlight) :
    Effect cfg s (.grant bufid tempRaw env)
      (sendTemperatureCb cfg ({ s with delayedGrants := s.delayedGrants - 1 }.emit (.granted bufid))
        env tempRaw bufid) := by
  unfold sendTemperatureCb
  dsimp only
  split
  · rename_i hfail
    refine .readFailed hfail hb (List.append_assoc _ _ _) rfl rfl ?_ (Nat.sub_add_cancel hpos)
    simp only [State.pipeline, State.emit]
    omega
  · rename_i hok
    refine .write (not_not.mp hok) hb rfl (List.append_assoc _ _ _) rfl rfl ?_
      (Nat.sub_add_cancel hpos)
    simp only [State.pipeline, State.emit]
    omega

/-- The work item leaves the work queue as the callback enters the stack's queue. -/
theorem rtcWorkHandler_idles {s : State} (hpending : s.rtcWorkPending = true) :
    Idles s (rtcWorkHandler { s with rtcWorkPending := false }) := by
  refine ⟨.refl _, rfl, rfl, ?_, .inl le_rfl⟩
  have hcount : (s.queue ++ [Callback.zbTriggerTempReport]).count .zbTriggerTempReport =
      s.queue.count .zbTriggerTempReport + 1 := by simp [List.count_append]
  simp only [State.pipeline, rtcWorkHandler, State.schedule, hpending, hcount, Bool.toNat_false,
    Bool.toNat_true]
  omega

theorem runCallback_effect {cfg : Config} {s : State} {env : Env} {cb : Callback}
    {rest : List Callback} (hq : s.queue = cb :: rest) :
    Effect cfg s (.callback env) (runCallback cfg { s with queue := rest } env cb) := by
  have hpop : cb ≠ .zbTriggerTempReport → Idles s { s with queue := rest } := by
    intro hcb
    refine ⟨.refl _, rfl, rfl, ?_, .inl le_rfl⟩
    simp [State.pipeline, hq, hcb]
  cases cb with
  | zbTriggerTempReport => exact .idle rfl (zbTriggerTempReport_idles hq env)
  | icSetCallback => exact .idle rfl ((hpop (by decide)).trans (icSetCallback_idles _ env))
  | joinCallback => exact .idle rfl ((hpop (by decide)).trans (joinCallback_idles _ env))
  | factoryResetHandler =>
    exact .idle rfl ((hpop (by decide)).trans (factoryResetHandler_idles _))
  | rebootHandler => exact .reboot env.answers rfl

theorem step_effect {cfg : Config} {s s' : State} {e : Event} (h : step cfg s e = some s') :
    Effect cfg s e s' := by
  cases e with
  | signal sig status bufid env =>
    simp only [step] at h
    split at h
    · exact absurd h (by simp)
    · rename_i hb
      obtain rfl := Option.some.inj h
      obtain ⟨⟨l, hl, hlog⟩, hjoined, hreq, hpipe, hgrants⟩ :=
        zbossSignalHandler_signalled cfg (s.emit (.signal sig status bufid)) env sig status bufid
      exact .signal hb hl hlog hjoined hreq hpipe hgrants
  | rtcInterrupt err isCompareEvent =>
    obtain rfl := Option.some.inj h
    unfold rtc2Isr
    split
    · rename_i hc
      obtain ⟨rfl, rfl⟩ := hc
      refine .compare rfl rfl rfl ?_ rfl
      simp only [State.pipeline, Bool.toNat_true]
      omega
    · exact .idle rfl (Idles.refl s)
  | work =>
    simp only [step] at h
    split at h
    · rename_i hpending
      obtain rfl := Option.some.inj h
      exact .idle rfl (rtcWorkHandler_idles hpending)
    · exact absurd h (by simp)
  | callback env =>
    obtain ⟨cb, rest, hq, rfl⟩ := step_callback h
    exact runCallback_effect hq
  | grant bufid tempRaw env =>
    simp only [step] at h
    split at h
    · rename_i hc
      obtain ⟨hpos, -, hb⟩ := hc
      obtain rfl := Option.some.inj h
      exact sendTemperatureCb_effect hpos hb
    · exact absurd h (by simp)
  | confirm bufid status =>
    simp only [step] at h
    split at h
    · rename_i hb
      obtain rfl := Option.some.inj h
      exact .confirm hb (by simp [writeAttrCallback, State.emit]) rfl rfl rfl rfl
    · exact absurd h (by simp)
  | uartLine line =>
    obtain rfl := Option.some.inj h
    exact .idle rfl (parseUartCommand_idles cfg s line)
  | tick env =>
    obtain rfl | ⟨t, rfl⟩ := step_tick h
    · exact .reboot env.answers rfl
    · exact .idle rfl ⟨.refl _, rfl, rfl, le_rfl, .inl le_rfl⟩

end ZigbeeGateway.EndDevice
