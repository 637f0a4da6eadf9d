import ZigbeeGateway.LightSwitchGestures
import Mathlib.Data.List.Nodup

namespace ZigbeeGateway.LightSwitch
open Histories

def bufferOf (bufid : ℕ) : List ℕ :=
  -- the reference zero is no buffer
  if bufid ≠ 0 then [bufid] else []

def handed : Event → List ℕ
  | .signal _ _ bufid _ | .grant _ bufid _ | .matchDescResp bufid _ => bufferOf bufid
  | .confirm bufid _ => [bufid]
  | _ => []

/-- The buffer that is freed, or that a request hands to the stack. -/
def Entry.buffer : Entry → Option ℕ
  | .bufFree bufid => some bufid
  | .onOffReq req _ | .stepReq req _ _ _ | .writeAttrReq req _ => some req.bufid
  | _ => none

/-- The buffer of a write request, which comes back with its confirmation. -/
def Entry.lent : Entry → Option ℕ
  | .writeAttrReq req _ => some req.bufid
  | _ => none

def Entry.givenBack : Entry → Option ℕ
  | .confirmed bufid _ => some bufid
  | _ => none

def disposed (log : List Entry) : List ℕ := log.filterMap Entry.buffer

def lent (log : List Entry) : List ℕ := log.filterMap Entry.lent

def givenBack (log : List Entry) : List ℕ := log.filterMap Entry.givenBack

/-- From `s` to `s'` these buffers are freed or passed on, none of them in a write request. -/
structure Disposes (s s' : State) (bufids : List ℕ) : Prop where
  disposed : disposed s'.log = disposed s.log ++ bufids
  lent : lent s'.log = lent s.log
  givenBack : givenBack s'.log = givenBack s.log
  inFlight : s'.requestsInFlight = s.requestsInFlight

/-- The buffers are disposed of, or the firmware stops before it comes to that. -/
def Settled (s s' : State) (bufids : List ℕ) : Prop :=
  Disposes s s' bufids ∨ s'.halted = true ∧ Disposes s s' []

theorem filterMap_concat {β : Type*} (f : Entry → Option β) (log : List Entry) (e : Entry) :
    (log ++ [e]).filterMap f = log.filterMap f ++ (f e).toList := by
  rw [List.filterMap_append]
  cases h : f e <;> simp [h]

namespace Disposes

variable {s t s' : State} {bufids bufids' : List ℕ}

theorem refl (s : State) : Disposes s s [] := ⟨(List.append_nil _).symm, rfl, rfl, rfl⟩

theorem trans (h : Disposes s t bufids) (h' : Disposes t s' bufids') :
    Disposes s s' (bufids ++ bufids') where
  disposed := by rw [h'.disposed, h.disposed, List.append_assoc]
  lent := h'.lent.trans h.lent
  givenBack := h'.givenBack.trans h.givenBack
  inFlight := h'.inFlight.trans h.inFlight

theorem emit (h : Disposes s t bufids) {e : Entry} (hl : e.lent = none) (hg : e.givenBack = none) :
    Disposes s (t.emit e) (bufids ++ e.buffer.toList) where
  disposed := by
    rw [State.emit, LightSwitch.disposed, filterMap_concat, ← List.append_assoc, ← h.disposed]
    rfl
  lent := by
    rw [State.emit, LightSwitch.lent, filterMap_concat, hl]
    exact (List.append_nil _).trans h.lent
  givenBack := by
    rw [State.emit, LightSwitch.givenBack, filterMap_concat, hg]
    exact (List.append_nil _).trans h.givenBack
  inFlight := h.inFlight

theorem note (h : Disposes s t bufids) {e : Entry} (hb : e.buffer = none)
    (hg : e.givenBack = none) : Disposes s (t.emit e) bufids := by
  have hl : e.lent = none := by
    cases e <;> first | rfl | exact absurd hb (by simp [Entry.buffer])
  have h' := h.emit hl hg
  rwa [hb, Option.toList_none, List.append_nil] at h'

theorem release (h : Disposes s t bufids) (bufid : ℕ) :
    Disposes s (t.release bufid) (bufids ++ bufferOf bufid) := by
  unfold State.release bufferOf
  split
  · exact h.emit rfl rfl
  · rwa [List.append_nil]

theorem getOut (h : Disposes s t bufids) (ret : ℤ) (r : Request) :
    Disposes s (t.getOut ret r) bufids := by
  unfold State.getOut
  split
  · exact ⟨h.disposed, h.lent, h.givenBack, h.inFlight⟩
  · exact h

theorem errorCheck (h : Disposes s t bufids) (ret : ℤ) {k : State → State}
    (hk : Disposes s (k t) bufids) : Disposes s (t.errorCheck ret k) bufids := by
  unfold State.errorCheck
  split
  · exact hk
  · exact ⟨h.disposed, h.lent, h.givenBack, h.inFlight⟩

/-- The exit of the signal handler, behind the check of the default handler. -/
theorem settled (h : Disposes s t []) (ret : ℤ) (bufid : ℕ) {k : State → State}
    (hk : Disposes s (k t) []) :
    Settled s (t.errorCheck ret fun t => (k t).release bufid) (bufferOf bufid) := by
  unfold State.errorCheck
  split
  · exact .inl (hk.release bufid)
  · exact .inr ⟨rfl, ⟨h.disposed, h.lent, h.givenBack, h.inFlight⟩⟩

end Disposes

section Handlers

variable (s : State) (env : Env) (bufid : ℕ)

theorem zbossSignalHandler_settled (sig : Signal) (status : ℤ) :
    Settled s (zbossSignalHandler s env sig status bufid) (bufferOf bufid) := by
  -- what every case does first
  have hled : ∀ t : State, Disposes s t [] →
      Disposes s ((t.emit (.ledStatusUpdate bufid)).emit (.defaultSignalHandler bufid)) [] :=
    fun t h => (h.note rfl rfl).note rfl rfl
  have h := hled s (.refl s)
  unfold zbossSignalHandler
  cases sig with
  | deviceReboot | steering =>
    apply h.settled _ bufid (k := fun t => if status = RET_OK then { t with dkLed4 := true } else t)
    split
    · exact ⟨h.disposed, h.lent, h.givenBack, h.inFlight⟩
    · exact h
  | leave leaveType =>
    dsimp only
    split
    · have hclear : Disposes s { s with bulbCtx := { s.bulbCtx with shortAddr := 0xFFFF } } [] :=
        ⟨(List.append_nil _).symm, rfl, rfl, rfl⟩
      exact (hled _ hclear).settled _ bufid (k := id) (hled _ hclear)
    · exact h.settled _ bufid (k := id) h
  | other => exact h.settled _ bufid (k := id) h

theorem startIdentifying_disposes : Disposes s (startIdentifying s env) [] := by
  have h : Disposes s (s.emit (.findingBindingTarget LIGHT_SWITCH_ENDPOINT)) [] :=
    (Disposes.refl s).note rfl rfl
  unfold startIdentifying
  split_ifs
  · exact .refl s
  · dsimp only
    split
    · exact h
    · exact h
    · exact ⟨h.disposed, h.lent, h.givenBack, h.inFlight⟩
  · exact (Disposes.refl s).note rfl rfl

theorem switchButtonState_disposes (buttonState : BitVec 32) (cmdId : UInt16) :
    Disposes s (switchButtonState s env buttonState cmdId) [] := by
  unfold switchButtonState
  split_ifs
  · exact ⟨(List.append_nil _).symm, rfl, rfl, rfl⟩
  · have h : Disposes s
        { s with buttonsCtx := { s.buttonsCtx with alarm := false, longPoll := false } } [] :=
      ⟨(List.append_nil _).symm, rfl, rfl, rfl⟩
    dsimp only
    split
    · have h' := h.getOut env.getOutDelayedExt (.lightSwitchSendOnOff cmdId)
      exact h'.errorCheck _ (h'.getOut _ _)
    · exact h
  · exact .refl s

theorem buttonHandler_disposes (buttonState hasChanged : BitVec 32) :
    Disposes s (buttonHandler s env buttonState hasChanged) [] := by
  have h : Disposes s ((s.emit .userInputIndicate).emit
      (.checkFactoryResetButton buttonState hasChanged)) [] :=
    ((Disposes.refl s).note rfl rfl).note rfl rfl
  unfold buttonHandler
  dsimp only
  split_ifs
  · exact h.note rfl rfl
  · exact h.trans (switchButtonState_disposes _ env _ _)
  · exact h.trans (switchButtonState_disposes _ env _ _)
  · exact h
  · exact h
  · exact ⟨h.disposed, h.lent, h.givenBack, h.inFlight⟩
  · exact h

theorem lightSwitchButtonHandler_disposes : Disposes s (lightSwitchButtonHandler s env) [] := by
  unfold lightSwitchButtonHandler
  split_ifs
  · have h : Disposes s { s with buttonsCtx := { s.buttonsCtx with longPoll := true } } [] :=
      ⟨(List.append_nil _).symm, rfl, rfl, rfl⟩
    have h' := h.getOut env.getOutDelayedExt (.lightSwitchSendStep
      (if s.buttonsCtx.state = BUTTON_ON then ZB_ZCL_LEVEL_CONTROL_STEP_MODE_UP
      else ZB_ZCL_LEVEL_CONTROL_STEP_MODE_DOWN))
    exact ⟨h'.disposed, h'.lent, h'.givenBack, h'.inFlight⟩
  · exact ⟨(List.append_nil _).symm, rfl, rfl, rfl⟩

theorem rtc2Isr_disposes (err : ℤ) (isCompareEvent : Bool) :
    Disposes s (rtc2Isr s err isCompareEvent) [] := by
  unfold rtc2Isr
  split
  · have h : Disposes s { s with rtcWorkPending := true } [] :=
      ⟨(List.append_nil _).symm, rfl, rfl, rfl⟩
    exact h.note rfl rfl
  · exact .refl s

theorem runCallback_disposes (cb : Callback) : Disposes s (runCallback s env cb) [] := by
  cases cb with
  | startIdentifying => exact startIdentifying_disposes s env
  | zbTriggerTempReport => exact (Disposes.refl s).getOut _ _

end Handlers

inductive Books (s : State) : Event → State → Prop
  | settled {e : Event} {s' : State} : Settled s s' (handed e) → Books s e s'
  | write {bufid : ℕ} {env : Env} {s' : State} : bufid ≠ 0 → bufid ∉ s.requestsInFlight →
      disposed s'.log = disposed s.log ++ [bufid] → lent s'.log = lent s.log ++ [bufid] →
      givenBack s'.log = givenBack s.log → s'.requestsInFlight = s.requestsInFlight ++ [bufid] →
      Books s (.grant .sendTemperatureCb bufid env) s'
  | confirm {bufid : ℕ} {status : ℤ} {s' : State} : bufid ∈ s.requestsInFlight →
      disposed s'.log = disposed s.log ++ [bufid] → lent s'.log = lent s.log →
      givenBack s'.log = givenBack s.log ++ [bufid] →
      s'.requestsInFlight = s.requestsInFlight.erase bufid → Books s (.confirm bufid status) s'

def confirmed (s : State) (bufid : ℕ) (status : ℤ) : State :=
  writeAttrCallback ({ s with requestsInFlight := s.requestsInFlight.erase bufid }.emit
    (.confirmed bufid status)) bufid

theorem confirmed_filterMap {β : Type*} (f : Entry → Option β) (s : State) (bufid : ℕ)
    (status : ℤ) :
    (confirmed s bufid status).log.filterMap f =
      s.log.filterMap f ++ (f (.confirmed bufid status)).toList ++ (f (.bufFree bufid)).toList := by
  simp only [confirmed, writeAttrCallback, State.emit, filterMap_concat]

theorem confirmed_disposed (s : State) (bufid : ℕ) (status : ℤ) :
    disposed (confirmed s bufid status).log = disposed s.log ++ [bufid] :=
  (confirmed_filterMap Entry.buffer s bufid status).trans
    (congrArg (· ++ [bufid]) (List.append_nil _))

theorem confirmed_books {s : State} {bufid : ℕ} (hb : bufid ∈ s.requestsInFlight) (status : ℤ) :
    Books s (.confirm bufid status) (confirmed s bufid status) := by
  refine .confirm hb (confirmed_disposed s bufid status) ?_ ?_ rfl
  · rw [lent, confirmed_filterMap]
    exact (List.append_nil _).trans (List.append_nil _)
  · rw [givenBack, confirmed_filterMap]
    exact List.append_nil _

theorem runRequest_books {s : State} {req : Request} {bufid : ℕ} (hreq : req ≠ .findLightBulb)
    (h0 : bufid ≠ 0) (hb : bufid ∉ s.requestsInFlight) (env : Env) :
    Books s (.grant req bufid env)
      (runRequest { s with requests := s.requests.erase req } env bufid req) := by
  have hpop : Disposes s { s with requests := s.requests.erase req } [] :=
    ⟨(List.append_nil _).symm, rfl, rfl, rfl⟩
  have hgone : ∀ s' : State, Disposes s s' [bufid] → Books s (.grant req bufid env) s' := by
    intro s' hs'
    apply Books.settled (.inl _)
    rwa [handed, bufferOf, if_pos h0]
  cases req with
  | lightSwitchSendOnOff | lightSwitchSendStep => exact hgone _ (hpop.emit rfl rfl)
  | sendTemperatureCb =>
    unfold runRequest sendTemperatureCb
    dsimp only
    split
    · exact hgone _ (hpop.emit rfl rfl)
    · -- the request keeps the buffer until its confirmation
      refine .write h0 hb ?_ ?_ ?_ rfl
      · exact filterMap_concat Entry.buffer s.log _
      · exact filterMap_concat Entry.lent s.log _
      · exact (filterMap_concat Entry.givenBack s.log _).trans (List.append_nil _)
  | findLightBulb => exact absurd rfl hreq

theorem step_books {s s' : State} {e : Event} (hs : s.Static) (h : step s e = some s') :
    s.halted = false ∧ Books s e s' := by
  obtain ⟨hlive, h⟩ := step_live h
  refine ⟨hlive, ?_⟩
  cases e with
  | signal sig status bufid env =>
    obtain ⟨-, h⟩ := Option.ite_none_left_eq_some.mp h
    obtain rfl := Option.some.inj h
    have hsig : Disposes s (s.emit (.signal sig status bufid)) [] := (Disposes.refl s).note rfl rfl
    apply Books.settled
    rcases zbossSignalHandler_settled (s.emit (.signal sig status bufid)) env bufid sig status with
      hd | ⟨hhalted, hd⟩
    · exact .inl (hsig.trans hd)
    · exact .inr ⟨hhalted, hsig.trans hd⟩
  | buttons buttonState hasChanged env =>
    obtain rfl := Option.some.inj h
    exact .settled (.inl (buttonHandler_disposes s env buttonState hasChanged))
  | alarm env =>
    obtain ⟨-, h⟩ := Option.ite_none_right_eq_some.mp h
    obtain rfl := Option.some.inj h
    have hoff : Disposes s { s with buttonsCtx := { s.buttonsCtx with alarm := false } } [] :=
      ⟨(List.append_nil _).symm, rfl, rfl, rfl⟩
    exact .settled (.inl (hoff.trans (lightSwitchButtonHandler_disposes _ env)))
  | findAlarm env =>
    rw [hs.dispatch_findAlarm] at h
    exact absurd h (by simp)
  | rtcInterrupt err isCompareEvent =>
    obtain rfl := Option.some.inj h
    exact .settled (.inl (rtc2Isr_disposes s err isCompareEvent))
  | work =>
    obtain ⟨-, h⟩ := Option.ite_none_right_eq_some.mp h
    obtain rfl := Option.some.inj h
    exact .settled (.inl ⟨(List.append_nil _).symm, rfl, rfl, rfl⟩)
  | callback env =>
    obtain ⟨cb, rest, -, rfl⟩ := dispatch_callback h
    have hpop : Disposes s { s with queue := rest } [] := ⟨(List.append_nil _).symm, rfl, rfl, rfl⟩
    exact .settled (.inl (hpop.trans (runCallback_disposes _ env cb)))
  | grant req bufid env =>
    obtain ⟨⟨hreq, h0, hb⟩, h⟩ := Option.ite_none_right_eq_some.mp h
    obtain rfl := Option.some.inj h
    refine runRequest_books ?_ h0 hb env
    rintro rfl
    exact hs.requests hreq
  | confirm bufid status =>
    obtain ⟨hb, h⟩ := Option.ite_none_right_eq_some.mp h
    obtain rfl := Option.some.inj h
    exact confirmed_books hb status
  | matchDescResp bufid resp =>
    rw [hs.dispatch_matchDescResp] at h
    exact absurd h (by simp)

theorem length_handed (e : Event) : (handed e).length ≤ 1 := by
  have hbuffer : ∀ bufid, (bufferOf bufid).length ≤ 1 := by
    intro bufid
    unfold bufferOf
    split <;> simp
  cases e with
  | signal | grant | matchDescResp => exact hbuffer _
  | confirm => exact le_rfl
  | buttons | alarm | findAlarm | rtcInterrupt | work | callback => exact Nat.zero_le 1

section Runs

variable {es : List Event} {s : State}

theorem run_handed (h : Run (Fires step) start es s) :
    ∃ left, es.flatMap handed = disposed s.log ++ left ∧ left.length ≤ 1 ∧
      (s.halted = false → left = []) := by
  refine Run.history (P := fun es s => ∃ left, es.flatMap handed = disposed s.log ++ left ∧
    left.length ≤ 1 ∧ (s.halted = false → left = [])) h ⟨[], rfl, Nat.zero_le 1, fun _ => rfl⟩ ?_
  rintro es s e s' hr ⟨left, heq, -, hleft⟩ hstep
  obtain ⟨hlive, hbooks⟩ := step_books (run_static hr) hstep
  rw [hleft hlive, List.append_nil] at heq
  rw [List.flatMap_append, List.flatMap_singleton, heq]
  -- whatever the event, what was handed out has been disposed of
  have hall : ∀ bufids, disposed s'.log = disposed s.log ++ bufids →
      ∃ left, disposed s.log ++ bufids = disposed s'.log ++ left ∧ left.length ≤ 1 ∧
        (s'.halted = false → left = []) :=
    fun bufids hd => ⟨[], by rw [hd, List.append_nil], Nat.zero_le 1, fun _ => rfl⟩
  cases hbooks with
  | settled hsettled =>
    rcases hsettled with hd | ⟨hhalted, hd⟩
    · exact hall _ hd.disposed
    · refine ⟨handed e, by rw [hd.disposed, List.append_nil], length_handed e, fun hrunning => ?_⟩
      exact absurd hhalted (by simp [hrunning])
  | write h0 _ hd =>
    rw [handed, bufferOf, if_pos h0]
    exact hall _ hd
  | confirm _ hd => exact hall _ hd

/-- A write request ends with its confirmation, and with nothing else. -/
theorem run_lent (h : Run (Fires step) start es s) :
    s.requestsInFlight.Nodup ∧ (lent s.log).Perm (givenBack s.log ++ s.requestsInFlight) := by
  refine Run.history (P := fun _ s => s.requestsInFlight.Nodup ∧
    (lent s.log).Perm (givenBack s.log ++ s.requestsInFlight)) h ⟨List.nodup_nil, .refl _⟩ ?_
  rintro es s e s' hr ⟨hnodup, hperm⟩ hstep
  have hsame : ∀ bufids, Disposes s s' bufids → s'.requestsInFlight.Nodup ∧
      (lent s'.log).Perm (givenBack s'.log ++ s'.requestsInFlight) := by
    intro bufids hd
    rw [hd.lent, hd.givenBack, hd.inFlight]
    exact ⟨hnodup, hperm⟩
  cases (step_books (run_static hr) hstep).2 with
  | settled hsettled => exact hsettled.elim (hsame _) fun hd => hsame _ hd.2
  | write _ hb _ hlent hback hflight =>
    rw [hlent, hback, hflight, ← List.append_assoc]
    exact ⟨hnodup.append (List.nodup_singleton _) (by simpa using hb), hperm.append_right _⟩
  | confirm hb _ hlent hback hflight =>
    rw [hlent, hback, hflight, List.append_assoc]
    exact ⟨hnodup.erase _, hperm.trans ((List.perm_cons_erase hb).append_left _)⟩

/-- In every run each buffer that the stack hands over, the one that comes back with a
confirmation included, is freed or passed on once, in the order in which they came: none
is kept, none is freed twice.  Only the last one is left over if the firmware stops at a
failing default handler.  The write requests are those confirmed and those in flight, and
each of the latter can be confirmed, which frees its buffer. -/
theorem buffers_once (h : Run (Fires step) start es s) :
    (∃ left, es.flatMap handed = disposed s.log ++ left ∧ left.length ≤ 1 ∧
      (s.halted = false → left = [])) ∧
    s.requestsInFlight.Nodup ∧ (lent s.log).Perm (givenBack s.log ++ s.requestsInFlight) ∧
    (s.halted = false → ∀ b ∈ s.requestsInFlight, ∀ status, ∃ s',
      step s (.confirm b status) = some s' ∧ disposed s'.log = disposed s.log ++ [b] ∧
        s'.requestsInFlight = s.requestsInFlight.erase b) := by
  obtain ⟨hnodup, hperm⟩ := run_lent h
  refine ⟨run_handed h, hnodup, hperm, fun hlive b hb status => ?_⟩
  have hstep : step s (.confirm b status) = some (confirmed s b status) := by
    rw [step, if_neg (by simp [hlive])]
    exact if_pos hb
  exact ⟨_, hstep, confirmed_disposed s b status, rfl⟩

/-- A short press with its command and its report, which is confirmed, and a second report
on its way. -/
def reportTwice : List Event :=
  [.signal .steering 0 5 .working, .buttons BUTTON_ON BUTTON_ON .working,
    .buttons 0 BUTTON_ON .working, .grant .sendTemperatureCb 8 .working,
    .grant (.lightSwitchSendOnOff ZB_ZCL_CMD_ON_OFF_ON_ID) 7 .working, .confirm 8 (-1),
    .rtcInterrupt 0 true, .work, .callback .working, .grant .sendTemperatureCb 8 .working]

theorem buffers_once_reportTwice :
    ∃ s, exec step start reportTwice = some s ∧ s.halted = false ∧
      disposed s.log = [5, 8, 7, 8, 8] ∧ s.requestsInFlight = [8] ∧
      (∃ left, reportTwice.flatMap handed = disposed s.log ++ left ∧ left.length ≤ 1 ∧
        (s.halted = false → left = [])) ∧
      s.requestsInFlight.Nodup ∧ (lent s.log).Perm (givenBack s.log ++ s.requestsInFlight) ∧
      (s.halted = false → ∀ b ∈ s.requestsInFlight, ∀ status, ∃ s',
        step s (.confirm b status) = some s' ∧ disposed s'.log = disposed s.log ++ [b] ∧
          s'.requestsInFlight = s.requestsInFlight.erase b) := by
  obtain ⟨s, hs, hlive, hd, hflight⟩ : ∃ s, exec step start reportTwice = some s ∧
      s.halted = false ∧ disposed s.log = [5, 8, 7, 8, 8] ∧ s.requestsInFlight = [8] :=
    ⟨_, rfl, rfl, by decide, rfl⟩
  exact ⟨s, hs, hlive, hd, hflight, buffers_once (run_of_exec hs)⟩

end Runs

end ZigbeeGateway.LightSwitch
