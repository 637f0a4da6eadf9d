import ZigbeeGateway.LightSwitchReports

namespace ZigbeeGateway.LightSwitch
open Histories

/-- The destination of a command, and the reason for a dropped press, by what
came before. -/
def Destined (e : Entry) (pre : List Entry) : Prop :=
  match e with
  | .onOffReq req _ | .stepReq req _ _ _ =>
    req.dstEndpoint = 10 ∧ req.dstAddr = if pre.any isResetLeave then 0xFFFF else 0x0000
  | .noBulbFoundYet => pre.any isResetLeave = true
  | _ => True

section Destinations

variable {s s' : State} {es : List Event}

theorem from_destined {e : Entry} {pre : List Entry}
    (he : e.From ⟨10, if pre.any isResetLeave then 0xFFFF else 0x0000, false⟩) :
    Destined e pre := by
  cases e with
  | onOffReq req | stepReq req => exact ⟨he.2, he.1⟩
  | noBulbFoundYet =>
    have hclear : (if pre.any isResetLeave then 0xFFFF else 0x0000 : UInt16) = 0xFFFF := he
    show pre.any isResetLeave = true
    by_contra hno
    rw [if_neg hno] at hclear
    exact absurd hclear (by decide)
  | _ => exact trivial

theorem Keeps.destined (h : Keeps s s') (hs : s.Static) (hw : Whenever Destined s.log) :
    Whenever Destined s'.log := by
  suffices hboth : s'.log.any isResetLeave = s.log.any isResetLeave ∧
      Whenever Destined s'.log from hboth.2
  have hlog := h.log
  rw [hs.bulb] at hlog
  apply hlog.induction (I := fun l => l.any isResetLeave = s.log.any isResetLeave ∧
    Whenever Destined l) ⟨rfl, hw⟩
  rintro l e ⟨hany, hw⟩ he
  rw [← hany] at he
  refine ⟨?_, (whenever_concat l e).mpr ⟨hw, from_destined he⟩⟩
  rw [List.any_append, hany]
  simp [he.isResetLeave]

theorem run_destined (h : Run (Fires step) start es s) : Whenever Destined s.log := by
  refine Run.history (P := fun _ s => Whenever Destined s.log) h whenever_nil ?_
  intro es s e s' hr hw hstep
  have hs := run_static hr
  rcases step_keeps hs hstep with ⟨sig, status, bufid, env, rfl, hk⟩ | ⟨-, hk⟩
  · refine hk.destined (clearTarget_static sig status bufid hs) ?_
    rw [clearTarget_log, State.emit, whenever_concat]
    exact ⟨hw, trivial⟩
  · exact hk.destined hs hw

end Destinations

theorem countP_sent (log : List Entry) :
    (sent log).countP Request.isOnOff = log.countP Entry.isOnOff := by
  rw [sent, List.countP_filterMap]
  apply List.countP_congr
  intro e _
  cases e <;> simp [sentCommand, Entry.isOnOff, Request.isOnOff]

theorem countP_waiting (requests : List Request) :
    (waiting requests).countP Request.isOnOff = requests.countP Request.isOnOff := by
  rw [waiting, List.countP_filter]
  apply List.countP_congr
  intro r _
  cases r <;> simp [Request.isCommand, Request.isOnOff]

section Silence

variable {s s' : State} {es es' : List Event}

theorem onOffs_eq (s : State) :
    s.onOffs = (sent s.log).countP Request.isOnOff +
      (waiting s.requests).countP Request.isOnOff := by
  rw [countP_sent, countP_waiting]
  rfl

/-- Without a target the buttons make no gesture, and the timer asks for steps
only. -/
theorem step_onOffs {e : Event} (hs : s.Static) (haddr : s.bulbCtx.shortAddr = 0xFFFF)
    (h : step s e = some s') : s'.onOffs = s.onOffs := by
  rw [onOffs_eq, onOffs_eq]
  cases step_does hs h with
  | quiet _ hq => rw [hq.sent, hq.waiting]
  | gesture g hg _ _ hsent hwait =>
    have hnone : (g.asks s.buttonsCtx.longPoll).toList.countP Request.isOnOff = 0 := by
      cases g with
      | hold button taken => cases taken <;> rfl
      | press | lapse => rfl
      | release button taken =>
        -- no release is seen without a target
        cases e with
        | buttons => simp [gestureOf, haddr] at hg
        | alarm env =>
          rw [gestureOf] at hg
          split at hg <;> exact absurd hg (by simp)
        | _ => exact absurd hg (by simp [gestureOf])
    rw [hsent, hwait, List.countP_append, hnone, Nat.add_zero]
  | send c _ hmem _ hsent hreq hcommand =>
    have hin : c ∈ waiting s.requests := List.mem_filter.mpr ⟨hmem, hcommand⟩
    have hperm := (List.perm_cons_erase hin).countP_eq Request.isOnOff
    have hwait : waiting s'.requests = (waiting s.requests).erase c := by
      rw [hreq, waiting, waiting, List.erase_filter]
    rw [← List.singleton_append, List.countP_append] at hperm
    rw [hsent, hwait, List.countP_append]
    omega

theorem any_isResetLeave_mono {e : Event} (hs : s.Static) (h : step s e = some s')
    (hreset : s.log.any isResetLeave = true) : s'.log.any isResetLeave = true := by
  rcases step_keeps hs h with ⟨sig, status, bufid, env, rfl, hk⟩ | ⟨-, hk⟩
  · rw [hk.any_isResetLeave, clearTarget_log, State.emit, List.any_append, hreset]
    rfl
  · rw [hk.any_isResetLeave, hreset]

/-- In every run each command goes to endpoint 10 of the coordinator, or of the
broadcast address once a leave with reset has come, and a press is dropped after
such a leave only; from then on, whatever comes, not one more on/off command is
asked for. -/
theorem after_reset_leave (h : Run (Fires step) start es s) :
    Whenever Destined s.log ∧
      (s.log.any isResetLeave = true → ∀ es' s', Run (Fires step) s es' s' →
        s'.onOffs = s.onOffs) := by
  refine ⟨run_destined h, fun hreset es' s' h' => ?_⟩
  suffices hall : s'.Static ∧ s'.log.any isResetLeave = true ∧ s'.onOffs = s.onOffs from hall.2.2
  refine Run.invariant (P := fun t => t.Static ∧ t.log.any isResetLeave = true ∧
    t.onOffs = s.onOffs) h' ⟨run_static h, hreset, rfl⟩ ?_
  rintro t e t' ⟨ht, hany, hsame⟩ hstep
  have haddr : t.bulbCtx.shortAddr = 0xFFFF := by rw [ht.bulb, if_pos hany]
  exact ⟨step_static ht hstep, any_isResetLeave_mono ht hstep hany,
    (step_onOffs ht haddr hstep).trans hsame⟩

end Silence

/-- The ON button is held for long as the device leaves: the step that its timer
asks for is broadcast. -/
def heldThroughLeave : List Event :=
  let held : Env := { Env.working with buttons := BUTTON_ON }
  [.signal .steering 0 5 .working, .buttons BUTTON_ON BUTTON_ON held,
    .signal (.leave ZB_NWK_LEAVE_TYPE_RESET) 0 6 .working, .alarm held,
    .grant (.lightSwitchSendStep ZB_ZCL_LEVEL_CONTROL_STEP_MODE_UP) 7 .working]

theorem after_reset_leave_heldThroughLeave :
    ∃ s, exec step start heldThroughLeave = some s ∧
      s.log.getLast? = some (.stepReq ⟨7, 0xFFFF, 10, 1, 0x0104⟩
        ZB_ZCL_LEVEL_CONTROL_STEP_MODE_UP DIMM_STEP DIMM_TRANSACTION_TIME) ∧
      Whenever Destined s.log ∧ ∀ es' s', Run (Fires step) s es' s' → s'.onOffs = s.onOffs := by
  obtain ⟨s, hs, hlast, hreset⟩ : ∃ s, exec step start heldThroughLeave = some s ∧
      s.log.getLast? = some (.stepReq ⟨7, 0xFFFF, 10, 1, 0x0104⟩
        ZB_ZCL_LEVEL_CONTROL_STEP_MODE_UP DIMM_STEP DIMM_TRANSACTION_TIME) ∧
      s.log.any isResetLeave = true := ⟨_, rfl, by decide, by decide⟩
  have hall := after_reset_leave (run_of_exec hs)
  exact ⟨s, hs, hlast, hall.1, hall.2 hreset⟩

end ZigbeeGateway.LightSwitch
