import ZigbeeGateway.ReportPipeline

namespace ZigbeeGateway.EndDevice
open CStrings PairingCommand Histories Bmp180

def networkEvent : Entry → Option Bool
  | .signal .steering status _ | .signal .deviceReboot status _ =>
    if status = RET_OK then some true else none
  | .signal .leave _ _ => some false
  | _ => none

/-- Since the last power-up the device has joined, and not left after that. -/
def OnNetwork (log : List Entry) : Prop :=
  latest networkEvent (since Entry.isPowerUp log) = some true

def ReportOnNetwork (e : Entry) (pre : List Entry) : Prop :=
  ∀ req, e = .writeAttr req → OnNetwork pre

def Event.reads (cfg : Config) (s : State) : Event → Bool
  | .grant _ tempRaw env => decide ((readFor cfg s tempRaw env).ret = 0)
  | _ => false

/-- Whether the buffers asked for are stale: a leave came while one of them was
still to be granted, and no successful join or rejoin has come since. -/
def staleAfter (s : State) (stale : Bool) : Event → Bool
  | .signal .leave _ _ _ => stale || decide (0 < s.delayedGrants)
  | .signal .steering status _ _ | .signal .deviceReboot status _ _ =>
    if status = RET_OK then false else stale
  | _ => stale

def Watched (cfg : Config) (p : State × Bool) (e : Event) (p' : State × Bool) : Prop :=
  step cfg p.1 e = some p'.1 ∧ p'.2 = staleAfter p.1 p.2 e

/-- No stale buffer is granted to a sensor that can be read. -/
def reportSafe (cfg : Config) (p : State × Bool) (e : Event) : Bool := !(p.2 && e.reads cfg p.1)

theorem onNetwork_concat (log : List Entry) {e : Entry} (he : e.isPowerUp = false) :
    OnNetwork (log ++ [e]) ↔
      (networkEvent e).or (latest networkEvent (since Entry.isPowerUp log)) = some true := by
  rw [OnNetwork, since_concat, he, if_neg (by simp), latest_concat]

theorem onNetwork_concat_of_none {log : List Entry} {e : Entry} (he : e.isPowerUp = false)
    (hn : networkEvent e = none) : OnNetwork (log ++ [e]) ↔ OnNetwork log := by
  rw [onNetwork_concat log he, hn, Option.none_or, OnNetwork]

theorem not_onNetwork_powerUp (log : List Entry) : ¬OnNetwork (log ++ [.powerUp]) := by
  rw [OnNetwork, since_concat]
  simp [Entry.isPowerUp, latest]

theorem whenever_reports_concat {log : List Entry} {e : Entry} (he : ∀ req, e ≠ .writeAttr req) :
    Whenever ReportOnNetwork (log ++ [e]) ↔ Whenever ReportOnNetwork log := by
  rw [whenever_concat]
  exact and_iff_left fun req h => absurd h (he req)

structure Entry.Neutral (e : Entry) : Prop where
  powerUp : e.isPowerUp = false
  network : networkEvent e = none
  write : ∀ req, e ≠ .writeAttr req

theorem Entry.Idle.neutral {e : Entry} (he : e.Idle) : e.Neutral where
  powerUp := by cases e <;> first | rfl | exact he.elim
  network := by cases e <;> first | rfl | exact he.elim
  write := by rintro req rfl; exact he

theorem neutral_extends {log l : List Entry} (h : Extends Entry.Neutral log l) :
    (OnNetwork l ↔ OnNetwork log) ∧
      (Whenever ReportOnNetwork l ↔ Whenever ReportOnNetwork log) := by
  apply h.induction (I := fun l => (OnNetwork l ↔ OnNetwork log) ∧
    (Whenever ReportOnNetwork l ↔ Whenever ReportOnNetwork log)) ⟨.rfl, .rfl⟩
  rintro k e ⟨hon, hw⟩ he
  exact ⟨(onNetwork_concat_of_none he.powerUp he.network).trans hon,
    (whenever_reports_concat he.write).trans hw⟩

theorem neutral_pair {log log' : List Entry} {e e' : Entry} (hlog : log' = log ++ [e, e'])
    (he : e.Neutral) (he' : e'.Neutral) :
    (OnNetwork log' ↔ OnNetwork log) ∧
      (Whenever ReportOnNetwork log' ↔ Whenever ReportOnNetwork log) := by
  apply neutral_extends
  exact ⟨[e, e'], hlog, by simp [he, he']⟩

def State.Tracked (s : State) : Prop := s.gNetworkJoined = true ↔ OnNetwork s.log

theorem onNetwork_signal (log : List Entry) (sig : Signal) (status : ℤ) (bufid : ℕ)
    {joined : Bool} (h : joined = true ↔ OnNetwork log) :
    joinedAfter sig status joined = true ↔ OnNetwork (log ++ [.signal sig status bufid]) := by
  rw [onNetwork_concat log rfl]
  cases sig <;> simp only [joinedAfter, networkEvent]
  case deviceFirstStart | other => rwa [Option.none_or]
  case leave => simp
  case deviceReboot | steering =>
    split
    · simp
    · rwa [Option.none_or]

theorem reads_of_plain (cfg : Config) (s : State) {e : Event} (h : e.isPlain = true) :
    e.reads cfg s = false := by
  cases e <;> first | rfl | exact absurd h (by simp [Event.isPlain])

/-- Each event keeps the flag true to the network, and keeps the reports on the
network unless it reads the sensor off the network. -/
theorem effect_reports {cfg : Config} {s s' : State} {e : Event} (h : Effect cfg s e s')
    (hs : s.Tracked) :
    s'.Tracked ∧ (Whenever ReportOnNetwork s'.log ↔
      Whenever ReportOnNetwork s.log ∧ (e.reads cfg s = true → s.gNetworkJoined = true)) := by
  unfold State.Tracked at hs ⊢
  have hfree : ∀ bufid, Entry.Neutral (.bufFree bufid) := fun _ => ⟨rfl, rfl, by simp⟩
  have hgranted : ∀ bufid, Entry.Neutral (.granted bufid) := fun _ => ⟨rfl, rfl, by simp⟩
  cases h with
  | idle hplain hidle =>
    obtain ⟨hon, hw⟩ := neutral_extends (hidle.log.mono fun _ he => he.neutral)
    rw [hidle.joined, hon, hw, reads_of_plain cfg s hplain]
    exact ⟨hs, (and_iff_left (by simp)).symm⟩
  | reboot answers hplain =>
    have hw : Whenever ReportOnNetwork (s.log ++ [.powerUp]) ↔ Whenever ReportOnNetwork s.log :=
      whenever_reports_concat (by simp)
    rw [reads_of_plain cfg s hplain]
    refine ⟨⟨fun h => absurd h (by simp [boot]), fun h => absurd h (not_onNetwork_powerUp _)⟩, ?_⟩
    exact hw.trans (and_iff_left (by simp)).symm
  | compare hlog hjoined hreq hpipe =>
    obtain ⟨hon, hw⟩ := neutral_pair hlog ⟨rfl, rfl, by simp⟩ ⟨rfl, rfl, by simp⟩
    rw [hjoined, hon, hw]
    exact ⟨hs, (and_iff_left (by simp [Event.reads])).symm⟩
  | @signal sig status bufid env _ l hb hl hlog hjoined hreq hpipe =>
    obtain ⟨hon, hw⟩ := neutral_extends (hl.mono fun _ he => he.neutral)
    rw [whenever_reports_concat (by simp)] at hw
    have hl' : (OnNetwork s'.log ↔ OnNetwork l) ∧
        (Whenever ReportOnNetwork s'.log ↔ Whenever ReportOnNetwork l) := by
      apply neutral_extends
      obtain hlog | ⟨-, hlog⟩ := hlog
      · exact ⟨[.bufFree bufid], hlog, by simp [hfree]⟩
      · rw [hlog]
        exact .refl l
    rw [hjoined, hl'.1, hl'.2, hon, hw]
    exact ⟨onNetwork_signal s.log sig status bufid hs,
      (and_iff_left (by simp [Event.reads])).symm⟩
  | readFailed hread hb hlog hjoined hreq hpipe =>
    obtain ⟨hon, hw⟩ := neutral_pair hlog (hgranted _) (hfree _)
    rw [hjoined, hon, hw]
    exact ⟨hs, (and_iff_left (by simp [Event.reads, hread])).symm⟩
  | @write bufid tempRaw env _ req hread hb hreq hlog hjoined hreqs hpipe =>
    -- the request is the one entry that asks for the network
    have hsafe : ((Event.grant bufid tempRaw env).reads cfg s = true → s.gNetworkJoined = true) ↔
        OnNetwork s.log := by
      rw [← hs]
      simp [Event.reads, hread]
    have hext : Extends Entry.Neutral s.log (s.log ++ [.granted bufid]) :=
      (Extends.refl _).concat (hgranted bufid)
    obtain ⟨hon, hw⟩ := neutral_extends hext
    have hwrite : ReportOnNetwork (.writeAttr req) (s.log ++ [.granted bufid]) ↔ OnNetwork s.log :=
      ⟨fun h => hon.mp (h req rfl), fun h _ _ => hon.mpr h⟩
    rw [hjoined, hlog, List.append_cons, whenever_concat, hwrite, hw, hsafe,
      onNetwork_concat_of_none rfl rfl, hon]
    exact ⟨hs, .rfl⟩
  | confirm hb hlog hjoined hreq hpipe =>
    obtain ⟨hon, hw⟩ := neutral_pair hlog ⟨rfl, rfl, by simp⟩ (hfree _)
    rw [hjoined, hon, hw]
    exact ⟨hs, (and_iff_left (by simp [Event.reads])).symm⟩

/-- A device that has joined holds no stale buffer, and one that has not waits for
none but stale ones: `zb_trigger_temp_report` asks for buffers on the network only. -/
structure Awaits (s : State) (stale : Bool) : Prop where
  fresh : s.gNetworkJoined = true → stale = false
  waiting : 0 < s.delayedGrants → s.gNetworkJoined = true ∨ stale = true

/-- An event that is about no network and asks for no buffer off the network. -/
theorem Awaits.keep {s s' : State} {stale : Bool} (h : Awaits s stale)
    (hjoined : s'.gNetworkJoined = s.gNetworkJoined)
    (hgrants : s'.delayedGrants ≤ s.delayedGrants ∨ s.gNetworkJoined = true) : Awaits s' stale := by
  constructor
  · rw [hjoined]
    exact h.fresh
  · intro hpos
    rw [hjoined]
    rcases hgrants with hle | hon
    · exact h.waiting (hpos.trans_le hle)
    · exact .inl hon

theorem Awaits.signal {s s' : State} {stale : Bool} (h : Awaits s stale) (sig : Signal)
    (status : ℤ) (bufid : ℕ) (env : Env)
    (hjoined : s'.gNetworkJoined = joinedAfter sig status s.gNetworkJoined)
    (hgrants : s'.delayedGrants = s.delayedGrants) :
    Awaits s' (staleAfter s stale (.signal sig status bufid env)) := by
  cases sig with
  | deviceFirstStart | other => exact h.keep hjoined (.inl hgrants.le)
  | deviceReboot | steering =>
    unfold joinedAfter at hjoined
    unfold staleAfter
    dsimp only at hjoined ⊢
    split at hjoined
    · rw [if_pos (by assumption)]
      exact ⟨fun _ => rfl, fun _ => .inl hjoined⟩
    · rw [if_neg (by assumption)]
      exact h.keep hjoined (.inl hgrants.le)
  | leave =>
    -- the buffers that are still to be granted are stale from here on
    refine ⟨fun hon => absurd (hjoined.symm.trans hon) (by simp [joinedAfter]), fun hpos => .inr ?_⟩
    rw [hgrants] at hpos
    simp [staleAfter, hpos]

theorem staleAfter_of_plain (s : State) (stale : Bool) {e : Event} (h : e.isPlain = true) :
    staleAfter s stale e = stale := by
  cases e <;> first | rfl | exact absurd h (by simp [Event.isPlain])

theorem boot_awaits (cfg : Config) (answers : ℕ → Answer) (log : List Entry) (stale : Bool) :
    Awaits (boot cfg answers log) stale :=
  ⟨fun h => absurd h (by simp [boot]), fun h => absurd h (by simp [boot])⟩

theorem effect_awaits {cfg : Config} {s s' : State} {e : Event} {stale : Bool}
    (h : Effect cfg s e s') (hs : Awaits s stale) : Awaits s' (staleAfter s stale e) := by
  cases h with
  | idle hplain hidle =>
    rw [staleAfter_of_plain s stale hplain]
    exact hs.keep hidle.joined hidle.grants
  | reboot answers _ => exact boot_awaits cfg answers s.log _
  | compare _ hjoined _ _ hgrants => exact hs.keep hjoined (.inl hgrants.le)
  | @signal sig status bufid env _ _ _ _ _ hjoined _ _ hgrants =>
    exact hs.signal sig status bufid env hjoined hgrants
  | readFailed _ _ _ hjoined _ _ hgrants | write _ _ _ _ hjoined _ _ hgrants =>
    exact hs.keep hjoined (.inl (by omega))
  | confirm _ _ hjoined _ _ hgrants => exact hs.keep hjoined (.inl hgrants.le)

section Runs

variable {cfg : Config} {answers : ℕ → Answer} {es : List Event} {s : State} {stale : Bool}

theorem run_tracked (h : Run (Fires (step cfg)) (boot cfg answers []) es s) : s.Tracked := by
  apply Run.invariant (P := State.Tracked) h
  · exact ⟨fun h => absurd h (by simp [boot]), fun h => absurd h (not_onNetwork_powerUp _)⟩
  · intro s e s' hs hstep
    exact (effect_reports (step_effect hstep) hs).1

theorem watched_of_run (h : Run (Fires (step cfg)) (boot cfg answers []) es s) :
    ∃ stale, Run (Watched cfg) (boot cfg answers [], false) es (s, stale) :=
  h.beside staleAfter false

theorem run_of_watched (h : Run (Watched cfg) (boot cfg answers [], false) es (s, stale)) :
    Run (Fires (step cfg)) (boot cfg answers []) es s :=
  h.of_beside fun _ _ _ hs => hs.1

theorem run_awaits (h : Run (Watched cfg) (boot cfg answers [], false) es (s, stale)) :
    Awaits s stale := by
  refine Run.invariant (P := fun p => Awaits p.1 p.2) h (boot_awaits cfg answers [] false) ?_
  rintro ⟨s, stale⟩ e ⟨s', stale'⟩ hs ⟨hstep, rfl⟩
  exact effect_awaits (step_effect hstep) hs

theorem watched_reports_iff (h : Run (Watched cfg) (boot cfg answers [], false) es (s, stale)) :
    Whenever ReportOnNetwork s.log ↔
      Run (When (fun p e => reportSafe cfg p e = true) (Watched cfg))
        (boot cfg answers [], false) es (s, stale) := by
  refine Run.iff_when (P := fun _ p => Whenever ReportOnNetwork p.1.log) h ?_ ?_
  · exact (whenever_reports_concat (by simp)).mpr whenever_nil
  · rintro es ⟨s, stale⟩ e ⟨s', stale'⟩ hr ⟨hstep, -⟩
    obtain ⟨hfresh, hwaiting⟩ := run_awaits hr
    have heffect := effect_reports (step_effect hstep) (run_tracked (run_of_watched hr))
    refine heffect.2.trans (and_congr_right fun _ => ?_)
    cases e with
    | grant bufid tempRaw env =>
      -- a buffer is granted, so one was waited for
      have hpos : 0 < s.delayedGrants := by
        obtain ⟨hc, -⟩ := Option.ite_none_right_eq_some.mp hstep
        exact hc.1
      have hjoined : s.gNetworkJoined = true ↔ stale = false := by
        refine ⟨hfresh, fun hstale => (hwaiting hpos).resolve_right (by simp [hstale])⟩
      rw [hjoined]
      cases stale <;> simp [reportSafe]
    | _ => simp [reportSafe, Event.reads]

/-- The write requests of a run are all issued on the network exactly when no buffer
is granted, to a sensor that can be read, after a leave that found it asked for and
without a successful join since. -/
theorem reports_on_network_iff (h : Run (Fires (step cfg)) (boot cfg answers []) es s) :
    Whenever ReportOnNetwork s.log ↔
      ∃ stale, Run (When (fun p e => reportSafe cfg p e = true) (Watched cfg))
        (boot cfg answers [], false) es (s, stale) := by
  constructor
  · intro hw
    obtain ⟨stale, hr⟩ := watched_of_run h
    exact ⟨stale, (watched_reports_iff hr).mp hw⟩
  · rintro ⟨stale, hr⟩
    exact (watched_reports_iff hr.of_when).mpr hr

end Runs

/-- A report for which the device leaves after the trigger and is back before the
grant, and a leave that finds no buffer asked for. -/
def returnRun : List Event :=
  [.signal .steering 0 5 .working, .rtcInterrupt 0 true, .work, .callback .working,
    .signal .leave 0 6 .working, .signal .deviceReboot 0 5 .working, .grant 7 0 .working,
    .signal .leave 0 6 .working, .rtcInterrupt 0 true, .work, .callback .working]

theorem reports_on_network_iff_returnRun :
    ∃ s, exec (step .production) (boot .production Env.working.answers []) returnRun = some s ∧
      .writeAttr (temperatureRequest 7 128) ∈ s.log ∧ s.delayedGrants = 0 ∧
      (Whenever ReportOnNetwork s.log ↔
        ∃ stale, Run (When (fun p e => reportSafe .production p e = true) (Watched .production))
          (boot .production Env.working.answers [], false) returnRun (s, stale)) := by
  obtain ⟨s, hs, hreport, hnone⟩ : ∃ s, exec (step .production)
      (boot .production Env.working.answers []) returnRun = some s ∧
      .writeAttr (temperatureRequest 7 128) ∈ s.log ∧ s.delayedGrants = 0 :=
    ⟨_, rfl, by decide, rfl⟩
  exact ⟨s, hs, hreport, hnone, reports_on_network_iff (run_of_exec hs)⟩

def leaveRun : List Event :=
  [.signal .steering 0 5 .working, .rtcInterrupt 0 true, .work, .callback .working,
    .signal .leave 0 6 .working, .grant 7 0 .working]

/-- The request goes out although the last network event is the leave. -/
theorem report_after_leave :
    ¬∀ es s, Run (Fires (step .production)) (boot .production Env.working.answers []) es s →
      Whenever ReportOnNetwork s.log := by
  intro h
  obtain ⟨s, hs, hlog⟩ : ∃ s, exec (step .production) (boot .production Env.working.answers [])
      leaveRun = some s ∧ s.log = [.powerUp, .signal .steering 0 5, .ledStatusUpdate 5,
        .defaultSignalHandler 5, .bufFree 5, .rtcCompare, .rtcRestart 32, .signal .leave 0 6,
        .ledStatusUpdate 6, .defaultSignalHandler 6, .bufFree 6, .granted 7] ++
          [.writeAttr (temperatureRequest 7 128)] := ⟨_, rfl, by decide⟩
  have hw := h leaveRun s (run_of_exec hs)
  rw [hlog, whenever_concat] at hw
  have hon := hw.2 _ rfl
  rw [OnNetwork] at hon
  revert hon
  decide

end ZigbeeGateway.EndDevice
