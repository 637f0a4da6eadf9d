import ZigbeeGateway.LightSwitchGestures
import ZigbeeGateway.PeriodicService

namespace ZigbeeGateway.LightSwitch
open Histories PeriodicService

/-- In milliseconds. -/
def BUTTON_LONG_POLL_TMO : ℕ := 500

/-- The light switch with its timer, which `k_timer_start` sets without a period, so that it
runs out once. -/
structure Panel where
  app : State
  /-- the time left on `buttons_ctx.alarm` -/
  left : ℕ

inductive PanelEvent
  | millisecond
  | app (e : Event)

def PanelEvent.isMillisecond : PanelEvent → Bool
  | .millisecond => true
  | .app _ => false

def Event.isAlarm : Event → Bool
  | .alarm _ => true
  | _ => false

def startsTimer (s : State) (e : Event) : Bool :=
  match gestureOf s e with
  | some (.press _) | some (.hold _ _) => true
  | _ => false

namespace Panel

def powerUp : Panel := ⟨start, 0⟩

/-- The handler of the timer may be late, but never early. -/
def step (p : Panel) : PanelEvent → Option Panel
  | .millisecond => some { p with left := p.left - 1 }
  | .app e =>
    if e.isAlarm && decide (0 < p.left) then none
    else (LightSwitch.step p.app e).map fun s =>
      ⟨s, if startsTimer p.app e then BUTTON_LONG_POLL_TMO else p.left⟩

def elapsed (p : Panel) : ℕ := if p.app.buttonsCtx.alarm then BUTTON_LONG_POLL_TMO - p.left else 0

def act (p : Panel) : PanelEvent → Act
  | .millisecond => if p.app.buttonsCtx.alarm then .tick else .idle
  | .app e =>
    match gestureOf p.app e with
    | some (.hold _ _) | some .lapse => .serve
    | some (.press _) | some (.release _ _) => .restart
    | none => .idle

end Panel

def Request.isStep : Request → Bool
  | .lightSwitchSendStep _ => true
  | _ => false

/-- The step commands that were sent or wait for a buffer. -/
def State.steps (s : State) : ℕ := (sent s.log ++ waiting s.requests).countP Request.isStep

def Gesture.dims : Gesture → Bool
  | .hold _ taken => taken
  | _ => false

theorem countP_asks (g : Gesture) (long : Bool) :
    (g.asks long).toList.countP Request.isStep = if g.dims then 1 else 0 := by
  cases g with
  | press | lapse => rfl
  | hold button taken => cases taken <;> rfl
  | release button taken => cases taken <;> cases long <;> rfl

theorem step_steps {s s' : State} {e : Event} (hs : s.Static) (h : step s e = some s') :
    s'.steps = s.steps + if (gestureOf s e).any Gesture.dims then 1 else 0 := by
  unfold State.steps
  cases step_does hs h with
  | quiet hnone hq =>
    rw [hnone, hq.sent, hq.waiting, Option.any_none, if_neg (by simp), Nat.add_zero]
  | gesture g hg _ _ hsent hwait =>
    rw [hg, hsent, hwait, ← List.append_assoc, List.countP_append, countP_asks, Option.any_some]
  | send c hnone hmem _ hsent hreq hcommand =>
    rw [hnone, Option.any_none, if_neg (by simp), Nat.add_zero]
    have hwait : waiting s'.requests = (waiting s.requests).erase c := by
      rw [hreq, waiting, waiting, List.erase_filter]
    have hperm : (sent s.log ++ waiting s.requests).Perm (sent s'.log ++ waiting s'.requests) := by
      rw [hsent, hwait, List.append_assoc]
      apply List.Perm.append_left
      exact List.perm_cons_erase (List.mem_filter.mpr ⟨hmem, hcommand⟩)
    exact (hperm.countP_eq _).symm

namespace Panel

variable {p₀ p p' : Panel} {e : Event}

theorem step_app (h : p.step (.app e) = some p') :
    (e.isAlarm = true → p.left = 0) ∧ LightSwitch.step p.app e = some p'.app ∧
      p'.left = if startsTimer p.app e then BUTTON_LONG_POLL_TMO else p.left := by
  obtain ⟨hlate, h⟩ := Option.ite_none_left_eq_some.mp h
  obtain ⟨s, hs, rfl⟩ := Option.map_eq_some_iff.mp h
  refine ⟨fun halarm => ?_, hs, rfl⟩
  simpa [halarm] using hlate

/-- The timer is never set to more than its period. -/
structure Kept (p : Panel) : Prop where
  static : p.app.Static
  left : p.left ≤ BUTTON_LONG_POLL_TMO

theorem step_kept {pe : PanelEvent} (hp : p.Kept) (h : p.step pe = some p') : p'.Kept := by
  cases pe with
  | millisecond =>
    obtain rfl := Option.some.inj h
    exact ⟨hp.static, (Nat.sub_le _ _).trans hp.left⟩
  | app e =>
    obtain ⟨-, hs, hleft⟩ := step_app h
    refine ⟨step_static hp.static hs, ?_⟩
    rw [hleft]
    split
    · exact le_rfl
    · exact hp.left

/-- Only the timer finds a button held, or let go. -/
theorem isAlarm_of_serve (h : p.act (.app e) = .serve) : e.isAlarm = true := by
  cases e with
  | alarm env => rfl
  | buttons buttonState hasChanged env =>
    unfold act gestureOf at h
    dsimp only at h
    split_ifs at h
  | signal | findAlarm | rtcInterrupt | work | callback | grant | confirm | matchDescResp =>
    exact absurd h (by simp [act, gestureOf])

theorem step_elapsed {pe : PanelEvent} (hp : p.Kept) (h : p.step pe = some p') :
    p'.elapsed = (p.act pe).apply BUTTON_LONG_POLL_TMO p.elapsed := by
  cases pe with
  | millisecond =>
    obtain rfl := Option.some.inj h
    have hleft := hp.left
    unfold elapsed act
    dsimp only
    split
    · simp only [Act.apply]
      omega
    · rfl
  | app e =>
    obtain ⟨-, hs, hleft⟩ := step_app h
    unfold elapsed act
    unfold startsTimer at hleft
    -- a press or a hold starts the timer anew, a lapse or a release leaves it stopped
    cases step_does hp.static hs with
    | quiet hnone hq =>
      simp only [hnone, Bool.false_eq_true, if_false] at hleft ⊢
      rw [hq.buttons, hleft]
      rfl
    | send c hnone _ hkeep _ _ _ =>
      simp only [hnone, Bool.false_eq_true, if_false] at hleft ⊢
      rw [hkeep, hleft]
      rfl
    | gesture g hg _ hafter _ _ =>
      rw [hafter]
      cases g with
      | press | hold => simp [hg, hleft, ButtonsContext.after, Act.apply]
      | lapse | release => simp [hg, ButtonsContext.after, Act.apply]

theorem elapsed_of_serve {pe : PanelEvent} (hp : p.Kept) (h : p.step pe = some p')
    (hserve : p.act pe = .serve) : p.elapsed = BUTTON_LONG_POLL_TMO := by
  cases pe with
  | millisecond =>
    unfold act at hserve
    dsimp only at hserve
    split at hserve <;> exact absurd hserve (by simp)
  | app e =>
    obtain ⟨hlate, hs, -⟩ := step_app h
    -- only an expiry is a service, and only a running timer expires
    have hruns : p.app.buttonsCtx.alarm = true := by
      unfold act at hserve
      cases step_does hp.static hs with
      | quiet hnone _ => exact absurd hserve (by simp [hnone])
      | send _ hnone => exact absurd hserve (by simp [hnone])
      | gesture g hg hfits =>
        cases g with
        | hold => exact hfits.1
        | lapse => exact hfits
        | press | release => exact absurd hserve (by simp [hg])
    rw [elapsed, if_pos hruns, hlate (isAlarm_of_serve hserve), Nat.sub_zero]

def poller : Device (Fires step) BUTTON_LONG_POLL_TMO where
  Inv := Kept
  elapsed := elapsed
  act := act
  inv := step_kept
  law := step_elapsed
  due := elapsed_of_serve

theorem powerUp_kept : powerUp.Kept := ⟨start_static, Nat.zero_le _⟩

theorem run_kept {es : List PanelEvent} (h : Run (Fires step) powerUp es p) : p.Kept :=
  poller.run_inv h powerUp_kept

/-- The button stays held, each expiry is served at once, and the stack takes the
requests for a buffer. -/
def holding (p : Panel) : PanelEvent → Bool
  | .millisecond => decide (0 < p.left)
  | .app e =>
    match gestureOf p.app e with
    | some (.hold _ taken) => taken
    | some _ => false
    | none => true

theorem step_steps_le {pe : PanelEvent} (hp : p.Kept) (h : p.step pe = some p') :
    p.app.steps ≤ p'.app.steps := by
  cases pe with
  | millisecond =>
    obtain rfl := Option.some.inj h
    exact le_rfl
  | app e =>
    rw [step_steps hp.static (step_app h).2.1]
    exact Nat.le_add_right _ _

/-- What an event of a held button adds to the time and to the commands. -/
theorem step_holding {pe : PanelEvent} (hp : p.Kept) (hruns : p.app.buttonsCtx.alarm = true)
    (hhold : p.holding pe = true) (h : p.step pe = some p') :
    p'.app.buttonsCtx.alarm = true ∧
      p.elapsed + [pe].countP PanelEvent.isMillisecond + BUTTON_LONG_POLL_TMO * p.app.steps =
        BUTTON_LONG_POLL_TMO * p'.app.steps + p'.elapsed := by
  have helapsed := step_elapsed hp h
  cases pe with
  | millisecond =>
    obtain rfl := Option.some.inj h
    refine ⟨hruns, ?_⟩
    have hleft := hp.left
    have hpos : 0 < p.left := of_decide_eq_true hhold
    simp only [elapsed, hruns, if_true, List.countP_cons, List.countP_nil, PanelEvent.isMillisecond]
    omega
  | app e =>
    have hserve := elapsed_of_serve hp h
    obtain ⟨-, hs, -⟩ := step_app h
    rw [step_steps hp.static hs, helapsed]
    unfold act at hserve ⊢
    unfold holding at hhold
    dsimp only at hserve hhold ⊢
    cases step_does hp.static hs with
    | quiet hnone hq =>
      rw [hq.buttons, hnone]
      exact ⟨hruns, Nat.add_comm _ _⟩
    | send c hnone _ hkeep _ _ _ =>
      rw [hkeep, hnone]
      exact ⟨hruns, Nat.add_comm _ _⟩
    | gesture g hg _ hafter _ _ =>
      rw [hg] at hserve hhold ⊢
      rw [hafter]
      cases g with
      | press | lapse | release => exact absurd hhold (by simp)
      | hold button taken =>
        -- the expiry is served at once, so a whole period is behind it
        obtain rfl : taken = true := hhold
        refine ⟨rfl, ?_⟩
        rw [hserve rfl]
        simp only [Act.apply, Option.any_some, Gesture.dims, if_true, List.countP_cons,
          List.countP_nil, PanelEvent.isMillisecond, Bool.false_eq_true, if_false, Nat.mul_succ]
        omega

theorem run_milliseconds (p : Panel) {n : ℕ} (hn : n ≤ p.left) :
    Run (When (fun p pe => p.holding pe = true) (Fires step)) p
      (List.replicate n .millisecond) { p with left := p.left - n } := by
  induction n with
  | zero => exact .nil
  | succ n ih =>
    rw [List.replicate_succ']
    refine .concat (ih (by omega)) ⟨?_, ?_⟩
    · show decide (0 < p.left - n) = true
      exact decide_eq_true (by omega)
    · show some _ = some _
      rw [Nat.sub_sub]

/-- A held button is dimmed once more when the timer has run out. -/
theorem dims_again (hp : p.Kept) (hruns : p.app.buttonsCtx.alarm = true)
    (hlive : p.app.halted = false) (env : Env) (hheld : env.buttons &&& p.app.buttonsCtx.state ≠ 0)
    (htaken : env.getOutDelayedExt = RET_OK) :
    ∃ p', Run (When (fun p pe => p.holding pe = true) (Fires step)) p
        (List.replicate p.left .millisecond ++ [.app (.alarm env)]) p' ∧
      p'.Kept ∧ p'.app.buttonsCtx = { p.app.buttonsCtx with longPoll := true } ∧
      p'.app.halted = false ∧ p'.left = BUTTON_LONG_POLL_TMO ∧
      p'.app.steps = p.app.steps + 1 := by
  have hgesture : gestureOf p.app (.alarm env) = some (.hold p.app.buttonsCtx.state true) := by
    rw [gestureOf, if_pos hheld, htaken]
    rfl
  obtain ⟨s, hs, hhalted⟩ : ∃ s, LightSwitch.step p.app (.alarm env) = some s ∧
      s.halted = false := by
    have hs : LightSwitch.step p.app (.alarm env) = some (lightSwitchButtonHandler
        { p.app with buttonsCtx := { p.app.buttonsCtx with alarm := false } } env) := by
      simp [LightSwitch.step, hlive, dispatch, hruns]
    refine ⟨_, hs, ?_⟩
    rw [lightSwitchButtonHandler, if_pos hheld, htaken]
    exact hlive
  have hstep : Panel.step { p with left := p.left - p.left } (.app (.alarm env)) =
      some ⟨s, BUTTON_LONG_POLL_TMO⟩ := by
    simp [Panel.step, startsTimer, hgesture, hs]
  refine ⟨_, .concat (run_milliseconds p le_rfl) ⟨?_, hstep⟩, ?_, ?_, hhalted, rfl, ?_⟩
  · simp [holding, hgesture]
  · exact ⟨step_static hp.static hs, le_rfl⟩
  · cases step_does hp.static hs with
    | quiet hnone => exact absurd hnone (by simp [hgesture])
    | send _ hnone => exact absurd hnone (by simp [hgesture])
    | gesture g hg _ hafter =>
      obtain rfl := Option.some.inj (hgesture.symm.trans hg)
      rw [hafter]
      simp [ButtonsContext.after, hruns]
  · rw [step_steps hp.static hs, hgesture]
    rfl

theorem countP_milliseconds (n : ℕ) (e : Event) :
    (List.replicate n PanelEvent.millisecond ++ [PanelEvent.app e]).countP
      PanelEvent.isMillisecond = n := by
  simp [List.countP_append, List.countP_replicate, PanelEvent.isMillisecond]

theorem dims_on (hp : p.Kept) (hruns : p.app.buttonsCtx.alarm = true)
    (hlive : p.app.halted = false) {env : Env} (hheld : env.buttons &&& p.app.buttonsCtx.state ≠ 0)
    (htaken : env.getOutDelayedExt = RET_OK) (n : ℕ) :
    ∃ es p', Run (When (fun p pe => p.holding pe = true) (Fires step)) p es p' ∧
      es.countP PanelEvent.isMillisecond = p.left + BUTTON_LONG_POLL_TMO * n ∧
      p'.app.steps = p.app.steps + n + 1 := by
  induction n generalizing p with
  | zero =>
    obtain ⟨p', hr, -, -, -, -, hsteps⟩ := dims_again hp hruns hlive env hheld htaken
    exact ⟨_, p', hr, countP_milliseconds _ _, hsteps⟩
  | succ n ih =>
    obtain ⟨p₁, hr₁, hp₁, hctx, hlive₁, hleft, hsteps₁⟩ :=
      dims_again hp hruns hlive env hheld htaken
    obtain ⟨es, p', hr, hcount, hsteps⟩ :=
      ih hp₁ (by rw [hctx]; exact hruns) hlive₁ (by rw [hctx]; exact hheld)
    refine ⟨_, p', hr₁.append hr, ?_, ?_⟩
    · rw [List.countP_append, countP_milliseconds, hcount, hleft, Nat.mul_succ]
      omega
    · rw [hsteps, hsteps₁]
      omega

def onHeld : Env := { Env.working with buttons := BUTTON_ON }

def pressed : Panel := ⟨buttonHandler start onHeld BUTTON_ON BUTTON_ON, BUTTON_LONG_POLL_TMO⟩

def press : List PanelEvent := [.app (.buttons BUTTON_ON BUTTON_ON onHeld)]

def halfSecond : List PanelEvent :=
  List.replicate BUTTON_LONG_POLL_TMO .millisecond ++ [.app (.alarm onHeld)]

theorem run_press : Run (Fires step) powerUp press pressed := .concat .nil rfl

theorem run_halfSecond : ∃ p, Run (When (fun p pe => p.holding pe = true) (Fires step)) pressed
    halfSecond p ∧ p.app.steps = 1 := by
  obtain ⟨p, hr, -, -, -, -, hsteps⟩ :=
    dims_again (run_kept run_press) rfl rfl onHeld (by decide) rfl
  exact ⟨p, hr, hsteps⟩

section Runs

variable {es : List PanelEvent} {t : Tally}

/-- The timer runs for part of the time, and each step command takes a service of it. -/
theorem run_served (h : Run poller.Tallied (powerUp, .zero) es (p, t)) :
    t.ticks ≤ es.countP PanelEvent.isMillisecond ∧ p.app.steps ≤ t.served := by
  refine Run.history (P := fun es q => q.2.ticks ≤ es.countP PanelEvent.isMillisecond ∧
    q.1.app.steps ≤ q.2.served) h ⟨le_rfl, le_rfl⟩ ?_
  rintro es ⟨p, t⟩ pe ⟨p', t'⟩ hr ⟨hticks, hsteps⟩ ⟨hstep, ht⟩
  obtain rfl : t' = t.add BUTTON_LONG_POLL_TMO p.elapsed (p.act pe) := ht
  dsimp only at hticks hsteps hstep ⊢
  rw [List.countP_append]
  cases pe with
  | millisecond =>
    obtain rfl := Option.some.inj hstep
    unfold act
    dsimp only
    split
    · exact ⟨Nat.succ_le_succ hticks, hsteps⟩
    · exact ⟨hticks.trans (Nat.le_succ _), hsteps⟩
  | app e =>
    obtain ⟨-, hs, -⟩ := step_app hstep
    rw [step_steps (run_kept (Device.run_of_tallied hr)).static hs]
    unfold act
    dsimp only
    -- no event of the firmware takes time, and only a hold adds a step
    cases hg : gestureOf p.app e with
    | none => exact ⟨hticks, hsteps⟩
    | some g =>
      cases g with
      | press | release | lapse => exact ⟨hticks, hsteps.trans (by simp [Tally.add])⟩
      | hold button taken =>
        refine ⟨hticks, (Nat.add_le_add hsteps ?_).trans le_rfl⟩
        split <;> simp

/-- In every run, with presses, releases, late expiries and other events in any
order, each step command takes half a second of its own. -/
theorem dimming_rate (h : Run (Fires step) powerUp es p) :
    BUTTON_LONG_POLL_TMO * p.app.steps ≤ es.countP PanelEvent.isMillisecond := by
  obtain ⟨t, ht⟩ := Device.tallied_of_run (D := poller) h .zero
  have hbalance := (Device.run_balanced powerUp_kept rfl ht).ticks
  obtain ⟨hticks, hsteps⟩ := run_served ht
  calc BUTTON_LONG_POLL_TMO * p.app.steps
      ≤ BUTTON_LONG_POLL_TMO * t.served := Nat.mul_le_mul_left _ hsteps
    _ ≤ t.ticks := by omega
    _ ≤ es.countP PanelEvent.isMillisecond := hticks

theorem dimming_rate_halfSecond :
    ∃ p, Run (Fires step) powerUp (press ++ halfSecond) p ∧ p.app.steps = 1 ∧
      BUTTON_LONG_POLL_TMO * p.app.steps ≤
        (press ++ halfSecond).countP PanelEvent.isMillisecond := by
  obtain ⟨p, hr, hsteps⟩ := run_halfSecond
  have hrun := run_press.append hr.of_when
  exact ⟨p, hrun, hsteps, dimming_rate hrun⟩

/-- From any moment at which the timer runs, for as long as the button stays held:
one step command for each half second, counted from when the timer was started,
whatever happens in between that is no press or release of a command button. -/
theorem held_dimming {es₀ : List PanelEvent} (h₀ : Run (Fires step) powerUp es₀ p₀)
    (hruns : p₀.app.buttonsCtx.alarm = true)
    (h : Run (When (fun p pe => p.holding pe = true) (Fires step)) p₀ es p) :
    p.app.buttonsCtx.alarm = true ∧ p.elapsed ≤ BUTTON_LONG_POLL_TMO ∧
      ∃ n, p.app.steps = p₀.app.steps + n ∧
        p₀.elapsed + es.countP PanelEvent.isMillisecond =
          BUTTON_LONG_POLL_TMO * n + p.elapsed := by
  have hle : ∀ q : Panel, q.elapsed ≤ BUTTON_LONG_POLL_TMO := by
    intro q
    unfold elapsed
    split
    · exact Nat.sub_le _ _
    · exact Nat.zero_le _
  have hcount : p.Kept ∧ p.app.buttonsCtx.alarm = true ∧ p₀.app.steps ≤ p.app.steps ∧
      p₀.elapsed + es.countP PanelEvent.isMillisecond + BUTTON_LONG_POLL_TMO * p₀.app.steps =
        BUTTON_LONG_POLL_TMO * p.app.steps + p.elapsed := by
    refine Run.history (P := fun es p => p.Kept ∧ p.app.buttonsCtx.alarm = true ∧
      p₀.app.steps ≤ p.app.steps ∧
        p₀.elapsed + es.countP PanelEvent.isMillisecond + BUTTON_LONG_POLL_TMO * p₀.app.steps =
          BUTTON_LONG_POLL_TMO * p.app.steps + p.elapsed) h
      ⟨run_kept h₀, hruns, le_rfl, Nat.add_comm _ _⟩ ?_
    rintro es p pe p' - ⟨hp, hruns, hmono, ih⟩ ⟨hhold, hstep⟩
    obtain ⟨hruns', hadd⟩ := step_holding hp hruns hhold hstep
    refine ⟨step_kept hp hstep, hruns', hmono.trans (step_steps_le hp hstep), ?_⟩
    rw [List.countP_append]
    omega
  obtain ⟨-, hon, hmono, heq⟩ := hcount
  refine ⟨hon, hle p, p.app.steps - p₀.app.steps, by omega, ?_⟩
  rw [Nat.mul_sub]
  have := Nat.mul_le_mul_left BUTTON_LONG_POLL_TMO hmono
  omega

theorem held_dimming_halfSecond :
    ∃ p, Run (When (fun p pe => p.holding pe = true) (Fires step)) pressed halfSecond p ∧
      p.app.steps = 1 ∧ p.app.buttonsCtx.alarm = true ∧ p.elapsed ≤ BUTTON_LONG_POLL_TMO ∧
      ∃ n, p.app.steps = pressed.app.steps + n ∧
        pressed.elapsed + halfSecond.countP PanelEvent.isMillisecond =
          BUTTON_LONG_POLL_TMO * n + p.elapsed := by
  obtain ⟨p, hr, hsteps⟩ := run_halfSecond
  exact ⟨p, hr, hsteps, held_dimming run_press rfl hr⟩

/-- A button that is held never stops dimming: from any moment at which the timer
runs and the firmware has not been stopped, each further half second can bring
one more step command. -/
theorem dimming_goes_on {es₀ : List PanelEvent} (h₀ : Run (Fires step) powerUp es₀ p₀)
    (hruns : p₀.app.buttonsCtx.alarm = true) (hlive : p₀.app.halted = false) (env : Env)
    (hheld : env.buttons &&& p₀.app.buttonsCtx.state ≠ 0)
    (htaken : env.getOutDelayedExt = RET_OK) (n : ℕ) :
    ∃ es p, Run (When (fun p pe => p.holding pe = true) (Fires step)) p₀ es p ∧
      es.countP PanelEvent.isMillisecond = p₀.left + BUTTON_LONG_POLL_TMO * n ∧
      p.app.steps = p₀.app.steps + n + 1 :=
  dims_on (run_kept h₀) hruns hlive hheld htaken n

theorem dimming_goes_on_minute :
    ∃ es p, Run (When (fun p pe => p.holding pe = true) (Fires step)) pressed es p ∧
      es.countP PanelEvent.isMillisecond = pressed.left + BUTTON_LONG_POLL_TMO * 119 ∧
      p.app.steps = pressed.app.steps + 119 + 1 :=
  dimming_goes_on run_press rfl rfl onHeld (by decide) rfl 119

end Runs

end Panel

end ZigbeeGateway.LightSwitch
