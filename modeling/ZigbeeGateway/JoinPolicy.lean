import ZigbeeGateway.ConsoleCommands

namespace ZigbeeGateway.EndDevice
open CStrings PairingCommand Histories Bmp180 JobQueue

def Entry.asSignal : Entry → Option Signal
  | .signal sig _ _ => some sig
  | _ => none

def Entry.isDefaultHandler : Entry → Bool
  | .defaultSignalHandler _ => true
  | _ => false

def Entry.isCommissioning : Entry → Bool
  | .commissioning _ => true
  | _ => false

/-- The signals at which the default handler joins or rejoins. -/
def Signal.isBoot : Signal → Bool
  | .deviceFirstStart | .deviceReboot => true
  | _ => false

/-- What the default handler needs: in the development build a code that was set
since a boot signal came, in the production build that it was no first start. -/
def Keyed (cfg : Config) (a : Entry) (pre : List Entry) : Prop :=
  a.isDefaultHandler = true → ∃ sig, latest Entry.asSignal pre = some sig ∧
    if cfg.developmentSecurity then
      sig.isBoot = true → .icSet devInstallCode ∈ since (fun a => a.asSignal.isSome) pre
    else sig ≠ .deviceFirstStart

variable {cfg : Config} {s s' : State}

abbrev Unhandled (l l' : List Entry) : Prop :=
  Extends (fun a => a.isDefaultHandler = false) l l'

theorem Unhandled.keyed {l l' : List Entry} (h : Unhandled l l') (hl : Whenever (Keyed cfg) l) :
    Whenever (Keyed cfg) l' := by
  apply h.induction hl
  intro k a hk ha
  rw [whenever_concat]
  exact ⟨hk, fun htrue => absurd htrue (by simp [ha])⟩

theorem unhandled_emit {l : List Entry} {t : State} {a : Entry} (h : Unhandled l t.log)
    (ha : a.isDefaultHandler = false) : Unhandled l (t.emit a).log := h.concat ha

theorem unhandled_printAll {l : List Entry} {t : State} (h : Unhandled l t.log)
    (out : List (List UInt8)) : Unhandled l (out.foldl State.printk t).log := by
  induction out generalizing t with
  | nil => exact h
  | cons line out ih => exact ih (unhandled_emit h rfl)

theorem parseUartCommand_unhandled (cfg : Config) (s : State) (line : Buffer) :
    Unhandled s.log (parseUartCommand cfg s line).log := by
  apply (parseUartCommand_prints cfg s line).mono
  rintro a ⟨out, rfl, -⟩
  rfl

theorem runCallback_unhandled (cfg : Config) (s : State) (env : Env) (cb : Callback) :
    Unhandled s.log (runCallback cfg s env cb).log := by
  have hfirst : ∀ a : Entry, a.isDefaultHandler = false → Unhandled s.log (s.emit a).log :=
    fun a ha => unhandled_emit (.refl _) ha
  cases cb with
  | zbTriggerTempReport =>
    simp only [runCallback, zbTriggerTempReport]
    split_ifs <;> exact .refl _
  | icSetCallback =>
    simp only [runCallback, icSetCallback]
    split <;> exact unhandled_emit (hfirst _ rfl) rfl
  | joinCallback =>
    simp only [runCallback, joinCallback]
    split <;> exact unhandled_emit (hfirst _ rfl) rfl
  | factoryResetHandler => exact unhandled_emit (unhandled_emit (hfirst _ rfl) rfl) rfl
  | rebootHandler => exact hfirst .powerUp rfl

theorem unhandled_release {l : List Entry} {t : State} (h : Unhandled l t.log) (bufid : ℕ) :
    Unhandled l (t.release bufid).log := by
  unfold State.release
  split
  · exact unhandled_emit h rfl
  · exact h

structure Prepared (cfg : Config) (sig : Signal) (log : List Entry) : Prop where
  keyed : Whenever (Keyed cfg) log
  latest : latest Entry.asSignal log = some sig
  ready : if cfg.developmentSecurity then
      sig.isBoot = true → .icSet devInstallCode ∈ since (fun a => a.asSignal.isSome) log
    else sig ≠ .deviceFirstStart

theorem Prepared.handled {sig : Signal} {t : State} (h : Prepared cfg sig t.log) (bufid : ℕ) :
    Whenever (Keyed cfg) (t.emit (.defaultSignalHandler bufid)).log := by
  rw [State.emit, whenever_concat]
  exact ⟨h.keyed, fun _ => ⟨sig, h.latest, h.ready⟩⟩

theorem zbossSignalHandler_keyed (hs : Whenever (Keyed cfg) s.log) (env : Env) (sig : Signal)
    (status : ℤ) (bufid : ℕ) :
    Whenever (Keyed cfg)
      (zbossSignalHandler cfg (s.emit (.signal sig status bufid)) env sig status bufid).log := by
  unfold zbossSignalHandler
  dsimp only
  have hlatest : latest Entry.asSignal
      ((s.emit (.signal sig status bufid)).emit (.ledStatusUpdate bufid)).log = some sig := by
    simp only [State.emit, latest_concat]
    rfl
  have hled : Unhandled s.log
      ((s.emit (.signal sig status bufid)).emit (.ledStatusUpdate bufid)).log :=
    unhandled_emit (unhandled_emit (.refl _) rfl) rfl
  have hset : since (fun a => a.asSignal.isSome) (setupStaticInstallCode
      ((s.emit (.signal sig status bufid)).emit (.ledStatusUpdate bufid))).log =
        [.ledStatusUpdate bufid, .icSet devInstallCode] := by
    simp only [setupStaticInstallCode, State.emit, since_concat]
    rfl
  have hexit : ∀ t : State, Whenever (Keyed cfg) t.log →
      Whenever (Keyed cfg) (t.release bufid).log :=
    fun t ht => (unhandled_release (.refl _) bufid).keyed ht
  generalize (s.emit (.signal sig status bufid)).emit (.ledStatusUpdate bufid) = t at *
  -- the development build sets its code between the signal and the default handler
  have hdev : cfg.developmentSecurity = true →
      Prepared cfg sig (setupStaticInstallCode t).log := by
    intro hdev
    refine ⟨(unhandled_emit hled rfl).keyed hs, ?_, ?_⟩
    · rw [setupStaticInstallCode, State.emit, latest_concat, hlatest]
      rfl
    · rw [if_pos hdev, hset]
      exact fun _ => by simp
  have hplain : (cfg.developmentSecurity = true → sig.isBoot = false) →
      sig ≠ .deviceFirstStart → Prepared cfg sig t.log := by
    intro hboot hfirst
    refine ⟨hled.keyed hs, hlatest, ?_⟩
    split
    · rename_i hdev
      exact fun htrue => absurd htrue (by simp [hboot hdev])
    · exact hfirst
  cases sig with
  | deviceFirstStart =>
    dsimp only
    split_ifs with hsec
    · exact hexit _ ((hdev hsec).handled bufid)
    · -- the production build returns before the default handler
      exact (unhandled_emit (unhandled_printAll hled _) rfl).keyed hs
  | deviceReboot =>
    dsimp only
    by_cases hsec : cfg.developmentSecurity = true
    · rw [if_pos hsec]
      have hready := hdev hsec
      split
      · exact hexit _ (Prepared.handled (t := networkJoined _) hready bufid)
      · exact hexit _ (hready.handled bufid)
    · rw [if_neg hsec]
      have hready := hplain (fun h => absurd h hsec) (by decide)
      split
      · exact hexit _ (Prepared.handled (t := networkJoined _) hready bufid)
      · exact hexit _ (hready.handled bufid)
  | steering =>
    have hready := (hplain (fun _ => rfl) (by decide)).handled bufid
    dsimp only
    split
    · exact hexit (networkJoined _) hready
    · exact hexit _ hready
  | leave =>
    have hready := hplain (fun _ => rfl) (by decide)
    exact hexit _ (Prepared.handled (t := { t with gNetworkJoined := false, dkLed4 := false })
      hready bufid)
  | other => exact hexit _ ((hplain (fun _ => rfl) (by decide)).handled bufid)

theorem step_keyed {e : Event} (hs : Whenever (Keyed cfg) s.log) (h : step cfg s e = some s') :
    Whenever (Keyed cfg) s'.log := by
  cases e with
  | signal sig status bufid env =>
    obtain ⟨-, h⟩ := Option.ite_none_left_eq_some.mp h
    obtain rfl := Option.some.inj h
    exact zbossSignalHandler_keyed hs env sig status bufid
  | rtcInterrupt err isCompareEvent =>
    obtain rfl := Option.some.inj h
    unfold rtc2Isr
    split
    · exact Unhandled.keyed ⟨_, rfl, by simp [Entry.isDefaultHandler]⟩ hs
    · exact hs
  | work =>
    obtain ⟨-, h⟩ := Option.ite_none_right_eq_some.mp h
    obtain rfl := Option.some.inj h
    exact hs
  | callback env =>
    obtain ⟨cb, rest, hq, rfl⟩ := step_callback h
    exact (runCallback_unhandled cfg { s with queue := rest } env cb).keyed hs
  | grant bufid tempRaw env =>
    obtain ⟨-, h⟩ := Option.ite_none_right_eq_some.mp h
    obtain rfl := Option.some.inj h
    have hgranted : Unhandled s.log (s.emit (.granted bufid)).log := unhandled_emit (.refl _) rfl
    apply Unhandled.keyed _ hs
    unfold sendTemperatureCb
    dsimp only
    split
    · exact unhandled_emit hgranted rfl
    · exact unhandled_emit hgranted rfl
  | confirm bufid status =>
    obtain ⟨-, h⟩ := Option.ite_none_right_eq_some.mp h
    obtain rfl := Option.some.inj h
    have hconfirmed : Unhandled s.log (s.emit (.confirmed bufid status)).log :=
      unhandled_emit (.refl _) rfl
    exact Unhandled.keyed (unhandled_emit hconfirmed rfl) hs
  | uartLine line =>
    obtain rfl := Option.some.inj h
    exact (parseUartCommand_unhandled cfg s line).keyed hs
  | tick env =>
    obtain rfl | ⟨t, rfl⟩ := step_tick h
    · exact Unhandled.keyed (unhandled_emit (.refl _) (rfl : Entry.powerUp.isDefaultHandler = _)) hs
    · exact hs

section Runs

variable {answers : ℕ → Answer} {es : List Event}

theorem count_join {α : Type*} (f : α → Option Callback) (l : List α) :
    (l.filterMap f).count .joinCallback = l.countP fun a => f a = some .joinCallback := by
  rw [List.count, List.countP_filterMap]
  apply List.countP_congr
  intro a _
  cases f a <;> simp

/-- The joins that were asked of the stack or wait for it were typed. -/
theorem run_joins (h : Run (Fires (step cfg)) (boot cfg answers []) es s) :
    s.log.countP Entry.isCommissioning + s.queue.count .joinCallback ≤
      es.countP fun e => e.command = some .joinCallback := by
  obtain ⟨new, hlog, hsub, -⟩ :=
    View.served_run (v := console) (fun _ _ _ hs => (step_served hs).1) h
  have hcount := hsub.count_le Callback.joinCallback
  rw [List.count_append, List.count_append] at hcount
  -- every join in the log was a command carried out
  have hdone : (new.filterMap console.done).count .joinCallback =
      s.log.countP Entry.isCommissioning := by
    have hjoin : Entry.isCommissioning =
        fun a : Entry => decide (a.command = some .joinCallback) := by
      funext a
      cases a with
      | printk out => cases h : isIcSetReply out <;> simp [Entry.isCommissioning, Entry.command, h]
      | _ => rfl
    have hnew : s.log = [.powerUp] ++ new := hlog
    rw [hnew, List.countP_append, hjoin]
    exact (count_join Entry.command new).trans (Nat.zero_add _).symm
  have hbrought : (es.filterMap console.brings).count .joinCallback =
      es.countP fun e => e.command = some .joinCallback := count_join Event.command es
  have hwaiting : (console.waiting s).count .joinCallback = s.queue.count .joinCallback :=
    List.count_filter rfl
  have hnone : (console.waiting (boot cfg answers [])).count .joinCallback = 0 := rfl
  omega

/-- In every run the device joins by itself only as its build allows: the default
handler sees a boot signal in the development build only after its code was set,
and in the production build it never sees a first start; and each join that is
asked of the stack, or waits to be, was typed on the console. -/
theorem join_only_on_command (h : Run (Fires (step cfg)) (boot cfg answers []) es s) :
    Whenever (Keyed cfg) s.log ∧
      s.log.countP Entry.isCommissioning + s.queue.count .joinCallback ≤
        es.countP fun e => e.command = some .joinCallback := by
  refine ⟨h.invariant ?_ fun _ _ _ hs hstep => step_keyed hs hstep, run_joins h⟩
  have hpowerUp : Unhandled [] (boot cfg answers []).log :=
    ⟨_, rfl, by simp [Entry.isDefaultHandler]⟩
  exact hpowerUp.keyed whenever_nil

def typedJoin : List Event :=
  [.signal .deviceFirstStart 0 5 .working, consoleLine "join", .callback .working,
    .signal .steering 0 6 .working]

theorem join_only_on_command_typedJoin :
    ∃ s, exec (step .production) (boot .production Env.working.answers []) typedJoin = some s ∧
      s.log.countP Entry.isCommissioning = 1 ∧ Whenever (Keyed .production) s.log ∧
      s.log.countP Entry.isCommissioning + s.queue.count .joinCallback ≤
        typedJoin.countP fun e => e.command = some .joinCallback := by
  obtain ⟨s, hs, hjoins⟩ : ∃ s, exec (step .production)
      (boot .production Env.working.answers []) typedJoin = some s ∧
      s.log.countP Entry.isCommissioning = 1 := ⟨_, rfl, by decide⟩
  exact ⟨s, hs, hjoins, join_only_on_command (run_of_exec hs)⟩

end Runs

end ZigbeeGateway.EndDevice
