import ZigbeeGateway.FactoryReset
import ZigbeeGateway.InstallCodeQueue
import ZigbeeGateway.PairingRoundTrip
import ZigbeeGateway.ReportPipeline

namespace ZigbeeGateway.Coordinator
open CStrings InstallCode PairingCommand Histories

/-- The registration that is queued and those made so far have pairs with `P`. -/
structure State.Registers (P : IcParams → Prop) (s : State) : Prop where
  queued : .icAddCallback ∈ s.queue → P s.gIcAddParams
  registered : ∀ p ∈ registered s.log, P p

variable {P Q : IcParams → Prop} {s s' : State}

theorem State.Registers.mono (h : s.Registers P) (hPQ : ∀ p, P p → Q p) : s.Registers Q :=
  ⟨fun hq => hPQ _ (h.queued hq), fun p hp => hPQ p (h.registered p hp)⟩

theorem State.Registers.keep (h : s.Registers P) (hparams : s'.gIcAddParams = s.gIcAddParams)
    (hqueue : .icAddCallback ∈ s'.queue → .icAddCallback ∈ s.queue)
    (hreg : Coordinator.registered s'.log = Coordinator.registered s.log) : s'.Registers P :=
  ⟨fun hq => hparams ▸ h.queued (hqueue hq), fun p hp => h.registered p (hreg ▸ hp)⟩

theorem deliver_keeps {sig : Signal} {status : ℤ} (h : deliver s sig status = some s') :
    s'.gIcAddParams = s.gIcAddParams ∧ s'.queue = s.queue := by
  unfold deliver at h
  cases sig <;> simp only at h
  case steering =>
    obtain ⟨-, h⟩ := Option.ite_none_right_eq_some.mp h
    obtain rfl := Option.some.inj h
    exact ⟨rfl, rfl⟩
  all_goals
    obtain rfl := Option.some.inj h
    exact ⟨rfl, rfl⟩

theorem zbossSignalHandler_keeps (s : State) (z : Zboss) (sig : Signal) (status : ℤ) (bufid : ℕ) :
    (zbossSignalHandler false s z sig status bufid).gIcAddParams = s.gIcAddParams ∧
      (zbossSignalHandler false s z sig status bufid).queue = s.queue := by
  have hdispatch : (dispatchSignal false s z sig status).gIcAddParams = s.gIcAddParams ∧
      (dispatchSignal false s z sig status).queue = s.queue := by
    cases sig <;> simp only [dispatchSignal, Bool.false_eq_true, if_false]
    case other => exact ⟨rfl, rfl⟩
    all_goals split_ifs <;> exact ⟨rfl, rfl⟩
  unfold zbossSignalHandler
  dsimp only
  split_ifs <;> exact hdispatch

theorem buttonChanged_keeps (s : State) (z : Zboss) (st ch : BitVec 32) :
    (buttonChanged s z st ch).gIcAddParams = s.gIcAddParams ∧
      (.icAddCallback ∈ (buttonChanged s z st ch).queue → .icAddCallback ∈ s.queue) := by
  have hreopen : (reopenButton s z).gIcAddParams = s.gIcAddParams ∧
      (reopenButton s z).queue = s.queue := ⟨rfl, rfl⟩
  unfold buttonChanged
  dsimp only
  split_ifs <;> simp [State.schedule, hreopen]

/-- In the production build a registered pair is one that an accepted line has
brought. -/
theorem step_registers {e : Event} (hs : s.Registers P) (h : step false s e = some s')
    (hline : ∀ line p, e = .uartLine line →
      icCommand (text "ic_add ") s.gIcAddParams line = .accepted p → P p) : s'.Registers P := by
  cases e with
  | signal sig status bufid z =>
    obtain ⟨t, ht, rfl⟩ := Option.map_eq_some_iff.mp h
    obtain ⟨hparams, hqueue⟩ := deliver_keeps ht
    obtain ⟨hparams', hqueue'⟩ := zbossSignalHandler_keeps t z sig status bufid
    have hgrows := (deliver_grows ht).trans
      (zbossSignalHandler_grows bufid (dispatchSignal_grows t z sig status))
    refine hs.keep (hparams'.trans hparams) ?_ (Grows.registered_eq hgrows)
    rw [hqueue', hqueue]
    exact id
  | uartLine line =>
    obtain rfl := Option.some.inj h
    have hreg := (parseUartCommand_grows s line).registered_eq
    by_cases haccepted : ∃ p, icCommand (text "ic_add ") s.gIcAddParams line = .accepted p
    · obtain ⟨p, hp⟩ := haccepted
      have hparams : (parseUartCommand s line).gIcAddParams = p := by
        rw [parseUartCommand_accepted hp]
        rfl
      exact ⟨fun _ => hparams ▸ hline line p rfl hp, fun q hq => hs.registered q (hreg ▸ hq)⟩
    · obtain ⟨hparams, cbs, hqueue, hcbs⟩ := parseUartCommand_refused (not_exists.mp haccepted)
      refine hs.keep hparams ?_ hreg
      rw [hqueue, List.mem_append]
      exact fun hq => hq.resolve_right hcbs
  | buttons buttonState hasChanged z =>
    obtain rfl := Option.some.inj h
    obtain ⟨hparams, hqueue⟩ := buttonChanged_keeps s z buttonState hasChanged
    exact hs.keep hparams hqueue (buttonChanged_grows s z _ _).registered_eq
  | callback z =>
    obtain ⟨cb, rest, hq, rfl⟩ := step_callback h
    have hrest : .icAddCallback ∈ rest → Callback.icAddCallback ∈ s.queue := by
      rw [hq]
      exact List.mem_cons_of_mem _
    by_cases hcb : cb = .icAddCallback
    · subst hcb
      obtain ⟨hparams, hqueue, hreg⟩ := icAddCallback_mailbox { s with queue := rest } z
      refine ⟨fun hin => ?_, fun p hp => ?_⟩
      · rw [runCallback, hqueue] at hin
        rw [runCallback, hparams]
        exact hs.queued (hrest hin)
      · rw [runCallback, hreg, List.mem_append, List.mem_singleton] at hp
        rcases hp with hp | rfl
        · exact hs.registered p hp
        · exact hs.queued (hq ▸ List.mem_cons_self)
    · obtain ⟨hparams, hqueue, hreg⟩ := runCallback_mailbox { s with queue := rest } z hcb
      refine hs.keep hparams (fun hin => ?_) hreg
      rw [hqueue] at hin
      exact hrest hin
  | alarm =>
    obtain ⟨-, rfl⟩ := step_alarm h
    have hgrows : Grows s (steeringFinished { s with alarms := s.alarms - 1 }) :=
      (Extends.refl s.log).concat trivial
    exact hs.keep rfl id hgrows.registered_eq
  | tick =>
    obtain rfl | ⟨t, rfl⟩ := step_tick h
    · -- a reboot empties the queue
      have hreg : Coordinator.registered (boot false s.log).log =
          Coordinator.registered s.log := by
        simp [boot, Coordinator.registered, List.filterMap_append, Entry.pair]
      exact ⟨fun hq => absurd hq List.not_mem_nil, fun p hp => hs.registered p (hreg ▸ hp)⟩
    · exact hs.keep rfl id rfl

/-- A reboot timer that is left alone reboots the device. -/
theorem run_ticks {dev : Bool} {n : ℕ} (ht : s.rebootTimer = some (n + 1)) :
    Run (Fires (step dev)) s (List.replicate (n + 1) .tick) (boot dev s.log) := by
  induction n generalizing s with
  | zero =>
    apply run_of_exec
    simp [exec, step, tick, ht]
  | succ n ih =>
    have hfirst : Run (Fires (step dev)) s [.tick] { s with rebootTimer := some (n + 1) } := by
      apply run_of_exec
      simp [exec, step, tick, ht]
    exact hfirst.append (ih rfl)

end ZigbeeGateway.Coordinator

namespace ZigbeeGateway.EndDevice
open CStrings InstallCode PairingCommand Histories Bmp180

def addCommandLine (ops : List UInt8) : List UInt8 :=
  text "║   ic_add " ++ ops ++ text "  ║\n"

/-- The operands stand on the display. -/
def Shown (log : List Entry) (ops : List UInt8) : Prop := .printk (addCommandLine ops) ∈ log

def Entry.Plain : Entry → Prop
  | .icSet _ => False
  | .printk out => out.head? ≠ some 0xE2
  | _ => True

/-- What an event does to the display and to the pairing parameters. -/
inductive SessionStep (cfg : Config) (s : State) : Event → State → Prop
  | plain {e : Event} {s' : State} : Extends Entry.Plain s.log s'.log →
      s'.gIcSetParams = s.gIcSetParams → (.icSetCallback ∈ s'.queue → .icSetCallback ∈ s.queue) →
      SessionStep cfg s e s'
  | accepted {line : Buffer} {p : IcParams} {s' : State} :
      icCommand (text "ic_set ") s.gIcSetParams line = .accepted p →
      Extends Entry.Plain s.log s'.log → s'.gIcSetParams = p →
      SessionStep cfg s (.uartLine line) s'
  | sets (reply : List UInt8) {env : Env} {s' : State} : .icSetCallback ∈ s.queue →
      reply.head? ≠ some 0xE2 →
      s'.log = s.log ++ [.icSet s.gIcSetParams.ic, .printk reply] →
      s'.gIcSetParams = s.gIcSetParams → (.icSetCallback ∈ s'.queue → .icSetCallback ∈ s.queue) →
      SessionStep cfg s (.callback env) s'
  | shows {status : ℤ} {bufid : ℕ} {env : Env} {s' : State} {l : List Entry} :
      Extends Entry.Plain s.log l →
      s'.log = l ++ (printProductionPairingCommands cfg.selfIeee env.randomKey).map .printk ++
        [.bufFree bufid] →
      s'.gIcSetParams = s.gIcSetParams → s'.queue = s.queue →
      SessionStep cfg s (.signal .deviceFirstStart status bufid env) s'
  | reboot {e : Event} (answers : ℕ → Answer) : SessionStep cfg s e (boot cfg answers s.log)

variable {cfg : Config} {s s' : State}

theorem printk_plain {l : List Entry} {out : List UInt8} (h : Extends Entry.Plain l s.log)
    (hout : out.head? ≠ some 0xE2) : Extends Entry.Plain l (s.printk out).log := h.concat hout

theorem parseUartCommand_plain (cfg : Config) (s : State) (line : Buffer) :
    Extends Entry.Plain s.log (parseUartCommand cfg s line).log := by
  have hecho : Extends Entry.Plain s.log
      (s.printk (text "Parsed UART Command: '" ++ cstr line ++ text "'\n")).log :=
    printk_plain (.refl _) (by decide : (some 80 : Option UInt8) ≠ some 0xE2)
  unfold parseUartCommand
  generalize s.printk (text "Parsed UART Command: '" ++ cstr line ++ text "'\n") = t at hecho
  dsimp only
  split
  · exact printk_plain hecho (by decide)
  · exact hecho
  · split_ifs
    · exact hecho
    · exact printk_plain hecho (by decide)
    · exact printk_plain hecho (by decide)
    · exact printk_plain hecho (by decide : (some 68 : Option UInt8) ≠ some 0xE2)
    · exact hecho

theorem parseUartCommand_session (s : State) (line : Buffer) :
    SessionStep cfg s (.uartLine line) (parseUartCommand cfg s line) := by
  have hlog := parseUartCommand_plain cfg s line
  by_cases haccepted : ∃ p, icCommand (text "ic_set ") s.gIcSetParams line = .accepted p
  · obtain ⟨p, hp⟩ := haccepted
    refine .accepted hp hlog ?_
    rw [parseUartCommand_accepted hp]
    rfl
  · obtain ⟨hparams, cbs, hqueue, hcbs⟩ := parseUartCommand_refused (not_exists.mp haccepted) cfg
    refine .plain hlog hparams ?_
    rw [hqueue, List.mem_append]
    exact fun hq => hq.resolve_right hcbs

theorem runCallback_session {env : Env} {cb : Callback} {rest : List Callback}
    (hq : s.queue = cb :: rest) :
    SessionStep cfg s (.callback env) (runCallback cfg { s with queue := rest } env cb) := by
  have hrest : .icSetCallback ∈ rest → Callback.icSetCallback ∈ s.queue := by
    rw [hq]
    exact List.mem_cons_of_mem _
  cases cb with
  | zbTriggerTempReport =>
    simp only [runCallback, zbTriggerTempReport]
    split_ifs <;> exact .plain (.refl _) rfl hrest
  | icSetCallback =>
    simp only [runCallback, icSetCallback]
    have hin : Callback.icSetCallback ∈ s.queue := hq ▸ List.mem_cons_self
    split_ifs
    · exact .sets (text "ic_set_success\n") hin (by decide)
        (List.append_assoc _ _ _) rfl hrest
    · exact .sets (text "ic_set_failed: " ++ text (toString env.icSetStatus) ++ text "\n")
        hin (by decide : (some 105 : Option UInt8) ≠ some 0xE2) (List.append_assoc _ _ _) rfl hrest
  | joinCallback =>
    have hcomm : Extends Entry.Plain s.log (s.emit (.commissioning env.permit)).log :=
      (Extends.refl _).concat trivial
    simp only [runCallback, joinCallback]
    split_ifs
    · exact .plain (printk_plain hcomm (by decide)) rfl hrest
    · exact .plain (printk_plain hcomm (by decide)) rfl hrest
  | factoryResetHandler =>
    refine .plain ⟨[.resetViaLocalAction, .timerInit s.rebootTimer.isSome, .timerStart 1000],
      ?_, ?_⟩ rfl hrest
    · simp [runCallback, factoryResetHandler, State.emit]
    · simp [Entry.Plain]
  | rebootHandler => exact .reboot env.answers

theorem release_plain {l : List Entry} (h : Extends Entry.Plain l s.log) (bufid : ℕ) :
    Extends Entry.Plain l (s.release bufid).log := by
  unfold State.release
  split
  · exact h.concat trivial
  · exact h

theorem release_keeps (s : State) (bufid : ℕ) :
    (s.release bufid).gIcSetParams = s.gIcSetParams ∧ (s.release bufid).queue = s.queue := by
  unfold State.release
  split <;> exact ⟨rfl, rfl⟩

/-- In the production build a signal prints the pairing commands on the first
start and touches neither display nor parameters otherwise. -/
theorem signal_session (hprod : cfg.developmentSecurity = false) (sig : Signal) (status : ℤ)
    (bufid : ℕ) (env : Env) :
    SessionStep cfg s (.signal sig status bufid env)
      (zbossSignalHandler cfg (s.emit (.signal sig status bufid)) env sig status bufid) := by
  have hled : Extends Entry.Plain s.log
      (((s.emit (.signal sig status bufid)).emit (.ledStatusUpdate bufid)).log) :=
    ((Extends.refl s.log).concat (a := .signal sig status bufid) trivial).concat trivial
  -- the common exit, whatever the flag and the LED are
  have hexit : ∀ t : State, t.log = ((s.emit (.signal sig status bufid)).emit
      (.ledStatusUpdate bufid)).log ++ [.defaultSignalHandler bufid] →
      t.gIcSetParams = s.gIcSetParams → t.queue = s.queue →
      SessionStep cfg s (.signal sig status bufid env) (t.release bufid) := by
    intro t hlog hparams hqueue
    have hplain : Extends Entry.Plain s.log t.log := hlog ▸ hled.concat trivial
    obtain ⟨hparams', hqueue'⟩ := release_keeps t bufid
    refine .plain (release_plain hplain bufid) (hparams'.trans hparams) ?_
    rw [hqueue', hqueue]
    exact id
  cases sig <;> simp only [zbossSignalHandler, hprod, Bool.false_eq_true, if_false]
  case deviceFirstStart =>
    rw [foldl_printk]
    exact .shows hled rfl rfl rfl
  case deviceReboot => split_ifs <;> exact hexit _ rfl rfl rfl
  case steering => split_ifs <;> exact hexit _ rfl rfl rfl
  case leave => exact hexit _ rfl rfl rfl
  case other => exact hexit _ rfl rfl rfl

theorem step_session {e : Event} (hprod : cfg.developmentSecurity = false)
    (h : step cfg s e = some s') : SessionStep cfg s e s' := by
  cases e with
  | signal sig status bufid env =>
    obtain ⟨-, h⟩ := Option.ite_none_left_eq_some.mp h
    obtain rfl := Option.some.inj h
    exact signal_session hprod sig status bufid env
  | rtcInterrupt err isCompareEvent =>
    obtain rfl := Option.some.inj h
    unfold rtc2Isr
    split
    · exact .plain ⟨_, rfl, by simp [Entry.Plain]⟩ rfl id
    · exact .plain (.refl _) rfl id
  | work =>
    obtain ⟨-, h⟩ := Option.ite_none_right_eq_some.mp h
    obtain rfl := Option.some.inj h
    exact .plain (.refl _) rfl (by simp [rtcWorkHandler, State.schedule])
  | callback env =>
    obtain ⟨cb, rest, hq, rfl⟩ := step_callback h
    exact runCallback_session hq
  | grant bufid tempRaw env =>
    obtain ⟨-, h⟩ := Option.ite_none_right_eq_some.mp h
    obtain rfl := Option.some.inj h
    have hgranted : Extends Entry.Plain s.log (s.log ++ [.granted bufid]) :=
      (Extends.refl _).concat trivial
    unfold sendTemperatureCb
    dsimp only
    split_ifs
    · exact .plain (hgranted.concat trivial) rfl id
    · exact .plain (hgranted.concat trivial) rfl id
  | confirm bufid status =>
    obtain ⟨-, h⟩ := Option.ite_none_right_eq_some.mp h
    obtain rfl := Option.some.inj h
    have hconfirmed : Extends Entry.Plain s.log (s.log ++ [.confirmed bufid status]) :=
      (Extends.refl _).concat trivial
    exact .plain (hconfirmed.concat trivial) rfl id
  | uartLine line =>
    obtain rfl := Option.some.inj h
    exact parseUartCommand_session s line
  | tick env =>
    obtain rfl | ⟨t, rfl⟩ := step_tick h
    · exact .reboot env.answers
    · exact .plain (.refl _) rfl id

theorem addCommandLine_take (ops : List UInt8) :
    (addCommandLine ops).take 13 = text "║   ic_add " := by
  rw [addCommandLine, List.append_assoc]
  exact List.take_left' (by decide)

theorem addCommandLine_injective {ops ops' : List UInt8}
    (h : addCommandLine ops = addCommandLine ops') : ops = ops' :=
  List.append_cancel_left (List.append_cancel_right h)

/-- Of the lines of a print-out one is a command for the coordinator. -/
theorem mem_printed {selfIeee : IeeeAddr} {key : Key} {ops : List UInt8}
    (h : addCommandLine ops ∈ printProductionPairingCommands selfIeee key) :
    ops = operandText selfIeee key := by
  have hother : ∀ line : List UInt8, line.take 13 ≠ text "║   ic_add " →
      addCommandLine ops ≠ line := by
    rintro line hline rfl
    exact hline (addCommandLine_take ops)
  have hne : List.ofFn (installCode key) ≠ [] := by simp
  have hset : ∀ x : List UInt8, (text "║   ic_set " ++ x).take 13 = text "║   ic_set " :=
    fun x => List.take_left' (by decide)
  unfold printProductionPairingCommands at h
  rw [cstr_ieeeStr, cstr_icStr _ hne] at h
  simp only [List.mem_cons, List.not_mem_nil, or_false] at h
  rcases h with h | h | h | h | h | hadd | h | h | h | hset' | h | h | h | h | h | h | h | h
  case inr.inr.inr.inr.inr.inl =>
    apply addCommandLine_injective
    rw [hadd, addCommandLine, operandText]
    simp only [List.append_assoc]
  case inr.inr.inr.inr.inr.inr.inr.inr.inr.inl =>
    refine absurd hset' (hother _ ?_)
    simp only [List.append_assoc]
    rw [hset]
    decide
  all_goals exact absurd h (hother _ (by decide +kernel))

theorem addCommandLine_not_plain (ops : List UInt8) :
    ¬(Entry.printk (addCommandLine ops)).Plain := by
  intro h
  exact h rfl

theorem shown_of_plain {l l' : List Entry} {ops : List UInt8} (h : Extends Entry.Plain l l')
    (hshown : Shown l' ops) : Shown l ops := by
  obtain ⟨m, rfl, hm⟩ := h
  rcases List.mem_append.mp hshown with hin | hin
  · exact hin
  · exact absurd (hm _ hin) (addCommandLine_not_plain ops)

/-- A command is shown from before, or it is in the print-out of this event. -/
theorem SessionStep.shown {e : Event} (h : SessionStep cfg s e s') {ops : List UInt8}
    (hshown : Shown s'.log ops) :
    Shown s.log ops ∨ ∃ key, ops = operandText cfg.selfIeee key := by
  cases h with
  | plain hlog => exact .inl (shown_of_plain hlog hshown)
  | accepted _ hlog => exact .inl (shown_of_plain hlog hshown)
  | @sets reply env _ _ hreply hlog =>
    left
    rw [Shown, hlog, List.mem_append] at hshown
    rcases hshown with hin | hin
    · exact hin
    · simp only [List.mem_cons, List.not_mem_nil, or_false, reduceCtorEq, false_or,
        Entry.printk.injEq] at hin
      exact absurd rfl (hin ▸ hreply)
  | shows hl hlog =>
    rw [Shown, hlog, List.mem_append, List.mem_append] at hshown
    rcases hshown with (hin | hin) | hin
    · exact .inl (shown_of_plain hl hin)
    · obtain ⟨line, hline, heq⟩ := List.mem_map.mp hin
      obtain rfl := Entry.printk.inj heq
      exact .inr ⟨_, mem_printed hline⟩
    · simp at hin
  | reboot answers =>
    left
    have hplain : Extends Entry.Plain s.log (boot cfg answers s.log).log :=
      (Extends.refl _).concat trivial
    exact shown_of_plain hplain hshown

theorem SessionStep.log_prefix {e : Event} (h : SessionStep cfg s e s') : s.log <+: s'.log := by
  have hextends : ∀ {l}, Extends Entry.Plain s.log l → s.log <+: l := by
    rintro l ⟨m, rfl, -⟩
    exact List.prefix_append _ _
  cases h with
  | plain hlog => exact hextends hlog
  | accepted _ hlog => exact hextends hlog
  | sets _ _ _ hlog =>
    rw [hlog]
    exact List.prefix_append _ _
  | shows hl hlog =>
    rw [hlog, List.append_assoc]
    exact (hextends hl).trans (List.prefix_append _ _)
  | reboot answers => exact List.prefix_append _ _

structure State.Sets (P : Code → Prop) (s : State) : Prop where
  queued : .icSetCallback ∈ s.queue → P s.gIcSetParams.ic
  set : ∀ ic ∈ codesSet s.log, P ic

variable {P Q : Code → Prop}

theorem State.Sets.mono (h : s.Sets P) (hPQ : ∀ ic, P ic → Q ic) : s.Sets Q :=
  ⟨fun hq => hPQ _ (h.queued hq), fun ic hic => hPQ ic (h.set ic hic)⟩

theorem codesSet_of_plain {l l' : List Entry} (h : Extends Entry.Plain l l') :
    codesSet l' = codesSet l := by
  apply Extends.filterMap_eq
  apply h.mono
  intro e he
  cases e <;> first | rfl | exact he.elim

/-- In the production build a code that is set is one that an accepted line has
brought. -/
theorem SessionStep.sets_of {e : Event} (h : SessionStep cfg s e s') (hs : s.Sets P)
    (hline : ∀ line p, e = .uartLine line →
      icCommand (text "ic_set ") s.gIcSetParams line = .accepted p → P p.ic) : s'.Sets P := by
  cases h with
  | plain hlog hparams hqueue =>
    refine ⟨fun hq => hparams ▸ hs.queued (hqueue hq), ?_⟩
    rw [codesSet_of_plain hlog]
    exact hs.set
  | accepted hp hlog hparams =>
    refine ⟨fun _ => hparams ▸ hline _ _ rfl hp, ?_⟩
    rw [codesSet_of_plain hlog]
    exact hs.set
  | sets _ hin _ hlog hparams hqueue =>
    refine ⟨fun hq => hparams ▸ hs.queued (hqueue hq), ?_⟩
    intro ic hic
    rw [hlog, codesSet, List.filterMap_append, List.mem_append] at hic
    rcases hic with hic | hic
    · exact hs.set ic hic
    · obtain rfl : ic = s.gIcSetParams.ic := by simpa [Entry.code] using hic
      exact hs.queued hin
  | shows hl hlog hparams hqueue =>
    refine ⟨fun hq => hparams ▸ hs.queued (hqueue ▸ hq), ?_⟩
    rw [hlog, codesSet, List.filterMap_append, List.filterMap_append, List.filterMap_map]
    have hnone : ∀ lines : List (List UInt8),
        lines.filterMap (Entry.code ∘ Entry.printk) = [] := by
      intro lines
      exact List.filterMap_eq_nil_iff.mpr fun _ _ => rfl
    have hset := hs.set
    rw [← codesSet_of_plain hl] at hset
    simpa [hnone, Entry.code, codesSet] using hset
  | reboot answers =>
    refine ⟨fun hq => absurd hq List.not_mem_nil, fun ic hic => hs.set ic ?_⟩
    have hplain : Extends Entry.Plain s.log (boot cfg answers s.log).log :=
      (Extends.refl _).concat trivial
    rwa [codesSet_of_plain hplain] at hic

end ZigbeeGateway.EndDevice

namespace ZigbeeGateway.PairingSession
open CStrings InstallCode PairingCommand Histories EndDevice

def Typed (es : List Coordinator.Event) (p : IcParams) : Prop :=
  ∃ line, .uartLine line ∈ es ∧ icCommand (text "ic_add ") .zero line = .accepted p

def TypedCode (es : List EndDevice.Event) (ic : Code) : Prop :=
  ∃ line p, .uartLine line ∈ es ∧ icCommand (text "ic_set ") .zero line = .accepted p ∧ p.ic = ic

/-- A refused command, one that is registered, a factory reset, and one that is
still queued at the reboot. -/
def untilReset : List Coordinator.Event :=
  [.signal .deviceFirstStart 0 7 .willing, .uartLine (text "ic_add 12" ++ [0]),
    InstallCodeQueue.addLine 48, .uartLine FactoryReset.resetLine, .callback .willing,
    .callback .willing, InstallCodeQueue.addLine 49]

/-- A refused command, one that is set, a reboot, one that the reboot drops, and
one after it. -/
def rebootInBetween : List EndDevice.Event :=
  [.signal .deviceFirstStart 0 3 .working, .uartLine (text "ic_set 12" ++ [0]),
    InstallCodeQueue.setLine 48, .callback .working, .rtcInterrupt 0 true,
    .uartLine (text "reboot" ++ [0]), InstallCodeQueue.setLine 49, .callback .working,
    InstallCodeQueue.setLine 50, .callback .working]

structure System where
  coordinator : Coordinator.State
  device : EndDevice.State

inductive Event
  | coordinator (e : Coordinator.Event)
  | device (e : EndDevice.Event)

/-- An event of one of the two devices; the coordinator runs the production
build. -/
def step (cfg : Config) (s : System) : Event → Option System
  | .coordinator e =>
    (Coordinator.step false s.coordinator e).map fun c => { s with coordinator := c }
  | .device e => (EndDevice.step cfg s.device e).map fun d => { s with device := d }

def powerUp (cfg : Config) (answers : ℕ → Bmp180.Answer) : System :=
  ⟨Coordinator.boot false [], EndDevice.boot cfg answers []⟩

def Copied (keyword : List UInt8) (log : List Entry) (line : Buffer) : Prop :=
  ∃ ops stale, Shown log ops ∧ line = keyword ++ ops ++ 0 :: stale

/-- The operator makes up no pairing command; anything else may be typed. -/
def Guided (s : System) : Event → Prop
  | .coordinator (.uartLine line) =>
    (∃ p, icCommand (text "ic_add ") .zero line = .accepted p) →
      Copied (text "ic_add ") s.device.log line
  | .device (.uartLine line) =>
    (∃ p, icCommand (text "ic_set ") .zero line = .accepted p) →
      Copied (text "ic_set ") s.device.log line
  | _ => True

def Offered (cfg : Config) (log : List Entry) (ic : Code) : Prop :=
  ∃ key, ic = installCode key ∧ Shown log (operandText cfg.selfIeee key)

/-- What is shown, queued and done comes from print-outs of the end device. -/
structure System.Paired (cfg : Config) (s : System) : Prop where
  shown : ∀ ops, Shown s.device.log ops → ∃ key, ops = operandText cfg.selfIeee key
  coordinator : s.coordinator.Registers fun p =>
    p.addr = cfg.selfIeee ∧ Offered cfg s.device.log p.ic
  device : s.device.Sets (Offered cfg s.device.log)

variable {cfg : Config} {answers : ℕ → Bmp180.Answer}

theorem Offered.mono {l l' : List Entry} {ic : Code} (h : Offered cfg l ic) (hl : l <+: l') :
    Offered cfg l' ic := by
  obtain ⟨key, hic, hshown⟩ := h
  exact ⟨key, hic, hl.subset hshown⟩

theorem copied_accepted {keyword : List UInt8} (hk : keyword.length = 7 ∧ 0 ∉ keyword)
    {log : List Entry} {line : Buffer} {old p : IcParams} (hcopied : Copied keyword log line)
    (hshown : ∀ ops, Shown log ops → ∃ key, ops = operandText cfg.selfIeee key)
    (hp : icCommand keyword old line = .accepted p) :
    p.addr = cfg.selfIeee ∧ Offered cfg log p.ic := by
  obtain ⟨ops, stale, hops, rfl⟩ := hcopied
  obtain ⟨key, rfl⟩ := hshown ops hops
  rw [icCommand_operands hk.1 hk.2, readOperands_operandText] at hp
  obtain rfl := IcLine.accepted.inj hp
  exact ⟨rfl, key, rfl, hops⟩

theorem step_paired (hprod : cfg.developmentSecurity = false) {s s' : System} {e : Event}
    (hs : s.Paired cfg) (hguided : Guided s e) (h : step cfg s e = some s') : s'.Paired cfg := by
  cases e with
  | coordinator e =>
    obtain ⟨c, hc, rfl⟩ := Option.map_eq_some_iff.mp h
    refine ⟨hs.shown, Coordinator.step_registers hs.coordinator hc ?_, hs.device⟩
    rintro line p rfl hp
    rw [icCommand_old _ _ .zero] at hp
    exact copied_accepted icAdd_keyword (hguided ⟨p, hp⟩) hs.shown hp
  | device e =>
    obtain ⟨d, hd, rfl⟩ := Option.map_eq_some_iff.mp h
    have hstep := step_session hprod hd
    have hlog := hstep.log_prefix
    refine ⟨fun ops hops => ?_, hs.coordinator.mono fun p hp => ⟨hp.1, hp.2.mono hlog⟩, ?_⟩
    · exact (hstep.shown hops).elim (hs.shown ops) id
    · refine State.Sets.mono (hstep.sets_of hs.device ?_) fun ic hic => hic.mono hlog
      rintro line p rfl hp
      rw [icCommand_old _ _ .zero] at hp
      exact (copied_accepted icSet_keyword (hguided ⟨p, hp⟩) hs.shown hp).2

theorem powerUp_paired : (powerUp cfg answers).Paired cfg := by
  refine ⟨fun ops hops => ?_, ⟨fun hq => ?_, fun p hp => ?_⟩, ⟨fun hq => ?_, fun ic hic => ?_⟩⟩
  · exact absurd hops (by simp [Shown, powerUp, boot])
  · exact absurd hq List.not_mem_nil
  · exact absurd hp (by simp [powerUp, Coordinator.boot, Coordinator.registered,
      Coordinator.Entry.pair])
  · exact absurd hq List.not_mem_nil
  · exact absurd hic (by simp [powerUp, boot, codesSet, Entry.code])

theorem run_paired (hprod : cfg.developmentSecurity = false) {es : List Event} {s : System}
    (h : Run (When Guided (Fires (step cfg))) (powerUp cfg answers) es s) : s.Paired cfg := by
  apply h.invariant powerUp_paired
  intro s e s' hs hstep
  exact step_paired hprod hs hstep.1 hstep.2

theorem operandText_injective {selfIeee : IeeeAddr} {key key' : Key}
    (h : operandText selfIeee key = operandText selfIeee key') :
    installCode key = installCode key' := by
  have hread := congrArg readOperands h
  rw [readOperands_operandText, readOperands_operandText] at hread
  exact congrArg IcParams.ic (IcLine.accepted.inj hread)

section Typing

variable {s : System}

def addEvents (cfg : Config) (key : Key) (z : Coordinator.Zboss) : List Event :=
  [.coordinator (.uartLine (text "ic_add " ++ operandText cfg.selfIeee key ++ [0])),
    .coordinator (.callback z)]

def setEvents (cfg : Config) (key : Key) (env : Env) : List Event :=
  [.device (.uartLine (text "ic_set " ++ operandText cfg.selfIeee key ++ [0])),
    .device (.callback env)]

theorem run_addEvents (cfg : Config) (key : Key)
    (hshown : Shown s.device.log (operandText cfg.selfIeee key))
    (hidle : s.coordinator.queue = []) (z : Coordinator.Zboss) :
    ∃ c, Run (When Guided (Fires (step cfg))) s (addEvents cfg key z) { s with coordinator := c } ∧
      c.log = s.coordinator.log ++ Coordinator.icAddEntries ⟨cfg.selfIeee, installCode key⟩
        (z.permit && s.coordinator.bdb.isNone) := by
  have hread := (icCommand_operands icAdd_keyword.1 icAdd_keyword.2 s.coordinator.gIcAddParams
    (operandText cfg.selfIeee key) []).trans (readOperands_operandText _ _)
  let c : Coordinator.State :=
    { s.coordinator with gIcAddParams := ⟨cfg.selfIeee, installCode key⟩ }
  have hguided : Guided s
      (.coordinator (.uartLine (text "ic_add " ++ operandText cfg.selfIeee key ++ [0]))) :=
    fun _ => ⟨_, [], hshown, rfl⟩
  have hline : step cfg s
      (.coordinator (.uartLine (text "ic_add " ++ operandText cfg.selfIeee key ++ [0]))) =
        some { s with coordinator := c.schedule .icAddCallback } := by
    simp only [step, Coordinator.step, Coordinator.parseUartCommand_accepted hread,
      Option.map_some, c]
  have hcallback : step cfg { s with coordinator := c.schedule .icAddCallback }
      (.coordinator (.callback z)) =
        some { s with coordinator := Coordinator.icAddCallback { c with queue := [] } z } := by
    have hqueue : (c.schedule .icAddCallback).queue = [.icAddCallback] := by
      simp [c, Coordinator.State.schedule, hidle]
    simp only [step, Coordinator.step, hqueue, Option.map_some, Coordinator.runCallback]
    rfl
  refine ⟨_, (Run.concat .nil ⟨hguided, hline⟩).concat ⟨trivial, hcallback⟩, ?_⟩
  exact Coordinator.icAddCallback_log { c with queue := [] } z

theorem run_setEvents (cfg : Config) (key : Key)
    (hshown : Shown s.device.log (operandText cfg.selfIeee key))
    (hidle : s.device.queue = []) (env : Env) :
    ∃ d, Run (When Guided (Fires (step cfg))) s (setEvents cfg key env) { s with device := d } ∧
      codesSet d.log = codesSet s.device.log ++ [installCode key] ∧ d.queue = [] := by
  have hread := (icCommand_operands icSet_keyword.1 icSet_keyword.2 s.device.gIcSetParams
    (operandText cfg.selfIeee key) []).trans (readOperands_operandText _ _)
  have hparse := parseUartCommand_accepted hread cfg
  have hcodes := codesSet_of_plain (parseUartCommand_plain cfg s.device
    (text "ic_set " ++ operandText cfg.selfIeee key ++ [0]))
  have hqueue : (parseUartCommand cfg s.device
      (text "ic_set " ++ operandText cfg.selfIeee key ++ [0])).queue = [.icSetCallback] := by
    rw [hparse]
    simp [State.schedule, State.printk, State.emit, hidle]
  have hparams : (parseUartCommand cfg s.device
      (text "ic_set " ++ operandText cfg.selfIeee key ++ [0])).gIcSetParams.ic =
        installCode key := by
    rw [hparse]
    rfl
  generalize hd : parseUartCommand cfg s.device
    (text "ic_set " ++ operandText cfg.selfIeee key ++ [0]) = d at *
  have hguided : Guided s
      (.device (.uartLine (text "ic_set " ++ operandText cfg.selfIeee key ++ [0]))) :=
    fun _ => ⟨_, [], hshown, rfl⟩
  have hline : step cfg s
      (.device (.uartLine (text "ic_set " ++ operandText cfg.selfIeee key ++ [0]))) =
        some { s with device := d } := by
    simp only [step, EndDevice.step, hd, Option.map_some]
  have hcallback : step cfg { s with device := d } (.device (.callback env)) =
      some { s with device := icSetCallback { d with queue := [] } env } := by
    simp only [step, EndDevice.step, hqueue, Option.map_some, runCallback]
  obtain ⟨-, hempty, hset⟩ := icSetCallback_mailbox { d with queue := [] } env
  refine ⟨_, (Run.concat .nil ⟨hguided, hline⟩).concat ⟨trivial, hcallback⟩, ?_, hempty⟩
  rw [hset, hcodes, hparams]

theorem exists_shown (hprod : cfg.developmentSecurity = false) (d : EndDevice.State) (bufid : ℕ)
    (hfree : bufid ∉ d.requestsInFlight) (env : Env) :
    ∃ d', EndDevice.step cfg d (.signal .deviceFirstStart 0 bufid env) = some d' ∧
      Shown d'.log (operandText cfg.selfIeee env.randomKey) ∧ d'.queue = d.queue := by
  refine ⟨_, if_neg hfree, ?_⟩
  have hprint := (printed_commands cfg.selfIeee env.randomKey).1
  simp only [zbossSignalHandler, hprod, Bool.false_eq_true, if_false, foldl_printk]
  refine ⟨?_, rfl⟩
  show Entry.printk _ ∈ (_ ++ (printProductionPairingCommands cfg.selfIeee env.randomKey).map
    .printk) ++ [.bufFree bufid]
  exact List.mem_append_left _ (List.mem_append_right _ (List.mem_map_of_mem hprint))

end Typing

def session : List Event :=
  [.device (.signal .deviceFirstStart 0 3 .working)] ++
    addEvents .production (fun _ => 0) .willing ++ setEvents .production (fun _ => 0) .working

end ZigbeeGateway.PairingSession
