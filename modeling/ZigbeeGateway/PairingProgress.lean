import ZigbeeGateway.PairingSession
import ZigbeeGateway.ReportProgress

namespace ZigbeeGateway.Coordinator
open Histories

def Zboss.unwilling : Zboss := ⟨true, false, false, true⟩

variable {s : State}

theorem runCallback_unwilling (s : State) (cb : Callback) :
    (runCallback s .unwilling cb).queue = s.queue ∧ (runCallback s .unwilling cb).bdb = s.bdb := by
  cases cb with
  | startIdentifying => exact ⟨rfl, rfl⟩
  | icAddCallback =>
    refine ⟨(icAddCallback_mailbox s .unwilling).2.1, ?_⟩
    simp [runCallback, icAddCallback, replySteering_eq, printAddr_eq, State.printk,
      State.bdbStart, Zboss.unwilling]
  | factoryResetHandler => exact ⟨rfl, rfl⟩
  | reopenSteeringCb =>
    simp [runCallback, reopenSteeringCb, replySteering_eq, State.alarmCancel, State.bdbStart,
      Zboss.unwilling]

theorem exists_drained (s : State) :
    ∃ s', Run (Fires (step false)) s (List.replicate s.queue.length (.callback .unwilling)) s' ∧
      s'.queue = [] ∧ s'.bdb = s.bdb := by
  generalize hn : s.queue = queue
  induction queue generalizing s with
  | nil => exact ⟨s, .nil, hn, rfl⟩
  | cons cb rest ih =>
    obtain ⟨hqueue, hbdb⟩ := runCallback_unwilling { s with queue := rest } cb
    obtain ⟨s', hr, hempty, hkeep⟩ := ih (runCallback { s with queue := rest } .unwilling cb) hqueue
    have hpop : step false s (.callback .unwilling) =
        some (runCallback { s with queue := rest } .unwilling cb) := by
      simp [step, hn]
    exact ⟨s', (Run.concat .nil hpop).append hr, hempty, hkeep.trans hbdb⟩

/-- A failure ends the commissioning in progress. -/
theorem exists_ended (s : State) :
    ∃ es s', Run (Fires (step false)) s es s' ∧ s'.bdb = none ∧
      ∀ e ∈ es, ∀ line, e ≠ .uartLine line := by
  cases hb : s.bdb with
  | none => exact ⟨[], s, .nil, hb, by simp⟩
  | some mode =>
    let sig : Signal := match mode with
      | .formation => .formation
      | .steering => .steering
    obtain ⟨s', hstep, hended⟩ :
        ∃ s', step false s (.signal sig (-1) 0 .unwilling) = some s' ∧ s'.bdb = none := by
      cases mode <;>
        simp [sig, step, deliver, hb, zbossSignalHandler, dispatchSignal, updateLed, RET_OK]
    exact ⟨[.signal sig (-1) 0 .unwilling], s', .concat .nil hstep, hended, by simp⟩

end ZigbeeGateway.Coordinator

namespace ZigbeeGateway.PairingSession
open CStrings InstallCode PairingCommand Histories EndDevice

section Lift

variable {cfg : Config} {c c' : Coordinator.State} {d d' : EndDevice.State}

theorem run_coordinator (cfg : Config) {es : List Coordinator.Event}
    (h : Run (Fires (Coordinator.step false)) c es c') (d : EndDevice.State)
    (hes : ∀ e ∈ es, ∀ line, e ≠ .uartLine line) :
    Run (When Guided (Fires (step cfg))) ⟨c, d⟩ (es.map .coordinator) ⟨c', d⟩ := by
  refine Run.map (g := fun c => (⟨c, d⟩ : System)) h fun c e c' he hs => ⟨?_, ?_⟩
  · cases e with
    | uartLine line => exact absurd rfl (hes _ he line)
    | _ => trivial
  · exact congrArg (Option.map fun c => (⟨c, d⟩ : System)) hs

theorem run_device {es : List EndDevice.Event} (h : Run (Fires (EndDevice.step cfg)) d es d')
    (c : Coordinator.State) (hes : ∀ e ∈ es, ∀ s, Guided s (.device e)) :
    Run (When Guided (Fires (step cfg))) ⟨c, d⟩ (es.map .device) ⟨c, d'⟩ := by
  refine Run.map (g := fun d => (⟨c, d⟩ : System)) h fun d e d' he hs => ⟨hes e he _, ?_⟩
  exact congrArg (Option.map fun d => (⟨c, d⟩ : System)) hs

end Lift

variable {cfg : Config}

def joinLine : Buffer := text "join" ++ [0]

theorem rebootLine_other : icCommand (text "ic_set ") .zero rebootLine = .other := rfl

theorem joinLine_other : icCommand (text "ic_set ") .zero joinLine = .other := rfl

theorem guided_other {line : Buffer} (h : icCommand (text "ic_set ") .zero line = .other)
    (s : System) : Guided s (.device (.uartLine line)) := by
  rintro ⟨p, hp⟩
  rw [h] at hp
  cases hp

/-- The command starts the join of an idle end device. -/
theorem exists_join (cfg : Config) (d : EndDevice.State) (hidle : d.queue = []) :
    ∃ d', Run (Fires (EndDevice.step cfg)) d [.uartLine joinLine, .callback .working] d' ∧
      codesSet d'.log = codesSet d.log ∧
      ∃ l, d'.log = l ++ [.commissioning true, .printk (text "join_started\n")] := by
  have hother : icCommand (text "ic_set ") d.gIcSetParams joinLine = .other :=
    (icCommand_old _ _ _ _).trans joinLine_other
  have hjoin : strcmp joinLine (text "join") = 0 := by decide
  -- the line is echoed first
  let t : EndDevice.State := d.printk (text "Parsed UART Command: '" ++ cstr joinLine ++ text "'\n")
  have hline : EndDevice.step cfg d (.uartLine joinLine) = some (t.schedule .joinCallback) := by
    simp [EndDevice.step, parseUartCommand, State.printk, State.emit, hother, hjoin, t]
  have hqueue : (t.schedule .joinCallback).queue = [.joinCallback] := by
    simp [t, State.schedule, State.printk, State.emit, hidle]
  have hcallback : EndDevice.step cfg (t.schedule .joinCallback) (.callback .working) =
      some (joinCallback { t with queue := [] } .working) := by
    simp only [EndDevice.step, hqueue]
    rfl
  have hlog : (joinCallback { t with queue := [] } .working).log =
      t.log ++ [.commissioning true, .printk (text "join_started\n")] := List.append_assoc _ _ _
  refine ⟨_, (Run.concat .nil hline).concat hcallback, ?_, _, hlog⟩
  rw [hlog]
  simp [t, State.printk, State.emit, codesSet, List.filterMap_append, Entry.code]

/-- From every state of the two devices there is a guided way, for every key that
the end device may draw, to the registration of its code at the coordinator with
steering started, and to an end device that has set this code and started to
join. -/
theorem pairing_recoverable (hprod : cfg.developmentSecurity = false) (s : System) (key : Key) :
    ∃ es s', Run (When Guided (Fires (step cfg))) s es s' ∧
      (∃ l, s'.coordinator.log =
        l ++ Coordinator.icAddEntries ⟨cfg.selfIeee, installCode key⟩ true) ∧
      (codesSet s'.device.log).getLast? = some (installCode key) ∧
      ∃ l, s'.device.log = l ++ [.commissioning true, .printk (text "join_started\n")] := by
  obtain ⟨c, d⟩ := s
  -- the end device goes back to its first start
  obtain ⟨d₁, hr₁, hmem, -⟩ := exists_typed cfg d
  obtain ⟨n, l, hr₂, -, -⟩ := exists_rebooted cfg .working hmem
  obtain ⟨d₂, hstart, hshown, hqueue⟩ := exists_shown hprod (boot cfg Env.working.answers l) 3
    List.not_mem_nil { Env.working with randomKey := key }
  have hreset : ∀ e ∈ [.uartLine rebootLine] ++ List.replicate n (.callback .working) ++
      [.signal .deviceFirstStart 0 3 { Env.working with randomKey := key }],
      ∀ s, Guided s (.device e) := by
    intro e he s
    rcases List.mem_append.mp he with he | he
    · rcases List.mem_append.mp he with he | he
      · obtain rfl := List.mem_singleton.mp he
        exact guided_other rebootLine_other s
      · obtain rfl := List.eq_of_mem_replicate he
        trivial
    · obtain rfl := List.mem_singleton.mp he
      trivial
  have hdevice := run_device ((hr₁.append hr₂).concat hstart) c hreset
  -- the coordinator comes to rest
  obtain ⟨es, c₁, hr₃, hbdb, hes⟩ := Coordinator.exists_ended c
  obtain ⟨c₂, hr₄, hidle, hkeep⟩ := Coordinator.exists_drained c₁
  have hrest : ∀ e ∈ es ++ List.replicate c₁.queue.length (.callback .unwilling),
      ∀ line, e ≠ .uartLine line := by
    intro e he
    rcases List.mem_append.mp he with he | he
    · exact hes e he
    · obtain rfl := List.eq_of_mem_replicate he
      simp
  have hcoordinator := run_coordinator cfg (hr₃.append hr₄) d₂ hrest
  -- the operator copies the two commands and starts the join
  obtain ⟨c₃, hadd, hlog⟩ := run_addEvents (s := ⟨c₂, d₂⟩) cfg key hshown hidle .willing
  obtain ⟨d₃, hset, hcodes, hidle'⟩ := run_setEvents (s := ⟨c₃, d₂⟩) cfg key hshown hqueue .working
  obtain ⟨d₄, hr₅, hcodes', hjoined⟩ := exists_join cfg d₃ hidle'
  have htyped : ∀ e ∈ [.uartLine joinLine, .callback .working], ∀ s, Guided s (.device e) := by
    intro e he s
    rcases List.mem_cons.mp he with rfl | he
    · exact guided_other joinLine_other s
    · obtain rfl := List.mem_singleton.mp he
      trivial
  have hjoin := run_device hr₅ c₃ htyped
  refine ⟨_, ⟨c₃, d₄⟩, (((hdevice.append hcoordinator).append hadd).append hset).append hjoin,
    ⟨c₂.log, ?_⟩, ?_, hjoined⟩
  · simpa [Coordinator.Zboss.willing, hkeep, hbdb] using hlog
  · simp [hcodes', hcodes]

theorem pairing_recoverable_powerUp :
    ∃ es s', Run (When Guided (Fires (step .production)))
        (powerUp .production Env.working.answers) es s' ∧
      (∃ l, s'.coordinator.log = l ++ Coordinator.icAddEntries
        ⟨Config.production.selfIeee, installCode fun _ => 0xAB⟩ true) ∧
      (codesSet s'.device.log).getLast? = some (installCode fun _ => 0xAB) ∧
      ∃ l, s'.device.log = l ++ [.commissioning true, .printk (text "join_started\n")] :=
  pairing_recoverable rfl _ _

end ZigbeeGateway.PairingSession
