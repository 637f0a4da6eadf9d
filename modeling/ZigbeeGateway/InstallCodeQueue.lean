import ZigbeeGateway.Coordinator
import ZigbeeGateway.EndDevice
import ZigbeeGateway.OneSlotMailbox

namespace ZigbeeGateway.Coordinator
open CStrings InstallCode PairingCommand Histories OneSlotMailbox

def Event.isConsole : Event → Bool
  | .uartLine _ | .callback _ => true
  | _ => false

def acceptedAdds (es : List Event) : List IcParams :=
  es.filterMap fun
    | .uartLine line => (icCommand (text "ic_add ") .zero line).params
    | _ => none

/-- An accepted `ic_add` finds no registration in the queue, or has the operands
of the command before. -/
def icAddSafe (s : State) : Event → Bool
  | .uartLine line =>
    match icCommand (text "ic_add ") s.gIcAddParams line with
    | .accepted p => .icAddCallback ∉ s.queue ∨ s.gIcAddParams = p
    | _ => true
  | _ => true

/-- The global block with the registrations that wait for it. -/
def mailbox (es : List Event) (s : State) : Mailbox IcParams :=
  ⟨s.gIcAddParams, s.queue.count .icAddCallback, acceptedAdds es, registered s.log⟩

theorem acceptedAdds_concat_line (es : List Event) (s : State) (line : Buffer) :
    acceptedAdds (es ++ [.uartLine line]) = acceptedAdds es ++
      (icCommand (text "ic_add ") s.gIcAddParams line).params.toList := by
  rw [icCommand_old _ s.gIcAddParams .zero, acceptedAdds, List.filterMap_append, acceptedAdds]
  cases h : (icCommand (text "ic_add ") .zero line).params <;> simp [h]

theorem acceptedAdds_concat_callback (es : List Event) (z : Zboss) :
    acceptedAdds (es ++ [.callback z]) = acceptedAdds es := by
  simp [acceptedAdds, List.filterMap_append]

theorem mailbox_uartLine (es : List Event) (s : State) (line : Buffer) :
    (mailbox es s).Move (icAddSafe s (.uartLine line) = true)
      (mailbox (es ++ [.uartLine line]) (parseUartCommand s line)) := by
  have hreg := (parseUartCommand_grows s line).registered_eq
  simp only [icAddSafe]
  unfold mailbox
  rw [acceptedAdds_concat_line es s line, hreg]
  cases hline : icCommand (text "ic_add ") s.gIcAddParams line with
  | accepted p =>
    have hcount : (s.queue ++ [Callback.icAddCallback]).count .icAddCallback =
        s.queue.count .icAddCallback + 1 := by simp [List.count_append]
    rw [parseUartCommand_accepted hline]
    simp only [State.schedule, hcount]
    -- the block is overwritten, whoever waits for it
    apply Mailbox.Move.post
    simp [List.count_eq_zero]
  | other | invalid =>
    have hno : ∀ p, icCommand (text "ic_add ") s.gIcAddParams line ≠ .accepted p := by
      simp [hline]
    obtain ⟨hparams, cbs, hq, hcbs⟩ := parseUartCommand_refused hno
    rw [hparams, hq, List.count_append, List.count_eq_zero.mpr hcbs]
    simp only [IcLine.params, Option.toList_none, List.append_nil, Nat.add_zero]
    exact .keep trivial

theorem runCallback_mailbox (s : State) (z : Zboss) {cb : Callback} (hcb : cb ≠ .icAddCallback) :
    (runCallback s z cb).gIcAddParams = s.gIcAddParams ∧ (runCallback s z cb).queue = s.queue ∧
      registered (runCallback s z cb).log = registered s.log := by
  cases cb with
  | icAddCallback => exact absurd rfl hcb
  | startIdentifying =>
    refine ⟨?_, ?_, (startIdentifying_grows s z).registered_eq⟩
    all_goals
      simp only [runCallback, startIdentifying]
      split_ifs <;> rfl
  | factoryResetHandler => exact ⟨rfl, rfl, (factoryResetHandler_grows s).registered_eq⟩
  | reopenSteeringCb =>
    refine ⟨?_, ?_, (reopenSteeringCb_grows s z).registered_eq⟩
    all_goals
      simp only [runCallback, reopenSteeringCb, replySteering_eq]
      rfl

theorem icAddCallback_mailbox (s : State) (z : Zboss) :
    (icAddCallback s z).gIcAddParams = s.gIcAddParams ∧ (icAddCallback s z).queue = s.queue ∧
      registered (icAddCallback s z).log = registered s.log ++ [s.gIcAddParams] := by
  refine ⟨?_, ?_, ?_⟩
  · simp [icAddCallback, replySteering_eq, printAddr_eq, State.printk]
  · simp [icAddCallback, replySteering_eq, printAddr_eq, State.printk]
  · rw [icAddCallback_log, registered, List.filterMap_append]
    exact congrArg (registered s.log ++ ·) (registered_icAddEntries _ _)

theorem mailbox_callback {dev : Bool} {s s' : State} {z : Zboss}
    (h : step dev s (.callback z) = some s') (es : List Event) :
    (mailbox es s).Move (icAddSafe s (.callback z) = true) (mailbox (es ++ [.callback z]) s') := by
  obtain ⟨cb, rest, hq, rfl⟩ := step_callback h
  unfold mailbox
  rw [acceptedAdds_concat_callback, hq]
  by_cases hcb : cb = .icAddCallback
  · subst hcb
    obtain ⟨hparams, hqueue, hreg⟩ := icAddCallback_mailbox { s with queue := rest } z
    simp only [runCallback, hparams, hqueue, hreg, List.count_cons_self]
    exact .take rfl (Nat.succ_pos _)
  · obtain ⟨hparams, hqueue, hreg⟩ := runCallback_mailbox { s with queue := rest } z hcb
    simp only [hparams, hqueue, hreg, List.count_cons_of_ne hcb]
    exact .keep rfl

theorem mailbox_step {dev : Bool} {s s' : State} {e : Event} (he : e.isConsole = true)
    (h : step dev s e = some s') (es : List Event) :
    (mailbox es s).Move (icAddSafe s e = true) (mailbox (es ++ [e]) s') := by
  cases e with
  | uartLine line =>
    obtain rfl := Option.some.inj h
    exact mailbox_uartLine es s line
  | callback z => exact mailbox_callback h es
  | signal | buttons | alarm | tick => simp [Event.isConsole] at he

section Runs

variable {dev : Bool} {es : List Event} {s : State}

theorem run_mailbox_wellFormed
    (h : Run (When (fun _ e => e.isConsole = true) (Fires (step dev))) (boot dev []) es s) :
    (mailbox es s).WellFormed := by
  apply Run.history (P := fun es s => (mailbox es s).WellFormed) h
  · cases dev <;> exact ⟨le_rfl, fun h => absurd h (Nat.lt_irrefl 0)⟩
  · intro es s e s' _ hs hstep
    exact (mailbox_step hstep.1 hstep.2 es).wellFormed hs

/-- Once no registration is queued, the stack has been given the decoded pairs
in order exactly when every step of the run is safe. -/
theorem registered_iff
    (h : Run (When (fun _ e => e.isConsole = true) (Fires (step dev))) (boot dev []) es s)
    (hq : .icAddCallback ∉ s.queue) :
    registered s.log = acceptedAdds es ↔
      Run (When (fun s e => icAddSafe s e = true)
        (When (fun _ e => e.isConsole = true) (Fires (step dev)))) (boot dev []) es s := by
  have hempty : (mailbox es s).waiting = 0 := List.count_eq_zero.mpr hq
  refine (Mailbox.faithful_iff_of_empty hempty).symm.trans ?_
  apply Run.iff_when (P := fun es s => (mailbox es s).Faithful) h
  · cases dev <;> rfl
  · intro es s e s' hr hstep
    exact (mailbox_step hstep.1 hstep.2 es).faithful_iff (run_mailbox_wellFormed hr)

end Runs

end ZigbeeGateway.Coordinator

namespace ZigbeeGateway.EndDevice
open CStrings InstallCode PairingCommand Histories OneSlotMailbox

def Event.isConsole : Event → Bool
  | .uartLine _ | .callback _ => true
  | _ => false

def acceptedSets (es : List Event) : List Code :=
  es.filterMap fun
    | .uartLine line => (icCommand (text "ic_set ") .zero line).params.map IcParams.ic
    | _ => none

def Entry.code : Entry → Option Code
  | .icSet ic => some ic
  | _ => none

def codesSet (log : List Entry) : List Code := log.filterMap Entry.code

/-- An accepted `ic_set` finds no other in the queue, or has the code of the
command before; and the device does not reboot while one is queued. -/
def icSetSafe (s : State) : Event → Bool
  | .uartLine line =>
    match icCommand (text "ic_set ") s.gIcSetParams line with
    | .accepted p => .icSetCallback ∉ s.queue ∨ s.gIcSetParams.ic = p.ic
    | _ => true
  | .callback _ => s.queue.head? ≠ some .rebootHandler ∨ .icSetCallback ∉ s.queue
  | _ => true

def mailbox (es : List Event) (s : State) : Mailbox Code :=
  ⟨s.gIcSetParams.ic, s.queue.count .icSetCallback, acceptedSets es, codesSet s.log⟩

theorem acceptedSets_concat_line (es : List Event) (s : State) (line : Buffer) :
    acceptedSets (es ++ [.uartLine line]) = acceptedSets es ++
      ((icCommand (text "ic_set ") s.gIcSetParams line).params.map IcParams.ic).toList := by
  rw [icCommand_old _ s.gIcSetParams .zero, acceptedSets, List.filterMap_append, acceptedSets]
  cases h : (icCommand (text "ic_set ") .zero line).params <;> simp [h]

theorem acceptedSets_concat_callback (es : List Event) (env : Env) :
    acceptedSets (es ++ [.callback env]) = acceptedSets es := by
  simp [acceptedSets, List.filterMap_append]

theorem codesSet_concat (log : List Entry) (e : Entry) :
    codesSet (log ++ [e]) = codesSet log ++ e.code.toList := by
  rw [codesSet, List.filterMap_append, codesSet]
  cases h : e.code <;> simp [h]

theorem codesSet_printk (s : State) (out : List UInt8) :
    codesSet (s.printk out).log = codesSet s.log := by
  rw [State.printk, State.emit, codesSet_concat]
  exact List.append_nil _

theorem parseUartCommand_codes (cfg : Config) (s : State) (line : Buffer) :
    codesSet (parseUartCommand cfg s line).log = codesSet s.log := by
  unfold parseUartCommand
  rw [← codesSet_printk s (text "Parsed UART Command: '" ++ cstr line ++ text "'\n")]
  generalize s.printk (text "Parsed UART Command: '" ++ cstr line ++ text "'\n") = t
  dsimp only
  split
  · exact codesSet_printk t _
  · rfl
  · split_ifs
    · rfl
    · exact codesSet_printk t _
    · exact codesSet_printk t _
    · exact codesSet_printk t _
    · rfl

theorem mailbox_uartLine (cfg : Config) (es : List Event) (s : State) (line : Buffer) :
    (mailbox es s).Move (icSetSafe s (.uartLine line) = true)
      (mailbox (es ++ [.uartLine line]) (parseUartCommand cfg s line)) := by
  simp only [icSetSafe]
  unfold mailbox
  rw [acceptedSets_concat_line es s line, parseUartCommand_codes]
  cases hline : icCommand (text "ic_set ") s.gIcSetParams line with
  | accepted p =>
    have hcount : (s.queue ++ [Callback.icSetCallback]).count .icSetCallback =
        s.queue.count .icSetCallback + 1 := by simp [List.count_append]
    rw [parseUartCommand_accepted hline]
    simp only [State.schedule, State.printk, State.emit, hcount]
    apply Mailbox.Move.post
    simp [List.count_eq_zero]
  | other | invalid =>
    have hno : ∀ p, icCommand (text "ic_set ") s.gIcSetParams line ≠ .accepted p := by
      simp [hline]
    obtain ⟨hparams, cbs, hq, hcbs⟩ := parseUartCommand_refused hno cfg
    rw [hparams, hq, List.count_append, List.count_eq_zero.mpr hcbs]
    simp only [IcLine.params, Option.map_none, Option.toList_none, List.append_nil, Nat.add_zero]
    exact .keep trivial

theorem icSetCallback_mailbox (s : State) (env : Env) :
    (icSetCallback s env).gIcSetParams = s.gIcSetParams ∧ (icSetCallback s env).queue = s.queue ∧
      codesSet (icSetCallback s env).log = codesSet s.log ++ [s.gIcSetParams.ic] := by
  have hset : codesSet (s.emit (.icSet s.gIcSetParams.ic)).log =
      codesSet s.log ++ [s.gIcSetParams.ic] := codesSet_concat _ _
  unfold icSetCallback
  dsimp only
  split
  · exact ⟨rfl, rfl, (codesSet_printk _ _).trans hset⟩
  · exact ⟨rfl, rfl, (codesSet_printk _ _).trans hset⟩

/-- The other callbacks leave the mailbox alone, apart from a reboot. -/
theorem runCallback_mailbox (cfg : Config) (s : State) (env : Env) {cb : Callback}
    (hset : cb ≠ .icSetCallback) (hreboot : cb ≠ .rebootHandler) :
    (runCallback cfg s env cb).gIcSetParams = s.gIcSetParams ∧
      (runCallback cfg s env cb).queue = s.queue ∧
      codesSet (runCallback cfg s env cb).log = codesSet s.log := by
  cases cb with
  | icSetCallback => exact absurd rfl hset
  | rebootHandler => exact absurd rfl hreboot
  | zbTriggerTempReport =>
    simp only [runCallback, zbTriggerTempReport]
    split_ifs <;> exact ⟨rfl, rfl, rfl⟩
  | joinCallback =>
    have hcomm : codesSet (s.emit (.commissioning env.permit)).log = codesSet s.log :=
      (codesSet_concat _ _).trans (List.append_nil _)
    simp only [runCallback, joinCallback]
    split
    · exact ⟨rfl, rfl, (codesSet_printk _ _).trans hcomm⟩
    · exact ⟨rfl, rfl, (codesSet_printk _ _).trans hcomm⟩
  | factoryResetHandler =>
    refine ⟨rfl, rfl, ?_⟩
    simp [runCallback, factoryResetHandler, State.emit, codesSet, Entry.code]

theorem mailbox_callback {cfg : Config} {s s' : State} {env : Env}
    (h : step cfg s (.callback env) = some s') (es : List Event) :
    (mailbox es s).Move (icSetSafe s (.callback env) = true)
      (mailbox (es ++ [.callback env]) s') := by
  obtain ⟨cb, rest, hq, rfl⟩ := step_callback h
  unfold mailbox
  rw [acceptedSets_concat_callback]
  by_cases hset : cb = .icSetCallback
  · subst hset
    obtain ⟨hparams, hqueue, hcodes⟩ := icSetCallback_mailbox { s with queue := rest } env
    simp only [runCallback, hq, hparams, hqueue, hcodes, List.count_cons_self]
    refine .take ?_ (Nat.succ_pos _)
    simp [icSetSafe, hq]
  · by_cases hreboot : cb = .rebootHandler
    · -- the queue is lost with the reboot
      subst hreboot
      have hlog : codesSet (s.log ++ [.powerUp]) = codesSet s.log :=
        (codesSet_concat _ _).trans (List.append_nil _)
      simp only [runCallback, rebootHandler, boot, hlog]
      apply Mailbox.Move.clear
      simp [icSetSafe, hq, List.count_eq_zero]
    · obtain ⟨hparams, hqueue, hcodes⟩ :=
        runCallback_mailbox cfg { s with queue := rest } env hset hreboot
      simp only [hparams, hqueue, hcodes, hq, List.count_cons_of_ne hset]
      refine .keep ?_
      simp [icSetSafe, hq, hreboot]

theorem mailbox_step {cfg : Config} {s s' : State} {e : Event} (he : e.isConsole = true)
    (h : step cfg s e = some s') (es : List Event) :
    (mailbox es s).Move (icSetSafe s e = true) (mailbox (es ++ [e]) s') := by
  cases e with
  | uartLine line =>
    obtain rfl := Option.some.inj h
    exact mailbox_uartLine cfg es s line
  | callback env => exact mailbox_callback h es
  | signal | rtcInterrupt | work | grant | confirm | tick => simp [Event.isConsole] at he

section Runs

variable {cfg : Config} {answers : ℕ → Bmp180.Answer} {es : List Event} {s : State}

theorem run_mailbox_wellFormed
    (h : Run (When (fun _ e => e.isConsole = true) (Fires (step cfg))) (boot cfg answers []) es s) :
    (mailbox es s).WellFormed := by
  apply Run.history (P := fun es s => (mailbox es s).WellFormed) h
  · exact ⟨le_rfl, fun h => absurd h (Nat.lt_irrefl 0)⟩
  · intro es s e s' _ hs hstep
    exact (mailbox_step hstep.1 hstep.2 es).wellFormed hs

theorem codesSet_iff
    (h : Run (When (fun _ e => e.isConsole = true) (Fires (step cfg))) (boot cfg answers []) es s)
    (hq : .icSetCallback ∉ s.queue) :
    codesSet s.log = acceptedSets es ↔
      Run (When (fun s e => icSetSafe s e = true)
        (When (fun _ e => e.isConsole = true) (Fires (step cfg)))) (boot cfg answers []) es s := by
  have hempty : (mailbox es s).waiting = 0 := List.count_eq_zero.mpr hq
  refine (Mailbox.faithful_iff_of_empty hempty).symm.trans ?_
  apply Run.iff_when (P := fun es s => (mailbox es s).Faithful) h
  · rfl
  · intro es s e s' hr hstep
    exact (mailbox_step hstep.1 hstep.2 es).faithful_iff (run_mailbox_wellFormed hr)

end Runs

end ZigbeeGateway.EndDevice

namespace ZigbeeGateway.InstallCodeQueue
open CStrings InstallCode PairingCommand Histories OneSlotMailbox

/-- On both devices, after every run of console lines and callbacks that leaves
no command queued: the stack has been given the decoded operands of the accepted
lines, in order, exactly when each accepted command found no earlier one queued,
or repeated it (and no reboot dropped a queued one). -/
theorem install_codes_delivered_iff (dev : Bool) (cfg : EndDevice.Config)
    (answers : ℕ → Bmp180.Answer) :
    (∀ es s, Run (When (fun _ e => e.isConsole = true) (Fires (Coordinator.step dev)))
        (Coordinator.boot dev []) es s → .icAddCallback ∉ s.queue →
      (Coordinator.registered s.log = Coordinator.acceptedAdds es ↔
        Run (When (fun s e => Coordinator.icAddSafe s e = true)
          (When (fun _ e => e.isConsole = true) (Fires (Coordinator.step dev))))
            (Coordinator.boot dev []) es s)) ∧
    ∀ es s, Run (When (fun _ e => e.isConsole = true) (Fires (EndDevice.step cfg)))
        (EndDevice.boot cfg answers []) es s → .icSetCallback ∉ s.queue →
      (EndDevice.codesSet s.log = EndDevice.acceptedSets es ↔
        Run (When (fun s e => EndDevice.icSetSafe s e = true)
          (When (fun _ e => e.isConsole = true) (Fires (EndDevice.step cfg))))
            (EndDevice.boot cfg answers []) es s) := by
  constructor
  · intro es s h hq
    exact Coordinator.registered_iff h hq
  · intro es s h hq
    exact EndDevice.codesSet_iff h hq

def addLine (d : UInt8) : Coordinator.Event := .uartLine (repeatedLine (text "ic_add ") d)

def setLine (d : UInt8) : EndDevice.Event := .uartLine (repeatedLine (text "ic_set ") d)

def addRun : List Coordinator.Event :=
  [addLine 48, .callback .willing, addLine 49, .callback .willing]

def setRun : List EndDevice.Event :=
  [setLine 48, .callback .working, setLine 49, .callback .working]

theorem install_codes_delivered_iff_inTurn :
    ∃ s t, exec (restrict (fun _ e => e.isConsole) (Coordinator.step false))
        (Coordinator.boot false []) addRun = some s ∧
      exec (restrict (fun _ e => e.isConsole) (EndDevice.step .production))
        (EndDevice.boot .production EndDevice.Env.working.answers []) setRun = some t ∧
      (Coordinator.acceptedAdds addRun).map (fun p => p.addr 0) = [0, 17] ∧
      (EndDevice.acceptedSets setRun).map (fun ic => ic 0) = [0, 17] ∧
      (Coordinator.registered s.log = Coordinator.acceptedAdds addRun ↔
        Run (When (fun s e => Coordinator.icAddSafe s e = true)
          (When (fun _ e => e.isConsole = true) (Fires (Coordinator.step false))))
            (Coordinator.boot false []) addRun s) ∧
      (EndDevice.codesSet t.log = EndDevice.acceptedSets setRun ↔
        Run (When (fun s e => EndDevice.icSetSafe s e = true)
          (When (fun _ e => e.isConsole = true) (Fires (EndDevice.step .production))))
            (EndDevice.boot .production EndDevice.Env.working.answers []) setRun t) := by
  obtain ⟨s, hs, hsq⟩ : ∃ s, exec (restrict (fun _ e => e.isConsole) (Coordinator.step false))
      (Coordinator.boot false []) addRun = some s ∧ s.queue = [] := ⟨_, rfl, rfl⟩
  obtain ⟨t, ht, htq⟩ : ∃ t, exec (restrict (fun _ e => e.isConsole)
      (EndDevice.step .production)) (EndDevice.boot .production EndDevice.Env.working.answers [])
        setRun = some t ∧ t.queue = [] := ⟨_, rfl, rfl⟩
  have hboth := install_codes_delivered_iff false .production EndDevice.Env.working.answers
  exact ⟨s, t, hs, ht, by rfl, by rfl, hboth.1 _ s (run_of_exec_restrict hs) (by simp [hsq]),
    hboth.2 _ t (run_of_exec_restrict ht) (by simp [htq])⟩

/-- Two commands before the first callback: both callbacks take the second. -/
theorem second_command_replaces_first :
    (¬∀ es s, Run (When (fun _ e => e.isConsole = true) (Fires (Coordinator.step false)))
        (Coordinator.boot false []) es s → .icAddCallback ∉ s.queue →
      Coordinator.registered s.log = Coordinator.acceptedAdds es) ∧
    ¬∀ es s, Run (When (fun _ e => e.isConsole = true) (Fires (EndDevice.step .production)))
        (EndDevice.boot .production EndDevice.Env.working.answers []) es s →
      .icSetCallback ∉ s.queue → EndDevice.codesSet s.log = EndDevice.acceptedSets es := by
  constructor
  · intro h
    obtain ⟨s, hs, hq, hreg⟩ : ∃ s, exec (restrict (fun _ e => e.isConsole)
        (Coordinator.step false)) (Coordinator.boot false [])
          [addLine 48, addLine 49, .callback .willing, .callback .willing] = some s ∧
        s.queue = [] ∧ (Coordinator.registered s.log).map (fun p => p.addr 0) = [17, 17] :=
      ⟨_, rfl, rfl, rfl⟩
    have hboth := h _ s (run_of_exec_restrict hs) (by simp [hq])
    rw [hboth] at hreg
    revert hreg
    decide
  · intro h
    obtain ⟨s, hs, hq, hset⟩ : ∃ s, exec (restrict (fun _ e => e.isConsole)
        (EndDevice.step .production)) (EndDevice.boot .production EndDevice.Env.working.answers [])
          [setLine 48, setLine 49, .callback .working, .callback .working] = some s ∧
        s.queue = [] ∧ (EndDevice.codesSet s.log).map (fun ic => ic 0) = [17, 17] :=
      ⟨_, rfl, rfl, rfl⟩
    have hboth := h _ s (run_of_exec_restrict hs) (by simp [hq])
    rw [hboth] at hset
    revert hset
    decide

end ZigbeeGateway.InstallCodeQueue
