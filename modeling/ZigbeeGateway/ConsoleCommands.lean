import ZigbeeGateway.Coordinator
import ZigbeeGateway.DecimalText
import ZigbeeGateway.EndDevice
import ZigbeeGateway.JobQueue

namespace ZigbeeGateway.EndDevice
open CStrings DecimalText PairingCommand Histories JobQueue

def commandOf (line : Buffer) : Option Callback :=
  match icCommand (text "ic_set ") .zero line with
  | .invalid => none
  | .accepted _ => some .icSetCallback
  | .other =>
    if strcmp line (text "join") = 0 then some .joinCallback
    else if strcmp line (text "factory_reset") = 0 then some .factoryResetHandler
    else if strcmp line (text "reboot") = 0 then some .rebootHandler
    else none

def Event.command : Event → Option Callback
  | .uartLine line => commandOf line
  | _ => none

/-- The answer of `ic_set_callback`: it went well, or it failed with a status.  The
parser refuses a line in the same words, but without a status. -/
def isIcSetReply (out : List UInt8) : Bool :=
  out == text "ic_set_success\n" ||
    (text "ic_set_failed: ").isPrefixOf out && out != text "ic_set_failed: invalid format\n"

/-- The callback that an entry shows to be carried out.  `setup_static_install_code`
sets a code as well, but answers nothing. -/
def Entry.command : Entry → Option Callback
  | .printk out => if isIcSetReply out then some .icSetCallback else none
  | .commissioning _ => some .joinCallback
  | .resetViaLocalAction => some .factoryResetHandler
  | _ => none

def Callback.fromConsole : Callback → Bool
  | .zbTriggerTempReport => false
  | _ => true

def console : View State Event Entry Callback where
  log := State.log
  waiting s := s.queue.filter Callback.fromConsole
  brings := Event.command
  done := Entry.command
  lost := Entry.isPowerUp

/-- An answer of `ic_set_callback` stands right behind the code that it is about. -/
def Answers (a : Entry) (pre : List Entry) : Prop :=
  a.command = some .icSetCallback → ∃ ic, pre.getLast? = some (.icSet ic)

def Answered (s s' : State) : Prop := ∃ new, s'.log = s.log ++ new ∧ Whenever Answers new

variable {cfg : Config} {s t s' : State}

theorem Answered.trans (h : Answered s t) (h' : Answered t s') : Answered s s' := by
  obtain ⟨new, hlog, hnew⟩ := h
  obtain ⟨new', hlog', hnew'⟩ := h'
  refine ⟨new ++ new', by rw [hlog', hlog, List.append_assoc], hnew.append hnew' ?_⟩
  intro a pre ha hcommand
  obtain ⟨ic, hlast⟩ := ha hcommand
  exact ⟨ic, by rw [List.getLast?_append, hlast, Option.some_or]⟩

theorem whenever_answers {new : List Entry} (h : ∀ a ∈ new, a.command ≠ some .icSetCallback) :
    Whenever Answers new := by
  rintro pre a post rfl hcommand
  exact absurd hcommand (h a (by simp))

theorem isIcSetReply_of_head {l : List UInt8} (hne : l ≠ []) (h : l.head? ≠ some 'i'.toUInt8)
    (rest : List UInt8) : isIcSetReply (l ++ rest) = false := by
  obtain ⟨c, l, rfl⟩ := List.exists_cons_of_ne_nil hne
  have hc : c ≠ 'i'.toUInt8 := fun hc => h (hc ▸ rfl)
  have hsuccess : text "ic_set_success\n" = 'i'.toUInt8 :: (text "ic_set_success\n").tail := by
    decide
  have hfailed : text "ic_set_failed: " = 'i'.toUInt8 :: (text "ic_set_failed: ").tail := by decide
  rw [isIcSetReply, hsuccess, hfailed]
  simp [hc, hc.symm]

theorem head_toString_ne (status : ℤ) :
    text (toString status) ≠ [] ∧ (text (toString status)).head? ≠ some 'i'.toUInt8 := by
  cases status with
  | ofNat n =>
    obtain ⟨hne, hdigits, -⟩ := repr_digits n
    refine ⟨hne, fun h => ?_⟩
    exact absurd (hdigits _ (List.mem_of_mem_head? h)) (by decide)
  | negSucc n =>
    rw [Int.negSucc_eq, ← Nat.cast_succ, text_toString_neg n.succ_pos]
    exact ⟨List.cons_ne_nil _ _, fun h => absurd (Option.some.inj h) (by decide)⟩

theorem isIcSetReply_failed (status : ℤ) :
    isIcSetReply (text "ic_set_failed: " ++ text (toString status) ++ text "\n") = true := by
  obtain ⟨hne, hhead⟩ := head_toString_ne status
  have hrefusal : text "ic_set_failed: invalid format\n" =
      text "ic_set_failed: " ++ text "invalid format\n" := by decide
  rw [isIcSetReply, Bool.or_eq_true, Bool.and_eq_true, bne_iff_ne, List.append_assoc, hrefusal]
  refine .inr ⟨List.isPrefixOf_iff_prefix.mpr (List.prefix_append _ _), fun h => hhead ?_⟩
  have hword := List.append_cancel_left h
  rw [← List.head?_append_of_ne_nil _ hne, hword]
  decide

structure CommandFree (s s' : State) : Prop where
  log : Extends (fun a => a.command = none) s.log s'.log
  waiting : console.waiting s' = console.waiting s

theorem CommandFree.refl (s : State) : CommandFree s s := ⟨.refl _, rfl⟩

theorem CommandFree.emit (h : CommandFree s t) {a : Entry} (ha : a.command = none) :
    CommandFree s (t.emit a) := ⟨h.log.concat ha, h.waiting⟩

theorem CommandFree.of_log (new : List Entry) (hlog : s'.log = s.log ++ new)
    (hnew : new.filterMap Entry.command = [])
    (hwaiting : console.waiting s' = console.waiting s) : CommandFree s s' :=
  ⟨⟨new, hlog, List.filterMap_eq_nil_iff.mp hnew⟩, hwaiting⟩

theorem CommandFree.release (h : CommandFree s t) (bufid : ℕ) :
    CommandFree s (t.release bufid) := by
  unfold State.release
  split
  · exact h.emit rfl
  · exact h

theorem CommandFree.printAll (h : CommandFree s t) {out : List (List UInt8)}
    (hout : ∀ line ∈ out, isIcSetReply line = false) :
    CommandFree s (out.foldl State.printk t) := by
  induction out generalizing t with
  | nil => exact h
  | cons line out ih =>
    obtain ⟨hline, hout⟩ := List.forall_mem_cons.mp hout
    exact ih (h.emit (by simp [Entry.command, hline])) hout

theorem CommandFree.served (h : CommandFree s s') {e : Event} (he : e.command = none) :
    console.Served s [e] s' := by
  apply View.served_of_queued h.log
  show _ = _ ++ e.command.toList
  rw [h.waiting, he]
  exact (List.append_nil _).symm

theorem answered_of_free (h : Extends (fun a => a.command = none) s.log s'.log) :
    Answered s s' := by
  obtain ⟨new, hlog, hnew⟩ := h
  exact ⟨new, hlog, whenever_answers fun a ha => by simp [hnew a ha]⟩

set_option maxRecDepth 4000 in
/-- The device prints the pairing commands with a frame around them. -/
theorem printed_not_reply (selfIeee : InstallCode.IeeeAddr) (key : InstallCode.Key) :
    ∀ line ∈ InstallCode.printProductionPairingCommands selfIeee key,
      isIcSetReply line = false := by
  simp only [InstallCode.printProductionPairingCommands, List.forall_mem_cons, List.append_assoc]
  refine ⟨by decide, by decide, by decide, by decide, by decide,
    isIcSetReply_of_head (by decide) (by decide) _, by decide, by decide, by decide,
    isIcSetReply_of_head (by decide) (by decide) _, by decide, by decide, by decide, by decide,
    by decide, by decide, by decide, List.forall_mem_nil _⟩

theorem zbossSignalHandler_commandFree (cfg : Config) (s : State) (env : Env) (sig : Signal)
    (status : ℤ) (bufid : ℕ) : CommandFree s (zbossSignalHandler cfg s env sig status bufid) := by
  have hled : CommandFree s (s.emit (.ledStatusUpdate bufid)) := (CommandFree.refl s).emit rfl
  have hset : CommandFree s (setupStaticInstallCode (s.emit (.ledStatusUpdate bufid))) :=
    hled.emit rfl
  -- the common exit; only the first start of the production build returns before it
  have hexit : ∀ t : State, CommandFree s t →
      CommandFree s ((t.emit (.defaultSignalHandler bufid)).release bufid) :=
    fun t ht => (ht.emit rfl).release bufid
  have hjoined : ∀ t : State, CommandFree s t → CommandFree s (networkJoined t) :=
    fun t ht => ⟨ht.log, ht.waiting⟩
  unfold zbossSignalHandler
  cases sig with
  | deviceFirstStart =>
    dsimp only
    split
    · exact hexit _ hset
    · exact (hled.printAll (printed_not_reply cfg.selfIeee env.randomKey)).emit rfl
  | deviceReboot =>
    have hkeyed : CommandFree s (if cfg.developmentSecurity then
        setupStaticInstallCode (s.emit (.ledStatusUpdate bufid))
        else s.emit (.ledStatusUpdate bufid)) := by
      split
      · exact hset
      · exact hled
    dsimp only
    split
    · exact hexit _ (hjoined _ hkeyed)
    · exact hexit _ hkeyed
  | steering =>
    have hdefault : CommandFree s
        ((s.emit (.ledStatusUpdate bufid)).emit (.defaultSignalHandler bufid)) := hled.emit rfl
    dsimp only
    split_ifs
    · exact (hjoined _ hdefault).release bufid
    · exact hdefault.release bufid
  | leave =>
    exact hexit { s.emit (.ledStatusUpdate bufid) with gNetworkJoined := false, dkLed4 := false }
      ⟨hled.log, hled.waiting⟩
  | other => exact hexit _ hled

theorem parseUartCommand_queue (s : State) (line : Buffer) :
    (parseUartCommand cfg s line).queue = s.queue ++ (commandOf line).toList := by
  unfold parseUartCommand commandOf
  dsimp only
  rw [icCommand_old _ _ .zero]
  cases icCommand (text "ic_set ") .zero line with
  | invalid => exact (List.append_nil _).symm
  | accepted p => rfl
  | other =>
    dsimp only
    split_ifs
    · rfl
    · rfl
    · rfl
    · exact (List.append_nil _).symm
    · exact (List.append_nil _).symm

/-- The handler itself only prints, and no answer of `ic_set_callback`. -/
theorem parseUartCommand_prints (cfg : Config) (s : State) (line : Buffer) :
    Extends (fun a => ∃ out, a = .printk out ∧ isIcSetReply out = false) s.log
      (parseUartCommand cfg s line).log := by
  have hecho : Extends (fun a => ∃ out, a = .printk out ∧ isIcSetReply out = false) s.log
      (s.printk (text "Parsed UART Command: '" ++ cstr line ++ text "'\n")).log := by
    refine (Extends.refl _).concat ⟨_, rfl, ?_⟩
    rw [List.append_assoc]
    exact isIcSetReply_of_head (by decide) (by decide) _
  unfold parseUartCommand
  dsimp only
  split
  · exact hecho.concat ⟨_, rfl, by decide⟩
  · exact hecho
  · split_ifs
    · exact hecho
    · exact hecho.concat ⟨_, rfl, by decide⟩
    · exact hecho.concat ⟨_, rfl, by decide⟩
    · refine hecho.concat ⟨_, rfl, ?_⟩
      rw [List.append_assoc]
      exact isIcSetReply_of_head (by decide) (by decide) _
    · exact hecho

theorem parseUartCommand_free (cfg : Config) (s : State) (line : Buffer) :
    Extends (fun a => a.command = none) s.log (parseUartCommand cfg s line).log := by
  apply (parseUartCommand_prints cfg s line).mono
  rintro a ⟨out, rfl, hout⟩
  simp [Entry.command, hout]

theorem commandOf_fromConsole {line : Buffer} {cb : Callback} (h : commandOf line = some cb) :
    cb.fromConsole = true := by
  unfold commandOf at h
  split at h
  · exact absurd h (by simp)
  · obtain rfl := Option.some.inj h
    rfl
  · split_ifs at h
    all_goals
      obtain rfl := Option.some.inj h
      rfl

theorem parseUartCommand_served (s : State) (line : Buffer) :
    console.Served s [.uartLine line] (parseUartCommand cfg s line) := by
  apply View.served_of_queued (parseUartCommand_free cfg s line)
  show (parseUartCommand cfg s line).queue.filter _ = s.queue.filter _ ++ (commandOf line).toList
  rw [parseUartCommand_queue, List.filter_append]
  cases h : commandOf line with
  | none => rfl
  | some cb => simp [commandOf_fromConsole h]

theorem runCallback_served {cb : Callback} {rest : List Callback} (hq : s.queue = cb :: rest)
    (env : Env) :
    console.Served s [.callback env] (runCallback cfg { s with queue := rest } env cb) ∧
      Answered s (runCallback cfg { s with queue := rest } env cb) := by
  have hpop : ∀ new : List Entry, (runCallback cfg { s with queue := rest } env cb).log =
      s.log ++ new → (runCallback cfg { s with queue := rest } env cb).queue = rest →
      new.filterMap Entry.command = [cb].filter Callback.fromConsole → Whenever Answers new →
      console.Served s [.callback env] (runCallback cfg { s with queue := rest } env cb) ∧
        Answered s (runCallback cfg { s with queue := rest } env cb) := by
    intro new hlog hqueue hnew hanswers
    refine ⟨View.served_of_done rfl hlog hnew ?_, new, hlog, hanswers⟩
    show s.queue.filter _ = _ ++ (runCallback cfg { s with queue := rest } env cb).queue.filter _
    rw [hqueue, ← List.filter_append, hq]
    rfl
  cases cb with
  | zbTriggerTempReport =>
    refine hpop [] ?_ ?_ rfl whenever_nil
    · simp only [runCallback, zbTriggerTempReport]
      split_ifs <;> exact (List.append_nil _).symm
    · simp only [runCallback, zbTriggerTempReport]
      split_ifs <;> rfl
  | icSetCallback =>
    obtain ⟨out, hout, hreply⟩ : ∃ out, isIcSetReply out = true ∧
        icSetCallback { s with queue := rest } env =
          ({ s with queue := rest }.emit (.icSet s.gIcSetParams.ic)).printk out := by
      unfold icSetCallback
      dsimp only
      split
      · exact ⟨_, by decide, rfl⟩
      · exact ⟨_, isIcSetReply_failed env.icSetStatus, rfl⟩
    refine hpop [.icSet s.gIcSetParams.ic, .printk out] ?_ ?_ ?_ ?_
    · rw [runCallback, hreply]
      exact List.append_assoc _ _ _
    · rw [runCallback, hreply]
      rfl
    · have hanswer : (Entry.printk out).command = some .icSetCallback := if_pos hout
      rw [List.filterMap_cons_none rfl, List.filterMap_cons_some hanswer]
      rfl
    · have hset : Whenever Answers [Entry.icSet s.gIcSetParams.ic] :=
        whenever_answers (by simp [Entry.command])
      exact (whenever_concat [Entry.icSet s.gIcSetParams.ic] (.printk out)).mpr
        ⟨hset, fun _ => ⟨s.gIcSetParams.ic, rfl⟩⟩
  | joinCallback =>
    obtain ⟨out, hout, hreply⟩ : ∃ out, isIcSetReply out = false ∧
        joinCallback { s with queue := rest } env =
          ({ s with queue := rest }.emit (.commissioning env.permit)).printk out := by
      unfold joinCallback
      dsimp only
      split <;> exact ⟨_, by decide, rfl⟩
    refine hpop [.commissioning env.permit, .printk out] ?_ ?_ ?_ ?_
    · rw [runCallback, hreply]
      exact List.append_assoc _ _ _
    · rw [runCallback, hreply]
      rfl
    · have hjoin : (Entry.commissioning env.permit).command = some .joinCallback := rfl
      have hplain : (Entry.printk out).command = none := by simp [Entry.command, hout]
      rw [List.filterMap_cons_some hjoin, List.filterMap_cons_none hplain]
      rfl
    · exact whenever_answers (by simp [Entry.command, hout])
  | factoryResetHandler =>
    refine hpop [.resetViaLocalAction, .timerInit s.rebootTimer.isSome, .timerStart 1000] ?_ rfl rfl
      (whenever_answers (by simp [Entry.command]))
    simp [runCallback, factoryResetHandler, State.emit]
  | rebootHandler =>
    exact ⟨View.served_of_lost (a := .powerUp) rfl (by simp) rfl rfl rfl, [.powerUp], rfl,
      whenever_answers (by simp [Entry.command])⟩

theorem step_served {e : Event} (h : step cfg s e = some s') :
    console.Served s [e] s' ∧ Answered s s' := by
  have hfree : CommandFree s s' → e.command = none → console.Served s [e] s' ∧ Answered s s' :=
    fun hs he => ⟨hs.served he, answered_of_free hs.log⟩
  cases e with
  | signal sig status bufid env =>
    obtain ⟨-, h⟩ := Option.ite_none_left_eq_some.mp h
    obtain rfl := Option.some.inj h
    have hsig : CommandFree s (s.emit (.signal sig status bufid)) := (CommandFree.refl s).emit rfl
    obtain ⟨hlog, hwaiting⟩ := zbossSignalHandler_commandFree cfg
      (s.emit (.signal sig status bufid)) env sig status bufid
    exact hfree ⟨hsig.log.trans hlog, hwaiting⟩ rfl
  | rtcInterrupt err isCompareEvent =>
    obtain rfl := Option.some.inj h
    refine hfree ?_ rfl
    unfold rtc2Isr
    split
    · exact .of_log [.rtcCompare, .rtcRestart 32] rfl rfl rfl
    · exact .refl s
  | work =>
    obtain ⟨-, h⟩ := Option.ite_none_right_eq_some.mp h
    obtain rfl := Option.some.inj h
    refine hfree (.of_log [] (List.append_nil _).symm rfl ?_) rfl
    exact (List.filter_append ..).trans (List.append_nil _)
  | callback env =>
    obtain ⟨cb, rest, hq, rfl⟩ := step_callback h
    exact runCallback_served hq env
  | grant bufid tempRaw env =>
    obtain ⟨-, h⟩ := Option.ite_none_right_eq_some.mp h
    obtain rfl := Option.some.inj h
    refine hfree ?_ rfl
    unfold sendTemperatureCb
    dsimp only
    split
    · exact .of_log [.granted bufid, .bufFree bufid] (List.append_assoc _ _ _) rfl rfl
    · exact .of_log [.granted bufid, .writeAttr _] (List.append_assoc _ _ _) rfl rfl
  | confirm bufid status =>
    obtain ⟨-, h⟩ := Option.ite_none_right_eq_some.mp h
    obtain rfl := Option.some.inj h
    refine hfree ?_ rfl
    exact .of_log [.confirmed bufid status, .bufFree bufid] (List.append_assoc _ _ _) rfl rfl
  | uartLine line =>
    obtain rfl := Option.some.inj h
    exact ⟨parseUartCommand_served s line, answered_of_free (parseUartCommand_free cfg s line)⟩
  | tick env =>
    obtain rfl | ⟨t, rfl⟩ := step_tick h
    · exact ⟨View.served_of_lost (a := .powerUp) rfl (by simp) rfl rfl rfl, [.powerUp], rfl,
        whenever_answers (by simp [Entry.command])⟩
    · exact hfree ⟨.refl _, rfl⟩ rfl

def consoleLine (command : String) : Event := .uartLine (text command ++ [0])

/-- The development build: its own code, a code that is typed, a join, and a reset and a
reboot that still wait. -/
def codeThenJoin : List Event :=
  [.signal .deviceFirstStart 0 5 .working,
    .uartLine (text "ic_set " ++ List.replicate 16 48 ++ [32] ++ List.replicate 36 65 ++ [0]),
    consoleLine "join", .callback { Env.working with icSetStatus := -5 },
    consoleLine "factory_reset", .callback .working, consoleLine "reboot"]

end ZigbeeGateway.EndDevice

namespace ZigbeeGateway.Coordinator
open CStrings HexText PairingCommand Histories JobQueue

/-- What a command ends with: the answer whether steering was started, or the
reset. -/
inductive Outcome
  | answer
  | reset
  deriving DecidableEq

def Callback.outcome : Callback → Option Outcome
  | .icAddCallback | .reopenSteeringCb => some .answer
  | .factoryResetHandler => some .reset
  | .startIdentifying => none

def commandOf (line : Buffer) : Option Callback :=
  match icCommand (text "ic_add ") .zero line with
  | .invalid => none
  | .accepted _ => some .icAddCallback
  | .other =>
    if strcmp line (text "factory_reset") = 0 then some .factoryResetHandler
    else if strcmp line (text "reopen") = 0 then some .reopenSteeringCb
    else none

def Event.outcome : Event → Option Outcome
  | .uartLine line => (commandOf line).bind Callback.outcome
  | _ => none

def Entry.outcome : Entry → Option Outcome
  | .printk out => if ∃ started, out = steeringReply started then some .answer else none
  | .resetViaLocalAction => some .reset
  | _ => none

def console : View State Event Entry Outcome where
  log := State.log
  waiting s := s.queue.filterMap Callback.outcome
  brings := Event.outcome
  done := Entry.outcome
  lost := Entry.isPowerUp

structure CommandFree (s s' : State) : Prop where
  log : Extends (fun a => a.outcome = none) s.log s'.log
  waiting : console.waiting s' = console.waiting s

variable {dev : Bool} {s t s' : State} {z : Zboss}

theorem CommandFree.refl (s : State) : CommandFree s s := ⟨.refl _, rfl⟩

theorem CommandFree.trans (h : CommandFree s t) (h' : CommandFree t s') : CommandFree s s' :=
  ⟨h.log.trans h'.log, h'.waiting.trans h.waiting⟩

theorem CommandFree.emit (h : CommandFree s t) {a : Entry} (ha : a.outcome = none) :
    CommandFree s (t.emit a) := ⟨h.log.concat ha, h.waiting⟩

theorem CommandFree.bdbStart (h : CommandFree s t) (z : Zboss) (mode : Mode) :
    CommandFree s (t.bdbStart z mode).2 := ⟨h.log.concat rfl, h.waiting⟩

theorem CommandFree.served (h : CommandFree s s') {e : Event} (he : e.outcome = none) :
    console.Served s [e] s' := by
  apply View.served_of_queued h.log
  show _ = _ ++ e.outcome.toList
  rw [h.waiting, he]
  exact (List.append_nil _).symm

theorem dispatchSignal_commandFree (dev : Bool) (s : State) (z : Zboss) (sig : Signal)
    (status : ℤ) : CommandFree s (dispatchSignal dev s z sig status) := by
  -- the development build registers its keys before it asks for steering
  have hkeys : CommandFree s (if dev then registerStaticDevelopmentKeys s else s) := by
    split
    · exact ((CommandFree.refl s).emit rfl).emit rfl
    · exact .refl s
  unfold dispatchSignal
  cases sig with
  | deviceFirstStart =>
    dsimp only
    split
    · exact (CommandFree.refl s).bdbStart z _
    · exact .refl s
  | deviceReboot =>
    dsimp only
    split
    · exact hkeys.bdbStart z _
    · exact (CommandFree.refl s).bdbStart z _
  | formation =>
    dsimp only
    split
    · exact hkeys.bdbStart z _
    · exact .refl s
  | steering =>
    dsimp only
    split <;> exact ⟨.refl _, rfl⟩
  | deviceAnnce =>
    dsimp only
    split <;> exact ⟨.refl _, rfl⟩
  | other => exact (CommandFree.refl s).emit rfl

theorem zbossSignalHandler_commandFree (dev : Bool) (s : State) (z : Zboss) (sig : Signal)
    (status : ℤ) (bufid : ℕ) : CommandFree s (zbossSignalHandler dev s z sig status bufid) := by
  obtain ⟨hlog, hwaiting⟩ := dispatchSignal_commandFree dev s z sig status
  have hled : CommandFree s (updateLed (dispatchSignal dev s z sig status) z) := ⟨hlog, hwaiting⟩
  unfold zbossSignalHandler
  dsimp only
  split
  · exact hled.emit rfl
  · exact hled

theorem deliver_commandFree {sig : Signal} {status : ℤ} (h : deliver s sig status = some t) :
    CommandFree s t := by
  obtain ⟨hlog, hwaiting⟩ := (CommandFree.refl s).emit (a := .signal sig status) rfl
  unfold deliver at h
  cases sig with
  | steering =>
    obtain ⟨-, h⟩ := Option.ite_none_right_eq_some.mp h
    obtain rfl := Option.some.inj h
    exact ⟨hlog, hwaiting⟩
  | deviceFirstStart | deviceReboot | formation | deviceAnnce | other =>
    obtain rfl := Option.some.inj h
    exact ⟨hlog, hwaiting⟩

theorem buttonChanged_commandFree (s : State) (z : Zboss) (buttonState hasChanged : BitVec 32) :
    CommandFree s (buttonChanged s z buttonState hasChanged) := by
  have hreopen : CommandFree s (reopenButton s z) := ⟨(Extends.refl _).concat rfl, rfl⟩
  have hidentify : ∀ t : State, CommandFree s t → CommandFree s (t.schedule .startIdentifying) := by
    intro t ht
    refine ⟨ht.log, Eq.trans ?_ ht.waiting⟩
    exact (List.filterMap_append ..).trans (List.append_nil _)
  unfold buttonChanged
  dsimp only
  apply CommandFree.emit _ rfl
  split_ifs
  · exact hidentify _ hreopen
  · exact hidentify _ (.refl s)
  · exact hreopen
  · exact .refl s

theorem parseUartCommand_served (s : State) (line : Buffer) :
    console.Served s [.uartLine line] (parseUartCommand s line) := by
  have hqueued : ∀ (t : State) (cb : Callback), CommandFree s t → commandOf line = some cb →
      console.Served s [.uartLine line] (t.schedule cb) := by
    intro t cb ht hcb
    apply View.served_of_queued ht.log
    show (t.queue ++ [cb]).filterMap _ = _ ++ ((commandOf line).bind _).toList
    rw [List.filterMap_append, hcb]
    apply congrArg₂ _ ht.waiting
    show [cb].filterMap _ = (Callback.outcome cb).toList
    cases h : cb.outcome <;> simp [h]
  have hrefused : ∀ t : State, CommandFree s t → commandOf line = none →
      console.Served s [.uartLine line] t := by
    intro t ht hnone
    apply ht.served
    show (commandOf line).bind _ = none
    rw [hnone]
    rfl
  -- a line is refused, or it schedules the callback that it asks for
  unfold parseUartCommand
  unfold commandOf at hqueued hrefused
  rw [icCommand_old _ _ .zero]
  cases hline : icCommand (text "ic_add ") .zero line with
  | invalid =>
    simp only [hline] at hrefused
    exact hrefused _ ((CommandFree.refl s).emit (by decide)) trivial
  | accepted p =>
    simp only [hline] at hqueued
    exact hqueued _ _ ⟨.refl _, rfl⟩ rfl
  | other =>
    simp only [hline] at hqueued hrefused
    dsimp only
    split_ifs with hreset hreopen
    · exact hqueued _ _ ((CommandFree.refl s).emit (by decide)) (if_pos hreset)
    · exact hqueued _ _ (.refl s) (by rw [if_neg hreset, if_pos hreopen])
    · exact hrefused _ (.refl s) (by rw [if_neg hreset, if_neg hreopen])

theorem outcome_steeringReply (started : Bool) :
    (Entry.printk (steeringReply started)).outcome = some .answer := if_pos ⟨started, rfl⟩

theorem outcome_hexPair (b : UInt8) : (Entry.printk (hexPair b)).outcome = none := by
  apply if_neg
  rintro ⟨started, h⟩
  have hlen : (steeringReply started).length ≠ 2 := by cases started <;> decide
  exact hlen (h ▸ hexPair_length b)

theorem outcome_icAddEntries (p : IcParams) (started : Bool) :
    (icAddEntries p started).filterMap Entry.outcome = [.answer] := by
  have haddr : (List.finRange 8).filterMap
      (Entry.outcome ∘ fun i => .printk (hexPair (p.addr i.rev))) = [] :=
    List.filterMap_eq_nil_iff.mpr fun i _ => outcome_hexPair _
  have hsuccess : (Entry.printk (text "ic_add_success: ")).outcome = none := by decide
  have hend : (Entry.printk (text "\n")).outcome = none := by decide
  unfold icAddEntries
  rw [List.filterMap_append, List.filterMap_append, List.filterMap_map, haddr,
    List.filterMap_cons_none rfl, List.filterMap_cons_none rfl, List.filterMap_cons_none hsuccess,
    List.filterMap_cons_none hend, List.filterMap_cons_none rfl,
    List.filterMap_cons_some (outcome_steeringReply started)]
  rfl

theorem runCallback_served {cb : Callback} {rest : List Callback} (hq : s.queue = cb :: rest)
    (z : Zboss) : console.Served s [.callback z] (runCallback { s with queue := rest } z cb) := by
  -- the callback leaves the queue, and its entries show what it has done
  have hpop : ∀ new : List Entry, (runCallback { s with queue := rest } z cb).log = s.log ++ new →
      (runCallback { s with queue := rest } z cb).queue = rest →
      new.filterMap Entry.outcome = [cb].filterMap Callback.outcome →
      console.Served s [.callback z] (runCallback { s with queue := rest } z cb) := by
    intro new hlog hqueue hnew
    apply View.served_of_done rfl hlog hnew
    show s.queue.filterMap _ = _ ++ (runCallback _ z cb).queue.filterMap _
    rw [hqueue, ← List.filterMap_append, hq]
    rfl
  cases cb with
  | startIdentifying =>
    simp only [runCallback, startIdentifying] at hpop ⊢
    split_ifs at hpop ⊢
    · exact hpop [.findingBindingTarget] rfl rfl rfl
    · exact hpop [.findingBindingTargetCancel] rfl rfl rfl
    · exact hpop [] (List.append_nil _).symm rfl rfl
  | icAddCallback =>
    apply hpop (icAddEntries s.gIcAddParams (z.permit && s.bdb.isNone))
    · exact icAddCallback_log { s with queue := rest } z
    · simp [runCallback, icAddCallback, replySteering_eq, printAddr_eq, State.printk]
    · exact outcome_icAddEntries _ _
  | reopenSteeringCb =>
    apply hpop [.commissioning .steering _, .printk (steeringReply _)]
    · simp [runCallback, reopenSteeringCb, replySteering_eq, State.alarmCancel]
      exact ⟨rfl, rfl⟩
    · simp [runCallback, reopenSteeringCb, replySteering_eq, State.alarmCancel]
    · rw [List.filterMap_cons_none rfl, List.filterMap_cons_some (outcome_steeringReply _)]
      rfl
  | factoryResetHandler =>
    apply hpop [.resetViaLocalAction, .timerInit s.rebootTimer.isSome, .timerStart 1000]
    · exact factoryResetHandler_log { s with queue := rest }
    · rfl
    · rfl

theorem step_served {e : Event} (h : step dev s e = some s') : console.Served s [e] s' := by
  cases e with
  | signal sig status bufid z =>
    obtain ⟨t, ht, rfl⟩ := Option.map_eq_some_iff.mp h
    have hsignal := (deliver_commandFree ht).trans
      (zbossSignalHandler_commandFree dev t z sig status bufid)
    exact hsignal.served rfl
  | uartLine line =>
    obtain rfl := Option.some.inj h
    exact parseUartCommand_served s line
  | buttons buttonState hasChanged z =>
    obtain rfl := Option.some.inj h
    exact (buttonChanged_commandFree s z buttonState hasChanged).served rfl
  | callback z =>
    obtain ⟨cb, rest, hq, rfl⟩ := step_callback h
    exact runCallback_served hq z
  | alarm =>
    obtain ⟨-, rfl⟩ := step_alarm h
    have hoff : CommandFree s (steeringFinished { s with alarms := s.alarms - 1 }) :=
      ⟨(Extends.refl s.log).concat rfl, rfl⟩
    exact hoff.served rfl
  | tick =>
    obtain rfl | ⟨t, rfl⟩ := step_tick h
    · -- the reboot drops what waits; the development build sets its policy again
      cases dev with
      | false => exact View.served_of_lost (a := .powerUp) rfl (by simp) rfl rfl rfl
      | true =>
        exact View.served_of_lost (a := .powerUp) (List.append_assoc _ _ _) (by simp) rfl rfl rfl
    · exact CommandFree.served ⟨.refl _, rfl⟩ rfl

/-- From any state and in both builds: each answer whether steering was started and
each reset of a run belongs to a command that waited or was typed, each to one and
in this order; and up to a reboot every command gets its own, but for those that
still wait. -/
theorem coordinator_commands_in_order {s₀ : State} {es : List Event}
    (h : Run (Fires (step dev)) s₀ es s) : console.Served s₀ es s :=
  View.served_run (fun _ _ _ => step_served) h

def reopenTwice : List Event :=
  [.uartLine (text "reopen" ++ [0]), .buttons 1 1 .willing, .uartLine (text "reopen" ++ [0]),
    .callback .willing]

theorem coordinator_commands_in_order_reopenTwice :
    ∃ s, exec (step false) (boot false []) reopenTwice = some s ∧
      s.log.filterMap Entry.outcome = [.answer] ∧ s.queue = [.reopenSteeringCb] ∧
      console.Served (boot false []) reopenTwice s := by
  obtain ⟨s, hs, hdone, hqueue⟩ : ∃ s, exec (step false) (boot false []) reopenTwice = some s ∧
      s.log.filterMap Entry.outcome = [.answer] ∧ s.queue = [.reopenSteeringCb] :=
    ⟨_, rfl, by decide, by decide⟩
  exact ⟨s, hs, hdone, hqueue, coordinator_commands_in_order (run_of_exec hs)⟩

end ZigbeeGateway.Coordinator
