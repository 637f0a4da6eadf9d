import ZigbeeGateway.Coordinator

namespace ZigbeeGateway.Coordinator
open CStrings HexText InstallCode PairingCommand Histories

def PolicyOn (log : List Entry) : Prop :=
  .setInstallcodePolicy true ∈ since Entry.isPowerUp log

def KeyRegistered (log : List Entry) : Prop :=
  ∃ addr ic, .icAdd addr ic ∈ since Entry.isPowerUp log

instance (log : List Entry) : Decidable (PolicyOn log) := inferInstanceAs (Decidable (_ ∈ _))

/-- Network steering is requested under the policy: always in the development
build, from the first registered key on in the production build. -/
def SteeringPolicy (dev : Bool) (e : Entry) (pre : List Entry) : Prop :=
  ∀ accepted, e = .commissioning .steering accepted →
    if dev then PolicyOn pre else (PolicyOn pre ↔ KeyRegistered pre)

/-- What holds of every history: each steering request so far met its policy,
and one made now would. -/
def Guarded (dev : Bool) (log : List Entry) : Prop :=
  Whenever (SteeringPolicy dev) log ∧
    if dev then PolicyOn log else (PolicyOn log ↔ KeyRegistered log)

theorem mem_since_concat {log : List Entry} {e x : Entry} (he : e.isPowerUp = false) :
    x ∈ since Entry.isPowerUp (log ++ [e]) ↔ x ∈ since Entry.isPowerUp log ∨ x = e := by
  simp [since_concat, he]

theorem policyOn_concat {log : List Entry} {e : Entry} (he : e.isPowerUp = false) :
    PolicyOn (log ++ [e]) ↔ PolicyOn log ∨ e = .setInstallcodePolicy true := by
  rw [PolicyOn, mem_since_concat he, PolicyOn, eq_comm]

theorem keyRegistered_concat {log : List Entry} {e : Entry} (he : e.isPowerUp = false) :
    KeyRegistered (log ++ [e]) ↔ KeyRegistered log ∨ ∃ addr ic, e = .icAdd addr ic := by
  simp only [KeyRegistered, mem_since_concat he, exists_or, eq_comm]

theorem guarded_quiet {dev : Bool} {log : List Entry} {e : Entry} (h : Guarded dev log)
    (he : e.Quiet) : Guarded dev (log ++ [e]) := by
  obtain ⟨hw, hp⟩ := h
  have hup : e.isPowerUp = false := by cases e <;> first | rfl | exact he.elim
  have hset : e ≠ .setInstallcodePolicy true := by rintro rfl; exact he
  have hadd : ¬∃ addr ic, e = .icAdd addr ic := by rintro ⟨addr, ic, rfl⟩; exact he
  refine ⟨(whenever_concat _ _).mpr ⟨hw, fun _ _ => hp⟩, ?_⟩
  rw [policyOn_concat hup, keyRegistered_concat hup]
  simpa only [hset, hadd, or_false] using hp

theorem Grows.guarded {dev : Bool} {s s' : State} (h : Grows s s') (hs : Guarded dev s.log) :
    Guarded dev s'.log :=
  Extends.induction h hs fun _ _ => guarded_quiet

theorem guarded_register {dev : Bool} {log : List Entry} (h : Guarded dev log) (addr : IeeeAddr)
    (ic : Code) : Guarded dev (log ++ [.setInstallcodePolicy true] ++ [.icAdd addr ic]) := by
  obtain ⟨hw, -⟩ := h
  have hon : PolicyOn (log ++ [.setInstallcodePolicy true] ++ [.icAdd addr ic]) := by
    rw [policyOn_concat rfl, policyOn_concat rfl]
    exact .inl (.inr rfl)
  have hkey : KeyRegistered (log ++ [.setInstallcodePolicy true] ++ [.icAdd addr ic]) := by
    rw [keyRegistered_concat rfl]
    exact .inr ⟨addr, ic, rfl⟩
  constructor
  · rw [whenever_concat, whenever_concat]
    exact ⟨⟨hw, fun _ hc => by simp at hc⟩, fun _ hc => by simp at hc⟩
  · cases dev
    · exact ⟨fun _ => hkey, fun _ => hon⟩
    · exact hon

/-- After a power-up the policy is off and no key is registered, until `main` of
the development build switches the policy on. -/
theorem guarded_boot {dev : Bool} {log : List Entry} (hw : Whenever (SteeringPolicy dev) log) :
    Guarded dev (boot dev log).log := by
  have hup : Whenever (SteeringPolicy dev) (log ++ [.powerUp]) :=
    (whenever_concat _ _).mpr ⟨hw, fun _ hc => by simp at hc⟩
  cases dev
  · refine ⟨hup, ?_⟩
    show PolicyOn (log ++ [.powerUp]) ↔ KeyRegistered (log ++ [.powerUp])
    simp [PolicyOn, KeyRegistered, since_concat, Entry.isPowerUp]
  · refine ⟨(whenever_concat _ _).mpr ⟨hup, fun _ hc => by simp at hc⟩, ?_⟩
    exact (policyOn_concat rfl).mpr (.inr rfl)

theorem dispatchSignal_guarded {dev : Bool} {s : State} (hs : Guarded dev s.log) (z : Zboss)
    (sig : Signal) (status : ℤ) : Guarded dev (dispatchSignal dev s z sig status).log := by
  cases dev
  · exact (dispatchSignal_grows s z sig status).guarded hs
  · have hreg : Guarded true ((registerStaticDevelopmentKeys s).bdbStart z .steering).2.log :=
      (bdbStart_grows _ z .steering).guarded (guarded_register hs devIeeeAddr devInstallCode)
    have hstart : Guarded true (s.bdbStart z .formation).2.log :=
      (bdbStart_grows s z .formation).guarded hs
    have hquiet : ∀ sig, Guarded true (dispatchSignal false s z sig status).log :=
      fun sig => (dispatchSignal_grows s z sig status).guarded hs
    cases sig
    case deviceReboot =>
      simp only [dispatchSignal, if_true]
      split
      · exact hreg
      · exact hstart
    case formation =>
      simp only [dispatchSignal, if_true]
      split
      · exact hreg
      · exact hs
    -- the other cases are the same in both builds
    case deviceFirstStart => exact hquiet .deviceFirstStart
    case steering => exact hquiet .steering
    case deviceAnnce => exact hquiet .deviceAnnce
    case other => exact hquiet .other

theorem icAddCallback_guarded {dev : Bool} {s : State} (hs : Guarded dev s.log) (z : Zboss) :
    Guarded dev (icAddCallback s z).log := by
  -- policy and key come first, everything behind them is quiet
  have hlog : Extends Entry.Quiet (s.log ++ [.setInstallcodePolicy true] ++
      [.icAdd s.gIcAddParams.addr s.gIcAddParams.ic]) (icAddCallback s z).log := by
    refine ⟨(icAddEntries s.gIcAddParams (z.permit && s.bdb.isNone)).drop 2, ?_, ?_⟩
    · rw [icAddCallback_log]
      simp [icAddEntries]
    · intro e he
      simp only [icAddEntries, List.cons_append, List.nil_append, List.drop_succ_cons,
        List.drop_zero, List.mem_cons, List.mem_append, List.mem_map, List.not_mem_nil,
        or_false] at he
      obtain rfl | ⟨i, -, rfl⟩ | rfl | rfl | rfl := he <;> trivial
  exact hlog.induction (guarded_register hs _ _) fun _ _ => guarded_quiet

theorem runCallback_guarded {dev : Bool} {s : State} (hs : Guarded dev s.log) (z : Zboss)
    (cb : Callback) : Guarded dev (runCallback s z cb).log := by
  cases cb with
  | startIdentifying => exact (startIdentifying_grows s z).guarded hs
  | icAddCallback => exact icAddCallback_guarded hs z
  | factoryResetHandler => exact (factoryResetHandler_grows s).guarded hs
  | reopenSteeringCb => exact (reopenSteeringCb_grows s z).guarded hs

theorem step_guarded {dev : Bool} {s s' : State} {e : Event} (h : step dev s e = some s')
    (hs : Guarded dev s.log) : Guarded dev s'.log := by
  cases e with
  | signal sig status bufid z =>
    obtain ⟨t, ht, rfl⟩ := Option.map_eq_some_iff.mp h
    have hd := dispatchSignal_guarded ((deliver_grows ht).guarded hs) z sig status
    exact (zbossSignalHandler_grows bufid (.refl _)).guarded hd
  | uartLine line =>
    obtain rfl := Option.some.inj h
    exact (parseUartCommand_grows s line).guarded hs
  | buttons buttonState hasChanged z =>
    obtain rfl := Option.some.inj h
    exact (buttonChanged_grows s z buttonState hasChanged).guarded hs
  | callback z =>
    obtain ⟨cb, rest, -, rfl⟩ := step_callback h
    exact runCallback_guarded (by exact hs) z cb
  | alarm =>
    obtain ⟨-, rfl⟩ := step_alarm h
    exact guarded_quiet hs trivial
  | tick =>
    obtain rfl | ⟨t, rfl⟩ := step_tick h
    · -- the reboot forgets both the policy and the keys
      exact guarded_boot hs.1
    · exact hs

def formThenAdd : List Event :=
  [.signal .deviceFirstStart 0 7 .willing, .signal .formation 0 8 .willing,
    .signal .steering 0 9 .willing, .uartLine (repeatedLine (text "ic_add ") 48),
    .callback .willing]

/-- The answer to an `ic_add` of this code: success and an open network only for
a valid code, a failure report for any other. -/
structure ReportsHonestly (ic : Code) (out : List Entry) : Prop where
  success : .printk (text "ic_add_success: ") ∈ out → Valid ic
  steering : ∀ accepted, .commissioning .steering accepted ∈ out → Valid ic
  failure : ¬Valid ic → ∃ line, .printk line ∈ out ∧ text "ic_add_failed" <+: line

/-- For every accepted line, and every later state that still holds its
operands: the report of the callback is honest exactly when the code is valid. -/
theorem ic_add_report_honest_iff {s : State} {line : Buffer} {p : IcParams}
    (h : icCommand (text "ic_add ") s.gIcAddParams line = .accepted p) (t : State)
    (ht : t.gIcAddParams = (parseUartCommand s line).gIcAddParams) (z : Zboss) :
    ReportsHonestly p.ic ((icAddCallback t z).log.drop t.log.length) ↔ Valid p.ic := by
  have hp : t.gIcAddParams = p := by rw [ht, parseUartCommand_accepted h]; rfl
  rw [icAddCallback_log, List.drop_left, hp]
  constructor
  · intro hr
    apply hr.success
    simp [icAddEntries]
  · intro hv
    exact ⟨fun _ => hv, fun _ _ => hv, fun hn => absurd hv hn⟩

def zeroIcAdd : Buffer := repeatedLine (text "ic_add ") 48

theorem zeroIcAdd_accepted (old : IcParams) :
    icCommand (text "ic_add ") old zeroIcAdd = .accepted (repeatedParams 48) :=
  icCommand_repeatedLine icAdd_keyword.1 icAdd_keyword.2 old (by decide)

def keyIcAdd (key : Key) : Buffer := text "ic_add " ++ operandText devIeeeAddr key ++ [0]

theorem keyIcAdd_accepted (old : IcParams) (key : Key) :
    icCommand (text "ic_add ") old (keyIcAdd key) = .accepted ⟨devIeeeAddr, installCode key⟩ :=
  (icCommand_operands icAdd_keyword.1 icAdd_keyword.2 old _ []).trans
    (readOperands_operandText _ _)

/-- The all-zero code, then a valid one; a steering window ends before the second
callback. -/
theorem ic_add_report_honest_iff_zeroThenKey :
    let key : Key := fun i => i.val.toUInt8
    let s := parseUartCommand (boot false []) zeroIcAdd
    let t := steeringFinished (parseUartCommand (icAddCallback s .willing) (keyIcAdd key))
    (ReportsHonestly (repeatedParams 48).ic ((icAddCallback s .willing).log.drop s.log.length) ↔
      Valid (repeatedParams 48).ic) ∧
    ReportsHonestly (installCode key) ((icAddCallback t .willing).log.drop t.log.length) := by
  intro key s t
  have hzero := ic_add_report_honest_iff (zeroIcAdd_accepted _) s rfl .willing
  have hkey := ic_add_report_honest_iff (keyIcAdd_accepted _ key) t rfl .willing
  exact ⟨hzero, hkey.mpr (valid_installCode key)⟩

/-- The all-zero code has the wrong checksum and is reported as a success. -/
theorem zero_code_reported_added :
    ¬ReportsHonestly (repeatedParams 48).ic
      ((icAddCallback (parseUartCommand (boot false []) zeroIcAdd) .willing).log.drop 1) := by
  intro h
  have hv : Valid (repeatedParams 48).ic := by
    apply h.success
    rw [parseUartCommand_accepted (zeroIcAdd_accepted _), icAddCallback_log]
    simp [icAddEntries, boot, State.schedule]
  revert hv
  decide +kernel

end ZigbeeGateway.Coordinator
