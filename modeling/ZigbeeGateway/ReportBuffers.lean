import ZigbeeGateway.ReportPipeline
import ZigbeeGateway.BufferLedger

namespace ZigbeeGateway.EndDevice
open CStrings PairingCommand Histories Bmp180 BufferLedger

def moveOf (b : ℕ) : Entry → Option Move
  | .signal _ _ bufid | .granted bufid => if bufid = b then some .hand else none
  | .bufFree bufid => if bufid = b then some .free else none
  | .writeAttr req => if req.bufid = b then some .lend else none
  | .confirmed bufid _ => if bufid = b then some .giveBack else none
  | _ => none

def bufferMoves (b : ℕ) (log : List Entry) : List Move :=
  (since Entry.isPowerUp log).filterMap (moveOf b)

def Entry.isWrite : Entry → Bool
  | .writeAttr _ => true
  | _ => false

theorem bufferMoves_append {b : ℕ} (log : List Entry) {l : List Entry}
    (h : ∀ e ∈ l, e.isPowerUp = false) :
    bufferMoves b (log ++ l) = bufferMoves b log ++ l.filterMap (moveOf b) := by
  rw [bufferMoves, since_append log h, List.filterMap_append, bufferMoves]

theorem bufferMoves_powerUp (b : ℕ) (log : List Entry) :
    bufferMoves b (log ++ [.powerUp]) = [] := by
  rw [bufferMoves, since_concat]
  rfl

theorem bufferMoves_idle (b : ℕ) {log l : List Entry} (h : Extends Entry.Idle log l) :
    bufferMoves b l = bufferMoves b log := by
  obtain ⟨m, rfl, hm⟩ := h
  have hnone : m.filterMap (moveOf b) = [] := by
    apply List.filterMap_eq_nil_iff.mpr
    intro e he
    have hidle := hm e he
    cases e <;> first | rfl | exact hidle.elim
  rw [bufferMoves_append, hnone, List.append_nil]
  intro e he
  have hidle := hm e he
  cases e <;> first | rfl | exact hidle.elim

theorem counts_idle {log l : List Entry} (h : Extends Entry.Idle log l) :
    l.countP Entry.isWrite = log.countP Entry.isWrite ∧
      l.count .rtcCompare = log.count .rtcCompare := by
  obtain ⟨m, rfl, hm⟩ := h
  have hwrite : m.countP Entry.isWrite = 0 := by
    rw [List.countP_eq_zero]
    intro e he hw
    have hidle := hm e he
    cases e <;> first | exact hidle.elim | exact absurd hw (by simp [Entry.isWrite])
  have hcompare : m.count .rtcCompare = 0 := by
    rw [List.count_eq_zero]
    intro he
    exact hm _ he
  rw [List.countP_append, List.count_append, hwrite, hcompare]
  exact ⟨rfl, rfl⟩

/-- Two entries about one buffer add their two moves to that buffer only. -/
theorem bufferMoves_pair {log log' : List Entry} {e e' : Entry} {bufid : ℕ} {m m' : Move}
    (hlog : log' = log ++ [e, e']) (he : e.isPowerUp = false) (he' : e'.isPowerUp = false)
    (hm : ∀ b, moveOf b e = if bufid = b then some m else none)
    (hm' : ∀ b, moveOf b e' = if bufid = b then some m' else none) (b : ℕ) :
    bufferMoves b log' = bufferMoves b log ++ if bufid = b then [m, m'] else [] := by
  rw [hlog, bufferMoves_append log (by simp [he, he'])]
  by_cases hb : bufid = b
  · simp [hm, hm', hb]
  · simp [hm, hm', hb]

/-- No buffer is left with the application between two events: it is back in
the pool, or lent to the stack by a request that waits for its confirmation. -/
structure State.Accounted (s : State) : Prop where
  nodup : s.requestsInFlight.Nodup
  owner : ∀ b ≠ 0, owner (bufferMoves b s.log) =
    some (if b ∈ s.requestsInFlight then .service else .pool)
  writes : s.log.countP Entry.isWrite + s.pipeline ≤ s.log.count .rtcCompare

theorem boot_accounted (cfg : Config) (answers : ℕ → Answer) {log : List Entry}
    (h : log.countP Entry.isWrite ≤ log.count .rtcCompare) : (boot cfg answers log).Accounted := by
  refine ⟨List.nodup_nil, fun b _ => ?_, ?_⟩
  · show BufferLedger.owner (bufferMoves b (log ++ [.powerUp])) = _
    rw [bufferMoves_powerUp]
    rfl
  · simpa [boot, State.pipeline, List.countP_append, List.count_append, Entry.isWrite] using h

/-- Moves of one buffer leave the account of the others alone. -/
theorem owner_of_moves {s s' : State} {bufid : ℕ} {ms : List Move}
    (hs : ∀ b ≠ 0, owner (bufferMoves b s.log) =
      some (if b ∈ s.requestsInFlight then .service else .pool))
    (hmoves : ∀ b ≠ 0, bufferMoves b s'.log = bufferMoves b s.log ++ if bufid = b then ms else [])
    (hmoved : ms.foldlM Owner.act (if bufid ∈ s.requestsInFlight then .service else .pool) =
      some (if bufid ∈ s'.requestsInFlight then .service else .pool))
    (hothers : ∀ b ≠ bufid, b ∈ s'.requestsInFlight ↔ b ∈ s.requestsInFlight) :
    ∀ b ≠ 0, owner (bufferMoves b s'.log) =
      some (if b ∈ s'.requestsInFlight then .service else .pool) := by
  intro b hb
  rw [hmoves b hb]
  by_cases h : bufid = b
  · subst h
    rw [if_pos rfl, owner_append, hs bufid hb, Option.bind_some, hmoved]
  · rw [if_neg h, List.append_nil, hs b hb]
    simp only [hothers b (Ne.symm h)]

/-- A new request takes its place in the pipeline from a report. -/
theorem writes_append {s s' : State} {l : List Entry}
    (hs : s.log.countP Entry.isWrite + s.pipeline ≤ s.log.count .rtcCompare)
    (hlog : s'.log = s.log ++ l)
    (hl : l.countP Entry.isWrite + s'.pipeline ≤ s.pipeline + l.count .rtcCompare) :
    s'.log.countP Entry.isWrite + s'.pipeline ≤ s'.log.count .rtcCompare := by
  rw [hlog, List.countP_append, List.count_append]
  omega

/-- The moves of a signal's buffer: handed out with the signal, freed by the
last entry of the handler. -/
theorem bufferMoves_signal {log l log' : List Entry} {sig : Signal} {status : ℤ} {bufid b : ℕ}
    (hl : Extends Entry.Idle (log ++ [.signal sig status bufid]) l)
    (hlog : log' = l ++ [.bufFree bufid] ∨ bufid = 0 ∧ log' = l) (hb : b ≠ 0) :
    bufferMoves b log' = bufferMoves b log ++ if bufid = b then [.hand, .free] else [] := by
  have hl' := bufferMoves_idle b hl
  rw [bufferMoves_append _ (by simp [Entry.isPowerUp])] at hl'
  obtain hlog | ⟨h0, hlog⟩ := hlog
  · rw [hlog, bufferMoves_append _ (by simp [Entry.isPowerUp]), hl']
    by_cases h : bufid = b <;> simp [moveOf, h]
  · have h : bufid ≠ b := by omega
    rw [hlog, hl']
    simp [moveOf, h]

theorem effect_accounted {cfg : Config} {s s' : State} {e : Event} (h : Effect cfg s e s')
    (hs : s.Accounted) : s'.Accounted := by
  obtain ⟨hnodup, howner, hwrites⟩ := hs
  cases h with
  | idle _ hidle =>
    obtain ⟨hw, hc⟩ := counts_idle hidle.log
    have hpipe := hidle.pipeline
    refine ⟨hidle.requests ▸ hnodup, fun b hb => ?_, by omega⟩
    rw [bufferMoves_idle b hidle.log, hidle.requests]
    exact howner b hb
  | reboot answers _ => exact boot_accounted cfg answers (by omega)
  | compare hlog _ hreq hpipe =>
    refine ⟨hreq ▸ hnodup, fun b hb => ?_, ?_⟩
    · have hnone : [Entry.rtcCompare, .rtcRestart 32].filterMap (moveOf b) = [] := rfl
      rw [hlog, bufferMoves_append _ (by simp [Entry.isPowerUp]), hnone, List.append_nil, hreq]
      exact howner b hb
    · apply writes_append hwrites hlog
      simpa [Entry.isWrite] using hpipe
  | @signal sig status bufid env _ l hfree hl hlog _ hreq hpipe =>
    refine ⟨hreq ▸ hnodup, ?_, ?_⟩
    · apply owner_of_moves howner (fun b hb => bufferMoves_signal hl hlog hb)
      · simp [hreq, hfree, Owner.act]
      · simp [hreq]
    · obtain ⟨hw, hc⟩ := counts_idle hl
      obtain hlog | ⟨-, hlog⟩ := hlog
      all_goals
        rw [hlog]
        simp [List.countP_append, List.count_append, Entry.isWrite] at hw hc ⊢
        omega
  | @readFailed bufid tempRaw env _ _ hfree hlog _ hreq hpipe =>
    refine ⟨hreq ▸ hnodup, ?_, ?_⟩
    · apply owner_of_moves howner fun b _ => bufferMoves_pair hlog rfl rfl (fun _ => rfl)
        (fun _ => rfl) b
      · simp [hreq, hfree, Owner.act]
      · simp [hreq]
    · apply writes_append hwrites hlog
      simpa [Entry.isWrite] using hpipe
  | @write bufid tempRaw env _ req _ hfree hbuf hlog _ hreq hpipe =>
    -- handed out by the grant, lent to the stack by the request
    refine ⟨?_, ?_, ?_⟩
    · rw [hreq]
      exact hnodup.append (List.nodup_singleton bufid) (by simpa using hfree)
    · apply owner_of_moves howner fun b _ => bufferMoves_pair hlog rfl rfl (fun _ => rfl)
        (fun b => by rw [moveOf, hbuf]) b
      · simp [hreq, hfree, Owner.act]
      · intro b hb
        simp [hreq, hb]
    · apply writes_append hwrites hlog
      simp [Entry.isWrite]
      omega
  | @confirm bufid status _ hmem hlog _ hreq hpipe =>
    -- given back by the confirmation, freed by its callback
    have hgone : bufid ∉ s'.requestsInFlight := hreq ▸ hnodup.not_mem_erase
    refine ⟨hreq ▸ hnodup.erase bufid, ?_, ?_⟩
    · apply owner_of_moves howner fun b _ => bufferMoves_pair hlog rfl rfl (fun _ => rfl)
        (fun _ => rfl) b
      · simp [hmem, hgone, Owner.act]
      · intro b hb
        rw [hreq, List.mem_erase_of_ne hb]
    · apply writes_append hwrites hlog
      simpa [Entry.isWrite] using hpipe.le

section Runs

variable {cfg : Config} {answers : ℕ → Answer} {es : List Event} {s : State}

theorem run_accounted (h : Run (Fires (step cfg)) (boot cfg answers []) es s) : s.Accounted := by
  apply Run.invariant (P := State.Accounted) h (boot_accounted cfg answers le_rfl)
  intro s e s' hs hstep
  exact effect_accounted (step_effect hstep) hs

/-- In every run, each non-zero buffer makes legal moves only and ends up in the
pool or lent to a request in flight; it has been freed once for each time it was
handed out, except for the request in flight, whose confirmation can come and
then frees it; and there are at most as many requests as compare events.  The
default signal handler is assumed to succeed: a failing one stops the firmware
with the buffer of the signal still held. -/
theorem report_buffers_accounted (h : Run (Fires (step cfg)) (boot cfg answers []) es s) :
    (∀ b ≠ 0, owner (bufferMoves b s.log) =
        some (if b ∈ s.requestsInFlight then .service else .pool) ∧
      (bufferMoves b s.log).count .hand =
        (bufferMoves b s.log).count .free + if b ∈ s.requestsInFlight then 1 else 0) ∧
    (∀ b ∈ s.requestsInFlight, b ≠ 0 → ∀ status, ∃ s',
      step cfg s (.confirm b status) = some s' ∧ owner (bufferMoves b s'.log) = some .pool) ∧
    s.log.countP Entry.isWrite ≤ s.log.count .rtcCompare := by
  have hs := run_accounted h
  refine ⟨fun b hb => ⟨hs.owner b hb, ?_⟩, fun b hb h0 status => ?_, ?_⟩
  · rw [count_hand (hs.owner b hb)]
    split <;> rfl
  · have hstep : step cfg s (.confirm b status) = some (writeAttrCallback
        ({ s with requestsInFlight := s.requestsInFlight.erase b }.emit (.confirmed b status)) b) :=
      if_pos hb
    have hs' := effect_accounted (step_effect hstep) hs
    refine ⟨_, hstep, ?_⟩
    rw [hs'.owner b h0]
    exact congrArg some (if_neg hs.nodup.not_mem_erase)
  · have hw := hs.writes
    omega

end Runs

def twoReports : List Event :=
  [.signal .deviceFirstStart 0 3 .working, .signal .steering 0 5 .working, .rtcInterrupt 0 true,
    .work, .callback .working, .grant 7 0 .working, .confirm 7 0, .rtcInterrupt 0 true, .work,
    .callback .working, .grant 5 0 .working]

theorem report_buffers_accounted_twoReports :
    ∃ s, exec (step .production) (boot .production Env.working.answers []) twoReports = some s ∧
      (∀ b ≠ 0, owner (bufferMoves b s.log) =
          some (if b ∈ s.requestsInFlight then .service else .pool) ∧
        (bufferMoves b s.log).count .hand =
          (bufferMoves b s.log).count .free + if b ∈ s.requestsInFlight then 1 else 0) ∧
      (∀ b ∈ s.requestsInFlight, b ≠ 0 → ∀ status, ∃ s',
        step .production s (.confirm b status) = some s' ∧
          owner (bufferMoves b s'.log) = some .pool) ∧
      s.log.countP Entry.isWrite ≤ s.log.count .rtcCompare := by
  obtain ⟨s, hs⟩ : ∃ s, exec (step .production) (boot .production Env.working.answers [])
      twoReports = some s := ⟨_, rfl⟩
  exact ⟨s, hs, report_buffers_accounted (run_of_exec hs)⟩

end ZigbeeGateway.EndDevice
