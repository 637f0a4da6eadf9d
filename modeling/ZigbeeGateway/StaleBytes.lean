import ZigbeeGateway.PairingGrammar

namespace ZigbeeGateway.PairingCommand
open CStrings

/-- Only the line that both buffers hold decides what a parser does; a line that
is no pairing command keeps the parameters, one that is sets them whatever they
were. -/
structure ParsesAlike {S : Type*} (parse : S → Buffer → S) (accepts : S → Buffer → Prop)
    (params : S → IcParams) (line line' : Buffer) : Prop where
  same : ∀ s, parse s line = parse s line'
  refused : ∀ s, ¬ accepts s line → params (parse s line) = params s
  accepted : ∀ s s', accepts s line →
    accepts s' line' ∧ params (parse s' line') = params (parse s line)

section Branch

variable {keyword : List UInt8} (hk : keyword.length = 7) (hz : 0 ∉ keyword)
  {line line' : Buffer} (h : cstr line = cstr line')
include hk hz h

/-- What stands at `line[23]` behind a NUL makes no difference: such a line is
too short. -/
theorem icCommand_cstr (old : IcParams) :
    icCommand keyword old line = icCommand keyword old line' := by
  by_cases hpre : keyword <+: cstr line
  · obtain ⟨rest, hrest, -, hcmd⟩ := icCommand_prefix hk hz hpre old
    obtain ⟨rest', hrest', -, hcmd'⟩ := icCommand_prefix hk hz (h ▸ hpre) old
    have hsame : rest = rest' := List.append_cancel_left (hrest.symm.trans (h.trans hrest'))
    rw [hcmd, hcmd', hsame]
  · rw [icCommand_other hk hz hpre, icCommand_other hk hz (h ▸ hpre)]

theorem parsesAlike_of_cstr {S : Type*} {parse : S → Buffer → S} {accepts : S → Buffer → Prop}
    {params : S → IcParams} (hsame : ∀ s, parse s line = parse s line')
    (haccepted : ∀ s line p, icCommand keyword (params s) line = .accepted p →
      accepts s line ∧ params (parse s line) = p)
    (hrefused : ∀ s line, (∀ p, icCommand keyword (params s) line ≠ .accepted p) →
      ¬ accepts s line ∧ params (parse s line) = params s) :
    ParsesAlike parse accepts params line line' := by
  refine ⟨hsame, ?_, ?_⟩
  · intro s hs
    refine (hrefused s line ?_).2
    intro p hp
    exact hs (haccepted s line p hp).1
  · intro s s' hs
    obtain ⟨p, hp⟩ : ∃ p, icCommand keyword (params s) line = .accepted p := by
      by_contra hno
      rw [not_exists] at hno
      exact (hrefused s line hno).1 hs
    -- the other state has other parameters, which the loops overwrite
    have hp' : icCommand keyword (params s') line' = .accepted p := by
      rw [← icCommand_cstr hk hz h, icCommand_old keyword _ (params s), hp]
    obtain ⟨hacc, hparams⟩ := haccepted s' line' p hp'
    exact ⟨hacc, by rw [hparams, (haccepted s line p hp).2]⟩

end Branch

end ZigbeeGateway.PairingCommand

namespace ZigbeeGateway.Coordinator
open CStrings PairingCommand

def Accepts (s : State) (line : Buffer) : Prop :=
  (parseUartCommand s line).queue = s.queue ++ [.icAddCallback]

theorem parseUartCommand_cstr (s : State) {line line' : Buffer} (h : cstr line = cstr line') :
    parseUartCommand s line = parseUartCommand s line' := by
  have hic := icCommand_cstr icAdd_keyword.1 icAdd_keyword.2 h s.gIcAddParams
  simp only [parseUartCommand, hic, strcmp_eq_zero_iff, h]

theorem parsesAlike {line line' : Buffer} (h : cstr line = cstr line') :
    ParsesAlike parseUartCommand Accepts State.gIcAddParams line line' := by
  apply parsesAlike_of_cstr icAdd_keyword.1 icAdd_keyword.2 h
  · intro s
    exact parseUartCommand_cstr s h
  · intro s line p hp
    rw [Accepts, parseUartCommand_accepted hp]
    exact ⟨rfl, rfl⟩
  · intro s line hno
    exact ⟨parseUartCommand_not_scheduled hno, (parseUartCommand_refused hno).1⟩

end ZigbeeGateway.Coordinator

namespace ZigbeeGateway.EndDevice
open CStrings PairingCommand

def Accepts (cfg : Config) (s : State) (line : Buffer) : Prop :=
  (parseUartCommand cfg s line).queue = s.queue ++ [.icSetCallback]

theorem parseUartCommand_cstr (cfg : Config) (s : State) {line line' : Buffer}
    (h : cstr line = cstr line') : parseUartCommand cfg s line = parseUartCommand cfg s line' := by
  have hic := icCommand_cstr icSet_keyword.1 icSet_keyword.2 h
  simp only [parseUartCommand, hic, strcmp_eq_zero_iff, h]

theorem parsesAlike (cfg : Config) {line line' : Buffer} (h : cstr line = cstr line') :
    ParsesAlike (parseUartCommand cfg) (Accepts cfg) State.gIcSetParams line line' := by
  apply parsesAlike_of_cstr icSet_keyword.1 icSet_keyword.2 h
  · intro s
    exact parseUartCommand_cstr cfg s h
  · intro s line p hp
    rw [Accepts, parseUartCommand_accepted hp]
    exact ⟨rfl, rfl⟩
  · intro s line hno
    exact ⟨parseUartCommand_not_scheduled hno cfg, (parseUartCommand_refused hno cfg).1⟩

end ZigbeeGateway.EndDevice

namespace ZigbeeGateway.StaleBytes
open CStrings PairingCommand

/-- Two buffers that agree up to and including a NUL are parsed alike on both
devices, whatever stands behind the NUL.  With 24 bytes or more `line[23]` is a
byte of the buffer. -/
theorem parsing_ignores_stale_bytes (l : List UInt8) (stale stale' : Buffer)
    (cfg : EndDevice.Config) :
    ParsesAlike Coordinator.parseUartCommand Coordinator.Accepts Coordinator.State.gIcAddParams
        (l ++ 0 :: stale) (l ++ 0 :: stale') ∧
      ParsesAlike (EndDevice.parseUartCommand cfg) (EndDevice.Accepts cfg)
        EndDevice.State.gIcSetParams (l ++ 0 :: stale) (l ++ 0 :: stale') := by
  have h : cstr (l ++ 0 :: stale) = cstr (l ++ 0 :: stale') := by
    rw [cstr_append_zero, cstr_append_zero]
  exact ⟨Coordinator.parsesAlike h, EndDevice.parsesAlike cfg h⟩

end ZigbeeGateway.StaleBytes
