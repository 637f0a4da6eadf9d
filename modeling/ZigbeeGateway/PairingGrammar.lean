import ZigbeeGateway.Coordinator
import ZigbeeGateway.EndDevice

namespace ZigbeeGateway.PairingCommand
open CStrings HexText

def IsHexDigit (c : UInt8) : Prop :=
  ('0'.toUInt8 ≤ c ∧ c ≤ '9'.toUInt8) ∨ ('a'.toUInt8 ≤ c ∧ c ≤ 'f'.toUInt8) ∨
    ('A'.toUInt8 ≤ c ∧ c ≤ 'F'.toUInt8)

instance (c : UInt8) : Decidable (IsHexDigit c) := inferInstanceAs (Decidable (_ ∨ _))

/-- `<keyword><16HEX_IEEE> <36HEX_IC>`, the keyword with its space. -/
def Grammar (keyword line : List UInt8) : Prop :=
  ∃ ieee ic : List UInt8, line = keyword ++ (ieee ++ ' '.toUInt8 :: ic) ∧
    ieee.length = 16 ∧ ic.length = 36 ∧ (∀ c ∈ ieee, IsHexDigit c) ∧ ∀ c ∈ ic, IsHexDigit c

/-- The parser schedules its registration on the lines of the grammar only, and
refuses the other lines that start with the keyword. -/
structure FollowsGrammar (keyword : List UInt8) (line : Buffer) (scheduled refused : Prop) :
    Prop where
  accepts : scheduled ↔ Grammar keyword (cstr line)
  refuses : keyword <+: cstr line → ¬ Grammar keyword (cstr line) → refused

def Strict (keyword : List UInt8) (line : Buffer) : Prop :=
  keyword <+: cstr line → (cstr line).getD 23 0 = ' '.toUInt8 → 60 ≤ strlen line →
    strlen line = 60 ∧ (∀ c ∈ ((cstr line).drop 7).take 16, IsHexDigit c) ∧
      ∀ c ∈ (cstr line).drop 24, IsHexDigit c

theorem grammar_append (keyword rest : List UInt8) :
    Grammar keyword (keyword ++ rest) ↔ rest.getD 16 0 = ' '.toUInt8 ∧ rest.length = 53 ∧
      (∀ c ∈ rest.take 16, IsHexDigit c) ∧ ∀ c ∈ rest.drop 17, IsHexDigit c := by
  constructor
  · rintro ⟨ieee, ic, hrest, hieee, hic, hdigits, hdigits'⟩
    obtain rfl := List.append_cancel_left hrest
    have htake : (ieee ++ ' '.toUInt8 :: ic).take 16 = ieee := List.take_left' hieee
    have hdrop : (ieee ++ ' '.toUInt8 :: ic).drop 17 = ic := by
      rw [show 17 = 16 + 1 from rfl, ← List.drop_drop, List.drop_left' hieee]
      rfl
    refine ⟨?_, by simp [hieee, hic], ?_, ?_⟩
    · rw [List.getD_append_right _ _ _ _ hieee.le, hieee]
      rfl
    · rwa [htake]
    · rwa [hdrop]
  · rintro ⟨hsep, hlen, hieee, hic⟩
    refine ⟨rest.take 16, rest.drop 17, ?_, by simp [hlen], by simp [hlen], hieee, hic⟩
    have h16 : 16 < rest.length := by omega
    rw [List.getD_eq_getElem _ _ h16] at hsep
    rw [← hsep, List.cons_getElem_drop_succ, List.take_append_drop]

theorem readOperands_cases (rest : List UInt8) (h0 : 0 ∉ rest) :
    (rest.getD 16 0 = ' '.toUInt8 ∧ 53 ≤ rest.length ∧
        readOperands rest = .accepted (operands rest)) ∨
      (¬(rest.getD 16 0 = ' '.toUInt8 ∧ 53 ≤ rest.length) ∧ readOperands rest = .invalid) := by
  have hlen : strlen rest = rest.length := by
    rw [strlen, cstr_eq_self h0]
  unfold readOperands
  rw [hlen]
  by_cases hcheck : rest.getD 16 0 = ' '.toUInt8 ∧ 53 ≤ rest.length
  · left
    rw [if_neg]
    · exact ⟨hcheck.1, hcheck.2, rfl⟩
    · rintro (hsep | hshort)
      · exact hsep hcheck.1
      · omega
  · right
    rw [if_pos]
    · exact ⟨hcheck, rfl⟩
    · by_contra hno
      rw [not_or, not_not, not_lt] at hno
      exact hcheck hno

section Branch

variable {keyword : List UInt8}

theorem Grammar.prefix {line : List UInt8} (h : Grammar keyword line) : keyword <+: line := by
  obtain ⟨ieee, ic, rfl, -⟩ := h
  exact List.prefix_append _ _

variable (hk : keyword.length = 7) (hz : 0 ∉ keyword)
include hk hz

theorem strncmp_keyword_iff (line : Buffer) :
    strncmp line keyword 7 = 0 ↔ keyword <+: cstr line := by
  rw [strncmp_eq_zero_iff, cstr_eq_self hz, List.take_of_length_le hk.le,
    List.prefix_iff_eq_take, hk, eq_comm]

theorem icCommand_other {line : Buffer} (h : ¬ keyword <+: cstr line) (old : IcParams) :
    icCommand keyword old line = .other := by
  rw [icCommand, if_neg]
  rwa [strncmp_keyword_iff hk hz]

theorem icCommand_prefix {line : Buffer} (h : keyword <+: cstr line) (old : IcParams) :
    ∃ rest, cstr line = keyword ++ rest ∧ 0 ∉ rest ∧
      icCommand keyword old line = readOperands rest := by
  obtain ⟨tail, rfl⟩ := h.trans (List.takeWhile_prefix _)
  refine ⟨cstr tail, cstr_append_left hz tail, zero_notMem_cstr tail, ?_⟩
  rw [icCommand_keyword hk hz, readOperands_cstr]

omit hz in
theorem strict_iff {line rest : List UInt8} (hrest : cstr line = keyword ++ rest) :
    Strict keyword line ↔ (rest.getD 16 0 = ' '.toUInt8 → 53 ≤ rest.length →
      rest.length = 53 ∧ (∀ c ∈ rest.take 16, IsHexDigit c) ∧
        ∀ c ∈ rest.drop 17, IsHexDigit c) := by
  have hsep : (keyword ++ rest).getD 23 0 = rest.getD 16 0 := by
    rw [List.getD_append_right _ _ _ _ (by omega), hk]
  have hlen : (keyword ++ rest).length = rest.length + 7 := by
    rw [List.length_append, hk, Nat.add_comm]
  have hieee : (keyword ++ rest).drop 7 = rest := List.drop_left' hk
  have hic : (keyword ++ rest).drop 24 = rest.drop 17 := by
    rw [show 24 = 7 + 17 from rfl, ← List.drop_drop, hieee]
  rw [Strict, strlen, hrest, hsep, hlen, hieee, hic]
  simp only [List.prefix_append, true_imp_iff, Nat.reduceLeDiff, Nat.reduceEqDiff]

/-- A parser that schedules on accepted lines and replies to invalid ones
follows the grammar on a line exactly when the line is none that it takes
although it should not. -/
theorem followsGrammar_iff {line : Buffer} (old : IcParams) {scheduled refused : Prop}
    (haccepted : ∀ p, icCommand keyword old line = .accepted p → scheduled ∧ ¬ refused)
    (hinvalid : icCommand keyword old line = .invalid → ¬ scheduled ∧ refused)
    (hother : icCommand keyword old line = .other → ¬ scheduled) :
    FollowsGrammar keyword line scheduled refused ↔ Strict keyword line := by
  by_cases hpre : keyword <+: cstr line
  · obtain ⟨rest, hrest, h0, hcmd⟩ := icCommand_prefix hk hz hpre old
    have hgrammar := grammar_append keyword rest
    rw [strict_iff hk hrest]
    rcases readOperands_cases rest h0 with ⟨hsep, hlen, hread⟩ | ⟨hcheck, hread⟩
    · -- taken: then the line has to be one of the grammar
      obtain ⟨hs, hr⟩ := haccepted _ (hcmd.trans hread)
      constructor
      · intro h _ _
        exact (hgrammar.mp (hrest ▸ h.accepts.mp hs)).2
      · intro h
        have hg : Grammar keyword (cstr line) := hrest ▸ hgrammar.mpr ⟨hsep, h hsep hlen⟩
        exact ⟨iff_of_true hs hg, fun _ hng => absurd hg hng⟩
    · -- refused: then it is none
      obtain ⟨hs, hr⟩ := hinvalid (hcmd.trans hread)
      have hng : ¬ Grammar keyword (cstr line) := by
        rw [hrest, hgrammar]
        rintro ⟨hsep, hlen, -⟩
        exact hcheck ⟨hsep, by omega⟩
      refine iff_of_true ⟨iff_of_false hs hng, fun _ _ => hr⟩ ?_
      intro hsep hlen
      exact absurd ⟨hsep, hlen⟩ hcheck
  · have hs := hother (icCommand_other hk hz hpre old)
    refine iff_of_true ⟨?_, fun h => absurd h hpre⟩ fun h => absurd h hpre
    exact iff_of_false hs fun h => hpre h.prefix

end Branch

end ZigbeeGateway.PairingCommand

namespace ZigbeeGateway
open CStrings PairingCommand

def Coordinator.FollowsIcAdd (s : Coordinator.State) (line : Buffer) : Prop :=
  FollowsGrammar (text "ic_add ") line
    ((Coordinator.parseUartCommand s line).queue = s.queue ++ [.icAddCallback])
    (Coordinator.parseUartCommand s line = s.printk (text "ic_add_failed: invalid format\n"))

def EndDevice.FollowsIcSet (cfg : EndDevice.Config) (s : EndDevice.State) (line : Buffer) : Prop :=
  FollowsGrammar (text "ic_set ") line
    ((EndDevice.parseUartCommand cfg s line).queue = s.queue ++ [.icSetCallback])
    (EndDevice.parseUartCommand cfg s line =
      (s.printk (text "Parsed UART Command: '" ++ cstr line ++ text "'\n")).printk
        (text "ic_set_failed: invalid format\n"))

theorem Coordinator.followsIcAdd_iff (s : Coordinator.State) (line : Buffer) :
    Coordinator.FollowsIcAdd s line ↔ Strict (text "ic_add ") line := by
  apply followsGrammar_iff icAdd_keyword.1 icAdd_keyword.2 s.gIcAddParams
  · intro p hp
    rw [Coordinator.parseUartCommand_accepted hp]
    refine ⟨rfl, fun h => ?_⟩
    have hq : s.queue ++ [.icAddCallback] = s.queue := congrArg Coordinator.State.queue h
    simp at hq
  · intro hinv
    refine ⟨Coordinator.parseUartCommand_not_scheduled (by simp [hinv]), ?_⟩
    rw [Coordinator.parseUartCommand, hinv]
  · intro hother
    exact Coordinator.parseUartCommand_not_scheduled (by simp [hother])

theorem EndDevice.followsIcSet_iff (cfg : EndDevice.Config) (s : EndDevice.State)
    (line : Buffer) : EndDevice.FollowsIcSet cfg s line ↔ Strict (text "ic_set ") line := by
  apply followsGrammar_iff icSet_keyword.1 icSet_keyword.2 s.gIcSetParams
  · intro p hp
    rw [EndDevice.parseUartCommand_accepted hp]
    refine ⟨rfl, fun h => ?_⟩
    have hq : s.queue ++ [.icSetCallback] = s.queue := congrArg EndDevice.State.queue h
    simp at hq
  · intro hinv
    have hinv' : icCommand (text "ic_set ") (s.printk (text "Parsed UART Command: '" ++
        cstr line ++ text "'\n")).gIcSetParams line = .invalid := hinv
    refine ⟨EndDevice.parseUartCommand_not_scheduled (by simp [hinv]) cfg, ?_⟩
    unfold EndDevice.parseUartCommand
    dsimp only
    rw [hinv']
  · intro hother
    exact EndDevice.parseUartCommand_not_scheduled (by simp [hother]) cfg

/-- Both parsers follow the documented grammar on a line exactly when the line
is not one with the keyword, the separator and operands long enough that has
more behind them or a byte in them that is no digit. -/
theorem parsers_follow_grammar_iff (s : Coordinator.State) (cfg : EndDevice.Config)
    (t : EndDevice.State) (line : Buffer) :
    (Coordinator.FollowsIcAdd s line ↔ Strict (text "ic_add ") line) ∧
      (EndDevice.FollowsIcSet cfg t line ↔ Strict (text "ic_set ") line) :=
  ⟨Coordinator.followsIcAdd_iff s line, EndDevice.followsIcSet_iff cfg t line⟩

/-- A typing error in every digit of the address and of the code: `g` is taken
as the digit 0. -/
theorem typing_error_accepted :
    ¬∀ (s : Coordinator.State) (line : Buffer), 0 ∈ line → Coordinator.FollowsIcAdd s line := by
  intro h
  have hfollows := h (Coordinator.boot false []) (repeatedLine (text "ic_add ") 'g'.toUInt8)
    (by decide)
  rw [Coordinator.followsIcAdd_iff, Strict] at hfollows
  revert hfollows
  decide +kernel

end ZigbeeGateway
