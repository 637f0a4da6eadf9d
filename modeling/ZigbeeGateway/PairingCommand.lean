import ZigbeeGateway.InstallCode
import Mathlib.Data.List.FinRange
import Mathlib.Data.List.GetD
import Mathlib.Data.List.TakeWhile
import Mathlib.Data.Fintype.Pi

namespace ZigbeeGateway.PairingCommand
open CStrings HexText InstallCode

/-- `g_ic_add_params` and `g_ic_set_params`. -/
structure IcParams where
  addr : IeeeAddr
  ic : Code
  deriving DecidableEq

def IcParams.zero : IcParams := ⟨fun _ => 0, fun _ => 0⟩

/-- What the pairing branch of `parse_uart_command` makes of a line. -/
inductive IcLine
  | other
  | invalid
  | accepted (p : IcParams)
  deriving DecidableEq

def IcLine.params : IcLine → Option IcParams
  | .accepted p => some p
  | _ => none

/-- The two decoding loops, over the parameters of the command before. -/
def decodeOperands (old : IcParams) (line : Buffer) : IcParams where
  addr := (List.finRange 8).foldl
    (fun a (i : Fin 8) => Function.update a i.rev (hexPairToByte ((line.drop 7).drop (i * 2))))
    old.addr
  ic := (List.finRange 18).foldl
    (fun a (i : Fin 18) => Function.update a i (hexPairToByte ((line.drop 24).drop (i * 2))))
    old.ic

/-- The pairing branch of `parse_uart_command`, for one keyword. -/
def icCommand (keyword : List UInt8) (old : IcParams) (line : Buffer) : IcLine :=
  if strncmp line keyword 7 = 0 then
    if line.getD 23 0 ≠ ' '.toUInt8 ∨ strlen (line.drop 7) < 53 then .invalid
    else .accepted (decodeOperands old line)
  else .other

theorem foldl_update {n : ℕ} {β : Type*} (at' : Fin n → Fin n) (hinj : Function.Injective at')
    (f : Fin n → β) (l : List (Fin n)) (a : Fin n → β) (i : Fin n) :
    l.foldl (fun a i => Function.update a (at' i) (f i)) a (at' i) =
      if i ∈ l then f i else a (at' i) := by
  induction l generalizing a with
  | nil => simp
  | cons j l ih =>
    rw [List.foldl_cons, ih]
    by_cases hij : i = j
    · subst hij
      simp
    · -- round `j` writes elsewhere
      have hne : at' i ≠ at' j := fun h => hij (hinj h)
      simp [hij, hne]

def operands (rest : Buffer) : IcParams where
  addr := fun j => hexPairToByte (rest.drop (2 * j.rev))
  ic := fun j => hexPairToByte (rest.drop (17 + 2 * j))

/-- The loops overwrite every byte of the old parameters. -/
theorem decodeOperands_eq (old : IcParams) (line : Buffer) :
    decodeOperands old line = operands (line.drop 7) := by
  -- both loops write every byte once, the first from the top down
  have haddr := foldl_update (n := 8) Fin.rev Fin.rev_injective
    (fun i => hexPairToByte ((line.drop 7).drop (i * 2))) (List.finRange 8) old.addr
  have hic := foldl_update (n := 18) id Function.injective_id
    (fun i => hexPairToByte ((line.drop 24).drop (i * 2))) (List.finRange 18) old.ic
  simp only [decodeOperands, operands, IcParams.mk.injEq]
  constructor
  · funext j
    have hj := haddr j.rev
    simp only [Fin.rev_rev, List.mem_finRange, if_true] at hj
    rw [hj, Nat.mul_comm]
  · funext j
    have hj := hic j
    simp only [id, List.mem_finRange, if_true] at hj
    rw [hj]
    simp only [List.drop_drop]
    congr 2
    omega

/-- The old parameters do not matter. -/
theorem icCommand_old (keyword : List UInt8) (old old' : IcParams) (line : Buffer) :
    icCommand keyword old line = icCommand keyword old' line := by
  simp only [icCommand, decodeOperands_eq]

def readOperands (rest : Buffer) : IcLine :=
  if rest.getD 16 0 ≠ ' '.toUInt8 ∨ strlen rest < 53 then .invalid else .accepted (operands rest)

theorem getD_cstr {buf : Buffer} {i : ℕ} (h : i < strlen buf) :
    buf.getD i 0 = (cstr buf).getD i 0 := by
  obtain ⟨stale, hs⟩ := List.takeWhile_prefix (fun c : UInt8 => decide (c ≠ 0)) (l := buf)
  conv_lhs => rw [← hs]
  exact List.getD_append _ _ _ _ h

theorem hexPairToByte_cstr {buf : Buffer} {i : ℕ} (h : i + 1 < strlen buf) :
    hexPairToByte (buf.drop i) = hexPairToByte ((cstr buf).drop i) := by
  have h0 := getD_cstr (show i < strlen buf by omega)
  have h1 := getD_cstr h
  simp only [hexPairToByte, List.getD_eq_getElem?_getD, List.getElem?_drop, Nat.add_zero] at *
  rw [h0, h1]

theorem cstr_idem (buf : Buffer) : cstr (cstr buf) = cstr buf := List.takeWhile_idem

theorem readOperands_cstr (rest : Buffer) : readOperands (cstr rest) = readOperands rest := by
  have hlen : strlen (cstr rest) = strlen rest := by rw [strlen, cstr_idem, strlen]
  unfold readOperands
  by_cases hshort : strlen rest < 53
  · simp [hlen, hshort]
  · have hsep := getD_cstr (show 16 < strlen rest by omega)
    have hops : operands (cstr rest) = operands rest := by
      simp only [operands, IcParams.mk.injEq]
      constructor
      · funext j
        exact (hexPairToByte_cstr (by omega)).symm
      · funext j
        exact (hexPairToByte_cstr (by omega)).symm
    rw [hlen, hops, hsep]

/-- On a line that starts with its keyword the branch reads the operands. -/
theorem icCommand_keyword {keyword : List UInt8} (hk : keyword.length = 7) (hz : 0 ∉ keyword)
    (old : IcParams) (rest : Buffer) :
    icCommand keyword old (keyword ++ rest) = readOperands rest := by
  have hcmp : strncmp (keyword ++ rest) keyword 7 = 0 := by
    have hpre : ∀ r : Buffer, (cstr (keyword ++ r)).take 7 = keyword := by
      intro r
      rw [cstr_append_left hz, List.take_append_of_le_length (by omega),
        List.take_of_length_le (by omega)]
    rw [strncmp_eq_zero_iff, hpre rest]
    simpa using (hpre []).symm
  have hdrop : (keyword ++ rest).drop 7 = rest := by rw [← hk, List.drop_left]
  have hsep : (keyword ++ rest).getD 23 0 = rest.getD 16 0 := by
    rw [List.getD_append_right _ _ _ _ (by omega), hk]
  rw [icCommand, if_pos hcmp, decodeOperands_eq, hdrop, hsep, readOperands]

/-- Only the operand string matters, not the keyword, the parameters before or
the bytes behind the NUL. -/
theorem icCommand_operands {keyword : List UInt8} (hk : keyword.length = 7) (hz : 0 ∉ keyword)
    (old : IcParams) (s : List UInt8) (stale : Buffer) :
    icCommand keyword old (keyword ++ s ++ 0 :: stale) = readOperands s := by
  rw [List.append_assoc, icCommand_keyword hk hz, ← readOperands_cstr,
    cstr_append_zero, readOperands_cstr]

theorem icAdd_keyword : (text "ic_add ").length = 7 ∧ 0 ∉ text "ic_add " := by decide

theorem icSet_keyword : (text "ic_set ").length = 7 ∧ 0 ∉ text "ic_set " := by decide

theorem strlen_operandText (selfIeee : IeeeAddr) (key : Key) :
    strlen (operandText selfIeee key) = 53 := by
  have hz : 0 ∉ operandText selfIeee key := by
    simp only [operandText, List.mem_append, not_or]
    exact ⟨⟨zero_notMem_hexText _, by decide⟩, zero_notMem_hexText _⟩
  have hsp : (text " ").length = 1 := by decide
  rw [strlen, cstr_eq_self hz, operandText]
  simp [hsp]

/-- The operands that the end device prints are accepted and give the address
and the code back. -/
theorem readOperands_operandText (selfIeee : IeeeAddr) (key : Key) :
    readOperands (operandText selfIeee key) = .accepted ⟨selfIeee, installCode key⟩ := by
  have hsp : text " " = [' '.toUInt8] := by decide
  have hlen := strlen_operandText selfIeee key
  generalize hA : (List.ofFn fun i : Fin 8 => selfIeee i.rev) = A at *
  generalize hC : List.ofFn (installCode key) = C at *
  have hAl : A.length = 8 := by simp [← hA]
  have hCl : C.length = 18 := by simp [← hC]
  have htext : operandText selfIeee key = hexText A ++ ([' '.toUInt8] ++ hexText C) := by
    rw [operandText, hA, hC, hsp, List.append_assoc]
  rw [htext] at hlen ⊢
  have hsep : (hexText A ++ ([' '.toUInt8] ++ hexText C)).getD 16 0 = ' '.toUInt8 := by
    rw [List.getD_append_right _ _ _ _ (by simp [hAl])]
    simp [hAl]
  rw [readOperands, hsep, hlen, if_neg (by simp)]
  simp only [operands, IcLine.accepted.injEq, IcParams.mk.injEq]
  constructor
  · funext j
    rw [hexPairToByte_hexText A j.rev (by omega)]
    subst hA
    rw [List.getElem_ofFn]
    exact congrArg selfIeee (Fin.rev_rev j)
  · funext j
    -- the code starts behind sixteen digits and the space
    have hdrop : (hexText A ++ ([' '.toUInt8] ++ hexText C)).drop (17 + 2 * j) =
        (hexText C ++ []).drop (2 * j) := by
      rw [← List.append_assoc, ← List.drop_drop, List.append_nil]
      congr 1
      exact List.drop_left' (by simp [hAl])
    rw [hdrop, hexPairToByte_hexText C j (by omega)]
    subst hC
    rw [List.getElem_ofFn]

def repeatedLine (keyword : List UInt8) (d : UInt8) : Buffer :=
  keyword ++ (List.replicate 16 d ++ (text " " ++ (List.replicate 36 d ++ [0])))

def repeatedParams (d : UInt8) : IcParams :=
  ⟨fun _ => hexPairToByte [d, d], fun _ => hexPairToByte [d, d]⟩

theorem hexPairToByte_replicate {n i : ℕ} (h : i + 1 < n) (d : UInt8) (rest : Buffer) :
    hexPairToByte ((List.replicate n d ++ rest).drop i) = hexPairToByte [d, d] := by
  have hget : ∀ k, k < n → (List.replicate n d ++ rest)[k]? = some d := by
    intro k hk
    rw [List.getElem?_append_left (by simpa using hk), List.getElem?_replicate, if_pos hk]
  simp [hexPairToByte, List.getD_eq_getElem?_getD, hget i (by omega), hget (i + 1) h]

theorem icCommand_repeatedLine {keyword : List UInt8} (hk : keyword.length = 7)
    (hz : 0 ∉ keyword) (old : IcParams) {d : UInt8} (hd : d ≠ 0) :
    icCommand keyword old (repeatedLine keyword d) = .accepted (repeatedParams d) := by
  have hsp : text " " = [' '.toUInt8] := by decide
  have hne : ' '.toUInt8 ≠ 0 := by decide
  rw [repeatedLine, icCommand_keyword hk hz, readOperands, hsp]
  generalize ' '.toUInt8 = sp at *
  have hlen : strlen (List.replicate 16 d ++ ([sp] ++ (List.replicate 36 d ++ [0]))) = 53 := by
    simp [strlen, cstr, hd, hne]
  have hsep : (List.replicate 16 d ++ ([sp] ++ (List.replicate 36 d ++ [0]))).getD 16 0 = sp := by
    rw [List.getD_append_right _ _ _ _ (by simp)]
    simp
  have hacc : operands (List.replicate 16 d ++ ([sp] ++ (List.replicate 36 d ++ [0]))) =
      repeatedParams d := by
    apply congrArg₂ IcParams.mk
    · funext j
      exact hexPairToByte_replicate (by omega) d _
    · funext j
      rw [← List.append_assoc, ← List.drop_drop, List.drop_left' (by simp)]
      exact hexPairToByte_replicate (by omega) d _
  rw [hsep, hlen, hacc, if_neg (by simp)]

end ZigbeeGateway.PairingCommand
