import ZigbeeGateway.HexText
import Mathlib.Data.List.Induction
import Mathlib.Data.List.OfFn
import Mathlib.Logic.Function.Iterate
import Mathlib.Data.Fin.Rev

namespace ZigbeeGateway.InstallCode
open CStrings HexText

abbrev IeeeAddr := Fin 8 → UInt8

abbrev Key := Fin 16 → UInt8

/-- A key with its two checksum bytes behind it. -/
abbrev Code := Fin 18 → UInt8

def crcBit (crc : BitVec 16) : BitVec 16 :=
  -- one round of the inner loop
  if crc &&& 1 ≠ 0 then crc >>> 1 ^^^ 0x8408 else crc >>> 1

def crcByte (crc : BitVec 16) (b : UInt8) : BitVec 16 :=
  -- one round of the outer loop
  crcBit^[8] (crc ^^^ b.toBitVec.setWidth 16)

def icCrc16X25 (data : List UInt8) : BitVec 16 := data.foldl crcByte 0xFFFF ^^^ 0xFFFF

def lowByte (crc : BitVec 16) : UInt8 := ⟨(crc &&& 0xFF).setWidth 8⟩

def highByte (crc : BitVec 16) : UInt8 := ⟨(crc >>> 8 &&& 0xFF).setWidth 8⟩

/-- `ic[18]` of `print_production_pairing_commands`: the key, then the low and
the high byte of its checksum. -/
def installCode (key : Key) : Code := fun i =>
  let crc := icCrc16X25 (List.ofFn key)
  if h : i.val < 16 then key ⟨i.val, h⟩ else if i.val = 16 then lowByte crc else highByte crc

def keyOf (ic : Code) : Key := fun i => ic (i.castLE (by decide))

/-- The last two bytes are the little-endian checksum of the first sixteen. -/
def Valid (ic : Code) : Prop :=
  ic 16 = lowByte (icCrc16X25 (List.ofFn (keyOf ic))) ∧
    ic 17 = highByte (icCrc16X25 (List.ofFn (keyOf ic)))

instance (ic : Code) : Decidable (Valid ic) := inferInstanceAs (Decidable (_ ∧ _))

theorem keyOf_installCode (key : Key) : keyOf (installCode key) = key := by
  funext i
  simp [keyOf, installCode]

theorem valid_installCode (key : Key) : Valid (installCode key) := by
  rw [Valid, keyOf_installCode]
  exact ⟨rfl, rfl⟩

/-- The valid codes are the ones that the end device can print. -/
theorem valid_iff (ic : Code) : Valid ic ↔ installCode (keyOf ic) = ic := by
  constructor
  · rintro ⟨hl, hh⟩
    funext i
    by_cases hi : i.val < 16
    · simp only [installCode, hi, dif_pos, keyOf]
      rfl
    · have hi' : i = 16 ∨ i = 17 := by omega
      rcases hi' with rfl | rfl
      · exact hl.symm
      · exact hh.symm
  · intro h
    rw [← h]
    exact valid_installCode _

/-- `snprintk(&buf[off], size, ..)`: at most `size - 1` bytes of the output and
a NUL, over what the buffer holds there. -/
def snprintk (buf : Buffer) (off size : ℕ) (out : List UInt8) : Buffer :=
  buf.take off ++ (out.take (size - 1) ++ [0]) ++ buf.drop (off + (out.take (size - 1)).length + 1)

def ieeeStr (selfIeee : IeeeAddr) (uninit : Buffer) : Buffer :=
  snprintk uninit 0 17 (hexText (List.ofFn fun i : Fin 8 => selfIeee i.rev))

def icStr (ic : List UInt8) (uninit : Buffer) : Buffer :=
  ic.zipIdx.foldl (fun buf b => snprintk buf (b.2 * 2) 3 (hexPair b.1)) uninit

/-- The lines of `print_production_pairing_commands`, in order.  The two string
buffers start out with arbitrary contents, here NUL bytes. -/
def printProductionPairingCommands (selfIeee : IeeeAddr) (key : Key) : List (List UInt8) :=
  let ieee := cstr (ieeeStr selfIeee (List.replicate 17 0))
  let ic := cstr (icStr (List.ofFn (installCode key)) (List.replicate 37 0))
  [text "\n",
    text "╔══════════════════════════════════════════════════╗\n",
    text "║       PRODUCTION PAIRING — copy-paste commands  ║\n",
    text "╠══════════════════════════════════════════════════╣\n",
    text "║ Step 1 — Coordinator (/dev/ttyACM0):             ║\n",
    text "║   ic_add " ++ ieee ++ text " " ++ ic ++ text "  ║\n",
    text "║   expected reply: ic_add_success + steering_started\n",
    text "╠══════════════════════════════════════════════════╣\n",
    text "║ Step 2 — End Device (this terminal):             ║\n",
    text "║   ic_set " ++ ieee ++ text " " ++ ic ++ text "  ║\n",
    text "║   expected reply: ic_set_success                 ║\n",
    text "╠══════════════════════════════════════════════════╣\n",
    text "║ Step 3 — End Device (this terminal):             ║\n",
    text "║   join                                           ║\n",
    text "║   expected reply: join_started                   ║\n",
    text "╚══════════════════════════════════════════════════╝\n",
    text "\n"]

def operandText (selfIeee : IeeeAddr) (key : Key) : List UInt8 :=
  hexText (List.ofFn fun i : Fin 8 => selfIeee i.rev) ++ text " " ++
    hexText (List.ofFn (installCode key))

theorem cstr_ieeeStr (selfIeee : IeeeAddr) (uninit : Buffer) :
    cstr (ieeeStr selfIeee uninit) = hexText (List.ofFn fun i : Fin 8 => selfIeee i.rev) := by
  generalize hd : List.ofFn (fun i : Fin 8 => selfIeee i.rev) = digits
  have hlen : (hexText digits).length ≤ 17 - 1 := by simp [← hd]
  rw [ieeeStr, hd, snprintk, List.take_of_length_le hlen]
  simpa using cstr_append (zero_notMem_hexText digits) _

theorem icStr_eq (ic : List UInt8) (uninit : Buffer) :
    (icStr ic uninit).take (2 * ic.length) = hexText ic ∧
      (ic ≠ [] → ∃ stale, icStr ic uninit = hexText ic ++ 0 :: stale) := by
  induction ic using List.reverseRecOn with
  | nil => simp [icStr, hexText]
  | append_singleton ic b ih =>
    have hstep : icStr (ic ++ [b]) uninit =
        snprintk (icStr ic uninit) (ic.length * 2) 3 (hexPair b) := by
      simp [icStr, List.zipIdx_append]
    -- the last round overwrites the NUL of the round before
    have hfill : ∃ stale, icStr (ic ++ [b]) uninit = hexText (ic ++ [b]) ++ 0 :: stale := by
      refine ⟨(icStr ic uninit).drop (ic.length * 2 + 2 + 1), ?_⟩
      rw [hstep, snprintk, Nat.mul_comm, ih.1]
      simp [hexText, hexPair]
    refine ⟨?_, fun _ => hfill⟩
    obtain ⟨stale, hs⟩ := hfill
    rw [hs, List.take_append_of_le_length (by simp), List.take_of_length_le (by simp)]

theorem cstr_icStr (ic : List UInt8) (hne : ic ≠ []) (uninit : Buffer) :
    cstr (icStr ic uninit) = hexText ic := by
  obtain ⟨stale, hs⟩ := (icStr_eq ic uninit).2 hne
  rw [hs, cstr_append (zero_notMem_hexText ic)]

/-- Both printed commands carry the operand text. -/
theorem printed_commands (selfIeee : IeeeAddr) (key : Key) :
    text "║   ic_add " ++ operandText selfIeee key ++ text "  ║\n" ∈
        printProductionPairingCommands selfIeee key ∧
      text "║   ic_set " ++ operandText selfIeee key ++ text "  ║\n" ∈
        printProductionPairingCommands selfIeee key := by
  have hne : List.ofFn (installCode key) ≠ [] := by simp
  unfold printProductionPairingCommands
  rw [cstr_ieeeStr, cstr_icStr _ hne]
  simp only [operandText, List.append_assoc, List.mem_cons, true_or, or_true, and_self]

end ZigbeeGateway.InstallCode
